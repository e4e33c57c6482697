/-
How much work with blocks one line can ask for. A line dispatches its own text
and, one inside the other, the texts nested in it. It opens and closes frames on the
way, and the brace that closes a one-line block is dispatched as no text.

Main statement: in every session, whether calls lead to it or not, a line dispatches
at most one text more than it has braces, opens at most as many frames, and closes at
most as many as it has closing braces (`execLine_bounded`).

What a line may do is settled by its text alone (`Line.blockWork`). A run does that
work from its beginning, and all of it if it succeeds (`Run.Follows`); so it comes to
an end, and what it does is paid for by the braces of the text (`BlockWork.PaidBy`).
A nested text is paid for by those that it was cut out at, and the closing that has
no text by the brace at the end of its line.

Events only report the work. That the frames of the symbol table are opened and
closed as they say is a law of its own (`SymbolTable.Accounted`).
-/
import LineScript.Proofs.Construct.FirstWord
import LineScript.Proofs.Construct.Nested
import LineScript.Proofs.Session.Acts
import LineScript.Proofs.Symbols.Calls

namespace LineScript

/-! ## What a text asks for -/

/-- Something that a line does with texts and frames. -/
inductive BlockWork where
  /-- A text is dispatched. -/
  | dispatch
  /-- A frame is opened. -/
  | opening
  /-- A frame is closed. -/
  | closing
  deriving DecidableEq

/-- What an event reports of the work with texts and frames. -/
def Event.blockWork? : Event → Option BlockWork
  | .dispatched _ _ _ => some .dispatch
  | .opened _ _ => some .opening
  | .closed _ _ => some .closing
  | _ => none

/-- The work that some events report, in its order. -/
def BlockWork.reported (es : List Event) : List BlockWork :=
  es.filterMap Event.blockWork?

theorem BlockWork.reported_append (es es' : List Event) :
    reported (es ++ es') = reported es ++ reported es' :=
  List.filterMap_append

/-- What is done with frames for a construct. -/
def Construct.frameWork : Construct → List BlockWork
  | .block _ => [.opening]
  | .closeBrace => [.closing]
  | _ => []

/-- What an act does, if it succeeds. -/
def Act.blockWork (a : Act) : List BlockWork :=
  (if a.implied then [] else [.dispatch]) ++ a.construct?.elim [] Construct.frameWork

/-- What a line does with texts and frames, if it succeeds. -/
def Line.blockWork (line : Line) : List BlockWork :=
  line.acts.flatMap Act.blockWork

/-- A text has the braces that some work needs: one for each text that is dispatched
but the first, one for each frame that is opened but the first, and a closing one for
each frame that is closed. -/
structure BlockWork.PaidBy (ws : List BlockWork) (t : Text) : Prop where
  dispatches : ws.count .dispatch ≤ t.braces + 1
  openings : ws.count .opening ≤ t.braces + 1
  closings : ws.count .closing ≤ t.count '}'

namespace BlockWork.PaidBy

variable {ws ws' : List BlockWork} {t body : Text}

theorem of_sublist (h : PaidBy ws t) (hws : ws'.Sublist ws) : PaidBy ws' t where
  dispatches := (hws.count_le _).trans h.dispatches
  openings := (hws.count_le _).trans h.openings
  closings := (hws.count_le _).trans h.closings

theorem nothing (t : Text) : PaidBy [] t :=
  ⟨Nat.zero_le _, Nat.zero_le _, Nat.zero_le _⟩

theorem ownText (t : Text) : PaidBy [.dispatch] t :=
  ⟨Nat.le_add_left 1 _, Nat.zero_le _, Nat.zero_le _⟩

theorem header (t : Text) : PaidBy [.dispatch, .opening] t :=
  ⟨Nat.le_add_left 1 _, Nat.le_add_left 1 _, Nat.zero_le _⟩

/-- A one-line block has two braces more than its body: the opening one pays for the
text and the frame of the block, and the closing one for the closing. -/
theorem block (hb : t.inlineBody? = some body) (h : PaidBy ws body) :
    PaidBy (.dispatch :: .opening :: (ws ++ [.closing])) t := by
  obtain ⟨hopen, hclose⟩ := Text.count_inlineBody? hb
  obtain ⟨hdispatches, hopenings, hclosings⟩ := h
  rw [Text.braces] at hdispatches hopenings
  constructor <;> simp [Text.braces] <;> omega

/-- A line that starts by closing a block has one brace more than its rest. -/
theorem close (hbrace : '}' ∈ t) (h : PaidBy ws t.afterClose) :
    PaidBy (.dispatch :: .closing :: ws) t := by
  obtain ⟨hopen, hclose⟩ := Text.count_afterClose hbrace
  obtain ⟨hdispatches, hopenings, hclosings⟩ := h
  rw [Text.braces] at hdispatches hopenings
  constructor <;> simp [Text.braces] <;> omega

end BlockWork.PaidBy

/-- The work of a line is paid for by its braces: each text nested in it by those
that it was cut out at. -/
theorem Line.paidBy_blockWork (line : Line) : BlockWork.PaidBy line.blockWork line.text := by
  obtain ⟨number, text⟩ := line
  show BlockWork.PaidBy (((Statement.ofText text).acts number).flatMap Act.blockWork) text
  have hbrace {t : Text} (hc : Construct.ofLine? t = some .closeBrace) : '}' ∈ t :=
    Construct.keyword_subset hc (List.mem_singleton_self '}')
  fun_induction Statement.ofText text with
  -- the lines of a block without a body, with an empty one, and with a body
  | case5 t kind hc hb => exact .header t
  | case6 t kind hc hb => exact .block hb (.nothing [])
  | case7 t kind hc c body hb _ ih =>
    rw [Statement.acts, List.flatMap_cons, List.flatMap_append]
    exact .block hb ih
  -- a closing brace by itself, and one with a text behind it
  | case9 t hc ha => exact .close (hbrace hc) (.nothing _)
  | case10 t hc ha _ ih => exact .close (hbrace hc) ih
  | _ t => exact .ownText t

/-- No brace is spared where every one of them closes a block. -/
example : Line.blockWork ⟨1, "\x7d \x7d if a".toList⟩ =
    [.dispatch, .closing, .dispatch, .closing, .dispatch, .opening] := by
  decide +kernel

/-! ## What a run does of it -/

namespace Run

variable {σ α β : Type}

/-- The action does a plan from its beginning, and all of it if it succeeds. -/
def Follows (x : Run σ α) (plan : List BlockWork) : Prop :=
  ∀ s, BlockWork.reported (x s).events <+: plan ∧
    ∀ a, (x s).result = .ok a → BlockWork.reported (x s).events = plan

namespace Follows

variable {plan plan' : List BlockWork}

theorem pure (a : α) : (Pure.pure a : Run σ α).Follows [] :=
  fun _ => ⟨List.prefix_rfl, fun _ _ => rfl⟩

theorem session : (Run.session : Run σ (Session σ)).Follows [] :=
  fun _ => ⟨List.prefix_rfl, fun _ _ => rfl⟩

theorem modify (f : Session σ → Session σ) : (Run.modify f).Follows [] :=
  fun _ => ⟨List.prefix_rfl, fun _ _ => rfl⟩

theorem report (event : Event) :
    (Run.report event : Run σ Unit).Follows (BlockWork.reported [event]) :=
  fun _ => ⟨List.prefix_rfl, fun _ _ => rfl⟩

/-- An action that fails has begun with any plan. -/
theorem fail (failure : Failure) (plan : List BlockWork) :
    (Run.fail failure : Run σ α).Follows plan :=
  fun _ => ⟨List.nil_prefix, nofun⟩

theorem ofFault (line : Nat) (e : Except Fault α) : (Run.ofFault line e : Run σ α).Follows [] := by
  cases e with
  | error cause => exact fail _ []
  | ok a => exact pure a

theorem bind {x : Run σ α} {f : α → Run σ β} (hx : x.Follows plan)
    (hf : ∀ a, (f a).Follows plan') : (x >>= f).Follows (plan ++ plan') := by
  intro s
  obtain ⟨hfirst, hall⟩ := hx s
  rw [bind_apply]
  cases hresult : (x s).result with
  | error failure => exact ⟨hfirst.trans (List.prefix_append _ _), nofun⟩
  | ok a =>
    obtain ⟨hsecond, hall'⟩ := hf a (x s).session
    simp only [BlockWork.reported_append, hall a hresult]
    refine ⟨(List.prefix_append_right_inj plan).2 hsecond, fun b hb => ?_⟩
    rw [hall' b hb]

/-- The last step of an action may have nothing to do with texts and frames. -/
theorem bind_nothing {x : Run σ α} {f : α → Run σ β} (hx : x.Follows plan)
    (hf : ∀ a, (f a).Follows []) : (x >>= f).Follows plan := by
  have h := hx.bind hf
  rwa [List.append_nil] at h

end Follows

theorem takeUp_follows (a : Act) :
    (takeUp a : Run σ Unit).Follows (if a.implied then [] else [.dispatch]) := by
  rw [takeUp]
  split
  · exact .pure ()
  · exact Follows.session.bind fun _ => .report _

theorem skip_follows (line : Nat) (text : Text) : (skip line text : Run σ Unit).Follows [] := by
  refine Follows.session.bind fun s => ?_
  split
  · exact (Follows.fail _ []).bind fun _ => .report _
  · exact .report _

theorem openInnermost_follows (line : Nat) (kind : BlockKind) :
    (openInnermost line kind : Run σ Unit).Follows [.opening] :=
  Follows.session.bind fun _ => (Follows.modify _).bind fun _ => Follows.session.bind fun _ =>
    .report _

theorem closeInnermost_follows (line : Nat) :
    (closeInnermost line : Run σ Unit).Follows [.closing] := by
  intro s
  rcases closeInnermost_cases line s with
    ⟨cause, blocks, hfails⟩ | ⟨block, outer, frame, symbols, -, -, hcloses⟩
  · rw [hfails]
    exact ⟨List.nil_prefix, nofun⟩
  · rw [hcloses]
    exact ⟨List.prefix_rfl, fun _ _ => rfl⟩

theorem renderArgument_follows (line : Nat) (c : Construct) (text : Text) :
    (renderArgument line c text : Run σ Text).Follows [] :=
  Follows.session.bind fun _ => .ofFault line _

theorem work_follows (a : Act) :
    (work a : Run σ (Option Text)).Follows (a.construct?.elim [] Construct.frameWork) := by
  obtain ⟨line, c, text, implied⟩ := a
  rcases c with _ | _ | _ | _ | kind | _ | _
  case none => exact (skip_follows line text).bind fun _ => .pure none
  case some.binding =>
    refine (Follows.ofFault line _).bind fun read => ?_
    refine (Follows.report _).bind fun _ => Follows.session.bind fun _ => ?_
    exact (Follows.report _).bind fun _ => (Follows.modify _).bind fun _ => .pure none
  case some.print => exact (renderArgument_follows line _ text).bind fun _ => .pure _
  case some.puts => exact (renderArgument_follows line _ text).bind fun _ => .pure _
  case some.block => exact (openInnermost_follows line kind).bind_nothing fun _ => .pure none
  case some.openBrace => exact .pure none
  case some.closeBrace => exact (closeInnermost_follows line).bind_nothing fun _ => .pure none

variable [Sink σ]

theorem write_follows (t : Text) : (write t : Run σ Unit).Follows [] := by
  intro s
  rw [write]
  rcases Sink.write s.sink t with ⟨_ | reason, sink⟩ <;>
    exact ⟨List.prefix_rfl, fun _ _ => rfl⟩

theorem announce_follows (a : Act) : (announce a : Run σ Unit).Follows [] := by
  rw [announce]
  cases a.construct? with
  | none => exact .pure ()
  | some c =>
    refine Follows.session.bind fun s => ?_
    split
    · exact write_follows _
    · exact .pure ()

theorem writeOut_follows (written? : Option Text) : (writeOut written? : Run σ Unit).Follows [] := by
  cases written? with
  | none => exact .pure ()
  | some t => exact write_follows t

theorem act_follows (a : Act) : (act a : Run σ Unit).Follows a.blockWork :=
  (takeUp_follows a).bind fun _ => (announce_follows a).bind fun _ =>
    (work_follows a).bind_nothing writeOut_follows

theorem acts_follows (as : List Act) :
    (acts as : Run σ Unit).Follows (as.flatMap Act.blockWork) := by
  induction as with
  | nil => exact .pure ()
  | cons a rest ih => exact (act_follows a).bind fun _ => ih

/-- A line does the work that its text asks for. -/
theorem execLine_follows (line : Line) :
    (execLine line.number line.text : Run σ Unit).Follows line.blockWork := by
  rw [execLine, exec_eq_acts]
  exact acts_follows line.acts

end Run

/-! ## Frames -/

/-- How many there are of all kinds. -/
def Tally.total (t : Tally) : Nat :=
  t.ifBlocks + t.elifBlocks + t.elseBlocks + t.forBlocks

theorem Tally.total_increment (t : Tally) (kind : BlockKind) :
    (t.increment kind).total = t.total + 1 := by
  cases kind <;> simp only [increment, modify, total] <;> omega

namespace SymbolTable

theorem length_ids (t : SymbolTable) : t.ids.length = t.depth :=
  List.length_map _

/-- What became of the frames is what the work says: so many were opened and so
many closed, and of those that were open at first none was closed but the innermost
ones. -/
structure Accounted (t : SymbolTable) (ws : List BlockWork) (t' : SymbolTable) : Prop where
  depth : t'.depth + ws.count .closing = t.depth + ws.count .opening
  opened : t'.opened.total = t.opened.total + ws.count .opening
  kept : t.ids.drop (ws.count .closing) <:+ t'.ids

namespace Accounted

variable {t t' t'' : SymbolTable} {ws ws' : List BlockWork}

theorem unchanged (hids : t'.ids = t.ids) (hopened : t'.opened = t.opened)
    (hopening : ws.count .opening = 0) (hclosing : ws.count .closing = 0) :
    t.Accounted ws t' := by
  refine ⟨?_, ?_, ?_⟩
  · rw [hopening, hclosing, ← length_ids, ← length_ids, hids]
  · rw [hopening, hopened, Nat.add_zero]
  · have hdrop : t.ids.drop (ws.count .closing) = t'.ids := by
      rw [hclosing, hids, List.drop_zero]
    exact hdrop ▸ List.suffix_rfl

theorem trans (h : t.Accounted ws t') (h' : t'.Accounted ws' t'') :
    t.Accounted (ws ++ ws') t'' := by
  obtain ⟨hdepth, hopened, hkept⟩ := h
  obtain ⟨hdepth', hopened', hkept'⟩ := h'
  refine ⟨?_, ?_, ?_⟩ <;> rw [List.count_append]
  · rw [List.count_append]
    omega
  · omega
  · have hboth : (t.ids.drop (ws.count .closing)).drop (ws'.count .closing) <:+
        t'.ids.drop (ws'.count .closing) := by
      refine List.suffix_of_suffix_length_le ((List.drop_suffix _ _).trans hkept)
        (List.drop_suffix _ _) ?_
      rw [List.length_drop, List.length_drop (l := t'.ids)]
      exact Nat.sub_le_sub_right hkept.length_le _
    rw [← List.drop_drop]
    exact hboth.trans hkept'

theorem openFrame (t : SymbolTable) (kind : BlockKind) :
    t.Accounted [.opening] (t.openFrame kind) :=
  ⟨rfl, t.opened.total_increment kind, List.suffix_cons _ _⟩

theorem closeFrame {expected : FrameId} {frame : Frame}
    (h : t.closeFrame expected = .ok (frame, t')) : t.Accounted [.closing] t' := by
  have hgrants : t.grants (.closeFrame expected) = true := by
    rw [grants, h]
    rfl
  obtain ⟨innermost, outer, hframes, -, hafter⟩ := innermost_of_grants hgrants
  rw [after, h] at hafter
  obtain rfl : t' = { t with frames := outer } := hafter
  refine ⟨?_, rfl, ?_⟩
  · show outer.length + 1 = t.frames.length
    rw [hframes, List.length_cons]
  · show t.ids.drop 1 <:+ outer.map Frame.id
    rw [ids, hframes]
    exact List.suffix_rfl

end Accounted

end SymbolTable

/-- The frames of the session are accounted for by the events. -/
def accountsFrames {σ : Type} : Law σ := fun s es _ s' =>
  s.symbols.Accounted (BlockWork.reported es) s'.symbols

namespace accountsFrames

variable {σ : Type}

theorem of_eq {s s' : Session σ} {failure : Option Failure} (h : s'.symbols = s.symbols) :
    accountsFrames s [] failure s' :=
  .unchanged (congrArg _ h) (congrArg _ h) rfl rfl

theorem composes : Law.Composes (accountsFrames (σ := σ)) where
  nothing _ := of_eq rfl
  andThen h h' := by
    rw [accountsFrames, BlockWork.reported_append]
    exact h.trans h'

theorem report {event : Event} (h : event.isNote = true) :
    (Run.report event : Run σ Unit).Obeys accountsFrames := by
  intro s
  cases event with
  | opened id depth => cases h
  | closed id bindings => cases h
  | _ => exact SymbolTable.Accounted.unchanged rfl rfl rfl rfl

theorem bindName (name : Text) (value : Value) :
    (Run.modify fun s => { s with symbols := s.symbols.bind name value } :
      Run σ Unit).Obeys accountsFrames :=
  fun s =>
    .unchanged (s.symbols.map_id_bind name value) (s.symbols.opened_bind name value) rfl rfl

theorem closeInnermost (line : Nat) :
    (Run.closeInnermost line : Run σ Unit).Obeys accountsFrames := by
  intro s
  rcases Run.closeInnermost_cases line s with
    ⟨cause, blocks, hfails⟩ | ⟨block, outer, frame, symbols, -, hclose, hcloses⟩
  · rw [hfails]
    exact of_eq rfl
  · rw [hcloses]
    exact .closeFrame hclose

theorem atoms [Sink σ] : Law.Atoms (accountsFrames (σ := σ)) where
  toComposes := composes
  report _ h := report h
  fail _ _ _ _ := of_eq rfl
  write t s := by
    rw [Run.write]
    rcases Sink.write s.sink t with ⟨_ | reason, sink⟩ <;> exact of_eq rfl
  bindName := bindName
  openInnermost _ kind s := .openFrame s.symbols kind
  closeInnermost := closeInnermost

end accountsFrames

/-- **One line does a bounded amount of block work.** In every session, with every
sink, the line dispatches texts and opens and closes frames as its text says, from
the beginning, and to the end if it succeeds. If the text has `b` braces, it
dispatches at most `b + 1` texts, those nested in it included, opens at most `b + 1`
frames, and closes at most as many as it has closing braces. The frames of the
session are accounted for by what was done; so a line without a closing brace leaves
all of them open. -/
theorem execLine_bounded {σ : Type} [Sink σ] (line : Line) (s : Session σ) :
    let o := Run.execLine line.number line.text s
    let done := BlockWork.reported o.events
    (done <+: line.blockWork ∧ (o.result = .ok () → done = line.blockWork)) ∧
    (done.count .dispatch ≤ line.text.braces + 1 ∧
      done.count .opening ≤ line.text.braces + 1 ∧
      done.count .closing ≤ line.text.count '}') ∧
    s.symbols.Accounted done o.session.symbols ∧
    ('}' ∉ line.text → s.symbols.ids <:+ o.session.symbols.ids) := by
  intro o done
  obtain ⟨hbegun, hall⟩ := Run.execLine_follows line s
  have hpaid := line.paidBy_blockWork.of_sublist hbegun.sublist
  have haccounted : s.symbols.Accounted done o.session.symbols :=
    accountsFrames.atoms.steps.execLine line.number line.text s
  refine ⟨⟨hbegun, hall ()⟩, ⟨hpaid.dispatches, hpaid.openings, hpaid.closings⟩, haccounted, ?_⟩
  intro hbrace
  have hclosings := hpaid.closings
  rw [List.count_eq_zero.2 hbrace] at hclosings
  have hkept := haccounted.kept
  rwa [Nat.le_zero.1 hclosings] at hkept

end LineScript
