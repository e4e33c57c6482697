/-
Dry runs: acts that are done without writing anything. What a dry run does is
independent of the sink and of whether traces are asked for (`Run.dry_onto`), and
so are the deeds it consists of, each with the events it reports and the text
that it leaves to be written (`Run.deeds_onto`).

Dry runs compose as runs do, and so do their deeds.
-/
import LineScript.Proofs.Session.Acts
import Mathlib.Data.List.Infix

namespace LineScript

variable {σ τ α β : Type}

/-- The session with other options, on another sink. -/
def Session.onto (s : Session σ) (options : Options) (sink : τ) : Session τ :=
  { s with options, sink }

/-- The outcome with other options, on another sink. -/
def Outcome.onto (o : Outcome σ α) (options : Options) (sink : τ) : Outcome τ α :=
  ⟨o.result, o.session.onto options sink, o.events⟩

@[simp] theorem Session.onto_onto (s : Session σ) {ρ : Type} (options options' : Options) (sink : τ)
    (sink' : ρ) :
    (s.onto options sink).onto options' sink' = s.onto options' sink' :=
  rfl

@[simp] theorem Session.sink_onto (s : Session σ) (options : Options) (sink : τ) :
    (s.onto options sink).sink = sink :=
  rfl

@[simp] theorem Session.blocks_onto (s : Session σ) (options : Options) (sink : τ) :
    (s.onto options sink).blocks = s.blocks :=
  rfl

@[simp] theorem Session.options_onto (s : Session σ) (options : Options) (sink : τ) :
    (s.onto options sink).options = options :=
  rfl

/-! ## Deeds and what they leave to be written -/

/-- A text that is written in one go. -/
inductive Chunk where
  /-- The trace line of a construct and the text it was read from. -/
  | trace (c : Construct) (text : Text)
  | output (t : Text)
  deriving DecidableEq

namespace Chunk

def text : Chunk → Text
  | trace c text => traceLine c text
  | output t => t

def isOutput : Chunk → Bool
  | trace _ _ => false
  | output _ => true

/-- The texts of some chunks, those of trace lines only if traces are asked
for. -/
def shown (trace : Bool) (chunks : List Chunk) : List Text :=
  (chunks.filter fun chunk => trace || chunk.isOutput).map text

theorem shown_append (trace : Bool) (chunks chunks' : List Chunk) :
    shown trace (chunks ++ chunks') = shown trace chunks ++ shown trace chunks' := by
  simp [shown]

end Chunk

/-- The trace line of an act; text without a construct has none. -/
def Act.announcement (a : Act) : List Chunk :=
  match a.construct? with
  | none => []
  | some c => [.trace c a.text]

/-- An act that was done, with what it reported and the text that it left to be
written. -/
structure Deed where
  act : Act
  events : List Event
  written? : Option Text
  deriving DecidableEq

/-- What a deed has to write, its trace line first. -/
def Deed.chunks (d : Deed) : List Chunk :=
  d.act.announcement ++ d.written?.toList.map .output

namespace Run

/-- The act as it is done in a session. -/
def deed (a : Act) (s : Session σ) : Deed where
  act := a
  events := (perform a s).events
  written? := (perform a s).result.toOption.join

/-- Acts that are done one after the other without writing anything. -/
def dry : List Act → Run σ Unit
  | [] => pure ()
  | a :: rest => do
    let _ ← perform a
    dry rest

/-- The acts that are done from a session on, up to the first that fails, that
one included. -/
def deeds : List Act → Session σ → List Deed
  | [], _ => []
  | a :: rest, s =>
    deed a s ::
      match (perform a s).result with
      | .error _ => []
      | .ok _ => deeds rest (perform a s).session

variable {a : Act} {s : Session σ}

/-! ## Dry runs and the sink -/

theorem takeUp_apply (a : Act) (s : Session σ) : takeUp a s = ⟨.ok (), s, (takeUp a s).events⟩ := by
  rw [takeUp]
  split <;> rfl

theorem perform_apply (a : Act) (s : Session σ) :
    perform a s =
      ⟨(work a s).result, (work a s).session, (takeUp a s).events ++ (work a s).events⟩ := by
  rw [perform, bind_apply, takeUp_apply]

theorem bind_onto {x : Run σ α} {x' : Run τ α} {f : α → Run σ β} {f' : α → Run τ β}
    {options : Options} {sink : τ} (hx : x' (s.onto options sink) = (x s).onto options sink)
    (hf : ∀ a, f' a ((x s).session.onto options sink) = (f a (x s).session).onto options sink) :
    (x' >>= f') (s.onto options sink) = ((x >>= f) s).onto options sink := by
  rw [bind_apply, bind_apply, hx]
  cases hresult : (x s).result with
  | error failure => simp [Outcome.onto, hresult]
  | ok a => simp [Outcome.onto, hresult, hf a]

theorem ofFault_onto (line : Nat) (e : Except Fault α) (s : Session σ) (options : Options)
    (sink : τ) : ofFault line e (s.onto options sink) = (ofFault line e s).onto options sink := by
  cases e <;> rfl

theorem renderArgument_onto (line : Nat) (c : Construct) (text : Text) (s : Session σ)
    (options : Options) (sink : τ) :
    renderArgument line c text (s.onto options sink) =
      (renderArgument line c text s).onto options sink :=
  ofFault_onto line _ s options sink

theorem closeInnermost_onto (line : Nat) (s : Session σ) (options : Options) (sink : τ) :
    closeInnermost line (s.onto options sink) = (closeInnermost line s).onto options sink := by
  obtain ⟨options', symbols, blocks, counts, sink'⟩ := s
  cases blocks with
  | nil => rfl
  | cons block outer =>
    simp only [closeInnermost, Session.onto, session_bind_apply, modify_bind_apply]
    cases symbols.closeFrame block.frame <;> rfl

theorem skip_onto (line : Nat) (text : Text) {options : Options}
    (h : options.strict = s.options.strict) (sink : τ) :
    skip line text (s.onto options sink) = (skip line text s).onto options sink := by
  simp only [skip, session_bind_apply, Session.options_onto, h]
  split <;> rfl

/-- Whether unknown lines are refused makes no difference but to them. -/
theorem work_onto {options : Options}
    (h : a.construct? = none → options.strict = s.options.strict) (sink : τ) :
    work a (s.onto options sink) = (work a s).onto options sink := by
  obtain ⟨line, c, text, implied⟩ := a
  rcases c with _ | _ | _ | _ | kind | _ | _
  case none => exact bind_onto (skip_onto line text (h rfl) sink) fun _ => rfl
  case some.binding => exact bind_onto (ofFault_onto _ _ _ _ _) fun _ => rfl
  case some.print => exact bind_onto (renderArgument_onto _ _ _ _ _ _) fun _ => rfl
  case some.puts => exact bind_onto (renderArgument_onto _ _ _ _ _ _) fun _ => rfl
  case some.block => rfl
  case some.openBrace => rfl
  case some.closeBrace => exact bind_onto (closeInnermost_onto _ _ _ _) fun _ => rfl

theorem takeUp_onto (a : Act) (s : Session σ) (options : Options) (sink : τ) :
    takeUp a (s.onto options sink) = (takeUp a s).onto options sink := by
  rw [takeUp, takeUp]
  split <;> rfl

theorem perform_onto {options : Options}
    (h : a.construct? = none → options.strict = s.options.strict) (sink : τ) :
    perform a (s.onto options sink) = (perform a s).onto options sink := by
  refine bind_onto (takeUp_onto a s options sink) fun _ => ?_
  rw [takeUp_apply]
  exact work_onto h sink

/-- What does not depend on the options leaves them alone. -/
theorem options_of_onto {x : Run σ α}
    (h : x (s.onto s.options s.sink) = (x s).onto s.options s.sink) :
    (x s).session.options = s.options :=
  congrArg (fun o => o.session.options) h

theorem options_work (a : Act) (s : Session σ) : (work a s).session.options = s.options :=
  options_of_onto (work_onto (fun _ => rfl) s.sink)

theorem options_perform (a : Act) (s : Session σ) : (perform a s).session.options = s.options :=
  options_of_onto (perform_onto (fun _ => rfl) s.sink)

theorem deed_onto {options : Options}
    (h : a.construct? = none → options.strict = s.options.strict) (sink : τ) :
    deed a (s.onto options sink) = deed a s := by
  simp only [deed, perform_onto h sink]
  rfl

theorem dry_onto {as : List Act} {options : Options}
    (h : ∀ a ∈ as, a.construct? = none → options.strict = s.options.strict) (sink : τ) :
    dry as (s.onto options sink) = (dry as s).onto options sink := by
  induction as generalizing s with
  | nil => rfl
  | cons a rest ih =>
    obtain ⟨hfirst, hrest⟩ := List.forall_mem_cons.1 h
    refine bind_onto (perform_onto hfirst sink) fun _ => ih ?_
    rw [options_perform]
    exact hrest

theorem options_dry (as : List Act) (s : Session σ) : (dry as s).session.options = s.options :=
  options_of_onto (dry_onto (fun _ _ _ => rfl) s.sink)

theorem deeds_onto {as : List Act} {options : Options}
    (h : ∀ a ∈ as, a.construct? = none → options.strict = s.options.strict) (sink : τ) :
    deeds as (s.onto options sink) = deeds as s := by
  induction as generalizing s with
  | nil => rfl
  | cons a rest ih =>
    obtain ⟨hfirst, hrest⟩ := List.forall_mem_cons.1 h
    rw [deeds, deeds, deed_onto hfirst sink, perform_onto hfirst sink]
    congr 1
    show (match (perform a s).result with | .error _ => _ | .ok _ => _) = _
    cases (perform a s).result with
    | error failure => rfl
    | ok written? =>
      refine ih ?_
      rw [options_perform]
      exact hrest

/-! ## What can go wrong -/

theorem closeInnermost_fault {line : Nat} {failure : Failure}
    (h : (closeInnermost line s).result = .error failure) :
    ∃ cause, failure = .fault line (.scope cause) := by
  rcases closeInnermost_cases line s with
    ⟨cause, blocks, hfails⟩ | ⟨block, outer, frame, symbols, -, -, hcloses⟩
  · rw [hfails] at h
    exact ⟨cause, (Except.error.inj h).symm⟩
  · rw [hcloses] at h
    cases h

theorem skip_fault {line : Nat} {text : Text} {failure : Failure}
    (h : (skip line text s).result = .error failure) :
    failure = .fault line (.unknownConstruct (text.firstWord?.getD [])) := by
  rw [skip, session_bind_apply] at h
  split at h
  · exact (Except.error.inj h).symm
  · cases h

/-- An act fails on its line, and for want of a construct only if it has none. -/
theorem work_fault {failure : Failure} (h : (work a s).result = .error failure) :
    ∃ cause, failure = .fault a.line cause ∧
      ∀ word, cause = .unknownConstruct word → a.construct? = none := by
  obtain ⟨line, c, text, implied⟩ := a
  have hrender : ∀ c, (renderArgument line c text s).result = .error failure →
      ∃ cause, failure = .fault line cause ∧ ∀ word, cause ≠ .unknownConstruct word := by
    intro c h
    obtain ⟨cause, hrender, rfl⟩ := error_of_ofFault h
    rcases render_fault hrender with ⟨literal, why, rfl⟩ | ⟨why, rfl⟩ <;> exact ⟨_, rfl, nofun⟩
  rcases c with _ | _ | _ | _ | kind | _ | _
  case none =>
    rcases error_of_bind h with h | ⟨-, -, h⟩
    · exact ⟨_, skip_fault h, fun _ _ => rfl⟩
    · cases h
  case some.binding =>
    rcases error_of_bind h with h | ⟨read, -, h⟩
    · obtain ⟨cause, hread, rfl⟩ := error_of_ofFault h
      rcases readBinding_fault hread with rfl | ⟨literal, why, rfl⟩ <;> exact ⟨_, rfl, nofun⟩
    · cases h
  case some.print =>
    rcases error_of_bind h with h | ⟨rendered, -, h⟩
    · obtain ⟨cause, rfl, hcause⟩ := hrender _ h
      exact ⟨cause, rfl, fun word hword => absurd hword (hcause word)⟩
    · cases h
  case some.puts =>
    rcases error_of_bind h with h | ⟨rendered, -, h⟩
    · obtain ⟨cause, rfl, hcause⟩ := hrender _ h
      exact ⟨cause, rfl, fun word hword => absurd hword (hcause word)⟩
    · cases h
  case some.block => cases h
  case some.openBrace => cases h
  case some.closeBrace =>
    rcases error_of_bind h with h | ⟨-, -, h⟩
    · obtain ⟨cause, rfl⟩ := closeInnermost_fault h
      exact ⟨_, rfl, nofun⟩
    · cases h

theorem perform_fault {failure : Failure} (h : (perform a s).result = .error failure) :
    ∃ cause, failure = .fault a.line cause ∧
      ∀ word, cause = .unknownConstruct word → a.construct? = none :=
  work_fault (by rwa [perform_apply] at h)

/-! ## Acts in a row -/

theorem dry_append (as as' : List Act) :
    (dry (as ++ as') : Run σ Unit) = dry as >>= fun _ => dry as' := by
  induction as with
  | nil => rfl
  | cons a rest ih => simp only [List.cons_append, dry, ih, bind_assoc]

/-- The deeds of a failed run have none behind them. -/
theorem deeds_append (as as' : List Act) (s : Session σ) :
    deeds (as ++ as') s =
      deeds as s ++ (dry as s).result.toOption.elim [] fun _ => deeds as' (dry as s).session := by
  induction as generalizing s with
  | nil => rfl
  | cons a rest ih =>
    rw [List.cons_append, deeds, deeds, dry, bind_apply]
    cases (perform a s).result with
    | error failure => rfl
    | ok written? => simp only [List.cons_append, ih]

/-- Behind a failure nothing is done. -/
theorem dry_append_error {as : List Act} {failure : Failure}
    (h : (dry as s).result = .error failure) (as' : List Act) :
    dry (as ++ as') s = dry as s ∧ deeds (as ++ as') s = deeds as s := by
  refine ⟨?_, ?_⟩
  · rw [dry_append, bind_apply_error h, ← h]
  · rw [deeds_append, h]
    exact List.append_nil _

theorem dry_append_ok {as : List Act} (h : (dry as s).result = .ok ()) (as' : List Act) :
    (dry (as ++ as') s).result = (dry as' (dry as s).session).result ∧
      deeds (as ++ as') s = deeds as s ++ deeds as' (dry as s).session := by
  refine ⟨?_, ?_⟩
  · rw [dry_append, bind_apply_ok h]
  · rw [deeds_append, h]
    rfl

theorem dry_ok_of_append {as as' : List Act} (h : (dry (as ++ as') s).result = .ok ()) :
    (dry as s).result = .ok () := by
  cases hresult : (dry as s).result with
  | error failure =>
    rw [(dry_append_error hresult as').1, hresult] at h
    cases h
  | ok done => rfl

/-- A run fails at an act, whatever acts there are behind it. -/
theorem dry_concat_error {before : List Act} {failure : Failure}
    (hbefore : (dry before s).result = .ok ())
    (ha : (perform a (dry before s).session).result = .error failure) :
    (dry (before ++ [a]) s).result = .error failure := by
  rw [(dry_append_ok hbefore [a]).1, dry, bind_apply_error ha]

theorem deeds_singleton (a : Act) (s : Session σ) : deeds [a] s = [deed a s] := by
  rw [deeds]
  cases (perform a s).result <;> rfl

/-- A dry run that fails does so at one of its acts, those before it being
done. -/
theorem dry_error {as : List Act} {failure : Failure} (h : (dry as s).result = .error failure) :
    ∃ before a after, as = before ++ a :: after ∧ (dry before s).result = .ok () ∧
      (perform a (dry before s).session).result = .error failure ∧
      deeds as s = deeds before s ++ [deed a (dry before s).session] := by
  induction as generalizing s with
  | nil => cases h
  | cons a rest ih =>
    rcases error_of_bind h with hfirst | ⟨written?, hfirst, hrest⟩
    · exact ⟨[], a, rest, rfl, rfl, hfirst, by simp [deeds, hfirst, dry]⟩
    · obtain ⟨before, b, after, rfl, hbefore, hb, hdeeds⟩ := ih hrest
      have hdry : dry (a :: before) s = _ := bind_apply_ok hfirst
      refine ⟨a :: before, b, after, rfl, ?_⟩
      rw [hdry]
      exact ⟨hbefore, hb, by simp [deeds, hfirst, hdeeds]⟩

/-- What a dry run reports is what its deeds report. -/
theorem events_dry (as : List Act) (s : Session σ) :
    (dry as s).events = (deeds as s).flatMap Deed.events := by
  induction as generalizing s with
  | nil => rfl
  | cons a rest ih =>
    rw [dry, bind_apply, deeds]
    cases (perform a s).result with
    | error failure => simp [deed]
    | ok written? => simp [deed, ih]

/-- The deeds are the acts in their order, up to one that fails. -/
theorem acts_of_deeds (as : List Act) (s : Session σ) :
    (deeds as s).map Deed.act <+: as ∧
      ((dry as s).result = .ok () → (deeds as s).map Deed.act = as) := by
  induction as generalizing s with
  | nil => exact ⟨List.prefix_rfl, fun _ => rfl⟩
  | cons a rest ih =>
    rw [dry, bind_apply, deeds]
    cases (perform a s).result with
    | error failure => exact ⟨by simp [deed], nofun⟩
    | ok written? =>
      obtain ⟨hinitial, hall⟩ := ih (perform a s).session
      refine ⟨by simpa [deed] using hinitial, fun hok => ?_⟩
      simpa [deed] using hall hok

/-! ## Whole sources -/

/-- Checks that no block is open. -/
def checkClosed : Run σ Unit := do
  match (← session).blocks with
  | block :: _ => fail (.fault block.line (.scope (.unclosed block.frame)))
  | [] => pure ()

theorem checkClosed_fault {s : Session σ} {failure : Failure}
    (h : (checkClosed s).result = .error failure) :
    ∃ line frame, failure = .fault line (.scope (.unclosed frame)) := by
  rw [checkClosed, session_bind_apply] at h
  cases hblocks : s.blocks with
  | nil =>
    rw [hblocks] at h
    cases h
  | cons block outer =>
    rw [hblocks] at h
    exact ⟨_, _, (Except.error.inj h).symm⟩

theorem checkClosed_onto (s : Session σ) (options : Options) (sink : τ) :
    checkClosed (s.onto options sink) = (checkClosed s).onto options sink := by
  rw [checkClosed, checkClosed, session_bind_apply, session_bind_apply, Session.blocks_onto]
  cases s.blocks <;> rfl

end Run

/-- Where a dry run starts; it has no sink. -/
def Session.dryStart (strict : Bool) : Session Unit :=
  .start ⟨false, strict⟩ ()

namespace Source

/-- What executing a source comes to, its output apart. -/
def dryRun (source : Text) (strict : Bool) : Outcome Unit Unit :=
  match lines source with
  | .error cause => Run.fail (.quotes cause) (.dryStart strict)
  | .ok ls =>
    (do
      Run.report (.sourceRead ls.length)
      Run.dry (ls.flatMap Line.acts)
      Run.checkClosed) (.dryStart strict)

/-- The deeds that executing a source consists of. -/
def deeds (source : Text) (strict : Bool) : List Deed :=
  Run.deeds (acts source) (.dryStart strict)

/-- What executing a source has to write, with trace lines. -/
def chunks (source : Text) (strict : Bool) : List Chunk :=
  (deeds source strict).flatMap Deed.chunks

variable {source : Text}

theorem deeds_of_lines {ls : List Line} (h : lines source = .ok ls) (strict : Bool) :
    deeds source strict = Run.deeds (ls.flatMap Line.acts) (.dryStart strict) := by
  rw [deeds, acts, h]

theorem deeds_of_refused {cause : UnbalancedQuotes} (h : lines source = .error cause)
    (strict : Bool) : deeds source strict = [] := by
  rw [deeds, acts, h]
  rfl

theorem dryRun_of_lines {ls : List Line} (h : lines source = .ok ls) (strict : Bool) :
    dryRun source strict =
      let o := (Run.dry (ls.flatMap Line.acts) >>= fun _ => Run.checkClosed) (.dryStart strict)
      { o with events := .sourceRead ls.length :: o.events } := by
  rw [dryRun, h]
  rfl

theorem dryRun_of_refused {cause : UnbalancedQuotes} (h : lines source = .error cause)
    (strict : Bool) : dryRun source strict = ⟨.error (.quotes cause), .dryStart strict, []⟩ := by
  rw [dryRun, h]
  rfl

/-- What is reported of the reading of a source. -/
def readEvents (source : Text) : List Event :=
  match lines source with
  | .error _ => []
  | .ok ls => [.sourceRead ls.length]

/-- Everything that is reported is reported of the reading or of some deed. -/
theorem events_dryRun (source : Text) (strict : Bool) :
    (dryRun source strict).events =
      readEvents source ++ (deeds source strict).flatMap Deed.events := by
  cases hlines : lines source with
  | error cause =>
    rw [dryRun_of_refused hlines, deeds_of_refused hlines, readEvents, hlines]
    rfl
  | ok ls =>
    have hclosed : ∀ s : Session Unit, (Run.checkClosed s).events = [] := by
      intro s
      rw [Run.checkClosed, Run.session_bind_apply]
      cases s.blocks <;> rfl
    rw [dryRun_of_lines hlines, deeds_of_lines hlines, readEvents, hlines, ← Run.events_dry,
      Run.bind_apply]
    cases (Run.dry (ls.flatMap Line.acts) (.dryStart strict)).result with
    | error failure => rfl
    | ok done => simp [hclosed]

/-- The deeds are acts of the source, in their order, and all of them where
nothing fails. -/
theorem acts_of_deeds (source : Text) (strict : Bool) :
    (deeds source strict).map Deed.act <+: acts source ∧
      ((dryRun source strict).result = .ok () →
        (deeds source strict).map Deed.act = acts source) := by
  obtain ⟨hinitial, hall⟩ := Run.acts_of_deeds (acts source) (.dryStart strict)
  refine ⟨hinitial, fun hok => ?_⟩
  cases hlines : lines source with
  | error cause =>
    rw [dryRun_of_refused hlines] at hok
    cases hok
  | ok ls =>
    rw [dryRun_of_lines hlines, Run.bind_apply] at hok
    refine hall ?_
    rw [acts, hlines]
    cases hresult : (Run.dry (ls.flatMap Line.acts) (.dryStart strict)).result with
    | error failure => simp [hresult] at hok
    | ok done => rfl

end Source

end LineScript
