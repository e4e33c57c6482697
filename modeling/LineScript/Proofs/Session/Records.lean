/-
The records of the open blocks: the list of blocks, the frames of the symbol
table and the count for each kind say the same thing three times
(`Session.Consistent`), after any calls on a session and also after calls that
failed (`reachable_records`).

Opening and closing each change all three records, and between the changes they
disagree; both are therefore taken as one step (`openBlock_law`,
`closeInnermost_law`). A closing pops the list of blocks before the symbol
table is asked, so that it is the agreement itself which tells that the table
will not refuse. Every other step leaves the records alone.

Counts go down by a subtraction that stops at zero. That it never has to stop
is said by replaying the openings and closings of a call with a subtraction
that is stuck there (`Tally.replay?`): the replay gives the counts.
-/
import LineScript.Proofs.Session.Call
import LineScript.Proofs.Symbols.Calls

namespace LineScript

namespace Tally

/-- Counts an opening or a closing; a closing needs something to take off. -/
def count? (t : Tally) : Event → Option Tally
  | .opened frame _ => some (t.increment frame.kind)
  | .closed frame _ => if t.get frame.kind = 0 then none else some (t.decrement frame.kind)
  | _ => some t

/-- Counts the openings and closings among some events. -/
def replay? (t : Tally) (es : List Event) : Option Tally :=
  es.foldlM count? t

theorem replay?_append (t : Tally) (es es' : List Event) :
    t.replay? (es ++ es') = (t.replay? es).bind fun t' => t'.replay? es' := by
  simp [replay?, List.foldlM_append]

end Tally

/-- How many of some blocks are of a kind. -/
def OpenBlock.countKind (kind : BlockKind) (blocks : List OpenBlock) : Nat :=
  blocks.countP fun block => block.frame.kind = kind

theorem OpenBlock.countKind_cons (kind : BlockKind) (block : OpenBlock)
    (outer : List OpenBlock) :
    countKind kind (block :: outer) =
      countKind kind outer + if block.frame.kind = kind then 1 else 0 := by
  simp [countKind, List.countP_cons]

/-- The three records of the open blocks agree, and the scopes list their names
in order. -/
structure Session.Consistent {σ : Type} (s : Session σ) : Prop where
  frames : s.symbols.frames.map Frame.id = s.blocks.map OpenBlock.frame
  counts : ∀ kind, s.counts.get kind = OpenBlock.countKind kind s.blocks
  sorted : s.symbols.Sorted

namespace Session.Consistent

variable {σ : Type} {s : Session σ}

theorem start (options : Options) (sink : σ) : (Session.start options sink).Consistent :=
  ⟨rfl, fun kind => by simp [Session.start, OpenBlock.countKind], SymbolTable.Sorted.empty⟩

/-- The innermost block has the innermost frame, and it is counted. -/
theorem innermost {block : OpenBlock} {outer : List OpenBlock} (h : s.Consistent)
    (hb : s.blocks = block :: outer) :
    ∃ frame frames, s.symbols.frames = frame :: frames ∧ frame.id = block.frame ∧
      s.counts.get block.frame.kind ≠ 0 := by
  have hframes := h.frames
  rw [hb, List.map_cons] at hframes
  obtain ⟨frame, frames, hf, hid, -⟩ := List.map_eq_cons_iff.1 hframes
  refine ⟨frame, frames, hf, hid, ?_⟩
  rw [h.counts, hb, OpenBlock.countKind_cons, if_pos rfl]
  exact Nat.succ_ne_zero _

end Session.Consistent

namespace Records

variable {σ : Type}

/-- A violation of the nesting that a program can be guilty of. The others would
be the session's own fault. -/
def Blameless (failure : Failure) : Prop :=
  ∀ line cause, failure = .fault line (.scope cause) →
    cause = .unmatchedClose ∨ ∃ frame, cause = .unclosed frame

/-- From agreement to agreement, with every count accounted for. -/
def law : Law σ := fun s es failure s' =>
  s.Consistent → s'.Consistent ∧ s.counts.replay? es = some s'.counts ∧
    ∀ f, failure = some f → Blameless f

theorem composes : Law.Composes (law (σ := σ)) where
  nothing := fun s h => ⟨h, rfl, by simp⟩
  andThen := by
    intro s es s' es' failure s'' h₁ h₂ hs
    obtain ⟨hs', hes, -⟩ := h₁ hs
    obtain ⟨hs'', hes', hf⟩ := h₂ hs'
    refine ⟨hs'', ?_, hf⟩
    rw [Tally.replay?_append, hes, Option.bind_some, hes']

/-- A session whose records are the same is as consistent. -/
theorem law_of_same {s s' : Session σ} {failure : Option Failure}
    (hb : s'.blocks = s.blocks) (hc : s'.counts = s.counts) (ht : s'.symbols = s.symbols)
    (hf : ∀ f, failure = some f → Blameless f) : law s [] failure s' := by
  intro h
  refine ⟨⟨?_, ?_, ?_⟩, ?_, hf⟩
  · rw [ht, hb]; exact h.frames
  · rw [hc, hb]; exact h.counts
  · rw [ht]; exact h.sorted
  · rw [hc]; rfl

theorem sinkAnswer_law (s : Session σ) (answer : Option String × σ) :
    law s (Run.sinkAnswer s answer).events (Run.sinkAnswer s answer).failure?
      (Run.sinkAnswer s answer).session := by
  rcases answer with ⟨_ | reason, sink⟩
  · exact law_of_same rfl rfl rfl (by simp [Run.sinkAnswer, Outcome.failure?])
  · refine law_of_same rfl rfl rfl fun f hf => ?_
    obtain rfl : Failure.write reason = f := by
      simpa [Run.sinkAnswer, Outcome.failure?] using hf
    simp [Blameless]

theorem fail_law {failure : Failure} (h : Blameless failure) :
    (Run.fail failure : Run σ Unit).Obeys law := by
  intro s
  refine law_of_same rfl rfl rfl fun f hf => ?_
  obtain rfl : failure = f := by simpa [Run.fail, Outcome.failure?] using hf
  exact h

theorem report_law {event : Event} (h : event.isNote = true) :
    (Run.report event : Run σ Unit).Obeys law := by
  intro s hs
  refine ⟨hs, ?_, by simp [Run.report, Outcome.failure?]⟩
  cases event <;> first | rfl | cases h

theorem bindName_law (name : Text) (value : Value) :
    (Run.modify fun s : Session σ => { s with symbols := s.symbols.bind name value }).Obeys
      law := by
  intro s hs
  refine ⟨⟨?_, hs.counts, hs.sorted.bind name value⟩, rfl, by simp [Run.modify, Outcome.failure?]⟩
  exact (s.symbols.map_id_bind name value).trans hs.frames

/-! ## Opening and closing -/

theorem openInnermost_law (line : Nat) (kind : BlockKind) :
    (Run.openInnermost line kind : Run σ Unit).Obeys law := by
  intro s hs
  refine ⟨⟨?_, fun kind' => ?_, hs.sorted.openFrame kind⟩, rfl,
    by simp [Run.openInnermost, Run.report, Outcome.failure?]⟩
  · show s.symbols.nextId kind :: s.symbols.frames.map Frame.id =
      s.symbols.nextId kind :: s.blocks.map OpenBlock.frame
    rw [hs.frames]
  · show (s.counts.increment kind).get kind' =
      OpenBlock.countKind kind' (⟨s.symbols.nextId kind, line⟩ :: s.blocks)
    rw [Tally.get_increment, OpenBlock.countKind_cons, hs.counts]
    rfl

/-- What closing the innermost block comes to, when the records agree. -/
theorem closeInnermost_apply {s : Session σ} {block : OpenBlock} {outer : List OpenBlock}
    {frame : Frame} {frames : List Frame} (line : Nat) (hb : s.blocks = block :: outer)
    (hf : s.symbols.frames = frame :: frames) (hid : frame.id = block.frame) :
    Run.closeInnermost line s =
      ⟨.ok (), { s with
        blocks := outer
        symbols := { s.symbols with frames }
        counts := s.counts.decrement block.frame.kind },
        [.closed frame.id frame.scope.size]⟩ := by
  have hclose : s.symbols.closeFrame block.frame = .ok (frame, { s.symbols with frames }) := by
    rw [SymbolTable.closeFrame, hf]
    exact if_pos hid
  rw [Run.closeInnermost, Run.session_bind_apply, hb]
  simp only [Run.modify_bind_apply, Run.session_bind_apply, hclose]
  rfl

theorem closeInnermost_law (line : Nat) : (Run.closeInnermost line : Run σ Unit).Obeys law := by
  intro s
  cases hb : s.blocks with
  | nil =>
    have hfail : (Run.closeInnermost line : Run σ Unit) s =
        Run.fail (.fault line (.scope .unmatchedClose)) s := by
      rw [Run.closeInnermost, Run.session_bind_apply, hb]
    rw [hfail]
    exact fail_law (by simp [Blameless]) s
  | cons block outer =>
    intro hs
    obtain ⟨frame, frames, hf, hid, hcount⟩ := hs.innermost hb
    rw [closeInnermost_apply line hb hf hid]
    refine ⟨⟨?_, fun kind => ?_, hs.sorted.outer hf⟩, ?_, by simp [Outcome.failure?]⟩
    · have hframes := hs.frames
      rw [hf, hb] at hframes
      exact (List.cons.inj hframes).2
    · show (s.counts.decrement block.frame.kind).get kind = OpenBlock.countKind kind outer
      rw [Tally.get_decrement, hs.counts, hb, OpenBlock.countKind_cons, Nat.add_sub_cancel]
    · simp [Tally.replay?, Tally.count?, hid, hcount]

variable [Sink σ]

theorem atoms : Law.Atoms (law (σ := σ)) where
  toComposes := composes
  report _ h := report_law h
  fail _ _ h := fail_law fun _ c heq => absurd (Failure.fault.inj heq).2 (h c)
  write _ s := sinkAnswer_law s _
  bindName := bindName_law
  openInnermost := openInnermost_law
  closeInnermost := closeInnermost_law

theorem finish_law : (Run.finish : Run σ Unit).Obeys law := by
  refine composes.bind composes.session fun s => ?_
  split
  · exact fail_law (by simp [Blameless])
  · exact fun s' => sinkAnswer_law s' _

/-! ## The end of a run -/

theorem blocks_of_finish {s : Session σ} (h : (Run.finish s).result = .ok ()) :
    (Run.finish s).session.blocks = [] := by
  cases hb : s.blocks with
  | nil =>
    have hflush : Run.finish s = Run.flush s := by
      rw [Run.finish, Run.session_bind_apply, hb]
    rw [hflush, Run.flush]
    rcases Sink.flush s.sink with ⟨_ | reason, sink⟩ <;> exact hb
  | cons block outer =>
    rw [Run.finish, Run.session_bind_apply, hb] at h
    cases h

theorem blocks_of_runLines {lines : List Line} {s : Session σ}
    (h : (Run.runLines lines s).result = .ok ()) :
    (Run.runLines lines s).session.blocks = [] := by
  rw [Run.runLines, Run.bind_apply] at h ⊢
  split at h
  · cases h
  · exact blocks_of_finish h

end Records

/-- Nothing is left of any block: what is visible are the global bindings,
which stand sorted by name. -/
structure Session.Closed {σ : Type} (s : Session σ) : Prop where
  blocks : s.blocks = []
  frames : s.symbols.frames = []
  counts : ∀ kind, s.counts.get kind = 0
  visible : s.symbols.visible.bindings = s.symbols.globals.bindings
  sorted : (s.symbols.globals.bindings.map Prod.fst).Pairwise (· < ·)

theorem Session.Consistent.closed {σ : Type} {s : Session σ} (h : s.Consistent)
    (hb : s.blocks = []) : s.Closed where
  blocks := hb
  frames := by
    have hframes := h.frames
    rw [hb] at hframes
    exact List.map_eq_nil_iff.1 hframes
  counts kind := by
    rw [h.counts, hb]
    rfl
  visible := by
    have hframes := h.frames
    rw [hb] at hframes
    rw [SymbolTable.visible_of_no_frames h.sorted (List.map_eq_nil_iff.1 hframes)]
  sorted := h.sorted.globals

variable {σ : Type} [Sink σ] {options : Options} {sink : σ}

theorem Reachable.consistent {s : Session σ} (h : Reachable options sink s) : s.Consistent := by
  induction h with
  | start => exact .start options sink
  | call c _ ih => exact (Records.atoms.steps.call Records.finish_law c _ ih).1

/-- **The records of the open blocks never drift apart.** In every session that
calls lead to, the blocks have the frames of the symbol table, in order, and
each kind is counted as often as it is open. No call finds the symbol table
refusing to close a frame, and none takes a count below zero. Where a run ends
well, no block is open. -/
theorem reachable_records {s : Session σ} (h : Reachable options sink s) :
    (s.symbols.frames.map Frame.id = s.blocks.map OpenBlock.frame ∧
      s.symbols.depth = s.blocks.length ∧
      ∀ kind, s.counts.get kind = s.blocks.countP fun block => block.frame.kind = kind) ∧
    (∀ c : Call,
      s.counts.replay? (c.run s).events = some (c.run s).session.counts ∧
      (∀ line expected,
        (c.run s).result ≠ .error (.fault line (.scope (.nothingOpen expected)))) ∧
      ∀ line expected found,
        (c.run s).result ≠ .error (.fault line (.scope (.mismatch expected found)))) ∧
    (∀ lines, (Run.runLines lines s).result = .ok () → (Run.runLines lines s).session.Closed) ∧
    ∀ source, (execute source options sink).result = .ok () →
      (execute source options sink).session.Closed := by
  have hs := h.consistent
  refine ⟨⟨hs.frames, ?_, hs.counts⟩, fun c => ?_, fun lines hok => ?_, fun source hok => ?_⟩
  · have hlen := congrArg List.length hs.frames
    simpa [SymbolTable.depth] using hlen
  · obtain ⟨-, hcount, hblame⟩ := Records.atoms.steps.call Records.finish_law c s hs
    have hfaults : ∀ {line cause}, (c.run s).result = .error (.fault line (.scope cause)) →
        cause = .unmatchedClose ∨ ∃ frame, cause = .unclosed frame := by
      intro line cause hres
      exact hblame _ (by rw [Outcome.failure?, hres]) line cause rfl
    refine ⟨hcount, fun line expected hres => ?_, fun line expected found hres => ?_⟩
    · simpa using hfaults hres
    · simpa using hfaults hres
  · have hend := (Records.atoms.steps.runLines Records.finish_law lines s hs).1
    exact hend.closed (Records.blocks_of_runLines hok)
  · cases hlines : Source.lines source with
    | error cause =>
      rw [execute_of_refused hlines] at hok
      cases hok
    | ok lines =>
      rw [execute_of_lines hlines] at hok ⊢
      have hstart := Session.Consistent.start options sink
      have hend := (Records.atoms.steps.runLines Records.finish_law lines _ hstart).1
      exact hend.closed (Records.blocks_of_runLines hok)

/-- A block was opened and a malformed binding failed in it: the records agree,
and a run that closes the block leaves nothing of it. -/
theorem reachable_records_after_failure :
    let opened := (Call.run (.execLine 3 ['i', 'f', ' ', '{'])
      (Session.start ⟨true, true⟩ Buffer.unlimited)).session
    let s := (Call.run (.execLine 4 ['l', 'e', 't']) opened).session
    s.blocks = [⟨⟨.ifBlock, 0⟩, 3⟩] ∧
      s.symbols.frames.map Frame.id = s.blocks.map OpenBlock.frame ∧
      s.counts.get .ifBlock = s.blocks.countP (fun block => block.frame.kind = .ifBlock) ∧
      (Run.runLines [⟨5, ['}']⟩] s).session.Closed ∧
      (execute [] ⟨true, true⟩ Buffer.unlimited).session.Closed := by
  intro opened s
  have hstart : Reachable ⟨true, true⟩ Buffer.unlimited (.start ⟨true, true⟩ Buffer.unlimited) :=
    .start
  have h := reachable_records (.call (.execLine 4 ['l', 'e', 't'])
    (.call (.execLine 3 ['i', 'f', ' ', '{']) hstart))
  exact ⟨by decide +kernel, h.1.1, h.1.2.2 .ifBlock, h.2.2.1 _ (by decide +kernel),
    h.2.2.2 [] (by decide +kernel)⟩

end LineScript
