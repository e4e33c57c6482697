/-
A line that fails leaves the session as it was, apart from the sink.

Every construct mixes steps that may fail with steps that change the session: a
trace line is written, the text is read, values are looked up, blocks are opened
or closed, and output is written. Main statement: in every session that calls lead
to, a line with nothing nested in it that fails has changed no binding, no frame,
no number of a frame and no open block, whichever of its steps it fails at; and
unless the sink is at fault, it has written its trace line and nothing else
(`execLine_failed`).

One step looks as if it could break this: a closing brace takes the block off the
list before the symbol table is asked to close the frame. That the table never
refuses is for the agreement of the records (`Session.Consistent`) to say.

Lines with others nested in them are left out, and have to be: of those that were
done before the failure, the effect stays.
-/
import LineScript.Proofs.Session.Quiet
import LineScript.Proofs.Session.Records
import LineScript.Proofs.Session.Written

namespace LineScript

/-! ## Lines that are a single act -/

/-- Nothing is nested in the line: no body between the braces of a block line, and
no text behind a closing brace. -/
structure Text.IsSimple (text : Text) : Prop where
  block : ∀ kind, Construct.ofLine? text = some (.block kind) → text.inlineBody? = none
  close : Construct.ofLine? text = some .closeBrace → text.afterClose = []

/-- The trace line of a text that has a construct, if traces are asked for. -/
def Text.ownTrace (trace : Bool) (text : Text) : List Text :=
  match Construct.ofLine? text with
  | some c => if trace then [traceLine c text] else []
  | none => []

/-- The act of a simple line. -/
def Act.ofLine (line : Nat) (text : Text) : Act :=
  ⟨line, Construct.ofLine? text, text, false⟩

theorem Act.shown_announcement (line : Nat) (text : Text) (trace : Bool) :
    Chunk.shown trace (Act.ofLine line text).announcement = text.ownTrace trace := by
  rw [announcement, ofLine, Text.ownTrace]
  cases Construct.ofLine? text <;> cases trace <;> rfl

theorem Text.IsSimple.acts {text : Text} (h : text.IsSimple) (line : Nat) :
    (Statement.ofText text).acts line = [.ofLine line text] := by
  rw [Act.ofLine]
  cases hc : Construct.ofLine? text with
  | none =>
    rw [Statement.ofText, hc]
    rfl
  | some c =>
    cases c with
    | block kind =>
      rw [Statement.ofText_header hc (h.block kind hc)]
      rfl
    | closeBrace =>
      rw [Statement.ofText_close hc (h.close hc)]
      rfl
    | binding | print | puts | openBrace =>
      rw [Statement.ofText, hc]
      rfl

theorem Session.Consistent.withSink {σ : Type} {s : Session σ} (h : s.Consistent) (sink : σ) :
    ({ s with sink } : Session σ).Consistent :=
  ⟨h.frames, h.counts, h.sorted⟩

namespace Run

variable {σ : Type}

section

variable {a : Act} {s : Session σ}

/-! ## What an act does apart from its output -/

theorem session_of_skip (line : Nat) (text : Text) (s : Session σ) :
    (skip line text s).session = s := by
  rw [skip, session_bind_apply]
  split <;> rfl

theorem session_of_renderArgument (line : Nat) (c : Construct) (text : Text) (s : Session σ) :
    (renderArgument line c text s).session = s := by
  rw [renderArgument, session_bind_apply]
  cases Output.render s.symbols (c.argument text) <;> rfl

/-- A closing that fails has no block to close. -/
theorem closeInnermost_failed {line : Nat} {failure : Failure} (hs : s.Consistent)
    (h : (closeInnermost line s).result = .error failure) : (closeInnermost line s).session = s := by
  cases hb : s.blocks with
  | nil =>
    rw [closeInnermost, session_bind_apply, hb]
    rfl
  | cons block outer =>
    obtain ⟨frame, frames, hf, hid, -⟩ := hs.innermost hb
    rw [Records.closeInnermost_apply line hb hf hid] at h
    cases h

/-- Work that fails has changed nothing. -/
theorem work_failed {failure : Failure} (hs : s.Consistent)
    (h : (work a s).result = .error failure) : (work a s).session = s := by
  obtain ⟨line, c, text, implied⟩ := a
  rcases c with _ | _ | _ | _ | kind | _ | _
  case none => simp only [work, bind_pure_apply, session_of_skip]
  case some.print => simp only [work, bind_pure_apply, session_of_renderArgument]
  case some.puts => simp only [work, bind_pure_apply, session_of_renderArgument]
  case some.binding =>
    simp only [work] at h ⊢
    cases hread : readBinding text with
    | error cause => rfl
    | ok read =>
      rw [hread] at h
      cases h
  case some.block => cases h
  case some.openBrace => cases h
  case some.closeBrace =>
    simp only [work, bind_pure_apply] at h ⊢
    cases hclose : (closeInnermost line s).result with
    | error cause => exact closeInnermost_failed hs hclose
    | ok done =>
      rw [hclose] at h
      cases h

/-- Work that leaves a text to be written has changed nothing either. -/
theorem work_written {t : Text} (h : (work a s).result = .ok (some t)) :
    (work a s).session = s := by
  obtain ⟨line, c, text, implied⟩ := a
  have hnothing {x : Run σ Unit} (h : ((x >>= fun _ => pure none) s).result = .ok (some t)) :
      False := by
    rw [bind_pure_apply] at h
    cases hx : (x s).result <;> rw [hx] at h <;> cases h
  rcases c with _ | _ | _ | _ | kind | _ | _
  case none => exact (hnothing h).elim
  case some.print => simp only [work, bind_pure_apply, session_of_renderArgument]
  case some.puts => simp only [work, bind_pure_apply, session_of_renderArgument]
  case some.binding =>
    simp only [work] at h
    cases hread : readBinding text with
    | error cause =>
      rw [hread] at h
      cases h
    | ok read =>
      rw [hread] at h
      cases h
  case some.block => exact (hnothing h).elim
  case some.openBrace => cases h
  case some.closeBrace => exact (hnothing h).elim

end

variable [Sink σ] {a : Act} {s : Session σ}

/-! ## Where an act fails -/

/-- Where the work of an act fails, or the text that it leaves cannot be written,
nothing is changed but the sink, and the sink only if it failed. -/
theorem work_writeOut_failed {failure : Failure} (hs : s.Consistent)
    (h : ((work a >>= writeOut) s).result = .error failure) :
    ∃ sink, ((work a >>= writeOut) s).session = { s with sink } ∧
      ((∀ reason, failure ≠ .write reason) → s.sink = sink) := by
  cases hwork : (work a s).result with
  | error cause =>
    rw [bind_apply_error hwork]
    exact ⟨s.sink, work_failed hs hwork, fun _ => rfl⟩
  | ok written? =>
    cases written? with
    | none =>
      rw [bind_apply_ok hwork] at h
      cases h
    | some t =>
      obtain ⟨hresult, hsession⟩ := bind_apply_of_ok (f := writeOut) ⟨hwork, work_written hwork⟩
      rw [hresult, writeOut, write] at h
      rw [hsession, writeOut, write]
      rcases hwrite : Sink.write s.sink t with ⟨_ | reason, sink⟩
      · rw [hwrite] at h
        cases h
      · rw [hwrite] at h
        obtain rfl := Except.error.inj h
        exact ⟨sink, rfl, fun hne => absurd rfl (hne reason)⟩

/-- An act that fails has changed nothing but the sink. If it is not the sink that
failed, that is as the trace line left it. -/
theorem act_failed {failure : Failure} (hs : s.Consistent)
    (h : (act a s).result = .error failure) :
    ∃ sink, (act a s).session = { s with sink } ∧
      ((∀ reason, failure ≠ .write reason) →
        Sink.writeAll s.sink (Chunk.shown s.options.trace a.announcement) = (none, sink)) := by
  have hact : (act a : Run σ Unit) =
      takeUp a >>= fun _ => announce a >>= fun _ => work a >>= writeOut := rfl
  have htaken : (takeUp a s).result = .ok () ∧ (takeUp a s).session = s := by
    rw [takeUp_apply]
    exact ⟨rfl, rfl⟩
  obtain ⟨hresult, hsession⟩ :=
    bind_apply_of_ok (f := fun _ => announce a >>= fun _ => work a >>= writeOut) htaken
  rw [hact, hresult] at h
  rw [hact, hsession]
  have hannounce := announce_apply a s
  rw [writeTexts] at hannounce
  rcases hanswer : Sink.writeAll s.sink (Chunk.shown s.options.trace a.announcement) with
    ⟨_ | reason, sink⟩
  · have hannounced : (announce a s).result = .ok () ∧ (announce a s).session = { s with sink } := by
      rw [hannounce, hanswer]
      exact ⟨rfl, rfl⟩
    obtain ⟨hresult, hsession⟩ := bind_apply_of_ok (f := fun _ => work a >>= writeOut) hannounced
    rw [hresult] at h
    rw [hsession]
    obtain ⟨sink', hkept, hsink⟩ := work_writeOut_failed (hs.withSink sink) h
    exact ⟨sink', hkept, fun hne => by rw [← hsink hne]⟩
  · rw [hanswer] at hannounce
    have hrefused : (announce a s).result = .error (.write reason) := by
      rw [hannounce]
      rfl
    rw [bind_apply_error hrefused] at h ⊢
    obtain rfl := Except.error.inj h
    exact ⟨sink, by rw [hannounce]; rfl, fun hne => absurd rfl (hne reason)⟩

end Run

variable {σ : Type} [Sink σ] {options : Options} {sink : σ}

/-- **A line that fails leaves the session intact.** In every session that calls
lead to, whatever its options and its sink, take a line with nothing nested in it
that fails. Then the bindings and frames are what they were, and so are the numbers
of frames, the open blocks with their lines, and their counts. Unless it was the
sink that failed, it has taken the line's own trace line, if there is one, and
nothing else. -/
theorem execLine_failed {s : Session σ} (hs : Reachable options sink s) {text : Text}
    (h : text.IsSimple) {line : Nat} {failure : Failure}
    (hfailed : (Run.execLine line text s).result = .error failure) :
    let after := (Run.execLine line text s).session
    after.symbols = s.symbols ∧ after.blocks = s.blocks ∧ after.counts = s.counts ∧
      after.options = s.options ∧
      ((∀ reason, failure ≠ .write reason) →
        Sink.writeAll s.sink (text.ownTrace s.options.trace) = (none, after.sink)) := by
  have hact : (Run.execLine line text : Run σ Unit) = Run.act (.ofLine line text) := by
    rw [Run.execLine, Run.exec_eq_acts, h.acts, Run.acts_singleton]
  rw [hact] at hfailed ⊢
  obtain ⟨sink', hsession, hsink⟩ := Run.act_failed hs.consistent hfailed
  rw [Act.shown_announcement] at hsink
  rw [hsession]
  exact ⟨rfl, rfl, rfl, rfl, hsink⟩

/-- A template that fails at its second placeholder, with traces: the text in front
of it and the value of the first one are not written. -/
theorem execLine_failed_placeholder :
    let line : Text := "puts \"a \x7bx\x7d \x7by\x7d\"".toList
    let s := (Run.execLine 1 "let x = 1".toList
      (Session.start ⟨true, false⟩ Buffer.unlimited)).session
    let after := (Run.execLine 2 line s).session
    line.IsSimple ∧ after.symbols = s.symbols ∧
      (Run.execLine 2 line s).result = .error (.fault 2 (.lookup (.unknownVariable ['y']))) ∧
      Sink.writeAll s.sink [traceLine .puts line] = (none, after.sink) := by
  intro line s after
  have hc : Construct.ofLine? line = some .puts := by decide
  have hsimple : line.IsSimple := by
    constructor <;> simp [hc]
  have hs : Reachable ⟨true, false⟩ Buffer.unlimited s := .call (.execLine 1 _) .start
  have hfailed : (Run.execLine 2 line s).result =
      .error (.fault 2 (.lookup (.unknownVariable ['y']))) := by decide +kernel
  have htrace : line.ownTrace s.options.trace = [traceLine .puts line] := by decide +kernel
  obtain ⟨hsymbols, -, -, -, hsink⟩ := execLine_failed hs hsimple hfailed
  rw [htrace] at hsink
  exact ⟨hsimple, hsymbols, hfailed, hsink nofun⟩

end LineScript
