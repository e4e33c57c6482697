/-
Layout does not matter (`execute_layout`): a line has the effect of its trimmed
text, and a line that is nothing but white space has none, at least where
unknown lines are skipped. So sources with the same code in every line, which
are read as different texts, do the same.

Texts nested in a line are trimmed when they are cut out of it, which is why
white space at the ends of the line does not get into them.
-/
import LineScript.Proofs.Construct.Ends
import LineScript.Proofs.Session.Quiet
import LineScript.Proofs.Source.Comments

namespace LineScript

open Text

variable {σ : Type} [Sink σ]

namespace Run

/-! ## One line -/

/-- White space at the ends of a line makes no difference to what it does. -/
theorem execLine_trim_sameEffect (line : Nat) (text : Text) :
    SameEffect (execLine line text : Run σ Unit) (execLine line text.trim) := by
  have htrim : Construct.ofLine? text.trim = Construct.ofLine? text :=
    Construct.ignoresEnds_ofLine?.trim text
  cases hc : Construct.ofLine? text with
  | none =>
    have hskip : (skip line text.trim : Run σ Unit) = skip line text := by
      rw [skip, skip, ignoresEnds_firstWord?.trim]
    refine (execLine_unknown_sameEffect line hc).trans ?_
    rw [← hskip]
    exact (execLine_unknown_sameEffect line (htrim.trans hc)).symm
  | some c =>
    have hc' := htrim.trans hc
    cases c with
    | binding =>
      refine (execLine_read_sameEffect line hc).trans ?_
      rw [← ignoresEnds_readBinding.trim text]
      exact (execLine_read_sameEffect line hc').symm
    | print =>
      refine (execLine_print_sameEffect line hc).trans ((writeLine_sameEffect _ _ _ _).trans ?_)
      rw [← (Construct.ignoresEnds_argument .print).trim text]
      exact ((execLine_print_sameEffect line hc').trans (writeLine_sameEffect _ _ _ _)).symm
    | puts =>
      refine (execLine_puts_sameEffect line hc).trans ?_
      rw [← (Construct.ignoresEnds_argument .puts).trim text]
      exact (execLine_puts_sameEffect line hc').symm
    | openBrace =>
      exact (execLine_openBrace_sameEffect line hc).trans
        (execLine_openBrace_sameEffect line hc').symm
    | block kind =>
      have hbody : text.trim.inlineBody? = text.inlineBody? := ignoresEnds_inlineBody?.trim text
      cases hb : text.inlineBody? with
      | none =>
        exact (execLine_header_sameEffect line hc hb).trans
          (execLine_header_sameEffect line hc' (hbody.trans hb)).symm
      | some body =>
        cases body with
        | nil =>
          exact (execLine_emptyBlock_sameEffect line hc hb).trans
            (execLine_emptyBlock_sameEffect line hc' (hbody.trans hb)).symm
        | cons first body =>
          exact (execLine_inlineBlock_sameEffect line hc hb).trans
            (execLine_inlineBlock_sameEffect line hc' (hbody.trans hb)).symm
    | closeBrace =>
      have hafter : text.trim.afterClose = text.afterClose := ignoresEnds_afterClose.trim text
      by_cases ha : text.afterClose = []
      · exact (execLine_close_sameEffect line hc ha).trans
          (execLine_close_sameEffect line hc' (hafter.trans ha)).symm
      · refine (execLine_closeThen_sameEffect line hc ha).trans ?_
        rw [← hafter] at ha ⊢
        exact (execLine_closeThen_sameEffect line hc' ha).symm

variable {s : Session σ}

/-- Where unknown lines are skipped, white space has no effect. -/
theorem execLine_blank (hs : s.options = ⟨false, false⟩) (line : Nat) {text : Text}
    (hblank : text.trim = []) :
    (execLine line text s).result = .ok () ∧ (execLine line text s).session = s := by
  have hc : Construct.ofLine? text = none := by
    rw [← Construct.ignoresEnds_ofLine?.trim text, hblank]
    rfl
  obtain ⟨hresult, hsession⟩ := execLine_unknown_sameEffect line hc s (by rw [hs])
  rw [hresult, hsession, skip, session_bind_apply, hs]
  exact ⟨rfl, rfl⟩

/-! ## All lines -/

/-- Lines do what is left of them without white space. -/
theorem execLines_core (hs : s.options = ⟨false, false⟩) (lines : List Line) :
    (execLines lines s).result = (execLines (Source.core lines) s).result ∧
      (execLines lines s).session = (execLines (Source.core lines) s).session := by
  induction lines generalizing s with
  | nil => exact ⟨rfl, rfl⟩
  | cons line rest ih =>
    have hrun : (execLines (line :: rest) : Run σ Unit) =
        execLine line.number line.text >>= fun _ => execLines rest := rfl
    by_cases hblank : line.text.trim = []
    · have hcore : Source.core (line :: rest) = Source.core rest := by
        simp [Source.core, hblank]
      obtain ⟨hresult, hsession⟩ := execLine_blank hs line.number hblank
      rw [hcore, hrun, bind_apply_ok hresult, hsession]
      exact ih hs
    · have hcore : (execLines (Source.core (line :: rest)) : Run σ Unit) =
          execLine line.number line.text.trim >>= fun _ => execLines (Source.core rest) := by
        simp [Source.core, hblank]
        rfl
      obtain ⟨hresult, hsession⟩ := execLine_trim_sameEffect line.number line.text s (by rw [hs])
      have hoptions : (execLine line.number line.text s).session.options = ⟨false, false⟩ := by
        rw [keepsOptions.atoms.steps.execLine line.number line.text s, hs]
      rw [hrun, hcore, bind_apply, bind_apply, ← hresult, ← hsession]
      cases (execLine line.number line.text s).result with
      | error failure => exact ⟨rfl, rfl⟩
      | ok done => exact ih hoptions

/-- So do whole runs. -/
theorem runLines_core (hs : s.options = ⟨false, false⟩) (lines : List Line) :
    (runLines lines s).result = (runLines (Source.core lines) s).result ∧
      (runLines lines s).session = (runLines (Source.core lines) s).session := by
  obtain ⟨hresult, hsession⟩ := execLines_core hs lines
  rw [runLines, runLines, bind_apply, bind_apply, ← hresult, ← hsession]
  cases (execLines lines s).result <;> exact ⟨rfl, rfl⟩

end Run

/-- What a source does is told by its lines without white space, or by the line
at which it is refused. -/
theorem execute_core (source : Text) (sink : σ) :
    let start := Session.start ⟨false, false⟩ sink
    let o := execute source ⟨false, false⟩ sink
    match (Source.lines source).map Source.core with
    | .error cause => o.result = .error (.quotes cause) ∧ o.session = start
    | .ok lines =>
      o.result = (Run.runLines lines start).result ∧ o.session = (Run.runLines lines start).session
    := by
  cases hlines : Source.lines source with
  | error cause =>
    rw [execute_of_refused hlines]
    exact ⟨rfl, rfl⟩
  | ok lines =>
    rw [execute_of_lines hlines]
    exact Run.runLines_core rfl lines

/-- **Layout and plain comments do not change what a program does.** Two sources
with as many lines, each line with the same code as the other's, are executed
with the same result and leave the same session: the same bindings, and the same
sink. That is so on any sink, without traces and where unknown lines are
skipped. -/
theorem execute_layout {source source' : Text}
    (h : List.Forall₂ Source.SameCode (source.splitOn '\n') (source'.splitOn '\n')) (sink : σ) :
    (execute source ⟨false, false⟩ sink).result = (execute source' ⟨false, false⟩ sink).result ∧
      (execute source ⟨false, false⟩ sink).session =
        (execute source' ⟨false, false⟩ sink).session := by
  have hsource := execute_core source sink
  have hsource' := execute_core source' sink
  rw [Source.core_lines h] at hsource
  cases hcore : (Source.lines source').map Source.core with
  | error cause =>
    rw [hcore] at hsource hsource'
    exact ⟨hsource.1.trans hsource'.1.symm, hsource.2.trans hsource'.2.symm⟩
  | ok lines =>
    rw [hcore] at hsource hsource'
    exact ⟨hsource.1.trans hsource'.1.symm, hsource.2.trans hsource'.2.symm⟩

/-- Tabs where nothing was, a no-break space behind a text, and comments behind
both braces. -/
theorem execute_layout_block :
    let source : Text :=
      ['i', 'f', ' ', 'a', ' ', '{', ' ', '#', ' ', 'a', '\n',
        '\t', 'p', 'u', 't', 's', ' ', '"', 'x', '"', '\u00A0', '\n', ' ', '\t', '\n', '}']
    let source' : Text :=
      ['\t', 'i', 'f', ' ', 'a', ' ', '{', '\n', 'p', 'u', 't', 's', ' ', '"', 'x', '"', '\r', '\n',
        '\n', '}', '#', '}']
    List.Forall₂ Source.SameCode (source.splitOn '\n') (source'.splitOn '\n') ∧
      (execute source ⟨false, false⟩ Buffer.unlimited).result = .ok () ∧
      (execute source ⟨false, false⟩ Buffer.unlimited).session.sink.bytes = #[120, 10] := by
  intro source source'
  have h : List.Forall₂ Source.SameCode (source.splitOn '\n') (source'.splitOn '\n') :=
    .cons (.inr (by decide)) (.cons (.inl (by decide)) (.cons (.inl (by decide))
      (.cons (.inr (by decide)) .nil)))
  obtain ⟨hresult, hsession⟩ := execute_layout h Buffer.unlimited
  rw [hresult, hsession]
  exact ⟨h, by decide +kernel, by decide +kernel⟩

end LineScript
