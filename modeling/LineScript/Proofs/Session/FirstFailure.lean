/-
Faults point at the first line that fails (`execute_first_failure`). A run does
the acts of its lines in their order, and an act fails with the number of its
line. So if a run fails at an act, it fails in the same way when it is given the
lines up to that one only, and it does not get there when it is given the lines
before.

The check for open blocks at the end is the exception: it fails with the number
of an earlier line, and it is made at the end of every beginning of the source.
-/
import LineScript.Proofs.Session.Written
import LineScript.Proofs.Source.FirstLines

namespace LineScript

/-- The lines up to some number come first. An act of a line with a number up to
it is among theirs, and an act of another line is behind all of theirs. -/
theorem Line.acts_front {front back : List Line} {before after : List Act} {a : Act} {k : Nat}
    (hfront : ∀ line ∈ front, line.number ≤ k) (hback : ∀ line ∈ back, k < line.number)
    (h : (front ++ back).flatMap Line.acts = before ++ a :: after) :
    (a.line ≤ k → ∃ rest, front.flatMap Line.acts = before ++ a :: rest) ∧
      (k < a.line → ∃ rest, before = front.flatMap Line.acts ++ rest) := by
  have hfrontActs : a ∈ front.flatMap Line.acts → a.line ≤ k := by
    intro hmem
    obtain ⟨line, hline, ha⟩ := List.mem_flatMap.1 hmem
    exact (Line.line_of_mem_acts ha).trans_le (hfront line hline)
  have hbackActs : a ∈ back.flatMap Line.acts → k < a.line := by
    intro hmem
    obtain ⟨line, hline, ha⟩ := List.mem_flatMap.1 hmem
    exact (hback line hline).trans_eq (Line.line_of_mem_acts ha).symm
  rw [List.flatMap_append] at h
  rcases List.append_eq_append_iff.1 h with ⟨rest, hbefore, hrest⟩ | ⟨rest, hall, hrest⟩
  · have hlt := hbackActs (by simp [hrest])
    exact ⟨fun hle => absurd hle hlt.not_ge, fun _ => ⟨rest, hbefore⟩⟩
  · cases rest with
    | nil =>
      rw [List.nil_append] at hrest
      have hlt := hbackActs (hrest ▸ List.mem_cons_self)
      exact ⟨fun hle => absurd hle hlt.not_ge, fun _ => ⟨[], by simp [hall]⟩⟩
    | cons first rest =>
      obtain ⟨rfl, -⟩ := List.cons.inj hrest
      have hle := hfrontActs (by simp [hall])
      exact ⟨fun _ => ⟨rest, hall⟩, fun hlt => absurd hlt hle.not_gt⟩

namespace Source

variable {source : Text} {ls : List Line} {strict : Bool}

/-- Only the check at the end fails otherwise than at some act, whose line it
fails on. -/
theorem exists_act_of_fault (hlines : lines source = .ok ls) {n : Nat} {cause : Fault}
    (h : (dryRun source strict).result = .error (.fault n cause))
    (hcause : ∀ frame, cause ≠ .scope (.unclosed frame)) :
    ∃ before a after, ls.flatMap Line.acts = before ++ a :: after ∧ a.line = n ∧
      (Run.dry before (.dryStart strict)).result = .ok () ∧
      (Run.dry (before ++ [a]) (.dryStart strict)).result = .error (.fault n cause) := by
  rw [dryRun_of_lines hlines] at h
  rcases Run.error_of_bind h with hdry | ⟨-, -, hclosed⟩
  · obtain ⟨before, a, after, hacts, hbefore, ha, -⟩ := Run.dry_error hdry
    obtain ⟨_, hfault, -⟩ := Run.perform_fault ha
    exact ⟨before, a, after, hacts, (Failure.fault.inj hfault).1.symm, hbefore,
      Run.dry_concat_error hbefore ha⟩
  · obtain ⟨line, frame, hfault⟩ := Run.checkClosed_fault hclosed
    exact absurd (Failure.fault.inj hfault).2 (hcause frame)

/-- A run that fails at some act ends there. -/
theorem dryRun_of_dry_error (hlines : lines source = .ok ls) {done rest : List Act}
    (hacts : ls.flatMap Line.acts = done ++ rest) {failure : Failure}
    (hdone : (Run.dry done (.dryStart strict)).result = .error failure) :
    (dryRun source strict).result = .error failure ∧
      (dryRun source strict).session = (Run.dry done (.dryStart strict)).session ∧
      deeds source strict = Run.deeds done (.dryStart strict) := by
  obtain ⟨hdry, hdeeds⟩ := Run.dry_append_error hdone rest
  rw [dryRun_of_lines hlines, deeds_of_lines hlines, hacts, hdeeds, Run.bind_apply, hdry, hdone]
  exact ⟨rfl, rfl, rfl⟩

/-- A run whose acts can all be done succeeds, or some block is left open. -/
theorem dryRun_of_dry_ok (hlines : lines source = .ok ls)
    (h : (Run.dry (ls.flatMap Line.acts) (.dryStart strict)).result = .ok ()) :
    (dryRun source strict).result = .ok () ∨
      ∃ line frame, (dryRun source strict).result =
        .error (.fault line (.scope (.unclosed frame))) := by
  cases hresult : (dryRun source strict).result with
  | ok done => exact .inl rfl
  | error failure =>
    rw [dryRun_of_lines hlines] at hresult
    rcases Run.error_of_bind hresult with hdry | ⟨-, -, hclosed⟩
    · rw [h] at hdry
      cases hdry
    · obtain ⟨line, frame, rfl⟩ := Run.checkClosed_fault hclosed
      exact .inr ⟨line, frame, rfl⟩

variable {before after : List Act} {a : Act}

/-- A source that fails at an act fails there too if it ends with the line of
that act. -/
theorem dryRun_upTo (hlines : lines source = .ok ls)
    (hacts : ls.flatMap Line.acts = before ++ a :: after) {failure : Failure}
    (ha : (Run.dry (before ++ [a]) (.dryStart strict)).result = .error failure) :
    (dryRun (firstLines a.line source) strict).result = (dryRun source strict).result ∧
      (dryRun (firstLines a.line source) strict).session = (dryRun source strict).session ∧
      deeds (firstLines a.line source) strict = deeds source strict := by
  obtain ⟨front, back, hfirst, rfl, hfront, hback⟩ := lines_firstLines hlines a.line
  obtain ⟨rest, hrest⟩ := (Line.acts_front hfront hback hacts).1 (Nat.le_refl _)
  rw [List.append_cons] at hrest hacts
  obtain ⟨hresult, hsession, hdeeds⟩ := dryRun_of_dry_error hlines hacts ha
  obtain ⟨hresult', hsession', hdeeds'⟩ := dryRun_of_dry_error hfirst hrest ha
  rw [hresult, hsession, hdeeds]
  exact ⟨hresult', hsession', hdeeds'⟩

/-- If it ends before the line of an act that is come to, nothing but an open
block can be wrong. -/
theorem dryRun_before (hlines : lines source = .ok ls)
    (hacts : ls.flatMap Line.acts = before ++ a :: after) {k : Nat} (hk : k < a.line)
    (hbefore : (Run.dry before (.dryStart strict)).result = .ok ()) :
    ((dryRun (firstLines k source) strict).result = .ok () ∨
      ∃ line frame, (dryRun (firstLines k source) strict).result =
        .error (.fault line (.scope (.unclosed frame)))) ∧
      deeds (firstLines k source) strict <+: deeds source strict := by
  obtain ⟨front, back, hfirst, rfl, hfront, hback⟩ := lines_firstLines hlines k
  obtain ⟨rest, rfl⟩ := (Line.acts_front hfront hback hacts).2 hk
  have hdone := Run.dry_ok_of_append hbefore
  refine ⟨dryRun_of_dry_ok hfirst hdone, ?_⟩
  rw [deeds_of_lines hfirst, deeds_of_lines hlines, hacts, List.append_assoc,
    (Run.dry_append_ok hdone _).2]
  exact List.prefix_append _ _

/-- A source that fails at an act, beside its beginnings: up to the line of that
act, and up to the line before. -/
theorem dryRun_firstLines {n : Nat} {cause : Fault}
    (h : (dryRun source strict).result = .error (.fault n cause))
    (hcause : ∀ frame, cause ≠ .scope (.unclosed frame)) :
    (1 ≤ n ∧ n ≤ (source.splitOn '\n').length) ∧
      ((dryRun (firstLines n source) strict).result = (dryRun source strict).result ∧
        (dryRun (firstLines n source) strict).session = (dryRun source strict).session ∧
        deeds (firstLines n source) strict = deeds source strict) ∧
      ((dryRun (firstLines (n - 1) source) strict).result = .ok () ∨
        ∃ line frame, (dryRun (firstLines (n - 1) source) strict).result =
          .error (.fault line (.scope (.unclosed frame)))) ∧
      deeds (firstLines (n - 1) source) strict <+: deeds source strict := by
  cases hlines : lines source with
  | error cause =>
    rw [dryRun_of_refused hlines] at h
    cases h
  | ok ls =>
    obtain ⟨before, a, after, hacts, rfl, hbefore, ha⟩ := exists_act_of_fault hlines h hcause
    have hnumber : 1 ≤ a.line ∧ a.line ≤ (source.splitOn '\n').length := by
      have hmem : a ∈ ls.flatMap Line.acts := by simp [hacts]
      obtain ⟨line, hline, ha⟩ := List.mem_flatMap.1 hmem
      rw [Line.line_of_mem_acts ha]
      exact number_of_mem_lines hlines hline
    exact ⟨hnumber, dryRun_upTo hlines hacts ha, dryRun_before hlines hacts (by omega) hbefore⟩

end Source

variable {σ : Type} [Sink σ] {sink : σ}

/-- **Faults point at the first line that fails.** If a source fails on a line
otherwise than for a block that is left open, that line is one of the source, and
what comes behind it makes no difference: the lines up to it have the same result
and leave the same session, output included. The lines before it do not fail in
this way. They are executed to their end, where some block may be open, and what
they write is the beginning of what the source writes. -/
theorem execute_first_failure (source : Text) (options : Options) (hsink : Sink.Reliable sink)
    {n : Nat} {cause : Fault}
    (h : (execute source options sink).result = .error (.fault n cause))
    (hcause : ∀ frame, cause ≠ .scope (.unclosed frame)) :
    let whole := execute source options sink
    let upTo := execute (Source.firstLines n source) options sink
    let before := execute (Source.firstLines (n - 1) source) options sink
    (1 ≤ n ∧ n ≤ (source.splitOn '\n').length) ∧
      (upTo.result = whole.result ∧ upTo.session = whole.session) ∧
      (before.result = .ok () ∨
        ∃ line frame, before.result = .error (.fault line (.scope (.unclosed frame)))) ∧
      ∃ out more, before.Wrote sink out ∧ whole.Wrote sink (out ++ more) := by
  intro whole upTo before
  rw [result_execute source options hsink] at h
  obtain ⟨hnumber, ⟨hresult, hsession, hdeeds⟩, hbefore, after, hafter⟩ :=
    Source.dryRun_firstLines h hcause
  refine ⟨hnumber, ⟨?_, ?_⟩, ?_, ?_⟩
  · rw [show upTo.result = _ from result_execute _ options hsink, hresult]
    exact (result_execute source options hsink).symm
  · have hsinks : upTo.session.sink = whole.session.sink := by
      refine sink_execute_congr hsink hresult ?_
      rw [Source.chunks, hdeeds, Source.chunks]
    have hupTo : upTo.session = _ :=
      congrArg Outcome.session (execute_reliable (Source.firstLines n source) options hsink).1
    have hwhole : whole.session = _ :=
      congrArg Outcome.session (execute_reliable source options hsink).1
    rw [hupTo, hwhole]
    show (Source.dryRun _ _).session.onto options upTo.session.sink = _
    rw [hsession, hsinks]
    rfl
  · rw [show before.result = _ from result_execute _ options hsink]
    exact hbefore
  · refine ⟨_, Chunk.shown options.trace (after.flatMap Deed.chunks),
      (execute_reliable (Source.firstLines (n - 1) source) options hsink).2, ?_⟩
    rw [← Chunk.shown_append, Source.chunks, ← List.flatMap_append, hafter]
    exact (execute_reliable source options hsink).2

/-- The name on the second line stands for nothing; the block that the first line
leaves open and the brace too many on the third have no part in that. -/
theorem execute_first_failure_second_line :
    let before : Text := ['i', 'f', ' ', 'x', ' ', '{']
    let upTo : Text := before ++ '\n' :: ['p', 'u', 't', 's', ' ', 'y']
    let source : Text := upTo ++ '\n' :: ['}', '\n', '}']
    let run := fun text => execute text ⟨true, false⟩ Buffer.unlimited
    let cause : Fault := .lookup (.unknownVariable ['y'])
    Sink.Reliable Buffer.unlimited ∧ (run source).result = .error (.fault 2 cause) ∧
      (∀ frame, cause ≠ .scope (.unclosed frame)) ∧
      ((run upTo).result = (run source).result ∧ (run upTo).session = (run source).session) ∧
      (run before).result = .error (.fault 1 (.scope (.unclosed ⟨.ifBlock, 0⟩))) ∧
      ∃ out more, (run before).Wrote Buffer.unlimited out ∧
        (run source).Wrote Buffer.unlimited (out ++ more) := by
  intro before upTo source run cause
  have hresult : (run source).result = .error (.fault 2 cause) := by decide +kernel
  have hcause : ∀ frame, cause ≠ .scope (.unclosed frame) := nofun
  have hupTo : Source.firstLines 2 source = upTo := by decide +kernel
  have hbefore : Source.firstLines (2 - 1) source = before := by decide +kernel
  obtain ⟨-, hsame, -, hwrote⟩ :=
    execute_first_failure source ⟨true, false⟩ Buffer.reliable_unlimited hresult hcause
  rw [hupTo] at hsame
  rw [hbefore] at hwrote
  exact ⟨Buffer.reliable_unlimited, hresult, hcause, hsame, by decide +kernel, hwrote⟩

end LineScript
