/-
Lines of a source that hold the same code: they differ in white space at their
ends, and in comments that no quotes are involved in (`Source.SameCode`).

Such lines need not be read as the same text. A line that is cut at a comment
loses the white space in front of it, one that is kept loses only its leading
spaces, and a line of tabs is kept where an empty one is dropped. What they have
in common is the trimmed text, or that none can be told; so that is what the
sources have in common once the lines that are nothing but white space are left
out (`Source.core_lines`).
-/
import LineScript.Proofs.Text.Ends
import LineScript.Source.Line

namespace LineScript

/-- The line with its text trimmed. -/
def Line.trimmed (line : Line) : Line :=
  { line with text := line.text.trim }

namespace Source

open Text

/-- A line up to its first `#`, if an even number of quotes stands before it and
none after it; else the whole line. -/
def withoutComment (raw : Text) : Text :=
  match raw.cutAt? '#' with
  | none => raw
  | some (code, comment) =>
    if code.count '"' % 2 = 0 ∧ '"' ∉ comment then code else raw

/-- The lines are the same up to white space at their ends, or they are once
their comments are gone. -/
def SameCode (raw raw' : Text) : Prop :=
  raw.trim = raw'.trim ∨ (withoutComment raw).trim = (withoutComment raw').trim

/-- The lines that are not just white space, trimmed. -/
def core (lines : List Line) : List Line :=
  (lines.filter fun line => !line.text.trim.isEmpty).map Line.trimmed

/-! ## The code of one line -/

theorem trim_code? (raw : Text) :
    (code? raw).map trim =
      match raw.cutAt? '#' with
      | none => some raw.trim
      | some (before, after) =>
        if '"' ∈ before ∧ '"' ∈ after then some raw.trim
        else if before.count '"' % 2 = 0 then some before.trim
        else none := by
  rw [code?]
  cases cutAt? '#' raw with
  | none => rfl
  | some parts =>
    simp only [apply_ite (Option.map trim), Option.map_some, Option.map_none,
      ignoresEnds_trim.trimEnd]

/-- Up to white space at its ends, what is code does not depend on white space
at the ends of the line. -/
theorem ignoresEnds_code? : IgnoresEnds fun raw => (code? raw).map trim where
  front := by
    intro b hb t
    have hquote : b ≠ '"' := ne_of_isBlank hb (by decide)
    have hcut := cutAt?_cons (ne_of_isBlank hb (c := '#') (by decide)) t
    simp only [trim_code?, hcut, ignoresEnds_trim.front hb]
    cases cutAt? '#' t with
    | none => rfl
    | some parts => simp [Ne.symm hquote, hquote, ignoresEnds_trim.front hb]
  back := by
    intro b hb t
    have hquote : b ≠ '"' := ne_of_isBlank hb (by decide)
    have hcut := cutAt?_concat (ne_of_isBlank hb (c := '#') (by decide)) t
    simp only [trim_code?, hcut, ignoresEnds_trim.back hb]
    cases cutAt? '#' t with
    | none => rfl
    | some parts => simp [Ne.symm hquote]

/-- Nor does it depend on a comment that no quotes are involved in. -/
theorem code?_withoutComment (raw : Text) :
    (code? (withoutComment raw)).map trim = (code? raw).map trim := by
  rw [withoutComment]
  split
  · rfl
  next code comment hcut =>
    split
    next hplain =>
      have hcode := cutAt?_eq_none_iff.2 (not_mem_of_cutAt? hcut)
      rw [trim_code?, trim_code?, hcode, hcut]
      simp [hplain.1, hplain.2]
    next => rfl

theorem SameCode.code?_eq {raw raw' : Text} (h : SameCode raw raw') :
    (code? raw).map trim = (code? raw').map trim := by
  rcases h with h | h
  · exact ignoresEnds_code?.eq_of_trim_eq h
  · rw [← code?_withoutComment raw, ← code?_withoutComment raw']
    exact ignoresEnds_code?.eq_of_trim_eq h

/-- The carriage returns that were taken off a line are white space, and so are
the leading spaces. -/
theorem trim_logicalText? (raw : Text) :
    (logicalText? (raw.rdropWhile (· = '\r'))).map trim = (code? raw).map trim := by
  have hspaces : ∀ t : Text, trim (t.dropWhile (· = ' ')) = trim t :=
    ignoresEnds_trim.dropWhile fun c hc => by
      obtain rfl : c = ' ' := by simpa using hc
      decide
  have hreturns := ignoresEnds_code?.rdropWhile (p := (· = '\r')) (fun c hc => by
    obtain rfl : c = '\r' := by simpa using hc
    decide) raw
  rw [logicalText?, Option.map_map]
  simpa [Function.comp_def, hspaces] using hreturns

/-! ## All lines -/

/-- A line that is read and trimmed, from the trimmed text. -/
def trimmedLine (text? : Option Text) (number : Nat) : Except UnbalancedQuotes Line :=
  match text? with
  | none => .error ⟨number⟩
  | some text => .ok ⟨number, text⟩

theorem trimmed_readLine (raw : Text) (number : Nat) :
    (readLine raw number).map Line.trimmed =
      trimmedLine ((logicalText? raw).map trim) number := by
  rw [readLine]
  cases logicalText? raw <;> rfl

theorem trimmed_cons (first : Except UnbalancedQuotes Line)
    (rest : Except UnbalancedQuotes (List Line)) :
    Except.map (List.map Line.trimmed) (do return (← first) :: (← rest)) =
      do return (← first.map Line.trimmed) :: (← rest.map (List.map Line.trimmed)) := by
  cases first with
  | error cause => rfl
  | ok line => cases rest <;> rfl

/-- Lines that are read and trimmed depend on nothing but the trimmed texts. -/
theorem trimmed_mapM_readLine (raws : List Text) (number : Nat) :
    ((raws.zipIdx number).mapM fun (raw, number) => readLine raw number).map
        (List.map Line.trimmed) =
      ((raws.map fun raw => (logicalText? raw).map trim).zipIdx number).mapM
        fun (text?, number) => trimmedLine text? number := by
  induction raws generalizing number with
  | nil => rfl
  | cons raw rest ih =>
    simp only [List.map_cons, List.zipIdx_cons, List.mapM_cons, ← ih, ← trimmed_readLine]
    exact trimmed_cons _ _

theorem SameCode.map_eq {raws raws' : List Text} (h : List.Forall₂ SameCode raws raws') :
    raws.map (fun raw => (code? raw).map trim) = raws'.map fun raw => (code? raw).map trim := by
  induction h with
  | nil => rfl
  | cons hline _ ih => rw [List.map_cons, List.map_cons, hline.code?_eq, ih]

/-- Lines that are empty are dropped anyway. -/
theorem core_filter (all : Except UnbalancedQuotes (List Line)) :
    Except.map core (do return (← all).filter fun line => !line.text.isEmpty) =
      (all.map (List.map Line.trimmed)).map (List.filter fun line => !line.text.isEmpty) := by
  cases all with
  | error cause => rfl
  | ok ls =>
    show Except.ok (core (ls.filter _)) = Except.ok ((ls.map Line.trimmed).filter _)
    rw [core, List.filter_filter, List.filter_map]
    refine congrArg (fun kept => Except.ok (List.map Line.trimmed kept)) ?_
    refine List.filter_congr fun line _ => ?_
    show (!line.text.trim.isEmpty && !line.text.isEmpty) = !line.text.trim.isEmpty
    cases line.text with
    | nil => rfl
    | cons c rest => simp

theorem core_lines_eq (source : Text) :
    (lines source).map core =
      ((((source.splitOn '\n').map fun raw => (code? raw).map trim).zipIdx 1).mapM
        fun (text?, number) => trimmedLine text? number).map
          (List.filter fun line => !line.text.isEmpty) := by
  have htexts : ((source.splitOn '\n').map fun raw => (code? raw).map trim) =
      (rawLines source).map fun raw => (logicalText? raw).map trim := by
    rw [rawLines, List.map_map]
    exact List.map_congr_left fun raw _ => (trim_logicalText? raw).symm
  rw [htexts, ← trimmed_mapM_readLine, lines]
  exact core_filter _

/-- **What sources with the same code in every line have in common**: the lines
that are not just white space, trimmed and numbered, or the line at which they
are refused. -/
theorem core_lines {source source' : Text}
    (h : List.Forall₂ SameCode (source.splitOn '\n') (source'.splitOn '\n')) :
    (lines source).map core = (lines source').map core := by
  rw [core_lines_eq, core_lines_eq, SameCode.map_eq h]

end Source

end LineScript
