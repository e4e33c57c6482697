/-
One-line blocks: the body written between the braces of a block line, as in
`if ready { puts x }`, and the text that follows a closing brace.

The opening brace is the first one outside quotes. The closing brace is the
last character of the line, white space apart; whatever stands between the two
is the body.
-/
import LineScript.Text.Basic

namespace LineScript

namespace Text

/-- Cuts a line after its first opening brace outside quotes: the header, which
ends in the brace, and the rest. `quoted` tells whether the line starts inside
quotes. -/
def cutHeader? (quoted : Bool) : Text → Option (Text × Text)
  | [] => none
  | c :: rest =>
    if c = '"' then (cutHeader? (!quoted) rest).map (Prod.map (c :: ·) id)
    else if c = '{' ∧ quoted = false then some ([c], rest)
    else (cutHeader? quoted rest).map (Prod.map (c :: ·) id)

/-- The body of a one-line block, or `none` if the line does not end in a
closing brace after its opening one. -/
def inlineBody? (line : Text) : Option Text := do
  let (_, rest) ← cutHeader? false line
  let body ← dropLast? '}' rest.trimEnd
  return body.trim

/-- The text after the first closing brace of a line, trimmed; empty if there
is no such brace. -/
def afterClose (line : Text) : Text :=
  match cutAt? '}' line with
  | none => []
  | some (_, rest) => rest.trim

theorem eq_of_cutHeader? {quoted : Bool} {line header rest : Text}
    (h : cutHeader? quoted line = some (header, rest)) : line = header ++ rest := by
  induction line generalizing quoted header with
  | nil => simp [cutHeader?] at h
  | cons c tail ih =>
    have step {q : Bool}
        (hq : (cutHeader? q tail).map (Prod.map (c :: ·) id) = some (header, rest)) :
        c :: tail = header ++ rest := by
      obtain ⟨⟨b, a⟩, hba, heq⟩ := Option.map_eq_some_iff.1 hq
      obtain ⟨rfl, rfl⟩ := Prod.mk.inj heq
      rw [ih hba, List.cons_append]
    rw [cutHeader?] at h
    split at h
    next => exact step h
    next =>
      split at h
      next =>
        obtain ⟨rfl, rfl⟩ := Prod.mk.inj (Option.some.inj h)
        rfl
      next => exact step h

/-- A body is shorter than its line: both braces are missing from it. -/
theorem length_inlineBody?_lt {line body : Text} (h : inlineBody? line = some body) :
    body.length < line.length := by
  simp only [inlineBody?, Option.bind_eq_bind, Option.bind_eq_some_iff, Option.pure_def,
    Option.some.injEq] at h
  obtain ⟨⟨header, rest⟩, hcut, inner, hinner, rfl⟩ := h
  have hline := congrArg List.length (eq_of_cutHeader? hcut)
  have hinner := congrArg List.length (eq_of_dropLast? hinner)
  have htrim := length_trim_le inner
  have hend := length_trimEnd_le rest
  simp only [List.length_append, List.length_cons, List.length_nil] at hline hinner
  omega

/-- What follows a closing brace is shorter than the line. -/
theorem length_afterClose_lt {line : Text} (h : afterClose line ≠ []) :
    (afterClose line).length < line.length := by
  rw [afterClose] at h ⊢
  split at h
  next => exact absurd rfl h
  next before rest hcut =>
    have hline := congrArg List.length (eq_of_cutAt? hcut)
    have htrim := length_trim_le rest
    simp only [List.length_append, List.length_cons] at hline
    omega

end Text

end LineScript
