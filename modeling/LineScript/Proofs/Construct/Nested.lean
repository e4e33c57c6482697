/-
The texts nested in a line: the body of a one-line block, and what stands behind a
closing brace. Each of them stands in the line as it is, apart from the braces that
it is cut out at (`Text.sublist_inlineBody?`, `Text.sublist_afterClose`). So the line
has more braces than the text nested in it, whether these are quoted, balanced or
nested in turn.
-/
import LineScript.Construct.Inline
import Mathlib.Data.List.DropRight

namespace LineScript

namespace Text

/-! ## Headers -/

theorem cutHeader?_header {quoted : Bool} {text header rest : Text}
    (h : cutHeader? quoted text = some (header, rest)) :
    cutHeader? quoted header = some (header, []) := by
  induction text generalizing quoted header with
  | nil => simp [cutHeader?] at h
  | cons c tail ih =>
    have step : ∀ {q : Bool}, (cutHeader? q tail).map (Prod.map (c :: ·) id) = some (header, rest) →
        ∃ h', header = c :: h' ∧ cutHeader? q h' = some (h', []) := by
      intro q hq
      obtain ⟨⟨h', r⟩, hcut, heq⟩ := Option.map_eq_some_iff.1 hq
      obtain ⟨rfl, rfl⟩ := Prod.mk.inj heq
      exact ⟨h', rfl, ih hcut⟩
    rw [cutHeader?] at h
    split at h
    next hc =>
      obtain ⟨h', rfl, hcut⟩ := step h
      rw [cutHeader?, if_pos hc, hcut]
      rfl
    next hc =>
      split at h
      next hbrace =>
        obtain ⟨rfl, rfl⟩ := Prod.mk.inj (Option.some.inj h)
        rw [cutHeader?, if_neg hc, if_pos hbrace]
      next hbrace =>
        obtain ⟨h', rfl, hcut⟩ := step h
        rw [cutHeader?, if_neg hc, if_neg hbrace, hcut]
        rfl

theorem cutHeader?_of_not_mem {t : Text} (hbrace : '{' ∉ t) (quoted : Bool) :
    cutHeader? quoted t = none := by
  induction t generalizing quoted with
  | nil => rfl
  | cons c rest ih =>
    simp only [List.mem_cons, not_or] at hbrace
    have hc : ¬(c = '{' ∧ quoted = false) := fun h => hbrace.1 h.1.symm
    rw [cutHeader?, ih hbrace.2, ih hbrace.2, if_neg hc]
    split <;> rfl

theorem mem_of_cutHeader? {quoted : Bool} {line header rest : Text}
    (h : cutHeader? quoted line = some (header, rest)) : '{' ∈ header := by
  by_contra hbrace
  have hheader := cutHeader?_header h
  rw [cutHeader?_of_not_mem hbrace] at hheader
  cases hheader

/-! ## Parts of the line -/

theorem sublist_trim (t : Text) : t.trim.Sublist t :=
  (List.rdropWhile_prefix isBlank _).sublist.trans (List.dropWhile_sublist _)

/-- The body of a line stands in it, between an opening and a closing brace. -/
theorem sublist_inlineBody? {t body : Text} (h : t.inlineBody? = some body) :
    (['{'] ++ (body ++ ['}'])).Sublist t := by
  simp only [inlineBody?, Option.bind_eq_bind, Option.bind_eq_some_iff, Option.pure_def,
    Option.some.injEq] at h
  obtain ⟨⟨header, rest⟩, hcut, inner, hinner, rfl⟩ := h
  have hheader : ['{'].Sublist header := List.singleton_sublist.2 (mem_of_cutHeader? hcut)
  have hrest : (inner ++ ['}']).Sublist rest :=
    eq_of_dropLast? hinner ▸ (List.rdropWhile_prefix isBlank rest).sublist
  rw [eq_of_cutHeader? hcut]
  exact hheader.append (((sublist_trim inner).append_right _).trans hrest)

/-- What follows a closing brace stands in the line behind that brace. -/
theorem sublist_afterClose {t : Text} (h : '}' ∈ t) :
    (['}'] ++ t.afterClose).Sublist t := by
  rw [afterClose]
  cases hcut : cutAt? '}' t with
  | none => exact absurd h (cutAt?_eq_none_iff.1 hcut)
  | some parts =>
    rw [eq_of_cutAt? hcut]
    exact ((sublist_trim parts.2).append_left ['}']).trans (List.sublist_append_right parts.1 _)

/-! ## Braces -/

/-- How many braces a text has, opening and closing, quoted or not. -/
def braces (t : Text) : Nat :=
  t.count '{' + t.count '}'

theorem count_inlineBody? {t body : Text} (h : t.inlineBody? = some body) :
    body.count '{' + 1 ≤ t.count '{' ∧ body.count '}' + 1 ≤ t.count '}' := by
  refine ⟨?_, ?_⟩
  · simpa [Nat.add_comm] using (sublist_inlineBody? h).count_le '{'
  · simpa using (sublist_inlineBody? h).count_le '}'

theorem count_afterClose {t : Text} (h : '}' ∈ t) :
    t.afterClose.count '{' ≤ t.count '{' ∧ t.afterClose.count '}' + 1 ≤ t.count '}' := by
  refine ⟨?_, ?_⟩
  · simpa using (sublist_afterClose h).count_le '{'
  · simpa using (sublist_afterClose h).count_le '}'

end Text

end LineScript
