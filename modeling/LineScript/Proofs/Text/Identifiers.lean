/-
What identifiers are not made of. No blank, quote, brace or other mark is part
of an identifier, and none starts with a digit; so an identifier is a word, and
looking for a mark in a line passes over the identifiers in it.

The classes of characters beyond ASCII are tables. The characters in question
are few, so each of them is looked up.
-/
import LineScript.Proofs.Text.Parts
import LineScript.Text.Digits
import LineScript.Text.Identifier

namespace LineScript

/-- What holds of each code point of a range holds of the characters in it. -/
theorem forall_char_between (low high : Char) {p : Char → Prop}
    (h : ∀ n ∈ List.range' low.toNat (high.toNat + 1 - low.toNat), p (Char.ofNat n)) {c : Char}
    (hlow : low ≤ c) (hhigh : c ≤ high) : p c := by
  have hlow : low.toNat ≤ c.toNat := hlow
  have hhigh : c.toNat ≤ high.toNat := hhigh
  have hmem : c.toNat ∈ List.range' low.toNat (high.toNat + 1 - low.toNat) := by
    rw [List.mem_range'_1]
    omega
  have hc := h c.toNat hmem
  rwa [Char.ofNat_toNat] at hc

theorem between_of_isDigit {c : Char} (h : c.isDigit = true) : '0' ≤ c ∧ c ≤ '9' := by
  simpa [Char.isDigit, Char.le_def] using h

theorem isBlank_of_isDigit {c : Char} (h : c.isDigit = true) : isBlank c = false :=
  forall_char_between '0' '9' (p := fun c => isBlank c = false) (by decide +kernel)
    (between_of_isDigit h).1 (between_of_isDigit h).2

namespace Text

theorem isIdentifierStart_of_isDigit {c : Char} (h : c.isDigit = true) :
    isIdentifierStart c = false :=
  forall_char_between '0' '9' (p := fun c => isIdentifierStart c = false) (by decide +kernel)
    (between_of_isDigit h).1 (between_of_isDigit h).2

theorem isIdentifierPart_of_isBlank {c : Char} (h : isBlank c = true) :
    isIdentifierPart c = false := by
  simp only [isBlank, Bool.or_eq_true, Bool.and_eq_true, decide_eq_true_eq] at h
  rcases h with (((((((((rfl | h) | rfl) | rfl) | rfl) | h) | rfl) | rfl) | rfl) | rfl) | rfl
  any_goals decide +kernel
  · exact forall_char_between '\t' '\r' (p := fun c => isIdentifierPart c = false)
      (by decide +kernel) h.1 h.2
  · exact forall_char_between '\u2000' '\u200A' (p := fun c => isIdentifierPart c = false)
      (by decide +kernel) h.1 h.2

variable {name : Text}

/-- A character that is no part of identifiers is not in one. -/
theorem not_mem_of_isIdentifier (h : isIdentifier name = true) {c : Char}
    (hc : isIdentifierPart c = false) : c ∉ name := by
  intro hmem
  have hpart := List.all_eq_true.1 (all_isIdentifierPart h) c hmem
  rw [hc] at hpart
  cases hpart

theorem isWord_of_isIdentifier (h : isIdentifier name = true) : IsWord name where
  ne_nil := by
    rintro rfl
    cases h
  solid c hmem := by
    cases hblank : isBlank c with
    | false => rfl
    | true => exact absurd hmem (not_mem_of_isIdentifier h (isIdentifierPart_of_isBlank hblank))

theorem isIdentifier_letter {c : Char} (h : 'a' ≤ c ∧ c ≤ 'z') : isIdentifier [c] = true :=
  forall_char_between 'a' 'z' (p := fun c => isIdentifier [c] = true) (by decide +kernel) h.1 h.2

/-- How an identifier starts. -/
theorem exists_start_of_isIdentifier (h : isIdentifier name = true) :
    ∃ c rest, name = c :: rest ∧ isIdentifierStart c = true := by
  cases name with
  | nil => cases h
  | cons c rest =>
    simp only [isIdentifier, Bool.and_eq_true] at h
    exact ⟨c, rest, rfl, h.1⟩

theorem isWord_of_isDigits {t : Text} (h : isDigits t = true) : IsWord t := by
  simp only [isDigits, Bool.and_eq_true, Bool.not_eq_true', List.isEmpty_eq_false_iff,
    List.all_eq_true] at h
  exact ⟨h.1, fun c hc => isBlank_of_isDigit (h.2 c hc)⟩

end Text

end LineScript
