/-
Literals that are refused.

A literal is first given a type, by a grammar, and then read as a value of it, and
the two were not made from one description. Main statement: what falls between
them are digits that spell too large a number (`Text.SpellsTooLarge`) and the mark
of characters in the wrong places (`Text.HasStrayMarks`), and nothing else
(`Value.ofLiteral_refused_iff`). Every decimal is read, so no literal is refused as
one; and what is not refused is read as a value of the type that it was given.

Of the grammars that are tried before that of characters none takes a text with a
mark in it, which is why the order of the grammars has no say here.
-/
import LineScript.Proofs.Value.ReadBack

namespace LineScript

namespace Text

variable {s : Text}

/-- Decimal digits, as many as one likes, that spell a number beyond those of 64
bits with a sign. -/
structure SpellsTooLarge (s : Text) : Prop where
  ne_nil : s ≠ []
  digits : ∀ c ∈ s, c.isDigit = true
  large : Nat.pow 2 63 - 1 < s.digitsValue

/-- Two or three characters, exactly two of them marks, that are not one character
between two marks. -/
structure HasStrayMarks (s : Text) : Prop where
  length : s.length = 2 ∨ s.length = 3
  marks : s.count '\'' = 2
  shape : ∀ c, c ≠ '\'' → s ≠ ['\'', c, '\'']

/-! ## Digits -/

theorem integer?_eq_none_iff (h : isDigits s = true) :
    integer? s = none ↔ integerLimit ≤ s.digitsValue := by
  simp only [integer?, cutSign_of_isDigits h, h, Bool.not_true, Bool.false_eq_true, if_false]
  split
  next hlt => simp [hlt]
  next hle => simpa using hle

theorem spellsTooLarge_iff :
    s.SpellsTooLarge ↔ s.isDigits = true ∧ s.integer? = none := by
  constructor
  · rintro ⟨hne, hdigits, hlarge⟩
    have h : s.isDigits = true := isDigits_iff.2 ⟨hne, hdigits⟩
    exact ⟨h, (integer?_eq_none_iff h).2 hlarge⟩
  · rintro ⟨h, hnone⟩
    exact ⟨(isDigits_iff.1 h).1, (isDigits_iff.1 h).2, (integer?_eq_none_iff h).1 hnone⟩

/-! ## Marks -/

theorem character?_eq_some_iff {c : Char} :
    character? s = some c ↔ s = ['\'', c, '\''] ∧ c ≠ '\'' := by
  constructor
  · intro h
    have hc := ne_mark_of_character? h
    unfold character? at h
    split at h
    next d =>
      rw [if_neg (fun hd => by simp [hd] at h)] at h
      exact ⟨by rw [Option.some.inj h], hc⟩
    next => cases h
  · rintro ⟨rfl, hc⟩
    exact if_neg hc

theorem hasStrayMarks_iff :
    s.HasStrayMarks ↔ s.isCharacterForm = true ∧ s.character? = none := by
  have hnone : s.character? = none ↔ ∀ c, c ≠ '\'' → s ≠ ['\'', c, '\''] := by
    simp only [Option.eq_none_iff_forall_ne_some, ne_eq, character?_eq_some_iff, not_and, not_not]
    exact ⟨fun h c hc hs => hc (h c hs), fun h c hs => by_contra fun hc => h c hc hs⟩
  simp only [isCharacterForm, Bool.and_eq_true, decide_eq_true_eq, hnone]
  constructor
  · rintro ⟨hlength, hmarks, hshape⟩
    exact ⟨⟨hmarks, by omega⟩, hshape⟩
  · rintro ⟨⟨hmarks, hlength⟩, hshape⟩
    have hle := List.count_le_length (a := '\'') (l := s)
    exact ⟨by omega, hmarks, hshape⟩

theorem mark_mem_of_isCharacterForm (h : s.isCharacterForm = true) : '\'' ∈ s := by
  by_contra hmark
  rw [isCharacterForm_eq_false hmark] at h
  cases h

theorem isDigits_eq_false_of_mark (h : '\'' ∈ s) : s.isDigits = false := by
  rw [Bool.eq_false_iff]
  exact fun hdigits => absurd ((isDigits_iff.1 hdigits).2 _ h) (by decide)

theorem isFloatForm_eq_false_of_mark (h : '\'' ∈ s) : s.isFloatForm = false := by
  rw [Bool.eq_false_iff]
  intro hfloat
  obtain ⟨w, f, hw, hf, rfl⟩ := exists_of_isFloatForm hfloat
  simp only [List.mem_append, List.mem_cons, Char.reduceEq, false_or] at h
  rcases h with h | h
  · exact absurd (hw _ h) (by decide)
  · exact absurd ((isDigits_iff.1 hf).2 _ h) (by decide)

theorem isBooleanForm_eq_false_of_mark (h : '\'' ∈ s) : s.isBooleanForm = false := by
  have hne (b : Bool) : s ≠ Value.booleanText b := by
    rintro rfl
    cases b <;> simp [Value.booleanText] at h
  simp [isBooleanForm, hne]

end Text

/-! ## The types of literals that may be refused -/

theorem ValueType.ofLiteral_eq_integer_iff {t : Text} :
    ofLiteral t = .integer ↔ t.trim.isDigits = true := by
  refine ⟨isDigits_of_type, fun h => ?_⟩
  simp only [ofLiteral, Text.isFloatForm_of_isDigits h, h, Bool.false_eq_true, if_false, if_true]

theorem ValueType.ofLiteral_eq_character_iff {t : Text} :
    ofLiteral t = .character ↔ t.trim.isCharacterForm = true := by
  constructor
  · intro h
    simp only [ofLiteral] at h
    split_ifs at h
    assumption
  · intro h
    have hmark := Text.mark_mem_of_isCharacterForm h
    simp only [ofLiteral, Text.isFloatForm_eq_false_of_mark hmark,
      Text.isDigits_eq_false_of_mark hmark, Text.isBooleanForm_eq_false_of_mark hmark, h,
      Bool.false_eq_true, if_false, if_true]

namespace Value

/-- A literal is refused for what it spells as an integer or as a character. -/
theorem ofLiteral_eq_error_iff {t : Text} {cause : LiteralError} :
    ofLiteral t = .error cause ↔
      cause = .integerTooLarge ∧ t.trim.SpellsTooLarge ∨
        cause = .malformedCharacter ∧ t.trim.HasStrayMarks := by
  rw [Text.spellsTooLarge_iff, Text.hasStrayMarks_iff, ← ValueType.ofLiteral_eq_integer_iff,
    ← ValueType.ofLiteral_eq_character_iff, ofLiteral]
  cases htype : ValueType.ofLiteral t with
  | integer => cases hread : t.trim.integer? <;> simp [ofLiteralAs, hread, eq_comm]
  | character => cases hread : t.trim.character? <;> simp [ofLiteralAs, hread, eq_comm]
  | float =>
    obtain ⟨w, f, -, -, -, hread⟩ := exists_point_of_type htype
    rw [ofLiteral, htype] at hread
    simp [hread]
  | _ => simp [ofLiteralAs]

/-- **A literal is refused exactly for digits beyond the range of integers and for
marks in the wrong places**, white space at its ends left out: as an integer that
is too large, or as a malformed character, and never as a decimal. Every other
literal is read as a value of the type whose grammar it fits. -/
theorem ofLiteral_refused_iff (t : Text) :
    (ofLiteral t = .error .integerTooLarge ↔ t.trim.SpellsTooLarge) ∧
    (ofLiteral t = .error .malformedCharacter ↔ t.trim.HasStrayMarks) ∧
    ofLiteral t ≠ .error .invalidFloat ∧
    (¬t.trim.SpellsTooLarge ∧ ¬t.trim.HasStrayMarks ↔
      ∃ v, ofLiteral t = .ok v ∧ v.type = ValueType.ofLiteral t) := by
  refine ⟨by simp [ofLiteral_eq_error_iff], by simp [ofLiteral_eq_error_iff],
    by simp [ofLiteral_eq_error_iff], ?_⟩
  cases hread : ofLiteral t with
  | error cause =>
    have hrefused := ofLiteral_eq_error_iff.1 hread
    refine ⟨fun ⟨hdigits, hmarks⟩ => ?_, fun ⟨v, hv, _⟩ => by cases hv⟩
    exact (hrefused.elim (fun h => hdigits h.2) fun h => hmarks h.2).elim
  | ok v =>
    have hnot (cause : LiteralError) : ofLiteral t ≠ .error cause := by simp [hread]
    refine ⟨fun _ => ⟨v, rfl, type_of_ofLiteralAs hread⟩, fun _ => ⟨fun h => ?_, fun h => ?_⟩⟩
    · exact hnot .integerTooLarge (ofLiteral_eq_error_iff.2 (.inl ⟨rfl, h⟩))
    · exact hnot .malformedCharacter (ofLiteral_eq_error_iff.2 (.inr ⟨rfl, h⟩))

/-- The largest integer and the one after it, with zeros in front. -/
example :
    ofLiteral "009223372036854775807".toList = .ok (integer (Int64.ofInt 9223372036854775807)) ∧
      ofLiteral "009223372036854775808".toList = .error .integerTooLarge := by
  decide +kernel

end Value

end LineScript
