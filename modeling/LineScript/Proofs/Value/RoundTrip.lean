/-
Values that are read back from their literals. The grammars of literals are
tried in turn; for each kind of value it is shown that no earlier grammar takes
its literal and that reading gives the value again. One exception each: numbers
below zero, the mark of characters as a character, and references to what reads
as a truth value.

Most grammars are ruled out by the first character.
-/
import LineScript.Proofs.Text.Identifiers
import LineScript.Value.Literal

namespace LineScript

namespace Text

variable {c : Char} {t : Text}

/-! ## Grammars that the first character rules out -/

theorem isDigits_cons_eq_false (hc : c.isDigit = false) (t : Text) : isDigits (c :: t) = false := by
  simp [isDigits, hc]

theorem isFloatForm_cons_eq_false (hdigit : c.isDigit = false) (hpoint : c ≠ '.') (t : Text) :
    isFloatForm (c :: t) = false := by
  rw [isFloatForm, cutAt?, if_neg hpoint]
  cases cutAt? '.' t with
  | none => rfl
  | some parts => simp [isDigits_cons_eq_false hdigit]

theorem isBooleanForm_cons_eq_false (htrue : c ≠ 't') (hfalse : c ≠ 'f') (t : Text) :
    isBooleanForm (c :: t) = false := by
  simp [isBooleanForm, Value.booleanText, htrue, hfalse]

theorem isTextForm_cons_eq_false (hc : c ≠ '"') (t : Text) : isTextForm (c :: t) = false := by
  simp [isTextForm, hc]

theorem isCharacterForm_eq_false (h : '\'' ∉ t) : isCharacterForm t = false := by
  simp [isCharacterForm, List.count_eq_zero.2 h]

theorem isFloatForm_of_isDigits (h : isDigits t = true) : isFloatForm t = false := by
  have hpoint : '.' ∉ t := by
    intro hmem
    simp only [isDigits, Bool.and_eq_true, List.all_eq_true] at h
    exact absurd (h.2 '.' hmem) (by decide)
  rw [isFloatForm, cutAt?_eq_none_iff.2 hpoint]

end Text

theorem Arithmetic.isArithmetic_cons_eq_false {c : Char} (hblank : isBlank c = false)
    (hdigit : c.isDigit = false) (htoken : Token.ofChar? c = none) (t : Text) :
    isArithmetic (c :: t) = false := by
  have htokens : tokens? ((c :: t).filter fun c => !isBlank c) = none := by
    rw [List.filter_cons_of_pos (by simp [hblank]), tokens?, hdigit, htoken]
    rfl
  rw [isArithmetic, htokens]

namespace Value

/-! ## Numbers -/

theorem ofLiteral_natural {n : Nat} (h : n < Text.integerLimit) :
    ofLiteral (Nat.toDigits 10 n) = .ok (integer (Int64.ofInt n)) := by
  have hdigits := Text.isDigits_toDigits n
  have htrim := (Text.isWord_of_isDigits hdigits).trim
  have htype : ValueType.ofLiteral (Nat.toDigits 10 n) = .integer := by
    simp only [ValueType.ofLiteral, htrim, Text.isFloatForm_of_isDigits hdigits, hdigits,
      Bool.false_eq_true, if_false, if_true]
  have hinteger : Text.integer? (Nat.toDigits 10 n) = some (Int64.ofInt n) := by
    simp only [Text.integer?, Text.cutSign_of_isDigits hdigits, hdigits, Text.digitsValue_toDigits,
      if_pos h]
    rfl
  rw [ofLiteral, htype]
  simp only [ofLiteralAs, htrim, hinteger]

/-- A number that is not below zero is written with digits only. -/
theorem toLiteral_integer {i : Int64} (h : 0 ≤ i.toInt) :
    ∃ n : Nat, n < Text.integerLimit ∧ i = Int64.ofInt n ∧
      (integer i).toLiteral = Nat.toDigits 10 n := by
  obtain ⟨n, hn⟩ := Int.eq_ofNat_of_zero_le h
  have hlt := i.toInt_lt
  rw [hn] at hlt
  refine ⟨n, Int.ofNat_lt.1 hlt, ?_, ?_⟩
  · rw [← hn, Int64.ofInt_toInt]
  · rw [toLiteral, hn]
    rfl

theorem ofLiteral_integer {i : Int64} (h : 0 ≤ i.toInt) :
    ofLiteral (integer i).toLiteral = .ok (integer i) := by
  obtain ⟨n, hlt, hi, hlit⟩ := toLiteral_integer h
  rw [hlit, hi, ofLiteral_natural hlt]

/-! ## Truth values, characters and texts -/

theorem ofLiteral_boolean (b : Bool) : ofLiteral (boolean b).toLiteral = .ok (boolean b) := by
  cases b <;> decide +kernel

theorem ofLiteral_character {c : Char} (h : c ≠ '\'') :
    ofLiteral (character c).toLiteral = .ok (character c) := by
  have hlast : ['\'', c, '\''].getLast? = some '\'' := rfl
  have htrim : Text.trim ['\'', c, '\''] = ['\'', c, '\''] :=
    Text.trim_eq_self (by decide) hlast (by decide)
  have htype : ValueType.ofLiteral ['\'', c, '\''] = .character := by
    have hfloat := Text.isFloatForm_cons_eq_false (c := '\'') (by decide) (by decide) [c, '\'']
    have hdigits := Text.isDigits_cons_eq_false (c := '\'') (by decide) [c, '\'']
    have hboolean := Text.isBooleanForm_cons_eq_false (c := '\'') (by decide) (by decide) [c, '\'']
    have hcharacter : Text.isCharacterForm ['\'', c, '\''] = true := by
      simp [Text.isCharacterForm, h]
    simp only [ValueType.ofLiteral, htrim, hfloat, hdigits, hboolean, hcharacter,
      Bool.false_eq_true, if_false, if_true]
  rw [toLiteral, ofLiteral, htype]
  simp only [ofLiteralAs, htrim, Text.character?, if_neg h]

theorem trim_text (t : Text) : (text t).toLiteral.trim = (text t).toLiteral :=
  Text.trim_eq_self (by decide) (List.getLast?_concat (l := '"' :: t)) (by decide)

/-- What is in quotes is a text, whatever it is. -/
theorem type_ofLiteral_text (t : Text) : ValueType.ofLiteral (text t).toLiteral = .text := by
  have htrim := trim_text t
  have hlit : (text t).toLiteral = '"' :: (t ++ ['"']) := rfl
  rw [hlit] at htrim ⊢
  have hfloat := Text.isFloatForm_cons_eq_false (c := '"') (by decide) (by decide) (t ++ ['"'])
  have hdigits := Text.isDigits_cons_eq_false (c := '"') (by decide) (t ++ ['"'])
  have hboolean := Text.isBooleanForm_cons_eq_false (c := '"') (by decide) (by decide) (t ++ ['"'])
  have hcharacter : Text.isCharacterForm ('"' :: (t ++ ['"'])) = false := by
    have hcount := List.count_le_length (a := '\'') (l := t)
    simp only [Text.isCharacterForm, List.count_cons, List.count_append, List.count_nil,
      List.length_cons, List.length_append, List.length_nil, Bool.and_eq_false_iff,
      decide_eq_false_iff_not]
    simp
    omega
  have htext : Text.isTextForm ('"' :: (t ++ ['"'])) = true := by
    have hlast : ('"' :: (t ++ ['"'])).getLast? = some '"' := List.getLast?_concat (l := '"' :: t)
    simp [Text.isTextForm, hlast]
  simp only [ValueType.ofLiteral, htrim, hfloat, hdigits, hboolean, hcharacter, htext,
    Bool.false_eq_true, if_false, if_true]

theorem between?_text (t : Text) : (text t).toLiteral.between? '"' '"' = some t :=
  Text.between?_eq_some_iff.2 rfl

theorem ofLiteral_text (t : Text) : ofLiteral (text t).toLiteral = .ok (text t) := by
  rw [ofLiteral, type_ofLiteral_text]
  simp only [ofLiteralAs, trim_text, between?_text, Option.getD_some]

/-! ## References -/

theorem type_ofLiteral_identifier {name : Text} (h : name.isIdentifier = true)
    (hboolean : ∀ b, name ≠ booleanText b) : ValueType.ofLiteral name = .reference := by
  have htrim := (Text.isWord_of_isIdentifier h).trim
  have hmark := Text.not_mem_of_isIdentifier h (c := '\'') (by decide +kernel)
  have hform : name.isBooleanForm = false := by simp [Text.isBooleanForm, hboolean]
  obtain ⟨c, rest, rfl, hc⟩ := Text.exists_start_of_isIdentifier h
  have hne : ∀ d, Text.isIdentifierStart d = false → c ≠ d := by
    rintro d hd rfl
    rw [hd] at hc
    cases hc
  have hdigit : c.isDigit = false := by
    cases hdig : c.isDigit with
    | false => rfl
    | true => exact absurd rfl (hne c (Text.isIdentifierStart_of_isDigit hdig))
  have hblank : isBlank c = false :=
    (Text.isWord_of_isIdentifier h).solid c (List.mem_cons_self ..)
  have htoken : Arithmetic.Token.ofChar? c = none := by
    unfold Arithmetic.Token.ofChar?
    split
    case h_7 => rfl
    all_goals exact absurd rfl (hne _ (by decide))
  have hpoint := hne '.' (by decide +kernel)
  have hquote := hne '"' (by decide +kernel)
  simp only [ValueType.ofLiteral, htrim, Text.isFloatForm_cons_eq_false hdigit hpoint,
    Text.isDigits_cons_eq_false hdigit, hform, Text.isCharacterForm_eq_false hmark,
    Text.isTextForm_cons_eq_false hquote,
    Arithmetic.isArithmetic_cons_eq_false hblank hdigit htoken, Bool.false_eq_true, if_false]

theorem ofLiteral_identifier {name : Text} (h : name.isIdentifier = true)
    (hboolean : ∀ b, name ≠ booleanText b) :
    ofLiteral (reference name).toLiteral = .ok (reference name) := by
  rw [toLiteral, ofLiteral, type_ofLiteral_identifier h hboolean]
  simp only [ofLiteralAs, (Text.isWord_of_isIdentifier h).trim]

end Value

end LineScript
