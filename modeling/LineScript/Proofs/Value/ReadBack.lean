/-
What is written for a value and read again. `IsReadable` says of each kind of
value which ones come back; every other one is written as a text of some other
type. A value that was itself read from a text is readable with one exception:
digits beyond the largest finite number are read as infinity, and infinity is
written as a word.
-/
import LineScript.Proofs.Double.Reading
import LineScript.Proofs.Value.RoundTrip

namespace LineScript

namespace Text

variable {c : Char} {t w f : Text}

/-! ## Digits around a point -/

theorem isFloatForm_point (hw : ∀ c ∈ w, c.isDigit = true) (hf : isDigits f = true) :
    isFloatForm (w ++ '.' :: f) = true := by
  have hpoint : '.' ∉ w := fun hmem => absurd (hw '.' hmem) (by decide)
  rw [isFloatForm, cutAt?_append_cons hpoint]
  cases w with
  | nil => simp [hf]
  | cons c w => simp [isDigits_iff.2 ⟨List.cons_ne_nil c w, hw⟩, hf]

theorem exists_of_isFloatForm (h : isFloatForm t = true) :
    ∃ w f, (∀ c ∈ w, c.isDigit = true) ∧ isDigits f = true ∧ t = w ++ '.' :: f := by
  rw [isFloatForm] at h
  cases hcut : cutAt? '.' t with
  | none => simp [hcut] at h
  | some parts =>
    obtain ⟨w, f⟩ := parts
    rw [hcut] at h
    simp only [Bool.and_eq_true, Bool.or_eq_true, List.isEmpty_iff] at h
    refine ⟨w, f, ?_, h.2, eq_of_cutAt? hcut⟩
    rcases h.1 with rfl | hw
    · simp
    · exact (isDigits_iff.1 hw).2

theorem isWord_point (hw : ∀ c ∈ w, c.isDigit = true) (hf : isDigits f = true) :
    IsWord (w ++ '.' :: f) where
  ne_nil := by simp
  solid c hc := by
    rw [List.mem_append, List.mem_cons] at hc
    rcases hc with hc | rfl | hc
    · exact isBlank_of_isDigit (hw c hc)
    · decide
    · exact isBlank_of_isDigit ((isDigits_iff.1 hf).2 c hc)

theorem ne_mark_of_character? (h : character? t = some c) : c ≠ '\'' := by
  unfold character? at h
  split at h
  next =>
    split at h
    next => cases h
    next hmark => exact Option.some.inj h ▸ hmark
  next => cases h

/-- Digits without a sign are read as no number below zero. -/
theorem toInt_integer? {i : Int64} (h : isDigits t = true) (hi : integer? t = some i) :
    0 ≤ i.toInt := by
  simp only [integer?, cutSign_of_isDigits h, h, Bool.not_true, Bool.false_eq_true, if_false] at hi
  split at hi
  next hlt =>
    obtain rfl := Option.some.inj hi
    have hrange : (digitsValue t : Int) < integerLimit := Int.ofNat_lt.2 hlt
    rw [Int64.toInt_ofInt_of_le (by omega) hrange]
    omega
  next => cases hi

end Text

/-! ## The first character and the type -/

theorem ValueType.isFloatForm_of_type {t : Text} (h : ofLiteral t = .float) :
    t.trim.isFloatForm = true := by
  simp only [ofLiteral] at h
  split_ifs at h
  assumption

theorem ValueType.isDigits_of_type {t : Text} (h : ofLiteral t = .integer) :
    t.trim.isDigits = true := by
  simp only [ofLiteral] at h
  split_ifs at h
  assumption

theorem ValueType.ofLiteral_ne_float {c : Char} (hblank : isBlank c = false)
    (hdigit : c.isDigit = false) (hpoint : c ≠ '.') (t : Text) :
    ofLiteral (c :: t) ≠ .float := by
  intro h
  have hform := isFloatForm_of_type h
  rw [Text.trim_cons hblank, Text.isFloatForm_cons_eq_false hdigit hpoint] at hform
  cases hform

theorem ValueType.ofLiteral_ne_integer {c : Char} (hblank : isBlank c = false)
    (hdigit : c.isDigit = false) (t : Text) : ofLiteral (c :: t) ≠ .integer := by
  intro h
  have hform := isDigits_of_type h
  rw [Text.trim_cons hblank, Text.isDigits_cons_eq_false hdigit] at hform
  cases hform

theorem ValueType.ofLiteral_trim (t : Text) : ofLiteral t.trim = ofLiteral t := by
  simp only [ofLiteral, Text.trim_trim]

namespace Value

/-! ## Doubles -/

theorem ofLiteral_point {w f : Text} (hw : ∀ c ∈ w, c.isDigit = true)
    (hf : f.isDigits = true) :
    ofLiteral (w ++ '.' :: f) = .ok (float (Double.nearest false (Text.digitsValue (w ++ f))
      (Nat.pow 10 f.length))) := by
  have htrim := (Text.isWord_point hw hf).trim
  have htype : ValueType.ofLiteral (w ++ '.' :: f) = .float := by
    simp only [ValueType.ofLiteral, htrim, Text.isFloatForm_point hw hf, if_true]
  have hne : w ++ f ≠ [] := by simp [(Text.isDigits_iff.1 hf).1]
  rw [ofLiteral, htype]
  simp only [ofLiteralAs, htrim, Double.ofText?_point hw (Text.isDigits_iff.1 hf).2 hne]

theorem exists_floatLiteral {x : Double} (hfinite : x.isFinite = true)
    (hsign : x.isNegative = false) :
    ∃ w f, Text.isDigits w = true ∧ Text.isDigits f = true ∧ floatLiteral x = w ++ '.' :: f ∧
      Double.nearest false (Text.digitsValue (w ++ f)) (Nat.pow 10 f.length) = x := by
  obtain ⟨w, f, hw, hf, hshape, hvalue⟩ := Double.exists_toText hfinite hsign
  refine ⟨w, f, hw, hf, ?_, hvalue⟩
  rcases hshape with ⟨htext, rfl⟩ | htext
  · have hpoint : '.' ∉ w := fun hmem => absurd ((Text.isDigits_iff.1 hw).2 '.' hmem) (by decide)
    simp only [floatLiteral, htext, if_neg hpoint]
  · have hpoint : '.' ∈ w ++ '.' :: f := by simp
    simp only [floatLiteral, htext, if_pos hpoint]

theorem ofLiteral_float {x : Double} (hfinite : x.isFinite = true)
    (hsign : x.isNegative = false) : ofLiteral (float x).toLiteral = .ok (float x) := by
  obtain ⟨w, f, hw, hf, hlit, hvalue⟩ := exists_floatLiteral hfinite hsign
  rw [toLiteral, hlit, ofLiteral_point (Text.isDigits_iff.1 hw).2 hf, hvalue]

/-- Numbers with a sign and what is no finite number do not start as a decimal. -/
theorem exists_toText_cons {x : Double} (h : ¬(x.isFinite = true ∧ x.isNegative = false)) :
    ∃ c t, x.toText = c :: t ∧ isBlank c = false ∧ c.isDigit = false ∧ c ≠ '.' := by
  rw [Double.toText]
  split
  · exact ⟨'N', _, rfl, by decide⟩
  · cases hsign : x.isNegative with
    | true => exact ⟨'-', _, rfl, by decide⟩
    | false =>
      have hfinite : x.isFinite = false := by simpa [hsign] using h
      exact ⟨'i', ['n', 'f'], by simp [hfinite], by decide⟩

theorem type_floatLiteral_ne {x : Double} (h : ¬(x.isFinite = true ∧ x.isNegative = false)) :
    ValueType.ofLiteral (floatLiteral x) ≠ .float := by
  obtain ⟨c, t, htext, hblank, hdigit, hpoint⟩ := exists_toText_cons h
  rw [floatLiteral, htext]
  split
  · exact ValueType.ofLiteral_ne_float hblank hdigit hpoint t
  · exact ValueType.ofLiteral_ne_float hblank hdigit hpoint (t ++ ['.', '0'])

/-! ## Values that are read back -/

/-- The values that are read back from their literals. -/
def IsReadable : Value → Prop
  | integer i => 0 ≤ i.toInt
  | float x => x.isFinite = true ∧ x.isNegative = false
  | character c => c ≠ '\''
  | boolean _ | text _ => True
  | arithmetic raw => raw.trim = raw ∧ ValueType.ofLiteral raw = .arithmetic
  | reference raw => raw.trim = raw ∧ ValueType.ofLiteral raw = .reference

instance : DecidablePred IsReadable
  | integer i => inferInstanceAs (Decidable (0 ≤ i.toInt))
  | float x => inferInstanceAs (Decidable (x.isFinite = true ∧ x.isNegative = false))
  | character c => inferInstanceAs (Decidable (c ≠ '\''))
  | boolean _ | text _ => inferInstanceAs (Decidable True)
  | arithmetic raw =>
    inferInstanceAs (Decidable (raw.trim = raw ∧ ValueType.ofLiteral raw = .arithmetic))
  | reference raw =>
    inferInstanceAs (Decidable (raw.trim = raw ∧ ValueType.ofLiteral raw = .reference))

theorem IsReadable.ofLiteral_toLiteral {v : Value} (h : v.IsReadable) :
    ofLiteral v.toLiteral = .ok v := by
  cases v with
  | integer i => exact ofLiteral_integer h
  | float x => exact ofLiteral_float h.1 h.2
  | character c => exact ofLiteral_character h
  | boolean b => exact ofLiteral_boolean b
  | text t => exact ofLiteral_text t
  | arithmetic raw =>
    rw [toLiteral, ofLiteral, h.2]
    simp only [ofLiteralAs, h.1]
  | reference raw =>
    rw [toLiteral, ofLiteral, h.2]
    simp only [ofLiteralAs, h.1]

/-- Nothing else comes back, not even as an equal value. -/
theorem isReadable_of_same {v w : Value} (h : ofLiteral v.toLiteral = .ok w) (hsame : Same v w) :
    v.IsReadable := by
  have htype : ValueType.ofLiteral v.toLiteral = v.type := by
    rw [hsame.type_eq, type_of_ofLiteralAs h]
  cases v with
  | integer i =>
    show 0 ≤ i.toInt
    cases hi : i.toInt with
    | ofNat n => exact Int.natCast_nonneg n
    | negSucc n =>
      rw [toLiteral, hi] at htype
      exact absurd htype (ValueType.ofLiteral_ne_integer (by decide) (by decide) _)
  | float x => exact not_not.1 fun hnot => type_floatLiteral_ne hnot htype
  | character c =>
    rintro rfl
    exact absurd htype (by decide +kernel)
  | boolean | text => trivial
  | arithmetic raw =>
    have htyped : ValueType.ofLiteral raw = .arithmetic := htype
    rw [toLiteral, ofLiteral, htyped] at h
    obtain rfl := Except.ok.inj h
    exact ⟨(arithmetic.inj hsame).symm, htyped⟩
  | reference raw =>
    have htyped : ValueType.ofLiteral raw = .reference := htype
    rw [toLiteral, ofLiteral, htyped] at h
    obtain rfl := Except.ok.inj h
    exact ⟨(reference.inj hsame).symm, htyped⟩

theorem roundTrips_iff {v : Value} :
    v.roundTrips = true ↔ ∃ w, ofLiteral v.toLiteral = .ok w ∧ Same v w := by
  rw [roundTrips]
  cases ofLiteral v.toLiteral with
  | error => simp
  | ok w => simp

/-- **A value is read back from its literal, as it is or as one that counts as
equal to it, if and only if it is readable.** -/
theorem reads_back_iff (v : Value) :
    (ofLiteral v.toLiteral = .ok v ↔ v.IsReadable) ∧ (v.roundTrips = true ↔ v.IsReadable) := by
  refine ⟨⟨fun h => isReadable_of_same h (.refl v), fun h => h.ofLiteral_toLiteral⟩, ?_⟩
  rw [roundTrips_iff]
  exact ⟨fun ⟨w, h, hsame⟩ => isReadable_of_same h hsame,
    fun h => ⟨v, h.ofLiteral_toLiteral, .refl v⟩⟩

/-! ## Literals that are read again -/

/-- Whether a literal is a decimal beyond the range of doubles. -/
def Overflows (t : Text) : Prop :=
  ∃ w f, (∀ c ∈ w, c.isDigit = true) ∧ Text.isDigits f = true ∧ t.trim = w ++ '.' :: f ∧
    Double.overflowLimit * Nat.pow 10 f.length ≤ Text.digitsValue (w ++ f)

theorem ofLiteral_trim (t : Text) : ofLiteral t.trim = ofLiteral t := by
  simp only [ofLiteral, ofLiteralAs, ValueType.ofLiteral_trim, Text.trim_trim]

/-- A literal of the type of doubles, taken apart. -/
theorem exists_point_of_type {t : Text} (h : ValueType.ofLiteral t = .float) :
    ∃ w f, (∀ c ∈ w, c.isDigit = true) ∧ Text.isDigits f = true ∧ t.trim = w ++ '.' :: f ∧
      ofLiteral t = .ok (float (Double.nearest false (Text.digitsValue (w ++ f))
        (Nat.pow 10 f.length))) := by
  obtain ⟨w, f, hw, hf, ht⟩ := Text.exists_of_isFloatForm (ValueType.isFloatForm_of_type h)
  exact ⟨w, f, hw, hf, ht, by rw [← ofLiteral_trim, ht, ofLiteral_point hw hf]⟩

theorem ofLiteral_eq_infinity_iff (t : Text) :
    ofLiteral t = .ok (float (Double.infinity false)) ↔ Overflows t := by
  constructor
  · intro h
    obtain ⟨w, f, hw, hf, ht, hread⟩ := exists_point_of_type (type_of_ofLiteralAs h).symm
    rw [hread] at h
    have hvalue := float.inj (Except.ok.inj h)
    exact ⟨w, f, hw, hf, ht,
      (Double.nearest_eq_infinity_iff false (Decimal.ten_pow_pos _)).1 hvalue⟩
  · rintro ⟨w, f, hw, hf, ht, hlimit⟩
    rw [← ofLiteral_trim, ht, ofLiteral_point hw hf,
      (Double.nearest_eq_infinity_iff false (Decimal.ten_pow_pos _)).2 hlimit]

instance : DecidablePred Overflows :=
  fun t => decidable_of_iff _ (ofLiteral_eq_infinity_iff t)

/-- What a literal is read as is readable, if it is not infinity. -/
theorem isReadable_of_ofLiteral {t : Text} {v : Value} (h : ofLiteral t = .ok v)
    (hfinite : v ≠ float (Double.infinity false)) : v.IsReadable := by
  have hread := h
  rw [ofLiteral, ← type_of_ofLiteralAs h] at hread
  have htype := (type_of_ofLiteralAs h).symm
  cases v with
  | integer i =>
    simp only [ofLiteralAs, type] at hread
    split at hread
    next => cases hread
    next j hj =>
      obtain rfl := integer.inj (Except.ok.inj hread)
      exact Text.toInt_integer? (ValueType.isDigits_of_type htype) hj
  | float x =>
    obtain ⟨w, f, _, _, _, hvalue⟩ := exists_point_of_type htype
    obtain rfl := float.inj (Except.ok.inj (hvalue.symm.trans h))
    exact ⟨Double.isFinite_nearest fun hinf => hfinite (by rw [hinf]),
      Double.isNegative_nearest false _ _⟩
  | character c =>
    simp only [ofLiteralAs, type] at hread
    split at hread
    next => cases hread
    next d hd =>
      obtain rfl := character.inj (Except.ok.inj hread)
      exact Text.ne_mark_of_character? hd
  | boolean | text => trivial
  | arithmetic raw =>
    obtain rfl := arithmetic.inj (Except.ok.inj hread)
    exact ⟨Text.trim_trim t, (ValueType.ofLiteral_trim t).trans htype⟩
  | reference raw =>
    obtain rfl := reference.inj (Except.ok.inj hread)
    exact ⟨Text.trim_trim t, (ValueType.ofLiteral_trim t).trans htype⟩

/-- **What is read from a literal is read again from what is written for it,
unless the literal is a decimal beyond the range of doubles.** That is read as
infinity, and the literal of infinity as a reference. -/
theorem literal_survives_iff {t : Text} {v : Value} (h : ofLiteral t = .ok v) :
    (ofLiteral v.toLiteral = .ok v ↔ ¬Overflows t) ∧
      (Overflows t → v = float (Double.infinity false) ∧
        ofLiteral v.toLiteral = .ok (reference ['i', 'n', 'f', '.', '0'])) := by
  have hinfinity : v = float (Double.infinity false) ↔ Overflows t := by
    rw [← ofLiteral_eq_infinity_iff, h]
    exact ⟨congrArg Except.ok, Except.ok.inj⟩
  have hlost : ofLiteral (float (Double.infinity false)).toLiteral =
      .ok (reference ['i', 'n', 'f', '.', '0']) := by decide +kernel
  refine ⟨⟨fun hagain hover => ?_, fun hrange => ?_⟩, fun hover => ?_⟩
  · rw [hinfinity.2 hover, hlost] at hagain
    cases hagain
  · exact (isReadable_of_ofLiteral h fun heq => hrange (hinfinity.1 heq)).ofLiteral_toLiteral
  · rw [hinfinity.2 hover]
    exact ⟨rfl, hlost⟩

/-- White space, no digits in front of the point and a zero too many behind it. -/
theorem literal_survives_half :
    ofLiteral [' ', '.', '5', '0'] = .ok (float ⟨0x3FE0000000000000⟩) ∧
      ofLiteral (float ⟨0x3FE0000000000000⟩).toLiteral = .ok (float ⟨0x3FE0000000000000⟩) :=
  have hread : ofLiteral [' ', '.', '5', '0'] = .ok (float ⟨0x3FE0000000000000⟩) := by
    decide +kernel
  ⟨hread, (literal_survives_iff hread).1.2 (by decide +kernel)⟩

/-- A one with more than three hundred zeros is read, but not read again. -/
theorem literal_lost_beyond_range :
    ofLiteral ('1' :: List.replicate 309 '0' ++ ['.', '0']) =
        .ok (float (Double.infinity false)) ∧
      ofLiteral (float (Double.infinity false)).toLiteral ≠
        .ok (float (Double.infinity false)) := by
  constructor <;> decide +kernel

end Value

end LineScript
