/-
Doubles that are read back from their texts. A finite number is written in
digits, with a point and more digits where it is no whole number; whatever
digits the search for the shortest decimal finds, the nearest double to the
number they spell is the one that was written.
-/
import LineScript.Double.Shortest
import LineScript.Proofs.Double.Nearest
import Mathlib.Data.List.DropRight

namespace LineScript

namespace Text

variable {t w f : Text}

/-! ## Digits -/

theorem digitsValue_append (t u : Text) :
    digitsValue (t ++ u) = digitsValue t * Nat.pow 10 u.length + digitsValue u := by
  rw [digitsValue, Nat.ofDigitChars_append, Nat.ofDigitChars_eq_ofDigitChars_zero, Nat.mul_comm]
  rfl

theorem digitsValue_append_zeros (t : Text) (n : Nat) :
    digitsValue (t ++ List.replicate n '0') = digitsValue t * Nat.pow 10 n := by
  rw [digitsValue, Nat.ofDigitChars_append, Nat.ofDigitChars_replicate_zero, Nat.mul_comm]
  rfl

theorem digitsValue_zeros_append (t : Text) (n : Nat) :
    digitsValue (List.replicate n '0' ++ t) = digitsValue t := by
  rw [digitsValue, Nat.ofDigitChars_append, Nat.ofDigitChars_replicate_zero, Nat.mul_zero]
  rfl

theorem takeWhile_digits (hw : ∀ c ∈ w, c.isDigit = true) (f : Text) :
    (w ++ '.' :: f).takeWhile Char.isDigit = w := by
  simp [List.takeWhile_append_of_pos hw]

theorem dropWhile_digits (hw : ∀ c ∈ w, c.isDigit = true) (f : Text) :
    (w ++ '.' :: f).dropWhile Char.isDigit = '.' :: f := by
  rw [List.dropWhile_append_of_pos hw]
  rfl

theorem cutSign_point (hw : ∀ c ∈ w, c.isDigit = true) (f : Text) :
    cutSign (w ++ '.' :: f) = (false, w ++ '.' :: f) := by
  cases w with
  | nil => rfl
  | cons c w => exact cutSign_of_isDigit (hw c (List.mem_cons_self ..)) (w ++ '.' :: f)

end Text

namespace Decimal

variable {w f : Text}

theorem ten_pow_pos (k : Nat) : 0 < Nat.pow 10 k :=
  Nat.pow_pos (by decide)

theorem ratio_pos (d : Decimal) : 0 < d.ratio.2 := by
  obtain ⟨c, e | e⟩ := d
  · exact Nat.one_pos
  · exact ten_pow_pos (e + 1)

/-! ## Reading -/

theorem ofText?_point (hw : ∀ c ∈ w, c.isDigit = true) (hf : ∀ c ∈ f, c.isDigit = true)
    (hne : w ++ f ≠ []) :
    ofText? (w ++ '.' :: f) = some ⟨Text.digitsValue (w ++ f), -(f.length : Int)⟩ := by
  have htake : f.takeWhile Char.isDigit = f := by simpa using hf
  have hdrop : f.dropWhile Char.isDigit = [] := by simpa using hf
  have hclamp : clampExponent (w ++ f).length 0 - (f.length : Int) = -(f.length : Int) := by
    simp only [clampExponent]
    omega
  simp only [ofText?, Text.takeWhile_digits hw, Text.dropWhile_digits hw, cutFraction, htake,
    hdrop, List.isEmpty_eq_false_iff.2 hne, exponentOf?, Option.bind_eq_bind, Option.bind_some,
    hclamp, Bool.false_eq_true, if_false]

theorem nearest_fraction (negative : Bool) (n places : Nat) :
    nearest negative ⟨n, -(places : Int)⟩ = Double.nearest negative n (Nat.pow 10 places) := by
  cases places with
  | zero =>
    show Double.nearest negative (n * Nat.pow 10 0) 1 = _
    rw [show Nat.pow 10 0 = 1 from rfl, Nat.mul_one]
  | succ k => rfl

end Decimal

theorem Double.ofText?_point {w f : Text} (hw : ∀ c ∈ w, c.isDigit = true)
    (hf : ∀ c ∈ f, c.isDigit = true) (hne : w ++ f ≠ []) :
    Double.ofText? (w ++ '.' :: f) =
      some (nearest false (Text.digitsValue (w ++ f)) (Nat.pow 10 f.length)) := by
  rw [ofText?, Text.cutSign_point hw]
  simp only [Decimal.ofText?_point hw hf hne, Decimal.nearest_fraction]

namespace Decimal

/-! ## Writing -/

/-- Digits before and after a point that spell the number `n / d`. -/
structure Spells (whole fraction : Text) (n d : Nat) : Prop where
  whole_digits : Text.isDigits whole = true
  fraction_digits : Text.isDigits fraction = true
  value : Text.digitsValue (whole ++ fraction) * d = n * Nat.pow 10 fraction.length

/-- The zeros that are left out of a fraction. -/
theorem exists_fractionDigits {places n : Nat} (hplaces : 0 < places)
    (hn : n < Nat.pow 10 places) :
    ∃ zeros, (fractionDigits places n).length + zeros = places ∧
      (∀ c ∈ fractionDigits places n, c.isDigit = true) ∧
      Text.digitsValue (fractionDigits places n) * Nat.pow 10 zeros = n := by
  have hlength : (Nat.toDigits 10 n).length ≤ places :=
    (Nat.length_toDigits_le_iff (by decide) hplaces).2 hn
  generalize hpadded : List.replicate (places - (Nat.toDigits 10 n).length) '0' ++
    Nat.toDigits 10 n = padded
  have hfraction : fractionDigits places n = padded.rdropWhile (· = '0') := by
    rw [← hpadded]
    rfl
  obtain ⟨zeros, hzeros⟩ : ∃ zeros, padded = padded.rdropWhile (· = '0') ++
      List.replicate zeros '0' := by
    have hall := List.eq_replicate_of_mem (l := padded.rtakeWhile (· = '0')) (a := '0')
      fun c hc => by simpa using List.mem_rtakeWhile_imp hc
    exact ⟨_, by rw [← hall, List.rdropWhile_append_rtakeWhile]⟩
  have hdigits : ∀ c ∈ padded, c.isDigit = true := by
    intro c hc
    rw [← hpadded, List.mem_append] at hc
    rcases hc with hc | hc
    · rw [List.eq_of_mem_replicate hc]
      rfl
    · exact Nat.isDigit_of_mem_toDigits (by decide) (by decide) hc
  rw [hfraction]
  refine ⟨zeros, ?_, ?_, ?_⟩
  · have hcount : padded.length = places := by
      rw [← hpadded, List.length_append, List.length_replicate]
      omega
    rw [hzeros, List.length_append, List.length_replicate] at hcount
    exact hcount
  · exact fun c hc => hdigits c (hzeros ▸ List.mem_append_left _ hc)
  · rw [← Text.digitsValue_append_zeros, ← hzeros, ← hpadded, Text.digitsValue_zeros_append,
      Text.digitsValue_toDigits]

/-- A whole number, with a zero behind the point. -/
theorem spells_whole {n d q : Nat} (h : q * d = n) : Spells (Nat.toDigits 10 q) ['0'] n d where
  whole_digits := Text.isDigits_toDigits q
  fraction_digits := rfl
  value := by
    rw [Text.digitsValue_append, Text.digitsValue_toDigits, ← h, Nat.mul_right_comm]
    rfl

/-- A whole part and a fraction that lacks some zeros at its end. -/
theorem spells_fraction {c places zeros : Nat} {f : Text} (hdigits : Text.isDigits f = true)
    (hlength : f.length + zeros = places)
    (hvalue : Text.digitsValue f * Nat.pow 10 zeros = c % Nat.pow 10 places) :
    Spells (Nat.toDigits 10 (c / Nat.pow 10 places)) f c (Nat.pow 10 places) where
  whole_digits := Text.isDigits_toDigits _
  fraction_digits := hdigits
  value := by
    have hscale : Nat.pow 10 places = Nat.pow 10 zeros * Nat.pow 10 f.length := by
      rw [Nat.mul_comm, ← hlength]
      exact Nat.pow_add 10 f.length zeros
    calc Text.digitsValue (Nat.toDigits 10 (c / Nat.pow 10 places) ++ f) * Nat.pow 10 places
        = c / Nat.pow 10 places * Nat.pow 10 places * Nat.pow 10 f.length +
            Text.digitsValue f * Nat.pow 10 places := by
          rw [Text.digitsValue_append, Text.digitsValue_toDigits, Nat.add_mul,
            Nat.mul_right_comm]
      _ = c / Nat.pow 10 places * Nat.pow 10 places * Nat.pow 10 f.length +
            c % Nat.pow 10 places * Nat.pow 10 f.length := by
          rw [← hvalue, Nat.mul_assoc (Text.digitsValue f), ← hscale]
      _ = c * Nat.pow 10 f.length := by rw [← Nat.add_mul, Nat.div_add_mod']

theorem exists_toText (d : Decimal) :
    ∃ whole fraction, Spells whole fraction d.ratio.1 d.ratio.2 ∧
      (d.toText = whole ∧ fraction = ['0'] ∨ d.toText = whole ++ '.' :: fraction) := by
  obtain ⟨c, e | e⟩ := d
  · refine ⟨Nat.toDigits 10 (c * Nat.pow 10 e), ['0'], ?_, .inl ⟨rfl, rfl⟩⟩
    exact spells_whole (by rw [ratio, Nat.mul_one])
  · have hlt : c % Nat.pow 10 (e + 1) < Nat.pow 10 (e + 1) :=
      Nat.mod_lt c (Nat.pow_pos (by decide))
    obtain ⟨zeros, hlength, hdigits, hvalue⟩ := exists_fractionDigits (Nat.succ_pos e) hlt
    cases hfraction : fractionDigits (e + 1) (c % Nat.pow 10 (e + 1)) with
    | nil =>
      refine ⟨Nat.toDigits 10 (c / Nat.pow 10 (e + 1)), ['0'], spells_whole ?_, .inl ⟨?_, rfl⟩⟩
      · have hzero : c % Nat.pow 10 (e + 1) = 0 := by
          rw [hfraction] at hvalue
          exact hvalue.symm.trans (Nat.zero_mul _)
        exact Nat.div_mul_cancel (Nat.dvd_of_mod_eq_zero hzero)
      · simp only [toText, hfraction]
    | cons x rest =>
      rw [hfraction] at hlength hdigits hvalue
      have hfract : Text.isDigits (x :: rest) = true :=
        Text.isDigits_iff.2 ⟨List.cons_ne_nil x rest, hdigits⟩
      refine ⟨Nat.toDigits 10 (c / Nat.pow 10 (e + 1)), x :: rest,
        spells_fraction hfract hlength hvalue, .inr ?_⟩
      simp only [toText, hfraction]

end Decimal

namespace Double

/-! ## Numbers from their texts -/

theorem onGrid?_nearest {x : Double} {e : Int} {d : Decimal} (h : x.onGrid? e = some d) :
    d.nearest false = x := by
  have htry : ∀ nearer further : Decimal,
      (if nearer.nearest false = x then some nearer
        else if further.nearest false = x then some further else none) = some d →
      d.nearest false = x := by
    intro nearer further h
    split at h
    next hnearer => exact Option.some.inj h ▸ hnearer
    next =>
      split at h
      next hfurther => exact Option.some.inj h ▸ hfurther
      next => cases h
  exact htry _ _ h

theorem exactDecimal_nearest {x : Double} (hfinite : x.isFinite = true)
    (hsign : x.isNegative = false) : x.exactDecimal.nearest false = x := by
  have hcancel : ∀ k : Nat, Decimal.nearest false ⟨x.units * Nat.pow 5 k, -(k : Int)⟩ =
      nearest false x.units (Nat.pow 2 k) := by
    intro k
    rw [Decimal.nearest_fraction]
    refine nearest_eq_of_cross (Decimal.ten_pow_pos k) (two_pow_pos k) ?_ false
    rw [Nat.mul_assoc]
    exact congrArg _ (Nat.mul_pow 5 2 k).symm
  have hexact : x.exactDecimal = ⟨x.units * Nat.pow 5 1074, -((1074 : Nat) : Int)⟩ := rfl
  rw [hexact, hcancel, ← hsign, nearest_units hfinite]

theorem search?_nearest {x : Double} {d : Decimal} (h : x.search? = some d) :
    d.nearest false = x := by
  obtain ⟨k, _, hk⟩ := List.exists_of_findSome?_eq_some h
  exact onGrid?_nearest hk

theorem shortest_nearest {x : Double} (hfinite : x.isFinite = true)
    (hsign : x.isNegative = false) : x.shortest.nearest false = x := by
  rw [shortest]
  cases hsearch : x.search? with
  | some d => exact search?_nearest hsearch
  | none => exact exactDecimal_nearest hfinite hsign

/-- A finite number without a sign is the nearest one to the number that its
text spells. -/
theorem exists_toText {x : Double} (hfinite : x.isFinite = true)
    (hsign : x.isNegative = false) :
    ∃ whole fraction, Text.isDigits whole = true ∧ Text.isDigits fraction = true ∧
      (x.toText = whole ∧ fraction = ['0'] ∨ x.toText = whole ++ '.' :: fraction) ∧
      nearest false (Text.digitsValue (whole ++ fraction)) (Nat.pow 10 fraction.length) = x := by
  have habs : x.abs = x := by rw [abs, ← hsign, ofMagnitude_magnitude]
  have hnan : x.isNaN = false := by
    simp only [isFinite, isNaN, decide_eq_true_eq, decide_eq_false_iff_not] at hfinite ⊢
    omega
  by_cases hzero : x.magnitude = 0
  · have hx : x = ofMagnitude false 0 := by rw [← hzero, ← hsign, ofMagnitude_magnitude]
    subst hx
    exact ⟨['0'], ['0'], rfl, rfl, .inl ⟨rfl, rfl⟩, by decide +kernel⟩
  · have htext : x.toText = x.shortest.toText := by
      simp only [toText, hnan, hfinite, hzero, hsign, habs, Bool.not_true, Bool.false_eq_true,
        if_false]
    obtain ⟨whole, fraction, hspells, hshape⟩ := x.shortest.exists_toText
    refine ⟨whole, fraction, hspells.whole_digits, hspells.fraction_digits, htext ▸ hshape, ?_⟩
    calc nearest false (Text.digitsValue (whole ++ fraction)) (Nat.pow 10 fraction.length)
        = x.shortest.nearest false :=
          nearest_eq_of_cross (Decimal.ten_pow_pos _) x.shortest.ratio_pos hspells.value false
      _ = x := shortest_nearest hfinite hsign

end Double

end LineScript
