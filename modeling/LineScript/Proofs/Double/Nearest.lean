/-
The nearest double. It depends on the quotient alone, however it is written
(`nearestMagnitude_eq_of_cross`), a finite double is the nearest one to itself
(`nearest_units`), and it is infinity from half a unit above the largest finite
double on (`nearestMagnitude_eq_infinityBits_iff`).
-/
import LineScript.Double.Nearest

namespace LineScript

/-! ## Rounding to a natural number -/

theorem roundDiv_one (n : Nat) : roundDiv n 1 = n := by
  simp only [roundDiv, Nat.div_one, Nat.mod_one]
  exact if_pos (.inl (by decide))

theorem roundDiv_mul_self (n : Nat) {k : Nat} (h : 0 < k) : roundDiv (n * k) k = n := by
  have hscale := roundDiv_mul_left (n := n) (d := 1) h
  rw [Nat.mul_one, Nat.mul_comm] at hscale
  rw [hscale, roundDiv_one]

theorem roundDiv_cases (n d : Nat) :
    roundDiv n d = n / d ∧ 2 * (n % d) ≤ d ∨ roundDiv n d = n / d + 1 ∧ d ≤ 2 * (n % d) := by
  simp only [roundDiv]
  split
  · exact .inl ⟨rfl, by omega⟩
  · exact .inr ⟨rfl, by omega⟩

/-- Above an odd number, rounding carries from the half on. -/
theorem roundDiv_carry_iff {n d c : Nat} (hd : 0 < d) (hodd : c % 2 = 1) (hc : n / d ≤ c) :
    roundDiv n d = c + 1 ↔ (2 * c + 1) * d ≤ 2 * n := by
  have hdivmod := Nat.div_add_mod n d
  have hexpand : (2 * c + 1) * d = 2 * (d * c) + d := by
    rw [Nat.add_mul, Nat.one_mul, Nat.mul_assoc, Nat.mul_comm c]
  rw [hexpand]
  constructor
  · intro h
    rcases roundDiv_cases n d with ⟨heq, _⟩ | ⟨heq, hhalf⟩
    · omega
    · have hquot : n / d = c := by omega
      rw [hquot] at hdivmod
      omega
  · intro h
    have hquot : n / d = c := by
      refine Nat.le_antisymm hc ((Nat.le_div_iff_mul_le hd).2 ?_)
      rw [Nat.mul_comm]
      omega
    rw [hquot] at hdivmod
    have hup : ¬(2 * (n % d) < d ∨ 2 * (n % d) = d ∧ c % 2 = 0) := by omega
    simp only [roundDiv, hquot]
    exact if_neg hup

namespace Double

theorem two_pow_pos (k : Nat) : 0 < Nat.pow 2 k :=
  Nat.two_pow_pos k

theorem two_pow_add (j k : Nat) : Nat.pow 2 (j + k) = Nat.pow 2 j * Nat.pow 2 k :=
  Nat.pow_add 2 j k

/-! ## The parts of a double -/

theorem magnitude_ofMagnitude {m : Nat} (h : m < signBit) (negative : Bool) :
    (ofMagnitude negative m).magnitude = m := by
  simp only [magnitude, ofMagnitude, signBit, UInt64.toNat_ofNat'] at *
  cases negative <;> simp <;> omega

theorem isNegative_ofMagnitude {m : Nat} (h : m < signBit) (negative : Bool) :
    (ofMagnitude negative m).isNegative = negative := by
  simp only [isNegative, ofMagnitude, signBit, UInt64.toNat_ofNat'] at *
  cases negative <;> simp <;> omega

theorem ofMagnitude_magnitude (x : Double) : ofMagnitude x.isNegative x.magnitude = x := by
  have hlt := x.bits.toNat_lt
  have hsum : x.magnitude + (if x.isNegative = true then signBit else 0) = x.bits.toNat := by
    by_cases hsign : signBit ≤ x.bits.toNat
    · rw [isNegative, decide_eq_true hsign, if_pos rfl, magnitude]
      simp only [signBit] at hsign ⊢
      omega
    · rw [isNegative, decide_eq_false hsign, if_neg Bool.false_ne_true, magnitude]
      exact Nat.mod_eq_of_lt (Nat.lt_of_not_le hsign)
  rw [ofMagnitude, hsum, UInt64.ofNat_toNat]

/-! ## Quotients -/

/-- Two ways of writing a quotient have the same nearest magnitude. -/
theorem nearestMagnitude_eq_of_cross {n d n' d' : Nat} (hd : 0 < d) (hd' : 0 < d')
    (h : n * d' = n' * d) : nearestMagnitude n d = nearestMagnitude n' d' := by
  calc nearestMagnitude n d = nearestMagnitude (d' * n) (d' * d) :=
        (nearestMagnitude_mul_left hd').symm
    _ = nearestMagnitude (d * n') (d * d') := by
        rw [Nat.mul_comm d' n, h, Nat.mul_comm n' d, Nat.mul_comm d' d]
    _ = nearestMagnitude n' d' := nearestMagnitude_mul_left hd

theorem nearest_eq_of_cross {n d n' d' : Nat} (hd : 0 < d) (hd' : 0 < d')
    (h : n * d' = n' * d) (negative : Bool) : nearest negative n d = nearest negative n' d' := by
  rw [nearest, nearestMagnitude_eq_of_cross hd hd' h, nearest]

theorem nearestMagnitude_le (n d : Nat) : nearestMagnitude n d ≤ infinityBits :=
  Nat.min_le_right _ _

/-! ## Whole numbers of units -/

theorem nearestMagnitude_of_units (units : Nat) :
    nearestMagnitude units (Nat.pow 2 1074) =
      min ((units.log2 - 52) * implicitBit + roundDiv units (Nat.pow 2 (units.log2 - 52)))
        infinityBits := by
  have hcancel : ∀ unit, 0 < unit →
      min (((units * unit / unit).log2 - 52) * implicitBit +
        roundDiv (units * unit) (unit * Nat.pow 2 ((units * unit / unit).log2 - 52)))
          infinityBits =
      min ((units.log2 - 52) * implicitBit + roundDiv units (Nat.pow 2 (units.log2 - 52)))
        infinityBits := by
    intro unit hunit
    rw [Nat.mul_div_cancel units hunit, Nat.mul_comm units unit, roundDiv_mul_left hunit]
  rw [nearestMagnitude]
  exact hcancel _ (two_pow_pos 1074)

/-- A significand with its leading bit in place. -/
theorem log2_mul_two_pow {s : Nat} (hlow : implicitBit ≤ s) (hhigh : s < 2 * implicitBit)
    (k : Nat) : (s * Nat.pow 2 k).log2 = 52 + k := by
  have hk := two_pow_pos k
  have hne : s * Nat.pow 2 k ≠ 0 := by
    have hs : 0 < s := Nat.lt_of_lt_of_le (by decide) hlow
    exact Nat.ne_of_gt (Nat.mul_pos hs hk)
  refine (Nat.log2_eq_iff hne).2 ⟨?_, ?_⟩
  · show Nat.pow 2 (52 + k) ≤ s * Nat.pow 2 k
    rw [two_pow_add]
    exact Nat.mul_le_mul_right _ hlow
  · show s * Nat.pow 2 k < Nat.pow 2 (52 + k + 1)
    rw [show 52 + k + 1 = 53 + k by omega, two_pow_add]
    exact Nat.mul_lt_mul_of_pos_right hhigh hk

/-- A finite number is the nearest one to itself. -/
theorem nearestMagnitude_units {x : Double} (h : x.isFinite = true) :
    nearestMagnitude x.units (Nat.pow 2 1074) = x.magnitude := by
  have hfinite : x.magnitude < infinityBits := by simpa [isFinite] using h
  have hsplit := Nat.div_add_mod x.magnitude implicitBit
  have hfraction : x.magnitude % implicitBit < implicitBit := Nat.mod_lt _ (by decide)
  rw [nearestMagnitude_of_units, units]
  split
  next hexp =>
    have hlog : (x.magnitude % implicitBit).log2 - 52 = 0 := by
      by_cases hzero : x.magnitude % implicitBit = 0
      · rw [hzero]
        rfl
      · have hlt := (Nat.log2_lt (k := 52) hzero).2 hfraction
        omega
    have hone : roundDiv (x.magnitude % implicitBit) (Nat.pow 2 0) = x.magnitude % implicitBit :=
      roundDiv_one _
    rw [hlog, hone]
    rw [hexp] at hsplit
    omega
  next hexp =>
    obtain ⟨e, he⟩ := Nat.exists_eq_succ_of_ne_zero hexp
    rw [he] at hsplit ⊢
    have hlog := log2_mul_two_pow (s := implicitBit + x.magnitude % implicitBit) (by omega)
      (by omega) e
    rw [Nat.succ_sub_one, hlog, Nat.add_sub_cancel_left, roundDiv_mul_self _ (two_pow_pos e)]
    rw [Nat.mul_succ, Nat.mul_comm implicitBit e] at hsplit
    omega

theorem nearestMagnitude_lt_signBit (n d : Nat) : nearestMagnitude n d < signBit :=
  Nat.lt_of_le_of_lt (nearestMagnitude_le n d) (by decide)

theorem nearest_units {x : Double} (h : x.isFinite = true) :
    nearest x.isNegative x.units (Nat.pow 2 1074) = x := by
  rw [nearest, nearestMagnitude_units h, ofMagnitude_magnitude]

/-! ## Overflow -/

/-- No more than fifty-three bits are kept. -/
theorem significand_lt {s d k : Nat} (hk : (s / d).log2 - 52 = k) :
    s / (d * Nat.pow 2 k) < 2 * implicitBit := by
  rw [← Nat.div_div_eq_div_mul, Nat.div_lt_iff_lt_mul (two_pow_pos k)]
  calc s / d < Nat.pow 2 ((s / d).log2 + 1) := Nat.lt_log2_self
    _ ≤ Nat.pow 2 (53 + k) := Nat.pow_le_pow_right (by decide) (by omega)
    _ = 2 * implicitBit * Nat.pow 2 k := two_pow_add 53 k

/-- And no fewer, where bits are dropped. -/
theorem le_significand {s d k : Nat} (hk : (s / d).log2 - 52 = k) (hpos : 0 < k) :
    implicitBit ≤ s / (d * Nat.pow 2 k) := by
  have hlog : (s / d).log2 = 52 + k := by omega
  have hne : s / d ≠ 0 := by
    intro h0
    rw [h0, Nat.log2_zero] at hlog
    omega
  rw [← Nat.div_div_eq_div_mul, Nat.le_div_iff_mul_le (two_pow_pos k)]
  calc implicitBit * Nat.pow 2 k = Nat.pow 2 (52 + k) := (two_pow_add 52 k).symm
    _ ≤ s / d := (Nat.le_log2 hne).1 (Nat.le_of_eq hlog.symm)

/-- The first magnitude of a power of two is reached from the middle between it
and the number below; the significand of that one is odd. -/
theorem le_magnitude_iff {s d k : Nat} (hd : 0 < d) (hk : (s / d).log2 - 52 = k) (j : Nat) :
    (j + 2) * implicitBit ≤ k * implicitBit + roundDiv s (d * Nat.pow 2 k) ↔
      (4 * implicitBit - 1) * (d * Nat.pow 2 j) ≤ 2 * s := by
  have hbit : implicitBit = 4503599627370496 := rfl
  have hunder := significand_lt hk
  have hlow := le_roundDiv s (d * Nat.pow 2 k)
  have hhigh := roundDiv_le s (d * Nat.pow 2 k)
  have hscale : ∀ i, 0 < d * Nat.pow 2 i := fun i => Nat.mul_pos hd (two_pow_pos i)
  rcases Nat.lt_trichotomy k j with hlt | rfl | hlt
  · -- too few bits are dropped for either side
    have hmagnitude : ¬(j + 2) * implicitBit ≤
        k * implicitBit + roundDiv s (d * Nat.pow 2 k) := by
      rw [hbit] at hunder ⊢
      omega
    refine iff_of_false hmagnitude fun h => ?_
    have hsize : Nat.pow 2 (52 + j) ≤ s / d := by
      rw [two_pow_add, ← Nat.le_div_iff_mul_le (two_pow_pos j), Nat.div_div_eq_div_mul,
        Nat.le_div_iff_mul_le (hscale j)]
      change implicitBit * (d * Nat.pow 2 j) ≤ s
      rw [hbit] at h ⊢
      omega
    have hne : s / d ≠ 0 := Nat.ne_of_gt (Nat.lt_of_lt_of_le (two_pow_pos _) hsize)
    have hlog := (Nat.le_log2 hne).2 hsize
    omega
  · have hcarry := roundDiv_carry_iff (n := s) (c := 2 * implicitBit - 1) (hscale k) (by decide)
      (by omega)
    rw [hbit] at hunder hcarry ⊢
    omega
  · have hlead := le_significand hk (by omega)
    have hnumber := (Nat.le_div_iff_mul_le (hscale k)).1 hlead
    have hdouble : d * Nat.pow 2 j * 2 ≤ d * Nat.pow 2 k := by
      rw [Nat.mul_assoc]
      exact Nat.mul_le_mul_left d (Nat.pow_le_pow_right (n := 2) (by decide) hlt)
    rw [hbit] at hlead hnumber ⊢
    exact iff_of_true (by omega) (by omega)

/-- Half a unit above the largest finite number. -/
def overflowLimit : Nat :=
  (4 * implicitBit - 1) * Nat.pow 2 970

/-- A quotient is rounded to infinity from the limit on. -/
theorem nearestMagnitude_eq_infinityBits_iff {n d : Nat} (hd : 0 < d) :
    nearestMagnitude n d = infinityBits ↔ overflowLimit * d ≤ n := by
  have hmin : nearestMagnitude n d = infinityBits ↔ infinityBits ≤
      ((n * Nat.pow 2 1074 / d).log2 - 52) * implicitBit + roundDiv (n * Nat.pow 2 1074)
        (d * Nat.pow 2 ((n * Nat.pow 2 1074 / d).log2 - 52)) :=
    ⟨fun h => Nat.le_trans (Nat.le_of_eq h.symm) (Nat.min_le_left ..), Nat.min_eq_right⟩
  have hsplit : ∀ j k, Nat.pow 2 (j + k + 1) = Nat.pow 2 j * (2 * Nat.pow 2 k) := by
    intro j k
    rw [Nat.add_assoc, two_pow_add, Nat.add_comm k, two_pow_add 1]
  calc nearestMagnitude n d = infinityBits
      ↔ (4 * implicitBit - 1) * (d * Nat.pow 2 2045) ≤ 2 * (n * Nat.pow 2 1074) :=
        hmin.trans (le_magnitude_iff hd rfl 2045)
    _ ↔ (4 * implicitBit - 1) * Nat.pow 2 970 * d * (2 * Nat.pow 2 1074) ≤
          n * (2 * Nat.pow 2 1074) := by
        rw [show 2045 = 970 + 1074 + 1 from rfl, hsplit]
        simp only [Nat.mul_assoc, Nat.mul_comm, Nat.mul_left_comm]
    _ ↔ overflowLimit * d ≤ n :=
        Nat.mul_le_mul_right_iff (Nat.mul_pos (by decide) (two_pow_pos 1074))

theorem magnitude_nearest (negative : Bool) (n d : Nat) :
    (nearest negative n d).magnitude = nearestMagnitude n d :=
  magnitude_ofMagnitude (nearestMagnitude_lt_signBit n d) negative

theorem isNegative_nearest (negative : Bool) (n d : Nat) :
    (nearest negative n d).isNegative = negative :=
  isNegative_ofMagnitude (nearestMagnitude_lt_signBit n d) negative

theorem nearest_eq_infinity_iff (negative : Bool) {n d : Nat} (hd : 0 < d) :
    nearest negative n d = infinity negative ↔ overflowLimit * d ≤ n := by
  rw [← nearestMagnitude_eq_infinityBits_iff hd]
  refine ⟨fun h => ?_, fun h => by rw [nearest, h, infinity]⟩
  rw [← magnitude_nearest negative, h]
  exact magnitude_ofMagnitude (by decide) negative

/-- There is nothing beyond infinity. -/
theorem isFinite_nearest {negative : Bool} {n d : Nat}
    (h : nearest negative n d ≠ infinity negative) : (nearest negative n d).isFinite = true := by
  have hle := nearestMagnitude_le n d
  have hne : nearestMagnitude n d ≠ infinityBits := fun heq => h (by rw [nearest, heq, infinity])
  rw [isFinite, magnitude_nearest, decide_eq_true_iff]
  omega

end Double

end LineScript
