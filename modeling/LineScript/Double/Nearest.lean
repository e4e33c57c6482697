/-
Rounding to the nearest double: a quotient of natural numbers becomes the
double closest to it, a tie goes to the even significand, and what lies too far
out becomes infinity.
-/
import LineScript.Double.Basic

namespace LineScript

/-- A quotient rounded to the nearest natural number; a half goes to the even
neighbour. -/
def roundDiv (n d : Nat) : Nat :=
  let q := n / d
  let r := n % d
  if 2 * r < d ∨ (2 * r = d ∧ q % 2 = 0) then q else q + 1

theorem le_roundDiv (n d : Nat) : n / d ≤ roundDiv n d := by
  simp only [roundDiv]
  split <;> omega

theorem roundDiv_le (n d : Nat) : roundDiv n d ≤ n / d + 1 := by
  simp only [roundDiv]
  split <;> omega

/-- Rounding depends on the quotient alone. -/
theorem roundDiv_mul_left {n d k : Nat} (h : 0 < k) : roundDiv (k * n) (k * d) = roundDiv n d := by
  have hlt : 2 * (k * (n % d)) < k * d ↔ 2 * (n % d) < d := by
    rw [Nat.mul_left_comm]
    exact Nat.mul_lt_mul_left h
  have heq : 2 * (k * (n % d)) = k * d ↔ 2 * (n % d) = d := by
    rw [Nat.mul_left_comm]
    exact Nat.mul_right_inj (Nat.ne_of_gt h)
  simp only [roundDiv, Nat.mul_div_mul_left _ _ h, Nat.mul_mod_mul_left, hlt, heq]

namespace Double

/-- The bits of the magnitude nearest to `n / d`. The quotient is counted in
units of 2^-1074 and rounded to fifty-three significant bits, or to whole units
where it has fewer. -/
def nearestMagnitude (n d : Nat) : Nat :=
  let scaled := n * Nat.pow 2 1074
  let dropped := (scaled / d).log2 - 52
  min (dropped * implicitBit + roundDiv scaled (d * Nat.pow 2 dropped)) infinityBits

/-- The double nearest to `n / d`, or to its opposite. -/
def nearest (negative : Bool) (n d : Nat) : Double :=
  ofMagnitude negative (nearestMagnitude n d)

/-- The nearest double depends on the quotient alone. -/
theorem nearestMagnitude_mul_left {n d k : Nat} (h : 0 < k) :
    nearestMagnitude (k * n) (k * d) = nearestMagnitude n d := by
  simp only [nearestMagnitude, Nat.mul_assoc k, Nat.mul_div_mul_left _ _ h, roundDiv_mul_left h]

end Double

end LineScript
