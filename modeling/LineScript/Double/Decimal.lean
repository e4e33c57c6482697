/-
Decimal numbers and their texts. A decimal is a coefficient and a power of ten.

It is written in positional notation, however large or small it is: no exponent
and no zero at the end of a fraction. More than that is read: either side of
the point may be missing, though not both, and an exponent may follow.
-/
import LineScript.Double.Nearest
import LineScript.Text.Digits

namespace LineScript

/-- The number `coefficient * 10 ^ exponent`. -/
structure Decimal where
  coefficient : Nat
  exponent : Int
  deriving DecidableEq

namespace Decimal

/-- A numerator and a denominator of the number. -/
def ratio (d : Decimal) : Nat × Nat :=
  match d.exponent with
  | .ofNat e => (d.coefficient * Nat.pow 10 e, 1)
  | .negSucc e => (d.coefficient, Nat.pow 10 (e + 1))

/-- The double nearest to a decimal, or to its opposite. -/
def nearest (negative : Bool) (d : Decimal) : Double :=
  Double.nearest negative d.ratio.1 d.ratio.2

/-! ### Writing -/

/-- The first `places` digits after the point of `n / 10 ^ places`, without the
zeros at their end. -/
def fractionDigits (places n : Nat) : Text :=
  let digits := Nat.toDigits 10 n
  let padded := List.replicate (places - digits.length) '0' ++ digits
  (padded.reverse.dropWhile (· = '0')).reverse

/-- A decimal in positional notation. -/
def toText (d : Decimal) : Text :=
  match d.exponent with
  | .ofNat e => Nat.toDigits 10 (d.coefficient * Nat.pow 10 e)
  | .negSucc e =>
    let scale := Nat.pow 10 (e + 1)
    let whole := Nat.toDigits 10 (d.coefficient / scale)
    match fractionDigits (e + 1) (d.coefficient % scale) with
    | [] => whole
    | digits => whole ++ '.' :: digits

/-! ### Reading -/

/-- The exponent at the end of a decimal: nothing, or `e` and a number with an
optional sign. -/
def exponentOf? : Text → Option Int
  | [] => some 0
  | c :: rest =>
    if c = 'e' ∨ c = 'E' then
      let (negative, digits) := Text.cutSign rest
      if Text.isDigits digits then
        let e : Int := Text.digitsValue digits
        some (if negative then -e else e)
      else none
    else none

/-- The digits after a point, and what follows them. -/
def cutFraction : Text → Text × Text
  | '.' :: rest => (rest.takeWhile Char.isDigit, rest.dropWhile Char.isDigit)
  | t => ([], t)

/-- Brings an exponent that follows `digits` digits into a range outside of
which the nearest double is zero or infinity in any case. -/
def clampExponent (digits : Nat) (e : Int) : Int :=
  max (-(400 + digits : Nat)) (min (400 + digits : Nat) e)

/-- Reads a decimal without a sign. -/
def ofText? (t : Text) : Option Decimal := do
  let whole := t.takeWhile Char.isDigit
  let (fraction, rest) := cutFraction (t.dropWhile Char.isDigit)
  let digits := whole ++ fraction
  if digits.isEmpty then none
  else
    let e ← exponentOf? rest
    some ⟨Text.digitsValue digits, clampExponent digits.length e - fraction.length⟩

end Decimal

end LineScript
