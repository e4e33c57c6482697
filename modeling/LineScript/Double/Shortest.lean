/-
The shortest text of a double: of all decimals that read back as the number,
those with the fewest digits, and of these the nearest to it; of two that are
equally near the upper one.

Only the two neighbours of the number on a decimal grid can be the nearest of
that many digits, so each grid is asked for those two, from one digit on. Both
are tried by reading them back. Seventeen digits are always enough; the decimal
that is equal to the number stands behind them so that every number has a text.
-/
import LineScript.Double.Decimal

namespace LineScript

namespace Double

/-- A numerator and a denominator of `units * 2^-1074 / 10^exponent`. -/
def gridRatio (units : Nat) : Int → Nat × Nat
  | .ofNat e => (units, Nat.pow 2 1074 * Nat.pow 10 e)
  | .negSucc e => (units * Nat.pow 10 (e + 1), Nat.pow 2 1074)

/-- The neighbour of a positive number on the grid of multiples of
`10 ^ exponent` that reads back as the number: the nearer of the two, the upper
one of two that are equally near. -/
def onGrid? (x : Double) (exponent : Int) : Option Decimal :=
  let (n, d) := gridRatio x.units exponent
  let lower : Decimal := ⟨n / d, exponent⟩
  let upper : Decimal := ⟨n / d + 1, exponent⟩
  let (nearer, further) := if 2 * (n % d) < d then (lower, upper) else (upper, lower)
  if nearer.nearest false = x then some nearer
  else if further.nearest false = x then some further
  else none

/-- The exponent of the leading digit of a positive number, plus one. Counted
from 10^-340, below which there is no double. -/
def decimalSize (x : Double) : Int :=
  (Nat.toDigits 10 (x.units * Nat.pow 10 340 / Nat.pow 2 1074)).length - 340

/-- The decimal that is equal to a finite number without its sign. -/
def exactDecimal (x : Double) : Decimal :=
  ⟨x.units * Nat.pow 5 1074, -1074⟩

/-- The first decimal found that reads back as a positive number, from one
digit to seventeen. -/
def search? (x : Double) : Option Decimal :=
  (List.range 17).findSome? fun k => x.onGrid? (x.decimalSize - (k + 1 : Nat))

/-- The shortest decimal that reads back as a positive finite number. -/
def shortest (x : Double) : Decimal :=
  x.search?.getD x.exactDecimal

def abs (x : Double) : Double :=
  ofMagnitude false x.magnitude

/-- The text of a number: positional, with a minus sign where the sign bit is
set, and words for what is no finite number. -/
def toText (x : Double) : Text :=
  if x.isNaN then ['N', 'a', 'N']
  else
    let unsigned :=
      if !x.isFinite then ['i', 'n', 'f']
      else if x.magnitude = 0 then ['0']
      else x.abs.shortest.toText
    if x.isNegative then '-' :: unsigned else unsigned

/-- The words for infinity and for what is no number, in lower case. -/
def ofWord? (negative : Bool) (word : Text) : Option Double :=
  if word = ['i', 'n', 'f'] ∨ word = ['i', 'n', 'f', 'i', 'n', 'i', 't', 'y'] then
    some (infinity negative)
  else if word = ['n', 'a', 'n'] then some (nan negative)
  else none

/-- Reads a number: an optional sign, then a decimal or one of the words, in
letters of either case. -/
def ofText? (t : Text) : Option Double :=
  let (negative, unsigned) := t.cutSign
  match Decimal.ofText? unsigned with
  | some d => some (d.nearest negative)
  | none => ofWord? negative (unsigned.map Char.toLower)

end Double

end LineScript
