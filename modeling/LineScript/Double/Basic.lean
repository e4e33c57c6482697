/-
Double precision numbers, held as their 64 bits: a sign, eleven bits of
exponent and fifty-two of significand.

Every finite magnitude is a whole number of units of 2^-1074, the smallest
positive double; the bits of a magnitude, read as a natural number, rise with
it, and the first ones that are no finite number are infinity's.
-/

namespace LineScript

/-- A double precision number, as its bits. -/
structure Double where
  bits : UInt64
  deriving DecidableEq

namespace Double

/-- The bit that holds the sign. -/
def signBit : Nat :=
  0x8000000000000000

/-- The bit above the fifty-two of the significand. Every number but the
smallest ones has it in its significand without storing it. -/
def implicitBit : Nat :=
  0x10000000000000

/-- The bits of infinity without a sign. -/
def infinityBits : Nat :=
  0x7FF0000000000000

/-- The number with a sign and the bits of a magnitude. -/
def ofMagnitude (negative : Bool) (magnitude : Nat) : Double :=
  ⟨UInt64.ofNat (magnitude + if negative then signBit else 0)⟩

def infinity (negative : Bool) : Double :=
  ofMagnitude negative infinityBits

/-- The bits without a sign of the one value that is read for what is no
number. -/
def nanBits : Nat :=
  0x7FF8000000000000

/-- What is no number; it has a sign all the same. -/
def nan (negative : Bool) : Double :=
  ofMagnitude negative nanBits

def isNegative (x : Double) : Bool :=
  signBit ≤ x.bits.toNat

/-- The bits without the sign. -/
def magnitude (x : Double) : Nat :=
  x.bits.toNat % signBit

def isNaN (x : Double) : Bool :=
  infinityBits < x.magnitude

def isFinite (x : Double) : Bool :=
  x.magnitude < infinityBits

/-- The absolute value of a finite number in units of 2^-1074. -/
def units (x : Double) : Nat :=
  let exponent := x.magnitude / implicitBit
  let fraction := x.magnitude % implicitBit
  if exponent = 0 then fraction else (implicitBit + fraction) * Nat.pow 2 (exponent - 1)

/-- The representative of a number among those that count as equal to it: there
is one value that is no number, and zero has no sign. -/
def canonical (x : Double) : Double :=
  if x.isNaN then nan false else if x.magnitude = 0 then ofMagnitude false 0 else x

end Double

end LineScript
