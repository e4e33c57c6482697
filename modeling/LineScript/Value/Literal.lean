/-
Literals: the grammars of values as they are written, and reading one.

The grammars are tried in a fixed order, so every text has exactly one type;
a text that fits no other grammar is a reference. A few texts fit a grammar and
still have no value: digits that spell too large a number, and a character
literal that is not one character between two marks.
-/
import LineScript.Arithmetic.Form
import LineScript.Value.Basic

namespace LineScript

/-- Why a text that fits the grammar of a type is no value of it. -/
inductive LiteralError where
  | integerTooLarge
  | invalidFloat
  | malformedCharacter
  deriving DecidableEq

namespace LiteralError

def message : LiteralError → String
  | integerTooLarge => "integer is too large"
  | invalidFloat => "not a valid floating point number"
  | malformedCharacter => "character literals must be written as 'c'"

end LiteralError

namespace Text

/-- Digits, a point and digits; the digits before the point may be missing. -/
def isFloatForm (t : Text) : Bool :=
  match cutAt? '.' t with
  | none => false
  | some (whole, fraction) => (whole.isEmpty || isDigits whole) && isDigits fraction

def isBooleanForm (t : Text) : Bool :=
  t = Value.booleanText true || t = Value.booleanText false

/-- At most three characters, two of them the mark of a character. -/
def isCharacterForm (t : Text) : Bool :=
  t.count '\'' = 2 && t.length ≤ 3

/-- Two or more characters, a quote at each end. -/
def isTextForm (t : Text) : Bool :=
  2 ≤ t.length && t.head? = some '"' && t.getLast? = some '"'

/-- One more than the largest whole number of 64 bits. -/
def integerLimit : Nat :=
  0x8000000000000000

/-- A whole number of 64 bits, with an optional sign. -/
def integer? (t : Text) : Option Int64 :=
  let (negative, digits) := cutSign t
  let n := digitsValue digits
  if !isDigits digits then none
  else if negative then (if n ≤ integerLimit then some (Int64.ofInt (-n)) else none)
  else if n < integerLimit then some (Int64.ofInt n) else none

/-- The one character between two marks. -/
def character? : Text → Option Char
  | ['\'', c, '\''] => if c = '\'' then none else some c
  | _ => none

end Text

/-- The type whose grammar a literal fits, white space at its ends apart. -/
def ValueType.ofLiteral (literal : Text) : ValueType :=
  let t := literal.trim
  if t.isFloatForm then .float
  else if t.isDigits then .integer
  else if t.isBooleanForm then .boolean
  else if t.isCharacterForm then .character
  else if t.isTextForm then .text
  else if Arithmetic.isArithmetic t then .arithmetic
  else .reference

namespace Value

/-- Reads a literal as a value of a given type. -/
def ofLiteralAs (type : ValueType) (literal : Text) : Except LiteralError Value :=
  let t := literal.trim
  match type with
  | .float =>
    match Double.ofText? t with
    | none => .error .invalidFloat
    | some x => .ok (float x)
  | .integer =>
    match t.integer? with
    | none => .error .integerTooLarge
    | some i => .ok (integer i)
  | .boolean => .ok (boolean (t = booleanText true))
  | .character =>
    match t.character? with
    | none => .error .malformedCharacter
    | some c => .ok (character c)
  | .text => .ok (text ((t.between? '"' '"').getD t))
  | .arithmetic => .ok (arithmetic t)
  | .reference => .ok (reference t)

/-- Reads a literal as a value of the type whose grammar it fits. -/
def ofLiteral (literal : Text) : Except LiteralError Value :=
  ofLiteralAs (ValueType.ofLiteral literal) literal

/-- Whether a value is read back from its literal. -/
def roundTrips (v : Value) : Bool :=
  match ofLiteral v.toLiteral with
  | .error _ => false
  | .ok w => decide (Same v w)

theorem type_of_ofLiteralAs {type : ValueType} {literal : Text} {v : Value}
    (h : ofLiteralAs type literal = .ok v) : v.type = type := by
  cases type <;> simp only [ofLiteralAs] at h
  case float | integer | character =>
    split at h
    next => simp at h
    next => obtain rfl := Except.ok.inj h; rfl
  all_goals obtain rfl := Except.ok.inj h; rfl

end Value

end LineScript
