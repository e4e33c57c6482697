/-
Values: what a name can be bound to. Arithmetic and references keep the text
they were written as; they are recognised and not evaluated.
-/
import LineScript.Double.Shortest

namespace LineScript

inductive ValueType where
  | float
  | integer
  | boolean
  | character
  | text
  | arithmetic
  | reference
  deriving DecidableEq

namespace ValueType

def all : List ValueType :=
  [float, integer, boolean, character, text, arithmetic, reference]

def name : ValueType → String
  | float => "double"
  | integer => "int"
  | boolean => "bool"
  | character => "char"
  | text => "string"
  | arithmetic => "arithmetic"
  | reference => "reference"

end ValueType

inductive Value where
  /-- A whole number of 64 bits. -/
  | integer (i : Int64)
  | float (x : Double)
  | character (c : Char)
  | boolean (b : Bool)
  /-- A text without the quotes around it. -/
  | text (t : Text)
  /-- Arithmetic as it is written. -/
  | arithmetic (raw : Text)
  /-- The name of another binding as it is written. -/
  | reference (raw : Text)
  deriving DecidableEq

namespace Value

def type : Value → ValueType
  | integer _ => .integer
  | float _ => .float
  | character _ => .character
  | boolean _ => .boolean
  | text _ => .text
  | arithmetic _ => .arithmetic
  | reference _ => .reference

/-- Whether the value is kept as it was written. -/
def isUnresolved : Value → Bool
  | arithmetic _ | reference _ => true
  | _ => false

/-- The literals of the two truth values. -/
def booleanText : Bool → Text
  | true => ['t', 'r', 'u', 'e']
  | false => ['f', 'a', 'l', 's', 'e']

/-- The text that is written for a value. -/
def display : Value → Text
  | integer i => Text.ofInt i.toInt
  | float x => x.toText
  | character c => [c]
  | boolean b => booleanText b
  | text t => t
  | arithmetic raw => raw
  | reference raw => raw

/-- The literal of a double: its text, with a fraction where it has none. -/
def floatLiteral (x : Double) : Text :=
  let t := x.toText
  if '.' ∈ t then t else t ++ ['.', '0']

/-- A value as it is written in a source. -/
def toLiteral : Value → Text
  | integer i => Text.ofInt i.toInt
  | float x => floatLiteral x
  | character c => ['\'', c, '\'']
  | boolean b => booleanText b
  | text t => '"' :: t ++ ['"']
  | arithmetic raw => raw
  | reference raw => raw

/-- The representative of a value among those that count as equal to it:
doubles are compared as numbers, everything else as it is. -/
def canonical : Value → Value
  | float x => float x.canonical
  | v => v

/-- Whether two values count as equal. -/
def Same (v w : Value) : Prop :=
  v.canonical = w.canonical

instance (v w : Value) : Decidable (Same v w) :=
  inferInstanceAs (Decidable (v.canonical = w.canonical))

theorem Same.refl (v : Value) : Same v v :=
  rfl

theorem Same.type_eq {v w : Value} (h : Same v w) : v.type = w.type := by
  cases v <;> cases w <;> simp_all [Same, canonical, type]

end Value

end LineScript
