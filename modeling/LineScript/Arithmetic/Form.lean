/-
The form of arithmetic: an optional `(`, an optional sign and a number, then
one or more groups of an operator, an optional `(`, a number and an optional
`)`. The parentheses of a group belong to its operand alone, and nothing asks
that they pair up. White space is left out before anything else is looked at.
-/
import LineScript.Arithmetic.Token

namespace LineScript

namespace Arithmetic

/-- How far the form has been read. -/
inductive Progress where
  | start
  /-- After the optional `(` at the start. -/
  | opened
  /-- After the optional sign at the start. -/
  | signed
  /-- After the first number; a group has to follow. -/
  | first
  /-- After the operator of a group. -/
  | operator
  /-- After the optional `(` of a group. -/
  | groupOpened
  /-- After the number of a group. -/
  | operand
  /-- After the optional `)` of a group. -/
  | groupClosed
  deriving DecidableEq

namespace Progress

/-- Reads one token, if it may stand here. -/
def next? : Progress → Token → Option Progress
  | start, .openParen => some opened
  | start, .number | opened, .number | signed, .number => some first
  | start, t | opened, t => if t.isSign then some signed else none
  | operator, .openParen => some groupOpened
  | operator, .number | groupOpened, .number => some operand
  | operand, .closeParen => some groupClosed
  | first, t | operand, t | groupClosed, t => if t.isOperator then some operator else none
  | _, _ => none

/-- Whether the form may end here. -/
def isComplete : Progress → Bool
  | operand | groupClosed => true
  | _ => false

end Progress

/-- Whether some tokens have the form of arithmetic. -/
def hasForm (ts : List Token) : Bool :=
  match ts.foldlM Progress.next? Progress.start with
  | none => false
  | some p => p.isComplete

def isArithmetic (t : Text) : Bool :=
  match tokens? (t.filter fun c => !isBlank c) with
  | none => false
  | some ts => hasForm ts

end Arithmetic

end LineScript
