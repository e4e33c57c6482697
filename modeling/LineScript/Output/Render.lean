/-
What a line writes: the argument of `print` and `puts` as text.

One pair of parentheses around the argument is taken off. What is left is a
template when it is quoted, the value of a name when it is a reference, and
itself when it is any other literal.
-/
import LineScript.Failure
import LineScript.Output.Template

namespace LineScript

namespace Output

/-- Whether a closing parenthesis comes that was not opened, `depth` of them
being open at the start. -/
def closesEarly : Nat → Text → Bool
  | _, [] => false
  | depth, c :: rest =>
    if c = '(' then closesEarly (depth + 1) rest
    else if c = ')' then
      match depth with
      | 0 => true
      | depth + 1 => closesEarly depth rest
    else closesEarly depth rest

/-- Takes off one pair of parentheses around an argument, unless the first one
is closed before the end: `(1) + (2)` stays as it is. -/
def stripParens (argument : Text) : Text :=
  match argument.between? '(' ')' with
  | none => argument
  | some inner => if closesEarly 0 inner then argument else inner.trim

/-- The text that a value is written as; a reference is followed first. -/
def showValue (symbols : SymbolTable) : Value → Except LookupError Text
  | .reference name => (symbols.resolve name).map Value.display
  | value => .ok value.display

/-- The text that an argument is written as, parentheses and white space at its
ends being gone. -/
def renderBare (symbols : SymbolTable) (argument : Text) : Except Fault Text :=
  match argument with
  | [] => .ok []
  | _ =>
    match ValueType.ofLiteral argument with
    | .text => (Template.fill symbols ((argument.between? '"' '"').getD [])).mapError .lookup
    | type =>
      match Value.ofLiteralAs type argument with
      | .error cause => .error (.invalidLiteral argument cause)
      | .ok value => (showValue symbols value).mapError .lookup

/-- The text that an argument is written as. -/
def render (symbols : SymbolTable) (argument : Text) : Except Fault Text :=
  renderBare symbols (stripParens argument.trim)

end Output

end LineScript
