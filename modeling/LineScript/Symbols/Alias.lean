/-
Aliases: a name that is bound to the name of another binding stands for what
that one stands for.

A chain of aliases that is longer than the number of visible bindings comes
back to a name it has passed, so that number bounds the search.
-/
import LineScript.Symbols.Table

namespace LineScript

/-- Why a name stands for no value. -/
inductive LookupError where
  /-- No visible scope binds the name. -/
  | unknownVariable (name : Text)
  /-- The aliases that start at the name come back to one of them. -/
  | cyclicReference (name : Text)
  deriving DecidableEq

namespace LookupError

def message : LookupError → String
  | unknownVariable name => "Unknown variable '" ++ String.ofList name ++ "'"
  | cyclicReference name =>
    "Variable '" ++ String.ofList name ++ "' refers to itself through a cycle of references"

end LookupError

namespace SymbolTable

/-- The value of a name; a name that is not bound is an error. -/
def lookup (t : SymbolTable) (name : Text) : Except LookupError Value :=
  match t.get? name with
  | none => .error (.unknownVariable name)
  | some value => .ok value

/-- Follows at most `steps` aliases from a name on; `start` is the name that the
search began with. -/
def follow (t : SymbolTable) (start : Text) : Nat → Text → Except LookupError Value
  | 0, name => do
    match ← t.lookup name with
    | .reference _ => .error (.cyclicReference start)
    | value => .ok value
  | steps + 1, name => do
    match ← t.lookup name with
    | .reference target => follow t start steps target
    | value => .ok value

/-- The value that a name stands for, through any number of aliases. -/
def resolve (t : SymbolTable) (name : Text) : Except LookupError Value :=
  t.follow name t.visible.size name

end SymbolTable

end LineScript
