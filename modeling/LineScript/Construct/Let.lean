/-
Bindings as they are written: `let name = literal` or `let mut name = literal`.

The first `=` of the line separates the two sides. The name is the second word
(the third after `mut`), cut at its own `=` when it is glued to one; what
follows the first `=`, trimmed, is the literal.
-/
import LineScript.Text.Basic

namespace LineScript

/-- A binding as it is written. -/
structure LetStatement where
  name : Text
  mutable : Bool
  literal : Text
  deriving DecidableEq

namespace LetStatement

/-- The word that marks a binding as mutable. -/
def mutKeyword : Text :=
  ['m', 'u', 't']

/-- The word that holds the name, and whether `mut` stands before it, in the
words that follow the keyword. -/
def nameWord? : List Text → Option (Text × Bool)
  | [] => none
  | word :: rest =>
    if word = mutKeyword then rest.head?.map fun name => (name, true)
    else some (word, false)

/-- Reads a binding line. It is malformed if the name, the `=` or the literal is
missing, or if the name does not occur before the `=`. -/
def ofLine? (line : Text) : Option LetStatement := do
  let (head, tail) ← line.cutAt? '='
  let (word, mutable) ← nameWord? (line.words.drop 1)
  let name := word.takeWhile (· ≠ '=')
  let literal := tail.trim
  if name.isEmpty || literal.isEmpty || !Text.contains name head then none
  else some { name, mutable, literal }

end LetStatement

end LineScript
