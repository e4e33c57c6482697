/-
Identifiers: a letter or an underscore, then letters, numbers and underscores.
-/
import LineScript.Text.Alphabetic
import LineScript.Text.Basic
import LineScript.Text.Numeric

namespace LineScript

namespace Text

/-- What an identifier may start with. -/
def isIdentifierStart (c : Char) : Bool :=
  isAlphabetic c || c = '_'

/-- What may follow in an identifier. -/
def isIdentifierPart (c : Char) : Bool :=
  isAlphabetic c || isNumeric c || c = '_'

def isIdentifier : Text → Bool
  | [] => false
  | c :: rest => isIdentifierStart c && rest.all isIdentifierPart

theorem isIdentifierPart_of_isIdentifierStart {c : Char} (h : isIdentifierStart c = true) :
    isIdentifierPart c = true := by
  simp only [isIdentifierStart, isIdentifierPart, Bool.or_eq_true] at h ⊢
  exact h.elim (fun h => .inl (.inl h)) .inr

theorem all_isIdentifierPart {name : Text} (h : isIdentifier name = true) :
    name.all isIdentifierPart = true := by
  cases name with
  | nil => rfl
  | cons c rest =>
    simp only [isIdentifier, Bool.and_eq_true] at h
    simp [isIdentifierPart_of_isIdentifierStart h.1, h.2]

end Text

end LineScript
