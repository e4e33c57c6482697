/-
Positions in a text that are counted in bytes, as the text is stored: a
character takes one to four of them.
-/
import LineScript.Text.Basic

namespace LineScript

namespace Text

/-- How many bytes a text takes. -/
def byteLength : Text → Nat
  | [] => 0
  | c :: rest => c.utf8Size + byteLength rest

/-- The characters of a text that start before a position. -/
def takeBytes : Nat → Text → Text
  | _, [] => []
  | 0, _ => []
  | n + 1, c :: rest => c :: takeBytes (n + 1 - c.utf8Size) rest

/-- The characters of a text that start at a position or behind it. -/
def dropBytes : Nat → Text → Text
  | _, [] => []
  | 0, t => t
  | n + 1, c :: rest => dropBytes (n + 1 - c.utf8Size) rest

/-- The characters of a text from one position up to another. -/
def sliceBytes (start stop : Nat) (t : Text) : Text :=
  dropBytes start (takeBytes stop t)

end Text

end LineScript
