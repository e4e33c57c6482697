/-
Tokens of arithmetic: numbers, the four operators and the two parentheses.

Reading is by longest match. Digits run on into a point when a digit follows
it, so `1.5` is one number, `1.` is none, and a point that begins nothing stops
the reading altogether.
-/
import LineScript.Text.Basic

namespace LineScript

namespace Arithmetic

/-- A token of arithmetic; what a number is worth does not matter. -/
inductive Token where
  | number
  | plus
  | minus
  | star
  | slash
  | openParen
  | closeParen
  deriving DecidableEq

namespace Token

/-- The token that a single character makes; a number is never one of these. -/
def ofChar? : Char → Option Token
  | '+' => some plus
  | '-' => some minus
  | '*' => some star
  | '/' => some slash
  | '(' => some openParen
  | ')' => some closeParen
  | _ => none

/-- Whether the token stands between two operands. -/
def isOperator : Token → Bool
  | plus | minus | star | slash => true
  | _ => false

/-- Whether the token may be a sign. -/
def isSign : Token → Bool
  | plus | minus => true
  | _ => false

end Token

/-- What is left after the digits at the start of a text, and after a point and
its digits when a digit follows the point. -/
def afterNumber (t : Text) : Text :=
  match t.dropWhile Char.isDigit with
  | '.' :: d :: rest => if d.isDigit then rest.dropWhile Char.isDigit else '.' :: d :: rest
  | rest => rest

theorem length_afterNumber_le (t : Text) : (afterNumber t).length ≤ t.length := by
  have hdigits : (t.dropWhile Char.isDigit).length ≤ t.length :=
    (List.dropWhile_sublist Char.isDigit).length_le
  unfold afterNumber
  split
  next d rest heq =>
    have hrest : (rest.dropWhile Char.isDigit).length ≤ rest.length :=
      (List.dropWhile_sublist Char.isDigit).length_le
    simp only [heq, List.length_cons] at hdigits
    split
    · omega
    · simpa using hdigits
  next => exact hdigits

/-- The tokens of a text without white space, or `none` if some character
belongs to no token. -/
def tokens? : Text → Option (List Token)
  | [] => some []
  | c :: rest =>
    if c.isDigit then (tokens? (afterNumber rest)).map (.number :: ·)
    else
      match Token.ofChar? c with
      | none => none
      | some t => (tokens? rest).map (t :: ·)
termination_by t => t.length
decreasing_by
  · have := length_afterNumber_le rest
    simp only [List.length_cons]
    omega
  · simp

end Arithmetic

end LineScript
