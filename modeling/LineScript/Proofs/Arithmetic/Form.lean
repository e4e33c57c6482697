/-
The form of arithmetic as a regular expression, in any alphabet
(`Arithmetic.Parts.form`): over tokens, where it is read one token at a time, and
over characters, where a number is many.

What may follow at each point of the reading is a regular expression too
(`Progress.rest`). Its derivative by a token is what may follow behind that
token, so that reading to the end decides the form.
-/
import LineScript.Arithmetic.Form
import LineScript.Proofs.Text.Grammar

namespace LineScript

namespace Arithmetic

open Grammar RegularExpression

/-- The parts that arithmetic is made of, in some alphabet. -/
structure Parts (α : Type) where
  openParen : RegularExpression α
  sign : RegularExpression α
  number : RegularExpression α
  operator : RegularExpression α
  closeParen : RegularExpression α

namespace Parts

variable {α : Type} (parts : Parts α)

/-- An operator and its operand, either parenthesis of which may be missing. -/
def group : RegularExpression α :=
  parts.operator * (optionally parts.openParen * (parts.number * optionally parts.closeParen))

/-- A number that may have a parenthesis and a sign in front of it, and one or
more groups. -/
def form : RegularExpression α :=
  optionally parts.openParen * (optionally parts.sign * (parts.number * oneOrMore parts.group))

end Parts

/-- Each part as the tokens that it may be. -/
def tokenParts : Parts Token where
  openParen := char .openParen
  sign := oneOf [.plus, .minus]
  number := char .number
  operator := oneOf [.plus, .minus, .star, .slash]
  closeParen := char .closeParen

namespace Progress

/-- What may follow. -/
def rest : Progress → RegularExpression Token
  | start => tokenParts.form
  | opened => optionally tokenParts.sign * (tokenParts.number * oneOrMore tokenParts.group)
  | signed => tokenParts.number * oneOrMore tokenParts.group
  | first => oneOrMore tokenParts.group
  | operator =>
    optionally tokenParts.openParen *
      (tokenParts.number * (optionally tokenParts.closeParen * tokenParts.group.star))
  | groupOpened => tokenParts.number * (optionally tokenParts.closeParen * tokenParts.group.star)
  | operand => optionally tokenParts.closeParen * tokenParts.group.star
  | groupClosed => tokenParts.group.star

theorem matchEpsilon_rest (p : Progress) : p.rest.matchEpsilon = p.isComplete := by
  cases p <;> rfl

theorem matches'_deriv_rest (p : Progress) (t : Token) :
    (p.rest.deriv t).matches' = match p.next? t with
      | none => 0
      | some q => q.rest.matches' := by
  -- Each derivative is computed; what is left is how the products are bracketed.
  cases p <;> cases t <;>
    simp [rest, next?, Parts.form, Parts.group, tokenParts, optionally, oneOrMore, oneOf,
      RegularExpression.deriv, matchEpsilon, Token.isSign, Token.isOperator,
      mul_assoc]

theorem mem_rest_iff (p : Progress) (ts : List Token) :
    ts ∈ p.rest.matches' ↔ ∃ q, ts.foldlM next? p = some q ∧ q.isComplete = true := by
  induction ts generalizing p with
  | nil =>
    rw [← rmatch_iff_matches', rmatch, matchEpsilon_rest]
    simp
  | cons t ts ih =>
    rw [← rmatch_iff_matches', rmatch, rmatch_iff_matches', matches'_deriv_rest, List.foldlM_cons]
    cases p.next? t with
    | none => simp
    | some q => exact ih q

end Progress

end Arithmetic

end LineScript
