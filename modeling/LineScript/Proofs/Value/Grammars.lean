/-
The grammars of literals, said without the recogniser. Numbers and arithmetic are
regular expressions over characters; truth values, characters and texts in quotes
are described directly. A literal has the type of the first grammar that it fits,
in the order in which the types are listed (`ValueType.ofLiteral_eq_iff`).

For arithmetic the recogniser reads tokens first, by longest match, and then looks
at their form. That is the same as matching the characters, since no two numbers
touch in the form.
-/
import LineScript.Proofs.Arithmetic.Form
import LineScript.Proofs.Arithmetic.Tokens
import LineScript.Proofs.Text.First
import LineScript.Proofs.Value.ReadBack

namespace LineScript

open Grammar RegularExpression

namespace Arithmetic

/-- Each part as the texts that it may be. -/
def textParts : Parts Char where
  openParen := char '('
  sign := oneOf ['+', '-']
  number := numberGrammar
  operator := oneOf ['+', '-', '*', '/']
  closeParen := char ')'

theorem substitute_tokenForm : substitute Token.lexeme tokenParts.form = textParts.form :=
  rfl

theorem numbersApart_of_foldlM {p q : Progress} {ts : List Token}
    (h : ts.foldlM Progress.next? p = some q) : NumbersApart ts := by
  induction ts generalizing p with
  | nil => exact .nil
  | cons t ts ih =>
    rw [List.foldlM_cons] at h
    cases hnext : p.next? t with
    | none => simp [hnext] at h
    | some r =>
      rw [hnext] at h
      refine List.isChain_cons.2 ⟨?_, ih h⟩
      rintro u hu ⟨rfl, rfl⟩
      obtain ⟨ts, rfl⟩ := List.head?_eq_some_iff.1 hu
      have hnone : r.next? .number = none := by
        cases p <;> cases hnext <;> rfl
      simp [List.foldlM_cons, hnone] at h

/-- What is read as arithmetic matches the characters of the form, white space
left out. -/
theorem isArithmetic_iff (t : Text) :
    isArithmetic t = true ↔ t.filter (fun c => !isBlank c) ∈ textParts.form.matches' := by
  have hform (ts : List Token) : hasForm ts = true ↔ ts ∈ tokenParts.form.matches' := by
    show _ ↔ ts ∈ Progress.start.rest.matches'
    rw [Progress.mem_rest_iff, hasForm]
    cases ts.foldlM Progress.next? .start <;> simp
  rw [← substitute_tokenForm, mem_substitute]
  constructor
  · intro h
    rw [isArithmetic] at h
    cases htokens : tokens? (t.filter fun c => !isBlank c) with
    | none => simp [htokens] at h
    | some ts =>
      rw [htokens] at h
      exact ⟨ts, (hform ts).1 h, (spelled_of_tokens? htokens).1⟩
  · rintro ⟨ts, hts, hspelled⟩
    obtain ⟨q, hread, -⟩ := (Progress.mem_rest_iff .start ts).1 hts
    rw [isArithmetic, tokens?_of_spelled hspelled (numbersApart_of_foldlM hread)]
    exact (hform ts).2 hts

end Arithmetic

namespace ValueType

/-- Whether a text without white space at its ends fits the grammar of a type. -/
def Fits (t : Text) : ValueType → Prop
  | float => t ∈ (digit.star * (char '.' * oneOrMore digit)).matches'
  | integer => t ∈ (oneOrMore digit).matches'
  | boolean => t = ['t', 'r', 'u', 'e'] ∨ t = ['f', 'a', 'l', 's', 'e']
  | character => t.count '\'' = 2 ∧ t.length ≤ 3
  | text => 2 ≤ t.length ∧ ['"'] <+: t ∧ ['"'] <:+ t
  | arithmetic => t.filter (fun c => !isBlank c) ∈ Arithmetic.textParts.form.matches'
  | reference => True

/-- The types whose grammars are tried before. -/
def earlier (type : ValueType) : List ValueType :=
  all.takeWhile (· ≠ type)

instance (t : Text) : DecidablePred (Fits t)
  | float | integer | arithmetic => inferInstanceAs (Decidable (_ ∈ RegularExpression.matches' _))
  | boolean => inferInstanceAs (Decidable (_ ∨ _))
  | character | text => inferInstanceAs (Decidable (_ ∧ _))
  | reference => inferInstanceAs (Decidable True)

theorem isFloatForm_iff (t : Text) : t.isFloatForm = true ↔ Fits t .float := by
  show _ ↔ t ∈ (digit.star * (char '.' * oneOrMore digit)).matches'
  rw [matches'_mul, Language.mem_mul]
  constructor
  · intro h
    obtain ⟨w, f, hw, hf, rfl⟩ := Text.exists_of_isFloatForm h
    exact ⟨w, (mem_star_iff mem_digit).2 hw, '.' :: f, mem_point.2 ⟨f, mem_digits.2 hf, rfl⟩, rfl⟩
  · rintro ⟨w, hw, u, hu, rfl⟩
    obtain ⟨f, hf, rfl⟩ := mem_point.1 hu
    exact Text.isFloatForm_point ((mem_star_iff mem_digit).1 hw) (mem_digits.1 hf)

theorem isBooleanForm_iff (t : Text) : t.isBooleanForm = true ↔ Fits t .boolean := by
  simp only [Text.isBooleanForm, Bool.or_eq_true, decide_eq_true_eq]
  rfl

theorem isCharacterForm_iff (t : Text) : t.isCharacterForm = true ↔ Fits t .character := by
  simp [Text.isCharacterForm, Fits]

theorem isTextForm_iff (t : Text) : t.isTextForm = true ↔ Fits t .text := by
  have hstart : t.head? = some '"' ↔ ['"'] <+: t := by
    simp [List.head?_eq_some_iff, List.IsPrefix, eq_comm]
  have hend : t.getLast? = some '"' ↔ ['"'] <:+ t := by
    simp [List.getLast?_eq_some_iff, List.IsSuffix, eq_comm]
  simp [Text.isTextForm, Fits, hstart, hend, and_assoc]

theorem find?_fits (t : Text) :
    all.find? (fun type => decide (Fits t.trim type)) = some (ofLiteral t) := by
  have hinteger (t : Text) : t.isDigits = true ↔ Fits t .integer := mem_digits.symm
  have harithmetic (t : Text) : Arithmetic.isArithmetic t = true ↔ Fits t .arithmetic :=
    Arithmetic.isArithmetic_iff t
  have hreference (t : Text) : Fits t .reference := trivial
  simp only [ofLiteral, isFloatForm_iff, isBooleanForm_iff, isCharacterForm_iff, isTextForm_iff,
    hinteger, harithmetic, all, List.find?_cons, apply_ite some]
  split_ifs <;> simp [*]

/-- **A literal has the type of the first grammar that it fits**, white space at
its ends left out: it fits that grammar, and none of those that come before. -/
theorem ofLiteral_eq_iff (t : Text) (type : ValueType) :
    ofLiteral t = type ↔ Fits t.trim type ∧ ∀ other ∈ type.earlier, ¬Fits t.trim other := by
  have hmem : type ∈ all := by cases type <;> decide
  have hfind := find?_eq_some_iff_takeWhile (p := fun type => decide (Fits t.trim type)) hmem
  rw [find?_fits, Option.some.injEq] at hfind
  simpa [earlier] using hfind

/-- White space inside a literal may put two digits together. -/
example : ofLiteral ['1', ' ', '2', '+', '3'] = .arithmetic := by decide +kernel

end ValueType

end LineScript
