/-
Decimal digits: the texts that are made of them, the numbers they spell, and
the sign that may stand before a number.
-/
import LineScript.Text.Basic

namespace LineScript

namespace Text

/-- Whether a text is one or more decimal digits. -/
def isDigits (t : Text) : Bool :=
  !t.isEmpty && t.all Char.isDigit

/-- The number that some digits spell. -/
def digitsValue (t : Text) : Nat :=
  Nat.ofDigitChars 10 t 0

/-- Takes a sign off the start of a text; `true` is the minus sign. -/
def cutSign : Text → Bool × Text
  | '-' :: rest => (true, rest)
  | '+' :: rest => (false, rest)
  | t => (false, t)

/-- A whole number in decimal digits, with a minus sign where it is negative. -/
def ofInt : Int → Text
  | .ofNat n => Nat.toDigits 10 n
  | .negSucc n => '-' :: Nat.toDigits 10 (n + 1)

theorem isDigits_iff {t : Text} : isDigits t = true ↔ t ≠ [] ∧ ∀ c ∈ t, c.isDigit = true := by
  simp [isDigits]

theorem isDigits_toDigits (n : Nat) : isDigits (Nat.toDigits 10 n) = true := by
  simp only [isDigits, Bool.and_eq_true, Bool.not_eq_true', List.isEmpty_eq_false_iff,
    List.all_eq_true]
  exact ⟨Nat.toDigits_ne_nil, fun _ hc => Nat.isDigit_of_mem_toDigits (by decide) (by decide) hc⟩

/-- A digit is no sign. -/
theorem cutSign_of_isDigit {c : Char} (hc : c.isDigit = true) (t : Text) :
    cutSign (c :: t) = (false, c :: t) := by
  unfold cutSign
  split
  next heq => simp_all
  next heq => simp_all
  next => rfl

theorem cutSign_of_isDigits {t : Text} (h : isDigits t = true) : cutSign t = (false, t) := by
  cases t with
  | nil => simp [isDigits] at h
  | cons c t =>
    simp only [isDigits, List.all_cons, Bool.and_eq_true] at h
    exact cutSign_of_isDigit h.2.1 t

theorem digitsValue_toDigits (n : Nat) : digitsValue (Nat.toDigits 10 n) = n :=
  Nat.ofDigitChars_ten_toDigits

end Text

end LineScript
