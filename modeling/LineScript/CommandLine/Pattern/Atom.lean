/-
The smallest parts of a pattern: single characters, classes with a name, and
places such as the edge of a word. Behind a backslash any of the three may
stand; a class with a name also stands between `[:` and `:]`.
-/
import LineScript.CommandLine.Pattern.Mode

namespace LineScript

namespace Pattern

/-- What a smallest part of a pattern matches. -/
inductive Atom where
  | character (c : Char)
  /-- One of several characters. -/
  | anyOf
  /-- No character, only a place between two. -/
  | place
  deriving DecidableEq

/-- The digit that a hexadecimal character stands for. -/
def hexDigit? (c : Char) : Option Nat :=
  if c.isDigit then some (c.toNat - '0'.toNat)
  else if 'a' ≤ c ∧ c ≤ 'f' then some (10 + (c.toNat - 'a'.toNat))
  else if 'A' ≤ c ∧ c ≤ 'F' then some (10 + (c.toNat - 'A'.toNat))
  else none

/-- Reads so many hexadecimal digits behind the ones already read. -/
def code? (m : Mode) : Nat → Nat → Text → Option (Nat × Text)
  | 0, code, t => some (code, t)
  | count + 1, code, t =>
    match m.skip t with
    | [] => none
    | c :: rest =>
      match hexDigit? c with
      | none => none
      | some digit => code? m count (16 * code + digit) rest

/-- Reads a character from so many hexadecimal digits. Two digits stand for a
byte. -/
def coded? (m : Mode) (count : Nat) (t : Text) : Option (Atom × Text) :=
  match code? m count 0 t with
  | none => none
  | some (code, rest) =>
    if code.isValidChar ∧ (m.unicode ∨ count ≠ 2 ∨ code < 128) ∧ m.allowsCharacters then
      some (.character (Char.ofNat code), rest)
    else none

/-- The control characters that have a letter. -/
def control? (letter : Char) : Option Char :=
  [('a', '\x07'), ('f', '\x0C'), ('n', '\n'), ('r', '\r'), ('t', '\t'), ('v', '\x0B')].lookup letter

/-- Reads what a backslash and the text behind it stand for. -/
def escaped? (m : Mode) : Text → Option (Atom × Text)
  | [] => none
  | c :: rest =>
    if c = 'x' then coded? m 2 rest
    else if c = 'u' then coded? m 4 rest
    else if c = 'U' then coded? m 8 rest
    else if c ∈ ['d', 's', 'w'] then if m.unicode then none else some (.anyOf, rest)
    else if c ∈ ['b', 'B', '<', '>'] then if m.unicode then none else some (.place, rest)
    else if c = 'A' ∨ c = 'z' then some (.place, rest)
    else
      match control? c with
      | some control => if m.allowsCharacters then some (.character control, rest) else none
      | none =>
        if c.toNat < 128 ∧ !c.isAlphanum ∧ m.allowsCharacters then some (.character c, rest)
        else none

def classNames : List String :=
  ["alnum", "alpha", "ascii", "blank", "cntrl", "digit", "graph", "lower", "print", "punct",
    "space", "upper", "word", "xdigit"]

/-- Takes the mark of a class of all other characters off the start of a text. -/
def cutNegation : Text → Bool × Text
  | '^' :: rest => (true, rest)
  | t => (false, t)

/-- Reads the name of a class, from the colon in front of it to the bracket
behind it, and tells whether all other characters are meant. -/
def named? : Text → Option (Bool × Text)
  | ':' :: t =>
    let (negated, unread) := cutNegation t
    match Text.cutAt? ':' unread with
    | some (name, ']' :: rest) =>
      if name ∈ classNames.map String.toList then some (negated, rest) else none
    | _ => none
  | _ => none

/-! ### Reading does not lengthen what is left -/

theorem length_le_of_code? {m : Mode} {count code code' : Nat} {t rest : Text}
    (h : code? m count code t = some (code', rest)) : rest.length ≤ t.length := by
  induction count generalizing code t with
  | zero => simp_all [code?]
  | succ count ih =>
    have hskip := m.length_skip_le t
    rw [code?] at h
    split at h
    next => exact nomatch h
    next c tail heq =>
      rw [heq, List.length_cons] at hskip
      split at h
      next => exact nomatch h
      next => exact Nat.le_trans (ih h) (by omega)

theorem length_le_of_coded? {m : Mode} {count : Nat} {t rest : Text} {a : Atom}
    (h : coded? m count t = some (a, rest)) : rest.length ≤ t.length := by
  rw [coded?] at h
  split at h
  next => exact nomatch h
  next heq =>
    split at h
    next =>
      obtain ⟨-, rfl⟩ := Prod.mk.inj (Option.some.inj h)
      exact length_le_of_code? heq
    next => exact nomatch h

theorem length_le_of_escaped? {m : Mode} {t rest : Text} {a : Atom}
    (h : escaped? m t = some (a, rest)) : rest.length ≤ t.length := by
  cases t with
  | nil => exact nomatch h
  | cons c tail =>
    have coded {count : Nat} (hc : coded? m count tail = some (a, rest)) :
        rest.length ≤ tail.length := length_le_of_coded? hc
    grind [escaped?]

theorem length_cutNegation_le (t : Text) : (cutNegation t).2.length ≤ t.length := by
  rw [cutNegation.eq_def]
  split
  · exact Nat.le_succ _
  · exact Nat.le_refl _

theorem length_le_of_named? {t rest : Text} {negated : Bool}
    (h : named? t = some (negated, rest)) : rest.length ≤ t.length := by
  rw [named?.eq_def] at h
  split at h
  next t =>
    have hle := length_cutNegation_le t
    split at h
    next hcut =>
      split at h
      next heq =>
        split at h
        next =>
          obtain ⟨-, rfl⟩ := Prod.mk.inj (Option.some.inj h)
          rw [hcut, Text.eq_of_cutAt? heq, List.length_append, List.length_cons,
            List.length_cons] at hle
          rw [List.length_cons]
          omega
        next => exact nomatch h
      next => exact nomatch h
  next => exact nomatch h

end Pattern

end LineScript
