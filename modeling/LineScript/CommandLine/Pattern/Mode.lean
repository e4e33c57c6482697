/-
How a pattern, a regular expression, is taken: with or without regard to case,
over all characters or over bytes, with or without its white space. A pattern
may change its mode, from some place on or for one of its groups.

No table of letters, digits or blanks beyond ASCII is at hand. What would need
one is refused while a pattern is taken over all characters.
-/
import LineScript.Text.Basic

namespace LineScript

namespace Pattern

/-- How the characters of a pattern are taken. -/
structure Mode where
  ignoresCase : Bool
  /-- Over all characters; otherwise over bytes, of which only ASCII may be
  matched one by one. -/
  unicode : Bool
  /-- White space and comments between the parts do not count. -/
  skipsBlanks : Bool
  deriving DecidableEq

/-- Drops white space and comments from the start of a text. A comment runs
from a `#` to the end of its line; `inComment` tells whether the text starts
inside of one. -/
def skipBlanks (inComment : Bool) : Text → Text
  | [] => []
  | c :: rest =>
    if inComment then skipBlanks (c ≠ '\n') rest
    else if isBlank c then skipBlanks false rest
    else if c = '#' then skipBlanks true rest
    else c :: rest

/-- The letters that name a mode; a hyphen turns those behind it off. -/
def flagLetters : Text :=
  ['i', 'm', 's', 'U', 'u', 'R', 'x', '-']

/-- Whether a text turns modes on or off, none of them twice. -/
def isFlags (flags : Text) : Bool :=
  flags.all (fun c => c ∈ flagLetters) && flags.Nodup && flags.getLast? ≠ some '-'

namespace Mode

def initial : Mode :=
  ⟨false, true, false⟩

/-- Drops what does not count in front of the next part. -/
def skip (m : Mode) (t : Text) : Text :=
  if m.skipsBlanks then skipBlanks false t else t

/-- The character to look at behind a hyphen: the next that counts, or the
first one of a comment. -/
def peek? (m : Mode) (t : Text) : Option Char :=
  if m.skipsBlanks then
    match t.dropWhile isBlank with
    | '#' :: comment => (comment.dropWhile isBlank).head?
    | rest => rest.head?
  else t.head?

/-- Whether a mode is on after some flags. -/
def switch (flags : Text) (letter : Char) (on : Bool) : Bool :=
  if letter ∈ flags.takeWhile (· ≠ '-') then true
  else if letter ∈ flags then false
  else on

def withFlags (m : Mode) (flags : Text) : Mode :=
  ⟨switch flags 'i' m.ignoresCase, switch flags 'u' m.unicode, switch flags 'x' m.skipsBlanks⟩

/-- Whether single characters may be matched. To ignore their case beyond ASCII
takes a table. -/
def allowsCharacters (m : Mode) : Bool :=
  !(m.unicode && m.ignoresCase)

end Mode

theorem length_skipBlanks_le (inComment : Bool) (t : Text) :
    (skipBlanks inComment t).length ≤ t.length := by
  induction t generalizing inComment with
  | nil => exact Nat.le_refl _
  | cons c rest ih =>
    have shorter (b : Bool) : (skipBlanks b rest).length ≤ (c :: rest).length :=
      Nat.le_trans (ih b) (Nat.le_succ _)
    rw [skipBlanks]
    split
    · exact shorter _
    · split
      · exact shorter _
      · split
        · exact shorter _
        · exact Nat.le_refl _

theorem Mode.length_skip_le (m : Mode) (t : Text) : (m.skip t).length ≤ t.length := by
  rw [skip]
  split
  · exact length_skipBlanks_le false t
  · exact Nat.le_refl _

end Pattern

end LineScript
