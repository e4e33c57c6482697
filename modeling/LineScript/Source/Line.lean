/-
Logical lines: what is left of a source text once comments, leading spaces and
empty lines are gone, each line with its number in the source.

A comment starts at the first `#` of a line, unless quotes stand on both sides
of it; then the whole line is kept. Quotes are only counted, never paired: an
odd number of them before a `#` with none after it leaves open whether the `#`
is text, and the source is refused at the first such line.
-/
import LineScript.Text.Basic

namespace LineScript

/-- A logical line: its number in the source, counted from 1, and its text. -/
structure Line where
  number : Nat
  text : Text
  deriving DecidableEq

/-- The source is refused at this line: an odd number of quotes stands before a
`#` and none after it. -/
structure UnbalancedQuotes where
  line : Nat
  deriving DecidableEq

namespace Source

/-- The raw lines of a source, without the carriage returns at their ends. -/
def rawLines (source : Text) : List Text :=
  (source.splitOn '\n').map fun raw => (raw.reverse.dropWhile (· = '\r')).reverse

/-- The part of a raw line that is no comment, or `none` if quotes leave open
whether it has one. -/
def code? (raw : Text) : Option Text :=
  match raw.cutAt? '#' with
  | none => some raw
  | some (before, after) =>
    if '"' ∈ before ∧ '"' ∈ after then some raw
    else if before.count '"' % 2 = 0 then some before.trimEnd
    else none

/-- The code of a raw line without its leading spaces; tabs stay. -/
def logicalText? (raw : Text) : Option Text :=
  (code? raw).map (·.dropWhile (· = ' '))

def readLine (raw : Text) (number : Nat) : Except UnbalancedQuotes Line :=
  match logicalText? raw with
  | none => .error ⟨number⟩
  | some text => .ok ⟨number, text⟩

/-- The logical lines of a source: every line is read, and the ones left empty
are dropped. -/
def lines (source : Text) : Except UnbalancedQuotes (List Line) := do
  let all ← ((rawLines source).zipIdx 1).mapM fun (raw, number) => readLine raw number
  return all.filter fun line => !line.text.isEmpty

/-- The texts of some lines, one to a line of the source they make. -/
def ofLines (ls : List Line) : Text :=
  List.intercalate ['\n'] (ls.map Line.text)

end Source

end LineScript
