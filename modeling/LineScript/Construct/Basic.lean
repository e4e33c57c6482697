/-
Constructs: what a line does. The first word of a line decides, by containing
a keyword; keywords are tried in a fixed order and the first one that occurs
in the word wins, wherever in the word it stands.

`elif` is tried before `if` and `else`, which share letters with it, and the
braces are tried last.
-/
import LineScript.Text.Basic

namespace LineScript

inductive BlockKind where
  | ifBlock
  | elifBlock
  | elseBlock
  | forBlock
  deriving DecidableEq

namespace BlockKind

/-- Every kind, in a fixed order. -/
def all : List BlockKind :=
  [ifBlock, elifBlock, elseBlock, forBlock]

/-- The keyword that opens a block of this kind. -/
def keyword : BlockKind → Text
  | ifBlock => ['i', 'f']
  | elifBlock => ['e', 'l', 'i', 'f']
  | elseBlock => ['e', 'l', 's', 'e']
  | forBlock => ['f', 'o', 'r']

end BlockKind

inductive Construct where
  | binding
  | print
  /-- It writes its argument and ends the line of output. -/
  | puts
  | block (kind : BlockKind)
  /-- It holds the opening brace of a block opened before. -/
  | openBrace
  | closeBrace
  deriving DecidableEq

namespace Construct

def keyword : Construct → Text
  | binding => ['l', 'e', 't']
  | print => ['p', 'r', 'i', 'n', 't']
  | puts => ['p', 'u', 't', 's']
  | block kind => kind.keyword
  | openBrace => ['{']
  | closeBrace => ['}']

/-- The constructs in the order in which their keywords are tried. -/
def byPriority : List Construct :=
  [binding, print, puts, block .elifBlock, block .ifBlock, block .elseBlock, block .forBlock,
    openBrace, closeBrace]

/-- The construct whose keyword occurs in a word. -/
def ofWord? (word : Text) : Option Construct :=
  byPriority.find? fun c => Text.contains c.keyword word

/-- The construct of a line, if its first word holds a keyword. -/
def ofLine? (line : Text) : Option Construct :=
  line.firstWord?.bind ofWord?

def opens? : Construct → Option BlockKind
  | block kind => some kind
  | _ => none

/-- The argument of a line: the text after the first occurrence of the
construct's keyword, trimmed. -/
def argument (c : Construct) (line : Text) : Text :=
  match Text.cut? c.keyword line with
  | none => []
  | some (_, after) => after.trim

theorem mem_byPriority (c : Construct) : c ∈ byPriority := by
  rcases c with _ | _ | _ | kind | _ | _
  case block => cases kind <;> decide
  all_goals decide

end Construct

end LineScript
