/-
Programs as trees, and their source texts.

A program is a sequence of bindings, `puts` lines and blocks, and a block holds
a program. The tree also says how it is laid out: how far each line is indented
and where the opening brace of a block stands. What may not be written is not a
tree: names, literals and conditions carry the proofs that they can be.

The source text is read back line by line (`Program.lines_source`): a mark of
comments inside a quoted literal starts no comment, and nothing is lost but the
indentation, and the carriage returns that a condition may end in.
-/
import LineScript.Construct.Let
import LineScript.Construct.Basic
import LineScript.Proofs.Value.RoundTrip
import LineScript.Source.Line

namespace LineScript

/-- The identifiers that mean something else. -/
def reservedWords : List Text :=
  [LetStatement.mutKeyword, Value.booleanText true, Value.booleanText false]

/-- A name that a program may use. -/
structure Name where
  text : Text
  identifier : text.isIdentifier = true
  free : text ∉ reservedWords

/-- Whether a value has a literal that fits on a line of a program and is read
back as that value. -/
def Value.IsWritable : Value → Prop
  | integer i => 0 ≤ i.toInt
  | boolean _ => True
  | character c => c ∉ ['\'', '#', '\n']
  | text t => '\n' ∉ t
  | reference raw => ∃ name : Name, name.text = raw
  | float _ | arithmetic _ => False

/-- A value that a program may write. -/
structure Literal where
  value : Value
  writable : value.IsWritable

/-- What may stand between the keyword of a block and its opening brace. -/
structure Condition where
  text : Text
  plain : ∀ c ∈ ['\n', '#', '"', '{'], c ∉ text

/-- Where the opening brace of a block stands. -/
inductive BracePlace where
  | sameLine
  | nextLine (indent : Nat)

/-- A program and its layout: nothing, or a statement and the program after
it. -/
inductive Program where
  | done
  | binding (indent : Nat) (mutable : Bool) (name : Name) (literal : Literal) (rest : Program)
  | puts (indent : Nat) (name : Name) (rest : Program)
  | block (indent : Nat) (kind : BlockKind) (condition : Condition) (brace : BracePlace)
    (body : Program) (closeIndent : Nat) (rest : Program)

/-- A line of a source text: how far it is indented, and the rest of it. -/
structure PrintedLine where
  indent : Nat
  code : Text

namespace PrintedLine

/-- The whole line. -/
def text (l : PrintedLine) : Text :=
  List.replicate l.indent ' ' ++ l.code

/-- What is left of a line when it is read. -/
def logical (l : PrintedLine) : Text :=
  l.code.rdropWhile (· = '\r')

/-- Some lines under their numbers, as they are read. -/
def number : Nat → List PrintedLine → List Line
  | _, [] => []
  | n, l :: rest => ⟨n, l.logical⟩ :: number (n + 1) rest

end PrintedLine

namespace Program

/-- A binding as it is written. -/
def bindingCode (mutable : Bool) (name literal : Text) : Text :=
  Construct.binding.keyword ++ ' ' ::
    ((if mutable then LetStatement.mutKeyword ++ [' '] else []) ++ name ++
      [' ', '=', ' '] ++ literal)

/-- A line that writes the value of a name. -/
def putsCode (name : Text) : Text :=
  Construct.puts.keyword ++ ' ' :: name

/-- The line that a block starts with, without its brace. -/
def headerCode (kind : BlockKind) (condition : Text) : Text :=
  kind.keyword ++ ' ' :: condition

/-- The lines that open a block. -/
def openingLines (indent : Nat) (kind : BlockKind) (condition : Condition) :
    BracePlace → List PrintedLine
  | .sameLine => [⟨indent, headerCode kind (condition.text ++ [' ', '{'])⟩]
  | .nextLine braceIndent => [⟨indent, headerCode kind condition.text⟩, ⟨braceIndent, ['{']⟩]

/-- The lines of a program. -/
def printed : Program → List PrintedLine
  | done => []
  | binding indent mutable name literal rest =>
    ⟨indent, bindingCode mutable name.text literal.value.toLiteral⟩ :: printed rest
  | puts indent name rest => ⟨indent, putsCode name.text⟩ :: printed rest
  | block indent kind condition brace body closeIndent rest =>
    openingLines indent kind condition brace ++ printed body ++
      ⟨closeIndent, ['}']⟩ :: printed rest

/-- The source text of a program, with or without an end of line at its end. -/
def source (p : Program) (endOfLine : Bool) : Text :=
  List.intercalate ['\n'] (p.printed.map PrintedLine.text) ++ if endOfLine then ['\n'] else []

end Program

end LineScript
