/-
One directive of a log filter, and how it is read. A directive gives a rank to
the lines whose target starts with a given text and, if it names a field, have
that field:

    RANK    TARGET    TARGET=RANK    TARGET[{FIELD}]=RANK

A directive may also ask for a span, a stretch of work that lines belong to, or
for the value of a span's field. No line of this program belongs to a span, so
such a directive shows nothing, but it has to be well formed.

White space at the ends of a directive does not count while its parts are
looked for. The parts are cut from the directive as it stands, by the positions
found without that white space, which are counted in bytes.
-/
import LineScript.CommandLine.Pattern.Reader
import LineScript.Double.Shortest
import LineScript.Text.Bytes

namespace LineScript

/-- How much a log line matters, the weightiest first. -/
inductive LogLevel where
  | error
  | warn
  | info
  | debug
  | trace
  deriving DecidableEq

namespace LogLevel

def all : List LogLevel :=
  [error, warn, info, debug, trace]

/-- The level's place, counted from 1 for the weightiest. -/
def rank : LogLevel → Nat
  | error => 1
  | warn => 2
  | info => 3
  | debug => 4
  | trace => 5

/-- The level as log lines show it. -/
def name : LogLevel → String
  | error => "ERROR"
  | warn => "WARN"
  | info => "INFO"
  | debug => "DEBUG"
  | trace => "TRACE"

end LogLevel

/-- Shows the log lines up to a rank for the targets that start with a text, of
these only the lines with a field if one is named; at rank zero nothing is
shown. -/
structure LogDirective where
  target : Text
  field? : Option Text
  rank : Nat
  deriving DecidableEq

namespace LogDirective

/-- The rank that a word or a number stands for. -/
def rank? (word : Text) : Option Nat :=
  let lower := word.map Char.toLower
  let (negative, digits) := Text.cutSign word
  if lower = ['o', 'f', 'f'] then some 0
  else
    match LogLevel.all.find? fun level => level.name.toList.map Char.toLower = lower with
    | some level => some level.rank
    | none =>
      if Text.isDigits digits && !negative && Text.digitsValue digits ≤ LogLevel.trace.rank then
        some (Text.digitsValue digits)
      else none

/-- The rank behind the `=` of a directive; all lines are shown where there is
no level. -/
def levelRank? (level : Text) : Option Nat :=
  if level.isEmpty then some LogLevel.trace.rank else rank? level

/-- What a directive may start with. -/
def isStart (c : Char) : Bool :=
  Text.isIdentifierPart c || c ∈ ['-', ':', '[']

/-- Whether a text may be asked for as the value of a field: a number, or a
pattern. -/
def isValue (t : Text) : Bool :=
  (Double.ofText? t).isSome || Pattern.isPattern t

/-- Reads a field: its name, and whether a value is asked for. -/
def fieldOf? (t : Text) : Option (Text × Bool) :=
  match t.splitOn '=' with
  | name :: value :: _ => if isValue value then some (name, true) else none
  | name :: [] => some (name, false)
  | [] => none

/-- Reads what may stand behind a directive's span: nothing, or a level. `unread`
is what is looked at and starts at the position `start` of the directive. -/
def spanRank? (directive : Text) (start : Nat) (unread : Text) : Option Nat :=
  match unread with
  | [] => some LogLevel.trace.rank
  | '=' :: _ => levelRank? (directive.dropBytes (start + 1))
  | _ => none

/-- Reads the span of a directive, behind the bracket that opens it. A field
without a value is looked for in the log lines themselves; a name or a value
asks for a span. -/
def ofSpan? (directive target : Text) (start : Nat) (unread : Text) : Option (List LogDirective) :=
  let name : Text := unread.takeWhile fun c => c ≠ ']' && c ≠ '{'
  let afterName := start + name.byteLength + 1
  match unread.dropWhile fun c => c ≠ ']' && c ≠ '{' with
  | ']' :: unread => (spanRank? directive afterName unread).map fun _ => []
  | '{' :: unread =>
    match Text.cutAt? '}' unread with
    | some (field, ']' :: unread) =>
      let afterField := afterName + field.byteLength
      if field.isEmpty then none
      else
        match fieldOf? (directive.sliceBytes afterName afterField),
          spanRank? directive (afterField + 2) unread with
        | some (field, valued), some rank =>
          some (if name.isEmpty && !valued then [⟨target, some field, rank⟩] else [])
        | _, _ => none
    | _ => none
  | _ => none

/-- Reads a directive: a level for every target, a target that shows all of its
lines, or a target, a span, or both, and a level. -/
def ofText? (directive : Text) : Option (List LogDirective) :=
  let unread := directive.trim
  let target : Text := unread.takeWhile fun c => c ≠ '=' && c ≠ '['
  let afterTarget := target.byteLength
  if unread.head?.any isStart then
    match unread.dropWhile fun c => c ≠ '=' && c ≠ '[' with
    | [] =>
      match rank? directive with
      | some rank => some [⟨[], none, rank⟩]
      | none => some [⟨directive, none, LogLevel.trace.rank⟩]
    | '=' :: _ =>
      (levelRank? (directive.dropBytes (afterTarget + 1))).map fun rank =>
        [⟨directive.takeBytes afterTarget, none, rank⟩]
    | _ :: unread => ofSpan? directive (directive.takeBytes afterTarget) (afterTarget + 1) unread
  else none

end LogDirective

end LineScript
