/-
The log: the events of a run as lines, each with its level and its target.
-/
import LineScript.CommandLine.LogFilter
import LineScript.Session.Event

namespace LineScript

namespace Event

/-- The part of the program that an event is logged for. -/
def target : Event → String
  | sourceRead _ => "linea::interpreter::preprocessor"
  | dispatched _ _ _ | bindingRead _ _ _ | skipped _ _ => "linea::interpreter::evaluator::core"
  | bound _ _ _ | opened _ _ | closed _ _ => "linea::interpreter::symbols"

def level : Event → LogLevel
  | dispatched _ _ _ | bindingRead _ _ _ => .debug
  | skipped _ _ => .warn
  | sourceRead _ | bound _ _ _ | opened _ _ | closed _ _ => .trace

/-- A character inside quotes. -/
def quotedChar (c : Char) : Text :=
  if c = '"' ∨ c = '\\' then ['\\', c]
  else if c = '\x00' then ['\\', '0']
  else if c < ' ' ∨ c = '\x7F' then
    ['\\', 'u', '{'] ++ Nat.toDigits 16 c.toNat ++ ['}']
  else [c]

def quoted (t : Text) : String :=
  "\"" ++ String.ofList (t.flatMap quotedChar) ++ "\""

def constructName : Option Construct → String
  | none => "<none>"
  | some c => String.ofList c.keyword

/-- What is said about every event of its kind. -/
def title : Event → String
  | sourceRead _ => "preprocessed source"
  | dispatched _ _ _ => "dispatch"
  | bindingRead _ _ _ => "let"
  | skipped _ _ => "skipping line with no known construct"
  | bound _ _ _ => "bind"
  | opened _ _ => "push scope"
  | closed _ _ => "pop scope"

/-- The particulars of an event, by name. -/
def fields : Event → List (String × String)
  | sourceRead lines => [("lines", toString lines)]
  | dispatched line c depth =>
    [("line", toString line), ("token", constructName c), ("depth", toString depth)]
  | bindingRead line name type =>
    [("line", toString line), ("name", quoted name), ("kind", quoted type.name.toList)]
  | skipped line word => [("line", toString line), ("word", quoted word)]
  | bound name value depth =>
    [("name", quoted name), ("value", String.ofList value.display), ("depth", toString depth)]
  | opened frame depth => [("frame", frame.toText), ("depth", toString depth)]
  | closed frame bindings => [("frame", frame.toText), ("dropped", toString bindings)]

/-- The names of the fields of a log line; what is said is one of them. -/
def fieldNames (e : Event) : List Text :=
  "message".toList :: e.fields.map fun field => field.1.toList

def fieldText (field : String × String) : String :=
  " " ++ field.1 ++ "=" ++ field.2

def logLine (e : Event) : String :=
  e.level.name ++ " " ++ e.target ++ ": " ++ e.title ++ String.join (e.fields.map fieldText)

end Event

/-- The log lines that a filter shows of some events. -/
def LogFilter.lines (f : LogFilter) (events : List Event) : List String :=
  (events.filter fun e => f.shows e.target.toList e.fieldNames e.level).map Event.logLine

end LineScript
