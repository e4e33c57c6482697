/-
Failures: what can end a run, what is said about it, and the exit code that
tells the kinds of failure apart.

A fault is what is wrong with one line; the failure adds the line's number. The
other failures are about the file, the comment marks of the source, and the
output.
-/
import LineScript.Source.File
import LineScript.Source.Line
import LineScript.Symbols.Alias
import LineScript.Value.Literal

namespace LineScript

inductive Fault where
  /-- No keyword occurs in its first word. -/
  | unknownConstruct (word : Text)
  /-- A binding lacks its name, its `=` or its literal. -/
  | malformedLet
  /-- A literal has no value. -/
  | invalidLiteral (literal : Text) (cause : LiteralError)
  /-- The nesting of blocks is broken. -/
  | scope (cause : ScopeError)
  /-- A name stands for no value. -/
  | lookup (cause : LookupError)
  deriving DecidableEq

namespace Fault

def message : Fault → String
  | unknownConstruct word => "Unknown construct '" ++ String.ofList word ++ "'"
  | malformedLet => "Malformed let statement; expected `let [mut] <name> = <value>`"
  | invalidLiteral literal cause =>
    "Invalid literal `" ++ String.ofList literal ++ "`: " ++ cause.message
  | scope cause => cause.message
  | lookup cause => cause.message

/-- What is said about the causes behind a fault, the nearest first. -/
def causes : Fault → List String
  | invalidLiteral _ cause => [cause.message]
  | _ => []

def exitCode : Fault → Nat
  | unknownConstruct _ => 64
  | malformedLet => 67
  | invalidLiteral _ _ => 67
  | scope _ => 70
  | lookup _ => 71

end Fault

inductive Failure where
  | read (cause : ReadFailure)
  /-- The output could not be written, for a reason that the sink gives. -/
  | write (reason : String)
  /-- Quotes leave open whether a line has a comment. -/
  | quotes (cause : UnbalancedQuotes)
  /-- Something is wrong with a line. -/
  | fault (line : Nat) (cause : Fault)
  deriving DecidableEq

namespace Failure

/-- The message of a failure on a line. -/
def messageOnLine (line : Nat) (text : String) : String :=
  "Error on line " ++ toString line ++ ": " ++ text ++ "."

def message : Failure → String
  | read cause => "Failed to read the source file: " ++ cause.message
  | write reason => "Failed to write output: " ++ reason
  | quotes cause =>
    messageOnLine cause.line "Unbalanced quotes before '#'; cannot tell a comment from string text"
  | fault line cause => messageOnLine line cause.message

def line? : Failure → Option Nat
  | read _ | write _ => none
  | quotes cause => some cause.line
  | fault line _ => some line

/-- What is said about the causes behind a failure, the nearest first. -/
def causes : Failure → List String
  | read cause => [cause.message]
  | write reason => [reason]
  | quotes _ => []
  | fault _ cause => cause.message :: cause.causes

def exitCode : Failure → Nat
  | read _ => 66
  | write _ => 74
  | quotes _ => 65
  | fault _ cause => cause.exitCode

end Failure

end LineScript
