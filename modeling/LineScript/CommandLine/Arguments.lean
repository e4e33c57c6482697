/-
The arguments of the command: a path and flags, in any order.

Arguments are read from left to right, and the first thing that decides the
outcome does: a request for help or for the version, or an argument that cannot
stand where it does. Only a missing path shows at the end.
-/
import LineScript.Text.Basic

namespace LineScript

inductive Flag where
  | noTrace
  | strict
  | dumpSymbols
  | verbose
  | help
  | version
  deriving DecidableEq

namespace Flag

def all : List Flag :=
  [noTrace, strict, dumpSymbols, verbose, help, version]

/-- The name of a flag behind two dashes. -/
def longName : Flag → String
  | noTrace => "no-trace"
  | strict => "strict"
  | dumpSymbols => "dump-symbols"
  | verbose => "verbose"
  | help => "help"
  | version => "version"

/-- The letter of a flag behind one dash. -/
def letter : Flag → Char
  | noTrace => 'q'
  | strict => 's'
  | dumpSymbols => 'd'
  | verbose => 'v'
  | help => 'h'
  | version => 'V'

def ofLongName? (name : Text) : Option Flag :=
  all.find? fun flag => flag.longName.toList = name

def ofLetter? (c : Char) : Option Flag :=
  all.find? fun flag => flag.letter = c

end Flag

/-- What the arguments ask for. -/
structure Arguments where
  path? : Option String
  noTrace : Bool
  strict : Bool
  dumpSymbols : Bool
  /-- How often more detail was asked for. -/
  verbosity : Nat
  deriving DecidableEq

/-- What ends the command before it runs anything. -/
inductive EarlyEnd where
  | help
  | version
  | usageError
  deriving DecidableEq

namespace Arguments

def none : Arguments :=
  ⟨.none, false, false, false, 0⟩

/-- Reads a flag. Only the flag for more detail may be repeated. -/
def addFlag (a : Arguments) : Flag → Except EarlyEnd Arguments
  | .noTrace => if a.noTrace then .error .usageError else .ok { a with noTrace := true }
  | .strict => if a.strict then .error .usageError else .ok { a with strict := true }
  | .dumpSymbols => if a.dumpSymbols then .error .usageError else .ok { a with dumpSymbols := true }
  | .verbose => .ok { a with verbosity := a.verbosity + 1 }
  | .help => .error .help
  | .version => .error .version

/-- Reads a flag that may be unknown. -/
def addFlag? (a : Arguments) : Option Flag → Except EarlyEnd Arguments
  | .none => .error .usageError
  | some flag => a.addFlag flag

/-- Reads a path; there is only one, and it is not empty. -/
def addPath (a : Arguments) (path : String) : Except EarlyEnd Arguments :=
  if a.path?.isSome || path.isEmpty then .error .usageError else .ok { a with path? := some path }

/-- Reads an argument that may be a flag, several flags in one, or a path. -/
def addArgument (a : Arguments) (argument : String) : Except EarlyEnd Arguments :=
  match argument.toList with
  | '-' :: '-' :: name => a.addFlag? (Flag.ofLongName? name)
  | '-' :: c :: letters => (c :: letters).foldlM (fun a c => a.addFlag? (Flag.ofLetter? c)) a
  | _ => a.addPath argument

/-- Reads the arguments after those that `a` holds. After two dashes alone
everything is a path. -/
def addAll (a : Arguments) : List String → Except EarlyEnd Arguments
  | [] => .ok a
  | argument :: rest => do
    if argument = "--" then rest.foldlM addPath a
    else addAll (← a.addArgument argument) rest

/-- Reads the arguments of the command: the path and what else they ask for. -/
def ofList (arguments : List String) : Except EarlyEnd (String × Arguments) := do
  let a ← none.addAll arguments
  match a.path? with
  | .none => .error .usageError
  | some path => .ok (path, a)

end Arguments

end LineScript
