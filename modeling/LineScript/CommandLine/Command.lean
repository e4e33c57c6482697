/-
The command: runs a script file and reports its output, what is said about it,
and an exit code.
-/
import LineScript.CommandLine.Arguments
import LineScript.CommandLine.Log
import LineScript.Session.Exec

namespace LineScript

/-- What the command leaves behind. -/
structure Report where
  exitCode : Nat
  stdout : Buffer
  stderr : String
  /-- The log lines, which go to the standard error as well. -/
  log : List String

namespace Command

def helpText : String :=
  "Front end and single-pass execution driver for a small line-oriented scripting language.\n\n" ++
  "Usage: linea [OPTIONS] <PATH>\n\n" ++
  "Arguments:\n  <PATH>  Path of the script to run\n\n" ++
  "Options:\n" ++
  "  -q, --no-trace      Stops the `Handle ...` line that is otherwise written to stdout for " ++
    "every construct before it runs\n" ++
  "  -s, --strict        Fails on lines that start with no known construct instead of skipping " ++
    "them\n" ++
  "  -d, --dump-symbols  Prints the global bindings to stderr after a successful run\n" ++
  "  -v, --verbose...    Raises the log level; repeat for more detail. `RUST_LOG` overrides it\n" ++
  "  -h, --help          Print help\n" ++
  "  -V, --version       Print version\n"

def versionText : String :=
  "linea 0.1.0\n"

/-- What is said about arguments that cannot be read. -/
def usageText : String :=
  "Usage: linea [OPTIONS] <PATH>\n\nFor more information, try '--help'.\n"

def textReport (text : String) : Report :=
  ⟨0, Buffer.unlimited.add (Text.utf8 text.toList), "", []⟩

/-- The report of a command that ends before it runs anything. -/
def earlyReport : EarlyEnd → Report
  | .help => textReport helpText
  | .version => textReport versionText
  | .usageError => ⟨2, .unlimited, usageText, []⟩

/-- The options that the arguments ask for; traces are on unless they are
stopped. -/
def options (a : Arguments) : Options :=
  { trace := !a.noTrace, strict := a.strict }

def logLevel (a : Arguments) : LogLevel :=
  match a.verbosity with
  | 0 => .warn
  | 1 => .info
  | 2 => .debug
  | _ => .trace

/-- The filter of log lines: the one that the environment gives, or the level
that the arguments ask for when it gives none that can be read. -/
def logFilter (a : Arguments) (directives? : Option Text) : LogFilter :=
  match directives?.bind LogFilter.ofText? with
  | some filter => filter
  | none => .upTo ['l', 'i', 'n', 'e', 'a'] (logLevel a).rank

def run (a : Arguments) (directives? : Option Text) (file : SourceFile) : Report :=
  let outcome := executeFile file (options a) Buffer.unlimited
  let log := (logFilter a directives?).lines outcome.events
  let stdout := outcome.session.sink
  match outcome.result with
  | .error failure => ⟨failure.exitCode, stdout, failure.message ++ "\n", log⟩
  | .ok () =>
    let listing := String.ofList outcome.session.symbols.listing
    ⟨0, stdout, if a.dumpSymbols then listing else "", log⟩

end Command

end LineScript
