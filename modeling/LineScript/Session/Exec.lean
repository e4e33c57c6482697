/-
Executing statements.

Every statement writes its trace line first, if traces are asked for, and then
does what its construct says. Conditions are not looked at: every block is
executed once. A block opens a frame of the symbol table and is remembered with
its line; a closing brace closes the innermost block whatever its kind.

The open blocks, the frames of the symbol table and the counts of open blocks
record the same thing three times; each opening and each closing changes all
three.
-/
import LineScript.Construct.Let
import LineScript.Construct.Statement
import LineScript.Output.Render
import LineScript.Session.Run

namespace LineScript

/-- A construct as trace lines name it. -/
def Construct.traceName : Construct → Text
  | .openBrace => ['o', 'p', 'e', 'n', ' ', 'b', 'r', 'a', 'c', 'e']
  | .closeBrace => ['c', 'l', 'o', 's', 'e', ' ', 'b', 'r', 'a', 'c', 'e']
  | c => c.keyword ++ [' ', 's', 't', 'a', 't', 'e', 'm', 'e', 'n', 't']

/-- The line that announces a construct and the text it was read from. -/
def traceLine (c : Construct) (text : Text) : Text :=
  ['H', 'a', 'n', 'd', 'l', 'e', ' '] ++ c.traceName ++ [':', ' '] ++ text ++ ['\n']

/-- Reads a binding line: the statement and the value of its literal. -/
def readBinding (text : Text) : Except Fault (LetStatement × Value) :=
  match LetStatement.ofLine? text with
  | none => .error .malformedLet
  | some statement =>
    match Value.ofLiteral statement.literal with
    | .error cause => .error (.invalidLiteral statement.literal cause)
    | .ok value => .ok (statement, value)

namespace Run

variable {σ : Type}

/-- Writes the trace line of a construct, if traces are asked for. -/
def trace [Sink σ] (c : Construct) (text : Text) : Run σ Unit := do
  if (← session).options.trace then write (traceLine c text)

/-- Reports that a text is about to be executed. -/
def dispatch (line : Nat) (c : Option Construct) : Run σ Unit := do
  report (.dispatched line c (← session).blocks.length)

/-- Skips a line without a construct, or fails on it. -/
def skip (line : Nat) (text : Text) : Run σ Unit := do
  let word := text.firstWord?.getD []
  if (← session).options.strict then fail (.fault line (.unknownConstruct word))
  report (.skipped line word)

/-- Binds the name of a binding line to the value of its literal. -/
def bindLine [Sink σ] (line : Nat) (text : Text) : Run σ Unit := do
  trace .binding text
  let (statement, value) ← ofFault line (readBinding text)
  report (.bindingRead line statement.name value.type)
  report (.bound statement.name value (← session).symbols.depth)
  modify fun s => { s with symbols := s.symbols.bind statement.name value }

/-- Writes the argument of a line, with a text behind it. -/
def writeLine [Sink σ] (line : Nat) (c : Construct) (text ending : Text) : Run σ Unit := do
  trace c text
  let rendered ← ofFault line (Output.render (← session).symbols (c.argument text))
  write (rendered ++ ending)

def openBlock [Sink σ] (line : Nat) (kind : BlockKind) (text : Text) : Run σ Unit := do
  trace (.block kind) text
  let id := (← session).symbols.nextId kind
  modify fun s =>
    { s with
      counts := s.counts.increment kind
      symbols := s.symbols.openFrame kind
      blocks := ⟨id, line⟩ :: s.blocks }
  report (.opened id (← session).symbols.depth)

def closeInnermost (line : Nat) : Run σ Unit := do
  match (← session).blocks with
  | [] => fail (.fault line (.scope .unmatchedClose))
  | block :: outer =>
    modify fun s => { s with blocks := outer }
    let (frame, symbols) ←
      ofFault line (((← session).symbols.closeFrame block.frame).mapError .scope)
    report (.closed frame.id frame.scope.size)
    modify fun s => { s with symbols, counts := s.counts.decrement block.frame.kind }

/-- Closes the innermost block for the text of a line. -/
def closeBlock [Sink σ] (line : Nat) (text : Text) : Run σ Unit := do
  trace .closeBrace text
  closeInnermost line

/-- Executes a statement that was read from the line with this number. -/
def exec [Sink σ] (line : Nat) : Statement → Run σ Unit
  | .unknown text => do
    dispatch line none
    skip line text
  | .binding text => do
    dispatch line (some .binding)
    bindLine line text
  | .print text => do
    dispatch line (some .print)
    writeLine line .print text []
  | .puts text => do
    dispatch line (some .puts)
    writeLine line .puts text ['\n']
  | .header kind text => do
    dispatch line (some (.block kind))
    openBlock line kind text
  | .emptyBlock kind text => do
    dispatch line (some (.block kind))
    openBlock line kind text
    closeBlock line ['}']
  | .inlineBlock kind text body => do
    dispatch line (some (.block kind))
    openBlock line kind text
    exec line body
    closeBlock line ['}']
  | .openBrace text => do
    dispatch line (some .openBrace)
    trace .openBrace text
  | .close text => do
    dispatch line (some .closeBrace)
    closeBlock line text
  | .closeThen text rest => do
    dispatch line (some .closeBrace)
    closeBlock line text
    exec line rest

def execLine [Sink σ] (line : Nat) (text : Text) : Run σ Unit :=
  exec line (Statement.ofText text)

def execLines [Sink σ] : List Line → Run σ Unit
  | [] => pure ()
  | line :: rest => do
    execLine line.number line.text
    execLines rest

/-- Checks that no block is open, then flushes the sink. -/
def finish [Sink σ] : Run σ Unit := do
  match (← session).blocks with
  | block :: _ => fail (.fault block.line (.scope (.unclosed block.frame)))
  | [] => flush

def runLines [Sink σ] (lines : List Line) : Run σ Unit := do
  execLines lines
  finish

def runSource [Sink σ] (source : Text) : Run σ Unit := do
  match Source.lines source with
  | .error cause => fail (.quotes cause)
  | .ok lines =>
    report (.sourceRead lines.length)
    runLines lines

def runFile [Sink σ] (file : SourceFile) : Run σ Unit := do
  match file.read with
  | .error cause => fail (.read cause)
  | .ok source => runSource source

end Run

def execute {σ : Type} [Sink σ] (source : Text) (options : Options) (sink : σ) : Outcome σ Unit :=
  Run.runSource source (Session.start options sink)

def executeFile {σ : Type} [Sink σ] (file : SourceFile) (options : Options) (sink : σ) :
    Outcome σ Unit :=
  Run.runFile file (Session.start options sink)

end LineScript
