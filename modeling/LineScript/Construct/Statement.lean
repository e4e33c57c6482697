/-
Statements: a line together with the lines that are nested in it.

A block line with a body between its braces holds the body as a statement, and
a closing brace with text after it holds that text as one. Each nested text is
shorter than the text around it, so every line is one finite statement.
-/
import LineScript.Construct.Basic
import LineScript.Construct.Inline

namespace LineScript

/-- A line, by what it does, with the lines nested in it. Every form keeps the
text it was read from. -/
inductive Statement where
  /-- No keyword occurs in the first word. -/
  | unknown (text : Text)
  | binding (text : Text)
  | print (text : Text)
  | puts (text : Text)
  /-- Opens a block that later lines belong to. -/
  | header (kind : BlockKind) (text : Text)
  /-- Opens a block and closes it again, with nothing in between. -/
  | emptyBlock (kind : BlockKind) (text : Text)
  /-- Opens a block, does what the body says, and closes a block. -/
  | inlineBlock (kind : BlockKind) (text : Text) (body : Statement)
  | openBrace (text : Text)
  | close (text : Text)
  /-- Closes a block, then does what the rest of the line says. -/
  | closeThen (text : Text) (rest : Statement)
  deriving DecidableEq

namespace Statement

def ofText (text : Text) : Statement :=
  match Construct.ofLine? text with
  | none => .unknown text
  | some .binding => .binding text
  | some .print => .print text
  | some .puts => .puts text
  | some (.block kind) =>
    match h : Text.inlineBody? text with
    | none => .header kind text
    | some [] => .emptyBlock kind text
    | some (c :: body) =>
      have := Text.length_inlineBody?_lt h
      .inlineBlock kind text (ofText (c :: body))
  | some .openBrace => .openBrace text
  | some .closeBrace =>
    if h : Text.afterClose text = [] then .close text
    else
      have := Text.length_afterClose_lt h
      .closeThen text (ofText (Text.afterClose text))
termination_by text.length

/-- The text that a statement was read from. -/
def text : Statement → Text
  | .unknown text | .binding text | .print text | .puts text => text
  | .header _ text | .emptyBlock _ text | .inlineBlock _ text _ => text
  | .openBrace text | .close text | .closeThen text _ => text

def construct? : Statement → Option Construct
  | .unknown _ => none
  | .binding _ => some .binding
  | .print _ => some .print
  | .puts _ => some .puts
  | .header kind _ | .emptyBlock kind _ | .inlineBlock kind _ _ => some (.block kind)
  | .openBrace _ => some .openBrace
  | .close _ | .closeThen _ _ => some .closeBrace

@[simp] theorem text_ofText (t : Text) : (ofText t).text = t := by
  rw [ofText]
  repeat' split
  all_goals rfl

@[simp] theorem construct?_ofText (t : Text) : (ofText t).construct? = Construct.ofLine? t := by
  rw [ofText]
  repeat' split
  all_goals simp only [construct?, *]

end Statement

end LineScript
