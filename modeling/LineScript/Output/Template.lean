/-
Templates: text with `{name}` where the value of a name goes. `{{` and `}}`
stand for single braces, and a brace that begins neither is kept as it is.

A template is read into pieces first and filled in afterwards, so the text of a
value is never searched for braces.
-/
import LineScript.Symbols.Alias
import LineScript.Text.Identifier

namespace LineScript

inductive Piece where
  /-- A character that stands for itself. -/
  | literal (c : Char)
  /-- A name whose value goes here. -/
  | variable (name : Text)
  deriving DecidableEq

namespace Template

/-- The name in front of the first closing brace, if it is an identifier, and
what follows the brace. -/
def placeholder? (afterBrace : Text) : Option (Text × Text) :=
  match afterBrace.cutAt? '}' with
  | none => none
  | some (name, rest) => if name.isIdentifier then some (name, rest) else none

theorem length_placeholder?_lt {t name rest : Text} (h : placeholder? t = some (name, rest)) :
    rest.length < t.length := by
  rw [placeholder?] at h
  split at h
  next => simp at h
  next name' rest' hcut =>
    split at h
    next =>
      obtain ⟨rfl, rfl⟩ := Prod.mk.inj (Option.some.inj h)
      have hlen := congrArg List.length (Text.eq_of_cutAt? hcut)
      simp only [List.length_append, List.length_cons] at hlen
      omega
    next => simp at h

def pieces : Text → List Piece
  | [] => []
  | '{' :: '{' :: rest => .literal '{' :: pieces rest
  | '}' :: '}' :: rest => .literal '}' :: pieces rest
  | '{' :: rest =>
    match h : placeholder? rest with
    | some (name, after) =>
      have := length_placeholder?_lt h
      .variable name :: pieces after
    | none => .literal '{' :: pieces rest
  | c :: rest => .literal c :: pieces rest
termination_by t => t.length
decreasing_by
  all_goals simp only [List.length_cons]
  all_goals omega

def fillPiece (symbols : SymbolTable) : Piece → Except LookupError Text
  | .literal c => .ok [c]
  | .variable name => (symbols.resolve name).map Value.display

/-- The text of some pieces in a row, or the error of the first piece that has
none. -/
def fillPieces (symbols : SymbolTable) : List Piece → Except LookupError Text
  | [] => .ok []
  | piece :: rest => do
    let text ← fillPiece symbols piece
    let others ← fillPieces symbols rest
    return text ++ others

def fill (symbols : SymbolTable) (template : Text) : Except LookupError Text :=
  fillPieces symbols (pieces template)

end Template

end LineScript
