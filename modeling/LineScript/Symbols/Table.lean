/-
The symbol table: the global bindings and a stack of frames, one for each open
block. A name is bound in the innermost frame and looked up from there
outwards, the global bindings last.

A frame is known by its kind and by how many frames of that kind were opened
before it; these numbers are counted up and never down, so no two frames of one
table share an identity. A frame is closed under its identity, and only when it
is the innermost one.
-/
import LineScript.Construct.Basic
import LineScript.Symbols.Scope

namespace LineScript

/-- A number for each kind of block. -/
structure Tally where
  ifBlocks : Nat
  elifBlocks : Nat
  elseBlocks : Nat
  forBlocks : Nat
  deriving DecidableEq

namespace Tally

def zero : Tally :=
  ⟨0, 0, 0, 0⟩

def get (t : Tally) : BlockKind → Nat
  | .ifBlock => t.ifBlocks
  | .elifBlock => t.elifBlocks
  | .elseBlock => t.elseBlocks
  | .forBlock => t.forBlocks

def modify (t : Tally) (f : Nat → Nat) : BlockKind → Tally
  | .ifBlock => { t with ifBlocks := f t.ifBlocks }
  | .elifBlock => { t with elifBlocks := f t.elifBlocks }
  | .elseBlock => { t with elseBlocks := f t.elseBlocks }
  | .forBlock => { t with forBlocks := f t.forBlocks }

def increment (t : Tally) (kind : BlockKind) : Tally :=
  t.modify (· + 1) kind

/-- Counts one down, to zero at the least. -/
def decrement (t : Tally) (kind : BlockKind) : Tally :=
  t.modify (· - 1) kind

@[simp] theorem get_zero (kind : BlockKind) : zero.get kind = 0 := by
  cases kind <;> rfl

@[simp] theorem get_modify_self (t : Tally) (f : Nat → Nat) (kind : BlockKind) :
    (t.modify f kind).get kind = f (t.get kind) := by
  cases kind <;> rfl

theorem get_modify_other (t : Tally) (f : Nat → Nat) {kind kind' : BlockKind} (h : kind' ≠ kind) :
    (t.modify f kind).get kind' = t.get kind' := by
  cases kind <;> cases kind' <;> first | rfl | exact absurd rfl h

end Tally

/-- The identity of a frame: its kind, and how many frames of that kind were
opened before it. -/
structure FrameId where
  kind : BlockKind
  sequence : Nat
  deriving DecidableEq

namespace FrameId

/-- A frame as messages name it. -/
def toText (id : FrameId) : String :=
  "'" ++ String.ofList id.kind.keyword ++ "' #" ++ toString id.sequence

end FrameId

/-- The scope of one open block. -/
structure Frame where
  id : FrameId
  scope : Scope
  deriving DecidableEq

/-- A violation of the nesting of blocks. -/
inductive ScopeError where
  /-- A line closes a block and none is open. -/
  | unmatchedClose
  /-- A frame is to be closed and none is open. -/
  | nothingOpen (expected : FrameId)
  /-- A frame is to be closed that is not the innermost one. -/
  | mismatch (expected found : FrameId)
  /-- A block is open at the end. -/
  | unclosed (frame : FrameId)
  deriving DecidableEq

namespace ScopeError

def message : ScopeError → String
  | unmatchedClose => "Unmatched '\x7d'; no block is open"
  | nothingOpen expected => "Cannot close " ++ expected.toText ++ "; no scope is open"
  | mismatch expected found =>
    "Cannot close " ++ expected.toText ++ "; the innermost open scope is " ++ found.toText
  | unclosed frame => "Unclosed " ++ frame.toText ++ " block"

end ScopeError

/-- The bindings of a run: the global ones, the open frames from the innermost
outwards, and how many frames of each kind were ever opened. -/
structure SymbolTable where
  globals : Scope
  frames : List Frame
  opened : Tally
  deriving DecidableEq

namespace SymbolTable

def empty : SymbolTable :=
  ⟨.empty, [], .zero⟩

def depth (t : SymbolTable) : Nat :=
  t.frames.length

/-- The identity of the innermost open frame. -/
def innermost? (t : SymbolTable) : Option FrameId :=
  t.frames.head?.map Frame.id

/-- Binds a name in the innermost frame, or globally when none is open. -/
def bind (t : SymbolTable) (name : Text) (value : Value) : SymbolTable :=
  match t.frames with
  | [] => { t with globals := t.globals.insert name value }
  | frame :: outer =>
    { t with frames := { frame with scope := frame.scope.insert name value } :: outer }

/-- The value of a name, from the innermost frame that binds it. -/
def get? (t : SymbolTable) (name : Text) : Option Value :=
  (t.frames.findSome? fun frame => frame.scope.get? name).or (t.globals.get? name)

def containsAll (t : SymbolTable) (names : List Text) : Bool :=
  names.all fun name => (t.get? name).isSome

/-- The identity that the next frame of a kind gets. -/
def nextId (t : SymbolTable) (kind : BlockKind) : FrameId :=
  ⟨kind, t.opened.get kind⟩

/-- Opens an empty frame under the next identity of its kind. -/
def openFrame (t : SymbolTable) (kind : BlockKind) : SymbolTable :=
  { t with
    frames := ⟨t.nextId kind, .empty⟩ :: t.frames
    opened := t.opened.increment kind }

/-- Closes the innermost frame, which has to be the expected one, and hands it
out with its bindings. -/
def closeFrame (t : SymbolTable) (expected : FrameId) : Except ScopeError (Frame × SymbolTable) :=
  match t.frames with
  | [] => .error (.nothingOpen expected)
  | frame :: outer =>
    if frame.id = expected then .ok (frame, { t with frames := outer })
    else .error (.mismatch expected frame.id)

/-- Every visible binding, each name once, with the value that a look-up finds. -/
def visible (t : SymbolTable) : Scope :=
  t.frames.foldr (fun frame outer => frame.scope.shadowing outer) (t.globals.shadowing .empty)

/-- One line for each visible binding: name, type and literal. -/
def listing (t : SymbolTable) : Text :=
  t.visible.bindings.flatMap fun (name, value) =>
    name ++ [':', ' '] ++ value.type.name.toList ++ [' ', '=', ' '] ++ value.toLiteral ++ ['\n']

/-- The listing of visible bindings is what look-ups see. -/
theorem get?_visible (t : SymbolTable) (name : Text) : t.visible.get? name = t.get? name := by
  obtain ⟨globals, frames, opened⟩ := t
  simp only [visible, get?]
  induction frames with
  | nil => simp [Scope.get?_shadowing]
  | cons frame outer ih =>
    rw [List.foldr_cons, Scope.get?_shadowing, ih, List.findSome?_cons]
    cases frame.scope.get? name <;> rfl

end SymbolTable

end LineScript
