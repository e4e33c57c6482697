/-
Statements written out as acts. A statement is its own act, followed by the
acts of what is nested in it and by the closing brace of a one-line block
(`Statement.acts`); executing it is doing these acts in order, up to the first
that fails (`Run.exec_eq_acts`). So whatever is said of a run can be shown by
going along one list, however the lines nest.

An act is taken up, announced by a trace line, worked and written out, in this
order (`Run.act`). Its work does not touch the sink: it hands out the text that
is left to be written.
-/
import LineScript.Proofs.Session.Law

namespace LineScript

/-- One thing that a line asks for. -/
structure Act where
  line : Nat
  /-- What the text was read as, if its first word holds a keyword. -/
  construct? : Option Construct
  text : Text
  /-- Whether the act has no text in the source and is not dispatched: the
  closing of a one-line block. -/
  implied : Bool
  deriving DecidableEq

namespace Act

/-- The closing brace that a one-line block stands for. -/
def closing (line : Nat) : Act :=
  ⟨line, some .closeBrace, ['}'], true⟩

end Act

/-- The act that a statement is, and behind it those that it holds. -/
def Statement.acts (line : Nat) (st : Statement) : List Act :=
  ⟨line, st.construct?, st.text, false⟩ ::
    match st with
    | .emptyBlock _ _ => [.closing line]
    | .inlineBlock _ _ body => body.acts line ++ [.closing line]
    | .closeThen _ rest => rest.acts line
    | _ => []

/-- The acts of a line. -/
def Line.acts (line : Line) : List Act :=
  (Statement.ofText line.text).acts line.number

/-- The acts of all lines of a source; a source that is refused has none. -/
def Source.acts (source : Text) : List Act :=
  match lines source with
  | .error _ => []
  | .ok ls => ls.flatMap Line.acts

/-- The acts of a line have its number, and all but its closing braces have a
text in it. -/
theorem Statement.cases_of_mem_acts {line : Nat} {st : Statement} {a : Act}
    (h : a ∈ st.acts line) : a = .closing line ∨ a.line = line ∧ a.implied = false := by
  induction st with
  | inlineBlock kind text body ih =>
    simp only [acts, List.mem_cons, List.mem_append, List.not_mem_nil, or_false] at h
    rcases h with rfl | h | rfl
    · exact .inr ⟨rfl, rfl⟩
    · exact ih h
    · exact .inl rfl
  | closeThen text rest ih =>
    rcases List.mem_cons.1 h with rfl | h
    · exact .inr ⟨rfl, rfl⟩
    · exact ih h
  | emptyBlock kind text =>
    simp only [acts, List.mem_cons, List.not_mem_nil, or_false] at h
    rcases h with rfl | rfl
    · exact .inr ⟨rfl, rfl⟩
    · exact .inl rfl
  | _ =>
    obtain rfl := List.mem_singleton.1 h
    exact .inr ⟨rfl, rfl⟩

theorem Line.line_of_mem_acts {line : Line} {a : Act} (h : a ∈ line.acts) :
    a.line = line.number := by
  rcases Statement.cases_of_mem_acts h with rfl | ⟨hline, -⟩
  · rfl
  · exact hline

/-- Text without a construct is text of the source. -/
theorem Line.not_implied_of_mem_acts {line : Line} {a : Act} (h : a ∈ line.acts)
    (hc : a.construct? = none) : a.implied = false := by
  rcases Statement.cases_of_mem_acts h with rfl | ⟨-, himplied⟩
  · cases hc
  · exact himplied

namespace Run

variable {σ : Type}

/-- Reports that the text of an act is about to be executed, if it has one. -/
def takeUp (a : Act) : Run σ Unit :=
  if a.implied then pure () else dispatch a.line a.construct?

/-- The argument of a line as the text that is written for it. -/
def renderArgument (line : Nat) (c : Construct) (text : Text) : Run σ Text := do
  ofFault line (Output.render (← session).symbols (c.argument text))

/-- What an act does apart from its output; hands out the text that is left to
be written, if there is one. -/
def work (a : Act) : Run σ (Option Text) :=
  match a.construct? with
  | none => do
    skip a.line a.text
    return none
  | some .binding => do
    let (statement, value) ← ofFault a.line (readBinding a.text)
    report (.bindingRead a.line statement.name value.type)
    report (.bound statement.name value (← session).symbols.depth)
    modify fun s => { s with symbols := s.symbols.bind statement.name value }
    return none
  | some .print => do
    let rendered ← renderArgument a.line .print a.text
    return some rendered
  | some .puts => do
    let rendered ← renderArgument a.line .puts a.text
    return some (rendered ++ ['\n'])
  | some (.block kind) => do
    openInnermost a.line kind
    return none
  | some .openBrace => return none
  | some .closeBrace => do
    closeInnermost a.line
    return none

/-- What an act does apart from all writing. -/
def perform (a : Act) : Run σ (Option Text) := do
  takeUp a
  work a

variable [Sink σ]

/-- Writes the trace line of an act, if traces are asked for. -/
def announce (a : Act) : Run σ Unit :=
  match a.construct? with
  | none => pure ()
  | some c => trace c a.text

def writeOut : Option Text → Run σ Unit
  | none => pure ()
  | some t => write t

def act (a : Act) : Run σ Unit := do
  takeUp a
  announce a
  writeOut (← work a)

def acts : List Act → Run σ Unit
  | [] => pure ()
  | a :: rest => do
    act a
    acts rest

theorem acts_append (as as' : List Act) :
    (acts (as ++ as') : Run σ Unit) = acts as >>= fun _ => acts as' := by
  induction as with
  | nil => rfl
  | cons a rest ih =>
    show act a >>= (fun _ => acts (rest ++ as')) = _
    rw [ih, ← bind_assoc]
    rfl

theorem acts_singleton (a : Act) : (acts [a] : Run σ Unit) = act a :=
  bind_pure _

/-! ## Statements as acts -/

/-- What a statement does once it is dispatched and before anything nested in
it is executed. -/
def ownPart (line : Nat) (text : Text) : Option Construct → Run σ Unit
  | none => skip line text
  | some .binding => bindLine line text
  | some .print => writeLine line .print text []
  | some .puts => writeLine line .puts text ['\n']
  | some (.block kind) => openBlock line kind text
  | some .openBrace => trace .openBrace text
  | some .closeBrace => closeBlock line text

theorem act_eq_ownPart (line : Nat) (c : Option Construct) (text : Text) :
    (act ⟨line, c, text, false⟩ : Run σ Unit) =
      dispatch line c >>= fun _ => ownPart line text c := by
  rcases c with _ | _ | _ | _ | kind | _ | _
  case some.block => rfl
  all_goals
    simp only [act, takeUp, announce, work, renderArgument, writeOut, ownPart, bindLine, writeLine,
      closeBlock, bind_assoc, pure_bind, bind_pure_unit, List.append_nil, Bool.false_eq_true,
      if_false]

theorem act_closing (line : Nat) :
    (act (.closing line) : Run σ Unit) = closeBlock line ['}'] := by
  simp only [act, Act.closing, takeUp, announce, work, writeOut, closeBlock, bind_assoc, pure_bind,
    bind_pure_unit, if_true]

/-- Executing a statement is doing its acts. -/
theorem exec_eq_acts (line : Nat) (st : Statement) :
    (exec line st : Run σ Unit) = acts (st.acts line) := by
  induction st with
  | emptyBlock kind text =>
    show _ = act _ >>= fun _ => acts [.closing line]
    rw [acts_singleton, act_closing, act_eq_ownPart, bind_assoc]
    rfl
  | inlineBlock kind text body ih =>
    show _ = act _ >>= fun _ => acts (body.acts line ++ [.closing line])
    rw [acts_append, acts_singleton, act_closing, ← ih, act_eq_ownPart, bind_assoc]
    rfl
  | closeThen text rest ih =>
    show _ = act _ >>= fun _ => acts (rest.acts line)
    rw [← ih, act_eq_ownPart, bind_assoc]
    rfl
  | _ => exact (act_eq_ownPart line _ _).symm.trans (acts_singleton _).symm

theorem execLines_eq_acts (ls : List Line) :
    (execLines ls : Run σ Unit) = acts (ls.flatMap Line.acts) := by
  induction ls with
  | nil => rfl
  | cons line rest ih =>
    show execLine line.number line.text >>= (fun _ => execLines rest) = _
    rw [List.flatMap_cons, acts_append, ih, execLine, exec_eq_acts]
    rfl

end Run

end LineScript
