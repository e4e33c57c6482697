/-
Sessions, and the actions that a run is made of.

A session is the state of a run: the symbol table, the open blocks with the
lines that opened them, how many blocks of each kind are open, and the sink. An
action takes a session and gives an outcome; also an action that fails gives
the session as it stands then, so a run can go on after a failure, and the
events that happened until then.
-/
import LineScript.Failure
import LineScript.Session.Event
import LineScript.Session.Sink

namespace LineScript

/-- What a run may be asked to do differently. -/
structure Options where
  /-- Write a line for each construct before it is executed. -/
  trace : Bool
  /-- Fail on a line without a construct instead of skipping it. -/
  strict : Bool
  deriving DecidableEq

/-- A block that is open, and the line that opened it. -/
structure OpenBlock where
  frame : FrameId
  line : Nat
  deriving DecidableEq

/-- The state of a run. -/
structure Session (σ : Type) where
  options : Options
  symbols : SymbolTable
  /-- The open blocks from the innermost outwards. -/
  blocks : List OpenBlock
  counts : Tally
  sink : σ

def Session.start {σ : Type} (options : Options) (sink : σ) : Session σ :=
  { options, symbols := .empty, blocks := [], counts := .zero, sink }

/-- What an action leads to: its result, the session afterwards, and the events
on the way. -/
structure Outcome (σ α : Type) where
  result : Except Failure α
  session : Session σ
  events : List Event

def Run (σ α : Type) : Type :=
  Session σ → Outcome σ α

namespace Run

variable {σ α β : Type}

protected def pure (a : α) : Run σ α := fun s =>
  ⟨.ok a, s, []⟩

/-- Does one action and then another; the second is left out when the first one
fails. -/
protected def bind (x : Run σ α) (f : α → Run σ β) : Run σ β := fun s =>
  let first := x s
  match first.result with
  | .error failure => ⟨.error failure, first.session, first.events⟩
  | .ok a =>
    let second := f a first.session
    { second with events := first.events ++ second.events }

instance : Monad (Run σ) where
  pure := Run.pure
  bind := Run.bind

def fail (failure : Failure) : Run σ α := fun s =>
  ⟨.error failure, s, []⟩

def session : Run σ (Session σ) := fun s =>
  ⟨.ok s, s, []⟩

def modify (f : Session σ → Session σ) : Run σ Unit := fun s =>
  ⟨.ok (), f s, []⟩

def report (event : Event) : Run σ Unit := fun s =>
  ⟨.ok (), s, [event]⟩

/-- The value of a computation; its error is a fault of a line. -/
def ofFault (line : Nat) : Except Fault α → Run σ α
  | .ok a => pure a
  | .error cause => fail (.fault line cause)

/-- What a sink answers, as an outcome. -/
def sinkAnswer (s : Session σ) (answer : Option String × σ) : Outcome σ Unit :=
  let s := { s with sink := answer.2 }
  match answer.1 with
  | none => ⟨.ok (), s, []⟩
  | some reason => ⟨.error (.write reason), s, []⟩

def write [Sink σ] (t : Text) : Run σ Unit := fun s =>
  sinkAnswer s (Sink.write s.sink t)

def flush [Sink σ] : Run σ Unit := fun s =>
  sinkAnswer s (Sink.flush s.sink)

@[simp] theorem pure_apply (a : α) (s : Session σ) : (pure a : Run σ α) s = ⟨.ok a, s, []⟩ :=
  rfl

theorem bind_apply_ok {x : Run σ α} {f : α → Run σ β} {s : Session σ} {a : α}
    (h : (x s).result = .ok a) :
    (x >>= f) s = { f a (x s).session with
      events := (x s).events ++ (f a (x s).session).events } := by
  simp only [Bind.bind, Run.bind, h]

theorem bind_apply_error {x : Run σ α} {f : α → Run σ β} {s : Session σ} {failure : Failure}
    (h : (x s).result = .error failure) :
    (x >>= f) s = ⟨.error failure, (x s).session, (x s).events⟩ := by
  simp only [Bind.bind, Run.bind, h]

end Run

end LineScript
