/-
Walking a program, statement by statement: what a program means, said without
braces, frames and symbol tables.

An environment is a stack of assignments, the innermost first. A binding
assigns in the innermost one, `puts` writes the value that a name resolves to,
and a block is walked once in an assignment of its own, which is thrown away at
the end of the block. A name that stands for no value stops the walk. Lines are
only counted, since what stops a walk is told with its line.

Every program can be walked (`Program.exists_walk`).
-/
import LineScript.Proofs.Program.Tree
import LineScript.Proofs.Symbols.Chain
import Mathlib.Logic.Function.Basic

namespace LineScript

/-- What names are assigned, from the innermost block outwards. -/
abbrev Env : Type :=
  List (Text → Option Value)

namespace Env

/-- No name is assigned a value. -/
def blank : Text → Option Value :=
  fun _ => none

/-- The environment in which a program starts. -/
def start : Env :=
  [blank]

/-- The value of a name, from the innermost block that assigns it one. -/
def get? (env : Env) (name : Text) : Option Value :=
  env.findSome? fun assigned => assigned name

/-- Assigns a value in the innermost block. -/
def bind (env : Env) (name : Text) (value : Value) : Env :=
  env.modifyHead fun assigned => Function.update assigned name (some value)

end Env

/-- How many lines open a block. -/
def BracePlace.height : BracePlace → Nat
  | sameLine => 1
  | nextLine _ => 2

/-- How many lines a program has. -/
def Program.height : Program → Nat
  | done => 0
  | binding _ _ _ _ rest => height rest + 1
  | puts _ _ rest => height rest + 1
  | block _ _ _ brace body _ rest => brace.height + height body + height rest + 1

/-- A walk of a program whose first line has a given number: the environment
before it, the texts that it writes, the environment after it, and what stopped
it, if something did. -/
inductive Walks : Nat → Env → Program → List Text → Env → Option (Nat × LookupError) → Prop
  | done {line env} : Walks line env .done [] env none
  | binding {line env indent mutable name literal rest out env' stop} :
    Walks (line + 1) (env.bind name.text literal.value) rest out env' stop →
    Walks line env (.binding indent mutable name literal rest) out env' stop
  | puts {line env indent name rest value out env' stop} :
    Alias.Resolves env.get? name.text (.ok value) →
    Walks (line + 1) env rest out env' stop →
    Walks line env (.puts indent name rest) ((value.display ++ ['\n']) :: out) env' stop
  | putsUnresolved {line env indent name rest cause} :
    Alias.Resolves env.get? name.text (.error cause) →
    Walks line env (.puts indent name rest) [] env (some (line, cause))
  | block {line env indent kind condition brace body closeIndent rest out inner out' env' stop} :
    Walks (line + brace.height) (Env.blank :: env) body out inner none →
    Walks (line + brace.height + body.height + 1) inner.tail rest out' env' stop →
    Walks line env (.block indent kind condition brace body closeIndent rest) (out ++ out') env'
      stop
  | blockStopped {line env indent kind condition brace body closeIndent rest out env' stop} :
    Walks (line + brace.height) (Env.blank :: env) body out env' (some stop) →
    Walks line env (.block indent kind condition brace body closeIndent rest) out env' (some stop)

namespace Program

theorem length_openingLines (indent : Nat) (kind : BlockKind) (condition : Condition)
    (brace : BracePlace) : (openingLines indent kind condition brace).length = brace.height := by
  cases brace <;> rfl

theorem length_printed (p : Program) : p.printed.length = p.height := by
  induction p with
  | done => rfl
  | binding indent mutable name literal rest ih => simp [printed, height, ih]
  | puts indent name rest ih => simp [printed, height, ih]
  | block indent kind condition brace body closeIndent rest ihbody ihrest =>
    simp only [printed, height, List.length_append, List.length_cons, length_openingLines, ihbody,
      ihrest]
    omega

/-- Every program can be walked, in every environment. -/
theorem exists_walk (p : Program) (line : Nat) (env : Env) :
    ∃ out env' stop, Walks line env p out env' stop := by
  induction p generalizing line env with
  | done => exact ⟨_, _, _, .done⟩
  | binding indent mutable name literal rest ih =>
    obtain ⟨out, env', stop, h⟩ := ih (line + 1) (env.bind name.text literal.value)
    exact ⟨out, env', stop, .binding h⟩
  | puts indent name rest ih =>
    obtain ⟨answer, hanswer⟩ := Alias.exists_resolves env.get? name.text
    cases answer with
    | error cause => exact ⟨_, _, _, .putsUnresolved hanswer⟩
    | ok value =>
      obtain ⟨out, env', stop, h⟩ := ih (line + 1) env
      exact ⟨_, env', stop, .puts hanswer h⟩
  | block indent kind condition brace body closeIndent rest ihbody ihrest =>
    obtain ⟨out, inner, stop, hbody⟩ := ihbody (line + brace.height) (Env.blank :: env)
    cases stop with
    | some stop => exact ⟨_, _, _, .blockStopped hbody⟩
    | none =>
      obtain ⟨out', env', stop, hrest⟩ :=
        ihrest (line + brace.height + body.height + 1) inner.tail
      exact ⟨_, _, _, .block hbody hrest⟩

end Program

end LineScript
