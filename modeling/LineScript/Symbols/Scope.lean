/-
Scopes: names and the values bound to them, sorted by name.

`get?_insert_self` and `get?_insert_other` say what binding a name does to
every look-up, `get?_shadowing` what laying one scope over another does.
-/
import LineScript.Value.Basic

namespace LineScript

/-- The bindings of one scope, sorted by name in the order of code points. -/
structure Scope where
  bindings : List (Text × Value)
  deriving DecidableEq

namespace Scope

def empty : Scope :=
  ⟨[]⟩

def size (s : Scope) : Nat :=
  s.bindings.length

/-- The value bound to a name. -/
def get? (s : Scope) (name : Text) : Option Value :=
  s.bindings.lookup name

/-- Puts a binding at its place in a sorted list, over any of the same name. -/
def insertSorted (name : Text) (value : Value) : List (Text × Value) → List (Text × Value)
  | [] => [(name, value)]
  | (other, held) :: rest =>
    if name < other then (name, value) :: (other, held) :: rest
    else if name = other then (name, value) :: rest
    else (other, held) :: insertSorted name value rest

/-- Binds a name, over any earlier binding of it. -/
def insert (s : Scope) (name : Text) (value : Value) : Scope :=
  ⟨insertSorted name value s.bindings⟩

/-- The bindings of both scopes; those of `inner` hide those of `outer`. -/
def shadowing (inner outer : Scope) : Scope :=
  inner.bindings.foldr (fun (name, value) s => s.insert name value) outer

@[simp] theorem get?_empty (name : Text) : empty.get? name = none :=
  rfl

theorem get?_cons_self (name : Text) (value : Value) (rest : List (Text × Value)) :
    get? ⟨(name, value) :: rest⟩ name = some value := by
  simp [get?]

theorem get?_cons_other {name other : Text} (value : Value) (rest : List (Text × Value))
    (hne : name ≠ other) : get? ⟨(other, value) :: rest⟩ name = get? ⟨rest⟩ name := by
  have h : (name == other) = false := by simpa using hne
  simp [get?, List.lookup_cons, h]

@[simp] theorem get?_insert_self (s : Scope) (name : Text) (value : Value) :
    (s.insert name value).get? name = some value := by
  obtain ⟨bs⟩ := s
  induction bs with
  | nil => exact get?_cons_self name value []
  | cons b rest ih =>
    obtain ⟨other, held⟩ := b
    rw [insert, insertSorted]
    split
    next => exact get?_cons_self name value _
    next =>
      split
      next => exact get?_cons_self name value _
      next hne => exact (get?_cons_other _ _ hne).trans ih

theorem get?_insert_other (s : Scope) {name name' : Text} (value : Value) (hne : name' ≠ name) :
    (s.insert name value).get? name' = s.get? name' := by
  obtain ⟨bs⟩ := s
  induction bs with
  | nil => exact get?_cons_other value [] hne
  | cons b rest ih =>
    obtain ⟨other, held⟩ := b
    rw [insert, insertSorted]
    split
    next => exact get?_cons_other value _ hne
    next =>
      split
      next heq =>
        subst heq
        rw [get?_cons_other value _ hne, get?_cons_other held _ hne]
      next =>
        by_cases h : name' = other
        · subst h
          rw [get?_cons_self, get?_cons_self]
        · rw [get?_cons_other _ _ h, get?_cons_other _ _ h]
          exact ih

theorem get?_shadowing (inner outer : Scope) (name : Text) :
    (shadowing inner outer).get? name = (inner.get? name).or (outer.get? name) := by
  obtain ⟨bs⟩ := inner
  induction bs with
  | nil => rfl
  | cons b rest ih =>
    obtain ⟨other, held⟩ := b
    rw [shadowing, List.foldr_cons]
    by_cases h : name = other
    · subst h
      rw [get?_insert_self, get?_cons_self, Option.some_or]
    · rw [get?_insert_other _ _ h, get?_cons_other _ _ h]
      exact ih

end Scope

end LineScript
