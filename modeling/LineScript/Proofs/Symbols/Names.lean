/-
The names that a scope binds, and their order: a scope that starts empty and
is changed by binding names only lists each name once, in rising order
(`Scope.Sorted`). Then the listing of visible bindings of a table without
frames is the list of its global bindings as it stands
(`SymbolTable.visible_of_no_frames`).
-/
import LineScript.Symbols.Table
import Mathlib.Data.Char
import Mathlib.Data.List.Lex

namespace LineScript

namespace Scope

/-- The names that a scope binds. -/
def names (s : Scope) : List Text :=
  s.bindings.map Prod.fst

/-- The names stand in rising order, each of them once. -/
def Sorted (s : Scope) : Prop :=
  s.names.Pairwise (· < ·)

theorem mem_names_of_get? {s : Scope} {name : Text} {v : Value} (h : s.get? name = some v) :
    name ∈ s.names := by
  obtain ⟨bs⟩ := s
  induction bs with
  | nil => simp [get?] at h
  | cons b rest ih =>
    obtain ⟨other, held⟩ := b
    by_cases hne : name = other
    · simp [names, hne]
    · rw [get?_cons_other _ _ hne] at h
      exact List.mem_cons_of_mem _ (ih h)

theorem mem_names_insert {s : Scope} {name other : Text} {v : Value}
    (h : other ∈ (s.insert name v).names) : other = name ∨ other ∈ s.names := by
  obtain ⟨bs⟩ := s
  induction bs with
  | nil => simpa [insert, insertSorted, names] using h
  | cons b rest ih =>
    obtain ⟨first, held⟩ := b
    simp only [names, insert, insertSorted, List.map_cons, List.mem_cons] at h ih ⊢
    split at h
    · simpa using h
    split at h
    · rcases List.mem_cons.1 h with h | h
      · exact .inl h
      · exact .inr (.inr h)
    · rcases List.mem_cons.1 h with h | h
      · exact .inr (.inl h)
      · exact (ih h).imp_right .inr

theorem Sorted.empty : empty.Sorted :=
  List.Pairwise.nil

theorem Sorted.tail {b : Text × Value} {rest : List (Text × Value)} (h : Sorted ⟨b :: rest⟩) :
    Sorted ⟨rest⟩ :=
  (List.pairwise_cons.1 h).2

theorem Sorted.insert {s : Scope} (h : s.Sorted) (name : Text) (v : Value) :
    (s.insert name v).Sorted := by
  obtain ⟨bs⟩ := s
  induction bs with
  | nil => exact List.pairwise_singleton _ _
  | cons b rest ih =>
    obtain ⟨first, held⟩ := b
    have hrest := List.pairwise_cons.1 h
    rw [Scope.insert, insertSorted]
    split
    next hlt =>
      refine List.pairwise_cons.2 ⟨fun other hother => ?_, h⟩
      rcases List.mem_cons.1 hother with rfl | hother
      · exact hlt
      · exact hlt.trans (hrest.1 other hother)
    next hnlt =>
      split
      next heq =>
        subst heq
        exact h
      next hne =>
        have hgt : first < name := lt_of_le_of_ne (not_lt.1 hnlt) (Ne.symm hne)
        refine List.pairwise_cons.2 ⟨fun other hother => ?_, ih h.tail⟩
        rcases mem_names_insert (s := ⟨rest⟩) hother with rfl | hother
        · exact hgt
        · exact hrest.1 other hother

/-- Binding a name below all others puts it in front. -/
theorem insert_of_first {name : Text} {v : Value} {rest : List (Text × Value)}
    (h : Sorted ⟨(name, v) :: rest⟩) : insert ⟨rest⟩ name v = ⟨(name, v) :: rest⟩ := by
  cases rest with
  | nil => rfl
  | cons b rest =>
    have hlt : name < b.1 := (List.pairwise_cons.1 h).1 b.1 (List.mem_cons_self ..)
    rw [insert, insertSorted, if_pos hlt]

/-- A sorted scope laid over nothing stays as it is. -/
theorem shadowing_empty {s : Scope} (h : s.Sorted) : s.shadowing empty = s := by
  obtain ⟨bs⟩ := s
  induction bs with
  | nil => rfl
  | cons b rest ih =>
    rw [shadowing] at ih ⊢
    rw [List.foldr_cons, ih h.tail]
    exact insert_of_first h

end Scope

namespace SymbolTable

/-- Every scope of the table is sorted. -/
structure Sorted (t : SymbolTable) : Prop where
  globals : t.globals.Sorted
  frames : ∀ frame ∈ t.frames, frame.scope.Sorted

variable {t : SymbolTable}

theorem Sorted.empty : empty.Sorted :=
  ⟨Scope.Sorted.empty, fun _ h => absurd h List.not_mem_nil⟩

theorem Sorted.bind (h : t.Sorted) (name : Text) (v : Value) : (t.bind name v).Sorted := by
  rw [SymbolTable.bind]
  split
  next hnil => exact ⟨h.globals.insert name v, by simp [hnil]⟩
  next frame outer hcons =>
    refine ⟨h.globals, fun f hf => ?_⟩
    rcases List.mem_cons.1 hf with rfl | hf
    · exact (h.frames frame (by simp [hcons])).insert name v
    · exact h.frames f (by simp [hcons, hf])

/-- Binding a name changes no frame's identity. -/
theorem map_id_bind (t : SymbolTable) (name : Text) (v : Value) :
    (t.bind name v).frames.map Frame.id = t.frames.map Frame.id := by
  rw [SymbolTable.bind]
  split
  next => rfl
  next frame outer hcons => simp [hcons]

theorem Sorted.openFrame (h : t.Sorted) (kind : BlockKind) : (t.openFrame kind).Sorted := by
  refine ⟨h.globals, fun f hf => ?_⟩
  rcases List.mem_cons.1 hf with rfl | hf
  · exact Scope.Sorted.empty
  · exact h.frames f hf

/-- The table without its innermost frame is sorted as well. -/
theorem Sorted.outer {frame : Frame} {outer : List Frame} (h : t.Sorted)
    (hcons : t.frames = frame :: outer) : SymbolTable.Sorted { t with frames := outer } :=
  ⟨h.globals, fun f hf => h.frames f (by simp [hcons, hf])⟩

theorem visible_of_no_frames (h : t.Sorted) (hnil : t.frames = []) : t.visible = t.globals := by
  rw [visible, hnil, List.foldr_nil, Scope.shadowing_empty h.globals]

end SymbolTable

end LineScript
