/-
The listing of visible bindings and look-ups.

A look-up goes from the innermost frame outwards and stops at the first frame that
binds the name; the listing is put together from the global bindings inwards, and
what an inner frame binds takes the place of what stands there. Main statement:
the two see the same bindings (`SymbolTable.visible_exact`), however many frames
bind a name. What the listing is depends on the answers of look-ups alone, and
not on how the scopes came by their bindings: a sorted scope is known by its
look-ups (`Scope.Sorted.eq_of_get?`), and the listing is sorted whether or not the
scopes of the table are.
-/
import LineScript.Proofs.Symbols.Names
import LineScript.Symbols.Alias

namespace LineScript

namespace Scope

variable {s s' : Scope}

theorem mem_names_iff {name : Text} : name ∈ s.names ↔ (s.get? name).isSome = true := by
  rw [Option.isSome_iff_exists]
  refine ⟨fun h => ?_, fun ⟨v, hv⟩ => mem_names_of_get? hv⟩
  obtain ⟨bs⟩ := s
  induction bs with
  | nil => cases h
  | cons b rest ih =>
    obtain ⟨first, held⟩ := b
    by_cases hne : name = first
    · subst hne
      exact ⟨held, get?_cons_self name held rest⟩
    · rw [get?_cons_other held rest hne]
      exact ih ((List.mem_cons.1 h).resolve_left hne)

/-- A sorted scope binds a name once, so that its bindings are what look-ups
find. -/
theorem Sorted.mem_bindings_iff (h : s.Sorted) {name : Text} {v : Value} :
    (name, v) ∈ s.bindings ↔ s.get? name = some v := by
  obtain ⟨bs⟩ := s
  induction bs with
  | nil => exact ⟨nofun, nofun⟩
  | cons b rest ih =>
    obtain ⟨first, held⟩ := b
    rw [List.mem_cons, Prod.mk.injEq]
    by_cases hne : name = first
    · subst hne
      have hrest : (name, v) ∉ rest := by
        intro hmem
        have hlt := (List.pairwise_cons.1 h).1 name (List.mem_map_of_mem (f := Prod.fst) hmem)
        exact lt_irrefl _ hlt
      simp [get?_cons_self, hrest, eq_comm]
    · rw [get?_cons_other held rest hne, ← ih h.tail]
      simp [hne]

/-- Two sorted scopes with the same look-ups are the same. -/
theorem Sorted.eq_of_get? (h : s.Sorted) (h' : s'.Sorted)
    (hget : ∀ name, s.get? name = s'.get? name) : s = s' := by
  have hpairs : ∀ {s : Scope}, s.Sorted → s.bindings.Pairwise (fun a b => a.1 < b.1) :=
    fun h => List.pairwise_map.1 h
  have hnodup : ∀ {s : Scope}, s.Sorted → s.bindings.Nodup :=
    fun h => (hpairs h).imp fun hlt heq => absurd hlt (by rw [heq]; exact lt_irrefl _)
  have hperm : s.bindings.Perm s'.bindings := by
    refine (List.perm_ext_iff_of_nodup (hnodup h) (hnodup h')).2 fun ⟨name, v⟩ => ?_
    rw [h.mem_bindings_iff, h'.mem_bindings_iff, hget]
  have heq : s.bindings = s'.bindings :=
    hperm.eq_of_pairwise (fun _ _ _ _ hlt hgt => absurd hlt (lt_asymm hgt)) (hpairs h) (hpairs h')
  cases s
  cases s'
  exact congrArg Scope.mk heq

/-- Laying a scope over a sorted one keeps the order, whatever order the upper one
has. -/
theorem Sorted.shadowing {outer : Scope} (h : outer.Sorted) (inner : Scope) :
    (inner.shadowing outer).Sorted := by
  obtain ⟨bs⟩ := inner
  induction bs with
  | nil => exact h
  | cons b rest ih => exact Sorted.insert ih b.1 b.2

end Scope

namespace SymbolTable

theorem sorted_visible (t : SymbolTable) : t.visible.Sorted := by
  obtain ⟨globals, frames, opened⟩ := t
  simp only [visible]
  induction frames with
  | nil => exact Scope.Sorted.empty.shadowing globals
  | cons frame outer ih => exact ih.shadowing frame.scope

theorem lookup_eq_ok_iff {t : SymbolTable} {name : Text} {v : Value} :
    t.lookup name = .ok v ↔ t.get? name = some v := by
  rw [lookup]
  cases t.get? name <;> simp

theorem lookup_eq_iff {t t' : SymbolTable} {name : Text} :
    t.lookup name = t'.lookup name ↔ t.get? name = t'.get? name := by
  rw [lookup, lookup]
  cases t.get? name <;> cases t'.get? name <;> simp

/-- **The listing of visible bindings is what look-ups see.** It stands in rising
order of the names, so that no name occurs twice in it, and it holds a name with a
value exactly if that is the value that a look-up finds, however many frames bind
the name. All of some names can be looked up exactly if each of them is listed.
And two tables have the same listing exactly if they answer every look-up
alike. -/
theorem visible_exact (t : SymbolTable) :
    t.visible.names.Pairwise (· < ·) ∧
    (∀ name v, (name, v) ∈ t.visible.bindings ↔ t.lookup name = .ok v) ∧
    (∀ names, t.containsAll names = true ↔ ∀ name ∈ names, name ∈ t.visible.names) ∧
    ∀ t' : SymbolTable, t.visible = t'.visible ↔ ∀ name, t.lookup name = t'.lookup name := by
  refine ⟨t.sorted_visible, fun name v => ?_, fun names => ?_, fun t' => ?_⟩
  · rw [t.sorted_visible.mem_bindings_iff, get?_visible, lookup_eq_ok_iff]
  · simp only [containsAll, List.all_eq_true, Scope.mem_names_iff, get?_visible]
  · simp only [lookup_eq_iff, ← get?_visible]
    exact ⟨fun h _ => by rw [h], fun h => t.sorted_visible.eq_of_get? t'.sorted_visible h⟩

/-- A name that is bound in three scopes is listed once, with its innermost
value, and a name that is bound later may stand first. -/
example :
    let t := empty.bind ['x'] (.integer 1) |>.openFrame .ifBlock |>.bind ['x'] (.integer 2)
      |>.openFrame .forBlock |>.bind ['x'] (.integer 3) |>.bind ['a'] (.boolean true)
    t.visible.bindings = [(['a'], .boolean true), (['x'], .integer 3)] := by
  decide

end SymbolTable

end LineScript
