/-
Chains of aliases: a name, the name it refers to, the name that one refers to,
and so on, as long as look-ups find references (`Alias.chain`). What a name
stands for is read off the end of its chain, or off its having none
(`Alias.Resolves`).

`SymbolTable.resolve` follows at most as many aliases as there are visible
bindings. Main statement: it answers exactly what the chain says
(`SymbolTable.resolve_exact`). A chain that ends passes no name twice, and all
its names but perhaps the last are visible; so it is no longer than the listing
of visible bindings, and the bound cuts off only chains that never end.
-/
import LineScript.Proofs.Symbols.Names
import LineScript.Symbols.Alias
import Mathlib.Data.Finset.Card

namespace LineScript

/-- The name that a value refers to. -/
def Value.target? : Value → Option Text
  | .reference raw => some raw
  | _ => none

theorem Value.target?_eq_none_iff {v : Value} : v.target? = none ↔ ∀ raw, v ≠ .reference raw := by
  cases v <;> simp [target?]

namespace Alias

/-- The name that is reached from a name by following some number of aliases,
if the chain does not end before. -/
def chain (get : Text → Option Value) (name : Text) : Nat → Option Text
  | 0 => some name
  | i + 1 => (chain get name i).bind fun x => (get x).bind Value.target?

/-- What a name stands for. Its chain reaches a name that is bound to something
other than a reference, or one that is not bound, or it never ends. -/
def Resolves (get : Text → Option Value) (name : Text) : Except LookupError Value → Prop
  | .ok v => ∃ k x, chain get name k = some x ∧ get x = some v ∧ v.target? = none
  | .error (.unknownVariable x) => ∃ k, chain get name k = some x ∧ get x = none
  | .error (.cyclicReference y) => y = name ∧ ∀ k, (chain get name k).isSome = true

variable {get : Text → Option Value} {name : Text}

theorem chain_add (get : Text → Option Value) (name : Text) (i k : Nat) :
    chain get name (i + k) = (chain get name i).bind fun x => chain get x k := by
  induction k with
  | zero => simp [chain]
  | succ k ih => rw [← Nat.add_assoc, chain, ih, Option.bind_assoc]; rfl

theorem chain_isSome_of_le {i k : Nat} (h : (chain get name k).isSome = true) (hle : i ≤ k) :
    (chain get name i).isSome = true := by
  obtain ⟨d, rfl⟩ := Nat.exists_eq_add_of_le hle
  rw [chain_add] at h
  cases hi : chain get name i with
  | none => simp [hi] at h
  | some x => rfl

/-- What stands behind a link of a chain. -/
theorem reference_of_chain_succ {i : Nat} {y : Text} (h : chain get name (i + 1) = some y) :
    ∃ x, chain get name i = some x ∧ get x = some (.reference y) := by
  rw [chain] at h
  obtain ⟨x, hx, hxy⟩ := Option.bind_eq_some_iff.1 h
  obtain ⟨v, hv, hvy⟩ := Option.bind_eq_some_iff.1 hxy
  refine ⟨x, hx, ?_⟩
  cases v <;> simp only [Value.target?, reduceCtorEq, Option.some.injEq] at hvy
  rw [hv, hvy]

theorem chain_succ_eq_none {k : Nat} {x : Text} (hx : chain get name k = some x)
    (hend : (get x).bind Value.target? = none) : chain get name (k + 1) = none := by
  rw [chain, hx]
  exact hend

/-- A chain that ends passes no name twice: from a name that came back it would
go on in the same way for ever. -/
theorem chain_injOn_of_ends {k : Nat} (hk : (chain get name k).isSome = true)
    (hend : chain get name (k + 1) = none) :
    Set.InjOn (chain get name) (Set.Iic k) := by
  have hlt : ∀ i j, i < j → j ≤ k → chain get name i ≠ chain get name j := by
    intro i j hij hjk heq
    have hshift : chain get name (i + (k + 1 - j)) = chain get name (j + (k + 1 - j)) := by
      rw [chain_add, chain_add, heq]
    rw [show j + (k + 1 - j) = k + 1 by omega, hend] at hshift
    have hsome := chain_isSome_of_le hk (show i + (k + 1 - j) ≤ k by omega)
    simp [hshift] at hsome
  intro i hi j hj heq
  rcases Nat.lt_trichotomy i j with h | h | h
  · exact absurd heq (hlt i j h hj)
  · exact h
  · exact absurd heq.symm (hlt j i h hi)

/-- A chain that is not endless has a last name. -/
theorem exists_last {k : Nat} (h : chain get name k = none) :
    ∃ i, (chain get name i).isSome = true ∧ chain get name (i + 1) = none := by
  induction k with
  | zero => cases h
  | succ k ih =>
    cases hk : chain get name k with
    | none => exact ih hk
    | some x => exact ⟨k, by rw [hk]; rfl, h⟩

/-- Every name stands for a value or for none, and its chain says why. -/
theorem exists_resolves (get : Text → Option Value) (name : Text) :
    ∃ r, Resolves get name r := by
  by_cases hall : ∀ k, (chain get name k).isSome = true
  · exact ⟨.error (.cyclicReference name), rfl, hall⟩
  · simp only [not_forall, Bool.not_eq_true, Option.isSome_eq_false_iff,
      Option.isNone_iff_eq_none] at hall
    obtain ⟨_, hnone⟩ := hall
    obtain ⟨k, hlast, hend⟩ := exists_last hnone
    obtain ⟨x, hx⟩ := Option.isSome_iff_exists.1 hlast
    cases hv : get x with
    | none => exact ⟨.error (.unknownVariable x), k, hx, hv⟩
    | some v =>
      refine ⟨.ok v, k, x, hx, hv, ?_⟩
      simpa [chain, hx, hv] using hend

end Alias

namespace SymbolTable

variable {t : SymbolTable} {name : Text}

open Alias

theorem lookup_of_get? {v : Value} (h : t.get? name = some v) : t.lookup name = .ok v := by
  rw [lookup, h]

theorem lookup_of_get?_none (h : t.get? name = none) :
    t.lookup name = .error (.unknownVariable name) := by
  rw [lookup, h]

/-! ## Following a bounded number of aliases -/

theorem follow_unbound (start : Text) (n : Nat) (h : t.get? name = none) :
    t.follow start n name = .error (.unknownVariable name) := by
  cases n <;> simp only [follow, lookup_of_get?_none h] <;> rfl

theorem follow_value (start : Text) (n : Nat) {v : Value} (h : t.get? name = some v)
    (hv : v.target? = none) : t.follow start n name = .ok v := by
  cases n <;> simp only [follow, lookup_of_get? h] <;> cases v <;> first | rfl | cases hv

theorem follow_reference_zero (start : Text) {target : Text}
    (h : t.get? name = some (.reference target)) :
    t.follow start 0 name = .error (.cyclicReference start) := by
  simp only [follow, lookup_of_get? h]
  rfl

theorem follow_reference_succ (start : Text) (n : Nat) {target : Text}
    (h : t.get? name = some (.reference target)) :
    t.follow start (n + 1) name = t.follow start n target := by
  simp only [follow, lookup_of_get? h]
  rfl

/-- Following a chain takes one step of the bound for each link. -/
theorem follow_chain (start : Text) {k n : Nat} {x : Text} (hx : chain t.get? name k = some x)
    (hle : k ≤ n) : t.follow start n name = t.follow start (n - k) x := by
  induction k generalizing x with
  | zero =>
    obtain rfl : name = x := Option.some.inj hx
    rfl
  | succ k ih =>
    obtain ⟨y, hy, hyx⟩ := reference_of_chain_succ hx
    rw [ih hy (by omega), show n - k = n - (k + 1) + 1 by omega, follow_reference_succ start _ hyx]

/-! ## The bound is long enough -/

/-- Names of a chain that ends, as many as one likes from its start, that are
all bound: they are different and visible, so the listing holds as many. -/
theorem le_size_of_ends {k n : Nat} (hk : (chain t.get? name k).isSome = true)
    (hend : chain t.get? name (k + 1) = none) (hn : n ≤ k + 1)
    (hbound : ∀ i < n, ∃ x v, chain t.get? name i = some x ∧ t.get? x = some v) :
    n ≤ t.visible.size := by
  have hmaps : ∀ i ∈ Finset.range n, chain t.get? name i ∈ (t.visible.names.map some).toFinset := by
    intro i hi
    obtain ⟨x, v, hx, hv⟩ := hbound i (Finset.mem_range.1 hi)
    rw [← get?_visible] at hv
    rw [hx, List.mem_toFinset]
    exact List.mem_map_of_mem (Scope.mem_names_of_get? hv)
  have hinj : Set.InjOn (chain t.get? name) (Finset.range n) := by
    refine (chain_injOn_of_ends hk hend).mono fun i hi => ?_
    have := Finset.mem_range.1 hi
    simp only [Set.mem_Iic]
    omega
  calc n = (Finset.range n).card := (Finset.card_range n).symm
    _ ≤ (t.visible.names.map some).toFinset.card := Finset.card_le_card_of_injOn _ hmaps hinj
    _ ≤ (t.visible.names.map some).length := List.toFinset_card_le _
    _ = t.visible.size := by simp [Scope.names, Scope.size]

/-- The names of a chain before one of its names are bound. -/
theorem bound_before {k : Nat} {x : Text} (hx : chain t.get? name k = some x) (i : Nat)
    (hi : i < k) : ∃ y v, chain t.get? name i = some y ∧ t.get? y = some v := by
  have hsome : (chain t.get? name (i + 1)).isSome = true :=
    chain_isSome_of_le (by rw [hx]; rfl) hi
  obtain ⟨z, hz⟩ := Option.isSome_iff_exists.1 hsome
  obtain ⟨y, hy, hv⟩ := reference_of_chain_succ hz
  exact ⟨y, _, hy, hv⟩

/-- A chain that uses every visible name still ends within the bound. -/
theorem lt_size_of_value {k : Nat} {x : Text} {v : Value} (hx : chain t.get? name k = some x)
    (hv : t.get? x = some v) (hval : v.target? = none) : k < t.visible.size := by
  have hend : chain t.get? name (k + 1) = none := chain_succ_eq_none hx (by rw [hv]; exact hval)
  refine le_size_of_ends (by rw [hx]; rfl) hend (Nat.le_refl (k + 1)) fun i hi => ?_
  rcases Nat.lt_succ_iff_lt_or_eq.1 hi with hlt | rfl
  · exact bound_before hx i hlt
  · exact ⟨x, v, hx, hv⟩

/-- So does one that goes on from there to a name that is not bound. -/
theorem le_size_of_unbound {k : Nat} {x : Text} (hx : chain t.get? name k = some x)
    (hnone : t.get? x = none) : k ≤ t.visible.size :=
  le_size_of_ends (by rw [hx]; rfl) (chain_succ_eq_none hx (by rw [hnone]; rfl)) (Nat.le_succ k)
    (bound_before hx)

/-! ## Resolving -/

/-- A bound that is not below the number of visible bindings gives what the
chain says. -/
theorem follow_of_resolves {r : Except LookupError Value} (h : Resolves t.get? name r) {n : Nat}
    (hn : t.visible.size ≤ n) : t.follow name n name = r := by
  cases r with
  | ok v =>
    obtain ⟨k, x, hx, hv, hval⟩ := h
    have hk := lt_size_of_value hx hv hval
    rw [follow_chain name hx (by omega), follow_value name _ hv hval]
  | error e =>
    cases e with
    | unknownVariable x =>
      obtain ⟨k, hx, hnone⟩ := h
      have hk := le_size_of_unbound hx hnone
      rw [follow_chain name hx (by omega), follow_unbound name _ hnone]
    | cyclicReference y =>
      obtain ⟨rfl, hall⟩ := h
      obtain ⟨z, hz⟩ := Option.isSome_iff_exists.1 (hall (n + 1))
      obtain ⟨x, hx, hxz⟩ := reference_of_chain_succ hz
      rw [follow_chain y hx (Nat.le_refl n), Nat.sub_self, follow_reference_zero y hxz]

/-- What a name resolves to is what its chain says. -/
theorem resolve_eq_iff {r : Except LookupError Value} :
    t.resolve name = r ↔ Resolves t.get? name r := by
  constructor
  · intro h
    obtain ⟨r', hr'⟩ := exists_resolves t.get? name
    rw [← h, show t.resolve name = r' from follow_of_resolves hr' (Nat.le_refl _)]
    exact hr'
  · exact fun h => follow_of_resolves h (Nat.le_refl _)

theorem resolve_value {v : Value} (h : t.get? name = some v) (hv : v.target? = none) :
    t.resolve name = .ok v :=
  follow_value name _ h hv

theorem resolve_unbound (h : t.get? name = none) :
    t.resolve name = .error (.unknownVariable name) :=
  follow_unbound name _ h

/-- **Alias resolution is exact.** A name resolves to a value exactly when its
chain reaches a name that is bound to that value, the value being no reference;
to an unknown variable exactly when the chain reaches that name and nothing
binds it; to a cycle, told under the name asked for, exactly when the chain
never ends. A longer search than the one that is made finds nothing else. -/
theorem resolve_exact (t : SymbolTable) (name : Text) :
    (∀ v, t.resolve name = .ok v ↔
      ∃ k x, chain t.get? name k = some x ∧ t.get? x = some v ∧ ∀ raw, v ≠ .reference raw) ∧
    (∀ x, t.resolve name = .error (.unknownVariable x) ↔
      ∃ k, chain t.get? name k = some x ∧ t.get? x = none) ∧
    (∀ y, t.resolve name = .error (.cyclicReference y) ↔
      y = name ∧ ∀ k, (chain t.get? name k).isSome = true) ∧
    ∀ n, t.visible.size ≤ n → t.follow name n name = t.resolve name := by
  refine ⟨fun v => ?_, fun x => resolve_eq_iff, fun y => resolve_eq_iff, fun n hn => ?_⟩
  · simp only [resolve_eq_iff, Resolves, Value.target?_eq_none_iff]
  · exact follow_of_resolves (resolve_eq_iff.1 rfl) hn

/-- A chain through every visible name, one of which is bound twice. -/
theorem resolve_exact_shadowed :
    let outside := ((empty.bind ['x'] (.reference ['y'])).bind ['y'] (.boolean true)).bind ['z']
      (.boolean false)
    let t := (outside.openFrame .ifBlock).bind ['y'] (.reference ['z'])
    t.visible.size = 3 ∧ t.resolve ['x'] = .ok (.boolean false) ∧
      t.follow ['x'] 4 ['x'] = t.resolve ['x'] := by
  intro outside t
  obtain ⟨hvalue, -, -, hbound⟩ := resolve_exact t ['x']
  have hchain : chain t.get? ['x'] 2 = some ['z'] := by decide +kernel
  have hget : t.get? ['z'] = some (.boolean false) := by decide +kernel
  have hsize : t.visible.size = 3 := by decide +kernel
  exact ⟨hsize, (hvalue _).2 ⟨2, ['z'], hchain, hget, nofun⟩, hbound 4 (by omega)⟩

end SymbolTable

end LineScript
