/-
Calls on a symbol table, one after the other: binding names, opening frames and
closing frames, where a table that refuses to close a frame stays as it is.

What is kept by every call is that the open frames have identities of their own,
each of which was handed out before (`SymbolTable.Numbered`). An identity that
was handed out and is not open any more does not come back, so that a frame that
is open after some calls was open before them
(`SymbolTable.mem_ids_of_afterAll`): a new frame gets the next number of its
kind, and these numbers only grow.
-/
import LineScript.Proofs.Symbols.Names

namespace LineScript

namespace Tally

theorem get_increment (t : Tally) (kind kind' : BlockKind) :
    (t.increment kind).get kind' = t.get kind' + if kind = kind' then 1 else 0 := by
  by_cases h : kind = kind'
  · subst h
    simp [increment]
  · rw [increment, get_modify_other t _ (Ne.symm h), if_neg h, Nat.add_zero]

theorem get_decrement (t : Tally) (kind kind' : BlockKind) :
    (t.decrement kind).get kind' = t.get kind' - if kind = kind' then 1 else 0 := by
  by_cases h : kind = kind'
  · subst h
    simp [decrement]
  · rw [decrement, get_modify_other t _ (Ne.symm h), if_neg h, Nat.sub_zero]

end Tally

/-- Something that a table can be asked to do. -/
inductive TableCall where
  | bind (name : Text) (value : Value)
  | openFrame (kind : BlockKind)
  | closeFrame (expected : FrameId)

namespace SymbolTable

/-- Whether a table does what it is asked. -/
def grants (t : SymbolTable) : TableCall → Bool
  | .bind _ _ | .openFrame _ => true
  | .closeFrame expected => (t.closeFrame expected).isOk

/-- The table after a call. A call that is refused changes nothing. -/
def after (t : SymbolTable) : TableCall → SymbolTable
  | .bind name value => t.bind name value
  | .openFrame kind => t.openFrame kind
  | .closeFrame expected =>
    match t.closeFrame expected with
    | .error _ => t
    | .ok (_, closed) => closed

/-- The table after some calls in a row. -/
def afterAll (t : SymbolTable) (calls : List TableCall) : SymbolTable :=
  calls.foldl after t

variable {t : SymbolTable}

/-! ## What calls do -/

theorem opened_bind (t : SymbolTable) (name : Text) (value : Value) :
    (t.bind name value).opened = t.opened := by
  rw [bind]
  split <;> rfl

/-- A table either refuses to close a frame, or the frame is the innermost one
and all that happens is that it goes. -/
theorem closeFrame_cases (t : SymbolTable) (expected : FrameId) :
    (t.grants (.closeFrame expected) = false ∧ t.after (.closeFrame expected) = t) ∨
      ∃ frame outer, t.frames = frame :: outer ∧ frame.id = expected ∧
        t.grants (.closeFrame expected) = true ∧
        t.after (.closeFrame expected) = { t with frames := outer } := by
  rw [grants, after, closeFrame]
  split
  next => exact .inl ⟨rfl, rfl⟩
  next frame outer hcons =>
    split
    next hid => exact .inr ⟨frame, outer, hcons, hid, rfl, rfl⟩
    next => exact .inl ⟨rfl, rfl⟩

/-- A frame that a table closes is the innermost one. -/
theorem innermost_of_grants {expected : FrameId}
    (h : t.grants (.closeFrame expected) = true) :
    ∃ frame outer, t.frames = frame :: outer ∧ frame.id = expected ∧
      t.after (.closeFrame expected) = { t with frames := outer } := by
  rcases t.closeFrame_cases expected with ⟨hrefused, -⟩ | ⟨frame, outer, hcons, hid, -, hclosed⟩
  · rw [h] at hrefused
    cases hrefused
  · exact ⟨frame, outer, hcons, hid, hclosed⟩

theorem afterAll_append (t : SymbolTable) (calls calls' : List TableCall) :
    t.afterAll (calls ++ calls') = (t.afterAll calls).afterAll calls' :=
  List.foldl_append

/-! ## Identities -/

/-- The identities of the open frames, the innermost first. -/
def ids (t : SymbolTable) : List FrameId :=
  t.frames.map Frame.id

/-- The identity was given to a frame. -/
def HandedOut (t : SymbolTable) (id : FrameId) : Prop :=
  id.sequence < t.opened.get id.kind

theorem not_handedOut_nextId (t : SymbolTable) (kind : BlockKind) :
    ¬ t.HandedOut (t.nextId kind) :=
  Nat.lt_irrefl _

theorem handedOut_nextId (t : SymbolTable) (kind : BlockKind) :
    (t.openFrame kind).HandedOut (t.nextId kind) := by
  show t.opened.get kind < (t.opened.increment kind).get kind
  rw [Tally.get_increment, if_pos rfl]
  exact Nat.lt_succ_self _

/-- What was handed out stays so. -/
theorem HandedOut.after {id : FrameId} (h : t.HandedOut id) (call : TableCall) :
    (t.after call).HandedOut id := by
  cases call with
  | bind name value =>
    show id.sequence < (t.bind name value).opened.get id.kind
    rw [opened_bind]
    exact h
  | openFrame kind =>
    show id.sequence < (t.opened.increment kind).get id.kind
    rw [Tally.get_increment]
    exact Nat.lt_add_right _ h
  | closeFrame expected =>
    rcases t.closeFrame_cases expected with ⟨-, hsame⟩ | ⟨frame, outer, -, -, -, hclosed⟩
    · rw [hsame]
      exact h
    · rw [hclosed]
      exact h

theorem HandedOut.afterAll {id : FrameId} (h : t.HandedOut id) (calls : List TableCall) :
    (t.afterAll calls).HandedOut id := by
  induction calls generalizing t with
  | nil => exact h
  | cons call rest ih => exact ih (h.after call)

/-- An identity that is not open any more is not opened again. -/
theorem not_mem_ids_after {id : FrameId} (h : t.HandedOut id) (hnot : id ∉ t.ids)
    (call : TableCall) : id ∉ (t.after call).ids := by
  cases call with
  | bind name value =>
    show id ∉ (t.bind name value).frames.map Frame.id
    rw [map_id_bind]
    exact hnot
  | openFrame kind =>
    show id ∉ t.nextId kind :: t.ids
    rintro (_ | ⟨_, hmem⟩)
    · exact t.not_handedOut_nextId kind h
    · exact hnot hmem
  | closeFrame expected =>
    rcases t.closeFrame_cases expected with ⟨-, hsame⟩ | ⟨frame, outer, hcons, -, -, hclosed⟩
    · rw [hsame]
      exact hnot
    · rw [hclosed]
      rw [ids, hcons] at hnot
      exact fun hmem => hnot (List.mem_cons_of_mem _ hmem)

/-- A frame that is open after some calls was open before them, unless its
identity was handed out in between. -/
theorem mem_ids_of_afterAll {id : FrameId} (h : t.HandedOut id) {calls : List TableCall}
    (hopen : id ∈ (t.afterAll calls).ids) : id ∈ t.ids := by
  induction calls generalizing t with
  | nil => exact hopen
  | cons call rest ih =>
    by_contra hnot
    exact not_mem_ids_after h hnot call (ih (h.after call) hopen)

/-- The open frames have identities of their own, and all of them were handed
out. -/
structure Numbered (t : SymbolTable) : Prop where
  handedOut : ∀ id ∈ t.ids, t.HandedOut id
  distinct : t.ids.Nodup

namespace Numbered

theorem empty : SymbolTable.empty.Numbered :=
  ⟨fun _ h => absurd h List.not_mem_nil, List.nodup_nil⟩

theorem after (h : t.Numbered) (call : TableCall) : (t.after call).Numbered := by
  have hstays : ∀ id ∈ t.ids, (t.after call).HandedOut id :=
    fun id hid => (h.handedOut id hid).after call
  cases call with
  | bind name value =>
    have hids : (t.bind name value).ids = t.ids := t.map_id_bind name value
    refine ⟨?_, ?_⟩ <;> rw [SymbolTable.after, hids]
    · exact hstays
    · exact h.distinct
  | openFrame kind =>
    have hnew : t.nextId kind ∉ t.ids :=
      fun hmem => t.not_handedOut_nextId kind (h.handedOut _ hmem)
    refine ⟨List.forall_mem_cons.2 ⟨t.handedOut_nextId kind, hstays⟩, ?_⟩
    exact List.nodup_cons.2 ⟨hnew, h.distinct⟩
  | closeFrame expected =>
    rcases t.closeFrame_cases expected with ⟨-, hsame⟩ | ⟨frame, outer, hcons, -, -, hclosed⟩
    · rw [hsame]
      exact h
    · have hids : t.ids = frame.id :: outer.map Frame.id := by rw [ids, hcons, List.map_cons]
      have hdistinct := h.distinct
      rw [hids] at hstays hdistinct
      rw [hclosed] at hstays ⊢
      exact ⟨(List.forall_mem_cons.1 hstays).2, (List.nodup_cons.1 hdistinct).2⟩

theorem afterAll (h : t.Numbered) (calls : List TableCall) : (t.afterAll calls).Numbered := by
  induction calls generalizing t with
  | nil => exact h
  | cons call rest ih => exact ih (h.after call)

end Numbered

end SymbolTable

end LineScript
