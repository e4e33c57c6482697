/-
Identities of frames are never given twice.

The frames of a kind are numbered in the order in which they are opened, and
closing frames has no say in it: the identities that calls hand out for a kind
carry the numbers 0, 1, 2 and so on (`SymbolTable.identities`). What a step keeps
is that the counter of a kind stands behind the last number that was handed out.

So the identity of a frame that was closed is stale for ever. A table closes
nothing but its innermost frame, and whatever is opened later has an identity
that was not handed out before (`SymbolTable.afterAll_identities`).
-/
import LineScript.Proofs.Symbols.Calls
import Mathlib.Data.List.Nodup

namespace LineScript

namespace SymbolTable

variable {t : SymbolTable} {id : FrameId}

/-! ## Identities in the order in which they are handed out -/

/-- The identity that a call hands out, if it opens a frame. -/
def identity? (t : SymbolTable) : TableCall → Option FrameId
  | .openFrame kind => some (t.nextId kind)
  | .bind _ _ | .closeFrame _ => none

/-- The identities that calls in a row hand out, in their order. -/
def identities (t : SymbolTable) : List TableCall → List FrameId
  | [] => []
  | call :: rest => (t.identity? call).toList ++ (t.after call).identities rest

/-- The identities of a kind that a table has handed out so far. -/
def numbersOf (t : SymbolTable) (kind : BlockKind) : List FrameId :=
  (List.range (t.opened.get kind)).map (FrameId.mk kind)

theorem numbersOf_openFrame (t : SymbolTable) (kind kind' : BlockKind) :
    (t.openFrame kind).numbersOf kind' =
      t.numbersOf kind' ++ [t.nextId kind].filter fun id => id.kind = kind' := by
  show (List.range ((t.opened.increment kind).get kind')).map _ = _
  rw [Tally.get_increment]
  by_cases h : kind = kind'
  · subst h
    simp [numbersOf, nextId, List.range_succ]
  · simp [numbersOf, nextId, h]

/-- A call hands out the next number of a kind, or none of that kind. -/
theorem numbersOf_after (t : SymbolTable) (call : TableCall) (kind : BlockKind) :
    (t.after call).numbersOf kind =
      t.numbersOf kind ++ (t.identity? call).toList.filter fun id => id.kind = kind := by
  cases call with
  | openFrame kind' => exact t.numbersOf_openFrame kind' kind
  | bind name value => simp [after, numbersOf, identity?, opened_bind]
  | closeFrame expected =>
    have hnone : (t.identity? (.closeFrame expected)).toList = [] := rfl
    rcases t.closeFrame_cases expected with ⟨-, hsame⟩ | ⟨frame, outer, -, -, -, hclosed⟩
    · rw [hsame, hnone, List.filter_nil, List.append_nil]
    · rw [hclosed, hnone, List.filter_nil, List.append_nil]
      rfl

theorem numbersOf_afterAll (t : SymbolTable) (calls : List TableCall) (kind : BlockKind) :
    (t.afterAll calls).numbersOf kind =
      t.numbersOf kind ++ (t.identities calls).filter fun id => id.kind = kind := by
  induction calls generalizing t with
  | nil => simp [identities, afterAll]
  | cons call rest ih =>
    have hrest : (t.afterAll (call :: rest)).numbersOf kind =
        ((t.after call).afterAll rest).numbersOf kind := rfl
    rw [hrest, ih, numbersOf_after, identities, List.filter_append, List.append_assoc]

/-- Counted from the start, the numbers of a kind are 0, 1, 2 and so on. -/
theorem filter_identities (calls : List TableCall) (kind : BlockKind) :
    (empty.identities calls).filter (fun id => id.kind = kind) =
      (empty.afterAll calls).numbersOf kind := by
  have hnone : empty.numbersOf kind = [] := by simp [numbersOf, empty]
  rw [numbersOf_afterAll, hnone, List.nil_append]

/-- No identity occurs twice, since none does among those of its own kind. -/
theorem nodup_identities (calls : List TableCall) : (empty.identities calls).Nodup := by
  refine List.nodup_iff_count.2 fun id => ?_
  have hkind : ((empty.identities calls).filter fun other => other.kind = id.kind).Nodup := by
    rw [filter_identities, numbersOf]
    exact List.Nodup.map (fun m n heq => (FrameId.mk.inj heq).2) List.nodup_range
  have hcount := List.nodup_iff_count.1 hkind id
  rwa [List.count_filter (by simp)] at hcount

/-! ## What can be closed -/

/-- A table closes its innermost frame and no other. -/
theorem grants_closeFrame_iff :
    t.grants (.closeFrame id) = true ↔ t.innermost? = some id := by
  rw [innermost?]
  constructor
  · intro h
    obtain ⟨frame, outer, hcons, rfl, -⟩ := innermost_of_grants h
    rw [hcons]
    rfl
  · intro h
    obtain ⟨frame, hhead, rfl⟩ := Option.map_eq_some_iff.1 h
    obtain ⟨outer, hcons⟩ := List.head?_eq_some_iff.1 hhead
    simp [grants, closeFrame, hcons, Except.isOk, Except.toBool]

/-- What is refused is refused for the innermost frame, or for want of one. -/
theorem closeFrame_refused (h : t.innermost? ≠ some id) :
    t.closeFrame id = .error (t.innermost?.elim (.nothingOpen id) (.mismatch id)) := by
  rw [innermost?] at h ⊢
  rw [closeFrame]
  cases hframes : t.frames with
  | nil => rfl
  | cons frame outer =>
    rw [hframes] at h
    exact if_neg fun heq => h (congrArg some heq)

/-- A frame that was closed is not closed again, whatever is done in between. -/
theorem not_grants_of_closed (ht : t.Numbered) (h : t.grants (.closeFrame id) = true)
    (later : List TableCall) :
    ((t.after (.closeFrame id)).afterAll later).grants (.closeFrame id) = false := by
  obtain ⟨frame, outer, hcons, hid, hclosed⟩ := innermost_of_grants h
  have hids : t.ids = id :: outer.map Frame.id := by rw [ids, hcons, List.map_cons, hid]
  have hout : (t.after (.closeFrame id)).HandedOut id := by
    refine HandedOut.after (ht.handedOut id ?_) _
    rw [hids]
    exact List.mem_cons_self ..
  have hgone : id ∉ (t.after (.closeFrame id)).ids := by
    have hdistinct := ht.distinct
    rw [hids] at hdistinct
    rw [hclosed]
    exact (List.nodup_cons.1 hdistinct).1
  rw [Bool.eq_false_iff]
  intro hgranted
  obtain ⟨top, below, htop, rfl, -⟩ := innermost_of_grants hgranted
  have hopen : top.id ∈ ((t.after (.closeFrame top.id)).afterAll later).ids := by
    rw [ids, htop]
    exact List.mem_cons_self ..
  exact hgone (mem_ids_of_afterAll hout hopen)

/-! ## Main statement -/

/-- **Identities of frames are never given twice, so that a stale one closes
nothing.** After any calls on a new table, refused ones among them: the frames of
each kind were given the numbers 0, 1, 2 and so on, in the order in which they
were opened and however many were closed in between, and the next one is given the
next number. The open frames have identities of their own, each with a number
below the counter of its kind. A frame is closed under an identity exactly if it
is the innermost one; else it is said which one that is, or that there is none,
and the table stays as it is. And once a frame was closed, its identity closes
nothing any more. -/
theorem afterAll_identities (calls : List TableCall) :
    let t := empty.afterAll calls
    (∀ kind,
      (empty.identities calls).filter (fun id => id.kind = kind) =
          (List.range (t.opened.get kind)).map (FrameId.mk kind) ∧
        (t.openFrame kind).innermost? = some ⟨kind, t.opened.get kind⟩) ∧
    (empty.identities calls).Nodup ∧
    t.ids.Nodup ∧ (∀ id ∈ t.ids, id.sequence < t.opened.get id.kind) ∧
    (∀ id, t.grants (.closeFrame id) = true ↔ t.innermost? = some id) ∧
    (∀ id, t.innermost? ≠ some id →
      t.closeFrame id = .error (t.innermost?.elim (.nothingOpen id) (.mismatch id)) ∧
        t.after (.closeFrame id) = t) ∧
    ∀ id, t.grants (.closeFrame id) = true → ∀ later,
      ((t.after (.closeFrame id)).afterAll later).grants (.closeFrame id) = false := by
  intro t
  have ht : t.Numbered := Numbered.empty.afterAll calls
  refine ⟨fun kind => ⟨filter_identities calls kind, rfl⟩, nodup_identities calls, ht.distinct,
    ht.handedOut, fun id => grants_closeFrame_iff, fun id h => ⟨closeFrame_refused h, ?_⟩,
    fun id h later => not_grants_of_closed ht h later⟩
  rw [after, closeFrame_refused h]

/-- An `if` block is opened and closed, and then a second one: the identity of the
first one is refused while the second one is open, and that of the second one
once it was closed. -/
theorem afterAll_identities_reopened :
    let first : FrameId := ⟨.ifBlock, 0⟩
    let second : FrameId := ⟨.ifBlock, 1⟩
    let calls : List TableCall :=
      [.openFrame .ifBlock, .openFrame .forBlock, .closeFrame first,
        .closeFrame ⟨.forBlock, 0⟩, .closeFrame first, .openFrame .ifBlock]
    let t := empty.afterAll calls
    t.innermost? = some second ∧ t.closeFrame first = .error (.mismatch first second) ∧
      t.grants (.closeFrame second) = true ∧
      ((t.after (.closeFrame second)).afterAll [.openFrame .ifBlock]).grants
        (.closeFrame second) = false := by
  intro first second calls t
  obtain ⟨-, -, -, -, hgrants, hrefused, hstale⟩ := afterAll_identities calls
  have hinnermost : t.innermost? = some second := by decide
  have hfirst := hrefused first (by decide)
  have hsecond := (hgrants second).2 hinnermost
  exact ⟨hinnermost, hfirst.1, hsecond, hstale second hsecond [.openFrame .ifBlock]⟩

end SymbolTable

end LineScript
