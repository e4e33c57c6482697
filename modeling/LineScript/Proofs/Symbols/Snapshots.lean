/-
Block scopes as copies of whole environments.

A table keeps what each block binds by itself and looks names up from the inside
outwards. What blocks mean is said more plainly by a stack of complete
environments (`Snapshots`): opening a frame saves a copy of the current one,
binding a name changes the current one only, and closing a frame takes the last
copy back. Which frame may be closed is for the table to say; the stack has no
identities and follows the answers. Main statement: after any calls, refused
ones among them, the two answer every look-up alike
(`SymbolTable.afterAll_snapshots`).

Then whatever is done while a frame is open is undone by closing it. No other
frame ever has its identity, so that whatever was opened before it was open all
the while and was left alone (`SymbolTable.StandsOn`).
-/
import LineScript.Proofs.Symbols.Calls
import LineScript.Symbols.Alias
import Mathlib.Logic.Function.Basic

namespace LineScript

/-- Complete environments: the current one, and the copies that were saved, the
last one first. -/
structure Snapshots where
  current : Text → Option Value
  saved : List (Text → Option Value)

namespace Snapshots

/-- Nothing is bound and nothing was saved. -/
def start : Snapshots :=
  ⟨fun _ => none, []⟩

/-- The environment that was saved first. -/
def bottom (s : Snapshots) : Text → Option Value :=
  s.saved.getLastD s.current

/-- The environments after a call that was granted or refused. -/
def after (s : Snapshots) : TableCall → Bool → Snapshots
  | _, false => s
  | .bind name value, true => { s with current := Function.update s.current name (some value) }
  | .openFrame _, true => { s with saved := s.current :: s.saved }
  | .closeFrame _, true =>
    match s.saved with
    | [] => s
    | last :: earlier => ⟨last, earlier⟩

/-- The environments after some calls in a row, as a table answers them. -/
def follow (s : Snapshots) (t : SymbolTable) : List TableCall → Snapshots
  | [] => s
  | call :: rest => follow (s.after call (t.grants call)) (t.after call) rest

end Snapshots

namespace SymbolTable

variable {t : SymbolTable}

/-! ## The environments of a table -/

theorem get?_bind (t : SymbolTable) (name : Text) (v : Value) :
    (t.bind name v).get? = Function.update t.get? name (some v) := by
  funext other
  by_cases h : other = name
  · subst h
    rw [Function.update_self, bind]
    split
    next hnil => simp [get?, hnil]
    next => simp [get?]
  · rw [Function.update_of_ne h, bind]
    split
    next hnil => simp [get?, hnil, Scope.get?_insert_other _ v h]
    next hcons => simp [get?, hcons, List.findSome?_cons, Scope.get?_insert_other _ v h]

/-- The environments that were current when each of some frames was opened. -/
def savedBelow (globals : Scope) : List Frame → List (Text → Option Value)
  | [] => []
  | _ :: outer => get? ⟨globals, outer, .zero⟩ :: savedBelow globals outer

/-- The environments that a table stands for. -/
def snapshots (t : SymbolTable) : Snapshots :=
  ⟨t.get?, savedBelow t.globals t.frames⟩

theorem bottom_snapshots (t : SymbolTable) : t.snapshots.bottom = t.globals.get? := by
  obtain ⟨globals, frames, opened⟩ := t
  show (savedBelow globals frames).getLastD (get? ⟨globals, frames, .zero⟩) = globals.get?
  induction frames with
  | nil => rfl
  | cons frame outer ih => rw [savedBelow, List.getLastD_cons, ih]

theorem snapshots_bind (t : SymbolTable) (name : Text) (v : Value) :
    (t.bind name v).snapshots = t.snapshots.after (.bind name v) true := by
  have hsaved : savedBelow (t.bind name v).globals (t.bind name v).frames =
      savedBelow t.globals t.frames := by
    rw [bind]
    split
    next hnil => rw [hnil, savedBelow, savedBelow]
    next hcons => rw [hcons, savedBelow, savedBelow]
  rw [snapshots, hsaved, get?_bind]
  rfl

/-- One call does the same to both. -/
theorem snapshots_after (t : SymbolTable) (call : TableCall) :
    (t.after call).snapshots = t.snapshots.after call (t.grants call) := by
  cases call with
  | bind name value => exact t.snapshots_bind name value
  | openFrame kind => rfl
  | closeFrame expected =>
    rcases t.closeFrame_cases expected with
      ⟨hrefused, hsame⟩ | ⟨frame, outer, hcons, -, hgranted, hclosed⟩
    · rw [hrefused, hsame]
      rfl
    · rw [hgranted, hclosed, snapshots, snapshots, hcons]
      rfl

theorem follow_snapshots (t : SymbolTable) (calls : List TableCall) :
    t.snapshots.follow t calls = (t.afterAll calls).snapshots := by
  induction calls generalizing t with
  | nil => rfl
  | cons call rest ih =>
    rw [Snapshots.follow, ← snapshots_after, ih]
    rfl

/-! ## What stands below a frame -/

/-- On top of the frames of `base` stands a frame with an identity, and others
may stand on that one; the global bindings are those of `base`. -/
def StandsOn (base : SymbolTable) (id : FrameId) (t : SymbolTable) : Prop :=
  t.globals = base.globals ∧
    ∃ upper frame, t.frames = upper ++ frame :: base.frames ∧ frame.id = id

namespace StandsOn

variable {base : SymbolTable} {id : FrameId}

theorem openFrame (base : SymbolTable) (kind : BlockKind) :
    StandsOn base (base.nextId kind) (base.openFrame kind) :=
  ⟨rfl, [], _, rfl, rfl⟩

theorem mem_ids (h : StandsOn base id t) : id ∈ t.ids := by
  obtain ⟨-, upper, frame, hframes, rfl⟩ := h
  simp [ids, hframes]

theorem depth_lt (h : StandsOn base id t) : base.depth < t.depth := by
  obtain ⟨-, upper, frame, hframes, -⟩ := h
  simp only [depth, hframes, List.length_append, List.length_cons]
  omega

/-- A call that leaves the frame open leaves alone what stands below it. -/
theorem after (h : StandsOn base id t) (hdistinct : t.ids.Nodup) {call : TableCall}
    (hopen : id ∈ (t.after call).ids) : StandsOn base id (t.after call) := by
  obtain ⟨hglobals, upper, frame, hframes, hid⟩ := h
  cases call with
  | openFrame kind =>
    refine ⟨hglobals, ⟨t.nextId kind, .empty⟩ :: upper, frame, ?_, hid⟩
    show ⟨t.nextId kind, .empty⟩ :: t.frames = _
    rw [hframes, List.cons_append]
  | bind name value =>
    cases upper with
    | nil =>
      have hbind : (t.bind name value) = { t with
          frames := { frame with scope := frame.scope.insert name value } :: base.frames } := by
        rw [bind, hframes]
        rfl
      rw [SymbolTable.after, hbind]
      exact ⟨hglobals, [], _, rfl, hid⟩
    | cons top upper =>
      have hbind : (t.bind name value) = { t with
          frames := { top with scope := top.scope.insert name value } ::
            (upper ++ frame :: base.frames) } := by
        rw [bind, hframes]
        rfl
      rw [SymbolTable.after, hbind]
      exact ⟨hglobals, _ :: upper, frame, rfl, hid⟩
  | closeFrame expected =>
    rcases t.closeFrame_cases expected with ⟨-, hsame⟩ | ⟨top, outer, hcons, -, -, hclosed⟩
    · rw [hsame]
      exact ⟨hglobals, upper, frame, hframes, hid⟩
    · rw [hclosed] at hopen ⊢
      cases upper with
      | nil =>
        -- the frame itself was closed, and no frame below has its identity
        obtain ⟨rfl, rfl⟩ := List.cons.inj (hcons.symm.trans hframes)
        rw [ids, hcons, List.map_cons, hid] at hdistinct
        exact absurd hopen (List.nodup_cons.1 hdistinct).1
      | cons upmost upper =>
        obtain ⟨-, houter⟩ := List.cons.inj (hcons.symm.trans hframes)
        exact ⟨hglobals, upper, frame, houter, hid⟩

/-- The same for calls in a row. -/
theorem afterAll (h : StandsOn base id t) (ht : t.Numbered) (calls : List TableCall)
    (hopen : id ∈ (t.afterAll calls).ids) : StandsOn base id (t.afterAll calls) := by
  induction calls generalizing t with
  | nil => exact h
  | cons call rest ih =>
    have hout := (ht.handedOut id h.mem_ids).after call
    have hstays : id ∈ (t.after call).ids := mem_ids_of_afterAll hout hopen
    exact ih (h.after ht.distinct hstays) (ht.after call) hopen

/-- Closing the frame takes off nothing else. -/
theorem after_closeFrame (h : StandsOn base id t) (hdistinct : t.ids.Nodup)
    (hgranted : t.grants (.closeFrame id) = true) :
    t.after (.closeFrame id) = { base with opened := t.opened } := by
  obtain ⟨hglobals, upper, frame, hframes, hid⟩ := h
  obtain ⟨top, outer, hcons, htop, hclosed⟩ := innermost_of_grants hgranted
  cases upper with
  | nil =>
    obtain ⟨rfl, rfl⟩ := List.cons.inj (hcons.symm.trans hframes)
    rw [hclosed, hglobals]
  | cons upmost upper =>
    -- two frames would have the identity, the innermost one and the one opened first
    obtain ⟨rfl, rfl⟩ := List.cons.inj (hcons.symm.trans hframes)
    rw [ids, hcons, List.map_cons, htop] at hdistinct
    have hmem : id ∈ (upper ++ frame :: base.frames).map Frame.id := by simp [hid]
    exact absurd hmem (List.nodup_cons.1 hdistinct).1

end StandsOn

/-! ## Main statement -/

/-- **A table answers look-ups like a stack of complete environments.** After
any calls, a name has the value that the current environment gives it, and the
global bindings are the environment at the bottom. And whatever calls follow the
opening of a frame, if the frame can be closed after them, it was open all the
while, and closing it makes every look-up, the global bindings, the depth and
the innermost frame what they were before. -/
theorem afterAll_snapshots (calls : List TableCall) :
    let t := SymbolTable.empty.afterAll calls
    let s := Snapshots.start.follow .empty calls
    (∀ name, t.lookup name =
      match s.current name with
      | none => .error (.unknownVariable name)
      | some value => .ok value) ∧
    t.globals.get? = s.bottom ∧
    ∀ (kind : BlockKind) (stretch : List TableCall),
      ((t.openFrame kind).afterAll stretch).grants (.closeFrame (t.nextId kind)) = true →
      let closed := ((t.openFrame kind).afterAll stretch).after (.closeFrame (t.nextId kind))
      (∀ k, t.depth < ((t.openFrame kind).afterAll (stretch.take k)).depth) ∧
        (∀ name, closed.lookup name = t.lookup name) ∧ closed.globals = t.globals ∧
        closed.depth = t.depth ∧ closed.innermost? = t.innermost? := by
  intro t s
  have hs : s = t.snapshots := follow_snapshots .empty calls
  refine ⟨fun name => by rw [hs]; rfl, by rw [hs, bottom_snapshots], ?_⟩
  intro kind stretch hgranted
  have ht : t.Numbered := Numbered.empty.afterAll calls
  have hopened : (t.openFrame kind).Numbered := ht.after (.openFrame kind)
  have hstands := StandsOn.openFrame t kind
  obtain ⟨top, outer, hcons, hid, -⟩ := innermost_of_grants hgranted
  have hopen : t.nextId kind ∈ ((t.openFrame kind).afterAll stretch).ids := by
    simp [ids, hcons, hid]
  have hclosed := (hstands.afterAll hopened stretch hopen).after_closeFrame
    (hopened.afterAll stretch).distinct hgranted
  refine ⟨fun k => ?_, ?_⟩
  · have hout := (t.handedOut_nextId kind).afterAll (stretch.take k)
    rw [← stretch.take_append_drop k, afterAll_append] at hopen
    have hwhile := mem_ids_of_afterAll hout hopen
    exact (hstands.afterAll hopened _ hwhile).depth_lt
  · rw [hclosed]
    exact ⟨fun _ => rfl, rfl, rfl, rfl⟩

/-- In an `if` block `x` is bound anew, a `for` block is opened, closing the `if`
block is refused, and the `for` block is closed. -/
theorem afterAll_snapshots_refused :
    let x : Text := ['x']
    let calls : List TableCall := [.bind x (.boolean true)]
    let stretch : List TableCall :=
      [.bind x (.boolean false), .openFrame .forBlock, .closeFrame ⟨.ifBlock, 0⟩,
        .bind ['y'] (.reference x), .closeFrame ⟨.forBlock, 0⟩]
    let t := SymbolTable.empty.afterAll calls
    let inside := (t.openFrame .ifBlock).afterAll stretch
    inside.lookup x = .ok (.boolean false) ∧
      ((t.openFrame .ifBlock).afterAll (stretch.take 2)).grants (.closeFrame ⟨.ifBlock, 0⟩) =
        false ∧
      inside.grants (.closeFrame ⟨.ifBlock, 0⟩) = true ∧
      (inside.after (.closeFrame ⟨.ifBlock, 0⟩)).lookup x = .ok (.boolean true) ∧
      (inside.after (.closeFrame ⟨.ifBlock, 0⟩)).depth = 0 := by
  intro x calls stretch t inside
  have hgranted : inside.grants (.closeFrame (t.nextId .ifBlock)) = true := by decide
  obtain ⟨hlookups, -, hstretch⟩ := afterAll_snapshots calls
  obtain ⟨-, hsame, -, hdepth, -⟩ := hstretch .ifBlock stretch hgranted
  exact ⟨by decide, by decide, hgranted, (hsame x).trans (hlookups x), hdepth⟩

end SymbolTable

end LineScript
