/-
What holds of every action that a run is made of.

A law relates the session before an action, the events on the way, the failure
that the action ends in, if it does, and the session afterwards (`Law`). Some
laws hold of doing nothing and add up over two actions in a row
(`Law.Composes`). Such a law holds of every statement as soon as it holds of
the steps that statements are made of (`Law.Steps`), by induction on the
statement (`Law.Steps.exec`), and so of lines and of whole runs; and it holds
of the steps as soon as it holds of what these are made of (`Law.Atoms`).
Opening and closing a block are atoms: what they do to the records of the open
blocks is done as a whole or not at all.

Actions form a lawful monad; the equations that compute them one step at a time
stand in front.
-/
import LineScript.Session.Exec

namespace LineScript

theorem mapError_eq_ok_iff {α ε δ : Type} {r : Except ε α} {f : ε → δ} {a : α} :
    r.mapError f = .ok a ↔ r = .ok a := by
  cases r with
  | error cause => exact ⟨nofun, nofun⟩
  | ok b =>
    show Except.ok b = Except.ok a ↔ Except.ok b = Except.ok a
    rw [Except.ok.injEq, Except.ok.injEq]

namespace Run

variable {σ α β : Type}

/-! ## Computing actions -/

theorem bind_apply (x : Run σ α) (f : α → Run σ β) (s : Session σ) :
    (x >>= f) s =
      match (x s).result with
      | .error failure => ⟨.error failure, (x s).session, (x s).events⟩
      | .ok a => ⟨(f a (x s).session).result, (f a (x s).session).session,
          (x s).events ++ (f a (x s).session).events⟩ := by
  cases h : (x s).result with
  | error failure => rw [bind_apply_error h]
  | ok a => rw [bind_apply_ok h]

theorem bind_apply_of_ok {x : Run σ α} {f : α → Run σ β} {s s' : Session σ} {a : α}
    (h : (x s).result = .ok a ∧ (x s).session = s') :
    ((x >>= f) s).result = (f a s').result ∧ ((x >>= f) s).session = (f a s').session := by
  rw [bind_apply_ok h.1, h.2]
  exact ⟨rfl, rfl⟩

theorem bind_pure_apply (x : Run σ α) (g : α → β) (s : Session σ) :
    (x >>= fun a => pure (g a)) s = ⟨(x s).result.map g, (x s).session, (x s).events⟩ := by
  rw [bind_apply]
  cases (x s).result with
  | error failure => rfl
  | ok a => simp [Except.map]

/-- Two actions fail where the first one does, or the second one behind it. -/
theorem error_of_bind {x : Run σ α} {f : α → Run σ β} {s : Session σ} {failure : Failure}
    (h : ((x >>= f) s).result = .error failure) :
    (x s).result = .error failure ∨
      ∃ a, (x s).result = .ok a ∧ (f a (x s).session).result = .error failure := by
  rw [bind_apply] at h
  cases hx : (x s).result with
  | error first =>
    rw [hx] at h
    exact .inl (congrArg Except.error (Except.error.inj h))
  | ok a =>
    rw [hx] at h
    exact .inr ⟨a, rfl, h⟩

theorem error_of_ofFault {line : Nat} {e : Except Fault α} {s : Session σ} {failure : Failure}
    (h : (ofFault line e s).result = .error failure) :
    ∃ cause, e = .error cause ∧ failure = .fault line cause := by
  cases e with
  | error cause => exact ⟨cause, rfl, (Except.error.inj h).symm⟩
  | ok a => cases h

instance : LawfulMonad (Run σ) := by
  refine LawfulMonad.mk' _ ?_ (fun a f => rfl) ?_
  · intro α x
    funext s
    show (x >>= fun a => pure a) s = x s
    rw [bind_apply]
    rcases h : x s with ⟨_ | a, s', es⟩
    · rfl
    · simp
  · intro α β γ x f g
    funext s
    simp only [bind_apply]
    rcases x s with ⟨_ | a, s', es⟩
    · rfl
    · rcases hf : f a s' with ⟨_ | b, s'', es'⟩
      · simp [hf]
      · simp [hf]

@[simp] theorem session_bind_apply (f : Session σ → Run σ β) (s : Session σ) :
    (session >>= f) s = f s s :=
  rfl

@[simp] theorem modify_bind_apply (g : Session σ → Session σ) (f : Unit → Run σ β)
    (s : Session σ) : (modify g >>= f) s = f () (g s) :=
  rfl

/-- What opening a block does once the block's line is announced. -/
def openInnermost (line : Nat) (kind : BlockKind) : Run σ Unit := do
  let id := (← session).symbols.nextId kind
  modify fun s =>
    { s with
      counts := s.counts.increment kind
      symbols := s.symbols.openFrame kind
      blocks := ⟨id, line⟩ :: s.blocks }
  report (.opened id (← session).symbols.depth)

/-- A closing fails with at most a block taken off the list, or the symbol table
closes a frame. -/
theorem closeInnermost_cases (line : Nat) (s : Session σ) :
    (∃ cause blocks, closeInnermost line s =
      ⟨.error (.fault line (.scope cause)), { s with blocks }, []⟩) ∨
    ∃ block outer frame symbols, s.blocks = block :: outer ∧
      s.symbols.closeFrame block.frame = .ok (frame, symbols) ∧
      closeInnermost line s =
        ⟨.ok (), { s with
          symbols
          blocks := outer
          counts := s.counts.decrement block.frame.kind },
          [.closed frame.id frame.scope.size]⟩ := by
  rw [closeInnermost, session_bind_apply]
  cases hb : s.blocks with
  | nil => exact .inl ⟨.unmatchedClose, s.blocks, rfl⟩
  | cons block outer =>
    simp only [modify_bind_apply, session_bind_apply]
    cases hclose : s.symbols.closeFrame block.frame with
    | error cause => exact .inl ⟨cause, outer, rfl⟩
    | ok closed => exact .inr ⟨block, outer, closed.1, closed.2, rfl, hclose, rfl⟩

end Run

section

variable {σ : Type} [Sink σ] {source : Text} {options : Options} {sink : σ}

theorem execute_of_lines {lines : List Line} (h : Source.lines source = .ok lines) :
    execute source options sink =
      { Run.runLines lines (Session.start options sink) with
        events := .sourceRead lines.length ::
          (Run.runLines lines (Session.start options sink)).events } := by
  rw [execute, Run.runSource, h]
  rfl

theorem execute_of_refused {cause : UnbalancedQuotes} (h : Source.lines source = .error cause) :
    execute source options sink =
      ⟨.error (.quotes cause), Session.start options sink, []⟩ := by
  rw [execute, Run.runSource, h]
  rfl

end

/-! ## What bindings and arguments can be at fault for -/

theorem readBinding_fault {text : Text} {cause : Fault} (h : readBinding text = .error cause) :
    cause = .malformedLet ∨ ∃ literal why, cause = .invalidLiteral literal why := by
  rw [readBinding] at h
  split at h
  · exact .inl (Except.error.inj h).symm
  split at h
  · exact .inr ⟨_, _, (Except.error.inj h).symm⟩
  · cases h

theorem render_fault {symbols : SymbolTable} {argument : Text} {cause : Fault}
    (h : Output.render symbols argument = .error cause) :
    (∃ literal why, cause = .invalidLiteral literal why) ∨ ∃ why, cause = .lookup why := by
  have hlookup : ∀ {e : Except LookupError Text}, e.mapError Fault.lookup = .error cause →
      ∃ why, cause = .lookup why := by
    intro e he
    cases e with
    | error why => exact ⟨why, (Except.error.inj he).symm⟩
    | ok text => cases he
  rw [Output.render] at h
  cases harg : Output.stripParens argument.trim with
  | nil =>
    rw [harg] at h
    cases h
  | cons first rest =>
    rw [harg] at h
    simp only [Output.renderBare] at h
    split at h
    · exact .inr (hlookup h)
    split at h
    · exact .inl ⟨_, _, (Except.error.inj h).symm⟩
    · exact .inr (hlookup h)

theorem readBinding_ne_scope {text : Text} {cause : Fault} (h : readBinding text = .error cause)
    (c : ScopeError) : cause ≠ .scope c := by
  rcases readBinding_fault h with rfl | ⟨literal, why, rfl⟩ <;> simp

theorem render_ne_scope {symbols : SymbolTable} {argument : Text} {cause : Fault}
    (h : Output.render symbols argument = .error cause) (c : ScopeError) : cause ≠ .scope c := by
  rcases render_fault h with ⟨literal, why, rfl⟩ | ⟨why, rfl⟩ <;> simp

/-! ## Laws -/

/-- Whether an event tells of something else than the opening or the closing of
a frame. -/
def Event.isNote : Event → Bool
  | .opened _ _ | .closed _ _ => false
  | _ => true

/-- The failure that an action ends in. -/
def Outcome.failure? {σ α : Type} (o : Outcome σ α) : Option Failure :=
  match o.result with
  | .error failure => some failure
  | .ok _ => none

/-- What an action may do: the session before, the events, the failure and the
session afterwards. -/
abbrev Law (σ : Type) : Type :=
  Session σ → List Event → Option Failure → Session σ → Prop

/-- Every outcome of the action is as the law says. -/
def Run.Obeys {σ α : Type} (x : Run σ α) (Q : Law σ) : Prop :=
  ∀ s, Q s (x s).events (x s).failure? (x s).session

namespace Law

variable {σ α β : Type} {Q : Law σ}

/-- The law holds of doing nothing, and of two actions in a row when it holds of
both. -/
structure Composes (Q : Law σ) : Prop where
  nothing : ∀ s, Q s [] none s
  andThen : ∀ {s es s' es' failure s''}, Q s es none s' → Q s' es' failure s'' →
    Q s (es ++ es') failure s''

namespace Composes

theorem pure (h : Composes Q) (a : α) : (Pure.pure a : Run σ α).Obeys Q :=
  fun s => h.nothing s

theorem session (h : Composes Q) : (Run.session : Run σ (Session σ)).Obeys Q :=
  fun s => h.nothing s

theorem bind (h : Composes Q) {x : Run σ α} {f : α → Run σ β} (hx : x.Obeys Q)
    (hf : ∀ a, (f a).Obeys Q) : (x >>= f).Obeys Q := by
  intro s
  have hfirst := hx s
  rw [Run.bind_apply]
  rcases hxs : x s with ⟨_ | a, s', es⟩
  · rw [hxs] at hfirst
    exact hfirst
  · rw [hxs] at hfirst
    exact h.andThen hfirst (hf a s')

/-- A value that was computed, or the fault that was found. -/
theorem ofFault (h : Composes Q) {line : Nat} {e : Except Fault α}
    (he : ∀ cause, e = .error cause → (Run.fail (.fault line cause) : Run σ Unit).Obeys Q) :
    (Run.ofFault line e).Obeys Q := by
  cases e with
  | error cause => exact fun s => he cause rfl s
  | ok a => exact h.pure a

end Composes

/-- The law composes, and it holds of each step that statements are made of. -/
structure Steps [Sink σ] (Q : Law σ) : Prop extends Composes Q where
  dispatch : ∀ line c, (Run.dispatch line c).Obeys Q
  trace : ∀ c text, (Run.trace c text).Obeys Q
  skip : ∀ line text, (Run.skip line text).Obeys Q
  bindLine : ∀ line text, (Run.bindLine line text).Obeys Q
  writeLine : ∀ line c text ending, (Run.writeLine line c text ending).Obeys Q
  openBlock : ∀ line kind text, (Run.openBlock line kind text).Obeys Q
  closeBlock : ∀ line text, (Run.closeBlock line text).Obeys Q

namespace Steps

variable [Sink σ]

theorem exec (h : Steps Q) (line : Nat) (st : Statement) : (Run.exec line st).Obeys Q := by
  induction st with
  | unknown text => exact h.bind (h.dispatch _ _) fun _ => h.skip _ _
  | binding text => exact h.bind (h.dispatch _ _) fun _ => h.bindLine _ _
  | print text => exact h.bind (h.dispatch _ _) fun _ => h.writeLine _ _ _ _
  | puts text => exact h.bind (h.dispatch _ _) fun _ => h.writeLine _ _ _ _
  | header kind text => exact h.bind (h.dispatch _ _) fun _ => h.openBlock _ _ _
  | emptyBlock kind text =>
    exact h.bind (h.dispatch _ _) fun _ => h.bind (h.openBlock _ _ _) fun _ => h.closeBlock _ _
  | inlineBlock kind text body ih =>
    exact h.bind (h.dispatch _ _) fun _ => h.bind (h.openBlock _ _ _) fun _ =>
      h.bind ih fun _ => h.closeBlock _ _
  | openBrace text => exact h.bind (h.dispatch _ _) fun _ => h.trace _ _
  | close text => exact h.bind (h.dispatch _ _) fun _ => h.closeBlock _ _
  | closeThen text rest ih =>
    exact h.bind (h.dispatch _ _) fun _ => h.bind (h.closeBlock _ _) fun _ => ih

theorem execLine (h : Steps Q) (line : Nat) (text : Text) : (Run.execLine line text).Obeys Q :=
  h.exec line (Statement.ofText text)

theorem execLines (h : Steps Q) (lines : List Line) : (Run.execLines lines).Obeys Q := by
  induction lines with
  | nil => exact h.pure ()
  | cons line rest ih => exact h.bind (h.execLine _ _) fun _ => ih

theorem runLines (h : Steps Q) (hfinish : Run.finish.Obeys Q) (lines : List Line) :
    (Run.runLines lines).Obeys Q :=
  h.bind (h.execLines lines) fun _ => hfinish

end Steps

/-! ## What the steps are made of -/

/-- The law composes, and it holds of the actions that steps are made of. -/
structure Atoms [Sink σ] (Q : Law σ) : Prop extends Composes Q where
  report : ∀ event, event.isNote = true → (Run.report event).Obeys Q
  fail : ∀ line cause, (∀ c, cause ≠ .scope c) →
    (Run.fail (.fault line cause) : Run σ Unit).Obeys Q
  write : ∀ t, (Run.write t).Obeys Q
  bindName : ∀ name value,
    (Run.modify fun s => { s with symbols := s.symbols.bind name value }).Obeys Q
  openInnermost : ∀ line kind, (Run.openInnermost line kind).Obeys Q
  closeInnermost : ∀ line, (Run.closeInnermost line).Obeys Q

namespace Atoms

variable [Sink σ]

theorem trace (h : Atoms Q) (c : Construct) (text : Text) : (Run.trace c text).Obeys Q := by
  refine h.bind h.session fun s => ?_
  split
  · exact h.write _
  · exact h.pure ()

theorem skip (h : Atoms Q) (line : Nat) (text : Text) : (Run.skip line text).Obeys Q := by
  refine h.bind h.session fun s => ?_
  split
  · exact h.bind (h.fail _ _ (by simp)) fun _ => h.report _ rfl
  · exact h.report _ rfl

theorem bindLine (h : Atoms Q) (line : Nat) (text : Text) : (Run.bindLine line text).Obeys Q := by
  refine h.bind (h.trace _ _) fun _ => ?_
  refine h.bind (h.ofFault fun cause hc => h.fail _ _ (readBinding_ne_scope hc)) fun read => ?_
  refine h.bind (h.report _ rfl) fun _ => ?_
  refine h.bind h.session fun _ => ?_
  exact h.bind (h.report _ rfl) fun _ => h.bindName _ _

theorem writeLine (h : Atoms Q) (line : Nat) (c : Construct) (text ending : Text) :
    (Run.writeLine line c text ending).Obeys Q := by
  refine h.bind (h.trace _ _) fun _ => ?_
  refine h.bind h.session fun s => ?_
  exact h.bind (h.ofFault fun cause hc => h.fail _ _ (render_ne_scope hc)) fun _ => h.write _

theorem steps (h : Atoms Q) : Steps Q where
  toComposes := h.toComposes
  dispatch _ _ := h.bind h.session fun _ => h.report _ rfl
  trace := h.trace
  skip := h.skip
  bindLine := h.bindLine
  writeLine := h.writeLine
  openBlock line kind _ := h.bind (h.trace _ _) fun _ => h.openInnermost line kind
  closeBlock line _ := h.bind (h.trace _ _) fun _ => h.closeInnermost line

end Atoms

end Law

end LineScript
