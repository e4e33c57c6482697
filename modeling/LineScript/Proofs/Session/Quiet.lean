/-
Runs without traces, apart from their events.

Two actions have the same effect when, on every session that asks for no
traces, they have the same result and leave the same session, its sink
included (`Run.SameEffect`). What a statement does then comes down to opening
and closing blocks, to what it says in between, and to nothing else: the text
that a block or a brace was read from makes no difference.
-/
import LineScript.Proofs.Session.Law

namespace LineScript

namespace Statement

variable {text : Text} {kind : BlockKind}

theorem ofText_unknown (hc : Construct.ofLine? text = none) : ofText text = .unknown text := by
  rw [ofText, hc]

theorem ofText_binding (hc : Construct.ofLine? text = some .binding) :
    ofText text = .binding text := by
  rw [ofText, hc]

theorem ofText_print (hc : Construct.ofLine? text = some .print) : ofText text = .print text := by
  rw [ofText, hc]

theorem ofText_puts (hc : Construct.ofLine? text = some .puts) : ofText text = .puts text := by
  rw [ofText, hc]

theorem ofText_openBrace (hc : Construct.ofLine? text = some .openBrace) :
    ofText text = .openBrace text := by
  rw [ofText, hc]

theorem ofText_header (hc : Construct.ofLine? text = some (.block kind))
    (hb : text.inlineBody? = none) : ofText text = .header kind text := by
  rw [ofText]
  simp only [hc]
  split <;> simp_all

theorem ofText_emptyBlock (hc : Construct.ofLine? text = some (.block kind))
    (hb : text.inlineBody? = some []) : ofText text = .emptyBlock kind text := by
  rw [ofText]
  simp only [hc]
  split <;> simp_all

theorem ofText_inlineBlock {c : Char} {body : Text}
    (hc : Construct.ofLine? text = some (.block kind)) (hb : text.inlineBody? = some (c :: body)) :
    ofText text = .inlineBlock kind text (ofText (c :: body)) := by
  rw [ofText]
  simp only [hc]
  split <;> simp_all

theorem ofText_close (hc : Construct.ofLine? text = some .closeBrace)
    (ha : text.afterClose = []) : ofText text = .close text := by
  rw [ofText, hc]
  exact dif_pos ha

theorem ofText_closeThen (hc : Construct.ofLine? text = some .closeBrace)
    (ha : text.afterClose ≠ []) :
    ofText text = .closeThen text (ofText text.afterClose) := by
  rw [ofText, hc]
  exact dif_neg ha

end Statement

variable {σ α β : Type}

/-- The options stay as they are. -/
def keepsOptions : Law σ := fun s _ _ s' => s'.options = s.options

namespace keepsOptions

theorem composes : Law.Composes (keepsOptions (σ := σ)) where
  nothing _ := rfl
  andThen h₁ h₂ := h₂.trans h₁

theorem closeInnermost (line : Nat) :
    (Run.closeInnermost line : Run σ Unit).Obeys keepsOptions := by
  intro s
  rcases Run.closeInnermost_cases line s with
    ⟨cause, blocks, hfails⟩ | ⟨block, outer, frame, symbols, -, -, hcloses⟩
  · rw [hfails]
    rfl
  · rw [hcloses]
    rfl

variable [Sink σ]

theorem atoms : Law.Atoms (keepsOptions (σ := σ)) where
  toComposes := composes
  report _ _ _ := rfl
  fail _ _ _ _ := rfl
  write t s := by
    rw [Run.write]
    rcases Sink.write s.sink t with ⟨_ | reason, sink⟩ <;> rfl
  bindName _ _ _ := rfl
  openInnermost _ _ _ := rfl
  closeInnermost := closeInnermost

end keepsOptions

namespace Run

/-- The same result and the same session, on every session without traces. -/
def SameEffect (x y : Run σ α) : Prop :=
  ∀ s, s.options.trace = false → (x s).result = (y s).result ∧ (x s).session = (y s).session

namespace SameEffect

variable {x y z : Run σ α}

theorem refl (x : Run σ α) : SameEffect x x :=
  fun _ _ => ⟨rfl, rfl⟩

theorem symm (h : SameEffect x y) : SameEffect y x :=
  fun s hs => ⟨(h s hs).1.symm, (h s hs).2.symm⟩

theorem trans (h₁ : SameEffect x y) (h₂ : SameEffect y z) : SameEffect x z :=
  fun s hs => ⟨(h₁ s hs).1.trans (h₂ s hs).1, (h₁ s hs).2.trans (h₂ s hs).2⟩

theorem bind {f g : α → Run σ β} (hx : x.Obeys keepsOptions) (h : SameEffect x y)
    (hf : ∀ a, SameEffect (f a) (g a)) : SameEffect (x >>= f) (y >>= g) := by
  intro s hs
  obtain ⟨hresult, hsession⟩ := h s hs
  have hoptions : (x s).session.options.trace = false := by rw [hx s, hs]
  rw [bind_apply, bind_apply, ← hresult, ← hsession]
  cases (x s).result with
  | error failure => exact ⟨rfl, rfl⟩
  | ok a => exact hf a _ hoptions

/-- An action without effect may be left out in front of another. -/
theorem skip {x : Run σ Unit} {f : Unit → Run σ β} (h : SameEffect x (pure ())) :
    SameEffect (x >>= f) (f ()) := by
  intro s hs
  obtain ⟨hresult, hsession⟩ := h s hs
  rw [bind_apply, show (x s).result = .ok () from hresult, show (x s).session = s from hsession]
  exact ⟨rfl, rfl⟩

end SameEffect

theorem dispatch_sameEffect (line : Nat) (c : Option Construct) :
    SameEffect (dispatch line c : Run σ Unit) (pure ()) :=
  fun _ _ => ⟨rfl, rfl⟩

variable [Sink σ]

theorem trace_apply {s : Session σ} (c : Construct) (text : Text)
    (h : s.options.trace = false) : trace c text s = ⟨.ok (), s, []⟩ := by
  rw [trace, session_bind_apply, h]
  rfl

theorem trace_sameEffect (c : Construct) (text : Text) :
    SameEffect (trace c text : Run σ Unit) (pure ()) := by
  intro s hs
  rw [trace_apply c text hs]
  exact ⟨rfl, rfl⟩

theorem openBlock_sameEffect (line : Nat) (kind : BlockKind) (text : Text) :
    SameEffect (openBlock line kind text : Run σ Unit) (openInnermost line kind) :=
  SameEffect.skip (trace_sameEffect _ _)

theorem closeBlock_sameEffect (line : Nat) (text : Text) :
    SameEffect (closeBlock line text : Run σ Unit) (closeInnermost line) :=
  SameEffect.skip (trace_sameEffect _ _)

/-! ## Lines by their construct -/

variable {text : Text} {kind : BlockKind}

theorem execLine_unknown_sameEffect (line : Nat) (hc : Construct.ofLine? text = none) :
    SameEffect (execLine line text : Run σ Unit) (Run.skip line text) := by
  rw [execLine, Statement.ofText_unknown hc]
  exact SameEffect.skip (dispatch_sameEffect _ _)

theorem execLine_read_sameEffect (line : Nat) (hc : Construct.ofLine? text = some .binding) :
    SameEffect (execLine line text : Run σ Unit)
      (ofFault line (readBinding text) >>= fun read =>
        modify fun s => { s with symbols := s.symbols.bind read.1.name read.2 }) := by
  rw [execLine, Statement.ofText_binding hc]
  refine (SameEffect.skip (dispatch_sameEffect _ _)).trans ?_
  refine (SameEffect.skip (trace_sameEffect _ _)).trans ?_
  cases readBinding text <;> exact fun _ _ => ⟨rfl, rfl⟩

theorem execLine_binding_sameEffect (line : Nat) {statement : LetStatement} {value : Value}
    (hc : Construct.ofLine? text = some .binding)
    (hread : readBinding text = .ok (statement, value)) :
    SameEffect (execLine line text : Run σ Unit)
      (modify fun s => { s with symbols := s.symbols.bind statement.name value }) := by
  have h := execLine_read_sameEffect (σ := σ) line hc
  rw [hread] at h
  exact h

theorem writeLine_sameEffect (line : Nat) (c : Construct) (text ending : Text) :
    SameEffect (writeLine line c text ending : Run σ Unit)
      (session >>= fun s =>
        ofFault line (Output.render s.symbols (c.argument text)) >>= fun rendered =>
          write (rendered ++ ending)) :=
  SameEffect.skip (trace_sameEffect _ _)

theorem execLine_print_sameEffect (line : Nat) (hc : Construct.ofLine? text = some .print) :
    SameEffect (execLine line text : Run σ Unit) (writeLine line .print text []) := by
  rw [execLine, Statement.ofText_print hc]
  exact SameEffect.skip (dispatch_sameEffect _ _)

theorem execLine_puts_sameEffect (line : Nat) (hc : Construct.ofLine? text = some .puts) :
    SameEffect (execLine line text : Run σ Unit)
      (session >>= fun s =>
        ofFault line (Output.render s.symbols (Construct.puts.argument text)) >>= fun rendered =>
          write (rendered ++ ['\n'])) := by
  rw [execLine, Statement.ofText_puts hc]
  exact (SameEffect.skip (dispatch_sameEffect _ _)).trans (writeLine_sameEffect _ _ _ _)

theorem execLine_openBrace_sameEffect (line : Nat)
    (hc : Construct.ofLine? text = some .openBrace) :
    SameEffect (execLine line text : Run σ Unit) (pure ()) := by
  rw [execLine, Statement.ofText_openBrace hc]
  exact (SameEffect.skip (dispatch_sameEffect _ _)).trans (trace_sameEffect _ _)

theorem execLine_header_sameEffect (line : Nat) (hc : Construct.ofLine? text = some (.block kind))
    (hb : text.inlineBody? = none) :
    SameEffect (execLine line text : Run σ Unit) (openInnermost line kind) := by
  rw [execLine, Statement.ofText_header hc hb]
  exact (SameEffect.skip (dispatch_sameEffect _ _)).trans (openBlock_sameEffect _ _ _)

theorem execLine_close_sameEffect (line : Nat) (hc : Construct.ofLine? text = some .closeBrace)
    (ha : text.afterClose = []) :
    SameEffect (execLine line text : Run σ Unit) (closeInnermost line) := by
  rw [execLine, Statement.ofText_close hc ha]
  exact (SameEffect.skip (dispatch_sameEffect _ _)).trans (closeBlock_sameEffect _ _)

/-- A closing brace by itself. -/
theorem execLine_brace_sameEffect (line : Nat) :
    SameEffect (execLine line ['}'] : Run σ Unit) (closeInnermost line) :=
  execLine_close_sameEffect line (by decide) (by decide)

theorem execLine_closeThen_sameEffect (line : Nat)
    (hc : Construct.ofLine? text = some .closeBrace) (ha : text.afterClose ≠ []) :
    SameEffect (execLine line text : Run σ Unit)
      (closeInnermost line >>= fun _ => execLine line text.afterClose) := by
  rw [execLine, Statement.ofText_closeThen hc ha]
  refine (SameEffect.skip (dispatch_sameEffect _ _)).trans ?_
  exact .bind (keepsOptions.atoms.steps.closeBlock _ _) (closeBlock_sameEffect _ _) fun _ => .refl _

theorem execLine_emptyBlock_sameEffect (line : Nat)
    (hc : Construct.ofLine? text = some (.block kind)) (hb : text.inlineBody? = some []) :
    SameEffect (execLine line text : Run σ Unit)
      (openInnermost line kind >>= fun _ => closeInnermost line) := by
  rw [execLine, Statement.ofText_emptyBlock hc hb]
  refine (SameEffect.skip (dispatch_sameEffect _ _)).trans ?_
  refine .bind (keepsOptions.atoms.steps.openBlock _ _ _) (openBlock_sameEffect _ _ _) fun _ => ?_
  exact closeBlock_sameEffect _ _

theorem execLine_inlineBlock_sameEffect (line : Nat) {c : Char} {body : Text}
    (hc : Construct.ofLine? text = some (.block kind))
    (hb : text.inlineBody? = some (c :: body)) :
    SameEffect (execLine line text : Run σ Unit)
      (openInnermost line kind >>= fun _ => execLine line (c :: body) >>= fun _ =>
        closeInnermost line) := by
  rw [execLine, Statement.ofText_inlineBlock hc hb]
  refine (SameEffect.skip (dispatch_sameEffect _ _)).trans ?_
  refine .bind (keepsOptions.atoms.steps.openBlock _ _ _) (openBlock_sameEffect _ _ _) fun _ => ?_
  refine .bind (keepsOptions.atoms.steps.exec _ _) (.refl _) fun _ => ?_
  exact closeBlock_sameEffect _ _

/-! ## Lines in a row -/

theorem execLines_append (ls ls' : List Line) :
    (execLines (ls ++ ls') : Run σ Unit) = execLines ls >>= fun _ => execLines ls' := by
  induction ls with
  | nil => rfl
  | cons line rest ih =>
    show execLine line.number line.text >>= (fun _ => execLines (rest ++ ls')) = _
    rw [ih, ← bind_assoc]
    rfl

theorem execLines_singleton (line : Line) :
    (execLines [line] : Run σ Unit) = execLine line.number line.text :=
  bind_pure _

end Run

end LineScript
