/-
Parentheses around an argument. They are taken off unless the first one is closed
before the end, and that is decided by counting the parentheses of everything
between them, quoted or not (`closesEarly_eq_false_iff`).

So a text in quotes may stand in parentheses, and what is written stays the same,
as long as the text itself nowhere closes more parentheses than it has opened.
Where it does, as in `(":)")`, the parentheses stay on the argument, which is then
no text but a reference to a name that is spelled like the whole of it
(`Output.render_inParens_iff`).
-/
import LineScript.Proofs.Output.Quoting
import Mathlib.Data.List.Infix

namespace LineScript

namespace Template

/-! ## Where a template fails -/

theorem isIdentifier_of_placeholder? {t name rest : Text}
    (h : placeholder? t = some (name, rest)) : name.isIdentifier = true := by
  unfold placeholder? at h
  split at h
  · cases h
  · split at h
    next hname =>
      obtain ⟨rfl, rfl⟩ := Prod.mk.inj (Option.some.inj h)
      exact hname
    next => cases h

theorem isIdentifier_of_mem_pieces {t name : Text} (h : .variable name ∈ pieces t) :
    name.isIdentifier = true := by
  fun_induction pieces t with
  | case1 => cases h
  | case2 rest ih => exact ih (by simpa using h)
  | case3 rest ih => exact ih (by simpa using h)
  | case4 rest _ name' after hfound _ ih =>
    rcases List.mem_cons.1 h with heq | hrest
    · cases heq
      exact isIdentifier_of_placeholder? hfound
    · exact ih hrest
  | case5 rest _ _ ih => exact ih (by simpa using h)
  | case6 c rest _ _ _ ih => exact ih (by simpa using h)

theorem exists_of_fillPieces_error {symbols : SymbolTable} {ps : List Piece} {cause : LookupError}
    (h : fillPieces symbols ps = .error cause) :
    ∃ name, .variable name ∈ ps ∧ symbols.resolve name = .error cause := by
  induction ps with
  | nil => cases h
  | cons p ps ih =>
    rw [fillPieces] at h
    cases hp : fillPiece symbols p with
    | error cause' =>
      rw [hp] at h
      cases h
      cases p with
      | literal c => cases hp
      | «variable» name =>
        rw [fillPiece] at hp
        cases hname : symbols.resolve name with
        | ok v => rw [hname] at hp; cases hp
        | error cause'' =>
          rw [hname] at hp
          cases hp
          exact ⟨name, List.mem_cons_self .., hname⟩
    | ok t =>
      cases hps : fillPieces symbols ps with
      | ok rest => rw [hp, hps] at h; cases h
      | error cause' =>
        rw [hp, hps] at h
        cases h
        obtain ⟨name, hmem, hname⟩ := ih hps
        exact ⟨name, List.mem_cons_of_mem _ hmem, hname⟩

/-- Where nothing is bound, a template can only fail for want of an identifier. -/
theorem exists_identifier_of_fill_empty {t : Text} {cause : LookupError}
    (h : fill .empty t = .error cause) :
    ∃ name : Text, name.isIdentifier = true ∧ cause = .unknownVariable name := by
  obtain ⟨name, hmem, hname⟩ := exists_of_fillPieces_error h
  have hunknown : SymbolTable.empty.resolve name = .error (.unknownVariable name) := rfl
  rw [hunknown] at hname
  exact ⟨name, isIdentifier_of_mem_pieces hmem, (Except.error.inj hname).symm⟩

end Template

/-- The number of the line is added to a fault and takes nothing away from it. -/
theorem Failure.mapError_fault_inj {α : Type} {line : Nat} {r r' : Except Fault α} :
    r.mapError (fault line) = r'.mapError (fault line) ↔ r = r' := by
  cases r <;> cases r' <;> simp [Except.mapError]

/-- A parenthesis may begin arithmetic, but no quote may follow it. -/
theorem Arithmetic.isArithmetic_openParen_quote (t : Text) :
    isArithmetic ('(' :: '"' :: t) = false := by
  have hquote (rest : Text) : tokens? ('"' :: rest) = none := by
    rw [tokens?]
    rfl
  have hparen (rest : Text) : tokens? ('(' :: '"' :: rest) = none := by
    rw [tokens?, hquote]
    rfl
  have hfilter : ('(' :: '"' :: t).filter (fun c => !isBlank c) =
      '(' :: '"' :: t.filter (fun c => !isBlank c) := rfl
  rw [isArithmetic, hfilter, hparen]

namespace Output

/-- A text in parentheses. -/
def inParens (t : Text) : Text :=
  '(' :: t ++ [')']

/-- No first part of a text closes more parentheses than it opens. -/
def NeverOverclosed (t : Text) : Prop :=
  ∀ p, p <+: t → p.count ')' ≤ p.count '('

variable {t : Text}

/-! ## Counting parentheses -/

theorem forall_prefix_cons {c : Char} {P : Text → Prop} :
    (∀ p, p <+: c :: t → P p) ↔ P [] ∧ ∀ p, p <+: t → P (c :: p) := by
  constructor
  · intro h
    exact ⟨h [] List.nil_prefix, fun p hp => h _ (List.cons_prefix_cons.2 ⟨rfl, hp⟩)⟩
  · rintro ⟨hnil, hcons⟩ p hp
    rcases List.prefix_cons_iff.1 hp with rfl | ⟨q, rfl, hq⟩
    · exact hnil
    · exact hcons q hq

/-- The depth that the reader starts with stands for parentheses that were opened
before. -/
theorem closesEarly_eq_false_iff (depth : Nat) (t : Text) :
    closesEarly depth t = false ↔ ∀ p, p <+: t → p.count ')' ≤ depth + p.count '(' := by
  induction t generalizing depth with
  | nil => simp [closesEarly]
  | cons c t ih =>
    rw [forall_prefix_cons]
    unfold closesEarly
    by_cases hopen : c = '('
    · subst hopen
      simp [ih, Nat.add_assoc, Nat.add_comm 1]
    · by_cases hclose : c = ')'
      · subst hclose
        cases depth with
        | zero =>
          simp only [Char.reduceEq, if_false, if_true, Bool.true_eq_false, false_iff, not_and]
          intro _ h
          exact absurd (h [] List.nil_prefix) (by decide)
        | succ depth =>
          simp [ih, Nat.add_right_comm depth 1]
      · simp [hopen, hclose, ih]

theorem neverOverclosed_iff : NeverOverclosed t ↔ closesEarly 0 t = false := by
  rw [closesEarly_eq_false_iff]
  simp [NeverOverclosed]

instance : DecidablePred NeverOverclosed :=
  fun _ => decidable_of_iff _ neverOverclosed_iff.symm

/-- Quotes are no parentheses. -/
theorem neverOverclosed_text : NeverOverclosed (Value.text t).toLiteral ↔ NeverOverclosed t := by
  show (∀ p, p <+: '"' :: (t ++ ['"']) → _) ↔ _
  rw [forall_prefix_cons]
  constructor
  · intro h p hp
    simpa using h.2 p (hp.trans (List.prefix_append t ['"']))
  · intro h
    refine ⟨Nat.le_refl 0, fun p hp => ?_⟩
    rcases List.prefix_concat_iff.1 hp with rfl | hp
    · simpa using h t (List.prefix_refl t)
    · simpa using h p hp

/-! ## Taking them off -/

theorem trim_inParens (t : Text) : (inParens t).trim = inParens t :=
  Text.trim_eq_self (by decide) (List.getLast?_concat (l := '(' :: t)) (by decide)

theorem between?_inParens (t : Text) : (inParens t).between? '(' ')' = some t :=
  Text.between?_eq_some_iff.2 rfl

theorem stripParens_inParens (h : NeverOverclosed t) : stripParens (inParens t) = t.trim := by
  rw [stripParens, between?_inParens]
  exact if_neg (by simp [neverOverclosed_iff.1 h])

theorem stripParens_inParens_of_overclosed (h : ¬NeverOverclosed t) :
    stripParens (inParens t) = inParens t := by
  rw [neverOverclosed_iff, Bool.not_eq_false] at h
  rw [stripParens, between?_inParens]
  exact if_pos h

/-! ## Quoted texts in parentheses -/

/-- A quoted text in parentheses is no literal. -/
theorem type_ofLiteral_inParens_text (t : Text) :
    ValueType.ofLiteral (inParens (Value.text t).toLiteral) = .reference := by
  have htrim := trim_inParens (Value.text t).toLiteral
  have hargument : inParens (Value.text t).toLiteral = '(' :: '"' :: (t ++ ['"', ')']) := by
    simp [inParens, Value.toLiteral]
  rw [hargument] at htrim ⊢
  have hfloat := Text.isFloatForm_cons_eq_false (c := '(') (by decide) (by decide)
    ('"' :: (t ++ ['"', ')']))
  have hdigits := Text.isDigits_cons_eq_false (c := '(') (by decide) ('"' :: (t ++ ['"', ')']))
  have hboolean := Text.isBooleanForm_cons_eq_false (c := '(') (by decide) (by decide)
    ('"' :: (t ++ ['"', ')']))
  have hcharacter : Text.isCharacterForm ('(' :: '"' :: (t ++ ['"', ')'])) = false := by
    simp [Text.isCharacterForm]
  have htext := Text.isTextForm_cons_eq_false (c := '(') (by decide) ('"' :: (t ++ ['"', ')']))
  have harithmetic : Arithmetic.isArithmetic ('(' :: '"' :: (t ++ ['"', ')'])) = false :=
    Arithmetic.isArithmetic_openParen_quote (t ++ ['"', ')'])
  simp only [ValueType.ofLiteral, htrim, hfloat, hdigits, hboolean, hcharacter, htext, harithmetic,
    Bool.false_eq_true, if_false]

theorem render_inParens_text (symbols : SymbolTable) (h : NeverOverclosed t) :
    render symbols (inParens (Value.text t).toLiteral) =
      render symbols (Value.text t).toLiteral := by
  have hparens : stripParens (inParens (Value.text t).toLiteral) = (Value.text t).toLiteral := by
    rw [stripParens_inParens (neverOverclosed_text.2 h), Value.trim_text]
  have hquotes : stripParens (Value.text t).toLiteral = (Value.text t).toLiteral := rfl
  rw [render, render, trim_inParens, Value.trim_text, hparens, hquotes]

theorem render_inParens_overclosed (symbols : SymbolTable) (h : ¬NeverOverclosed t) :
    render symbols (inParens (Value.text t).toLiteral) =
      ((symbols.resolve (inParens (Value.text t).toLiteral)).map Value.display).mapError
        .lookup :=
  render_reference symbols (trim_inParens _)
    (stripParens_inParens_of_overclosed (mt neverOverclosed_text.1 h))
    (type_ofLiteral_inParens_text t) (List.cons_ne_nil _ _)

/-- With nothing bound, the reference is to no variable; the template either is
written or lacks an identifier, which no parenthesis is part of. -/
theorem render_empty_inParens_ne (h : ¬NeverOverclosed t) :
    render .empty (inParens (Value.text t).toLiteral) ≠
      render .empty (Value.text t).toLiteral := by
  have hunknown : SymbolTable.empty.resolve (inParens (Value.text t).toLiteral) =
      .error (.unknownVariable (inParens (Value.text t).toLiteral)) := rfl
  rw [render_inParens_overclosed .empty h, render_text, hunknown]
  cases hfill : Template.fill .empty t with
  | ok written => exact fun heq => by cases heq
  | error cause =>
    obtain ⟨name, hname, rfl⟩ := Template.exists_identifier_of_fill_empty hfill
    intro heq
    have hspelled : inParens (Value.text t).toLiteral = name := by
      injection heq with heq
      injection heq with heq
      injection heq
    have hparen := Text.not_mem_of_isIdentifier hname (c := '(') (by decide +kernel)
    exact hparen (hspelled ▸ List.mem_cons_self ..)

/-- **Parentheses around a quoted text change nothing, if and only if the text
nowhere closes more parentheses than it has opened.** Nothing is changed when, on
every line and whatever is bound, the same text is written or the same failure
comes out. Where the text does close too many, it is not filled in at all: the
argument names a variable, its quotes and its parentheses being part of the name. -/
theorem render_inParens_iff (line : Nat) (t : Text) :
    ((∀ symbols,
        (render symbols (inParens (Value.text t).toLiteral)).mapError (Failure.fault line) =
          (render symbols (Value.text t).toLiteral).mapError (Failure.fault line)) ↔
      NeverOverclosed t) ∧
    (¬NeverOverclosed t → ∀ symbols,
      render symbols (inParens (Value.text t).toLiteral) =
        ((symbols.resolve (inParens (Value.text t).toLiteral)).map Value.display).mapError
          .lookup) := by
  simp only [Failure.mapError_fault_inj]
  refine ⟨⟨fun h => ?_, fun h symbols => render_inParens_text symbols h⟩, fun h symbols =>
    render_inParens_overclosed symbols h⟩
  by_contra hclosed
  exact render_empty_inParens_ne hclosed (h .empty)

/-- One that is opened and never closed does no harm; one that is closed and was
never opened does. -/
theorem render_inParens_unpaired :
    (∀ symbols, (render symbols (inParens (Value.text ['(', 'a', ')', '(']).toLiteral)).mapError
        (Failure.fault 3) =
      (render symbols (Value.text ['(', 'a', ')', '(']).toLiteral).mapError (Failure.fault 3)) ∧
    ¬NeverOverclosed [':', ')'] ∧
    render .empty (inParens (Value.text [':', ')']).toLiteral) =
      .error (.lookup (.unknownVariable ['(', '"', ':', ')', '"', ')'])) :=
  ⟨(render_inParens_iff 3 _).1.2 (by decide), by decide,
    (render_inParens_iff 3 _).2 (by decide) .empty⟩

/-- `(":)")` names a variable, and `":)"` is written as `:)`. -/
theorem render_inParens_closing :
    render .empty ['(', '"', ':', ')', '"', ')'] =
      .error (.lookup (.unknownVariable ['(', '"', ':', ')', '"', ')'])) ∧
    render .empty ['"', ':', ')', '"'] = .ok [':', ')'] := by
  decide +kernel

end Output

end LineScript
