/-
Which parentheses are taken off an argument. They should be a pair: the first one
is opened at the start, and the last one closes it at the end (`Output.Unwraps`).
What stands between a pair is balanced, by counting.

Whether the first one is closed before the end is looked at, and whether it is
closed at the end is not. So an argument that leaves a parenthesis open inside,
such as `(1 + (2)`, loses its first parenthesis and its last, which closes another
one. Those arguments are the only ones that are treated otherwise
(`Output.unwraps_stripParens_iff`).
-/
import LineScript.Proofs.Output.Parentheses

namespace LineScript

namespace Output

/-- As many parentheses are closed as opened, and in no first part more of them. -/
structure Balanced (t : Text) : Prop where
  never : NeverOverclosed t
  total : t.count '(' = t.count ')'

/-- In no first part more parentheses are closed than opened, but some are not
closed at the end. -/
structure LeavesOpen (t : Text) : Prop where
  never : NeverOverclosed t
  more : t.count ')' < t.count '('

/-- What an argument comes to when one matching pair of parentheses around it is
taken off, and when there is none. -/
inductive Unwraps : Text → Text → Prop
  | pair {inner : Text} : Balanced inner → Unwraps (inParens inner) inner.trim
  | other {argument : Text} :
      (∀ inner, Balanced inner → argument ≠ inParens inner) → Unwraps argument argument

variable {t u argument : Text}

theorem balanced_iff : Balanced t ↔ NeverOverclosed t ∧ t.count '(' = t.count ')' :=
  ⟨fun h => ⟨h.never, h.total⟩, fun h => ⟨h.1, h.2⟩⟩

theorem leavesOpen_iff : LeavesOpen t ↔ NeverOverclosed t ∧ t.count ')' < t.count '(' :=
  ⟨fun h => ⟨h.never, h.more⟩, fun h => ⟨h.1, h.2⟩⟩

instance : DecidablePred Balanced :=
  fun _ => decidable_of_iff _ balanced_iff.symm

instance : DecidablePred LeavesOpen :=
  fun _ => decidable_of_iff _ leavesOpen_iff.symm

theorem LeavesOpen.not_balanced (h : LeavesOpen t) : ¬Balanced t :=
  fun hbalanced => absurd hbalanced.total (Nat.ne_of_gt h.more)

/-- The whole text is one of its first parts. -/
theorem NeverOverclosed.balanced_or_leavesOpen (h : NeverOverclosed t) :
    Balanced t ∨ LeavesOpen t := by
  rcases Nat.eq_or_lt_of_le (h t (List.prefix_refl t)) with htotal | hmore
  · exact .inl ⟨h, htotal.symm⟩
  · exact .inr ⟨h, hmore⟩

/-- The last parenthesis that is left open has balanced text behind it. -/
theorem exists_left_open (h : ∃ u, u <:+ t ∧ u.count ')' < u.count '(') :
    ∃ front inner, t = front ++ '(' :: inner ∧ Balanced inner := by
  induction t with
  | nil =>
    obtain ⟨u, hu, hmore⟩ := h
    rw [List.suffix_nil.1 hu] at hmore
    exact absurd hmore (Nat.lt_irrefl 0)
  | cons c t ih =>
    by_cases hlater : ∃ u, u <:+ t ∧ u.count ')' < u.count '('
    · obtain ⟨front, inner, rfl, hinner⟩ := ih hlater
      exact ⟨c :: front, inner, rfl, hinner⟩
    · simp only [not_exists, not_and, Nat.not_lt] at hlater
      obtain ⟨u, hu, hmore⟩ := h
      rcases List.suffix_cons_iff.1 hu with rfl | hu
      · have hall := hlater t List.suffix_rfl
        have hc : c = '(' := by
          by_contra hc
          rw [List.count_cons_of_ne hc] at hmore
          have hle := List.count_le_count_cons (a := ')') (b := c) (l := t)
          omega
        subst hc
        rw [List.count_cons_self, List.count_cons_of_ne (by decide)] at hmore
        refine ⟨[], t, rfl, fun p hp => ?_, by omega⟩
        -- What a first part closes too much, the part behind it would leave open.
        obtain ⟨q, rfl⟩ := hp
        have hback := hlater q (List.suffix_append p q)
        simp only [List.count_append] at hall hmore
        omega
      · exact absurd hmore (Nat.not_lt.2 (hlater u hu))

/-! ## Parentheses around a text -/

theorem inParens_inj : inParens t = inParens u ↔ t = u := by
  simp [inParens]

theorem forall_ne_inParens {P : Text → Prop} (h : ¬P t) :
    ∀ inner, P inner → inParens t ≠ inParens inner := by
  intro inner hinner heq
  rw [inParens_inj] at heq
  exact h (heq ▸ hinner)

/-- Trimming leaves less than the text, and parentheses make it longer. -/
theorem trim_ne_inParens (t : Text) : t.trim ≠ inParens t := by
  intro heq
  have hlength := Text.length_trim_le t
  rw [heq] at hlength
  simp only [inParens, List.length_append, List.length_cons, List.length_nil] at hlength
  omega

theorem stripParens_of_ne_inParens (h : ∀ inner, argument ≠ inParens inner) :
    stripParens argument = argument := by
  cases hbetween : argument.between? '(' ')' with
  | none => rw [stripParens, hbetween]
  | some inner => exact absurd (Text.between?_eq_some_iff.1 hbetween) (h inner)

/-! ## A pair or none -/

theorem Balanced.unwraps_iff (h : Balanced t) : Unwraps (inParens t) u ↔ u = t.trim := by
  constructor
  · intro hunwraps
    generalize hargument : inParens t = argument at hunwraps
    cases hunwraps with
    | pair => rw [inParens_inj.1 hargument]
    | other hother => exact absurd hargument.symm (hother t h)
  · rintro rfl
    exact .pair h

theorem unwraps_of_not_balanced (h : ¬Balanced t) : Unwraps (inParens t) u ↔ u = inParens t := by
  constructor
  · intro hunwraps
    generalize hargument : inParens t = argument at hunwraps
    cases hunwraps with
    | pair hbalanced => exact absurd (inParens_inj.1 hargument ▸ hbalanced) h
    | other => rfl
  · rintro rfl
    exact .other (forall_ne_inParens h)

theorem unwraps_stripParens_inParens (t : Text) :
    Unwraps (inParens t) (stripParens (inParens t)) ↔ ¬LeavesOpen t := by
  by_cases hnever : NeverOverclosed t
  · rw [stripParens_inParens hnever]
    rcases hnever.balanced_or_leavesOpen with hbalanced | hopen
    · rw [hbalanced.unwraps_iff]
      exact iff_of_true rfl fun hopen => hopen.not_balanced hbalanced
    · rw [unwraps_of_not_balanced hopen.not_balanced]
      exact iff_of_false (trim_ne_inParens t) (not_not_intro hopen)
  · rw [stripParens_inParens_of_overclosed hnever,
      unwraps_of_not_balanced fun hbalanced => hnever hbalanced.never]
    exact iff_of_true rfl fun hopen => hnever hopen.never

/-- **One matching pair of parentheses is taken off an argument, and nothing else,
if and only if what stands between its first and its last parenthesis leaves none
open.** Where it does leave one open, the two are taken off all the same, although
the last one closes another than the first: there is one inside with balanced text
behind it. -/
theorem unwraps_stripParens_iff (argument : Text) :
    (Unwraps argument (stripParens argument) ↔
        ∀ inner, LeavesOpen inner → argument ≠ inParens inner) ∧
      ∀ inner, LeavesOpen inner → stripParens (inParens inner) = inner.trim ∧
        ∃ front back, inner = front ++ '(' :: back ∧ Balanced back := by
  refine ⟨?_, fun inner hopen =>
    ⟨stripParens_inParens hopen.never, exists_left_open ⟨inner, List.suffix_rfl, hopen.more⟩⟩⟩
  by_cases hparens : ∃ inner, argument = inParens inner
  · obtain ⟨inner, rfl⟩ := hparens
    rw [unwraps_stripParens_inParens]
    exact ⟨forall_ne_inParens, fun h hopen => h inner hopen rfl⟩
  · have hne (inner : Text) : argument ≠ inParens inner := fun heq => hparens ⟨inner, heq⟩
    rw [stripParens_of_ne_inParens hne]
    exact iff_of_true (.other fun inner _ => hne inner) fun inner _ => hne inner

/-- A pair is taken off with the white space inside it, `(1) + (2)` is no pair, and
of `((a)` the parentheses at the ends are taken off, which are none either. -/
theorem unwraps_stripParens_ends :
    Unwraps "( f(x) )".toList (stripParens "( f(x) )".toList) ∧
      Unwraps "(1) + (2)".toList (stripParens "(1) + (2)".toList) ∧
      LeavesOpen "(a".toList ∧ stripParens (inParens "(a".toList) = "(a".toList :=
  ⟨(unwraps_stripParens_iff (inParens " f(x) ".toList)).1.2 (forall_ne_inParens (by decide)),
    (unwraps_stripParens_iff (inParens "1) + (2".toList)).1.2 (forall_ne_inParens (by decide)),
    by decide, ((unwraps_stripParens_iff []).2 _ (by decide)).1⟩

/-- `(1 + (2)` is not wrapped in a pair, and it is written without its first
parenthesis and its last; the rest of it is arithmetic with them and without. -/
theorem stripParens_unpaired :
    let argument : Text := "(1 + (2)".toList
    argument.trim = argument ∧ (∀ inner, Balanced inner → argument ≠ inParens inner) ∧
      stripParens argument = "1 + (2".toList ∧ stripParens argument ≠ argument ∧
      renderBare .empty argument = .ok argument ∧
      render .empty argument = .ok "1 + (2".toList := by
  intro argument
  have hpair : ∀ inner, Balanced inner → argument ≠ inParens inner :=
    forall_ne_inParens (t := "1 + (2".toList) (by decide)
  exact ⟨by decide, hpair, by decide, by decide, by decide +kernel, by decide +kernel⟩

end Output

end LineScript
