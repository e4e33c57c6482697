/-
Lines as brackets. A line that opens a block is read as an opening bracket, a
line that closes one as a closing bracket, and every other line is passed over.

Lines are balanced when they open as many blocks as they close and no first part
of them closes more than it opens (`Balanced`); an opening line is matched when
what follows it starts with balanced lines and a closing one (`Matched`). The
blocks that lines leave open are the opening lines that nothing matches, with
balanced lines between them (`LeavesOpen`): what a stack of blocks holds, told
from the lines alone.
-/
import LineScript.Construct.Basic
import LineScript.Session.Run
import Mathlib.Data.List.Infix

namespace LineScript

/-- The kind of the block that a line opens. -/
def Line.opens? (line : Line) : Option BlockKind :=
  (Construct.ofLine? line.text).bind Construct.opens?

/-- Whether a line closes a block. -/
def Line.closes (line : Line) : Bool :=
  Construct.ofLine? line.text = some .closeBrace

/-- A line does not do both. -/
theorem Line.opens?_of_closes {line : Line} (h : line.closes = true) : line.opens? = none := by
  have hc : Construct.ofLine? line.text = some .closeBrace := by simpa [closes] using h
  rw [opens?, hc]
  rfl

theorem Line.closes_of_opens {line : Line} {kind : BlockKind} (h : line.opens? = some kind) :
    line.closes = false := by
  cases hc : line.closes with
  | false => rfl
  | true =>
    rw [opens?_of_closes hc] at h
    cases h

namespace Brackets

/-- How many blocks some lines open. -/
def openings (lines : List Line) : Nat :=
  lines.countP fun line => line.opens?.isSome

/-- How many blocks of a kind some lines open. -/
def openingsOf (kind : BlockKind) (lines : List Line) : Nat :=
  lines.countP fun line => line.opens? = some kind

/-- How many blocks some lines close. -/
def closings (lines : List Line) : Nat :=
  lines.countP Line.closes

/-- More blocks are closed than opened. -/
def Overclosed (lines : List Line) : Prop :=
  openings lines < closings lines

/-- No first part of the lines closes more blocks than it opens. -/
def NeverOverclosed (lines : List Line) : Prop :=
  ∀ before, before <+: lines → ¬ Overclosed before

/-- The line is the first one that closes more than is open. -/
def OverclosedAt (lines : List Line) (line : Line) : Prop :=
  ∃ before after, lines = before ++ line :: after ∧ NeverOverclosed before ∧
    Overclosed (before ++ [line])

/-- As many blocks are closed as opened, and nowhere on the way more of them. -/
structure Balanced (lines : List Line) : Prop where
  total : openings lines = closings lines
  never : NeverOverclosed lines

/-- A block that is opened in front of some lines is closed by one of them. -/
def Matched (lines : List Line) : Prop :=
  ∃ inner line rest, lines = inner ++ line :: rest ∧ line.closes = true ∧ Balanced inner

variable {lines lines' before after : List Line} {line : Line} {kind : BlockKind}

/-! ## Counting -/

@[simp] theorem openings_append (lines lines' : List Line) :
    openings (lines ++ lines') = openings lines + openings lines' :=
  List.countP_append

@[simp] theorem openingsOf_append (kind : BlockKind) (lines lines' : List Line) :
    openingsOf kind (lines ++ lines') = openingsOf kind lines + openingsOf kind lines' :=
  List.countP_append

@[simp] theorem closings_append (lines lines' : List Line) :
    closings (lines ++ lines') = closings lines + closings lines' :=
  List.countP_append

@[simp] theorem openings_nil : openings [] = 0 :=
  rfl

@[simp] theorem openingsOf_nil (kind : BlockKind) : openingsOf kind [] = 0 :=
  rfl

@[simp] theorem closings_nil : closings [] = 0 :=
  rfl

@[simp] theorem openings_cons (line : Line) (lines : List Line) :
    openings (line :: lines) = openings lines + if line.opens?.isSome then 1 else 0 :=
  List.countP_cons

@[simp] theorem openingsOf_cons (kind : BlockKind) (line : Line) (lines : List Line) :
    openingsOf kind (line :: lines) =
      openingsOf kind lines + if line.opens? = some kind then 1 else 0 := by
  simp [openingsOf, List.countP_cons]

@[simp] theorem closings_cons (line : Line) (lines : List Line) :
    closings (line :: lines) = closings lines + if line.closes then 1 else 0 :=
  List.countP_cons

/-! ## Lines that never close too much -/

theorem NeverOverclosed.nil : NeverOverclosed [] := by
  intro before hbefore
  rw [List.prefix_nil.1 hbefore]
  exact Nat.lt_irrefl 0

theorem NeverOverclosed.closings_le (h : NeverOverclosed lines) :
    closings lines ≤ openings lines :=
  Nat.le_of_not_lt (h lines List.prefix_rfl)

theorem NeverOverclosed.append (h : NeverOverclosed lines) (h' : NeverOverclosed lines') :
    NeverOverclosed (lines ++ lines') := by
  intro before hbefore
  have htotal := h.closings_le
  rcases List.prefix_or_prefix_of_prefix hbefore (List.prefix_append lines lines') with
    hbefore | ⟨rest, rfl⟩
  · exact h before hbefore
  · have hrest := h' rest ((List.prefix_append_right_inj lines).1 hbefore)
    simp only [Overclosed, openings_append, closings_append] at hrest ⊢
    omega

/-- One more line, which closes nothing or something that is open. -/
theorem NeverOverclosed.concat (h : NeverOverclosed lines)
    (hline : ¬ Overclosed (lines ++ [line])) : NeverOverclosed (lines ++ [line]) := by
  intro before hbefore
  rcases List.prefix_concat_iff.1 hbefore with rfl | hbefore
  · exact hline
  · exact h before hbefore

theorem NeverOverclosed.singleton (h : ¬ Overclosed [line]) : NeverOverclosed [line] :=
  show NeverOverclosed ([] ++ [line]) from NeverOverclosed.nil.concat h

theorem NeverOverclosed.opening (h : line.opens? = some kind) : NeverOverclosed [line] :=
  .singleton (by simp [Overclosed, Line.closes_of_opens h])

/-! ## Balanced lines -/

theorem Balanced.nil : Balanced [] :=
  ⟨rfl, .nil⟩

theorem Balanced.append (h : Balanced lines) (h' : Balanced lines') :
    Balanced (lines ++ lines') where
  total := by rw [openings_append, closings_append, h.total, h'.total]
  never := h.never.append h'.never

/-- A line that neither opens nor closes a block. -/
theorem Balanced.other (hopens : line.opens? = none) (hcloses : line.closes = false) :
    Balanced [line] where
  total := by simp [hopens, hcloses]
  never := .singleton (by simp [Overclosed, hcloses])

theorem Balanced.enclose {close : Line} (h : Balanced after) (hopens : line.opens? = some kind)
    (hcloses : close.closes = true) : Balanced (line :: after ++ [close]) := by
  have htotal : openings (line :: after ++ [close]) = closings (line :: after ++ [close]) := by
    simpa [hopens, hcloses, Line.opens?_of_closes hcloses, Line.closes_of_opens hopens] using
      h.total
  have hinner : NeverOverclosed ([line] ++ after) := (NeverOverclosed.opening hopens).append h.never
  refine ⟨htotal, hinner.concat ?_⟩
  rw [Overclosed]
  exact htotal.not_lt

/-! ## Closing too much -/

/-- In front of the first line that closes too much, nothing is open. -/
theorem overclosedAt_iff : OverclosedAt lines line ↔
    line.closes = true ∧ ∃ before after, lines = before ++ line :: after ∧ Balanced before := by
  constructor
  · rintro ⟨before, after, rfl, hnever, hover⟩
    have hle := hnever.closings_le
    cases hcloses : line.closes with
    | false =>
      simp [Overclosed, hcloses] at hover
      omega
    | true =>
      simp [Overclosed, hcloses, Line.opens?_of_closes hcloses] at hover
      exact ⟨rfl, before, after, rfl, by omega, hnever⟩
  · rintro ⟨hcloses, before, after, rfl, hbefore⟩
    have htotal := hbefore.total
    refine ⟨before, after, rfl, hbefore.never, ?_⟩
    simp [Overclosed, hcloses, Line.opens?_of_closes hcloses]
    omega

/-- There is a first line that closes too much as soon as any first part does. -/
theorem exists_overclosedAt_iff : (∃ line, OverclosedAt lines line) ↔ ¬ NeverOverclosed lines := by
  constructor
  · rintro ⟨line, before, after, rfl, -, hover⟩ hnever
    exact hnever (before ++ [line]) ⟨after, by simp⟩ hover
  · intro h
    induction lines using List.reverseRecOn with
    | nil => exact absurd .nil h
    | append_singleton lines last ih =>
      by_cases hlines : NeverOverclosed lines
      · refine ⟨last, lines, [], rfl, hlines, ?_⟩
        by_contra hlast
        exact h (hlines.concat hlast)
      · obtain ⟨line, before, after, rfl, hfirst⟩ := ih hlines
        exact ⟨line, before, after ++ [last], by simp, hfirst⟩

theorem NeverOverclosed.not_overclosedAt (h : NeverOverclosed lines) (line : Line) :
    ¬ OverclosedAt lines line :=
  fun hline => exists_overclosedAt_iff.1 ⟨line, hline⟩ h

theorem OverclosedAt.unique {line' : Line} (h : OverclosedAt lines line)
    (h' : OverclosedAt lines line') : line = line' := by
  obtain ⟨before, after, rfl, hnever, hover⟩ := h
  obtain ⟨before', after', heq, hnever', hover'⟩ := h'
  rcases List.append_eq_append_iff.1 heq with ⟨between, rfl, hrest⟩ | ⟨between, rfl, hrest⟩
  · cases between with
    | nil => exact (List.cons.inj hrest).1
    | cons first between =>
      obtain rfl := (List.cons.inj hrest).1
      exact absurd hover (hnever' _ ⟨between, by simp⟩)
  · cases between with
    | nil => exact (List.cons.inj hrest).1.symm
    | cons first between =>
      obtain rfl := (List.cons.inj hrest).1
      exact absurd hover' (hnever _ ⟨between, by simp⟩)

theorem OverclosedAt.append (h : OverclosedAt lines line) (rest : List Line) :
    OverclosedAt (lines ++ rest) line := by
  obtain ⟨before, after, rfl, hfirst⟩ := h
  exact ⟨before, after ++ rest, by simp, hfirst⟩

/-! ## Matching -/

/-- Lines match an opening line in front of them exactly if they close too much
by themselves. -/
theorem matched_iff : Matched lines ↔ ¬ NeverOverclosed lines := by
  rw [← exists_overclosedAt_iff]
  simp only [overclosedAt_iff, Matched]
  constructor
  · rintro ⟨inner, line, rest, heq, hcloses, hinner⟩
    exact ⟨line, hcloses, inner, rest, heq, hinner⟩
  · rintro ⟨line, hcloses, inner, rest, heq, hinner⟩
    exact ⟨inner, line, rest, heq, hcloses, hinner⟩

/-- In balanced lines every opening line is matched. -/
theorem Balanced.matched (h : Balanced (before ++ line :: after))
    (hopens : line.opens? = some kind) : Matched after := by
  refine matched_iff.2 fun hafter => ?_
  have htotal := h.total
  have hbefore := Nat.le_of_not_lt (h.never before (List.prefix_append _ _))
  have hle := hafter.closings_le
  simp [hopens, Line.closes_of_opens hopens] at htotal
  omega

/-! ## Blocks that stay open -/

/-- The blocks that are open behind some lines, the innermost first: the opening
lines that are not matched, each under the number of lines before it that open a
block of its kind. -/
inductive LeavesOpen : List Line → List OpenBlock → Prop
  | nothing {lines : List Line} (h : Balanced lines) : LeavesOpen lines []
  | block {before after : List Line} {line : Line} {kind : BlockKind} {outer : List OpenBlock}
      (h : LeavesOpen before outer) (hopens : line.opens? = some kind) (hafter : Balanced after) :
      LeavesOpen (before ++ line :: after) (⟨⟨kind, openingsOf kind before⟩, line.number⟩ :: outer)

namespace LeavesOpen

variable {blocks : List OpenBlock} {block : OpenBlock} {outer : List OpenBlock}

theorem append (h : LeavesOpen lines blocks) (h' : Balanced lines') :
    LeavesOpen (lines ++ lines') blocks := by
  cases h with
  | nothing h => exact .nothing (h.append h')
  | block h hopens hafter =>
    rw [List.append_assoc, List.cons_append]
    exact .block h hopens (hafter.append h')

theorem concat_opening (h : LeavesOpen lines blocks) (hopens : line.opens? = some kind) :
    LeavesOpen (lines ++ [line]) (⟨⟨kind, openingsOf kind lines⟩, line.number⟩ :: blocks) :=
  .block h hopens .nil

theorem concat_closing (h : LeavesOpen lines (block :: outer)) (hcloses : line.closes = true) :
    LeavesOpen (lines ++ [line]) outer := by
  cases h with
  | block h hopens hafter =>
    rw [List.append_assoc]
    exact h.append (hafter.enclose hopens hcloses)

theorem neverOverclosed (h : LeavesOpen lines blocks) : NeverOverclosed lines := by
  induction h with
  | nothing h => exact h.never
  | block _ hopens hafter ih =>
    exact ih.append ((NeverOverclosed.opening hopens).append hafter.never)

theorem balanced (h : LeavesOpen lines []) : Balanced lines := by
  cases h with
  | nothing h => exact h

/-- The innermost open block is that of the last opening line that is not
matched. -/
theorem last_unmatched (h : LeavesOpen lines (block :: outer)) :
    ∃ before line after kind, lines = before ++ line :: after ∧ line.opens? = some kind ∧
      ¬ Matched after ∧
      (∀ inner other rest, after = inner ++ other :: rest → other.opens?.isSome → Matched rest) ∧
      block = ⟨⟨kind, openingsOf kind before⟩, line.number⟩ := by
  cases h with
  | @block before after line kind _ h hopens hafter =>
    refine ⟨before, line, after, kind, rfl, hopens, fun hmatched => ?_, ?_, rfl⟩
    · exact matched_iff.1 hmatched hafter.never
    · rintro inner other rest rfl hother
      obtain ⟨kind', hkind'⟩ := Option.isSome_iff_exists.1 hother
      exact hafter.matched hkind'

theorem not_balanced (h : LeavesOpen lines (block :: outer)) : ¬ Balanced lines := by
  obtain ⟨before, line, after, kind, rfl, hopens, hunmatched, -⟩ := h.last_unmatched
  exact fun hlines => hunmatched (hlines.matched hopens)

end LeavesOpen

end Brackets

end LineScript
