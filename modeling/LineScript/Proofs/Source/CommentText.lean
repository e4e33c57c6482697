/-
Whether it matters what a comment says. Where no quote stands in front of the
comment, or none in it, the comment is cut off, whatever it says. Else the first
and the last quote of the line enclose the `#`, and the line is kept whole, its
comment with it (`Source.lines_comment_iff`).
-/
import LineScript.Proofs.Source.Counting

namespace LineScript

namespace Source

open Text

variable {code comment comment' : Text}

/-- What is left of code with a comment behind it. -/
def commented (code comment : Text) : Text :=
  remaining (code ++ '#' :: comment.rdropWhile (· = '\r'))

theorem quote_mem_comment : '"' ∈ comment.rdropWhile (· = '\r') ↔ '"' ∈ comment :=
  mem_rdropWhile_iff (by decide)

theorem commented_plain (hmark : '#' ∉ code) (h : ¬('"' ∈ code ∧ '"' ∈ comment)) :
    commented code comment = (trimEnd code).dropWhile (· = ' ') := by
  rw [commented, remaining_mark hmark,
    if_neg fun hquotes => h ⟨hquotes.1, quote_mem_comment.1 hquotes.2⟩]

theorem commented_quoted (hmark : '#' ∉ code) (hcode : '"' ∈ code) (hcomment : '"' ∈ comment) :
    commented code comment =
      code.dropWhile (· = ' ') ++ '#' :: comment.rdropWhile (· = '\r') := by
  rw [commented, remaining_mark hmark, if_pos ⟨hcode, quote_mem_comment.2 hcomment⟩,
    dropWhile_append_cons (by decide)]

/-- A comment that is cut off and one that is kept are told apart by the `#`. -/
theorem commented_ne (hmark : '#' ∉ code) (hcode : '"' ∈ code) (hcomment : '"' ∈ comment)
    (hcomment' : '"' ∉ comment') : commented code comment ≠ commented code comment' := by
  rw [commented_quoted hmark hcode hcomment, commented_plain hmark fun h => hcomment' h.2]
  intro heq
  have hkept : '#' ∈ (trimEnd code).dropWhile (· = ' ') := by simp [← heq]
  rw [mem_dropWhile_iff (by decide)] at hkept
  exact hmark ((mem_rdropWhile_iff (p := isBlank) (by decide)).1 hkept)

theorem commented_eq_iff (hmark : '#' ∉ code) :
    commented code comment = commented code comment' ↔
      '"' ∉ code ∨ ('"' ∉ comment ∧ '"' ∉ comment') ∨
        comment.rdropWhile (· = '\r') = comment'.rdropWhile (· = '\r') := by
  by_cases hcode : '"' ∈ code
  · have hsame (heq : comment.rdropWhile (· = '\r') = comment'.rdropWhile (· = '\r')) :
        '"' ∈ comment ↔ '"' ∈ comment' := by
      rw [← quote_mem_comment, heq, quote_mem_comment]
    by_cases hcomment : '"' ∈ comment <;> by_cases hcomment' : '"' ∈ comment'
    · rw [commented_quoted hmark hcode hcomment, commented_quoted hmark hcode hcomment']
      simp [hcode, hcomment]
    · have hne := commented_ne hmark hcode hcomment hcomment'
      have hends := mt hsame (by simp [hcomment, hcomment'])
      simp [hcode, hcomment, hne, hends]
    · have hne := (commented_ne hmark hcode hcomment' hcomment).symm
      have hends := mt hsame (by simp [hcomment, hcomment'])
      simp [hcode, hcomment', hne, hends]
    · rw [commented_plain hmark fun h => hcomment h.2, commented_plain hmark fun h => hcomment' h.2]
      simp [hcomment, hcomment']
  · rw [commented_plain hmark fun h => hcode h.1, commented_plain hmark fun h => hcode h.1]
    simp [hcode]

/-! ## A source of one line -/

theorem numbered_singleton_inj {n : Nat} {text text' : Text} :
    numbered n [text] = numbered n [text'] ↔ text = text' := by
  cases text <;> cases text' <;> simp [numbered]

theorem lines_comment (hmark : '#' ∉ code) (hline : '\n' ∉ code)
    (heven : code.count '"' % 2 = 0) (hcomment : '\n' ∉ comment) :
    lines (code ++ '#' :: comment) = .ok (numbered 1 [commented code comment]) := by
  have hone : '\n' ∉ code ++ '#' :: comment := by simp [hline, hcomment]
  have hopen : ¬LeftOpen (code ++ '#' :: comment.rdropWhile (· = '\r')) := by
    rw [leftOpen_mark hmark]
    omega
  refine lines_of_not_mem hone ?_
  rw [rdropWhile_append_cons (by decide), logicalText?_eq, if_neg hopen, commented]

/-- **When it does not matter what a comment says**, behind code with an even
number of quotes: if the code has no quotes at all, or neither comment has any,
or the comments differ in nothing but carriage returns at their ends. -/
theorem lines_comment_iff (hmark : '#' ∉ code) (hline : '\n' ∉ code)
    (heven : code.count '"' % 2 = 0) (hcomment : '\n' ∉ comment) (hcomment' : '\n' ∉ comment') :
    lines (code ++ '#' :: comment) = lines (code ++ '#' :: comment') ↔
      '"' ∉ code ∨ ('"' ∉ comment ∧ '"' ∉ comment') ∨
        comment.rdropWhile (· = '\r') = comment'.rdropWhile (· = '\r') := by
  rw [lines_comment hmark hline heven hcomment, lines_comment hmark hline heven hcomment',
    Except.ok.injEq, numbered_singleton_inj, commented_eq_iff hmark]

/-- Behind a text in quotes, two comments without quotes. -/
theorem lines_comment_unquoted :
    let code := "puts \"a\" ".toList
    '#' ∉ code ∧ '\n' ∉ code ∧ code.count '"' % 2 = 0 ∧
      lines (code ++ '#' :: ['x']) = lines (code ++ '#' :: ['y', '\t']) := by
  intro code
  have hmark : '#' ∉ code := by decide
  have hline : '\n' ∉ code := by decide
  have heven : code.count '"' % 2 = 0 := by decide
  refine ⟨hmark, hline, heven, ?_⟩
  exact (lines_comment_iff hmark hline heven (by decide) (by decide)).2 (.inr (.inl (by decide)))

/-- One quote in a comment is enough to keep it, behind a text in quotes. -/
theorem lines_comment_kept :
    let code : Text := ['"', '"']
    let comment : Text := ['"']
    ('#' ∉ code ∧ '\n' ∉ code ∧ code.count '"' % 2 = 0 ∧ '\n' ∉ comment) ∧
      lines (code ++ '#' :: []) = .ok [⟨1, code⟩] ∧
      lines (code ++ '#' :: comment) = .ok [⟨1, code ++ '#' :: comment⟩] ∧
      lines (code ++ '#' :: comment) ≠ lines (code ++ '#' :: []) := by
  decide +kernel

end Source

end LineScript
