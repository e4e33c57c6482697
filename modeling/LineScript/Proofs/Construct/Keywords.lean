/-
Lines that start with a keyword. The keyword does not end the first word: what
stands behind it up to the next white space belongs to the same word, and the
keywords that are tried before it are looked for there as well. A line is a line
of its own keyword exactly where none of them is found
(`Construct.ofLine?_keyword_iff`); so `else {puts 1}` is an `else` line and
`else{puts 1}` is a `puts` line.

What follows the keyword decides nothing else: keywords are spelled with letters,
so that none begins in one word and ends in text behind it that starts otherwise.
-/
import LineScript.Proofs.Construct.Ends
import LineScript.Proofs.Construct.FirstWord

namespace LineScript

/-- The letters that keywords are spelled with. A character that is no letter at
all is none of them. -/
def isKeywordLetter (c : Char) : Bool :=
  'a' ≤ c && c ≤ 'z'

namespace Construct

/-- The constructs whose keywords are tried before that of another. -/
def triedBefore (c : Construct) : List Construct :=
  byPriority.takeWhile fun d => d ≠ c

/-- A word that holds a keyword is of that construct or of one that is tried
before it. -/
theorem ofWord?_of_contains {c : Construct} {w : Text} (h : Text.contains c.keyword w = true) :
    ofWord? w = some ((c.triedBefore.find? fun d => Text.contains d.keyword w).getD c) := by
  have hlist : ∃ rest, byPriority = c.triedBefore ++ c :: rest := by
    cases hrest : byPriority.dropWhile (fun d => d ≠ c) with
    | nil => exact absurd (List.dropWhile_eq_nil_iff.1 hrest c (mem_byPriority c)) (by simp)
    | cons d rest =>
      have hd := List.head?_dropWhile_not (fun d => decide (d ≠ c)) byPriority
      rw [hrest] at hd
      obtain rfl : d = c := by simpa using hd
      refine ⟨rest, ?_⟩
      rw [triedBefore, ← hrest, List.takeWhile_append_dropWhile]
  obtain ⟨rest, hlist⟩ := hlist
  have hfirst : (c :: rest).find? (fun d => Text.contains d.keyword w) = some c :=
    List.find?_cons_of_pos h
  rw [ofWord?, hlist, List.find?_append, hfirst]
  cases c.triedBefore.find? fun d => Text.contains d.keyword w <;> rfl

/-- What is tried before a keyword is spelled with letters and does not occur in
the keyword. -/
theorem keyword_of_mem_triedBefore {c d : Construct} (hc : c ≠ .closeBrace)
    (hd : d ∈ c.triedBefore) :
    (∀ x ∈ d.keyword, isKeywordLetter x = true) ∧ Text.contains d.keyword c.keyword = false := by
  have hall : ∀ c ∈ byPriority, c ≠ .closeBrace → ∀ d ∈ c.triedBefore,
      d.keyword.all isKeywordLetter = true ∧ Text.contains d.keyword c.keyword = false := by
    decide
  obtain ⟨hletters, hcontains⟩ := hall c (mem_byPriority c) hc d hd
  exact ⟨List.all_eq_true.1 hletters, hcontains⟩

theorem contains_keyword_append {c d : Construct} (hc : c ≠ .closeBrace)
    (hd : d ∈ c.triedBefore) {t : Text} (ht : ∀ x ∈ t.head?, isKeywordLetter x = false) :
    Text.contains d.keyword (c.keyword ++ t) = Text.contains d.keyword t := by
  obtain ⟨hletters, hcontains⟩ := keyword_of_mem_triedBefore hc hd
  have hapart : ∀ x ∈ t.head?, x ∉ d.keyword := by
    intro x hx hmem
    have hletter := hletters x hmem
    rw [ht x hx] at hletter
    cases hletter
  rw [Text.contains_append_of_apart d.isWord_keyword.ne_nil hapart, hcontains, Bool.false_or]

theorem ofLine?_keyword_append {c : Construct} (hc : c ≠ .closeBrace) {gap : Text}
    (hgap : ∀ b ∈ gap, isBlank b = true) {r : Text}
    (hr : ∀ x ∈ r.head?, isKeywordLetter x = false) :
    ofLine? (gap ++ (c.keyword ++ r)) =
      some ((c.triedBefore.find? fun d => Text.contains d.keyword r.glued).getD c) := by
  have hglued : ∀ x ∈ r.glued.head?, isKeywordLetter x = false := by
    intro x hx
    rw [Text.glued, List.head?_takeWhile] at hx
    exact hr x ((Option.mem_filter_iff.1 hx).1)
  have hword : Text.firstWord? (c.keyword ++ r) = some (c.keyword ++ r.glued) :=
    c.isWord_keyword.firstWord?_glued r
  have hcontains : Text.contains c.keyword (c.keyword ++ r.glued) = true :=
    Text.contains_append [] c.keyword r.glued
  have hfind : (c.triedBefore.find? fun d => Text.contains d.keyword (c.keyword ++ r.glued)) =
      c.triedBefore.find? fun d => Text.contains d.keyword r.glued :=
    List.find?_congr fun d hd => contains_keyword_append hc hd hglued
  rw [ignoresEnds_ofLine?.blanks_append hgap, ofLine?, hword]
  show ofWord? (c.keyword ++ r.glued) = _
  rw [ofWord?_of_contains hcontains, hfind]

/-- **A line that starts with a keyword is that keyword's line exactly where no
keyword that is tried before it is glued to it.** White space may stand in front,
and what follows the keyword is nothing or does not go on with a letter. If
keywords that are tried before it are glued to it, the line is a line of the one
that is tried first. -/
theorem ofLine?_keyword_iff {c : Construct} (hc : c ≠ .closeBrace) {gap : Text}
    (hgap : ∀ b ∈ gap, isBlank b = true) {r : Text}
    (hr : ∀ x ∈ r.head?, isKeywordLetter x = false) :
    ofLine? (gap ++ (c.keyword ++ r)) =
        some ((c.triedBefore.find? fun d => Text.contains d.keyword r.glued).getD c) ∧
      (ofLine? (gap ++ (c.keyword ++ r)) = some c ↔
        ∀ d ∈ c.triedBefore, Text.contains d.keyword r.glued = false) := by
  have hline := ofLine?_keyword_append hc hgap hr
  refine ⟨hline, ?_⟩
  rw [hline]
  cases hfind : c.triedBefore.find? fun d => Text.contains d.keyword r.glued with
  | none =>
    have hnone := List.find?_eq_none.1 hfind
    exact ⟨fun _ d hd => by simpa using hnone d hd, fun _ => rfl⟩
  | some d =>
    have hmem := List.mem_of_find?_eq_some hfind
    have hne : d ≠ c := by simpa using List.mem_takeWhile_imp hmem
    have hcontains : Text.contains d.keyword r.glued = true := by simpa using List.find?_some hfind
    constructor
    · intro h
      exact absurd (Option.some.inj h) hne
    · intro h
      rw [h d hmem] at hcontains
      cases hcontains

/-- A condition is glued to `if`, and a keyword stands behind the white space. -/
theorem ofLine?_keyword_if :
    let gap : Text := ['\t', ' ']
    let r : Text := "(x) {print x}".toList
    (∀ b ∈ gap, isBlank b = true) ∧ (∀ x ∈ r.head?, isKeywordLetter x = false) ∧
      ofLine? (gap ++ ((block .ifBlock).keyword ++ r)) = some (block .ifBlock) := by
  intro gap r
  have hgap : ∀ b ∈ gap, isBlank b = true := List.all_eq_true.1 (by decide)
  have hr : ∀ x ∈ r.head?, isKeywordLetter x = false := by
    rintro x ⟨⟩
    decide
  have hglued : ∀ d ∈ triedBefore (block .ifBlock), Text.contains d.keyword r.glued = false := by
    decide
  exact ⟨hgap, hr, (ofLine?_keyword_iff (by decide) hgap hr).2.2 hglued⟩

/-- A body that is glued to `else` makes its line a `puts` line. So do a body that
is glued to the condition of an `if`, and even a text that is printed, with what
they hold. -/
theorem ofLine?_keyword_glued :
    let body : Text := "{puts 1}".toList
    (∀ x ∈ body.head?, isKeywordLetter x = false) ∧
      ofLine? ((block .elseBlock).keyword ++ body) = some puts ∧
      ofLine? ((block .elseBlock).keyword ++ body) ≠ some (block .elseBlock) ∧
      ofLine? ((block .ifBlock).keyword ++ "(x){print x}".toList) = some print ∧
      ofLine? (puts.keyword ++ "(\"let me in\")".toList) = some binding := by
  intro body
  have hbody : ∀ x ∈ body.head?, isKeywordLetter x = false := by
    rintro x ⟨⟩
    decide
  exact ⟨hbody, by decide⟩

end Construct

end LineScript
