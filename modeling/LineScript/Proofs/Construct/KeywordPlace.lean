/-
Where the keyword of a line stands. The construct is told from the first word of
the line alone, and the argument is cut off the whole line, at the first place
where the keyword occurs. Both mean the same place: a keyword holds no white space,
so that it occurs neither in the white space in front of the first word nor across
its end (`Construct.KeywordPlace.IsFirst.cut?_line`).

So what the argument is depends on nothing but what stands behind that place, and
what stands behind it does not move the place, whatever keywords it holds
(`Construct.argument_in_first_word`).
-/
import LineScript.Proofs.Construct.Keywords

namespace LineScript

namespace Construct

open Text

/-- A line with the keyword of `c` in its first word, in parts: the white space in
front of the word, the word in front of the keyword and behind it, and what follows
the word. -/
structure KeywordPlace (c : Construct) where
  gap : Text
  before : Text
  after : Text
  rest : Text
  blank_gap : ∀ b ∈ gap, isBlank b = true
  isWord : (before ++ c.keyword ++ after).IsWord
  blank_rest : ∀ b ∈ rest.head?, isBlank b = true

namespace KeywordPlace

variable {c : Construct} (p : KeywordPlace c)

def word : Text :=
  p.before ++ c.keyword ++ p.after

def line : Text :=
  p.gap ++ (p.word ++ p.rest)

theorem firstWord?_line : p.line.firstWord? = some p.word :=
  p.isWord.firstWord?_between p.blank_gap p.blank_rest

theorem construct_line : ofLine? p.line = ofWord? p.word := by
  rw [ofLine?, p.firstWord?_line]
  rfl

/-- The keyword occurs in the word for the first time. -/
def IsFirst : Prop :=
  cut? c.keyword p.word = some (p.before, p.after)

variable {p} {q : KeywordPlace c}

/-- What stands behind the keyword has no part in that. -/
theorem IsFirst.of_before (h : p.IsFirst) (hbefore : q.before = p.before) : q.IsFirst := by
  rw [IsFirst, word, hbefore]
  exact cut?_of_cut?_append h q.after

/-- What occurs first in the first word occurs first in the line. -/
theorem IsFirst.cut?_line (h : p.IsFirst) :
    cut? c.keyword p.line = some (p.gap ++ p.before, p.after ++ p.rest) := by
  rw [line, cut?_blanks_append c.isWord_keyword p.blank_gap, cut?_append_right h]
  rfl

theorem IsFirst.argument_line (h : p.IsFirst) :
    c.argument p.line = (p.after ++ p.rest).trim := by
  rw [argument, h.cut?_line]

end KeywordPlace

variable {c : Construct} {line : Text}

theorem exists_keywordPlace (h : ofLine? line = some c) :
    ∃ p : KeywordPlace c, p.line = line ∧ p.IsFirst ∧
      ∀ d ∈ c.triedBefore, Text.contains d.keyword p.word = false := by
  obtain ⟨w, hw, hc⟩ := Option.bind_eq_some_iff.1 h
  obtain ⟨hword, gap, rest, rfl, hgap, hrest⟩ := exists_of_firstWord? hw
  obtain ⟨hcontains, hbefore⟩ := (find?_eq_some_iff_takeWhile (mem_byPriority c)).1 hc
  obtain ⟨⟨before, after⟩, hcut⟩ := Option.isSome_iff_exists.1 hcontains
  obtain rfl := eq_of_cut? hcut
  exact ⟨⟨gap, before, after, rest, hgap, hword, hrest⟩, rfl, hcut, hbefore⟩

/-- **The keyword that tells what a line does is the one that its argument stands
behind.** It stands in the first word, which holds no keyword that is tried before
it, and it occurs nowhere earlier in the line. The argument is what follows it, in
that word and behind the word, without the white space at the ends; this is so
whatever follows it, and whatever white space is in front of the word. White space
at the ends of the line makes no difference to the argument. -/
theorem argument_in_first_word (h : ofLine? line = some c) :
    (∃ p : KeywordPlace c, p.line = line ∧ line.firstWord? = some p.word ∧
      (∀ d ∈ c.triedBefore, ¬d.keyword <:+: p.word) ∧
      (∀ u v, line = u ++ c.keyword ++ v → (p.gap ++ p.before).length ≤ u.length) ∧
      c.argument line = (p.after ++ p.rest).trim ∧
      ∀ q : KeywordPlace c, q.before = p.before →
        c.argument q.line = (q.after ++ q.rest).trim ∧
          (q.after = p.after → ofLine? q.line = some c)) ∧
    ∀ front back : Text, (∀ b ∈ front, isBlank b = true) → (∀ b ∈ back, isBlank b = true) →
      ofLine? (front ++ line ++ back) = some c ∧
        c.argument (front ++ line ++ back) = c.argument line := by
  constructor
  · obtain ⟨p, rfl, hfirst, hearlier⟩ := exists_keywordPlace h
    refine ⟨p, rfl, p.firstWord?_line, fun d hd hinfix => ?_,
      fun u v heq => length_le_of_cut? hfirst.cut?_line heq, hfirst.argument_line,
      fun q hbefore => ⟨(hfirst.of_before hbefore).argument_line, fun hafter => ?_⟩⟩
    · rw [← contains_iff_infix, hearlier d hd] at hinfix
      cases hinfix
    · have hword : q.word = p.word := by
        rw [KeywordPlace.word, hbefore, hafter, KeywordPlace.word]
      rw [q.construct_line, hword, ← p.construct_line, h]
  · intro front back hfront hback
    constructor
    · rw [ignoresEnds_ofLine?.append_blanks hback, ignoresEnds_ofLine?.blanks_append hfront, h]
    · rw [c.ignoresEnds_argument.append_blanks hback, c.ignoresEnds_argument.blanks_append hfront]

/-- The first `puts` is in the middle of a word. Those that follow it, in the same
word, in the quotes and behind them, do not matter, nor does the brace. -/
theorem argument_in_first_word_puts :
    let line : Text := " xputs(puts,\"puts \x7b\" puts ".toList
    ofLine? line = some puts ∧
      (∃ p : KeywordPlace puts, p.line = line ∧ puts.argument line = (p.after ++ p.rest).trim) ∧
      puts.argument ("\t".toList ++ line ++ "\n".toList) = puts.argument line ∧
      puts.argument line = "(puts,\"puts \x7b\" puts".toList := by
  intro line
  have hline : ofLine? line = some puts := by decide
  obtain ⟨⟨p, hp, -, -, -, hargument, -⟩, hends⟩ := argument_in_first_word hline
  have hfront : ∀ b ∈ "\t".toList, isBlank b = true := List.all_eq_true.1 (by decide)
  have hback : ∀ b ∈ "\n".toList, isBlank b = true := List.all_eq_true.1 (by decide)
  exact ⟨hline, ⟨p, hp, hargument⟩, (hends _ _ hfront hback).2, by decide⟩

end Construct

end LineScript
