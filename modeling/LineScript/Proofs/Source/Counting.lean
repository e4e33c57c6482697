/-
The logical lines of a source by counting. What is left of a line depends on how
many quotes stand before its first `#` and how many after it
(`Source.logicalText?_eq`). The lines are those with something left, under their
own numbers; or the source is refused at the first line that the quotes leave
open, whatever the others hold (`Source.lines_counting`).
-/
import LineScript.Proofs.Source.FirstLines
import Mathlib.Data.List.Sort
import Mathlib.Order.Bounds.Basic

namespace LineScript

namespace Source

open Text

variable {source raw before : Text}

/-- How many quotes stand before the first `#`. -/
def quotesBefore (raw : Text) : Nat :=
  (raw.takeWhile (· ≠ '#')).count '"'

/-- How many quotes stand behind the first `#`. -/
def quotesAfter (raw : Text) : Nat :=
  (raw.dropWhile (· ≠ '#')).count '"'

/-- The quotes leave open whether the first `#` is text. -/
def LeftOpen (raw : Text) : Prop :=
  '#' ∈ raw ∧ quotesBefore raw % 2 = 1 ∧ quotesAfter raw = 0

instance : DecidablePred LeftOpen :=
  fun _ => inferInstanceAs (Decidable (_ ∧ _))

/-- What is left of a line that is not left open. -/
def remaining (raw : Text) : Text :=
  if '#' ∉ raw ∨ 1 ≤ quotesBefore raw ∧ 1 ≤ quotesAfter raw then
    raw.dropWhile (· = ' ')
  else
    (trimEnd (raw.takeWhile (· ≠ '#'))).dropWhile (· = ' ')

/-- The line of that number, counted from 1, without the carriage returns at its
end. -/
def RawLineAt (source : Text) (number : Nat) (raw : Text) : Prop :=
  ∃ line, (line, number) ∈ (source.splitOn '\n').zipIdx 1 ∧ raw = line.rdropWhile (· = '\r')

def RefusedAt (source : Text) (number : Nat) : Prop :=
  ∃ raw, RawLineAt source number raw ∧ LeftOpen raw

/-- Something is left of the line of that number, namely this text. -/
def KeptIn (source : Text) (line : Line) : Prop :=
  ∃ raw, RawLineAt source line.number raw ∧ line.text = remaining raw ∧ line.text ≠ []

/-! ## The text of one line -/

theorem span_mark (h : '#' ∉ before) (after : Text) :
    (before ++ '#' :: after).takeWhile (· ≠ '#') = before ∧
      (before ++ '#' :: after).dropWhile (· ≠ '#') = '#' :: after := by
  have hbefore : ∀ c ∈ before, decide (c ≠ '#') = true := by
    rintro c hc
    exact decide_eq_true fun heq => h (heq ▸ hc)
  rw [List.takeWhile_append_of_pos hbefore, List.dropWhile_append_of_pos hbefore]
  simp

theorem quotesBefore_mark (h : '#' ∉ before) (after : Text) :
    quotesBefore (before ++ '#' :: after) = before.count '"' := by
  rw [quotesBefore, (span_mark h after).1]

theorem quotesAfter_mark (h : '#' ∉ before) (after : Text) :
    quotesAfter (before ++ '#' :: after) = after.count '"' := by
  rw [quotesAfter, (span_mark h after).2, List.count_cons_of_ne (by decide)]

theorem leftOpen_mark (h : '#' ∉ before) (after : Text) :
    LeftOpen (before ++ '#' :: after) ↔ before.count '"' % 2 = 1 ∧ '"' ∉ after := by
  rw [← List.count_eq_zero, ← quotesBefore_mark h after, ← quotesAfter_mark h after]
  exact and_iff_right (by simp)

theorem remaining_mark (h : '#' ∉ before) (after : Text) :
    remaining (before ++ '#' :: after) =
      (if '"' ∈ before ∧ '"' ∈ after then before ++ '#' :: after else trimEnd before).dropWhile
        (· = ' ') := by
  have hmark : ¬ '#' ∉ before ++ '#' :: after := by simp
  rw [remaining, quotesBefore_mark h, quotesAfter_mark h, (span_mark h after).1, apply_ite
    (List.dropWhile (· = ' '))]
  simp only [hmark, false_or, Nat.one_le_iff_ne_zero, ne_eq, List.count_eq_zero, not_not]

/-- The rule by counting: an odd number of quotes before the mark is at least
one, so that it is in doubt only where none follows. -/
theorem logicalText?_eq (raw : Text) :
    logicalText? raw = if LeftOpen raw then none else some (remaining raw) := by
  by_cases hmark : '#' ∈ raw
  · obtain ⟨before, after, rfl, hbefore⟩ := List.eq_append_cons_of_mem hmark
    have hodd : before.count '"' % 2 = 1 → '"' ∈ before := fun hodd =>
      List.count_pos_iff.1 (by omega)
    simp only [logicalText?, code?, cutAt?_append_cons hbefore, leftOpen_mark hbefore,
      remaining_mark hbefore]
    split_ifs <;> grind
  · have hopen : ¬LeftOpen raw := fun h => hmark h.1
    rw [if_neg hopen, logicalText?, code?_of_not_mem hmark, remaining, if_pos (.inl hmark)]
    rfl

theorem mem_rawLines_zipIdx {number : Nat} :
    (raw, number) ∈ (rawLines source).zipIdx 1 ↔ RawLineAt source number raw := by
  rw [rawLines_eq, List.zipIdx_map, List.mem_map, RawLineAt]
  constructor
  · rintro ⟨⟨line, number⟩, hline, heq⟩
    obtain ⟨rfl, rfl⟩ := Prod.mk.inj heq
    exact ⟨line, hline, rfl⟩
  · rintro ⟨line, hline, rfl⟩
    exact ⟨(line, number), hline, rfl⟩

/-! ## The first line that is refused -/

/-- The numbers of the lines that are left open, where the first line has the
number that is given. -/
def openNumbers (n : Nat) (raws : List Text) : Set Nat :=
  {m | ∃ raw, (raw, m) ∈ raws.zipIdx n ∧ LeftOpen raw}

theorem le_of_mem_openNumbers {raws : List Text} {m n : Nat} (h : m ∈ openNumbers n raws) :
    n ≤ m := by
  obtain ⟨raw, hmem, -⟩ := h
  exact (List.mem_zipIdx hmem).1

theorem mem_openNumbers_cons {raws : List Text} {m n : Nat} :
    m ∈ openNumbers n (raw :: raws) ↔ m = n ∧ LeftOpen raw ∨ m ∈ openNumbers (n + 1) raws := by
  simp only [openNumbers, Set.mem_ofPred_eq, List.zipIdx_cons, List.mem_cons, Prod.mk.injEq]
  constructor
  · rintro ⟨raw', ⟨rfl, rfl⟩ | hmem, hopen⟩
    · exact .inl ⟨rfl, hopen⟩
    · exact .inr ⟨raw', hmem, hopen⟩
  · rintro (⟨rfl, hopen⟩ | ⟨raw', hmem, hopen⟩)
    · exact ⟨raw, .inl ⟨rfl, rfl⟩, hopen⟩
    · exact ⟨raw', .inr hmem, hopen⟩

theorem mapM_readLine_eq_error_iff (raws : List Text) (n k : Nat) :
    ((raws.zipIdx n).mapM fun (raw, number) => readLine raw number) = .error ⟨k⟩ ↔
      IsLeast (openNumbers n raws) k := by
  induction raws generalizing n with
  | nil =>
    constructor
    · intro h
      cases h
    · rintro ⟨⟨raw, hmem, -⟩, -⟩
      cases hmem
  | cons raw raws ih =>
    simp only [List.zipIdx_cons, List.mapM_cons]
    -- A line that is left open is the least, whatever the others are; one that is
    -- not has no part in it.
    by_cases hraw : LeftOpen raw
    · have hline : readLine raw n = .error ⟨n⟩ := by
        rw [readLine, logicalText?_eq, if_pos hraw]
      have hleast : IsLeast (openNumbers n (raw :: raws)) n :=
        ⟨mem_openNumbers_cons.2 (.inl ⟨rfl, hraw⟩), fun m hm => le_of_mem_openNumbers hm⟩
      rw [hline]
      constructor
      · intro heq
        cases heq
        exact hleast
      · intro hk
        rw [hk.unique hleast]
        rfl
    · have hline : readLine raw n = .ok ⟨n, remaining raw⟩ := by
        rw [readLine, logicalText?_eq, if_neg hraw]
      have hrest : openNumbers n (raw :: raws) = openNumbers (n + 1) raws := by
        ext m
        rw [mem_openNumbers_cons, or_iff_right fun h => hraw h.2]
      rw [hline, hrest, ← ih]
      cases (raws.zipIdx (n + 1)).mapM fun (raw, number) => readLine raw number with
      | error cause => rfl
      | ok rest => constructor <;> intro h <;> cases h

theorem openNumbers_eq (source : Text) :
    openNumbers 1 (rawLines source) = {n | RefusedAt source n} := by
  simp only [openNumbers, mem_rawLines_zipIdx]
  rfl

theorem lines_eq_error_iff (source : Text) (n : Nat) :
    lines source = .error ⟨n⟩ ↔ IsLeast {m | RefusedAt source m} n := by
  rw [← openNumbers_eq, ← mapM_readLine_eq_error_iff, lines]
  cases ((rawLines source).zipIdx 1).mapM fun (raw, number) => readLine raw number with
  | error cause => rfl
  | ok rest => constructor <;> intro h <;> cases h

/-! ## The lines that are kept -/

theorem pairwise_numbered (n : Nat) (texts : List Text) :
    (numbered n texts).Pairwise (·.number < ·.number) := by
  refine List.Pairwise.filter _ (List.pairwise_map.2 ?_)
  have hnumbers := List.pairwise_lt_range' (s := n) (n := texts.length)
  rw [← List.zipIdx_map_snd n texts] at hnumbers
  exact List.pairwise_map.1 hnumbers

theorem mem_rawLines : raw ∈ rawLines source ↔ ∃ n, RawLineAt source n raw := by
  simp only [← mem_rawLines_zipIdx]
  constructor
  · intro hraw
    rw [← List.zipIdx_map_fst 1 (rawLines source)] at hraw
    obtain ⟨⟨raw, n⟩, hmem, rfl⟩ := List.mem_map.1 hraw
    exact ⟨n, hmem⟩
  · rintro ⟨n, hmem⟩
    exact List.fst_mem_of_mem_zipIdx hmem

theorem not_refusedAt {ls : List Line} (h : lines source = .ok ls) (n : Nat) :
    ¬RefusedAt source n := by
  rintro ⟨raw, hraw, hopen⟩
  obtain ⟨texts, htexts, -⟩ := texts_of_lines h
  have hmem := List.mem_map_of_mem (f := logicalText?) (mem_rawLines.2 ⟨n, hraw⟩)
  rw [htexts, logicalText?_eq, if_pos hopen] at hmem
  simp at hmem

theorem lines_eq_numbered (h : ∀ n, ¬RefusedAt source n) :
    lines source = .ok (numbered 1 ((rawLines source).map remaining)) := by
  refine lines_of_texts ?_
  rw [List.map_map]
  refine List.map_congr_left fun raw hraw => ?_
  obtain ⟨n, hraw⟩ := mem_rawLines.1 hraw
  rw [logicalText?_eq, if_neg fun hopen => h n ⟨raw, hraw, hopen⟩]
  rfl

theorem mem_numbered_remaining {line : Line} :
    line ∈ numbered 1 ((rawLines source).map remaining) ↔ KeptIn source line := by
  rw [mem_numbered, List.zipIdx_map, List.mem_map]
  constructor
  · rintro ⟨⟨⟨raw, number⟩, hmem, heq⟩, hne⟩
    obtain ⟨htext, hnumber⟩ := Prod.mk.inj heq
    subst hnumber
    exact ⟨raw, mem_rawLines_zipIdx.1 hmem, htext.symm, hne⟩
  · rintro ⟨raw, hraw, htext, hne⟩
    exact ⟨⟨(raw, line.number), mem_rawLines_zipIdx.2 hraw, by rw [htext]; rfl⟩, hne⟩

theorem lines_eq_ok_iff (source : Text) (ls : List Line) :
    lines source = .ok ls ↔
      (∀ n, ¬RefusedAt source n) ∧ ls.Pairwise (·.number < ·.number) ∧
        ∀ line, line ∈ ls ↔ KeptIn source line := by
  constructor
  · intro h
    have hopen := not_refusedAt h
    rw [lines_eq_numbered hopen] at h
    obtain rfl := Except.ok.inj h
    exact ⟨hopen, pairwise_numbered 1 _, fun line => mem_numbered_remaining⟩
  · rintro ⟨hopen, hsorted, hmem⟩
    have : Std.Irrefl fun l l' : Line => l.number < l'.number := ⟨fun l => Nat.lt_irrefl _⟩
    have : Std.Antisymm fun l l' : Line => l.number < l'.number :=
      ⟨fun l l' hlt hgt => absurd hgt (Nat.lt_asymm hlt)⟩
    rw [lines_eq_numbered hopen, (pairwise_numbered 1 _).eq_of_mem_iff hsorted fun line =>
      mem_numbered_remaining.trans (hmem line).symm]

/-- **The logical lines are found by counting quotes.** A source is refused at
the first of the lines that are left open, if there are any; if there are none,
its lines are those of which something is left, in the order of their numbers. -/
theorem lines_counting (source : Text) :
    (∀ n, lines source = .error ⟨n⟩ ↔ IsLeast {m | RefusedAt source m} n) ∧
      ∀ ls, lines source = .ok ls ↔
        (∀ n, ¬RefusedAt source n) ∧ ls.Pairwise (·.number < ·.number) ∧
          ∀ line, line ∈ ls ↔ KeptIn source line :=
  ⟨lines_eq_error_iff source, lines_eq_ok_iff source⟩

/-- An odd number of quotes before the `#` leaves nothing open where one follows. -/
example : lines ['"', '#', '"', '\n', '"', '#'] = .error ⟨2⟩ := by decide +kernel

end Source

end LineScript
