/-
Texts and the few operations on them that the language is made of: trimming,
splitting into words, and cutting at the first occurrence of a character or
of a phrase.

A text is the list of its characters, so that each rule of the language is a
recursion on that list. Lengths count characters.
-/
import LineScript.Text.Blank

namespace LineScript

/-- A text is the list of its characters. -/
abbrev Text := List Char

namespace Text

/-- The text without the white space at its start. -/
def trimStart (t : Text) : Text :=
  t.dropWhile isBlank

/-- The text without the white space at its end. -/
def trimEnd (t : Text) : Text :=
  (t.reverse.dropWhile isBlank).reverse

/-- The text without the white space at both ends. -/
def trim (t : Text) : Text :=
  trimEnd (trimStart t)

/-- The maximal runs of characters that are not white space, in order. -/
def words (t : Text) : List Text :=
  (t.splitOnP isBlank).filter fun w => !w.isEmpty

def firstWord? (t : Text) : Option Text :=
  (words t).head?

/-- Cuts a text at the first occurrence of a character: what stands before it
and what stands after it. -/
def cutAt? (c : Char) : Text → Option (Text × Text)
  | [] => none
  | x :: rest =>
    if x = c then some ([], rest)
    else (cutAt? c rest).map (Prod.map (x :: ·) id)

/-- Cuts a text at the first occurrence of a phrase: what stands before it and
what stands after it. -/
def cut? (phrase : Text) : Text → Option (Text × Text)
  | [] => if phrase = [] then some ([], []) else none
  | x :: rest =>
    if phrase.isPrefixOf (x :: rest) then some ([], (x :: rest).drop phrase.length)
    else (cut? phrase rest).map (Prod.map (x :: ·) id)

def contains (phrase t : Text) : Bool :=
  (cut? phrase t).isSome

/-- The text without its last character, if that is `c`. -/
def dropLast? (c : Char) (t : Text) : Option Text :=
  if t.getLast? = some c then some t.dropLast else none

/-- The text between a first and a last character that are given. The two are
not the same character of the text. -/
def between? (first last : Char) : Text → Option Text
  | [] => none
  | x :: rest => if x = first then dropLast? last rest else none

/-! ### Lengths -/

theorem length_trimStart_le (t : Text) : (trimStart t).length ≤ t.length :=
  (List.dropWhile_sublist isBlank).length_le

theorem length_trimEnd_le (t : Text) : (trimEnd t).length ≤ t.length := by
  have hdrop : (t.reverse.dropWhile isBlank).length ≤ t.reverse.length :=
    (List.dropWhile_sublist isBlank).length_le
  simpa [trimEnd] using hdrop

theorem length_trim_le (t : Text) : (trim t).length ≤ t.length :=
  Nat.le_trans (length_trimEnd_le _) (length_trimStart_le t)

/-! ### Cutting loses nothing but the place of the cut -/

theorem eq_of_cutAt? {c : Char} {t before after : Text} (h : cutAt? c t = some (before, after)) :
    t = before ++ c :: after := by
  induction t generalizing before with
  | nil => simp [cutAt?] at h
  | cons x rest ih =>
    rw [cutAt?] at h
    split at h
    next hx =>
      obtain ⟨rfl, rfl⟩ := Prod.mk.inj (Option.some.inj h)
      rw [hx, List.nil_append]
    next =>
      obtain ⟨⟨b, a⟩, hba, heq⟩ := Option.map_eq_some_iff.1 h
      obtain ⟨rfl, rfl⟩ := Prod.mk.inj heq
      rw [ih hba, List.cons_append]

theorem not_mem_of_cutAt? {c : Char} {t before after : Text}
    (h : cutAt? c t = some (before, after)) : c ∉ before := by
  induction t generalizing before with
  | nil => simp [cutAt?] at h
  | cons x rest ih =>
    rw [cutAt?] at h
    split at h
    next =>
      obtain ⟨rfl, rfl⟩ := Prod.mk.inj (Option.some.inj h)
      exact List.not_mem_nil
    next hx =>
      obtain ⟨⟨b, a⟩, hba, heq⟩ := Option.map_eq_some_iff.1 h
      obtain ⟨rfl, rfl⟩ := Prod.mk.inj heq
      simpa [Ne.symm hx] using ih hba

theorem cutAt?_eq_none_iff {c : Char} {t : Text} : cutAt? c t = none ↔ c ∉ t := by
  induction t with
  | nil => simp [cutAt?]
  | cons x rest ih =>
    rw [cutAt?]
    split
    next hx => simp [hx]
    next hx => simp [ih, Ne.symm hx]

theorem eq_of_cut? {phrase t before after : Text} (h : cut? phrase t = some (before, after)) :
    t = before ++ phrase ++ after := by
  induction t generalizing before with
  | nil =>
    rw [cut?] at h
    split at h
    next hp =>
      obtain ⟨rfl, rfl⟩ := Prod.mk.inj (Option.some.inj h)
      simp [hp]
    next => simp at h
  | cons x rest ih =>
    rw [cut?] at h
    split at h
    next hp =>
      obtain ⟨rfl, rfl⟩ := Prod.mk.inj (Option.some.inj h)
      obtain ⟨after, hafter⟩ := List.isPrefixOf_iff_prefix.1 hp
      simp [← hafter]
    next =>
      obtain ⟨⟨b, a⟩, hba, heq⟩ := Option.map_eq_some_iff.1 h
      obtain ⟨rfl, rfl⟩ := Prod.mk.inj heq
      simpa using ih hba

theorem eq_of_dropLast? {c : Char} {t inner : Text} (h : dropLast? c t = some inner) :
    t = inner ++ [c] := by
  rw [dropLast?] at h
  split at h
  next hc =>
    obtain rfl := Option.some.inj h
    obtain ⟨ys, rfl⟩ := List.getLast?_eq_some_iff.1 hc
    simp
  next => simp at h

end Text

end LineScript
