/-
Texts put together and taken apart again: the words of a text on either side of
a blank, the cut of a text at a character that its first part lacks, and ends
that trimming leaves alone.

Everything about words follows from one equation, `words_append_blank`.
-/
import LineScript.Text.Basic
import Mathlib.Data.List.DropRight

namespace LineScript

namespace Text

variable {c : Char} {t u w : Text}

/-! ## Words -/

/-- One or more characters without white space. -/
structure IsWord (w : Text) : Prop where
  ne_nil : w ≠ []
  solid : ∀ c ∈ w, isBlank c = false

theorem isWord_iff : IsWord w ↔ w ≠ [] ∧ w.all (fun c => !isBlank c) = true := by
  simp only [List.all_eq_true, Bool.not_eq_true']
  exact ⟨fun h => ⟨h.ne_nil, h.solid⟩, fun h => ⟨h.1, h.2⟩⟩

instance (w : Text) : Decidable (IsWord w) :=
  decidable_of_iff' _ isWord_iff

theorem words_append_blank (hc : isBlank c = true) (t u : Text) :
    words (t ++ c :: u) = words t ++ words u := by
  have hsplit : (t ++ c :: u).splitOnP isBlank = t.splitOnP isBlank ++ u.splitOnP isBlank :=
    List.splitOnP_append_cons t u hc
  rw [words, hsplit, List.filter_append]
  rfl

theorem IsWord.words (h : IsWord w) : words w = [w] := by
  rw [Text.words, List.splitOnP_eq_singleton h.solid]
  simp [h.ne_nil]

/-- A word at the start of a text, up to the blank behind it. -/
theorem IsWord.words_append (h : IsWord w) (hc : isBlank c = true) (t : Text) :
    Text.words (w ++ c :: t) = w :: Text.words t := by
  rw [words_append_blank hc, h.words]
  rfl

theorem IsWord.firstWord?_append (h : IsWord w) (hc : isBlank c = true) (t : Text) :
    Text.firstWord? (w ++ c :: t) = some w := by
  rw [Text.firstWord?, h.words_append hc]
  rfl

/-- What a text is split at is not in its parts. -/
theorem solid_of_mem_splitOnP {p : Char → Bool} (hw : w ∈ t.splitOnP p) :
    ∀ c ∈ w, p c = false := by
  induction t generalizing w with
  | nil =>
    obtain rfl : w = [] := by simpa [List.splitOnP_nil] using hw
    simp
  | cons x rest ih =>
    rw [List.splitOnP_cons_eq_if_modifyHead] at hw
    split at hw
    next =>
      rcases List.mem_cons.1 hw with rfl | hw
      · simp
      · exact ih hw
    next hx =>
      cases hrest : rest.splitOnP p with
      | nil => exact absurd hrest (List.splitOnP_ne_nil _ _)
      | cons first others =>
        rw [hrest] at hw ih
        rcases List.mem_cons.1 hw with rfl | hw
        · simpa [hx] using ih (List.mem_cons_self ..)
        · exact ih (List.mem_cons_of_mem _ hw)

theorem isWord_of_mem_words (hw : w ∈ words t) : IsWord w := by
  obtain ⟨hmem, hne⟩ := List.mem_filter.1 hw
  exact ⟨by simpa using hne, solid_of_mem_splitOnP hmem⟩

/-! ## Cuts -/

/-- Nothing in front of a cut. -/
theorem map_nil_append (parts : Option (Text × Text)) :
    parts.map (Prod.map (([] : Text) ++ ·) id) = parts := by
  cases parts <;> rfl

theorem cutAt?_append_of_not_mem (h : c ∉ t) (u : Text) :
    cutAt? c (t ++ u) = (cutAt? c u).map (Prod.map (t ++ ·) id) := by
  induction t with
  | nil => exact (map_nil_append _).symm
  | cons x rest ih =>
    have hx : x ≠ c := fun heq => h (by simp [heq])
    have hrest : c ∉ rest := fun hmem => h (List.mem_cons_of_mem _ hmem)
    rw [List.cons_append, cutAt?, if_neg hx, ih hrest, Option.map_map]
    rfl

/-- The cut at the first occurrence. -/
theorem cutAt?_append_cons (h : c ∉ t) (u : Text) : cutAt? c (t ++ c :: u) = some (t, u) := by
  rw [cutAt?_append_of_not_mem h, cutAt?, if_pos rfl]
  simp

/-- A longer text is cut at the same place. -/
theorem cutAt?_append {before after : Text} (h : cutAt? c t = some (before, after)) (u : Text) :
    cutAt? c (t ++ u) = some (before, after ++ u) := by
  have hbefore := not_mem_of_cutAt? h
  rw [eq_of_cutAt? h, List.append_assoc, List.cons_append, cutAt?_append_cons hbefore]

theorem cut?_append (phrase u : Text) : cut? phrase (phrase ++ u) = some ([], u) := by
  cases h : phrase ++ u with
  | nil =>
    obtain ⟨rfl, rfl⟩ := List.append_eq_nil_iff.1 h
    rfl
  | cons x rest =>
    have hprefix : phrase.isPrefixOf (x :: rest) = true := by
      rw [← h, List.isPrefixOf_iff_prefix]
      exact List.prefix_append phrase u
    rw [cut?, if_pos hprefix, ← h, List.drop_left]

theorem contains_cons (phrase : Text) (c : Char) (t : Text) :
    contains phrase (c :: t) = (phrase.isPrefixOf (c :: t) || contains phrase t) := by
  rw [contains, cut?]
  split
  next h => simp [h]
  next h => simp [h, contains]

theorem contains_append (t phrase u : Text) : contains phrase (t ++ (phrase ++ u)) = true := by
  induction t with
  | nil => rw [List.nil_append, contains, cut?_append]; rfl
  | cons x rest ih => rw [List.cons_append, contains_cons, ih, Bool.or_true]

/-- A phrase does not reach over the end of a text if it lacks the character that
follows there. -/
theorem prefix_append_iff_of_apart {phrase : Text} (hu : ∀ x ∈ u.head?, x ∉ phrase) (t : Text) :
    phrase <+: t ++ u ↔ phrase <+: t := by
  refine ⟨fun h => ?_, fun h => h.trans (List.prefix_append t u)⟩
  rcases List.prefix_or_prefix_of_prefix h (List.prefix_append t u) with h' | ⟨rest, rfl⟩
  · exact h'
  · cases rest with
    | nil => simp
    | cons x rest =>
      obtain ⟨after, rfl⟩ := (List.prefix_append_right_inj t).1 h
      exact absurd (by simp) (hu x rfl)

/-- Such a phrase is found on one side of the end or on the other. -/
theorem contains_append_of_apart {phrase : Text} (hphrase : phrase ≠ [])
    (hu : ∀ x ∈ u.head?, x ∉ phrase) (t : Text) :
    contains phrase (t ++ u) = (contains phrase t || contains phrase u) := by
  induction t with
  | nil =>
    have hnil : contains phrase [] = false := by simp [contains, cut?, hphrase]
    rw [hnil, List.nil_append, Bool.false_or]
  | cons x t ih =>
    have hstart : phrase.isPrefixOf (x :: t ++ u) = phrase.isPrefixOf (x :: t) := by
      rw [Bool.eq_iff_iff, List.isPrefixOf_iff_prefix, List.isPrefixOf_iff_prefix,
        prefix_append_iff_of_apart hu]
    rw [List.cons_append] at hstart ⊢
    rw [contains_cons, contains_cons, hstart, ih, Bool.or_assoc]

theorem between?_eq_some_iff {first last : Char} :
    between? first last t = some u ↔ t = first :: (u ++ [last]) := by
  constructor
  · intro h
    cases t with
    | nil => cases h
    | cons x rest =>
      rw [between?] at h
      split at h
      next hx => rw [hx, eq_of_dropLast? h]
      next => cases h
  · rintro rfl
    simp [between?, dropLast?]

/-! ## Ends -/

theorem trimStart_cons_blank (hc : isBlank c = true) (t : Text) :
    trimStart (c :: t) = trimStart t :=
  List.dropWhile_cons_of_pos hc

theorem trim_cons_blank (hc : isBlank c = true) (t : Text) : trim (c :: t) = trim t := by
  rw [trim, trimStart_cons_blank hc, trim]

theorem trim_eq_self {last : Char} (hc : isBlank c = false) (hlast : (c :: t).getLast? = some last)
    (hsolid : isBlank last = false) : trim (c :: t) = c :: t := by
  have hstart : trimStart (c :: t) = c :: t := List.dropWhile_cons_of_neg (by simp [hc])
  obtain ⟨front, hfront⟩ := List.getLast?_eq_some_iff.1 hlast
  rw [trim, hstart, hfront]
  exact List.rdropWhile_concat_neg _ _ _ (by simp [hsolid])

theorem IsWord.trim (h : IsWord w) : trim w = w := by
  obtain ⟨hne, hsolid⟩ := h
  cases w with
  | nil => exact absurd rfl hne
  | cons c t =>
    refine trim_eq_self (hsolid c (List.mem_cons_self ..))
      (List.getLast?_eq_getLast_of_ne_nil (List.cons_ne_nil c t)) (hsolid _ (List.getLast_mem _))

/-- What is dropped at the end of a text does not reach behind a character that
stays. -/
theorem rdropWhile_append_cons {p : Char → Bool} (hc : p c = false) (t u : Text) :
    (t ++ c :: u).rdropWhile p = t ++ c :: u.rdropWhile p := by
  induction u using List.reverseRecOn with
  | nil => exact List.rdropWhile_concat_neg p t c (by simp [hc])
  | append_singleton u x ih =>
    by_cases hx : p x = true
    · have h := List.rdropWhile_concat_pos p (t ++ c :: u) x hx
      rw [List.append_assoc, List.cons_append] at h
      rw [h, List.rdropWhile_concat_pos p u x hx, ih]
    · have h := List.rdropWhile_concat_neg p (t ++ c :: u) x hx
      rw [List.append_assoc, List.cons_append] at h
      rw [h, List.rdropWhile_concat_neg p u x hx]

/-- Nor does what is dropped at the start. -/
theorem dropWhile_append_cons {p : Char → Bool} (hc : p c = false) (t u : Text) :
    (t ++ c :: u).dropWhile p = t.dropWhile p ++ c :: u := by
  induction t with
  | nil => exact List.dropWhile_cons_of_neg (by simp [hc])
  | cons x t ih =>
    cases hx : p x with
    | true =>
      rw [List.cons_append, List.dropWhile_cons_of_pos hx, ih, List.dropWhile_cons_of_pos hx]
    | false =>
      have hstays : ¬p x = true := by simp [hx]
      rw [List.cons_append, List.dropWhile_cons_of_neg hstays, List.dropWhile_cons_of_neg hstays,
        List.cons_append]

theorem mem_dropWhile_iff {p : Char → Bool} (hc : p c = false) : c ∈ t.dropWhile p ↔ c ∈ t := by
  refine ⟨fun h => (List.dropWhile_sublist p).subset h, fun h => ?_⟩
  obtain ⟨front, back, rfl⟩ := List.append_of_mem h
  simp [dropWhile_append_cons hc]

theorem mem_rdropWhile_iff {p : Char → Bool} (hc : p c = false) :
    c ∈ t.rdropWhile p ↔ c ∈ t := by
  refine ⟨fun h => (List.rdropWhile_prefix p t).subset h, fun h => ?_⟩
  obtain ⟨front, back, rfl⟩ := List.append_of_mem h
  simp [rdropWhile_append_cons hc]

/-- A text whose end stays keeps it where its start is dropped. -/
theorem rdropWhile_of_suffix {p : Char → Bool} (hu : u <:+ t) (ht : t.rdropWhile p = t) :
    u.rdropWhile p = u := by
  rw [List.rdropWhile_eq_self_iff] at ht ⊢
  intro hne
  have hsame := hu.getLast hne
  rw [hsame]
  exact ht _

theorem trimEnd_cons (hc : isBlank c = false) (t : Text) : trimEnd (c :: t) = c :: trimEnd t :=
  rdropWhile_append_cons hc [] t

theorem trim_cons (hc : isBlank c = false) (t : Text) : trim (c :: t) = c :: trimEnd t := by
  rw [trim, trimStart, List.dropWhile_cons_of_neg (by simp [hc]), trimEnd_cons hc]

theorem trim_trim (t : Text) : trim (trim t) = trim t := by
  have htrim : trim t = trimEnd (trimStart t) := rfl
  have hidem : ∀ u, trimEnd (trimEnd u) = trimEnd u := List.rdropWhile_idempotent isBlank
  cases hstart : trimStart t with
  | nil => rw [htrim, hstart]; rfl
  | cons c u =>
    have hc : isBlank c = false := by
      have hhead := List.head?_dropWhile_not isBlank t
      rwa [show t.dropWhile isBlank = c :: u from hstart] at hhead
    have hsolid : trimEnd (c :: u) = c :: trimEnd u := trimEnd_cons hc u
    rw [htrim, hstart, hsolid, trim_cons hc, hidem]

end Text

end LineScript
