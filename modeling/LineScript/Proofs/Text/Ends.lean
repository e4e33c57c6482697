/-
Functions of texts that white space at the ends makes no difference to
(`Text.IgnoresEnds`). It is enough to look at one blank in front and one blank
behind; that trimming makes no difference follows, and so does every other way
of dropping blanks at an end.

Cuts see the blanks, but only as a part of what they cut: a blank in front goes
to the first part, a blank behind to the second.
-/
import LineScript.Construct.Inline
import LineScript.Proofs.Text.Parts

namespace LineScript

namespace Text

variable {α β : Type} {f : Text → α} {b c : Char}

/-- A blank at either end of a text does not change what the function gives. -/
structure IgnoresEnds (f : Text → α) : Prop where
  front : ∀ {b}, isBlank b = true → ∀ t, f (b :: t) = f t
  back : ∀ {b}, isBlank b = true → ∀ t, f (t ++ [b]) = f t

namespace IgnoresEnds

theorem map (h : IgnoresEnds f) (g : α → β) : IgnoresEnds fun t => g (f t) where
  front hb t := congrArg g (h.front hb t)
  back hb t := congrArg g (h.back hb t)

theorem dropWhile (h : IgnoresEnds f) {p : Char → Bool} (hp : ∀ c, p c = true → isBlank c = true)
    (t : Text) : f (t.dropWhile p) = f t := by
  induction t with
  | nil => rfl
  | cons c rest ih =>
    cases hc : p c with
    | false => rw [List.dropWhile_cons_of_neg (by simp [hc])]
    | true => rw [List.dropWhile_cons_of_pos hc, ih, h.front (hp c hc)]

theorem rdropWhile (h : IgnoresEnds f) {p : Char → Bool} (hp : ∀ c, p c = true → isBlank c = true)
    (t : Text) : f (t.rdropWhile p) = f t := by
  induction t using List.reverseRecOn with
  | nil => rfl
  | append_singleton front c ih =>
    cases hc : p c with
    | false => rw [List.rdropWhile_concat_neg _ _ _ (by simp [hc])]
    | true => rw [List.rdropWhile_concat_pos _ _ _ hc, ih, h.back (hp c hc)]

theorem trimEnd (h : IgnoresEnds f) (t : Text) : f t.trimEnd = f t :=
  h.rdropWhile (fun _ hc => hc) t

theorem trim (h : IgnoresEnds f) (t : Text) : f t.trim = f t :=
  (h.trimEnd _).trans (h.dropWhile (fun _ hc => hc) t)

theorem blanks_append (h : IgnoresEnds f) {w : Text} (hw : ∀ b ∈ w, isBlank b = true) (t : Text) :
    f (w ++ t) = f t := by
  induction w with
  | nil => rfl
  | cons b w ih =>
    obtain ⟨hb, hw⟩ := List.forall_mem_cons.1 hw
    rw [List.cons_append, h.front hb, ih hw]

theorem append_blanks (h : IgnoresEnds f) {w : Text} (hw : ∀ b ∈ w, isBlank b = true) (t : Text) :
    f (t ++ w) = f t := by
  induction w generalizing t with
  | nil => rw [List.append_nil]
  | cons b w ih =>
    obtain ⟨hb, hw⟩ := List.forall_mem_cons.1 hw
    rw [List.append_cons, ih hw, h.back hb]

theorem eq_of_trim_eq (h : IgnoresEnds f) {t u : Text} (heq : t.trim = u.trim) : f t = f u := by
  rw [← h.trim t, heq, h.trim]

end IgnoresEnds

/-! ## Trimming and words -/

theorem trimEnd_concat_blank (hb : isBlank b = true) (t : Text) : trimEnd (t ++ [b]) = trimEnd t :=
  List.rdropWhile_concat_pos isBlank t b hb

theorem ignoresEnds_trim : IgnoresEnds trim where
  front := trim_cons_blank
  back := by
    intro b hb t
    induction t with
    | nil => rw [List.nil_append, trim_cons_blank hb]
    | cons c rest ih =>
      cases hc : isBlank c with
      | false => rw [List.cons_append, trim_cons hc, trim_cons hc, trimEnd_concat_blank hb]
      | true => rw [List.cons_append, trim_cons_blank hc, trim_cons_blank hc, ih]

theorem ignoresEnds_words : IgnoresEnds words where
  front hb t := words_append_blank hb [] t
  back hb t := by
    rw [words_append_blank hb t []]
    exact List.append_nil _

theorem ignoresEnds_firstWord? : IgnoresEnds firstWord? :=
  ignoresEnds_words.map List.head?

/-! ## Cuts -/

theorem ne_of_isBlank (hb : isBlank b = true) (hc : isBlank c = false) : b ≠ c := by
  rintro rfl
  rw [hb] at hc
  cases hc

theorem cutAt?_cons (hb : b ≠ c) (t : Text) :
    cutAt? c (b :: t) = (cutAt? c t).map (Prod.map (b :: ·) id) := by
  rw [cutAt?, if_neg hb]

theorem cutAt?_concat (hb : b ≠ c) (t : Text) :
    cutAt? c (t ++ [b]) = (cutAt? c t).map (Prod.map id (· ++ [b])) := by
  induction t with
  | nil => rw [List.nil_append, cutAt?_cons hb, cutAt?]; rfl
  | cons x rest ih =>
    rw [List.cons_append, cutAt?, cutAt?, ih]
    split
    · rfl
    · rw [Option.map_map, Option.map_map]
      rfl

variable {phrase : Text}

theorem cut?_cons (hphrase : IsWord phrase) (hb : isBlank b = true) (t : Text) :
    cut? phrase (b :: t) = (cut? phrase t).map (Prod.map (b :: ·) id) := by
  have hstart : ¬ phrase.isPrefixOf (b :: t) = true := by
    rw [List.isPrefixOf_iff_prefix, List.prefix_cons_iff]
    rintro (hnil | ⟨rest, rfl, -⟩)
    · exact hphrase.ne_nil hnil
    · exact ne_of_isBlank hb (hphrase.solid b (List.mem_cons_self ..)) rfl
  rw [cut?, if_neg hstart]

theorem cut?_blanks_append (hphrase : IsWord phrase) {w : Text} (hw : ∀ b ∈ w, isBlank b = true)
    (t : Text) : cut? phrase (w ++ t) = (cut? phrase t).map (Prod.map (w ++ ·) id) := by
  induction w with
  | nil => exact (map_nil_append _).symm
  | cons b w ih =>
    obtain ⟨hb, hw⟩ := List.forall_mem_cons.1 hw
    rw [List.cons_append, cut?_cons hphrase hb, ih hw, Option.map_map]
    rfl

theorem cut?_concat (hphrase : IsWord phrase) (hb : isBlank b = true) (t : Text) :
    cut? phrase (t ++ [b]) = (cut? phrase t).map (Prod.map id (· ++ [b])) := by
  induction t with
  | nil =>
    rw [List.nil_append, cut?_cons hphrase hb, cut?, if_neg hphrase.ne_nil]
    rfl
  | cons x rest ih =>
    have hstart : phrase.isPrefixOf (x :: rest ++ [b]) = phrase.isPrefixOf (x :: rest) := by
      have hapart : ∀ x ∈ [b].head?, x ∉ phrase := by
        rintro x ⟨rfl⟩ hmem
        exact ne_of_isBlank hb (hphrase.solid b hmem) rfl
      rw [Bool.eq_iff_iff, List.isPrefixOf_iff_prefix, List.isPrefixOf_iff_prefix,
        prefix_append_iff_of_apart hapart]
    rw [List.cons_append] at hstart ⊢
    rw [cut?, cut?, hstart, ih]
    split
    next hprefix =>
      have hlength := (List.isPrefixOf_iff_prefix.1 hprefix).length_le
      rw [← List.cons_append, List.drop_append_of_le_length hlength]
      rfl
    next =>
      rw [Option.map_map, Option.map_map]
      rfl

theorem contains_cons_blank (hphrase : IsWord phrase) (hb : isBlank b = true) (t : Text) :
    contains phrase (b :: t) = contains phrase t := by
  rw [contains, cut?_cons hphrase hb, Option.isSome_map, contains]

theorem cutHeader?_cons (hb : isBlank b = true) (quoted : Bool) (t : Text) :
    cutHeader? quoted (b :: t) = (cutHeader? quoted t).map (Prod.map (b :: ·) id) := by
  have hquote : b ≠ '"' := ne_of_isBlank hb (by decide)
  have hbrace : b ≠ '{' := ne_of_isBlank hb (by decide)
  rw [cutHeader?, if_neg hquote, if_neg fun h => hbrace h.1]

theorem cutHeader?_concat (hb : isBlank b = true) (quoted : Bool) (t : Text) :
    cutHeader? quoted (t ++ [b]) = (cutHeader? quoted t).map (Prod.map id (· ++ [b])) := by
  induction t generalizing quoted with
  | nil => rw [List.nil_append, cutHeader?_cons hb, cutHeader?]; rfl
  | cons x rest ih =>
    rw [List.cons_append, cutHeader?, cutHeader?, ih, ih]
    split
    · rw [Option.map_map, Option.map_map]
      rfl
    · split
      · rfl
      · rw [Option.map_map, Option.map_map]
        rfl

end Text

end LineScript
