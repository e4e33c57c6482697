/-
Words and where they stand in a text. The word around a place reaches from the
last white space in front of the place (`exists_words_append`) to the first one
behind it (`glued`); in front of the first word there is white space only
(`exists_of_firstWord?`). So a word that occurs in a text is a part of one of its
words (`exists_infix_of_contains`), and what stands in front of a mark has the
words of the whole text, the last of them as far as the mark (`words_cut`).
-/
import LineScript.Proofs.Text.Ends

namespace LineScript

namespace Text

variable {c : Char} {t u w : Text}

/-- The text up to its first white space. -/
def glued (t : Text) : Text :=
  t.takeWhile fun c => !isBlank c

theorem solid_glued (t : Text) : ∀ c ∈ glued t, isBlank c = false := by
  intro c hc
  simpa using List.mem_takeWhile_imp hc

theorem isWord_singleton (hc : isBlank c = false) : IsWord [c] :=
  ⟨List.cons_ne_nil c [], by simpa using hc⟩

theorem IsWord.append (h : IsWord w) (ht : ∀ c ∈ t, isBlank c = false) : IsWord (w ++ t) where
  ne_nil := by simp [h.ne_nil]
  solid c hc := (List.mem_append.1 hc).elim (h.solid c) (ht c)

theorem IsWord.prepend (ht : ∀ c ∈ t, isBlank c = false) (h : IsWord w) : IsWord (t ++ w) where
  ne_nil := by simp [h.ne_nil]
  solid c hc := (List.mem_append.1 hc).elim (ht c) (h.solid c)

/-- A text that starts with a word goes on with it up to the first white space. -/
theorem IsWord.words_glued (h : IsWord w) (t : Text) :
    Text.words (w ++ t) = (w ++ glued t) :: Text.words (t.dropWhile fun c => !isBlank c) := by
  have hword := h.append (solid_glued t)
  have hsplit : w ++ t = w ++ glued t ++ t.dropWhile fun c => !isBlank c := by
    rw [List.append_assoc, glued, List.takeWhile_append_dropWhile]
  rw [hsplit]
  cases hrest : t.dropWhile fun c => !isBlank c with
  | nil =>
    rw [List.append_nil, hword.words]
    rfl
  | cons blank rest =>
    have hblank : isBlank blank = true := by
      have h := List.head?_dropWhile_not (fun c => !isBlank c) t
      rw [hrest] at h
      simpa using h
    rw [hword.words_append hblank, ignoresEnds_words.front hblank]

theorem IsWord.firstWord?_glued (h : IsWord w) (t : Text) :
    Text.firstWord? (w ++ t) = some (w ++ glued t) := by
  rw [Text.firstWord?, h.words_glued]
  rfl

/-- A word in front of white space, however much of it. -/
theorem IsWord.words_append_gap (h : IsWord w) {gap : Text} (hgap : ∀ c ∈ gap, isBlank c = true)
    (hne : gap ≠ []) (t : Text) : Text.words (w ++ (gap ++ t)) = w :: Text.words t := by
  cases gap with
  | nil => exact absurd rfl hne
  | cons c gap =>
    obtain ⟨hc, hgap⟩ := List.forall_mem_cons.1 hgap
    rw [List.cons_append, h.words_append hc, ignoresEnds_words.blanks_append hgap]

/-- A word is cut out by the white space around it. -/
theorem IsWord.firstWord?_between (h : IsWord w) {gap rest : Text}
    (hgap : ∀ b ∈ gap, isBlank b = true) (hrest : ∀ b ∈ rest.head?, isBlank b = true) :
    Text.firstWord? (gap ++ (w ++ rest)) = some w := by
  have hglued : glued rest = [] := by
    cases rest with
    | nil => rfl
    | cons b rest => exact List.takeWhile_cons_of_neg (by simp [hrest b rfl])
  rw [ignoresEnds_firstWord?.blanks_append hgap, h.firstWord?_glued, hglued, List.append_nil]

/-- The first word of a line, and what is around it. -/
theorem exists_of_firstWord? (h : firstWord? t = some w) :
    IsWord w ∧ ∃ gap rest, t = gap ++ (w ++ rest) ∧ (∀ b ∈ gap, isBlank b = true) ∧
      ∀ b ∈ rest.head?, isBlank b = true := by
  refine ⟨isWord_of_mem_words (List.mem_of_head? h), ?_⟩
  have hgap : ∀ b ∈ t.takeWhile isBlank, isBlank b = true :=
    fun b hb => List.mem_takeWhile_imp hb
  have hsplit : t = t.takeWhile isBlank ++ t.dropWhile isBlank :=
    List.takeWhile_append_dropWhile.symm
  have hhead := List.head?_dropWhile_not isBlank t
  rw [hsplit, ignoresEnds_firstWord?.blanks_append hgap] at h
  cases htext : t.dropWhile isBlank with
  | nil =>
    rw [htext] at h
    cases h
  | cons c u =>
    rw [htext] at h hhead hsplit
    have hc : isBlank c = false := by simpa using hhead
    have hword : firstWord? (c :: u) = some (c :: glued u) := (isWord_singleton hc).firstWord?_glued u
    obtain rfl := Option.some.inj (hword.symm.trans h)
    refine ⟨t.takeWhile isBlank, u.dropWhile fun c => !isBlank c, ?_, hgap, fun b hb => ?_⟩
    · rw [List.cons_append, glued, List.takeWhile_append_dropWhile]
      exact hsplit
    · have hstop := List.head?_dropWhile_not (fun c => !isBlank c) u
      rw [Option.mem_def.1 hb] at hstop
      simpa using hstop

theorem words_of_solid (h : ∀ c ∈ t, isBlank c = false) :
    words t = [t].filter fun w => !w.isEmpty := by
  rw [words, List.splitOnP_eq_singleton h]

/-! ## Words behind the last white space -/

/-- The words up to the last white space of a text stay as they are, whatever is
put behind it. -/
theorem exists_words_append (t : Text) :
    ∃ front last, t = front ++ last ∧ (∀ c ∈ last, isBlank c = false) ∧
      ∀ u, words (front ++ u) = words front ++ words u := by
  induction t using List.reverseRecOn with
  | nil => exact ⟨[], [], rfl, by simp, fun u => rfl⟩
  | append_singleton t c ih =>
    cases hc : isBlank c with
    | true =>
      refine ⟨t ++ [c], [], by simp, by simp, fun u => ?_⟩
      rw [ignoresEnds_words.back hc, List.append_assoc]
      exact words_append_blank hc t u
    | false =>
      obtain ⟨front, last, rfl, hlast, hwords⟩ := ih
      refine ⟨front, last ++ [c], by simp, fun d hd => ?_, hwords⟩
      exact (IsWord.prepend hlast (isWord_singleton hc)).solid d hd

theorem subset_of_mem_words (hw : w ∈ words t) : w ⊆ t := by
  induction t using List.reverseRecOn with
  | nil => cases hw
  | append_singleton t c ih =>
    cases hc : isBlank c with
    | true =>
      rw [ignoresEnds_words.back hc] at hw
      exact List.subset_append_of_subset_left [c] (ih hw)
    | false =>
      obtain ⟨front, last, rfl, hlast, hwords⟩ := exists_words_append t
      have hend : IsWord (last ++ [c]) := .prepend hlast (isWord_singleton hc)
      rw [List.append_assoc, hwords, hend.words] at hw
      rw [List.append_assoc]
      rcases List.mem_append.1 hw with hw | hw
      · have hfront : w ∈ words (front ++ last) := by
          rw [hwords]
          exact List.mem_append_left _ hw
        rw [← List.append_assoc]
        exact List.subset_append_of_subset_left [c] (ih hfront)
      · rw [List.mem_singleton.1 hw]
        exact List.subset_append_right front (last ++ [c])

/-- What stands in front of a mark has the words of the whole text up to the one
with the mark, and of that one what is in front of the mark, if anything is. -/
theorem words_cut (hc : isBlank c = false) (ht : c ∉ t) (u : Text) :
    ∃ front stem back, words (t ++ c :: u) = front ++ (stem ++ c :: glued u) :: back ∧
      words t = (front ++ [stem]).filter (fun w => !w.isEmpty) ∧
      c ∉ stem ∧ ∀ w ∈ front, c ∉ w := by
  obtain ⟨front, last, rfl, hlast, hwords⟩ := exists_words_append t
  have hword : IsWord (last ++ [c]) := .prepend hlast (isWord_singleton hc)
  refine ⟨words front, last, words (u.dropWhile fun c => !isBlank c), ?_, ?_, ?_, ?_⟩
  · rw [List.append_assoc, hwords, List.append_cons, hword.words_glued, List.append_assoc]
    rfl
  · have hfront : (words front).filter (fun w => !w.isEmpty) = words front := by
      rw [words, List.filter_filter]
      simp
    rw [hwords, words_of_solid hlast, List.filter_append, hfront]
  · exact fun hmem => ht (List.mem_append_right _ hmem)
  · exact fun w hw hmem => ht (List.mem_append_left _ (subset_of_mem_words hw hmem))

theorem exists_infix_of_contains {phrase : Text} (hphrase : IsWord phrase)
    (h : contains phrase t = true) : ∃ w ∈ words t, phrase <:+: w := by
  obtain ⟨⟨before, after⟩, hcut⟩ := Option.isSome_iff_exists.1 h
  obtain ⟨front, last, hbefore, hlast, hwords⟩ := exists_words_append before
  have hword : IsWord (last ++ phrase) := .prepend hlast hphrase
  have htext : t = front ++ (last ++ phrase ++ after) := by
    rw [eq_of_cut? hcut, hbefore]
    simp only [List.append_assoc]
  refine ⟨last ++ phrase ++ glued after, ?_, last, glued after, rfl⟩
  rw [htext, hwords, hword.words_glued]
  exact List.mem_append_right _ (List.mem_cons_self ..)

end Text

end LineScript
