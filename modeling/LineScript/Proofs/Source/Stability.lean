/-
Reading a source again. The logical lines of a source, put together as a source
of their own, are its logical lines (`Source.lines_ofLines`): nothing is left in
them that a second reading would cut or drop (`Source.IsLogical`).

Only the numbers change: lines that were dropped the first time leave no gaps
the second time.
-/
import LineScript.Proofs.Source.FirstLines

namespace LineScript

namespace Source

open Text

variable {raw code text source : Text}

/-- The text is one line that is read as it is. -/
structure IsLogical (text : Text) : Prop where
  nonempty : text ≠ []
  oneLine : '\n' ∉ text
  noReturn : text.rdropWhile (· = '\r') = text
  logical : logicalText? text = some text

/-! ## The text of one line -/

/-- A line is kept whole, or up to its first `#`. -/
theorem code?_cases (h : code? raw = some code) :
    '#' ∉ raw ∧ code = raw ∨
      ∃ before after, '#' ∉ before ∧ raw = before ++ '#' :: after ∧
        ('"' ∈ before ∧ '"' ∈ after ∧ code = raw ∨ code = before.trimEnd) := by
  rw [code?] at h
  cases hcut : cutAt? '#' raw with
  | none =>
    rw [hcut] at h
    exact .inl ⟨cutAt?_eq_none_iff.1 hcut, (Option.some.inj h).symm⟩
  | some parts =>
    obtain ⟨before, after⟩ := parts
    simp only [hcut] at h
    refine .inr ⟨before, after, not_mem_of_cutAt? hcut, eq_of_cutAt? hcut, ?_⟩
    split at h
    next hquoted => exact .inl ⟨hquoted.1, hquoted.2, (Option.some.inj h).symm⟩
    next =>
      split at h
      next => exact .inr (Option.some.inj h).symm
      next => cases h

/-- What is code stays code without its leading spaces. -/
theorem code?_logical (h : code? raw = some code) :
    code? (code.dropWhile (· = ' ')) = some (code.dropWhile (· = ' ')) := by
  have hsub (t : Text) : t.dropWhile (· = ' ') ⊆ t := (List.dropWhile_sublist _).subset
  rcases code?_cases h with ⟨hmark, rfl⟩ | ⟨before, after, hmark, rfl, ⟨hbefore, hafter, rfl⟩ | rfl⟩
  · exact code?_of_not_mem fun hmem => hmark (hsub _ hmem)
  · have hquote : '"' ∈ before.dropWhile (· = ' ') := (mem_dropWhile_iff (by decide)).2 hbefore
    have hcut := cutAt?_append_cons (fun hmem => hmark (hsub before hmem)) after
    rw [dropWhile_append_cons (by decide), code?, hcut]
    exact if_pos ⟨hquote, hafter⟩
  · have htrim : before.trimEnd ⊆ before := (List.rdropWhile_prefix isBlank _).subset
    exact code?_of_not_mem fun hmem => hmark (htrim (hsub _ hmem))

/-- No carriage return comes to stand at the end of what is code. -/
theorem noReturn_of_code? (h : code? raw = some code) (hraw : raw.rdropWhile (· = '\r') = raw) :
    code.rdropWhile (· = '\r') = code := by
  rcases code?_cases h with ⟨-, rfl⟩ | ⟨before, after, -, -, ⟨-, -, rfl⟩ | rfl⟩
  · exact hraw
  · exact hraw
  · refine List.rdropWhile_eq_self_iff.2 fun hne hlast => ?_
    have hsolid : ¬isBlank (before.trimEnd.getLast hne) = true := List.rdropWhile_last_not _ _ hne
    rw [of_decide_eq_true hlast] at hsolid
    exact hsolid (by decide)

theorem code?_subset (h : code? raw = some code) : code ⊆ raw := by
  rcases code?_cases h with ⟨-, rfl⟩ | ⟨before, after, -, rfl, ⟨-, -, rfl⟩ | rfl⟩
  · exact List.Subset.refl _
  · exact List.Subset.refl _
  · have htrim : before.trimEnd ⊆ before := (List.rdropWhile_prefix isBlank _).subset
    exact List.subset_append_of_subset_left _ htrim

theorem isLogical_of_logicalText? (h : logicalText? raw = some text) (hne : text ≠ [])
    (hline : '\n' ∉ raw) (hreturn : raw.rdropWhile (· = '\r') = raw) : IsLogical text := by
  obtain ⟨code, hcode, rfl⟩ := Option.map_eq_some_iff.1 h
  have hsuffix := List.dropWhile_suffix (l := code) (· = ' ')
  refine ⟨hne, fun hmem => ?_, ?_, ?_⟩
  · exact hline (code?_subset hcode (hsuffix.subset hmem))
  · exact rdropWhile_of_suffix hsuffix (noReturn_of_code? hcode hreturn)
  · rw [logicalText?, code?_logical hcode, Option.map_some, List.dropWhile_idempotent]

/-! ## All lines -/

theorem isLogical_of_mem_lines {ls : List Line} (h : lines source = .ok ls) {line : Line}
    (hline : line ∈ ls) : IsLogical line.text := by
  obtain ⟨texts, htexts, rfl⟩ := texts_of_lines h
  obtain ⟨hzip, hne⟩ := mem_numbered.1 hline
  have htext : some line.text ∈ (rawLines source).map logicalText? := by
    rw [htexts]
    exact List.mem_map_of_mem (List.fst_mem_of_mem_zipIdx hzip)
  obtain ⟨raw, hraw, hlogical⟩ := List.mem_map.1 htext
  rw [rawLines_eq] at hraw
  obtain ⟨part, hpart, rfl⟩ := List.mem_map.1 hraw
  have hline : '\n' ∉ part.rdropWhile (· = '\r') := by
    rw [mem_rdropWhile_iff (by decide)]
    exact not_newline_of_mem_splitOn hpart
  exact isLogical_of_logicalText? hlogical hne hline (List.rdropWhile_idempotent _ part)

/-- Logical texts, one to a line, are read as they are. -/
theorem lines_of_isLogical {texts : List Text} (h : ∀ text ∈ texts, IsLogical text) :
    lines (List.intercalate ['\n'] texts) =
      .ok ((texts.zipIdx 1).map fun (text, number) => ⟨number, text⟩) := by
  rcases eq_or_ne texts [] with rfl | hne
  · rfl
  have hraw : rawLines (List.intercalate ['\n'] texts) = texts := by
    rw [rawLines_eq, List.splitOn_intercalate '\n' (fun text htext => (h text htext).oneLine) hne]
    exact (List.map_congr_left fun text htext => (h text htext).noReturn).trans texts.map_id
  have htexts : (rawLines (List.intercalate ['\n'] texts)).map logicalText? = texts.map some := by
    rw [hraw]
    exact List.map_congr_left fun text htext => (h text htext).logical
  rw [lines_of_texts htexts, numbered_of_ne_nil fun text htext => (h text htext).nonempty]

/-- **The logical lines of a source are read as they are**: as a source of their
own they are never refused, none of them is dropped, and their texts stay. Each
has the number of its place among them. -/
theorem lines_ofLines {ls : List Line} (h : lines source = .ok ls) :
    lines (ofLines ls) = .ok ((ls.zipIdx 1).map fun (line, number) => ⟨number, line.text⟩) := by
  rw [ofLines, lines_of_isLogical (List.forall_mem_map.2 fun line => isLogical_of_mem_lines h),
    List.zipIdx_map, List.map_map]
  rfl

/-- Leading spaces, a carriage return that a comment uncovers, a line of spaces,
a `#` between quotes: the third and the fourth line are the first and the second
afterwards. -/
theorem lines_ofLines_gaps :
    let source := "# title\n   \n  a \t\r# note\nputs \"#\"\r\n".toList
    let kept : List Line := [⟨3, ['a']⟩, ⟨4, "puts \"#\"".toList⟩]
    lines source = .ok kept ∧
      lines (ofLines kept) = .ok [⟨1, ['a']⟩, ⟨2, "puts \"#\"".toList⟩] := by
  intro source kept
  have h : lines source = .ok kept := by decide +kernel
  exact ⟨h, lines_ofLines h⟩

end Source

end LineScript
