/-
The first lines of a source on their own (`Source.firstLines`). Each line is read
by itself and keeps its number, so the first lines are read as what was read of
them in the whole source: the logical lines up to some number
(`Source.lines_firstLines`).
-/
import LineScript.Proofs.Program.Source

namespace LineScript

namespace Source

variable {source : Text}

/-- The first lines of a source, as many as are asked for. -/
def firstLines (n : Nat) (source : Text) : Text :=
  List.intercalate ['\n'] ((source.splitOn '\n').take n)

/-- Texts as lines with their numbers, the empty ones left out. -/
def numbered (n : Nat) (texts : List Text) : List Line :=
  ((texts.zipIdx n).map fun (text, number) => ⟨number, text⟩).filter fun line => !line.text.isEmpty

theorem not_newline_of_mem_splitOn {raw : Text} (h : raw ∈ source.splitOn '\n') : '\n' ∉ raw := by
  intro hmem
  have hsolid := Text.solid_of_mem_splitOnP h '\n' hmem
  simp at hsolid

theorem splitOn_firstLines {n : Nat} (hn : 0 < n) (source : Text) :
    (firstLines n source).splitOn '\n' = (source.splitOn '\n').take n := by
  refine List.splitOn_intercalate '\n' (fun raw hraw => ?_) ?_
  · exact not_newline_of_mem_splitOn (List.mem_of_mem_take hraw)
  · have hne : source.splitOn '\n' ≠ [] := List.splitOnP_ne_nil _ _
    simp [List.take_eq_nil_iff, hne, hn.ne']

/-- Where reading succeeds, every line holds some text. -/
theorem exists_texts {raws : List Text} {n : Nat} {all : List Line}
    (h : ((raws.zipIdx n).mapM fun (raw, number) => readLine raw number) = .ok all) :
    ∃ texts : List Text, raws.map logicalText? = texts.map some := by
  induction raws generalizing n all with
  | nil => exact ⟨[], rfl⟩
  | cons raw raws ih =>
    simp only [List.zipIdx_cons, List.mapM_cons] at h
    cases htext : logicalText? raw with
    | none =>
      have hline : readLine raw n = .error ⟨n⟩ := by rw [readLine, htext]
      rw [hline] at h
      cases h
    | some text =>
      have hline : readLine raw n = .ok ⟨n, text⟩ := by rw [readLine, htext]
      cases hrest : (raws.zipIdx (n + 1)).mapM fun (raw, number) => readLine raw number with
      | error cause =>
        rw [hline, hrest] at h
        cases h
      | ok rest =>
        obtain ⟨texts, htexts⟩ := ih hrest
        exact ⟨text :: texts, by rw [List.map_cons, List.map_cons, htext, htexts]⟩

theorem lines_of_texts {texts : List Text}
    (h : (rawLines source).map logicalText? = texts.map some) :
    lines source = .ok (numbered 1 texts) := by
  rw [lines, mapM_readLine h 1]
  rfl

theorem texts_of_lines {ls : List Line} (h : lines source = .ok ls) :
    ∃ texts, (rawLines source).map logicalText? = texts.map some ∧ ls = numbered 1 texts := by
  cases hall : (((rawLines source).zipIdx 1).mapM fun (raw, number) => readLine raw number) with
  | error cause =>
    rw [lines, hall] at h
    cases h
  | ok all =>
    obtain ⟨texts, htexts⟩ := exists_texts hall
    rw [lines_of_texts htexts] at h
    exact ⟨texts, htexts, (Except.ok.inj h).symm⟩

/-- A source of one line. -/
theorem lines_of_not_mem {text : Text} (hline : '\n' ∉ source)
    (htext : logicalText? (source.rdropWhile (· = '\r')) = some text) :
    lines source = .ok (numbered 1 [text]) := by
  have hone : source.splitOn '\n' = [source] :=
    List.splitOnP_eq_singleton fun c hc => beq_false_of_ne fun heq => hline (heq ▸ hc)
  refine lines_of_texts ?_
  rw [rawLines_eq, hone, List.map_singleton, List.map_singleton, htext, List.map_singleton]

theorem numbered_append (n : Nat) (texts texts' : List Text) :
    numbered n (texts ++ texts') = numbered n texts ++ numbered (n + texts.length) texts' := by
  rw [numbered, List.zipIdx_append, List.map_append, List.filter_append]
  rfl

theorem mem_numbered {n : Nat} {texts : List Text} {line : Line} :
    line ∈ numbered n texts ↔ (line.text, line.number) ∈ texts.zipIdx n ∧ line.text ≠ [] := by
  rw [numbered, List.mem_filter, List.mem_map]
  constructor
  · rintro ⟨⟨⟨text, number⟩, hmem, rfl⟩, hne⟩
    exact ⟨hmem, by simpa using hne⟩
  · rintro ⟨hmem, hne⟩
    exact ⟨⟨_, hmem, rfl⟩, by simpa using hne⟩

/-- Where no text is empty, none is left out. -/
theorem numbered_of_ne_nil {texts : List Text} (h : ∀ text ∈ texts, text ≠ []) (n : Nat) :
    numbered n texts = (texts.zipIdx n).map fun (text, number) => ⟨number, text⟩ := by
  refine List.filter_eq_self.2 fun line hline => ?_
  obtain ⟨⟨text, number⟩, hzip, rfl⟩ := List.mem_map.1 hline
  simpa using h text (List.fst_mem_of_mem_zipIdx hzip)

theorem number_of_mem_numbered {n : Nat} {texts : List Text} {line : Line}
    (h : line ∈ numbered n texts) : n ≤ line.number ∧ line.number < n + texts.length := by
  obtain ⟨hle, hlt, -⟩ := List.mem_zipIdx (mem_numbered.1 h).1
  exact ⟨hle, hlt⟩

/-- The first lines of a source are read as the logical lines up to their
number. -/
theorem lines_firstLines {ls : List Line} (h : lines source = .ok ls) (n : Nat) :
    ∃ front back, lines (firstLines n source) = .ok front ∧ ls = front ++ back ∧
      (∀ line ∈ front, line.number ≤ n) ∧ ∀ line ∈ back, n < line.number := by
  obtain ⟨texts, htexts, rfl⟩ := texts_of_lines h
  rcases Nat.eq_zero_or_pos n with rfl | hn
  · have hnone : lines (firstLines 0 source) = .ok [] := rfl
    exact ⟨[], _, hnone, rfl, nofun, fun line hline => (number_of_mem_numbered hline).1⟩
  · have hfirst : (rawLines (firstLines n source)).map logicalText? = (texts.take n).map some := by
      rw [rawLines_eq, splitOn_firstLines hn, List.map_take, List.map_take, ← rawLines_eq, htexts,
        List.map_take]
    refine ⟨_, numbered (1 + (texts.take n).length) (texts.drop n), lines_of_texts hfirst, ?_,
      fun line hline => ?_, fun line hline => ?_⟩
    · rw [← numbered_append, List.take_append_drop]
    · have hnumber := (number_of_mem_numbered hline).2
      rw [List.length_take] at hnumber
      omega
    · obtain ⟨hle, hlt⟩ := number_of_mem_numbered hline
      rw [List.length_take] at hle hlt
      rw [List.length_drop] at hlt
      omega

/-- Numbers of lines are those of the source. -/
theorem number_of_mem_lines {ls : List Line} (h : lines source = .ok ls) {line : Line}
    (hline : line ∈ ls) : 1 ≤ line.number ∧ line.number ≤ (source.splitOn '\n').length := by
  obtain ⟨texts, htexts, rfl⟩ := texts_of_lines h
  have hlength := congrArg List.length htexts
  rw [List.length_map, List.length_map, rawLines_eq, List.length_map] at hlength
  obtain ⟨hle, hlt⟩ := number_of_mem_numbered hline
  exact ⟨hle, by omega⟩

end Source

end LineScript
