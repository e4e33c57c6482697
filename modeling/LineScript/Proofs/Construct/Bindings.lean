/-
What is read from a binding line. The first `=` of the line cuts it in two; the
name comes from the words of the whole line. The two go together as long as the
`=` is not glued to the first word: then the name is the word in front of the
`=` that a reader takes it for (`LetStatement.named_in_front_iff`), and every
line that is written as a binding is read as that binding, however it is spaced
(`LetStatement.ofLine?_line`).

Where the `=` is glued to the first word, as in `let= t`, the words behind the
first one stand behind the `=`. The name is then taken from the value, and the
line is refused only if the name does not happen to occur in the first word.
-/
import LineScript.Proofs.Construct.Ends
import LineScript.Proofs.Text.Words

namespace LineScript

open Text

namespace LetStatement

/-- All that is asked of a line that is read as a binding. -/
theorem ofLine?_eq_some_iff {line : Text} {s : LetStatement} :
    ofLine? line = some s ↔
      ∃ head tail word, line.cutAt? '=' = some (head, tail) ∧
        nameWord? (line.words.drop 1) = some (word, s.mutable) ∧
        s.name = word.takeWhile (· ≠ '=') ∧ s.literal = tail.trim ∧
        s.name ≠ [] ∧ s.literal ≠ [] ∧ Text.contains s.name head = true := by
  obtain ⟨name, mutable, literal⟩ := s
  unfold ofLine?
  cases hcut : line.cutAt? '=' with
  | none => simp
  | some parts =>
    obtain ⟨head, tail⟩ := parts
    cases hword : nameWord? (line.words.drop 1) with
    | none => simp
    | some found =>
      obtain ⟨word, mutable'⟩ := found
      simp only [Option.bind_eq_bind, Option.bind_some, Option.some.injEq, Prod.mk.injEq]
      constructor
      · intro h
        split at h
        · cases h
        · next hread =>
          simp only [Option.some.injEq, LetStatement.mk.injEq] at h
          obtain ⟨rfl, rfl, rfl⟩ := h
          simp only [Bool.or_eq_true, List.isEmpty_iff, Bool.not_eq_true', not_or,
            Bool.not_eq_false] at hread
          exact ⟨head, tail, word, ⟨rfl, rfl⟩, ⟨rfl, rfl⟩, rfl, rfl, hread.1.1, hread.1.2, hread.2⟩
      · rintro ⟨_, _, _, ⟨rfl, rfl⟩, ⟨rfl, rfl⟩, rfl, rfl, hname, hliteral, hcontains⟩
        rw [List.isEmpty_eq_false_iff.2 hname, List.isEmpty_eq_false_iff.2 hliteral, hcontains]
        rfl

theorem isWord_mutKeyword : mutKeyword.IsWord := by decide

/-- A name is marked as mutable by the second word of the line and by nothing else. -/
theorem mutable_of_nameWord? {words : List Text} {word : Text} {mutable : Bool}
    (h : nameWord? words = some (word, mutable)) :
    mutable = true ↔ words.head? = some mutKeyword := by
  cases words with
  | nil => cases h
  | cons first rest =>
    rw [nameWord?] at h
    split at h
    next hmut =>
      obtain ⟨word', -, heq⟩ := Option.map_eq_some_iff.1 h
      simp only [Prod.mk.injEq] at heq
      simp [← heq.2, hmut]
    next hmut =>
      simp only [Option.some.injEq, Prod.mk.injEq] at h
      simp [← h.2, hmut]

/-! ## The name in front of the sign -/

section

variable {stem rest : Text}

theorem takeWhile_stem (hstem : '=' ∉ stem) (rest : Text) :
    (stem ++ '=' :: rest).takeWhile (· ≠ '=') = stem := by
  have hall : ∀ c ∈ stem, decide (c ≠ '=') = true := by
    intro c hc
    simpa using fun heq : c = '=' => hstem (heq ▸ hc)
  rw [List.takeWhile_append_of_pos hall, List.takeWhile_cons_of_neg (by simp), List.append_nil]

theorem stem_ne_mutKeyword : stem ++ '=' :: rest ≠ mutKeyword := by
  intro h
  have hmem : '=' ∈ mutKeyword := by
    rw [← h]
    simp
  exact absurd hmem (by decide)

theorem takeWhile_eq_self {t : Text} (ht : '=' ∉ t) : t.takeWhile (· ≠ '=') = t := by
  refine List.takeWhile_eq_self_iff.2 fun c hc => ?_
  simpa using fun heq : c = '=' => ht (heq ▸ hc)

/-- The word that holds the name is one of those in front of the sign, or the one
with the sign in it. -/
theorem exists_of_nameWord? {front back : List Text} {word : Text} {mutable : Bool}
    (hfront : ∀ w ∈ front, '=' ∉ w) (hstem : '=' ∉ stem)
    (h : nameWord? (front ++ (stem ++ '=' :: rest) :: back) = some (word, mutable)) :
    ∃ more, front ++ [stem] =
      (if mutable then [mutKeyword] else []) ++ word.takeWhile (· ≠ '=') :: more := by
  cases front with
  | nil =>
    rw [List.nil_append, nameWord?, if_neg stem_ne_mutKeyword] at h
    obtain ⟨rfl, rfl⟩ := Prod.mk.inj (Option.some.inj h)
    exact ⟨[], by rw [takeWhile_stem hstem]; rfl⟩
  | cons first front =>
    obtain ⟨hfirst, hfront⟩ := List.forall_mem_cons.1 hfront
    rw [List.cons_append, nameWord?] at h
    split at h
    next hmut =>
      obtain ⟨word', hword, heq⟩ := Option.map_eq_some_iff.1 h
      obtain ⟨rfl, rfl⟩ := Prod.mk.inj heq
      cases front with
      | nil =>
        obtain rfl := Option.some.inj hword
        exact ⟨[], by rw [takeWhile_stem hstem, hmut]; rfl⟩
      | cons second front =>
        obtain rfl := Option.some.inj hword
        exact ⟨front ++ [stem], by rw [takeWhile_eq_self (hfront second (by simp)), hmut]; rfl⟩
    next =>
      obtain ⟨rfl, rfl⟩ := Prod.mk.inj (Option.some.inj h)
      exact ⟨front ++ [stem], by rw [takeWhile_eq_self hfirst]; rfl⟩

end

/-- Whether the `=` of a line is glued to its first word. -/
def SignGlued (line : Text) : Prop :=
  '=' ∈ line.firstWord?.getD []

instance : DecidablePred SignGlued :=
  fun line => inferInstanceAs (Decidable ('=' ∈ line.firstWord?.getD []))

/-- Whether some words are a first word, `mut` if the name is mutable, and the
name; more words may follow. -/
def NamedIn (s : LetStatement) (words : List Text) : Prop :=
  ∃ first more, words = first :: ((if s.mutable then [mutKeyword] else []) ++ s.name :: more)

theorem not_namedIn_singleton (s : LetStatement) (first : Text) : ¬s.NamedIn [first] := by
  rintro ⟨_, more, h⟩
  cases hmut : s.mutable <;> simp [hmut] at h

section

variable {line : Text} {s : LetStatement} (h : ofLine? line = some s)

include h

theorem isWord_name : s.name.IsWord := by
  obtain ⟨head, tail, word, -, hword, hname, -, hne, -, -⟩ := ofLine?_eq_some_iff.1 h
  have hsolid := isWord_of_mem_words (List.mem_of_mem_drop (mem_of_nameWord? hword))
  refine ⟨hne, fun c hc => hsolid.solid c ?_⟩
  rw [hname] at hc
  exact (List.takeWhile_sublist _).subset hc

theorem sign_not_mem_name : '=' ∉ s.name := by
  obtain ⟨head, tail, word, -, -, hname, -⟩ := ofLine?_eq_some_iff.1 h
  intro hmem
  rw [hname] at hmem
  simpa using List.mem_takeWhile_imp hmem

theorem mutable_iff_second_word : s.mutable = true ↔ line.words[1]? = some mutKeyword := by
  obtain ⟨head, tail, word, -, hword, -⟩ := ofLine?_eq_some_iff.1 h
  have hmutable := mutable_of_nameWord? hword
  rwa [List.head?_drop] at hmutable

/-- A first word without the sign has the name among the words behind it. -/
theorem namedIn_of_words {first stem rest : Text} {front back : List Text}
    (hwords : line.words = first :: (front ++ (stem ++ '=' :: rest) :: back))
    (hstem : '=' ∉ stem) (hfront : ∀ w ∈ front, '=' ∉ w) :
    s.NamedIn ((first :: (front ++ [stem])).filter fun w => !w.isEmpty) := by
  obtain ⟨head, tail, word, -, hword, hname, -, hne, -, -⟩ := ofLine?_eq_some_iff.1 h
  have hfirst : first ∈ line.words := by
    rw [hwords]
    exact List.mem_cons_self ..
  have hfirstNe := (isWord_of_mem_words hfirst).ne_nil
  rw [hwords] at hword
  obtain ⟨more, hmore⟩ := exists_of_nameWord? hfront hstem hword
  refine ⟨first, more.filter fun w => !w.isEmpty, ?_⟩
  rw [hmore, ← hname]
  cases s.mutable <;> simp [hfirstNe, hne, isWord_mutKeyword.ne_nil]

end

/-- **The name of a binding stands in front of the sign, where the sign is not
glued to the first word.** Whatever is read from a line, its name is a word
without `=`, its literal is what stands behind the first `=` of the line, trimmed
and not empty, and it is mutable if the second word of the line says so. In front
of the sign stand a first word, `mut` if the name is mutable, and the name, with
or without more words, if and only if the sign is not glued to the first word.
Where it is, nothing but a part of that word stands there, and the name only
occurs in it. -/
theorem named_in_front_iff {line : Text} {s : LetStatement} (h : ofLine? line = some s) :
    ∃ head tail : Text, line = head ++ '=' :: tail ∧ '=' ∉ head ∧
      s.name.IsWord ∧ '=' ∉ s.name ∧ s.literal = tail.trim ∧ s.literal ≠ [] ∧
      (s.mutable = true ↔ line.words[1]? = some mutKeyword) ∧
      (s.NamedIn head.words ↔ ¬SignGlued line) ∧
      (SignGlued line → ∃ first, head.words = [first] ∧ s.name <:+: first) := by
  obtain ⟨head, tail, -, hcut, -, -, hliteral, -, hfull, hcontains⟩ := ofLine?_eq_some_iff.1 h
  have hhead := not_mem_of_cutAt? hcut
  have hline := eq_of_cutAt? hcut
  have hname := isWord_name h
  refine ⟨head, tail, hline, hhead, hname, sign_not_mem_name h, hliteral, hfull,
    mutable_iff_second_word h, ?_⟩
  obtain ⟨front, stem, back, hwords, hheadWords, hstem, hfront⟩ :=
    words_cut (c := '=') (by decide) hhead tail
  rw [← hline] at hwords
  cases front with
  | nil =>
    have hglued : SignGlued line := by
      rw [SignGlued, firstWord?, hwords]
      simp
    have honly : ∃ first, head.words = [first] ∧ s.name <:+: first := by
      obtain ⟨first, hmem, hinfix⟩ := exists_infix_of_contains hname hcontains
      have hmem' := hmem
      rw [hheadWords, List.mem_filter, List.nil_append, List.mem_singleton] at hmem'
      obtain ⟨rfl, hne⟩ := hmem'
      refine ⟨first, ?_, hinfix⟩
      rw [hheadWords]
      exact List.filter_eq_self.2 (List.forall_mem_singleton.2 hne)
    refine ⟨⟨fun hnamed => ?_, fun hnot => absurd hglued hnot⟩, fun _ => honly⟩
    obtain ⟨first, hone, -⟩ := honly
    rw [hone] at hnamed
    exact absurd hnamed (not_namedIn_singleton s first)
  | cons first front =>
    obtain ⟨hfirst, hfront⟩ := List.forall_mem_cons.1 hfront
    have hapart : ¬SignGlued line := by
      rw [SignGlued, firstWord?, hwords]
      exact hfirst
    have hnamed := namedIn_of_words h hwords hstem hfront
    rw [hheadWords]
    exact ⟨⟨fun _ => hapart, fun _ => hnamed⟩, fun hglued => absurd hglued hapart⟩

/-- The sign is glued to the name, and the value has a sign and `mut` in it. -/
theorem named_in_front_mut :
    let line : Text := "let mut x= y = mut".toList
    let s : LetStatement := ⟨['x'], true, "y = mut".toList⟩
    ofLine? line = some s ∧ ¬SignGlued line ∧ ∃ head tail : Text, line = head ++ '=' :: tail ∧
      '=' ∉ head ∧ s.literal = tail.trim ∧ s.NamedIn head.words := by
  intro line s
  have hread : ofLine? line = some s := by decide +kernel
  have hapart : ¬SignGlued line := by decide +kernel
  obtain ⟨head, tail, hline, hhead, -, -, hliteral, -, -, hnamed, -⟩ := named_in_front_iff hread
  exact ⟨hread, hapart, head, tail, hline, hhead, hliteral, hnamed.2 hapart⟩

/-- One word stands in front of the sign, and its last letter is the name, which
stands behind the sign. -/
theorem named_behind_sign :
    let line : Text := "let= t".toList
    let head : Text := "let".toList
    let s : LetStatement := ⟨['t'], false, ['t']⟩
    ofLine? line = some s ∧ line = head ++ '=' :: " t".toList ∧ '=' ∉ head ∧
      head.words = [head] ∧ ¬s.NamedIn head.words := by
  intro line head s
  have hwords : head.words = [head] := by decide +kernel
  refine ⟨by decide +kernel, by decide, by decide, hwords, ?_⟩
  rw [hwords]
  exact not_namedIn_singleton s head

/-! ## Bindings that are written -/

/-- The white space of a binding line: in front of it, between its words, and on
both sides of the sign, where there may be none. -/
structure Spacing where
  front : Text
  behindKeyword : Text
  behindMut : Text
  beforeSign : Text
  behindSign : Text
  blank : ∀ gap ∈ [front, behindKeyword, behindMut, beforeSign, behindSign],
    ∀ c ∈ gap, isBlank c = true
  behindKeyword_ne_nil : behindKeyword ≠ []
  behindMut_ne_nil : behindMut ≠ []

namespace Spacing

variable (gaps : Spacing)

/-- A binding line up to its sign. -/
def head (keyword : Text) (mutable : Bool) (name : Text) : Text :=
  gaps.front ++ (keyword ++ (gaps.behindKeyword ++
    ((if mutable then mutKeyword ++ gaps.behindMut else []) ++ (name ++ gaps.beforeSign))))

/-- A binding line. -/
def line (keyword : Text) (mutable : Bool) (name text : Text) : Text :=
  gaps.head keyword mutable name ++ '=' :: (gaps.behindSign ++ text)

theorem contains_head (keyword : Text) (mutable : Bool) (name : Text) :
    Text.contains name (gaps.head keyword mutable name) = true := by
  have h := contains_append (gaps.front ++ (keyword ++ (gaps.behindKeyword ++
    if mutable then mutKeyword ++ gaps.behindMut else []))) name gaps.beforeSign
  simpa [head] using h

theorem sign_not_mem : ∀ gap ∈ [gaps.front, gaps.behindKeyword, gaps.behindMut,
    gaps.beforeSign, gaps.behindSign], '=' ∉ gap := by
  intro gap hgap hmem
  exact absurd (gaps.blank gap hgap '=' hmem) (by decide)

section

variable {keyword name : Text} (hkeyword : keyword.IsWord) (hkeywordSign : '=' ∉ keyword)
  (hname : name.IsWord) (hnameSign : '=' ∉ name) (mutable : Bool) (text : Text)

include hkeywordSign hnameSign in
theorem cutAt?_line :
    (gaps.line keyword mutable name text).cutAt? '=' =
      some (gaps.head keyword mutable name, gaps.behindSign ++ text) := by
  have hhead : '=' ∉ gaps.head keyword mutable name := by
    have hmut : '=' ∉ mutKeyword := by decide
    have hgaps := gaps.sign_not_mem
    simp only [List.forall_mem_cons] at hgaps
    cases mutable <;> simp [head, hkeywordSign, hnameSign, hmut, hgaps]
  rw [line, cutAt?_append_cons hhead]

include hname hnameSign in
/-- The word that starts with the name ends at the white space in front of the
sign, or goes on with the sign if there is none. -/
theorem exists_words_name (rest : Text) :
    ∃ word back, words (name ++ (gaps.beforeSign ++ '=' :: rest)) = word :: back ∧
      word.takeWhile (· ≠ '=') = name ∧ (word = mutKeyword → name = mutKeyword) := by
  cases hgap : gaps.beforeSign with
  | nil =>
    have hglued : glued ('=' :: rest) = '=' :: glued rest :=
      List.takeWhile_cons_of_pos (by decide)
    refine ⟨_, _, hname.words_glued _, ?_, fun hmut => ?_⟩
    · rw [List.nil_append, hglued, takeWhile_stem hnameSign]
    · rw [List.nil_append, hglued] at hmut
      exact absurd hmut stem_ne_mutKeyword
  | cons b gap =>
    have hblank : isBlank b = true := gaps.blank gaps.beforeSign (by simp) b (by simp [hgap])
    exact ⟨name, _, hname.words_append hblank _, takeWhile_eq_self hnameSign, id⟩

include hkeyword hname hnameSign in
theorem nameWord?_line (hmut : name = mutKeyword → mutable = true) :
    ∃ word, nameWord? ((gaps.line keyword mutable name text).words.drop 1) =
      some (word, mutable) ∧ word.takeWhile (· ≠ '=') = name := by
  obtain ⟨word, back, hwords, htake, hword⟩ :=
    gaps.exists_words_name hname hnameSign (gaps.behindSign ++ text)
  have hfront := ignoresEnds_words.blanks_append (gaps.blank gaps.front (by simp))
  have hfirst := hkeyword.words_append_gap (gaps.blank gaps.behindKeyword (by simp))
    gaps.behindKeyword_ne_nil
  have hsecond := isWord_mutKeyword.words_append_gap (gaps.blank gaps.behindMut (by simp))
    gaps.behindMut_ne_nil
  refine ⟨word, ?_, htake⟩
  rw [line, head]
  simp only [List.append_assoc, hfront, hfirst, List.drop_one, List.tail_cons]
  cases mutable with
  | true => simp [hsecond, hwords, nameWord?]
  | false =>
    have hne : word ≠ mutKeyword := fun heq => Bool.false_ne_true (hmut (hword heq))
    simp [hwords, nameWord?, hne]

end

end Spacing

/-- **A binding that is written is read back, however it is spaced.** The first
word is any word and the name is any word, both without `=`; the value is any text
that is not all white space. White space stands in front and around the sign or
not at all. A name that is not marked as mutable must not be `mut`. -/
theorem ofLine?_line (gaps : Spacing) {keyword name text : Text} (hkeyword : keyword.IsWord)
    (hkeywordSign : '=' ∉ keyword) (hname : name.IsWord) (hnameSign : '=' ∉ name)
    (htext : text.trim ≠ []) {mutable : Bool} (hmut : name = mutKeyword → mutable = true) :
    ofLine? (gaps.line keyword mutable name text) = some ⟨name, mutable, text.trim⟩ := by
  obtain ⟨word, hword, htake⟩ :=
    gaps.nameWord?_line hkeyword hname hnameSign mutable text hmut
  have htrim : Text.trim (gaps.behindSign ++ text) = text.trim :=
    ignoresEnds_trim.blanks_append (gaps.blank gaps.behindSign (by simp)) text
  exact ofLine?_eq_some_iff.2 ⟨_, _, word, gaps.cutAt?_line hkeywordSign hnameSign mutable text,
    hword, htake.symm, htrim.symm, hname.ne_nil, htext, gaps.contains_head keyword mutable name⟩

/-- A name that is `mut` itself, glued to the sign, with a tab and a no-break space
and with the name and the sign once more in the value. -/
theorem ofLine?_line_mut :
    let gaps : Spacing :=
      ⟨[' '], ['\t'], [' ', ' '], [], ['\u00A0'], by simp [isBlank], by decide, by decide⟩
    let keyword : Text := "let".toList
    let text : Text := "a = mut ".toList
    gaps.line keyword true mutKeyword text = " let\tmut  mut=\u00A0a = mut ".toList ∧
      keyword.IsWord ∧ '=' ∉ keyword ∧ mutKeyword.IsWord ∧ '=' ∉ mutKeyword ∧ text.trim ≠ [] ∧
      ofLine? (gaps.line keyword true mutKeyword text) =
        some ⟨mutKeyword, true, "a = mut".toList⟩ := by
  intro gaps keyword text
  have hkeyword : keyword.IsWord := by decide
  have hkeywordSign : '=' ∉ keyword := by decide
  have hnameSign : '=' ∉ mutKeyword := by decide
  have htext : text.trim ≠ [] := by decide
  have htrim : text.trim = "a = mut".toList := by decide
  refine ⟨by decide, hkeyword, hkeywordSign, isWord_mutKeyword, hnameSign, htext, ?_⟩
  rw [ofLine?_line gaps hkeyword hkeywordSign isWord_mutKeyword hnameSign htext fun _ => rfl, htrim]

end LetStatement

end LineScript
