/-
The lines of a source text that was printed are the lines that were printed
(`Program.lines_source`). What a line needs for that is said by
`PrintedLine.Kept`: it does not start with a space or a carriage return, and if
it holds a `#` that one stands between quotes, the last of which ends the line.
-/
import LineScript.Proofs.Program.Tree

namespace LineScript

open Text

namespace Source

theorem rawLines_eq (source : Text) :
    rawLines source = (source.splitOn '\n').map (·.rdropWhile (· = '\r')) :=
  rfl

/-- A line without a mark of comments is code. -/
theorem code?_of_not_mem {raw : Text} (h : '#' ∉ raw) : code? raw = some raw := by
  rw [code?, cutAt?_eq_none_iff.2 h]

/-- So is a line that ends in quotes and has the mark only between them. -/
theorem code?_of_quoted {before : Text} (h : '#' ∉ before) (inner : Text) :
    code? (before ++ '"' :: (inner ++ ['"'])) = some (before ++ '"' :: (inner ++ ['"'])) := by
  cases hcut : cutAt? '#' inner with
  | none =>
    have hinner := cutAt?_eq_none_iff.1 hcut
    exact code?_of_not_mem (by simp [h, hinner])
  | some parts =>
    obtain ⟨front, back⟩ := parts
    have hquoted : cutAt? '#' (before ++ '"' :: (inner ++ ['"'])) =
        some (before ++ '"' :: front, back ++ ['"']) := by
      rw [cutAt?_append_of_not_mem h, cutAt?, if_neg (by decide), cutAt?_append hcut]
      rfl
    rw [code?, hquoted]
    simp

theorem mapM_readLine {raws texts : List Text} (h : raws.map logicalText? = texts.map some)
    (n : Nat) : ((raws.zipIdx n).mapM fun (raw, number) => readLine raw number) =
      .ok ((texts.zipIdx n).map fun (text, number) => ⟨number, text⟩) := by
  induction raws generalizing texts n with
  | nil =>
    obtain rfl : texts = [] := by simpa using h.symm
    rfl
  | cons raw raws ih =>
    cases texts with
    | nil => simp at h
    | cons text texts =>
      obtain ⟨hraw, hraws⟩ := List.cons.inj h
      have hline : readLine raw n = .ok ⟨n, text⟩ := by rw [readLine, hraw]
      simp only [List.zipIdx_cons, List.mapM_cons, hline, ih hraws]
      rfl

end Source

namespace PrintedLine

/-- The line is read as it is written, its indentation and the carriage returns
at its end apart. -/
structure Kept (l : PrintedLine) : Prop where
  oneLine : '\n' ∉ l.code
  starts : ∃ c rest, l.code = c :: rest ∧ c ≠ ' ' ∧ c ≠ '\r'
  marks : '#' ∉ l.code ∨
    ∃ before inner, l.code = before ++ '"' :: (inner ++ ['"']) ∧ '#' ∉ before

variable {l : PrintedLine} {ls : List PrintedLine}

theorem Kept.logical_eq (h : l.Kept) :
    ∃ c rest, l.logical = c :: rest ∧ c ≠ ' ' ∧
      l.text.rdropWhile (· = '\r') = List.replicate l.indent ' ' ++ l.logical := by
  obtain ⟨c, rest, hcode, hspace, hreturn⟩ := h.starts
  have hlogical : l.logical = c :: rest.rdropWhile (· = '\r') := by
    rw [logical, hcode]
    exact rdropWhile_append_cons (by simp [hreturn]) [] rest
  refine ⟨c, _, hlogical, hspace, ?_⟩
  rw [text, hcode, hlogical]
  exact rdropWhile_append_cons (by simp [hreturn]) _ rest

/-- Behind its indentation the line is code and nothing else. -/
theorem Kept.code? (h : l.Kept) :
    Source.code? (List.replicate l.indent ' ' ++ l.logical) =
      some (List.replicate l.indent ' ' ++ l.logical) := by
  rcases h.marks with hnone | ⟨before, inner, heq, hbefore⟩
  · have hsub : l.logical ⊆ l.code := (List.rdropWhile_prefix _ l.code).subset
    refine Source.code?_of_not_mem fun hmem => ?_
    rcases List.mem_append.1 hmem with hmem | hmem
    · exact absurd (List.eq_of_mem_replicate hmem) (by decide)
    · exact hnone (hsub hmem)
  · -- The quote at the end is no carriage return, so that none of the line is cut off.
    have hends : l.logical = before ++ '"' :: (inner ++ ['"']) := by
      rw [logical, heq, ← List.cons_append, ← List.append_assoc]
      exact List.rdropWhile_concat_neg _ _ _ (by decide)
    have hindent : '#' ∉ List.replicate l.indent ' ' ++ before := by
      simp [hbefore]
    have hquoted := Source.code?_of_quoted hindent inner
    rwa [List.append_assoc, ← hends] at hquoted

theorem Kept.logicalText? (h : l.Kept) :
    Source.logicalText? (l.text.rdropWhile (· = '\r')) = some l.logical := by
  obtain ⟨c, rest, hlogical, hspace, hraw⟩ := h.logical_eq
  have hspaces : (List.replicate l.indent ' ' ++ l.logical).dropWhile (· = ' ') = l.logical := by
    rw [List.dropWhile_append_of_pos (by simp), hlogical]
    exact List.dropWhile_cons_of_neg (by simp [hspace])
  rw [hraw, Source.logicalText?, h.code?, Option.map_some, hspaces]

theorem number_eq (n : Nat) (ls : List PrintedLine) :
    number n ls = ((ls.map logical).zipIdx n).map fun (text, number) => ⟨number, text⟩ := by
  induction ls generalizing n with
  | nil => rfl
  | cons l rest ih =>
    rw [number, ih, List.map_cons, List.zipIdx_cons, List.map_cons]

theorem number_append (n : Nat) (ls ls' : List PrintedLine) :
    number n (ls ++ ls') = number n ls ++ number (n + ls.length) ls' := by
  induction ls generalizing n with
  | nil => rfl
  | cons l rest ih =>
    rw [List.cons_append, number, ih, number, List.length_cons, Nat.add_right_comm, Nat.add_assoc,
      List.cons_append]

theorem text_ne_nil_of_mem_number (h : ∀ l ∈ ls, l.Kept) {n : Nat} {line : Line}
    (hmem : line ∈ number n ls) : line.text ≠ [] := by
  induction ls generalizing n with
  | nil => cases hmem
  | cons l rest ih =>
    rcases List.mem_cons.1 hmem with rfl | hmem
    · obtain ⟨c, tail, hlogical, -⟩ := (h l (List.mem_cons_self ..)).logical_eq
      simp [hlogical]
    · exact ih (fun l hl => h l (List.mem_cons_of_mem _ hl)) hmem

end PrintedLine

namespace Source

/-- Lines that are kept, and some empty ones behind them. -/
theorem lines_of_kept {source : Text} {ls : List PrintedLine} (h : ∀ l ∈ ls, l.Kept) (k : Nat)
    (hsplit : source.splitOn '\n' = ls.map PrintedLine.text ++ List.replicate k []) :
    lines source = .ok (PrintedLine.number 1 ls) := by
  have hlogical : (rawLines source).map logicalText? =
      (ls.map PrintedLine.logical ++ List.replicate k []).map some := by
    rw [rawLines_eq, hsplit]
    simp only [List.map_append, List.map_map, List.map_replicate]
    congr 1
    exact List.map_congr_left fun l hl => (h l hl).logicalText?
  have hkept : (PrintedLine.number 1 ls).filter (fun line => !line.text.isEmpty) =
      PrintedLine.number 1 ls := by
    refine List.filter_eq_self.2 fun line hline => ?_
    simpa using PrintedLine.text_ne_nil_of_mem_number h hline
  have hempty : ∀ line ∈ ((List.replicate k ([] : Text)).zipIdx (1 + ls.length)).map
      (fun (text, number) => (⟨number, text⟩ : Line)), ¬(!line.text.isEmpty) = true := by
    intro line hline
    obtain ⟨⟨text, number⟩, hmem, rfl⟩ := List.mem_map.1 hline
    have htext : text = [] := List.eq_of_mem_replicate (List.fst_mem_of_mem_zipIdx hmem)
    simp [htext]
  rw [lines, mapM_readLine hlogical 1]
  show Except.ok (List.filter _ _) = _
  rw [List.zipIdx_append, List.map_append, List.filter_append, ← PrintedLine.number_eq, hkept,
    List.length_map, List.filter_eq_nil_iff.2 hempty, List.append_nil]

end Source

/-! ## Printed programs -/

namespace Name

variable (name : Name)

/-- The marks that matter when a line is read are not in a name. -/
theorem not_mem {c : Char} (hc : isIdentifierPart c = false) : c ∉ name.text :=
  not_mem_of_isIdentifier name.identifier hc

theorem isWord : name.text.IsWord :=
  isWord_of_isIdentifier name.identifier

theorem ne_mutKeyword : name.text ≠ LetStatement.mutKeyword := by
  intro h
  exact name.free (by simp [h, reservedWords])

theorem ne_booleanText (b : Bool) : name.text ≠ Value.booleanText b := by
  intro h
  exact name.free (by cases b <;> simp [h, reservedWords])

end Name

namespace Literal

/-- A literal is made of identifier characters, or it is one character between
marks, or a text in quotes. -/
theorem toLiteral_cases (literal : Literal) :
    (literal.value.toLiteral ≠ [] ∧ ∀ c ∈ literal.value.toLiteral, isIdentifierPart c = true) ∨
      (∃ c, literal.value.toLiteral = ['\'', c, '\''] ∧ '\n' ≠ c ∧ '#' ≠ c) ∨
      ∃ t, literal.value.toLiteral = '"' :: (t ++ ['"']) ∧ '\n' ∉ t := by
  obtain ⟨value, hvalue⟩ := literal
  cases value with
  | integer i =>
    obtain ⟨n, -, -, hlit⟩ := Value.toLiteral_integer hvalue
    have hdigits := isDigits_toDigits n
    simp only [isDigits, Bool.and_eq_true, List.all_eq_true] at hdigits
    left
    rw [hlit]
    refine ⟨Nat.toDigits_ne_nil, fun c hc => ?_⟩
    simp [isIdentifierPart, isNumeric_of_isDigit (hdigits.2 c hc)]
  | boolean b =>
    have htext : (Value.booleanText b).isIdentifier = true := by cases b <;> decide +kernel
    have hword := isWord_of_isIdentifier htext
    exact .inl ⟨hword.ne_nil, List.all_eq_true.1 (all_isIdentifierPart htext)⟩
  | character c =>
    simp only [Value.IsWritable, List.mem_cons, List.not_mem_nil, or_false, not_or] at hvalue
    exact .inr (.inl ⟨c, rfl, Ne.symm hvalue.2.2, Ne.symm hvalue.2.1⟩)
  | text t => exact .inr (.inr ⟨t, rfl, hvalue⟩)
  | reference raw =>
    obtain ⟨name, rfl⟩ := hvalue
    exact .inl ⟨name.isWord.ne_nil, List.all_eq_true.1 (all_isIdentifierPart name.identifier)⟩
  | float x => exact absurd hvalue id
  | arithmetic raw => exact absurd hvalue id

theorem newline_not_mem (literal : Literal) : '\n' ∉ literal.value.toLiteral := by
  rcases literal.toLiteral_cases with ⟨-, hparts⟩ | ⟨c, hlit, hne, -⟩ | ⟨t, hlit, ht⟩
  · exact fun hmem => absurd (hparts _ hmem) (by decide +kernel)
  · simp [hlit, hne]
  · simp [hlit, ht]

/-- A mark of comments is in a literal only between quotes. -/
theorem mark_not_mem_or_quoted (literal : Literal) :
    '#' ∉ literal.value.toLiteral ∨ ∃ t, literal.value.toLiteral = '"' :: (t ++ ['"']) := by
  rcases literal.toLiteral_cases with ⟨-, hparts⟩ | ⟨c, hlit, -, hne⟩ | ⟨t, hlit, -⟩
  · exact .inl fun hmem => absurd (hparts _ hmem) (by decide +kernel)
  · exact .inl (by simp [hlit, hne])
  · exact .inr ⟨t, hlit⟩

/-- There is no white space at either end of a literal. -/
theorem solid_ends (literal : Literal) :
    ∃ c rest last, literal.value.toLiteral = c :: rest ∧ isBlank c = false ∧
      (c :: rest).getLast? = some last ∧ isBlank last = false := by
  rcases literal.toLiteral_cases with ⟨hne, hparts⟩ | ⟨c, hlit, -⟩ | ⟨t, hlit, -⟩
  · have hsolid : ∀ c ∈ literal.value.toLiteral, isBlank c = false := by
      intro c hc
      cases hblank : isBlank c with
      | false => rfl
      | true => rw [← hparts c hc, isIdentifierPart_of_isBlank hblank]
    obtain ⟨c, rest, heq⟩ := List.exists_cons_of_ne_nil hne
    rw [heq] at hsolid
    exact ⟨c, rest, _, heq, hsolid c (List.mem_cons_self ..),
      List.getLast?_eq_getLast_of_ne_nil (List.cons_ne_nil c rest), hsolid _ (List.getLast_mem _)⟩
  · exact ⟨_, _, '\'', hlit, by decide, rfl, by decide⟩
  · exact ⟨_, _, '"', hlit, by decide, List.getLast?_concat (l := '"' :: t), by decide⟩

end Literal

namespace Program

/-- A binding is kept if its literal stays on one line and holds a mark of
comments only between quotes. -/
theorem kept_binding (indent : Nat) (mutable : Bool) {name literal : Text}
    (hname : name.isIdentifier = true) (hline : '\n' ∉ literal)
    (hliteral : '#' ∉ literal ∨ ∃ t, literal = '"' :: (t ++ ['"'])) :
    PrintedLine.Kept ⟨indent, bindingCode mutable name literal⟩ := by
  obtain ⟨front, hcode, hmark, hnewline⟩ : ∃ front, bindingCode mutable name literal =
      front ++ literal ∧ '#' ∉ front ∧ '\n' ∉ front := by
    refine ⟨Construct.binding.keyword ++ ' ' ::
      ((if mutable then LetStatement.mutKeyword ++ [' '] else []) ++ name ++ [' ', '=', ' ']),
      ?_, ?_⟩
    · simp [bindingCode]
    · have hmark := not_mem_of_isIdentifier hname (c := '#') (by decide +kernel)
      have hnewline := not_mem_of_isIdentifier hname (c := '\n') (by decide +kernel)
      cases mutable <;> simp [Construct.keyword, LetStatement.mutKeyword, hmark, hnewline]
  refine ⟨?_, ⟨'l', _, rfl, by decide, by decide⟩, ?_⟩
  · show '\n' ∉ bindingCode _ _ _
    rw [hcode]
    simp [hnewline, hline]
  · show '#' ∉ bindingCode _ _ _ ∨ ∃ before inner, bindingCode _ _ _ = _ ∧ _
    rw [hcode]
    rcases hliteral with hnone | ⟨inner, hlit⟩
    · left
      simp [hmark, hnone]
    · exact .inr ⟨front, inner, by rw [hlit], hmark⟩

theorem kept_of_plain {l : PrintedLine} (hstart : ∃ c rest, l.code = c :: rest ∧ c ≠ ' ' ∧ c ≠ '\r')
    (hplain : ∀ c ∈ ['\n', '#'], c ∉ l.code) : l.Kept :=
  ⟨hplain _ (by simp), hstart, .inl (hplain _ (by simp))⟩

theorem kept_brace (indent : Nat) {c : Char} (h : c ∈ ['{', '}']) :
    PrintedLine.Kept ⟨indent, [c]⟩ := by
  simp only [List.mem_cons, List.not_mem_nil, or_false] at h
  rcases h with rfl | rfl <;> exact kept_of_plain ⟨_, [], rfl, by decide, by decide⟩ (by simp)

theorem kept_puts (indent : Nat) (name : Name) :
    PrintedLine.Kept ⟨indent, putsCode name.text⟩ := by
  refine kept_of_plain ⟨'p', _, rfl, by decide, by decide⟩ ?_
  have hmark := name.not_mem (c := '#') (by decide +kernel)
  have hnewline := name.not_mem (c := '\n') (by decide +kernel)
  simp [putsCode, Construct.keyword, hmark, hnewline]

theorem kept_header (indent : Nat) (kind : BlockKind) {t : Text} (h : ∀ c ∈ ['\n', '#'], c ∉ t) :
    PrintedLine.Kept ⟨indent, headerCode kind t⟩ := by
  refine kept_of_plain ?_ ?_
  · cases kind <;> exact ⟨_, _, rfl, by decide, by decide⟩
  · cases kind <;> simpa [headerCode, BlockKind.keyword] using h

theorem kept_openingLines (indent : Nat) (kind : BlockKind) (condition : Condition)
    (brace : BracePlace) : ∀ l ∈ openingLines indent kind condition brace, l.Kept := by
  have hplain : ∀ c ∈ ['\n', '#'], c ∉ condition.text :=
    fun c hc => condition.plain c (List.subset_append_left _ ['"', '{'] hc)
  cases brace with
  | sameLine =>
    intro l hl
    obtain rfl := List.mem_singleton.1 hl
    refine kept_header indent kind fun c hc hmem => ?_
    rcases List.mem_append.1 hmem with hmem | hmem
    · exact hplain c hc hmem
    · simp only [List.mem_cons, List.not_mem_nil, or_false] at hmem
      rcases hmem with rfl | rfl <;> simp at hc
  | nextLine braceIndent =>
    intro l hl
    simp only [openingLines, List.mem_cons, List.not_mem_nil, or_false] at hl
    rcases hl with rfl | rfl
    · exact kept_header indent kind hplain
    · exact kept_brace braceIndent (by simp)

theorem kept_printed (p : Program) : ∀ l ∈ p.printed, l.Kept := by
  induction p with
  | done => exact fun l hl => absurd hl List.not_mem_nil
  | binding indent mutable name literal rest ih =>
    have hline := kept_binding indent mutable name.identifier literal.newline_not_mem
      literal.mark_not_mem_or_quoted
    exact List.forall_mem_cons.2 ⟨hline, ih⟩
  | puts indent name rest ih => exact List.forall_mem_cons.2 ⟨kept_puts indent name, ih⟩
  | block indent kind condition brace body closeIndent rest ihbody ihrest =>
    have hclose := kept_brace closeIndent (c := '}') (by simp)
    refine List.forall_mem_append.2 ⟨?_, List.forall_mem_cons.2 ⟨hclose, ihrest⟩⟩
    exact List.forall_mem_append.2 ⟨kept_openingLines indent kind condition brace, ihbody⟩

/-- The source text of a program has the lines that were printed. -/
theorem lines_source (p : Program) (endOfLine : Bool) :
    Source.lines (p.source endOfLine) = .ok (PrintedLine.number 1 p.printed) := by
  have hlines : ∀ t ∈ p.printed.map PrintedLine.text, '\n' ∉ t := by
    intro t ht
    obtain ⟨l, hl, rfl⟩ := List.mem_map.1 ht
    simp [PrintedLine.text, (p.kept_printed l hl).oneLine]
  obtain ⟨k, hk⟩ : ∃ k, (['\n'].intercalate (p.printed.map PrintedLine.text)).splitOn '\n' =
      p.printed.map PrintedLine.text ++ List.replicate k [] := by
    cases hp : p.printed.map PrintedLine.text with
    | nil => exact ⟨1, rfl⟩
    | cons t rest =>
      refine ⟨0, ?_⟩
      rw [← hp, List.splitOn_intercalate '\n' hlines (by simp [hp])]
      simp
  cases endOfLine with
  | false =>
    refine Source.lines_of_kept p.kept_printed k ?_
    simpa [source] using hk
  | true =>
    refine Source.lines_of_kept p.kept_printed (k + 1) ?_
    have hend : p.source true =
        ['\n'].intercalate (p.printed.map PrintedLine.text) ++ '\n' :: [] := rfl
    rw [hend, List.splitOn_append_cons_self, hk, List.replicate_succ', List.append_assoc]
    rfl

end Program

end LineScript
