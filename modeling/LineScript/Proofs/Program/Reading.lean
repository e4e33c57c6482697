/-
What each line of a printed program does: a binding binds the value that was
written, a `puts` line writes what its name resolves to, a header opens a block
whatever its condition says, and a brace by itself does what it stands for.

Keywords are found by their place. The first word of each line is the keyword,
so that it makes no difference where else in the line it occurs.
-/
import LineScript.Proofs.Construct.Bindings
import LineScript.Proofs.Construct.Nested
import LineScript.Proofs.Output.Quoting
import LineScript.Proofs.Program.Source

namespace LineScript

open Text

namespace Text

theorem cutHeader?_of_plain {t : Text} (hquote : '"' ∉ t) (hbrace : '{' ∉ t) (u : Text) :
    cutHeader? false (t ++ u) = (cutHeader? false u).map (Prod.map (t ++ ·) id) := by
  induction t with
  | nil => exact (map_nil_append _).symm
  | cons c rest ih =>
    simp only [List.mem_cons, not_or] at hquote hbrace
    rw [List.cons_append, cutHeader?, if_neg (Ne.symm hquote.1),
      if_neg (fun h => hbrace.1 h.1.symm), ih hquote.2 hbrace.2, Option.map_map]
    rfl

/-- A line without an opening brace has no body. -/
theorem inlineBody?_of_not_mem {t : Text} (hbrace : '{' ∉ t) : inlineBody? t = none := by
  rw [inlineBody?, cutHeader?_of_not_mem hbrace]
  rfl

/-- Nor has one without a closing brace behind its opening one. -/
theorem inlineBody?_of_unclosed {t u : Text} (hquote : '"' ∉ t) (hbrace : '{' ∉ t)
    (hclose : '}' ∉ u) : inlineBody? (t ++ '{' :: u) = none := by
  have hlast : u.trimEnd.getLast? ≠ some '}' := fun h =>
    hclose ((List.rdropWhile_prefix isBlank u).subset (List.mem_of_getLast? h))
  rw [inlineBody?, cutHeader?_of_plain hquote hbrace]
  show (dropLast? '}' u.trimEnd).bind _ = none
  rw [dropLast?, if_neg hlast]
  rfl

/-- Between the first opening brace and a closing brace at the end of the line
everything is the body. -/
theorem inlineBody?_of_closed {t : Text} (hquote : '"' ∉ t) (hbrace : '{' ∉ t) (u : Text) :
    inlineBody? (t ++ '{' :: (u ++ ['}'])) = some u.trim := by
  have hend : trimEnd (u ++ ['}']) = u ++ ['}'] :=
    List.rdropWhile_concat_neg _ _ _ (by decide)
  rw [inlineBody?, cutHeader?_of_plain hquote hbrace]
  show (dropLast? '}' (trimEnd (u ++ ['}']))).bind _ = _
  rw [hend, dropLast?, if_pos List.getLast?_concat, List.dropLast_concat]
  rfl

end Text

namespace Literal

variable (literal : Literal)

theorem trim_toLiteral : literal.value.toLiteral.trim = literal.value.toLiteral := by
  obtain ⟨c, rest, last, heq, hc, hlast, hsolid⟩ := literal.solid_ends
  rw [heq]
  exact trim_eq_self hc hlast hsolid

theorem toLiteral_ne_nil : literal.value.toLiteral ≠ [] := by
  obtain ⟨c, rest, -, heq, -⟩ := literal.solid_ends
  rw [heq]
  exact List.cons_ne_nil c rest

theorem ofLiteral_toLiteral : Value.ofLiteral literal.value.toLiteral = .ok literal.value := by
  obtain ⟨value, hvalue⟩ := literal
  cases value with
  | integer i => exact Value.ofLiteral_integer hvalue
  | boolean b => exact Value.ofLiteral_boolean b
  | character c => exact Value.ofLiteral_character fun hc => hvalue (by simp [hc])
  | text t => exact Value.ofLiteral_text t
  | reference raw =>
    obtain ⟨name, rfl⟩ := hvalue
    exact Value.ofLiteral_identifier name.identifier name.ne_booleanText
  | float x => exact absurd hvalue id
  | arithmetic raw => exact absurd hvalue id

end Literal

namespace Program

/-! ## Bindings -/

/-- A binding up to its `=`. -/
def bindingHead (mutable : Bool) (name : Text) : Text :=
  Construct.binding.keyword ++ ' ' ::
    ((if mutable then LetStatement.mutKeyword ++ [' '] else []) ++ name ++ [' '])

/-- Printed bindings have one space at each place. -/
def singleSpaces : LetStatement.Spacing :=
  ⟨[], [' '], [' '], [' '], [' '], by simp [isBlank], by decide, by decide⟩

theorem bindingCode_eq_line (mutable : Bool) (name literal : Text) :
    bindingCode mutable name literal =
      singleSpaces.line Construct.binding.keyword mutable name literal := by
  simp [bindingCode, LetStatement.Spacing.line, LetStatement.Spacing.head, singleSpaces]

theorem construct_bindingCode (mutable : Bool) (name literal : Text) :
    Construct.ofLine? (bindingCode mutable name literal) = some .binding :=
  (Construct.ofLine?_of_word (by decide) _).trans (by decide)

section

variable (mutable : Bool) {name : Text} (hname : name.isIdentifier = true) (literal : Text)

include hname

theorem ofLine?_bindingCode (hmut : name ≠ LetStatement.mutKeyword)
    (htrim : literal.trim = literal) (hne : literal ≠ []) :
    LetStatement.ofLine? (bindingCode mutable name literal) =
      some ⟨name, mutable, literal⟩ := by
  have hkeyword : Construct.binding.keyword.IsWord := by decide
  have hkeywordSign : '=' ∉ Construct.binding.keyword := by decide
  have hword := isWord_of_isIdentifier hname
  have hnameSign := not_mem_of_isIdentifier hname (c := '=') (by decide +kernel)
  have htail : Text.trim (' ' :: literal) = literal := by
    rw [trim_cons_blank (by decide), htrim]
  obtain ⟨word, hnameWord, htake⟩ := singleSpaces.nameWord?_line hkeyword hword hnameSign mutable
    literal fun heq => absurd heq hmut
  rw [bindingCode_eq_line]
  exact LetStatement.ofLine?_eq_some_iff.2 ⟨_, _, word,
    singleSpaces.cutAt?_line hkeywordSign hnameSign mutable literal, hnameWord, htake.symm,
    htail.symm, hword.ne_nil, hne, singleSpaces.contains_head _ mutable name⟩

theorem readBinding_bindingCode (hmut : name ≠ LetStatement.mutKeyword)
    (htrim : literal.trim = literal) (hne : literal ≠ []) {value : Value}
    (hvalue : Value.ofLiteral literal = .ok value) :
    readBinding (bindingCode mutable name literal) = .ok (⟨name, mutable, literal⟩, value) := by
  rw [readBinding, ofLine?_bindingCode mutable hname literal hmut htrim hne]
  simp only [hvalue]

end

/-! ## Arguments of `puts` -/

theorem argument_putsCode (argument : Text) :
    Construct.puts.argument (putsCode argument) = argument.trim := by
  rw [putsCode, Construct.argument_keyword, trim_cons_blank (by decide)]

theorem ofLine?_putsCode (argument : Text) :
    Construct.ofLine? (putsCode argument) = some .puts :=
  (Construct.ofLine?_of_word (by decide) _).trans (by decide)

/-- An argument that is a name is written as what the name resolves to. -/
theorem render_name (symbols : SymbolTable) (name : Name) :
    Output.render symbols name.text =
      ((symbols.resolve name.text).map Value.display).mapError .lookup :=
  Output.render_identifier symbols name.identifier name.ne_booleanText

/-! ## Lines as they are read -/

theorem logical_append (indent : Nat) (front : Text) {t : Text} {last : Char}
    (hlast : t.getLast? = some last) (hsolid : isBlank last = false) :
    PrintedLine.logical ⟨indent, front ++ t⟩ = front ++ t := by
  have hreturn : last ≠ '\r' := by
    rintro rfl
    cases hsolid
  obtain ⟨init, rfl⟩ := List.getLast?_eq_some_iff.1 hlast
  rw [PrintedLine.logical, ← List.append_assoc]
  exact List.rdropWhile_concat_neg _ _ _ (by simpa using hreturn)

theorem logical_bindingCode (indent : Nat) (mutable : Bool) (name : Text) (literal : Literal) :
    PrintedLine.logical ⟨indent, bindingCode mutable name literal.value.toLiteral⟩ =
      bindingCode mutable name literal.value.toLiteral := by
  obtain ⟨c, rest, last, heq, -, hlast, hsolid⟩ := literal.solid_ends
  have hcode : bindingCode mutable name literal.value.toLiteral =
      bindingHead mutable name ++ ['=', ' '] ++ literal.value.toLiteral := by
    simp [bindingCode, bindingHead]
  rw [hcode]
  exact logical_append indent _ (by rw [heq, hlast]) hsolid

theorem logical_putsCode (indent : Nat) (name : Name) :
    PrintedLine.logical ⟨indent, putsCode name.text⟩ = putsCode name.text := by
  have hword := name.isWord
  have hlast := List.getLast?_eq_some_getLast hword.ne_nil
  have hcode : putsCode name.text = Construct.puts.keyword ++ [' '] ++ name.text := by
    simp [putsCode]
  rw [hcode]
  exact logical_append indent _ hlast (hword.solid _ (List.getLast_mem _))

theorem ofLine?_headerCode (kind : BlockKind) (t : Text) :
    Construct.ofLine? (headerCode kind t) = some (.block kind) := by
  cases kind <;> exact (Construct.ofLine?_of_word (by decide) t).trans (by decide)

theorem logical_headerCode (indent : Nat) (kind : BlockKind) (t : Text) :
    PrintedLine.logical ⟨indent, headerCode kind t⟩ =
      headerCode kind (t.rdropWhile (· = '\r')) :=
  rdropWhile_append_cons (by decide) kind.keyword t

/-- A header whose text has no quote and no brace keeps to itself, also with a
brace at its end. -/
theorem inlineBody?_headerCode (kind : BlockKind) {t : Text} (hquote : '"' ∉ t)
    (hbrace : '{' ∉ t) :
    inlineBody? (headerCode kind t) = none ∧
      inlineBody? (headerCode kind (t ++ [' ', '{'])) = none := by
  have hheader : ∀ c ∈ ['"', '{'], c ∉ headerCode kind t := by
    cases kind <;> simp [headerCode, BlockKind.keyword, hquote, hbrace]
  refine ⟨inlineBody?_of_not_mem (hheader _ (by simp)), ?_⟩
  have hcode : headerCode kind (t ++ [' ', '{']) = headerCode kind t ++ [' '] ++ ['{'] := by
    simp [headerCode]
  rw [hcode]
  refine inlineBody?_of_unclosed ?_ ?_ (by simp)
  · simpa using hheader '"' (by simp)
  · simpa using hheader '{' (by simp)

end Program

/-! ## What the lines do -/

namespace Run

open Program

variable {σ : Type} [Sink σ] (line indent : Nat)

theorem execLine_bindingCode (mutable : Bool) {name literal : Text} {value : Value}
    (hname : name.isIdentifier = true) (hmut : name ≠ LetStatement.mutKeyword)
    (htrim : literal.trim = literal) (hne : literal ≠ [])
    (hvalue : Value.ofLiteral literal = .ok value) :
    SameEffect (execLine line (bindingCode mutable name literal) : Run σ Unit)
      (modify fun s => { s with symbols := s.symbols.bind name value }) := by
  exact execLine_binding_sameEffect line (construct_bindingCode mutable name literal)
    (readBinding_bindingCode mutable hname literal hmut htrim hne hvalue)

theorem execLine_binding (mutable : Bool) (name : Name) (literal : Literal) :
    SameEffect
      (execLine line (PrintedLine.logical
        ⟨indent, bindingCode mutable name.text literal.value.toLiteral⟩) : Run σ Unit)
      (modify fun s => { s with symbols := s.symbols.bind name.text literal.value }) := by
  rw [logical_bindingCode]
  exact execLine_bindingCode line mutable name.identifier name.ne_mutKeyword literal.trim_toLiteral
    literal.toLiteral_ne_nil literal.ofLiteral_toLiteral

theorem execLine_putsCode (name : Name) :
    SameEffect (execLine line (PrintedLine.logical ⟨indent, putsCode name.text⟩) : Run σ Unit)
      (session >>= fun s =>
        ofFault line (((s.symbols.resolve name.text).map Value.display).mapError .lookup) >>=
          fun rendered => write (rendered ++ ['\n'])) := by
  have heffect := execLine_puts_sameEffect (σ := σ) line (ofLine?_putsCode name.text)
  rw [argument_putsCode, name.isWord.trim] at heffect
  simp only [render_name] at heffect
  rw [logical_putsCode]
  exact heffect

theorem execLines_openingLines (kind : BlockKind) (condition : Condition) (brace : BracePlace) :
    SameEffect
      (execLines (PrintedLine.number line (openingLines indent kind condition brace)) :
        Run σ Unit)
      (openInnermost line kind) := by
  have hquote := condition.plain '"' (by simp)
  have hbrace := condition.plain '{' (by simp)
  cases brace with
  | sameLine =>
    have hnone := (inlineBody?_headerCode kind hquote hbrace).2
    have hlogical : PrintedLine.logical ⟨indent, headerCode kind (condition.text ++ [' ', '{'])⟩ =
        headerCode kind (condition.text ++ [' ', '{']) := by
      have h := logical_append indent (kind.keyword ++ ' ' :: condition.text) (t := [' ', '{']) rfl
        (by decide)
      simpa [headerCode] using h
    rw [openingLines, PrintedLine.number, PrintedLine.number, hlogical, execLines_singleton]
    exact execLine_header_sameEffect line (ofLine?_headerCode kind _) hnone
  | nextLine braceIndent =>
    have hsub := (List.rdropWhile_prefix (· = '\r') condition.text).subset
    have hnone := (inlineBody?_headerCode kind (fun h => hquote (hsub h))
      (fun h => hbrace (hsub h))).1
    have hopen : SameEffect (execLines [⟨line + 1, ['{']⟩] : Run σ Unit) (pure ()) := by
      have hc : Construct.ofLine? ['{'] = some .openBrace := by decide
      rw [execLines_singleton]
      exact execLine_openBrace_sameEffect _ hc
    rw [openingLines, PrintedLine.number, PrintedLine.number, PrintedLine.number,
      logical_headerCode]
    refine (SameEffect.bind (keepsOptions.atoms.steps.execLine _ _)
      (execLine_header_sameEffect line (ofLine?_headerCode kind _) hnone) fun _ => hopen).trans ?_
    rw [bind_pure_unit]
    exact .refl _

theorem execLine_closingBrace :
    SameEffect (execLine line (PrintedLine.logical ⟨indent, ['}']⟩) : Run σ Unit)
      (closeInnermost line) := by
  have hlogical : PrintedLine.logical ⟨indent, ['}']⟩ = ['}'] := rfl
  rw [hlogical]
  exact execLine_brace_sameEffect line

end Run

end LineScript
