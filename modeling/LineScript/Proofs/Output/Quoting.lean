/-
Templates that are written from their parts. A part is a text, whatever
characters it has, or the place of a name's value (`Segment`); a template writes
each brace of a text twice and a place as the name in braces
(`Template.quote`).

Filling in such a template gives back the texts as they are, with the values at
their places (`puts_quote`). Where two parts meet there may be many braces in a
row, as in `{{{x}}}`; what a brace belongs to is decided from left to right, and
each part is read to its end before the next one begins (`pieces_quote`).
-/
import LineScript.Proofs.Construct.FirstWord
import LineScript.Proofs.Session.Quiet
import LineScript.Proofs.Session.Reliable
import LineScript.Proofs.Value.RoundTrip

namespace LineScript

/-- A part of what is to be written: a text as it is, or the value of a name. -/
inductive Segment where
  | literal (t : Text)
  | placeholder (name : Text) (identifier : name.isIdentifier = true)

namespace Segment

/-- A character as templates write it. -/
def quoteChar (c : Char) : Text :=
  if c = '{' ∨ c = '}' then [c, c] else [c]

/-- A segment as templates write it. -/
def quote : Segment → Text
  | literal t => t.flatMap quoteChar
  | placeholder name _ => '{' :: name ++ ['}']

/-- The text that a segment stands for, or the reason why it stands for none. -/
def value (symbols : SymbolTable) : Segment → Except LookupError Text
  | literal t => .ok t
  | placeholder name _ => (symbols.resolve name).map Value.display

/-- The pieces that a segment is read as. -/
def pieces : Segment → List Piece
  | literal t => t.map .literal
  | placeholder name _ => [.variable name]

end Segment

/-- What segments in a row stand for: their texts one after the other, or the
reason of the first segment that has none. -/
inductive Segment.Stands (symbols : SymbolTable) : List Segment → Except LookupError Text → Prop
  | texts {segments : List Segment} {ts : List Text} :
    segments.map (value symbols) = ts.map .ok → Stands symbols segments (.ok ts.flatten)
  | unresolved {before after : List Segment} {segment : Segment} {cause : LookupError} :
    (∀ s ∈ before, ∃ t, s.value symbols = .ok t) → segment.value symbols = .error cause →
      Stands symbols (before ++ segment :: after) (.error cause)

namespace Template

/-- The template that writes some segments. -/
def quote (segments : List Segment) : Text :=
  segments.flatMap Segment.quote

/-- The line that writes some segments and ends the line of output. -/
def putsLine (segments : List Segment) : Text :=
  Construct.puts.keyword ++ ' ' :: (Value.text (quote segments)).toLiteral

/-! ## Reading what was quoted -/

theorem pieces_quoteChar (c : Char) (rest : Text) :
    pieces (Segment.quoteChar c ++ rest) = .literal c :: pieces rest := by
  by_cases hopen : c = '{'
  · subst hopen
    exact pieces.eq_2 rest
  · by_cases hclose : c = '}'
    · subst hclose
      exact pieces.eq_3 rest
    · have hquote : Segment.quoteChar c = [c] := by simp [Segment.quoteChar, hopen, hclose]
      rw [hquote, List.singleton_append]
      exact pieces.eq_5 c rest (fun _ h _ => hopen h) (fun _ h _ => hclose h) hopen

theorem pieces_quoteText (t rest : Text) :
    pieces (t.flatMap Segment.quoteChar ++ rest) = t.map .literal ++ pieces rest := by
  induction t with
  | nil => rfl
  | cons c t ih =>
    rw [List.flatMap_cons, List.append_assoc, pieces_quoteChar, ih, List.map_cons,
      List.cons_append]

theorem placeholder?_append {name : Text} (h : name.isIdentifier = true) (rest : Text) :
    placeholder? (name ++ '}' :: rest) = some (name, rest) := by
  have hbrace := Text.not_mem_of_isIdentifier h (c := '}') (by decide +kernel)
  rw [placeholder?, Text.cutAt?_append_cons hbrace]
  exact if_pos h

/-- No identifier starts with a brace, so the brace in front of a name is no half
of a double brace. -/
theorem pieces_placeholder {name : Text} (h : name.isIdentifier = true) (rest : Text) :
    pieces ('{' :: (name ++ '}' :: rest)) = .variable name :: pieces rest := by
  have hbrace := Text.not_mem_of_isIdentifier h (c := '{') (by decide +kernel)
  obtain ⟨c, tail, hname, -⟩ := Text.exists_start_of_isIdentifier h
  have hc : c ≠ '{' := fun heq => hbrace (by rw [hname, heq]; exact List.mem_cons_self ..)
  have hsingle : ∀ after, name ++ '}' :: rest = '{' :: after → False := by
    intro after heq
    rw [hname, List.cons_append] at heq
    exact hc (List.cons.inj heq).1
  rw [pieces.eq_4 _ hsingle]
  split
  next name' after hfound =>
    rw [placeholder?_append h] at hfound
    obtain ⟨rfl, rfl⟩ := Prod.mk.inj (Option.some.inj hfound)
    rfl
  next hnone =>
    rw [placeholder?_append h] at hnone
    cases hnone

/-- A template is read as the segments that it was written from, one after the
other. -/
theorem pieces_quote (segments : List Segment) :
    pieces (quote segments) = segments.flatMap Segment.pieces := by
  induction segments with
  | nil => exact pieces.eq_1
  | cons segment rest ih =>
    have hcons : quote (segment :: rest) = segment.quote ++ quote rest := List.flatMap_cons ..
    rw [hcons, List.flatMap_cons, ← ih]
    cases segment with
    | literal t => exact pieces_quoteText t (quote rest)
    | placeholder name h =>
      have happend : Segment.quote (.placeholder name h) ++ quote rest =
          '{' :: (name ++ '}' :: quote rest) := by
        simp [Segment.quote]
      rw [happend]
      exact pieces_placeholder h (quote rest)

/-! ## Filling it in -/

section

variable (symbols : SymbolTable)

theorem fillPieces_append (ps qs : List Piece) :
    fillPieces symbols (ps ++ qs) =
      (fillPieces symbols ps >>= fun t => (fillPieces symbols qs).map (t ++ ·)) := by
  induction ps with
  | nil =>
    rw [List.nil_append]
    cases fillPieces symbols qs <;> rfl
  | cons p rest ih =>
    simp only [List.cons_append, fillPieces, ih]
    cases fillPiece symbols p <;> cases fillPieces symbols rest <;>
      cases fillPieces symbols qs <;>
        simp [bind, pure, Except.bind, Except.pure, Except.map]

theorem fillPieces_literals (t : Text) : fillPieces symbols (t.map .literal) = .ok t := by
  induction t with
  | nil => rfl
  | cons c t ih =>
    rw [List.map_cons, fillPieces, ih]
    rfl

theorem fillPieces_pieces (segment : Segment) :
    fillPieces symbols segment.pieces = segment.value symbols := by
  cases segment with
  | literal t => exact fillPieces_literals symbols t
  | placeholder name h =>
    simp only [Segment.pieces, Segment.value, fillPieces, fillPiece]
    cases symbols.resolve name with
    | error cause => rfl
    | ok v => exact congrArg Except.ok (List.append_nil v.display)

theorem fill_quote_cons (segment : Segment) (rest : List Segment) :
    fill symbols (quote (segment :: rest)) =
      (segment.value symbols >>= fun t => (fill symbols (quote rest)).map (t ++ ·)) := by
  simp only [fill, pieces_quote, List.flatMap_cons, fillPieces_append, fillPieces_pieces]

variable {symbols}

theorem fill_quote_cons_ok {segment : Segment} {t : Text} (h : segment.value symbols = .ok t)
    (rest : List Segment) :
    fill symbols (quote (segment :: rest)) = (fill symbols (quote rest)).map (t ++ ·) := by
  rw [fill_quote_cons, h]
  rfl

/-- What the segments stand for is what the template is filled in as. The
segments before the first that stands for nothing are gone through by induction;
that one ends the text whatever follows. -/
theorem fill_of_stands {segments : List Segment} {r : Except LookupError Text}
    (h : Segment.Stands symbols segments r) : fill symbols (quote segments) = r := by
  cases h with
  | @texts _ ts hts =>
    induction segments generalizing ts with
    | nil =>
      obtain rfl := List.map_eq_nil_iff.1 hts.symm
      simp only [fill, pieces_quote]
      rfl
    | cons segment rest ih =>
      obtain ⟨t, ts, rfl, ht, hrest⟩ := List.map_eq_cons_iff.1 hts.symm
      rw [fill_quote_cons_ok ht.symm, ih hrest.symm]
      rfl
  | @unresolved before after segment cause hbefore hcause =>
    induction before with
    | nil =>
      rw [List.nil_append, fill_quote_cons, hcause]
      rfl
    | cons first before ih =>
      obtain ⟨t, ht⟩ := hbefore first (List.mem_cons_self ..)
      rw [List.cons_append, fill_quote_cons_ok ht,
        ih fun s hs => hbefore s (List.mem_cons_of_mem _ hs)]
      rfl

theorem exists_stands (symbols : SymbolTable) (segments : List Segment) :
    ∃ r, Segment.Stands symbols segments r := by
  induction segments with
  | nil => exact ⟨.ok [], @Segment.Stands.texts symbols [] [] rfl⟩
  | cons segment rest ih =>
    cases ht : segment.value symbols with
    | error cause =>
      have hfirst : Segment.Stands symbols ([] ++ segment :: rest) (.error cause) :=
        .unresolved (by simp) ht
      exact ⟨_, hfirst⟩
    | ok t =>
      obtain ⟨r, hr⟩ := ih
      cases hr with
      | @texts _ ts hts =>
        have hall : (segment :: rest).map (Segment.value symbols) = (t :: ts).map .ok := by
          rw [List.map_cons, List.map_cons, ht, hts]
        exact ⟨_, .texts hall⟩
      | @unresolved before after failing cause hbefore hcause =>
        have hall : ∀ s ∈ segment :: before, ∃ t, s.value symbols = .ok t :=
          List.forall_mem_cons.2 ⟨⟨t, ht⟩, hbefore⟩
        exact ⟨_, .unresolved hall hcause⟩

theorem fill_quote_iff {segments : List Segment} {r : Except LookupError Text} :
    fill symbols (quote segments) = r ↔ Segment.Stands symbols segments r := by
  constructor
  · intro h
    obtain ⟨r', hr'⟩ := exists_stands symbols segments
    rw [← h, fill_of_stands hr']
    exact hr'
  · exact fill_of_stands

end

end Template

/-! ## Writing it -/

/-- An argument that is a reference is written as what it resolves to. -/
theorem Output.render_reference (symbols : SymbolTable) {argument : Text}
    (htrim : argument.trim = argument) (hstrip : stripParens argument = argument)
    (htype : ValueType.ofLiteral argument = .reference) (hne : argument ≠ []) :
    render symbols argument =
      ((symbols.resolve argument).map Value.display).mapError .lookup := by
  rw [render, htrim, hstrip, renderBare, htype]
  · simp only [Value.ofLiteralAs, htrim]
    rfl
  · exact hne

/-- No identifier starts with a parenthesis. -/
theorem Output.stripParens_identifier {name : Text} (h : name.isIdentifier = true) :
    stripParens name = name := by
  have hparen := Text.not_mem_of_isIdentifier h (c := '(') (by decide +kernel)
  obtain ⟨c, rest, heq, -⟩ := Text.exists_start_of_isIdentifier h
  have hc : c ≠ '(' := fun hc => hparen (by rw [heq, hc]; exact List.mem_cons_self ..)
  rw [stripParens, heq, Text.between?, if_neg hc]

/-- An identifier that is no truth value is written as what it resolves to. -/
theorem Output.render_identifier (symbols : SymbolTable) {name : Text}
    (h : name.isIdentifier = true) (hother : ∀ b, name ≠ Value.booleanText b) :
    render symbols name = ((symbols.resolve name).map Value.display).mapError .lookup := by
  have hword := Text.isWord_of_isIdentifier h
  exact render_reference symbols hword.trim (stripParens_identifier h)
    (Value.type_ofLiteral_identifier h hother) hword.ne_nil

/-- A quoted argument is a template. -/
theorem Output.render_text (symbols : SymbolTable) (t : Text) :
    render symbols (Value.text t).toLiteral = (Template.fill symbols t).mapError .lookup := by
  have hstrip : stripParens (Value.text t).toLiteral = (Value.text t).toLiteral := rfl
  rw [render, Value.trim_text, hstrip, renderBare, Value.type_ofLiteral_text]
  · simp only [Value.between?_text, Option.getD_some]
  · exact List.cons_ne_nil _ _

namespace Template

theorem ofLine?_putsLine (segments : List Segment) :
    Construct.ofLine? (putsLine segments) = some .puts :=
  (Construct.ofLine?_of_word (by decide) _).trans (by decide)

theorem argument_putsLine (segments : List Segment) :
    Construct.puts.argument (putsLine segments) = (Value.text (quote segments)).toLiteral := by
  rw [putsLine, Construct.argument_keyword, Text.trim_cons_blank (by decide), Value.trim_text]

theorem execLine_putsLine {σ : Type} [Sink σ] (line : Nat) (segments : List Segment) :
    Run.SameEffect (Run.execLine line (putsLine segments) : Run σ Unit)
      (Run.session >>= fun s =>
        Run.ofFault line ((fill s.symbols (quote segments)).mapError .lookup) >>= fun t =>
          Run.write (t ++ ['\n'])) := by
  have h := Run.execLine_puts_sameEffect (σ := σ) line (ofLine?_putsLine segments)
  simp only [argument_putsLine, Output.render_text] at h
  exact h

/-- **Filling in a template undoes quoting it.** A template that was written from
segments is filled in as what the segments stand for, and as nothing else: their
texts one after the other if each of them has one, or else the reason of the
first that has none. Without traces and on a sink that cannot fail, a line
`puts` with this template in quotes writes exactly that text and the end of the
line, or fails for that reason and leaves everything as it was. -/
theorem puts_quote {σ : Type} [Sink σ] (segments : List Segment) :
    (∀ symbols r, fill symbols (quote segments) = r ↔ Segment.Stands symbols segments r) ∧
    ∀ (s : Session σ) (line : Nat), s.options.trace = false → Sink.Reliable s.sink →
      ∀ r, Segment.Stands s.symbols segments r →
        let o := Run.execLine line (putsLine segments) s
        match r with
        | .ok t =>
          o.result = .ok () ∧
            o.session = { s with sink := Sink.taken s.sink [t ++ ['\n']] }
        | .error cause => o.result = .error (.fault line (.lookup cause)) ∧ o.session = s := by
  refine ⟨fun _ _ => fill_quote_iff, fun s line htrace hsink r hr => ?_⟩
  obtain ⟨hresult, hsession⟩ := execLine_putsLine line segments s htrace
  rw [Run.session_bind_apply, fill_of_stands hr] at hresult hsession
  cases r with
  | error cause => exact ⟨hresult, hsession⟩
  | ok t =>
    have hwrite := Run.write_apply hsink (t ++ ['\n'])
    have hrun : (Run.ofFault line ((Except.ok t : Except LookupError Text).mapError .lookup) >>=
        fun t => Run.write (t ++ ['\n'])) s = Run.write (t ++ ['\n']) s := rfl
    rw [hrun, hwrite] at hresult hsession
    exact ⟨hresult, hsession⟩

/-- Three braces on either side of a name whose value looks like a placeholder,
and the same with a name behind it that is not bound. -/
theorem puts_quote_braces :
    let x := Segment.placeholder ['x'] (by decide +kernel)
    let y := Segment.placeholder ['y'] (by decide +kernel)
    let symbols := SymbolTable.empty.bind ['x'] (.text ['{', 'y', '}'])
    let s := { Session.start ⟨false, true⟩ Buffer.unlimited with symbols }
    let segments := [.literal ['{'], x, .literal ['}']]
    quote segments = ['{', '{', '{', 'x', '}', '}', '}'] ∧
      s.options.trace = false ∧ Sink.Reliable s.sink ∧
      (Run.execLine 4 (putsLine segments) s).session.sink =
        Sink.taken s.sink [['{', '{', 'y', '}', '}', '\n']] ∧
      (Run.execLine 4 (putsLine (segments ++ [y])) s).result =
        .error (.fault 4 (.lookup (.unknownVariable ['y']))) ∧
      (Run.execLine 4 (putsLine (segments ++ [y])) s).session = s := by
  intro x y symbols s segments
  have hsink : Sink.Reliable s.sink := Buffer.reliable_unlimited
  have hx : x.value symbols = .ok ['{', 'y', '}'] := by decide +kernel
  have hy : y.value symbols = .error (.unknownVariable ['y']) := by decide +kernel
  have htexts : Segment.Stands symbols segments (.ok ['{', '{', 'y', '}', '}']) :=
    @Segment.Stands.texts symbols segments [['{'], ['{', 'y', '}'], ['}']] (by decide +kernel)
  have hvalues : ∀ segment ∈ segments, ∃ t, segment.value symbols = .ok t := by
    simp only [segments, List.forall_mem_cons]
    exact ⟨⟨_, rfl⟩, ⟨_, hx⟩, ⟨_, rfl⟩, by simp⟩
  have hunresolved : Segment.Stands symbols (segments ++ [y]) (.error (.unknownVariable ['y'])) :=
    .unresolved hvalues hy
  have hwritten := (puts_quote segments).2 s 4 rfl hsink _ htexts
  have hfailed := (puts_quote (segments ++ [y])).2 s 4 rfl hsink _ hunresolved
  exact ⟨by decide +kernel, rfl, hsink, congrArg Session.sink hwritten.2, hfailed⟩

end Template

end LineScript
