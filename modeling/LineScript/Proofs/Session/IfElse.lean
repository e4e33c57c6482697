/-
An `if` with an `else` on one line: `if c {} else { body }`.

A block line takes what stands between its first opening brace and the closing
brace at its end as its body, here `} else { body`. That text closes the `if`
block and opens an `else` block whose own closing brace is gone; so it is a line
that only opens the block, and the rest of the line closes it again. Whatever the
body says is never done: the line does what the lines `if c {`, `} else {` and `}`
do (`Run.execLine_ifElse`).

It would be expected to do what these lines do with the body as a line of its own
in front of the last brace. Main statement: in every session it does so exactly if
nothing is left of the body at the end of the block (`execLine_ifElse_iff`). That
is a body that is skipped, that binds a name inside the block, or that prints the
empty text.
-/
import LineScript.Proofs.Program.Reading
import LineScript.Proofs.Session.BehindBrace
import LineScript.Proofs.Session.Layout
import LineScript.Proofs.Session.Overflow
import LineScript.Proofs.Symbols.Chain

namespace LineScript

open Program

/-! ## The line, and the lines it looks like -/

/-- A closing brace, and an `else` block behind it up to its opening brace and
what follows that brace. -/
def closeElse (rest : Text) : Text :=
  '}' :: ' ' :: headerCode .elseBlock ('{' :: rest)

/-- An empty `if` block and an `else` block with a body on one line. -/
def ifElseLine (condition body : Text) : Text :=
  headerCode .ifBlock (condition ++ [' ', '{']) ++ closeElse (' ' :: (body ++ [' '])) ++ ['}']

/-- An empty `if` block and an `else` block around some lines, all under one
number. -/
def ifElseLines (line : Nat) (condition : Text) (body : List Text) : List Line :=
  ⟨line, headerCode .ifBlock (condition ++ [' ', '{'])⟩ :: ⟨line, closeElse []⟩ ::
    (body.map (Line.mk line) ++ [⟨line, ['}']⟩])

/-- What is left of a text when a block around it is closed again is nothing. -/
inductive LeavesNothing (strict : Bool) (text : Text) : Prop
  | skipped : Construct.ofLine? text = none → strict = false → LeavesNothing strict text
  | bound {read : LetStatement × Value} :
    Construct.ofLine? text = some .binding → readBinding text = .ok read →
      LeavesNothing strict text
  | printed :
    Construct.ofLine? text = some .print →
      Output.render .empty (Construct.print.argument text) = .ok [] → LeavesNothing strict text

namespace Run

variable {σ : Type}

/-- An empty `if` block, and an `else` block around an action. -/
def ifElse (line : Nat) (body : Run σ Unit) : Run σ Unit := do
  openInnermost line .ifBlock
  closeInnermost line
  openInnermost line .elseBlock
  body
  closeInnermost line

variable [Sink σ] (line : Nat) {condition body : Text}

/-- Without a closing brace behind it, the `else` block stays open. -/
theorem execLine_closeElse_sameEffect {rest : Text} (hclose : '}' ∉ rest) :
    SameEffect (execLine line (closeElse rest) : Run σ Unit)
      (closeInnermost line >>= fun _ => openInnermost line .elseBlock) := by
  have hbrace : Construct.ofLine? (closeElse rest) = some .closeBrace :=
    (Construct.ofLine?_of_word (w := ['}']) (by decide) _).trans (by decide)
  have hne : Text.trim (' ' :: headerCode .elseBlock ('{' :: rest)) ≠ [] := by
    have htrim : Text.trim (headerCode .elseBlock ('{' :: rest)) = 'e' :: Text.trimEnd _ :=
      Text.trim_cons (by decide) _
    rw [Text.trim_cons_blank (by decide), htrim]
    exact List.cons_ne_nil _ _
  have hnone : Text.inlineBody? (headerCode .elseBlock ('{' :: rest)) = none :=
    Text.inlineBody?_of_unclosed (t := ['e', 'l', 's', 'e', ' ']) (by decide) (by decide) hclose
  have helse : SameEffect
      (execLine line (Text.trim (' ' :: headerCode .elseBlock ('{' :: rest))) : Run σ Unit)
      (openInnermost line .elseBlock) := by
    rw [Text.trim_cons_blank (by decide)]
    exact (execLine_trim_sameEffect line _).symm.trans
      (execLine_header_sameEffect line (ofLine?_headerCode .elseBlock _) hnone)
  refine (execLine_brace_cons_sameEffect hne hbrace line).trans ?_
  exact .bind (keepsOptions.atoms.steps.execLine _ _) (execLine_brace_sameEffect line) fun _ =>
    helse

/-- The line opens and closes two blocks and does nothing else. -/
theorem execLine_ifElse (hquote : '"' ∉ condition) (hbrace : '{' ∉ condition)
    (hclose : '}' ∉ body) :
    SameEffect (execLine line (ifElseLine condition body) : Run σ Unit)
      (ifElse line (pure ())) := by
  have hcode : ifElseLine condition body =
      headerCode .ifBlock (condition ++ [' ']) ++
        '{' :: (closeElse (' ' :: (body ++ [' '])) ++ ['}']) := by
    simp [ifElseLine, headerCode]
  have hheader : ∀ c ∈ ['"', '{'], c ∉ headerCode .ifBlock (condition ++ [' ']) := by
    simp [headerCode, BlockKind.keyword, hquote, hbrace]
  have hbody : (ifElseLine condition body).inlineBody? =
      some ('}' :: Text.trimEnd (' ' :: headerCode .elseBlock ('{' :: ' ' :: (body ++ [' '])))) := by
    rw [hcode, Text.inlineBody?_of_closed (hheader _ (by simp)) (hheader _ (by simp)), closeElse,
      Text.trim_cons (by decide)]
  have hc : Construct.ofLine? (ifElseLine condition body) = some (.block .ifBlock) := by
    rw [hcode]
    exact ofLine?_headerCode .ifBlock _
  have hline := execLine_inlineBlock_sameEffect (σ := σ) line hc hbody
  rw [← Text.trim_cons (by decide)] at hline
  have helse : SameEffect
      (execLine line (closeElse (' ' :: (body ++ [' ']))).trim >>= fun _ => closeInnermost line :
        Run σ Unit)
      (closeInnermost line >>= fun _ => openInnermost line .elseBlock >>= fun _ =>
        pure () >>= fun _ => closeInnermost line) := by
    have hrest : '}' ∉ ' ' :: (body ++ [' ']) := by simp [hclose]
    have hopened := (execLine_trim_sameEffect (σ := σ) line _).symm.trans
      (execLine_closeElse_sameEffect line hrest)
    have h := SameEffect.bind (keepsOptions.atoms.steps.execLine _ _) hopened
      fun _ => .refl (closeInnermost line)
    rwa [bind_assoc] at h
  exact hline.trans (.bind (keepsOptions.atoms.openInnermost _ _) (.refl _) fun _ => helse)

/-- The lines do the body inside the `else` block. -/
theorem execLines_ifElse (hquote : '"' ∉ condition) (hbrace : '{' ∉ condition)
    (lines : List Text) :
    SameEffect (execLines (ifElseLines line condition lines) : Run σ Unit)
      (ifElse line (execLines (lines.map (Line.mk line)))) := by
  have hheader : SameEffect
      (execLine line (headerCode .ifBlock (condition ++ [' ', '{'])) : Run σ Unit)
      (openInnermost line .ifBlock) :=
    execLine_header_sameEffect line (ofLine?_headerCode .ifBlock _)
      (inlineBody?_headerCode .ifBlock hquote hbrace).2
  have hlast : SameEffect (execLines (lines.map (Line.mk line) ++ [⟨line, ['}']⟩]) : Run σ Unit)
      (execLines (lines.map (Line.mk line)) >>= fun _ => closeInnermost line) := by
    rw [execLines_append, execLines_singleton]
    exact .bind (keepsOptions.atoms.steps.execLines _) (.refl _) fun _ =>
      execLine_brace_sameEffect line
  have helse : SameEffect
      (execLine line (closeElse []) >>= fun _ =>
        execLines (lines.map (Line.mk line) ++ [⟨line, ['}']⟩]) : Run σ Unit)
      (closeInnermost line >>= fun _ => openInnermost line .elseBlock >>= fun _ =>
        execLines (lines.map (Line.mk line)) >>= fun _ => closeInnermost line) := by
    have h := SameEffect.bind (keepsOptions.atoms.steps.execLine _ _)
      (execLine_closeElse_sameEffect (σ := σ) line List.not_mem_nil) fun _ => hlast
    rwa [bind_assoc] at h
  exact .bind (keepsOptions.atoms.steps.execLine _ _) hheader fun _ => helse

end Run

/-! ## Blocks that are opened and closed again -/

namespace Session

variable {σ : Type}

/-- The session inside a block that was opened in it, with some bindings in the
block. -/
def within (s : Session σ) (line : Nat) (kind : BlockKind) (scope : Scope) : Session σ :=
  { s with
    symbols :=
      { s.symbols with
        frames := ⟨s.symbols.nextId kind, scope⟩ :: s.symbols.frames
        opened := s.symbols.opened.increment kind }
    blocks := ⟨s.symbols.nextId kind, line⟩ :: s.blocks
    counts := s.counts.increment kind }

/-- The session after a block was opened and closed: the number of the block was
given away. -/
def passed (s : Session σ) (kind : BlockKind) : Session σ :=
  { s with symbols := { s.symbols with opened := s.symbols.opened.increment kind } }

end Session

theorem Tally.decrement_increment (t : Tally) (kind : BlockKind) :
    (t.increment kind).decrement kind = t := by
  cases kind <;> rfl

namespace Run

variable {σ : Type} (s : Session σ) (line : Nat) (kind : BlockKind)

theorem openInnermost_within :
    (openInnermost line kind s).result = .ok () ∧
      (openInnermost line kind s).session = s.within line kind .empty :=
  ⟨rfl, rfl⟩

/-- What was bound in a block is gone when the block is closed. -/
theorem closeInnermost_within (scope : Scope) :
    (closeInnermost line (s.within line kind scope)).result = .ok () ∧
      (closeInnermost line (s.within line kind scope)).session = s.passed kind := by
  rw [Records.closeInnermost_apply line (s := s.within line kind scope) rfl rfl rfl]
  refine ⟨rfl, ?_⟩
  show ({ s with
    symbols := { s.symbols with opened := s.symbols.opened.increment kind }
    counts := (s.counts.increment kind).decrement kind } : Session σ) = _
  rw [Tally.decrement_increment]
  rfl

/-- Up to its body, an `if` with an `else` always gets. -/
theorem ifElse_apply (body : Run σ Unit) :
    let inside := (s.passed .ifBlock).within line .elseBlock .empty
    (ifElse line body s).result =
        ((body >>= fun _ => closeInnermost line) inside).result ∧
      (ifElse line body s).session =
        ((body >>= fun _ => closeInnermost line) inside).session := by
  intro inside
  obtain ⟨hresult₁, hsession₁⟩ := bind_apply_of_ok (openInnermost_within s line .ifBlock)
    (f := fun _ => closeInnermost line >>= fun _ => openInnermost line .elseBlock >>= fun _ =>
      body >>= fun _ => closeInnermost line)
  obtain ⟨hresult₂, hsession₂⟩ := bind_apply_of_ok (closeInnermost_within s line .ifBlock .empty)
    (f := fun _ => openInnermost line .elseBlock >>= fun _ => body >>= fun _ => closeInnermost line)
  obtain ⟨hresult₃, hsession₃⟩ :=
    bind_apply_of_ok (openInnermost_within (s.passed .ifBlock) line .elseBlock)
      (f := fun _ => body >>= fun _ => closeInnermost line)
  exact ⟨hresult₁.trans (hresult₂.trans hresult₃), hsession₁.trans (hsession₂.trans hsession₃)⟩

end Run

/-! ## What is written where nothing is bound -/

section

variable {t : SymbolTable} (hunbound : ∀ name, t.get? name = none) (t' : SymbolTable)

include hunbound

theorem Template.fillPieces_of_unbound {ps : List Piece} {text : Text}
    (h : fillPieces t ps = .ok text) : fillPieces t' ps = .ok text := by
  induction ps generalizing text with
  | nil => exact h
  | cons p rest ih =>
    cases p with
    | literal c =>
      rw [fillPieces] at h ⊢
      cases hrest : fillPieces t rest with
      | error cause =>
        rw [hrest] at h
        cases h
      | ok others =>
        rw [hrest] at h
        rw [ih hrest]
        exact h
    | «variable» name =>
      rw [fillPieces, fillPiece, SymbolTable.resolve_unbound (hunbound name)] at h
      cases h

theorem Output.showValue_of_unbound {v : Value} {text : Text} (h : showValue t v = .ok text) :
    showValue t' v = .ok text := by
  cases v with
  | reference name =>
    rw [showValue, SymbolTable.resolve_unbound (hunbound name)] at h
    cases h
  | _ => exact h

/-- What can be written where nothing is bound is written alike everywhere. -/
theorem Output.render_of_unbound {argument text : Text} (h : render t argument = .ok text) :
    render t' argument = .ok text := by
  rw [render] at h ⊢
  generalize stripParens argument.trim = bare at h ⊢
  cases bare with
  | nil => exact h
  | cons c rest =>
    simp only [renderBare] at h ⊢
    split at h
    next =>
      rw [mapError_eq_ok_iff] at h ⊢
      exact Template.fillPieces_of_unbound hunbound t' h
    next =>
      split at h
      next => cases h
      next =>
        rw [mapError_eq_ok_iff] at h ⊢
        exact showValue_of_unbound hunbound t' h

end

/-! ## Texts that leave no trace in a buffer -/

namespace Buffer

theorem write_nil (b : Buffer) : Sink.write b [] = (none, b) := by
  show b.write [] = _
  rw [write]
  cases b.limit? <;> simp [Text.utf8, add]

theorem eq_nil_of_write {b : Buffer} {t : Text} (h : Sink.write b t = (none, b)) : t = [] := by
  have hadd : b.add t.utf8 = b := by
    cases hlimit : b.limit? with
    | none =>
      have hwrite : Sink.write b t = (none, b.add t.utf8) := by
        show b.write t = _
        rw [write, hlimit]
      exact (Prod.mk.inj (hwrite.symm.trans h)).2
    | some limit =>
      by_cases hfits : t.utf8.length ≤ limit - b.bytes.size
      · exact (Prod.mk.inj ((write_of_fits hlimit hfits).symm.trans h)).2
      · exact absurd ((write_of_full hlimit hfits).symm.trans h) (by simp)
  have hsize := congrArg (fun b => b.bytes.size) hadd
  simp only [size_add] at hsize
  have hbytes : t.utf8 = [] := List.length_eq_zero_iff.1 (by omega)
  cases t with
  | nil => rfl
  | cons c rest => simp [Text.utf8] at hbytes

end Buffer

/-! ## Bodies of which nothing is left -/

namespace LeavesNothing

variable {strict : Bool} {text : Text} {s : Session Buffer}

/-- Such a body succeeds in every block, and at the most the bindings of the block
are changed by it. -/
theorem execLine_within (h : LeavesNothing strict text) (hs : s.options = ⟨false, strict⟩)
    (line : Nat) (kind : BlockKind) (scope : Scope) :
    ∃ scope', (Run.execLine line text (s.within line kind scope)).result = .ok () ∧
      (Run.execLine line text (s.within line kind scope)).session =
        s.within line kind scope' := by
  have htrace : (s.within line kind scope).options.trace = false := congrArg Options.trace hs
  cases h with
  | skipped hc hstrict =>
    have hoptions : (s.within line kind scope).options = ⟨false, false⟩ := hs.trans (by rw [hstrict])
    obtain ⟨hresult, hsession⟩ := Run.execLine_unknown_sameEffect line hc _ htrace
    rw [Run.skip, Run.session_bind_apply, hoptions] at hresult hsession
    exact ⟨scope, hresult, hsession⟩
  | @bound read hc hread =>
    exact ⟨scope.insert read.1.name read.2,
      Run.execLine_binding_sameEffect line hc hread _ htrace⟩
  | printed hc hrender =>
    have hprint := (Run.execLine_print_sameEffect (σ := Buffer) line hc).trans
      (Run.writeLine_sameEffect line .print text []) _ htrace
    rw [Run.session_bind_apply,
      Output.render_of_unbound (fun _ => rfl) (s.within line kind scope).symbols hrender] at hprint
    have hwrite : Run.write ([] ++ []) (s.within line kind scope) =
        ⟨.ok (), s.within line kind scope, []⟩ := by
      rw [Run.write, List.append_nil, Buffer.write_nil]
      rfl
    have hrun : (Run.ofFault line (.ok []) >>= fun rendered => Run.write (rendered ++ []))
        (s.within line kind scope) = Run.write ([] ++ []) (s.within line kind scope) := rfl
    rw [hrun, hwrite] at hprint
    exact ⟨scope, hprint⟩

end LeavesNothing

namespace Run

/-- What is done inside an `else` block that was opened in a session succeeds, and
does not show when the block is closed again. -/
structure Unseen (s : Session Buffer) (line : Nat) (o : Outcome Buffer Unit) : Prop where
  succeeds : o.result = .ok ()
  closes : (closeInnermost line o.session).result = .ok ()
  restored : (closeInnermost line o.session).session = s.passed .elseBlock

namespace Unseen

variable {s : Session Buffer} {line : Nat}

theorem of_within {o : Outcome Buffer Unit} (hresult : o.result = .ok ()) {scope : Scope}
    (hsession : o.session = s.within line .elseBlock scope) : Unseen s line o where
  succeeds := hresult
  closes := by rw [hsession, (closeInnermost_within _ _ _ _).1]
  restored := by rw [hsession, (closeInnermost_within _ _ _ _).2]

/-- Only the empty text is not seen in a buffer. -/
theorem eq_nil_of_write {t : Text}
    (h : Unseen s line (write t (s.within line .elseBlock .empty))) : t = [] := by
  obtain ⟨hresult, -, hsession⟩ := h
  rcases hwrite : Sink.write (s.within line .elseBlock .empty).sink t with ⟨_ | reason, sink⟩
  · have hwritten : (write t (s.within line .elseBlock .empty)).session =
        ({ s with sink } : Session Buffer).within line .elseBlock .empty := by
      rw [write, hwrite]
      rfl
    rw [hwritten, (closeInnermost_within _ _ _ _).2] at hsession
    obtain rfl : sink = s.sink := congrArg Session.sink hsession
    exact Buffer.eq_nil_of_write hwrite
  · rw [write, hwrite] at hresult
    cases hresult

/-- A block that is opened is seen: it stays open. -/
theorem not_openInnermost (kind : BlockKind) :
    ¬ Unseen s line (openInnermost line kind (s.within line .elseBlock .empty)) := by
  intro h
  have hsession := h.restored
  rw [(openInnermost_within _ line kind).2, (closeInnermost_within _ _ _ _).2] at hsession
  have hlength := congrArg (fun s => s.blocks.length) hsession
  simp [Session.passed, Session.within] at hlength

/-- Where nothing is bound, a line without braces that is not seen leaves
nothing. -/
theorem leavesNothing {strict : Bool} {body : Text} (hs : s.options = ⟨false, strict⟩)
    (hunbound : ∀ name, s.symbols.get? name = none) (hopen : '{' ∉ body) (hclose : '}' ∉ body)
    (h : Unseen s line (execLine line body (s.within line .elseBlock .empty))) :
    LeavesNothing strict body := by
  let inside := s.within line .elseBlock .empty
  have hsame {y : Run Buffer Unit} (hy : SameEffect (execLine line body) y) :
      Unseen s line (y inside) := by
    obtain ⟨hresult, hsession⟩ := hy inside (congrArg Options.trace hs)
    exact ⟨hresult ▸ h.succeeds, hsession ▸ h.closes, hsession ▸ h.restored⟩
  have hwritten {c : Construct} {ending : Text}
      (hy : SameEffect (execLine line body) (writeLine line c body ending : Run Buffer Unit)) :
      ∃ t, Output.render inside.symbols (c.argument body) = .ok t ∧ t ++ ending = [] := by
    have hrendered := hsame (hy.trans (writeLine_sameEffect line c body ending))
    rw [session_bind_apply] at hrendered
    cases hrender : Output.render inside.symbols (c.argument body) with
    | error cause =>
      rw [hrender] at hrendered
      cases hrendered.succeeds
    | ok t =>
      rw [hrender] at hrendered
      exact ⟨t, rfl, eq_nil_of_write hrendered⟩
  cases hc : Construct.ofLine? body with
  | none =>
    have hskip := (hsame (execLine_unknown_sameEffect line hc)).succeeds
    have hoptions : inside.options = ⟨false, strict⟩ := hs
    rw [skip, session_bind_apply, hoptions] at hskip
    cases strict with
    | false => exact .skipped hc rfl
    | true => cases hskip
  | some c =>
    cases c with
    | binding =>
      have hbind := (hsame (execLine_read_sameEffect line hc)).succeeds
      cases hread : readBinding body with
      | error cause =>
        rw [hread] at hbind
        cases hbind
      | ok read => exact .bound hc hread
    | print =>
      obtain ⟨t, hrender, hnil⟩ := hwritten (execLine_print_sameEffect line hc)
      rw [List.append_nil] at hnil
      rw [hnil] at hrender
      have hinside : ∀ name, inside.symbols.get? name = none := fun name => hunbound name
      exact .printed hc (Output.render_of_unbound hinside .empty hrender)
    | puts =>
      obtain ⟨t, -, hnil⟩ := hwritten
        ((execLine_puts_sameEffect line hc).trans (writeLine_sameEffect _ _ _ _).symm)
      exact absurd hnil (by simp)
    | block kind =>
      have hnone : body.inlineBody? = none := Text.inlineBody?_of_not_mem hopen
      exact absurd (hsame (execLine_header_sameEffect line hc hnone)) (not_openInnermost kind)
    | openBrace => exact absurd (Construct.keyword_subset hc (List.mem_singleton_self _)) hopen
    | closeBrace => exact absurd (Construct.keyword_subset hc (List.mem_singleton_self _)) hclose

end Unseen

/-- A body in the `else` block makes no difference if it is not seen. -/
theorem ifElse_eq_iff_unseen (s : Session Buffer) (line : Nat) (body : Run Buffer Unit) :
    let inside := (s.passed .ifBlock).within line .elseBlock .empty
    ((ifElse line (pure ()) s).result = (ifElse line body s).result ∧
        (ifElse line (pure ()) s).session = (ifElse line body s).session) ↔
      Unseen (s.passed .ifBlock) line (body inside) := by
  intro inside
  obtain ⟨hresult, hsession⟩ := ifElse_apply s line body
  obtain ⟨hempty, hpassed⟩ := ifElse_apply s line (pure () : Run Buffer Unit)
  rw [pure_bind, (closeInnermost_within _ _ _ _).1] at hempty
  rw [pure_bind, (closeInnermost_within _ _ _ _).2] at hpassed
  rw [hempty, hpassed, hresult, hsession]
  cases hbody : (body inside).result with
  | error failure =>
    rw [bind_apply_error hbody]
    constructor
    · intro h
      cases h.1
    · intro h
      cases hbody.symm.trans h.succeeds
  | ok done =>
    obtain ⟨hclose, hclosed⟩ :=
      bind_apply_of_ok (f := fun _ => closeInnermost line) ⟨hbody, rfl⟩
    rw [hclose, hclosed]
    exact ⟨fun h => ⟨hbody, h.1.symm, h.2.symm⟩, fun h => ⟨h.closes.symm, h.restored.symm⟩⟩

end Run

/-! ## Main statement -/

/-- **An `if` with an `else` on one line leaves the body of the `else` out.** Without
traces and on any sink, the line has the result of the lines `if c {`, `} else {`
and `}` in a row and leaves the same session, whatever is in the body. So it does
not do what these lines do with the body in front of the last brace: for a buffer,
that is the same in all sessions that calls lead to exactly if nothing is left of
the body. -/
theorem execLine_ifElse_iff {condition body : Text} (hquote : '"' ∉ condition)
    (hbrace : '{' ∉ condition) (hopen : '{' ∉ body) (hclose : '}' ∉ body) (strict : Bool)
    (sink : Buffer) :
    (∀ {σ : Type} [Sink σ] (s : Session σ), s.options.trace = false → ∀ line,
      (Run.execLine line (ifElseLine condition body) s).result =
          (Run.execLines (ifElseLines line condition []) s).result ∧
        (Run.execLine line (ifElseLine condition body) s).session =
          (Run.execLines (ifElseLines line condition []) s).session) ∧
    ((∀ s, Reachable ⟨false, strict⟩ sink s → ∀ line,
      (Run.execLine line (ifElseLine condition body) s).result =
          (Run.execLines (ifElseLines line condition [body]) s).result ∧
        (Run.execLine line (ifElseLine condition body) s).session =
          (Run.execLines (ifElseLines line condition [body]) s).session) ↔
      LeavesNothing strict body) := by
  have hjoined (line : Nat) := Run.execLine_ifElse (σ := Buffer) line hquote hbrace hclose
  have happart (line : Nat) (lines : List Text) :=
    Run.execLines_ifElse (σ := Buffer) line hquote hbrace lines
  have hagree {s : Session Buffer} (hs : s.options.trace = false) (line : Nat) :
      ((Run.execLine line (ifElseLine condition body) s).result =
          (Run.execLines (ifElseLines line condition [body]) s).result ∧
        (Run.execLine line (ifElseLine condition body) s).session =
          (Run.execLines (ifElseLines line condition [body]) s).session) ↔
      Run.Unseen (s.passed .ifBlock) line
        (Run.execLine line body ((s.passed .ifBlock).within line .elseBlock .empty)) := by
    obtain ⟨hresult, hsession⟩ := hjoined line s hs
    obtain ⟨hresult', hsession'⟩ := happart line [body] s hs
    rw [hresult, hsession, hresult', hsession', List.map_singleton, Run.execLines_singleton]
    exact Run.ifElse_eq_iff_unseen s line _
  refine ⟨fun s hs line => ?_, ?_, ?_⟩
  · exact ((Run.execLine_ifElse line hquote hbrace hclose).trans
      (Run.execLines_ifElse line hquote hbrace []).symm) s hs
  · intro hall
    exact ((hagree rfl 1).1 (hall _ .start 1)).leavesNothing rfl (fun _ => rfl) hopen hclose
  · intro hbody s hs line
    have hoptions := hs.options_eq
    obtain ⟨scope, hresult, hsession⟩ :=
      hbody.execLine_within (s := s.passed .ifBlock) hoptions line .elseBlock .empty
    exact (hagree (congrArg Options.trace hoptions) line).2 (.of_within hresult hsession)

/-- A binding in the `else` block is gone at its end, so that it makes no difference
that it is left out. -/
theorem execLine_ifElse_binding :
    let condition : Text := ['a']
    let body : Text := "let x = 1".toList
    let start := Session.start ⟨false, true⟩ Buffer.unlimited
    LeavesNothing true body ∧
      (Run.execLine 1 (ifElseLine condition body) start).session =
        (Run.execLines (ifElseLines 1 condition [body]) start).session := by
  intro condition body start
  have hread : readBinding body = .ok (⟨['x'], false, ['1']⟩, .integer 1) := by decide +kernel
  have hbody : LeavesNothing true body := .bound (by decide +kernel) hread
  exact ⟨hbody, ((execLine_ifElse_iff (by decide) (by decide) (by decide) (by decide) true
    Buffer.unlimited).2.2 hbody start .start 1).2⟩

/-- `puts` in the `else` block is left out: the lines write a line, and the one line
writes nothing. -/
theorem execLine_ifElse_puts :
    let condition : Text := ['a']
    let body : Text := "puts 1".toList
    let start := Session.start ⟨false, false⟩ Buffer.unlimited
    let joined := Run.execLine 1 (ifElseLine condition body) start
    let apart := Run.execLines (ifElseLines 1 condition [body]) start
    ifElseLine condition body = "if a {} else { puts 1 }".toList ∧
      Reachable ⟨false, false⟩ Buffer.unlimited start ∧
      joined.result = .ok () ∧ joined.session.sink.bytes = #[] ∧
      apart.result = .ok () ∧ apart.session.sink.bytes = #[49, 10] := by
  intro condition body start joined apart
  exact ⟨by decide, .start, by decide +kernel, by decide +kernel, by decide +kernel,
    by decide +kernel⟩

end LineScript
