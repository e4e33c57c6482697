/-
Text behind a closing brace on the same line. Where no keyword is glued to the
brace, the text is run as a line of its own after the brace has closed a block;
that is so for all texts that start with white space, and for no text with a
keyword in what is glued to the brace (`execLine_behind_brace`). Such a line is
a line of that keyword's construct: `}else {` opens a block inside the open
ones and closes none.

That the two differ is seen on a new session: there the brace by itself has
nothing to close and changes nothing, while the line with the keyword either
fails for another reason, or succeeds, or has opened a block for good measure,
and how many blocks were ever opened is never forgotten.
-/
import LineScript.Proofs.Construct.FirstWord
import LineScript.Proofs.Session.Quiet
import LineScript.Proofs.Session.Records

namespace LineScript

variable {σ : Type}

/-! ## How many blocks were opened -/

namespace SymbolTable

theorem opened_closeFrame {t t' : SymbolTable} {expected : FrameId} {frame : Frame}
    (h : t.closeFrame expected = .ok (frame, t')) : t'.opened = t.opened := by
  rw [closeFrame] at h
  split at h
  · cases h
  · split at h
    · obtain ⟨rfl, rfl⟩ := Prod.mk.inj (Except.ok.inj h)
      rfl
    · cases h

end SymbolTable

/-- For each kind, the number of blocks that were ever opened does not fall. -/
def keepsOpened : Law σ := fun s _ _ s' =>
  ∀ kind, s.symbols.opened.get kind ≤ s'.symbols.opened.get kind

namespace keepsOpened

theorem of_eq {s s' : Session σ} {es : List Event} {failure : Option Failure}
    (h : s'.symbols.opened = s.symbols.opened) : keepsOpened s es failure s' := by
  intro kind
  rw [h]

theorem composes : Law.Composes (keepsOpened (σ := σ)) where
  nothing _ _ := Nat.le_refl _
  andThen h₁ h₂ kind := Nat.le_trans (h₁ kind) (h₂ kind)

theorem closeInnermost (line : Nat) :
    (Run.closeInnermost line : Run σ Unit).Obeys keepsOpened := by
  intro s
  rcases Run.closeInnermost_cases line s with
    ⟨cause, blocks, hfails⟩ | ⟨block, outer, frame, symbols, -, hclose, hcloses⟩
  · rw [hfails]
    exact of_eq rfl
  · rw [hcloses]
    exact of_eq (SymbolTable.opened_closeFrame hclose)

theorem openInnermost (line : Nat) (kind : BlockKind) :
    (Run.openInnermost line kind : Run σ Unit).Obeys keepsOpened := by
  intro s kind'
  show s.symbols.opened.get kind' ≤ (s.symbols.opened.increment kind).get kind'
  rw [Tally.get_increment]
  exact Nat.le_add_right _ _

theorem atoms [Sink σ] : Law.Atoms (keepsOpened (σ := σ)) where
  toComposes := composes
  report _ _ _ := of_eq rfl
  fail _ _ _ _ := of_eq rfl
  write t s := by
    rw [Run.write]
    rcases Sink.write s.sink t with ⟨_ | reason, sink⟩ <;> exact of_eq rfl
  bindName name value s := of_eq (s.symbols.opened_bind name value)
  openInnermost := openInnermost
  closeInnermost := closeInnermost

end keepsOpened

/-! ## Sessions keep their options -/

theorem keepsOptions.finish [Sink σ] : (Run.finish : Run σ Unit).Obeys keepsOptions := by
  intro s
  rw [Run.finish, Run.session_bind_apply]
  cases s.blocks with
  | nil =>
    show (Run.flush s).session.options = s.options
    rw [Run.flush]
    rcases Sink.flush s.sink with ⟨_ | reason, sink⟩ <;> rfl
  | cons block outer => rfl

theorem Reachable.options_eq [Sink σ] {options : Options} {sink : σ} {s : Session σ}
    (h : Reachable options sink s) : s.options = options := by
  induction h with
  | start => rfl
  | call c _ ih => exact (keepsOptions.atoms.steps.call keepsOptions.finish c _).trans ih

/-! ## Lines that are no closing brace -/

namespace Run

variable [Sink σ] {text : Text} {s : Session σ}

/-- A block line has opened a block, whatever happens afterwards. -/
theorem opened_lt_of_block {kind : BlockKind} (hs : s.options.trace = false) (line : Nat)
    (hc : Construct.ofLine? text = some (.block kind)) :
    s.symbols.opened.get kind < (execLine line text s).session.symbols.opened.get kind := by
  have hopen : (openInnermost line kind s).session.symbols.opened.get kind =
      s.symbols.opened.get kind + 1 := by
    show (s.symbols.opened.increment kind).get kind = _
    rw [Tally.get_increment, if_pos rfl]
  have hthen : ∀ x : Run σ Unit, x.Obeys keepsOpened → s.symbols.opened.get kind <
      ((openInnermost line kind >>= fun _ => x) s).session.symbols.opened.get kind := by
    intro x hx
    have hkept := hx (openInnermost line kind s).session kind
    rw [hopen] at hkept
    rw [bind_apply_ok (a := ()) rfl]
    exact hkept
  cases hb : text.inlineBody? with
  | none =>
    rw [(execLine_header_sameEffect line hc hb s hs).2, hopen]
    exact Nat.lt_succ_self _
  | some body =>
    cases body with
    | nil =>
      rw [(execLine_emptyBlock_sameEffect line hc hb s hs).2]
      exact hthen _ (keepsOpened.closeInnermost line)
    | cons c body =>
      rw [(execLine_inlineBlock_sameEffect line hc hb s hs).2]
      refine hthen _ (keepsOpened.composes.bind (keepsOpened.atoms.steps.execLine _ _) fun _ => ?_)
      exact keepsOpened.closeInnermost line

theorem writeLine_ne_scope (hs : s.options.trace = false) (line : Nat) (c : Construct)
    (text ending : Text) (line' : Nat) (cause : ScopeError) :
    (writeLine line c text ending s).result ≠ .error (.fault line' (.scope cause)) := by
  rw [(writeLine_sameEffect line c text ending s hs).1, session_bind_apply]
  cases hrender : Output.render s.symbols (c.argument text) with
  | error why =>
    have hwhy := render_ne_scope hrender cause
    intro h
    exact hwhy (Failure.fault.inj (Except.error.inj h)).2
  | ok rendered =>
    show (write (rendered ++ ending) s).result ≠ _
    rw [write]
    rcases Sink.write s.sink (rendered ++ ending) with ⟨_ | reason, sink⟩ <;> simp [sinkAnswer]

/-- Nothing is said about scopes by a line that neither opens nor closes a
block. -/
theorem execLine_ne_scope {c : Construct} (hs : s.options.trace = false) (line : Nat)
    (hc : Construct.ofLine? text = some c) (hopens : ∀ kind, c ≠ .block kind)
    (hcloses : c ≠ .closeBrace) (line' : Nat) (cause : ScopeError) :
    (execLine line text s).result ≠ .error (.fault line' (.scope cause)) := by
  cases c with
  | block kind => exact absurd rfl (hopens kind)
  | closeBrace => exact absurd rfl hcloses
  | openBrace =>
    rw [(execLine_openBrace_sameEffect line hc s hs).1]
    exact nofun
  | print =>
    rw [(execLine_print_sameEffect line hc s hs).1]
    exact writeLine_ne_scope hs line .print text [] line' cause
  | puts =>
    rw [(execLine_puts_sameEffect line hc s hs).1,
      ← (writeLine_sameEffect line .puts text ['\n'] s hs).1]
    exact writeLine_ne_scope hs line .puts text ['\n'] line' cause
  | binding =>
    rw [(execLine_read_sameEffect line hc s hs).1]
    cases hread : readBinding text with
    | error why =>
      have hwhy := readBinding_ne_scope hread cause
      intro h
      exact hwhy (Failure.fault.inj (Except.error.inj h)).2
    | ok read => exact nofun

/-! ## Lines that start with a closing brace -/

theorem execLine_brace_cons_sameEffect {r : Text} (hr : r.trim ≠ [])
    (hc : Construct.ofLine? ('}' :: r) = some .closeBrace) (line : Nat) :
    SameEffect (execLine line ('}' :: r) : Run σ Unit)
      (execLine line ['}'] >>= fun _ => execLine line r.trim) := by
  have hafter : Text.afterClose ('}' :: r) = r.trim := rfl
  have hthen := execLine_closeThen_sameEffect (σ := σ) line hc (by rw [hafter]; exact hr)
  rw [hafter] at hthen
  exact hthen.trans (.bind (keepsOptions.closeInnermost line)
    (execLine_brace_sameEffect line).symm fun _ => .refl _)

end Run

/-- **Text behind a closing brace is a line of its own exactly where no keyword
is glued to the brace.** A line that starts with a closing brace is a line of
the first construct, in the order of priority, whose keyword is glued to the
brace. If there is none, then in every session that calls without traces lead
to, the line has the result of the brace by itself and then, if that succeeds,
of the trimmed text behind it, and leaves the same session. If there is one,
some session tells them apart. -/
theorem execLine_behind_brace [Sink σ] (strict : Bool) (sink : σ) (r : Text) (hr : r.trim ≠ []) :
    Construct.ofLine? ('}' :: r) = some ((Construct.ofWord? r.glued).getD .closeBrace) ∧
    ((∀ c : Construct, c ≠ .closeBrace → Text.contains c.keyword r.glued = false) ↔
      ∀ s : Session σ, Reachable ⟨false, strict⟩ sink s → ∀ line,
        (Run.execLine line ('}' :: r) s).result =
            ((Run.execLine line ['}'] >>= fun _ => Run.execLine line r.trim) s).result ∧
          (Run.execLine line ('}' :: r) s).session =
            ((Run.execLine line ['}'] >>= fun _ => Run.execLine line r.trim) s).session) := by
  refine ⟨Construct.ofLine?_brace_cons r, ?_⟩
  rw [← Construct.ofLine?_brace_cons_iff]
  constructor
  · intro hc s hs line
    exact Run.execLine_brace_cons_sameEffect hr hc line s (by rw [hs.options_eq])
  · intro hall
    by_contra hc
    let start := Session.start ⟨false, strict⟩ sink
    -- on a new session the brace by itself fails and changes nothing
    have hbrace := Run.execLine_brace_sameEffect 1 start rfl
    have hfirst : (Run.execLine 1 ['}'] start).result =
        .error (.fault 1 (.scope .unmatchedClose)) := hbrace.1
    have hsame := hall start .start 1
    rw [Run.bind_apply_error hfirst, hbrace.2] at hsame
    obtain ⟨hresult, hsession⟩ := hsame
    have hline := Construct.ofLine?_brace_cons r
    cases hd : (Construct.ofWord? r.glued).getD .closeBrace with
    | closeBrace => exact hc (by rw [hline, hd])
    | block kind =>
      have hlt := Run.opened_lt_of_block (s := start) rfl 1 (hline.trans (congrArg some hd))
      rw [hsession] at hlt
      exact Nat.lt_irrefl _ hlt
    | binding | print | puts | openBrace =>
      exact Run.execLine_ne_scope (s := start) rfl 1 (hline.trans (congrArg some hd)) nofun nofun
        1 .unmatchedClose hresult

/-- `} else {` behind `if a {`: white space ends the word of the brace. -/
theorem execLine_behind_brace_spaced :
    let r := [' ', 'e', 'l', 's', 'e', ' ', '{']
    let s := (Run.execLine 1 ['i', 'f', ' ', 'a', ' ', '{']
      (Session.start ⟨false, true⟩ Buffer.unlimited)).session
    Text.trim r ≠ [] ∧ (Run.execLine 2 ('}' :: r) s).session =
        ((Run.execLine 2 ['}'] >>= fun _ => Run.execLine 2 (Text.trim r)) s).session ∧
      (Run.execLine 2 ('}' :: r) s).session.blocks = [⟨⟨.elseBlock, 0⟩, 2⟩] := by
  intro r s
  have hr : Text.trim r ≠ [] := by decide
  have hs : Reachable ⟨false, true⟩ Buffer.unlimited s := .call (.execLine 1 _) .start
  have hglued : ∀ c : Construct, c ≠ .closeBrace →
      Text.contains c.keyword (Text.glued r) = false := by
    intro c hc
    rcases c with _ | _ | _ | kind | _ | _
    case block => cases kind <;> rfl
    case closeBrace => exact absurd rfl hc
    all_goals rfl
  exact ⟨hr, ((execLine_behind_brace true _ r hr).2.1 hglued s hs 2).2, by decide +kernel⟩

/-- `}else {` behind `if a {` closes nothing: the text behind the brace is not
run as a line of its own. -/
theorem execLine_behind_brace_glued :
    let r := ['e', 'l', 's', 'e', ' ', '{']
    let s := (Run.execLine 1 ['i', 'f', ' ', 'a', ' ', '{']
      (Session.start ⟨false, false⟩ Buffer.unlimited)).session
    let joined := (Run.execLine 2 ('}' :: r) s).session
    let apart := ((Run.execLine 2 ['}'] >>= fun _ => Run.execLine 2 (Text.trim r)) s).session
    Text.trim r ≠ [] ∧ Reachable ⟨false, false⟩ Buffer.unlimited s ∧
      joined.blocks = [⟨⟨.elseBlock, 0⟩, 2⟩, ⟨⟨.ifBlock, 0⟩, 1⟩] ∧
      apart.blocks = [⟨⟨.elseBlock, 0⟩, 2⟩] ∧ joined ≠ apart := by
  intro r s joined apart
  have hjoined : joined.blocks = [⟨⟨.elseBlock, 0⟩, 2⟩, ⟨⟨.ifBlock, 0⟩, 1⟩] := by decide +kernel
  have hapart : apart.blocks = [⟨⟨.elseBlock, 0⟩, 2⟩] := by decide +kernel
  refine ⟨by decide, .call (.execLine 1 _) .start, hjoined, hapart, fun hsame => ?_⟩
  rw [hsame, hapart] at hjoined
  exact absurd hjoined (by decide)

end LineScript
