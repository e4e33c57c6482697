/-
Errors of nesting are mismatches of brackets (`runLines_nesting`), for lines
that open a block, close one or bind a name.

A session stands behind some lines when its blocks are those that the lines
leave open and each kind of block was opened as often as the lines say
(`Session.StandsBehind`). Each line takes a session from behind the lines before
it to behind the line itself, unless it closes a block and none is open. The
numbers in the identities of blocks come from how many were opened, which is why
closing blocks in between has no say in them.
-/
import LineScript.Proofs.Session.Brackets
import LineScript.Proofs.Session.Quiet
import LineScript.Proofs.Session.Ready

namespace LineScript

open Brackets

/-- A line that opens a block and holds no body for it, a closing brace by
itself, or a binding that can be read. -/
inductive NestingLine : Text → Prop
  | opening {text : Text} {kind : BlockKind} (hc : Construct.ofLine? text = some (.block kind))
      (hbody : text.inlineBody? = none) : NestingLine text
  | closing : NestingLine ['}']
  | binding {text : Text} {read : LetStatement × Value}
      (hc : Construct.ofLine? text = some .binding) (hread : readBinding text = .ok read) :
      NestingLine text

variable {σ : Type} [Sink σ] {s : Session σ} {lines : List Line} {line : Line}

/-- The session is ready, its blocks are those that the lines leave open, and
what was opened of each kind was opened by the lines. -/
structure Session.StandsBehind (s : Session σ) (lines : List Line) : Prop where
  ready : s.Ready
  blocks : LeavesOpen lines s.blocks
  opened : ∀ kind, s.symbols.opened.get kind = openingsOf kind lines

namespace Session.StandsBehind

theorem start (strict : Bool) {sink : σ} (h : Sink.Reliable sink) :
    (Session.start ⟨false, strict⟩ sink).StandsBehind [] :=
  ⟨.start strict h, .nothing .nil, fun kind => Tally.get_zero kind⟩

theorem opening (h : s.StandsBehind lines) {kind : BlockKind} (hopens : line.opens? = some kind) :
    (Run.openInnermost line.number kind s).session.StandsBehind (lines ++ [line]) where
  ready := h.ready.openInnermost line.number kind
  blocks := by
    show LeavesOpen _ (⟨⟨kind, s.symbols.opened.get kind⟩, line.number⟩ :: s.blocks)
    rw [h.opened]
    exact h.blocks.concat_opening hopens
  opened kind' := by
    show (s.symbols.opened.increment kind).get kind' = _
    simp [Tally.get_increment, h.opened, hopens]

theorem closing (h : s.StandsBehind lines) (hcloses : line.closes = true) {block : OpenBlock}
    {outer : List OpenBlock} (hb : s.blocks = block :: outer) :
    (Run.closeInnermost line.number s).result = .ok () ∧
      (Run.closeInnermost line.number s).session.StandsBehind (lines ++ [line]) := by
  obtain ⟨hok, hready, houter, hopened⟩ := h.ready.closeInnermost line.number hb
  have hblocks := h.blocks
  rw [hb] at hblocks
  refine ⟨hok, hready, ?_, fun kind => ?_⟩
  · rw [houter]
    exact hblocks.concat_closing hcloses
  · simp [hopened, h.opened, Line.opens?_of_closes hcloses]

theorem binding (h : s.StandsBehind lines) (hopens : line.opens? = none)
    (hcloses : line.closes = false) (name : Text) (value : Value) :
    Session.StandsBehind { s with symbols := s.symbols.bind name value } (lines ++ [line]) where
  ready := h.ready.bindName name value
  blocks := h.blocks.append (.other hopens hcloses)
  opened kind := by simp [SymbolTable.opened_bind, h.opened, hopens]

end Session.StandsBehind

/-! ## What lines lead to -/

namespace Run

/-- A line is run, or it closes a block and none is open. -/
theorem execLine_nesting (h : s.StandsBehind lines) (hline : NestingLine line.text) :
    ((execLine line.number line.text s).result = .ok () ∧
      (execLine line.number line.text s).session.StandsBehind (lines ++ [line])) ∨
    (OverclosedAt (lines ++ [line]) line ∧ (execLine line.number line.text s).result =
      .error (.fault line.number (.scope .unmatchedClose))) := by
  obtain ⟨number, text⟩ := line
  have hquiet := h.ready.quiet
  cases hline with
  | @opening _ kind hc hbody =>
    obtain ⟨hresult, hsession⟩ := execLine_header_sameEffect number hc hbody s hquiet
    have hopens : Line.opens? ⟨number, text⟩ = some kind := by
      simp [Line.opens?, hc, Construct.opens?]
    rw [hresult, hsession]
    exact .inl ⟨rfl, h.opening hopens⟩
  | closing =>
    obtain ⟨hresult, hsession⟩ := execLine_brace_sameEffect number s hquiet
    have hc : Construct.ofLine? ['}'] = some .closeBrace := by decide
    have hcloses : Line.closes ⟨number, ['}']⟩ = true := by simp [Line.closes, hc]
    rw [hresult, hsession]
    cases hb : s.blocks with
    | nil =>
      have hblocks := h.blocks
      rw [hb] at hblocks
      refine .inr ⟨overclosedAt_iff.2 ⟨hcloses, lines, [], rfl, hblocks.balanced⟩, ?_⟩
      rw [closeInnermost, session_bind_apply, hb]
      rfl
    | cons block outer => exact .inl (h.closing hcloses hb)
  | @binding _ read hc hread =>
    obtain ⟨hresult, hsession⟩ := execLine_binding_sameEffect number hc hread s hquiet
    have hopens : Line.opens? ⟨number, text⟩ = none := by
      simp [Line.opens?, hc, Construct.opens?]
    have hcloses : Line.closes ⟨number, text⟩ = false := by simp [Line.closes, hc]
    rw [hresult, hsession]
    exact .inl ⟨rfl, h.binding hopens hcloses _ _⟩

/-- Lines are run to their end, or up to the first one that closes too much. -/
theorem execLines_nesting {before : List Line} (h : s.StandsBehind before)
    (hlines : ∀ line ∈ lines, NestingLine line.text) :
    ((execLines lines s).result = .ok () ∧
      (execLines lines s).session.StandsBehind (before ++ lines)) ∨
    ∃ line, OverclosedAt (before ++ lines) line ∧
      (execLines lines s).result = .error (.fault line.number (.scope .unmatchedClose)) := by
  induction lines generalizing before s with
  | nil => exact .inl ⟨rfl, by rw [List.append_nil]; exact h⟩
  | cons line rest ih =>
    obtain ⟨hline, hrest⟩ := List.forall_mem_cons.1 hlines
    have hrun : (execLines (line :: rest) : Run σ Unit) =
        execLine line.number line.text >>= fun _ => execLines rest := rfl
    have hsplit : before ++ line :: rest = before ++ [line] ++ rest := by simp
    rw [hrun, hsplit]
    rcases execLine_nesting h hline with ⟨hok, hbehind⟩ | ⟨hfirst, herror⟩
    · rw [bind_apply_ok hok]
      exact ih hbehind hrest
    · rw [bind_apply_error herror]
      exact .inr ⟨line, hfirst.append rest, rfl⟩

/-- The three ways in which a run can end. -/
theorem runLines_cases (strict : Bool) {sink : σ} (hsink : Sink.Reliable sink)
    (hlines : ∀ line ∈ lines, NestingLine line.text) :
    let result := (runLines lines (Session.start ⟨false, strict⟩ sink)).result
    (Balanced lines ∧ result = .ok ()) ∨
    (∃ line, OverclosedAt lines line ∧
      result = .error (.fault line.number (.scope .unmatchedClose))) ∨
    ∃ block outer, LeavesOpen lines (block :: outer) ∧
      result = .error (.fault block.line (.scope (.unclosed block.frame))) := by
  intro result
  rcases execLines_nesting (.start strict hsink) hlines with ⟨hok, hbehind⟩ | ⟨line, hfirst, herror⟩
  · have hblocks := hbehind.blocks
    cases hb : (execLines lines (Session.start ⟨false, strict⟩ sink)).session.blocks with
    | nil =>
      rw [hb] at hblocks
      exact .inl ⟨hblocks.balanced,
        congrArg Outcome.result (runLines_apply hbehind.ready.reliable hok hb)⟩
    | cons block outer =>
      rw [hb] at hblocks
      exact .inr (.inr ⟨block, outer, hblocks, runLines_unclosed hok hb⟩)
  · have hresult : result = .error (.fault line.number (.scope .unmatchedClose)) := by
      show (runLines _ _).result = _
      rw [runLines, bind_apply_error herror]
    exact .inr (.inl ⟨line, hfirst, hresult⟩)

end Run

/-- **Errors of nesting are mismatches of brackets.** Lines that open a block,
close one or bind a name are run from the start, strict or not, on a sink that
cannot fail. The run succeeds exactly if the lines are balanced. It is refused
for an unmatched brace exactly if some first part of the lines closes more than
it opens, and then at the first line where this is so. Otherwise it ends at the
last opening line that nothing matches, with the kind of its block and the
number of lines before it that open a block of the kind, closed or not. -/
theorem runLines_nesting (strict : Bool) {sink : σ} (hsink : Sink.Reliable sink)
    (hlines : ∀ line ∈ lines, NestingLine line.text) :
    let result := (Run.runLines lines (Session.start ⟨false, strict⟩ sink)).result
    (result = .ok () ↔ Balanced lines) ∧
    ((∃ number, result = .error (.fault number (.scope .unmatchedClose))) ↔
      ∃ before, before <+: lines ∧ Overclosed before) ∧
    (∀ number, result = .error (.fault number (.scope .unmatchedClose)) ↔
      ∃ line, OverclosedAt lines line ∧ line.number = number) ∧
    (¬ Balanced lines → NeverOverclosed lines →
      ∃ before line after kind, lines = before ++ line :: after ∧ line.opens? = some kind ∧
        ¬ Matched after ∧
        (∀ inner other rest, after = inner ++ other :: rest → other.opens?.isSome →
          Matched rest) ∧
        result = .error (.fault line.number
          (.scope (.unclosed ⟨kind, openingsOf kind before⟩)))) := by
  intro result
  have hsome : (∃ before, before <+: lines ∧ Overclosed before) ↔ ¬ NeverOverclosed lines := by
    simp [NeverOverclosed]
  rw [hsome]
  rcases Run.runLines_cases strict hsink hlines with
    ⟨hbalanced, hresult⟩ | ⟨line, hfirst, hresult⟩ | ⟨block, outer, hblocks, hresult⟩
  · have hnone := hbalanced.never.not_overclosedAt
    rw [show result = _ from hresult]
    simp [hbalanced, hbalanced.never, hnone]
  · have hnever := exists_overclosedAt_iff.1 ⟨line, hfirst⟩
    rw [show result = _ from hresult]
    refine ⟨⟨nofun, fun h => absurd h.never hnever⟩, ⟨fun _ => hnever, fun _ => ⟨_, rfl⟩⟩, ?_, ?_⟩
    · intro number
      constructor
      · intro heq
        exact ⟨line, hfirst, by simpa using heq⟩
      · rintro ⟨line', hfirst', rfl⟩
        rw [hfirst.unique hfirst']
    · intro _ h
      exact absurd h hnever
  · have hnever := hblocks.neverOverclosed
    have hnone := hnever.not_overclosedAt
    obtain ⟨before, line, after, kind, heq, hopens, hunmatched, hlast, rfl⟩ :=
      hblocks.last_unmatched
    rw [show result = _ from hresult]
    refine ⟨by simp [hblocks.not_balanced], by simp [hnever], by simp [hnone], fun _ _ => ?_⟩
    exact ⟨before, line, after, kind, heq, hopens, hunmatched, hlast, rfl⟩

/-- A block that was closed counts in the identity of the one that stays open,
and one that was closed behind it does not take its place. -/
theorem runLines_nesting_mixed :
    let lines : List Line :=
      [⟨1, ['i', 'f', ' ', '{']⟩, ⟨2, ['l', 'e', 't', ' ', 'x', ' ', '=', ' ', '1']⟩, ⟨4, ['}']⟩,
        ⟨5, ['i', 'f', ' ', '{']⟩, ⟨6, ['f', 'o', 'r', ' ', '{']⟩, ⟨9, ['}']⟩]
    (∀ line ∈ lines, NestingLine line.text) ∧ ¬ Balanced lines ∧ NeverOverclosed lines ∧
      (Run.runLines lines (Session.start ⟨false, true⟩ Buffer.unlimited)).result =
        .error (.fault 5 (.scope (.unclosed ⟨.ifBlock, 1⟩))) := by
  intro lines
  have hif : Construct.ofLine? ['i', 'f', ' ', '{'] = some (.block .ifBlock) := by decide
  have hfor : Construct.ofLine? ['f', 'o', 'r', ' ', '{'] = some (.block .forBlock) := by decide
  have hread : readBinding ['l', 'e', 't', ' ', 'x', ' ', '=', ' ', '1'] =
      .ok (⟨['x'], false, ['1']⟩, .integer 1) := by decide +kernel
  have hlines : ∀ line ∈ lines, NestingLine line.text := by
    simp [lines, NestingLine.closing, NestingLine.opening hif (by decide),
      NestingLine.opening hfor (by decide), NestingLine.binding (by decide) hread]
  have hresult : (Run.runLines lines (Session.start ⟨false, true⟩ Buffer.unlimited)).result =
      .error (.fault 5 (.scope (.unclosed ⟨.ifBlock, 1⟩))) := by decide +kernel
  obtain ⟨hok, hunmatched, -⟩ := runLines_nesting true Buffer.reliable_unlimited hlines
  rw [hresult] at hok hunmatched
  refine ⟨hlines, fun h => absurd (hok.2 h) nofun, fun before hbefore hover => ?_, hresult⟩
  obtain ⟨number, hnumber⟩ := hunmatched.2 ⟨before, hbefore, hover⟩
  simp at hnumber

end LineScript
