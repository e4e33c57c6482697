/-
A value that is written in a source is the value that gets bound
(`execute_binding`). Its literal passes through the reader of lines, which looks
for marks of comments and for quotes, through the reader of bindings, which
looks for the first `=`, and through the reader of literals; none of them finds
anything in it that another one put there.

The one exception is the character `#`. Only quotes keep the mark of comments
from starting a comment, and a character stands between other marks; so its
literal ends at the `#`, and the mark that is left reads as a reference.
-/
import LineScript.Proofs.Program.Execution
import LineScript.Proofs.Source.FirstLines

namespace LineScript

open Text Program

/-- Whether a value is not kept as it was written and has a literal that fits on
a line. Signs are no part of literals, and the mark of characters cannot be
written as a character. -/
def Value.FitsOnLine : Value → Prop
  | integer i => 0 ≤ i.toInt
  | boolean _ => True
  | character c => c ∉ ['\'', '\n']
  | text t => '\n' ∉ t
  | float _ | arithmetic _ | reference _ => False

theorem Value.FitsOnLine.isWritable {v : Value} (h : v.FitsOnLine) (hmark : v ≠ .character '#') :
    v.IsWritable := by
  cases v with
  | character c =>
    simp only [FitsOnLine, List.mem_cons, List.not_mem_nil, or_false, not_or] at h
    have hc : c ≠ '#' := fun heq => hmark (by rw [heq])
    simp [IsWritable, h, hc]
  | integer i => exact h
  | boolean b => exact h
  | text t => exact h
  | float x => exact absurd h id
  | arithmetic raw => exact absurd h id
  | reference raw => exact absurd h id

/-! ## Sources of one line -/

namespace Source

theorem lines_singleton {raw text : Text} (hline : '\n' ∉ raw)
    (htext : logicalText? (raw.rdropWhile (· = '\r')) = some text) (hne : text ≠ []) :
    lines raw = .ok [⟨1, text⟩] := by
  rw [lines_of_not_mem hline htext, numbered_of_ne_nil (List.forall_mem_singleton.2 hne)]
  rfl

variable {name : Text} (hname : name.isIdentifier = true)

include hname

theorem lines_binding (literal : Literal) :
    lines (bindingCode false name literal.value.toLiteral) =
      .ok [⟨1, bindingCode false name literal.value.toLiteral⟩] := by
  have hkept := kept_binding 0 false hname literal.newline_not_mem literal.mark_not_mem_or_quoted
  have htext := hkept.logicalText?
  rw [logical_bindingCode] at htext
  exact lines_singleton hkept.oneLine htext (List.cons_ne_nil _ _)

/-- The character that marks comments is cut off together with what follows. -/
theorem lines_binding_mark :
    lines (bindingCode false name (Value.character '#').toLiteral) =
      .ok [⟨1, bindingCode false name ['\'']⟩] := by
  have hcode : bindingCode false name (Value.character '#').toLiteral =
      bindingCode false name ['\''] ++ '#' :: ['\''] := by
    simp [bindingCode, Value.toLiteral]
  have hplain : ∀ c ∈ ['\n', '#', '"'], c ∉ bindingCode false name ['\''] := by
    have hmark := not_mem_of_isIdentifier hname (c := '#') (by decide +kernel)
    have hnewline := not_mem_of_isIdentifier hname (c := '\n') (by decide +kernel)
    have hquote := not_mem_of_isIdentifier hname (c := '"') (by decide +kernel)
    simp [bindingCode, Construct.keyword, hmark, hnewline, hquote]
  have hreturn : (bindingCode false name ['\''] ++ '#' :: ['\'']).rdropWhile (· = '\r') =
      bindingCode false name ['\''] ++ '#' :: ['\''] :=
    rdropWhile_append_cons (by decide) _ _
  have hend : (bindingCode false name ['\'']).trimEnd = bindingCode false name ['\''] :=
    List.rdropWhile_concat_neg _ (Construct.binding.keyword ++ ' ' :: (name ++ [' ', '=', ' '])) _
      (by decide)
  have hcut := cutAt?_append_cons (hplain '#' (by simp)) ['\'']
  have hcode? : code? (bindingCode false name ['\''] ++ '#' :: ['\'']) =
      some (bindingCode false name ['\'']) := by
    rw [code?, hcut]
    simp [List.count_eq_zero.2 (hplain '"' (by simp)), hend]
  rw [hcode]
  refine lines_singleton ?_ ?_ (List.cons_ne_nil _ _)
  · have hnewline := hplain '\n' (by simp)
    simp [hnewline]
  · rw [hreturn, logicalText?, hcode?]
    rfl

end Source

/-! ## Running them -/

variable {σ : Type} [Sink σ]

theorem execute_of_binding (strict : Bool) {sink : σ} (hsink : Sink.Reliable sink)
    {source name literal : Text} {value : Value}
    (hlines : Source.lines source = .ok [⟨1, bindingCode false name literal⟩])
    (hname : name.isIdentifier = true) (hmut : name ≠ LetStatement.mutKeyword)
    (htrim : literal.trim = literal) (hne : literal ≠ [])
    (hvalue : Value.ofLiteral literal = .ok value) :
    (execute source ⟨false, strict⟩ sink).result = .ok () ∧
      (execute source ⟨false, strict⟩ sink).session.symbols =
        SymbolTable.empty.bind name value := by
  have heffect := Run.execLine_bindingCode (σ := σ) 1 false hname hmut htrim hne hvalue
    (Session.start ⟨false, strict⟩ sink) rfl
  rw [← Run.execLines_singleton ⟨1, bindingCode false name literal⟩] at heffect
  obtain ⟨hresult, hsession⟩ := heffect
  have hend := Run.runLines_apply (by rw [hsession]; exact hsink) hresult (by rw [hsession]; rfl)
  rw [execute_of_lines hlines, hend, hsession]
  exact ⟨rfl, rfl⟩

/-- **A value that is written is the value that is bound.** A source of one line
that binds an identifier to a literal runs to its end, strict or not, on any
sink that cannot fail. It leaves one binding, which is global, and the
identifier is bound to the value that the literal was written for, unless that
is the character `#`: then it is bound to a reference to the text `'`. -/
theorem execute_binding (strict : Bool) {sink : σ} (hsink : Sink.Reliable sink) {name : Text}
    (hname : name.isIdentifier = true) (hmut : name ≠ LetStatement.mutKeyword) {v : Value}
    (hv : v.FitsOnLine) :
    let o := execute (bindingCode false name v.toLiteral) ⟨false, strict⟩ sink
    o.result = .ok () ∧ o.session.symbols.frames = [] ∧
      o.session.symbols.globals.bindings =
        [(name, if v = .character '#' then .reference ['\''] else v)] := by
  intro o
  by_cases hmark : v = .character '#'
  · subst hmark
    have hvalue : Value.ofLiteral ['\''] = .ok (.reference ['\'']) := by decide +kernel
    obtain ⟨hresult, hsymbols⟩ := execute_of_binding strict hsink (Source.lines_binding_mark hname)
      hname hmut (by decide) (by decide) hvalue
    refine ⟨hresult, ?_, ?_⟩ <;> rw [hsymbols] <;> rfl
  · let literal : Literal := ⟨v, hv.isWritable hmark⟩
    obtain ⟨hresult, hsymbols⟩ := execute_of_binding strict hsink
      (Source.lines_binding hname literal) hname hmut literal.trim_toLiteral
      literal.toLiteral_ne_nil literal.ofLiteral_toLiteral
    refine ⟨hresult, ?_, ?_⟩
    · rw [hsymbols]
      rfl
    · rw [hsymbols, if_neg hmark]
      rfl

/-- A text that holds the marks of every reader is bound to a name that is a
truth value anywhere else. -/
theorem execute_binding_marks :
    let name : Text := ['t', 'r', 'u', 'e']
    let v := Value.text ['=', ' ', '#', '"', '\'', '{', '}', ' ']
    name.isIdentifier = true ∧ name ≠ LetStatement.mutKeyword ∧ v.FitsOnLine ∧
      (execute (bindingCode false name v.toLiteral) ⟨false, true⟩
        Buffer.unlimited).session.symbols.globals.bindings = [(name, v)] := by
  intro name v
  have hname : name.isIdentifier = true := by decide +kernel
  have hmut : name ≠ LetStatement.mutKeyword := by decide
  have hv : v.FitsOnLine := show '\n' ∉ _ by decide
  exact ⟨hname, hmut, hv, (execute_binding true Buffer.reliable_unlimited hname hmut hv).2.2⟩

/-- The character `#` is written and something else is bound. -/
theorem execute_binding_comment :
    let name : Text := ['x']
    let v := Value.character '#'
    let o := execute (bindingCode false name v.toLiteral) ⟨false, false⟩ Buffer.unlimited
    Sink.Reliable Buffer.unlimited ∧ name.isIdentifier = true ∧ name ≠ LetStatement.mutKeyword ∧
      v.FitsOnLine ∧ o.result = .ok () ∧ o.session.symbols.globals.bindings ≠ [(name, v)] := by
  intro name v o
  have hv : v.FitsOnLine := show '#' ∉ _ by decide
  exact ⟨Buffer.reliable_unlimited, by decide +kernel, by decide, hv, by decide +kernel,
    by decide +kernel⟩

end LineScript
