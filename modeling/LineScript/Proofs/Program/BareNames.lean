/-
The two ways of writing the value of a name: bare, as in `puts x`, and at its place
in a template, as in `puts "{x}"`.

A bare argument is tried as a literal first, and a placeholder is looked up at
once. Main statement: they write the same or fail for the same reason, whatever
the table holds (`Program.puts_bare_eq_placed`), with two exceptions. The words
`true` and `false` are identifiers and can be bound, but as literals they are truth
values; so bare they write themselves, and in a template what they are bound to. No
identifier is a literal of any other type.
-/
import LineScript.Proofs.Program.Naming

namespace LineScript

namespace Output

/-- The argument that has a name at its place in a template and nothing else. -/
def placed (name : Text) : Text :=
  (Value.text ('{' :: name ++ ['}'])).toLiteral

/-- A truth value is written as it stands, whatever its word is bound to. -/
theorem render_booleanText (symbols : SymbolTable) (b : Bool) :
    render symbols (Value.booleanText b) = .ok (Value.booleanText b) := by
  have htrim : (Value.booleanText b).trim = Value.booleanText b := by cases b <;> decide
  have hstrip : stripParens (Value.booleanText b) = Value.booleanText b := by cases b <;> decide
  have htype : ValueType.ofLiteral (Value.booleanText b) = .boolean := by
    cases b <;> decide +kernel
  rw [render, htrim, hstrip, renderBare, htype]
  · cases b <;> rfl
  · cases b <;> exact List.cons_ne_nil _ _

/-- A name at its place in a template is written as what it resolves to. -/
theorem render_placed (symbols : SymbolTable) {name : Text} (h : name.isIdentifier = true) :
    render symbols (placed name) =
      ((symbols.resolve name).map Value.display).mapError .lookup := by
  have hquote : '{' :: name ++ ['}'] = Template.quote [.placeholder name h] := by
    simp [Template.quote, Segment.quote]
  have hfill : Template.fill symbols (Template.quote [.placeholder name h]) =
      (symbols.resolve name).map Value.display := by
    rw [Template.fill, Template.pieces_quote, List.flatMap_singleton, Template.fillPieces_pieces,
      Segment.value]
  rw [placed, render_text, hquote, hfill]

end Output

namespace Run

open Program

variable {σ : Type} [Sink σ] (line : Nat)

/-- What a `puts` line does behind its trace line. -/
def putsArgument (line : Nat) (argument : Text) : Run σ Unit := do
  putsRendered line (Output.render (← session).symbols argument)

theorem execLine_putsCode_eq {argument : Text} (htrim : argument.trim = argument) :
    (execLine line (putsCode argument) : Run σ Unit) =
      dispatch line (some .puts) >>= fun _ => trace .puts (putsCode argument) >>= fun _ =>
        putsArgument line argument := by
  have hargument : Construct.puts.argument (putsCode argument) = argument := by
    rw [argument_putsCode, htrim]
  rw [execLine, Statement.ofText_puts (ofLine?_putsCode argument), exec, writeLine, hargument]
  rfl

/-- Trace lines make no difference where none are asked for. -/
theorem dispatch_trace_apply {s : Session σ} (htrace : s.options.trace = false) (c : Construct)
    (text : Text) (rest : Run σ Unit) :
    (dispatch line (some c) >>= fun _ => trace c text >>= fun _ => rest) s =
      (dispatch line (some c) >>= fun _ => rest) s := by
  have hdispatched : (dispatch line (some c) s : Outcome σ Unit).result = .ok () := rfl
  have hrest : (trace c text >>= fun _ => rest) s = rest s := by
    rw [bind_apply, trace_apply c text htrace]
    rfl
  rw [bind_apply_ok hdispatched, bind_apply_ok hdispatched,
    show (dispatch line (some c) s : Outcome σ Unit).session = s from rfl, hrest]

end Run

namespace Program

open Output (placed)

/-- **A name is written alike bare and in a template, unless it is the word of a
truth value.** Whatever the table holds, the two arguments give the same text or
the same fault; so the two `puts` lines do the same, once each has written its own
trace line, and without traces they come to the same in everything. The words of
the two truth values are written as they stand where they are bare, so that for
them the two agree exactly where the word resolves to something that is written
like it. -/
theorem puts_bare_eq_placed {σ : Type} [Sink σ] {name : Text} (h : name.isIdentifier = true) :
    ((∀ b, name ≠ Value.booleanText b) →
      (∀ symbols, Output.render symbols name = Output.render symbols (placed name)) ∧
      ∀ line : Nat,
        (∃ rest : Run σ Unit, ∀ argument ∈ [name, placed name],
          Run.execLine line (putsCode argument) =
            Run.dispatch line (some .puts) >>= fun _ =>
              Run.trace .puts (putsCode argument) >>= fun _ => rest) ∧
        ∀ s : Session σ, s.options.trace = false →
          Run.execLine line (putsCode name) s = Run.execLine line (putsCode (placed name)) s) ∧
    ∀ b, name = Value.booleanText b → ∀ symbols,
      Output.render symbols name = .ok name ∧
      (Output.render symbols name = Output.render symbols (placed name) ↔
        (symbols.resolve name).map Value.display = .ok name) := by
  refine ⟨fun hother => ?_, fun b hb symbols => ?_⟩
  · have hrender (symbols : SymbolTable) :
        Output.render symbols name = Output.render symbols (placed name) := by
      rw [Output.render_identifier symbols h hother, Output.render_placed symbols h]
    refine ⟨hrender, fun line => ?_⟩
    have hbare := Run.execLine_putsCode_eq (σ := σ) line (Text.isWord_of_isIdentifier h).trim
    have hplaced : Run.execLine line (putsCode (placed name)) =
        Run.dispatch line (some .puts) >>= fun _ =>
          Run.trace .puts (putsCode (placed name)) >>= fun _ =>
            (Run.putsArgument line name : Run σ Unit) := by
      have htrim : (placed name).trim = placed name := Value.trim_text _
      rw [Run.execLine_putsCode_eq line htrim]
      simp only [Run.putsArgument, hrender]
    refine ⟨⟨Run.putsArgument line name, ?_⟩, fun s htrace => ?_⟩
    · simp only [List.forall_mem_cons]
      exact ⟨hbare, hplaced, nofun⟩
    · rw [hbare, hplaced, Run.dispatch_trace_apply line htrace, Run.dispatch_trace_apply line htrace]
  · have hbare : Output.render symbols name = .ok name := by
      rw [hb, Output.render_booleanText]
    rw [hbare, Output.render_placed symbols h]
    refine ⟨rfl, ?_⟩
    cases (symbols.resolve name).map Value.display <;> simp [Except.mapError, eq_comm]

/-- A name beyond ASCII that is bound to one that is not bound, and `true` bound to
a number. -/
theorem puts_bare_eq_placed_alias :
    let name : Text := ['é', '٣']
    let yes := Value.booleanText true
    let symbols := (SymbolTable.empty.bind name (.reference ['y'])).bind yes (.integer 1)
    let s := { Session.start ⟨false, true⟩ Buffer.unlimited with symbols }
    name.isIdentifier = true ∧ yes.isIdentifier = true ∧
      (Run.execLine 4 (putsCode name) s).result =
        .error (.fault 4 (.lookup (.unknownVariable ['y']))) ∧
      (Run.execLine 4 (putsCode (placed name)) s).result =
        .error (.fault 4 (.lookup (.unknownVariable ['y']))) ∧
      Output.render symbols yes = .ok yes ∧
      Output.render symbols yes ≠ Output.render symbols (placed yes) := by
  intro name yes symbols s
  have hname : name.isIdentifier = true := by decide +kernel
  have hyes : yes.isIdentifier = true := by decide +kernel
  have hother : ∀ b, name ≠ Value.booleanText b := by decide
  have hbare : (Run.execLine 4 (putsCode name) s).result =
      .error (.fault 4 (.lookup (.unknownVariable ['y']))) := by decide +kernel
  have hforms := (((puts_bare_eq_placed hname).1 hother).2 4).2 s rfl
  have htruth := (puts_bare_eq_placed (σ := Buffer) hyes).2 true rfl symbols
  refine ⟨hname, hyes, hbare, hforms ▸ hbare, htruth.1, fun heq => ?_⟩
  exact absurd (htruth.2.1 heq) (by decide +kernel)

/-- `true` writes itself, and a template with it in braces fails unless the word is
bound. -/
theorem puts_bare_ne_placed_true :
    let yes := Value.booleanText true
    yes.isIdentifier = true ∧ Output.render .empty yes = .ok yes ∧
      Output.render .empty (placed yes) = .error (.lookup (.unknownVariable yes)) := by
  decide +kernel

end Program

end LineScript
