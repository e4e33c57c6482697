/-
Literals under a name.

A literal can be written as it is, with `puts`, or be bound to a name first and
written through that name. The two ways share little: an argument of `puts` is a
template, is followed as a reference or stands for itself by its type, and a
bound value goes through the table and comes back as the end of a chain. Main
statement: they agree (`Program.puts_through_name`), if the literal has no braces
and no parentheses around it, and if nothing refers to the name already.

What a new name does to chains of aliases is said in two parts. No chain that
starts elsewhere comes by it (`Alias.chain_update`), and its own chain is that of
the name it refers to, one link longer (`SymbolTable.resolve_reference`). So
an endless chain stays endless; but the failure tells the name asked for, and
that is the one thing that differs (`LookupError.askedFor`).
-/
import LineScript.Proofs.Program.Reading
import LineScript.Proofs.Symbols.Chain
import LineScript.Proofs.Symbols.Snapshots

namespace LineScript

/-! ## Failures of a look-up that began elsewhere -/

/-- The error with another name as the one that was asked for. -/
def LookupError.askedFor (name : Text) : LookupError → LookupError
  | cyclicReference _ => cyclicReference name
  | unknownVariable other => unknownVariable other

/-- The fault with another name as the one that was asked for. -/
def Fault.askedFor (name : Text) : Fault → Fault
  | lookup cause => lookup (cause.askedFor name)
  | cause => cause

/-- The failure with another name as the one that was asked for. -/
def Failure.askedFor (name : Text) : Failure → Failure
  | fault line cause => fault line (cause.askedFor name)
  | failure => failure

/-! ## A new name and the chains of the others -/

namespace Alias

variable {get : Text → Option Value} {x start : Text}

theorem ne_of_chain (hfresh : ∀ name, get name ≠ some (.reference x)) (hne : start ≠ x) {k : Nat}
    {y : Text} (hy : chain get start k = some y) : y ≠ x := by
  rintro rfl
  cases k with
  | zero => exact hne (Option.some.inj hy)
  | succ k =>
    obtain ⟨name, -, href⟩ := reference_of_chain_succ hy
    exact hfresh name href

/-- A chain that starts elsewhere never comes by a name that nothing refers to,
whatever that name is bound to. -/
theorem chain_update (hfresh : ∀ name, get name ≠ some (.reference x)) (hne : start ≠ x)
    (v : Option Value) (k : Nat) :
    chain (Function.update get x v) start k = chain get start k := by
  induction k with
  | zero => rfl
  | succ k ih =>
    rw [chain, chain, ih]
    cases hy : chain get start k with
    | none => rfl
    | some y => simp only [Option.bind_some, Function.update_of_ne (ne_of_chain hfresh hne hy)]

theorem Resolves.update {r : Except LookupError Value} (h : Resolves get start r)
    (hfresh : ∀ name, get name ≠ some (.reference x)) (hne : start ≠ x) (v : Option Value) :
    Resolves (Function.update get x v) start r := by
  have hchain := chain_update hfresh hne v
  cases r with
  | ok w =>
    obtain ⟨k, y, hy, hw⟩ := h
    exact ⟨k, y, by rw [hchain, hy], by rwa [Function.update_of_ne (ne_of_chain hfresh hne hy)]⟩
  | error e =>
    cases e with
    | unknownVariable y =>
      obtain ⟨k, hy, hnone⟩ := h
      exact ⟨k, by rw [hchain, hy], by rwa [Function.update_of_ne (ne_of_chain hfresh hne hy)]⟩
    | cyclicReference y =>
      refine ⟨h.1, fun k => ?_⟩
      rw [hchain]
      exact h.2 k

/-- A name that refers to another one stands for what that one stands for. -/
theorem Resolves.of_reference {target : Text} {r : Except LookupError Value}
    (h : Resolves get target r) (hx : get x = some (.reference target)) :
    Resolves get x (r.mapError (LookupError.askedFor x)) := by
  have hchain (k : Nat) : chain get x (1 + k) = chain get target k := by
    have hfirst : chain get x 1 = some target := by
      rw [chain, chain, Option.bind_some, hx]
      rfl
    rw [chain_add, hfirst, Option.bind_some]
  cases r with
  | ok w =>
    obtain ⟨k, y, hy, hw⟩ := h
    exact ⟨1 + k, y, by rw [hchain, hy], hw⟩
  | error e =>
    cases e with
    | unknownVariable y =>
      obtain ⟨k, hy, hnone⟩ := h
      exact ⟨1 + k, by rw [hchain, hy], hnone⟩
    | cyclicReference y =>
      refine ⟨rfl, fun k => chain_isSome_of_le (k := 1 + k) ?_ (Nat.le_add_left k 1)⟩
      rw [hchain]
      exact h.2 k

end Alias

namespace SymbolTable

variable {t : SymbolTable} {x name : Text}

theorem resolve_bind_of_ne (hfresh : ∀ name, t.get? name ≠ some (.reference x)) (hne : name ≠ x)
    (v : Value) : (t.bind x v).resolve name = t.resolve name := by
  rw [resolve_eq_iff, get?_bind]
  exact (resolve_eq_iff.1 rfl).update hfresh hne _

theorem resolve_reference {target : Text} (hx : t.get? x = some (.reference target)) :
    t.resolve x = (t.resolve target).mapError (LookupError.askedFor x) :=
  resolve_eq_iff.2 ((resolve_eq_iff.1 rfl).of_reference hx)

/-- What a new name is written as is what the value that it was bound to is
written as. -/
theorem resolve_bind_self (hfresh : ∀ name, t.get? name ≠ some (.reference x)) {v : Value}
    (hself : v ≠ .reference x) :
    ((t.bind x v).resolve x).map Value.display =
      (Output.showValue t v).mapError (LookupError.askedFor x) := by
  have hx : (t.bind x v).get? x = some v := by rw [get?_bind, Function.update_self]
  cases htarget : v.target? with
  | none =>
    rw [resolve_value hx htarget]
    cases v <;> first | rfl | cases htarget
  | some target =>
    obtain rfl : v = .reference target := by
      cases v <;> simp_all [Value.target?]
    have hne : target ≠ x := fun heq => hself (congrArg Value.reference heq)
    rw [resolve_reference hx, resolve_bind_of_ne hfresh hne, Output.showValue]
    cases t.resolve target <;> rfl

end SymbolTable

/-! ## Literals as arguments -/

theorem ValueType.isTextForm_of_type {t : Text} (h : ofLiteral t = .text) :
    t.trim.isTextForm = true := by
  simp only [ofLiteral] at h
  split_ifs at h
  assumption

theorem Value.reference_of_ofLiteral {t raw : Text} (h : ofLiteral t = .ok (.reference raw)) :
    raw = t.trim := by
  have htype : ValueType.ofLiteral t = .reference := (type_of_ofLiteralAs h).symm
  rw [ofLiteral, htype] at h
  exact (reference.inj (Except.ok.inj h)).symm

/-- What is read as a text is one in quotes. -/
theorem Value.exists_text_of_type {t : Text} (htrim : t.trim = t)
    (htype : ValueType.ofLiteral t = .text) : ∃ inner, t = (text inner).toLiteral := by
  have hform := ValueType.isTextForm_of_type htype
  simp only [htrim, Text.isTextForm, Bool.and_eq_true, decide_eq_true_eq] at hform
  obtain ⟨⟨hlen, hfirst⟩, hlast⟩ := hform
  obtain ⟨front, rfl⟩ := List.getLast?_eq_some_iff.1 hlast
  cases front with
  | nil => simp at hlen
  | cons c inner =>
    obtain rfl : c = '"' := by simpa using hfirst
    exact ⟨inner, rfl⟩

/-- A template without braces is its own text. -/
theorem Template.fill_of_plain (symbols : SymbolTable) {t : Text} (hopen : '{' ∉ t)
    (hclose : '}' ∉ t) : fill symbols t = .ok t := by
  have hquote : t.flatMap Segment.quoteChar = t := by
    induction t with
    | nil => rfl
    | cons c t ih =>
      simp only [List.mem_cons, not_or] at hopen hclose
      have hc : Segment.quoteChar c = [c] :=
        if_neg (not_or.2 ⟨Ne.symm hopen.1, Ne.symm hclose.1⟩)
      rw [List.flatMap_cons, ih hopen.2 hclose.2, hc]
      rfl
  have hpieces : pieces t = t.map .literal := by
    have h := pieces_quoteText t []
    rw [hquote, List.append_nil, pieces.eq_1, List.append_nil] at h
    exact h
  rw [fill, hpieces, fillPieces_literals]

/-- A text that is a literal wherever it stands: it has no braces, and nothing is
taken off at its ends, neither white space nor parentheses. -/
structure Output.BareLiteral (t : Text) : Prop where
  ne_nil : t ≠ []
  trim : t.trim = t
  noOpening : '{' ∉ t
  noClosing : '}' ∉ t
  strip : stripParens t = t

namespace Output.BareLiteral

variable {symbols : SymbolTable} {t : Text}

/-- As an argument it is written as its value is. -/
theorem render (ht : BareLiteral t) (symbols : SymbolTable) :
    Output.render symbols t =
      match Value.ofLiteral t with
      | .error cause => .error (.invalidLiteral t cause)
      | .ok v => (showValue symbols v).mapError .lookup := by
  obtain ⟨hne, htrim, hopen, hclose, hstrip⟩ := ht
  by_cases htype : ValueType.ofLiteral t = .text
  · obtain ⟨inner, rfl⟩ := Value.exists_text_of_type htrim htype
    have hinner : inner ⊆ (Value.text inner).toLiteral := fun c hc => by
      simp [Value.toLiteral, hc]
    rw [render_text, Value.ofLiteral_text,
      Template.fill_of_plain symbols (fun h => hopen (hinner h)) fun h => hclose (hinner h)]
    rfl
  · rw [Output.render, htrim, hstrip, renderBare, Value.ofLiteral]
    · cases htype' : ValueType.ofLiteral t <;> first | exact absurd htype' htype | rfl
    · exact hne

theorem eq_of_reference (ht : BareLiteral t) {raw : Text}
    (h : Value.ofLiteral t = .ok (.reference raw)) : raw = t :=
  (Value.reference_of_ofLiteral h).trans ht.trim

/-- An endless chain of aliases is told under the literal that it starts with. -/
theorem eq_of_cyclic (ht : BareLiteral t) {y : Text}
    (h : Output.render symbols t = .error (.lookup (.cyclicReference y))) : y = t := by
  rw [ht.render] at h
  cases hvalue : Value.ofLiteral t with
  | error cause =>
    rw [hvalue] at h
    cases h
  | ok v =>
    rw [hvalue] at h
    cases v with
    | reference raw =>
      have hcyclic : symbols.resolve raw = .error (.cyclicReference y) := by
        simp only [showValue] at h
        cases hresolve : symbols.resolve raw <;> simp_all [Except.map, Except.mapError]
      rw [← ht.eq_of_reference hvalue]
      exact (SymbolTable.resolve_eq_iff.1 hcyclic).1
    | _ => cases h

/-- A name that was bound to it is written as it is written itself. -/
theorem render_bind (ht : BareLiteral t) (x : Name) (hself : t ≠ x.text)
    (hfresh : ∀ name, symbols.get? name ≠ some (.reference x.text)) {v : Value}
    (hvalue : Value.ofLiteral t = .ok v) :
    Output.render (symbols.bind x.text v) x.text =
      (Output.render symbols t).mapError (Fault.askedFor x.text) := by
  have hv : v ≠ .reference x.text := by
    rintro rfl
    exact hself (ht.eq_of_reference hvalue).symm
  rw [Program.render_name, SymbolTable.resolve_bind_self hfresh hv, ht.render, hvalue]
  show _ = ((showValue symbols v).mapError Fault.lookup).mapError (Fault.askedFor x.text)
  cases showValue symbols v <;> rfl

end Output.BareLiteral

/-! ## The two ways of writing a literal -/

namespace Run

open Program

variable {σ : Type} [Sink σ] {s : Session σ} (line : Nat) {t : Text}

/-- Writes a text and the end of the line, unless there is a fault. -/
def putsRendered (line : Nat) (rendered : Except Fault Text) : Run σ Unit :=
  ofFault line rendered >>= fun t => write (t ++ ['\n'])

/-- A fault is told under another name, and a text is the same text for the
sink. -/
theorem putsRendered_askedFor (name : Text) (rendered : Except Fault Text) {s' : Session σ}
    (hsink : s'.sink = s.sink) :
    (putsRendered line (rendered.mapError (Fault.askedFor name)) s').session.sink =
        (putsRendered line rendered s).session.sink ∧
      (putsRendered line (rendered.mapError (Fault.askedFor name)) s').result =
        (putsRendered line rendered s).result.mapError (Failure.askedFor name) := by
  cases rendered with
  | error cause => exact ⟨hsink, rfl⟩
  | ok t =>
    show (write (t ++ ['\n']) s').session.sink = (write (t ++ ['\n']) s).session.sink ∧
      (write (t ++ ['\n']) s').result =
        (write (t ++ ['\n']) s).result.mapError (Failure.askedFor name)
    rw [write, write, hsink]
    rcases Sink.write s.sink (t ++ ['\n']) with ⟨_ | reason, sink⟩ <;> exact ⟨rfl, rfl⟩

theorem fault_of_putsRendered {rendered : Except Fault Text} {failure : Failure}
    (hsink : Sink.Reliable s.sink) (h : (putsRendered line rendered s).result = .error failure) :
    ∃ cause, rendered = .error cause ∧ failure = .fault line cause := by
  cases rendered with
  | error cause => exact ⟨cause, rfl, (Except.error.inj h).symm⟩
  | ok t =>
    have hwrite : putsRendered line (.ok t) s = write (t ++ ['\n']) s := rfl
    rw [hwrite, write_apply hsink] at h
    cases h

theorem execLine_putsCode_apply (htrace : s.options.trace = false) (htrim : t.trim = t) :
    let o := putsRendered line (Output.render s.symbols t) s
    (execLine line (putsCode t) s).result = o.result ∧
      (execLine line (putsCode t) s).session = o.session := by
  have h := execLine_puts_sameEffect line (ofLine?_putsCode t) s htrace
  rwa [argument_putsCode, htrim, session_bind_apply] at h

theorem execLine_bindingCode_invalid (mutable : Bool) (x : Name) (ht : Output.BareLiteral t)
    {cause : LiteralError} (hvalue : Value.ofLiteral t = .error cause) :
    SameEffect (execLine line (bindingCode mutable x.text t) : Run σ Unit)
      (fail (.fault line (.invalidLiteral t cause))) := by
  have hread : readBinding (bindingCode mutable x.text t) = .error (.invalidLiteral t cause) := by
    rw [readBinding, ofLine?_bindingCode mutable x.identifier t x.ne_mutKeyword ht.trim ht.ne_nil]
    simp only [hvalue]
  have h := execLine_read_sameEffect (σ := σ) line (construct_bindingCode mutable x.text t)
  rw [hread] at h
  exact h

/-- To write a literal through a name comes to writing it at once, from a session
with the same sink. -/
theorem exists_putsRendered (htrace : s.options.trace = false) (x : Name)
    (ht : Output.BareLiteral t) (hself : t ≠ x.text)
    (hfresh : ∀ name, s.symbols.get? name ≠ some (.reference x.text)) (mutable : Bool) :
    let named := (execLine line (bindingCode mutable x.text t) >>= fun _ =>
      execLine line (putsCode x.text)) s
    ∃ s' : Session σ, s'.sink = s.sink ∧
      let o := putsRendered line
        ((Output.render s.symbols t).mapError (Fault.askedFor x.text)) s'
      named.result = o.result ∧ named.session = o.session := by
  intro named
  have hoptions := keepsOptions.atoms.steps.execLine (σ := σ) line (bindingCode mutable x.text t)
  cases hvalue : Value.ofLiteral t with
  | error cause =>
    have hbind := execLine_bindingCode_invalid (σ := σ) line mutable x ht hvalue
    rw [ht.render, hvalue]
    exact ⟨s, rfl, SameEffect.bind hoptions hbind (fun _ => .refl _) s htrace⟩
  | ok v =>
    have hbind := execLine_bindingCode (σ := σ) line mutable x.identifier x.ne_mutKeyword ht.trim
      ht.ne_nil hvalue
    obtain ⟨hresult, hsession⟩ := SameEffect.bind hoptions hbind
      (fun _ => .refl (execLine line (putsCode x.text))) s htrace
    rw [modify_bind_apply] at hresult hsession
    have hputs := execLine_putsCode_apply (σ := σ)
      (s := { s with symbols := s.symbols.bind x.text v }) line htrace x.isWord.trim
    rw [ht.render_bind x hself hfresh hvalue] at hputs
    exact ⟨{ s with symbols := s.symbols.bind x.text v }, rfl, hresult.trans hputs.1,
      hsession.trans hputs.2⟩

end Run

namespace Program

/-- **A literal is written alike by itself and under a name.** Without traces,
take a literal that has no braces and nothing to take off at its ends, and another
name that no visible binding refers to. To bind the name to the literal and write
the name, and to write the literal at once, gives the sink the same texts and has
the same result; only an endless chain of aliases is told under the name and not
under the literal. Unless it is for the sink, both fail on their line. -/
theorem puts_through_name {σ : Type} [Sink σ] {s : Session σ} (htrace : s.options.trace = false)
    (x : Name) {t : Text} (ht : Output.BareLiteral t) (hself : t ≠ x.text)
    (hfresh : ∀ name, s.symbols.get? name ≠ some (.reference x.text)) (line : Nat)
    (mutable : Bool) :
    let direct := Run.execLine line (putsCode t) s
    let named := (Run.execLine line (bindingCode mutable x.text t) >>= fun _ =>
      Run.execLine line (putsCode x.text)) s
    named.session.sink = direct.session.sink ∧
      named.result = direct.result.mapError (Failure.askedFor x.text) ∧
      (Sink.Reliable s.sink → ∀ failure, direct.result = .error failure →
        ∃ cause, failure = .fault line cause ∧
          ∀ y, cause = .lookup (.cyclicReference y) → y = t) := by
  intro direct named
  obtain ⟨hresult, hsession⟩ := Run.execLine_putsCode_apply line htrace ht.trim
  obtain ⟨s', hsink, hnamed⟩ := Run.exists_putsRendered line htrace x ht hself hfresh mutable
  have hagree := Run.putsRendered_askedFor line x.text (Output.render s.symbols t) hsink
  refine ⟨?_, ?_, fun hreliable failure hfailure => ?_⟩
  · calc named.session.sink
      _ = _ := congrArg Session.sink hnamed.2
      _ = _ := hagree.1
      _ = direct.session.sink := congrArg Session.sink hsession.symm
  · calc named.result
      _ = _ := hnamed.1
      _ = _ := hagree.2
      _ = direct.result.mapError (Failure.askedFor x.text) := by rw [← hresult]
  · obtain ⟨cause, hcause, rfl⟩ :=
      Run.fault_of_putsRendered line hreliable (hresult.symm.trans hfailure)
    refine ⟨cause, rfl, fun y hy => ?_⟩
    rw [hy] at hcause
    exact ht.eq_of_cyclic hcause

/-- A name that is bound to itself, written by itself and under a second name. -/
theorem puts_through_name_cyclic :
    let x : Name := ⟨['x'], Text.isIdentifier_letter (by decide), by decide⟩
    let y : Text := ['y']
    let symbols := SymbolTable.empty.bind y (.reference y)
    let s := { Session.start ⟨false, true⟩ Buffer.unlimited with symbols }
    let direct := Run.execLine 4 (putsCode y) s
    let named := (Run.execLine 4 (bindingCode false x.text y) >>= fun _ =>
      Run.execLine 4 (putsCode x.text)) s
    direct.result = .error (.fault 4 (.lookup (.cyclicReference y))) ∧
      named.result = .error (.fault 4 (.lookup (.cyclicReference x.text))) ∧
      named.session.sink = direct.session.sink := by
  intro x y symbols s direct named
  have hy : Output.BareLiteral y :=
    ⟨by decide, by decide, by decide, by decide, by decide⟩
  have hfresh : ∀ name, s.symbols.get? name ≠ some (.reference x.text) := by
    intro name
    show symbols.get? name ≠ _
    rw [SymbolTable.get?_bind]
    by_cases hname : name = y
    · rw [hname, Function.update_self]
      decide
    · rw [Function.update_of_ne hname]
      exact nofun
  have hself : y ≠ x.text := by decide
  have hdirect : direct.result = .error (.fault 4 (.lookup (.cyclicReference y))) := by
    decide +kernel
  obtain ⟨hsink, hresult, -⟩ := puts_through_name (s := s) rfl x hy hself hfresh 4 false
  refine ⟨hdirect, ?_, hsink⟩
  rw [hresult, hdirect]
  rfl

end Program

end LineScript
