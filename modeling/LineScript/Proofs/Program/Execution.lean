/-
Executing the source text of a program is walking the program
(`execute_source`).

A session stands for the environment that its frames and its global bindings
make (`SymbolTable.env`). What is kept from line to line is that the records of
the open blocks agree and that the sink cannot fail; with that, each walk is
matched by a run over the lines of the program (`Run.execLines_of_walks`). A
run that comes to its end leaves as many blocks open as it found, which is why
the brace at the end of a block closes the frame that was opened for it.
-/
import LineScript.Proofs.Program.Reading
import LineScript.Proofs.Program.Walk
import LineScript.Proofs.Session.Ready

namespace LineScript

/-! ## Environments of sessions -/

theorem Scope.get?_insert (s : Scope) (name : Text) (v : Value) :
    (s.insert name v).get? = Function.update s.get? name (some v) := by
  funext other
  by_cases h : other = name
  · subst h
    rw [get?_insert_self, Function.update_self]
  · rw [get?_insert_other s v h, Function.update_of_ne h]

namespace SymbolTable

/-- The environment that a table makes. -/
def env (t : SymbolTable) : Env :=
  t.frames.map (fun frame => frame.scope.get?) ++ [t.globals.get?]

theorem get?_env (t : SymbolTable) : t.env.get? = t.get? := by
  funext name
  rw [Env.get?, env, get?, List.findSome?_append, List.findSome?_map]
  simp [Function.comp_def]

theorem env_bind (t : SymbolTable) (name : Text) (v : Value) :
    (t.bind name v).env = t.env.bind name v := by
  rw [bind]
  split
  next hnil => simp [env, hnil, Env.bind, Scope.get?_insert]
  next frame outer hcons => simp [env, hcons, Env.bind, Scope.get?_insert]

theorem env_openFrame (t : SymbolTable) (kind : BlockKind) :
    (t.openFrame kind).env = Env.blank :: t.env :=
  rfl

theorem env_closed {t : SymbolTable} {frame : Frame} {frames : List Frame}
    (h : t.frames = frame :: frames) : SymbolTable.env { t with frames } = t.env.tail := by
  rw [env, env, h]
  rfl

end SymbolTable

variable {σ : Type} [Sink σ]

/-- The result of a run that was stopped there, or not at all. -/
def stopResult : Option (Nat × LookupError) → Except Failure Unit
  | none => .ok ()
  | some (line, cause) => .error (.fault line (.lookup cause))

/-- An outcome is what a walk says: the texts that it writes, the environment
after it, and what stops it. -/
structure Outcome.Walked (o : Outcome σ Unit) (s : Session σ) (out : List Text) (env : Env)
    (stop : Option (Nat × LookupError)) : Prop where
  result : o.result = stopResult stop
  env : o.session.symbols.env = env
  sink : o.session.sink = Sink.taken s.sink out
  blocks : stop = none → o.session.blocks = s.blocks

namespace Outcome.Walked

variable {x y : Run σ Unit} {f : Unit → Run σ Unit} {s : Session σ} {out out' : List Text}
  {env env' : Env} {stop : Option (Nat × LookupError)}

theorem of_sameEffect (heffect : Run.SameEffect x y) (htrace : s.options.trace = false)
    (h : (y s).Walked s out env stop) : (x s).Walked s out env stop := by
  obtain ⟨hresult, hsession⟩ := heffect s htrace
  exact ⟨by rw [hresult, h.result], by rw [hsession, h.env], by rw [hsession, h.sink],
    by rw [hsession]; exact h.blocks⟩

theorem bind (h : (x s).Walked s out env none)
    (hnext : (f () (x s).session).Walked (x s).session out' env' stop) :
    ((x >>= f) s).Walked s (out ++ out') env' stop := by
  have hok : (x s).result = .ok () := h.result
  rw [Run.bind_apply_ok hok]
  refine ⟨hnext.result, hnext.env, ?_, fun hstop => ?_⟩
  · rw [Sink.taken_append, ← h.sink]
    exact hnext.sink
  · exact (hnext.blocks hstop).trans (h.blocks rfl)

theorem bind_stopped {stop : Nat × LookupError} (h : (x s).Walked s out env (some stop)) :
    ((x >>= f) s).Walked s out env (some stop) := by
  obtain ⟨line, cause⟩ := stop
  rw [Run.bind_apply_error h.result]
  exact ⟨rfl, h.env, h.sink, nofun⟩

end Outcome.Walked

namespace Run

variable {s : Session σ}

/-! ## Bindings and `puts` lines -/

theorem walked_binding (name : Text) (value : Value) :
    ((modify fun s => { s with symbols := s.symbols.bind name value } : Run σ Unit) s).Walked s []
      (s.symbols.env.bind name value) none :=
  ⟨rfl, s.symbols.env_bind name value, rfl, fun _ => rfl⟩

theorem walked_puts (line : Nat) (hsink : Sink.Reliable s.sink) {name : Text} {value : Value}
    (h : Alias.Resolves s.symbols.env.get? name (.ok value)) :
    ((session >>= fun s =>
      ofFault line (((s.symbols.resolve name).map Value.display).mapError .lookup) >>=
        fun rendered => write (rendered ++ ['\n']) : Run σ Unit) s).Walked s
      [value.display ++ ['\n']] s.symbols.env none := by
  rw [SymbolTable.get?_env] at h
  have hwrite := write_apply hsink (value.display ++ ['\n'])
  rw [session_bind_apply, SymbolTable.resolve_eq_iff.2 h]
  show (write (value.display ++ ['\n']) s).Walked s _ _ _
  rw [hwrite]
  exact ⟨rfl, rfl, rfl, fun _ => rfl⟩

theorem walked_puts_unresolved (line : Nat) {name : Text} {cause : LookupError}
    (h : Alias.Resolves s.symbols.env.get? name (.error cause)) :
    ((session >>= fun s =>
      ofFault line (((s.symbols.resolve name).map Value.display).mapError .lookup) >>=
        fun rendered => write (rendered ++ ['\n']) : Run σ Unit) s).Walked s []
      s.symbols.env (some (line, cause)) := by
  rw [SymbolTable.get?_env] at h
  rw [session_bind_apply, SymbolTable.resolve_eq_iff.2 h]
  exact ⟨rfl, rfl, rfl, nofun⟩

/-! ## Blocks -/

variable {x : Run σ Unit} {out : List Text} {inner : Env} {line : Nat} {kind : BlockKind}

/-- A body that was walked in a block of its own, and the end of that block. -/
theorem walked_block (closeLine : Nat) (hs : s.Consistent) (hlaw : x.Obeys Records.law)
    (h : (x (openInnermost line kind s).session).Walked (openInnermost line kind s).session out
      inner none) :
    ((openInnermost line kind >>= fun _ => x >>= fun _ => closeInnermost closeLine) s).Walked s out
      inner.tail none := by
  have hopened := (Records.openInnermost_law line kind s hs).1
  have hconsistent := (hlaw _ hopened).1
  have hblocks := h.blocks rfl
  obtain ⟨frame, frames, hframes, hid, -⟩ := hconsistent.innermost hblocks
  have hclose := Records.closeInnermost_apply closeLine hblocks hframes hid
  have hopen : (openInnermost line kind s).result = .ok () := rfl
  have hbody : (x (openInnermost line kind s).session).result = .ok () := h.result
  rw [bind_apply_ok hopen, bind_apply_ok hbody, hclose]
  refine ⟨rfl, ?_, h.sink, fun _ => rfl⟩
  rw [← h.env]
  exact SymbolTable.env_closed hframes

theorem walked_block_stopped (closeLine : Nat) {stop : Nat × LookupError}
    (h : (x (openInnermost line kind s).session).Walked (openInnermost line kind s).session out
      inner (some stop)) :
    ((openInnermost line kind >>= fun _ => x >>= fun _ => closeInnermost closeLine) s).Walked s out
      inner (some stop) := by
  have hopen : (openInnermost line kind s).result = .ok () := rfl
  have hbody := h.bind_stopped (f := fun _ => closeInnermost closeLine)
  rw [bind_apply_ok hopen]
  exact ⟨hbody.result, hbody.env, hbody.sink, nofun⟩

/-- The lines of a block come to the opening of a frame, the lines in between
and the closing of a frame. -/
theorem execLines_block_sameEffect (line indent closeIndent : Nat) (kind : BlockKind)
    (condition : Condition) (brace : BracePlace) (body : Program) :
    SameEffect
      (execLines (PrintedLine.number line (Program.openingLines indent kind condition brace ++
        body.printed ++ [⟨closeIndent, ['}']⟩])) : Run σ Unit)
      (openInnermost line kind >>= fun _ =>
        execLines (PrintedLine.number (line + brace.height) body.printed) >>= fun _ =>
          closeInnermost (line + brace.height + body.height)) := by
  rw [List.append_assoc, PrintedLine.number_append, PrintedLine.number_append,
    Program.length_openingLines, Program.length_printed, execLines_append, execLines_append]
  refine .bind (keepsOptions.atoms.steps.execLines _) (execLines_openingLines _ _ _ _ _)
    fun _ => ?_
  refine .bind (keepsOptions.atoms.steps.execLines _) (.refl _) fun _ => ?_
  rw [PrintedLine.number, PrintedLine.number, execLines_singleton]
  exact execLine_closingBrace (line + brace.height + body.height) closeIndent

end Run

/-- The lines of a block, and those behind it. -/
theorem Program.number_block (line indent closeIndent : Nat) (kind : BlockKind)
    (condition : Condition) (brace : BracePlace) (body rest : Program) :
    PrintedLine.number line
        (block indent kind condition brace body closeIndent rest).printed =
      PrintedLine.number line (openingLines indent kind condition brace ++ body.printed ++
        [⟨closeIndent, ['}']⟩]) ++
        PrintedLine.number (line + brace.height + body.height + 1) rest.printed := by
  have hlines : (block indent kind condition brace body closeIndent rest).printed =
      openingLines indent kind condition brace ++ body.printed ++ [⟨closeIndent, ['}']⟩] ++
        rest.printed := by
    simp [printed]
  rw [hlines, PrintedLine.number_append]
  simp only [List.length_append, length_openingLines, length_printed, List.length_singleton,
    Nat.add_assoc]

/-! ## Whole programs -/

namespace Session.Ready

variable {s : Session σ}

theorem execLines (h : s.Ready) {lines : List Line} {out : List Text} {env : Env}
    {stop : Option (Nat × LookupError)} (hwalked : (Run.execLines lines s).Walked s out env stop) :
    (Run.execLines lines s).session.Ready where
  consistent := (Records.atoms.steps.execLines lines s h.consistent).1
  quiet := by rw [keepsOptions.atoms.steps.execLines lines s, h.quiet]
  reliable := by
    rw [hwalked.sink]
    exact h.reliable.taken out

end Session.Ready

/-- Lines that were walked to their end, and the lines behind them. -/
theorem Run.walked_append {lines : List Line} (rest : List Line) {s : Session σ}
    {out out' : List Text} {env env' : Env} {stop : Option (Nat × LookupError)} (hs : s.Ready)
    (h : (execLines lines s).Walked s out env none)
    (hrest : ∀ {s' : Session σ}, s'.Ready → s'.symbols.env = env →
      (execLines rest s').Walked s' out' env' stop) :
    (execLines (lines ++ rest) s).Walked s (out ++ out') env' stop := by
  rw [execLines_append]
  exact h.bind (hrest (hs.execLines h) h.env)

/-- Each walk is matched by a run over the lines of the program. The induction
is on the walk, for every session that stands for its environment: the body of
a block is run with a frame more than the block itself. -/
theorem Run.execLines_of_walks {line : Nat} {env env' : Env} {p : Program} {out : List Text}
    {stop : Option (Nat × LookupError)} (h : Walks line env p out env' stop) {s : Session σ}
    (hs : s.Ready) (henv : s.symbols.env = env) :
    (execLines (PrintedLine.number line p.printed) s).Walked s out env' stop := by
  induction h generalizing s with
  | done => exact ⟨rfl, henv, rfl, fun _ => rfl⟩
  | @binding line env indent mutable name literal rest out env' stop _ ih =>
    subst henv
    have hline := (walked_binding (s := s) name.text literal.value).of_sameEffect
      (execLine_binding line indent mutable name literal) hs.quiet
    rw [← execLines_singleton ⟨line, _⟩] at hline
    exact walked_append _ hs hline ih
  | @puts line env indent name rest value out env' stop hvalue _ ih =>
    subst henv
    have hline := (walked_puts line hs.reliable hvalue).of_sameEffect
      (execLine_putsCode line indent name) hs.quiet
    rw [← execLines_singleton ⟨line, _⟩] at hline
    exact walked_append _ hs hline ih
  | @putsUnresolved line env indent name rest cause hcause =>
    subst henv
    have hline := (walked_puts_unresolved line hcause).of_sameEffect
      (execLine_putsCode line indent name) hs.quiet
    exact hline.bind_stopped
  | @block line env indent kind condition brace body closeIndent rest out inner out' env' stop _ _
      ihbody ihrest =>
    subst henv
    have hbody := ihbody (hs.openInnermost line kind) (s.symbols.env_openFrame kind)
    have hblock := (walked_block (line + brace.height + body.height) hs.consistent
      (Records.atoms.steps.execLines _) hbody).of_sameEffect
      (execLines_block_sameEffect line indent closeIndent kind condition brace body) hs.quiet
    rw [Program.number_block]
    exact walked_append _ hs hblock ihrest
  | @blockStopped line env indent kind condition brace body closeIndent rest out env' stop _ ih =>
    subst henv
    have hbody := ih (hs.openInnermost line kind) (s.symbols.env_openFrame kind)
    have hblock := (walked_block_stopped (line + brace.height + body.height)
      hbody).of_sameEffect
      (execLines_block_sameEffect line indent closeIndent kind condition brace body) hs.quiet
    rw [Program.number_block, execLines_append]
    exact hblock.bind_stopped

/-- **Executing a source text is walking its program.** On a sink that cannot
fail, strict or not, the run has the result, the output and the bindings of the
walk, of which there is always one. Where nothing stops the walk, the run ends
with no block open and flushes the sink; else it fails on the line and for the
reason that stopped the walk. -/
theorem execute_source (p : Program) (endOfLine strict : Bool) {sink : σ}
    (hsink : Sink.Reliable sink) :
    (∃ out env stop, Walks 1 .start p out env stop) ∧
    ∀ out env stop, Walks 1 .start p out env stop →
      let o := execute (p.source endOfLine) ⟨false, strict⟩ sink
      o.session.symbols.env = env ∧
      match stop with
      | none =>
        o.result = .ok () ∧ o.session.sink = (Sink.flush (Sink.taken sink out)).2 ∧ o.session.Closed
      | some (line, cause) =>
        o.result = .error (.fault line (.lookup cause)) ∧ o.session.sink = Sink.taken sink out := by
  refine ⟨p.exists_walk 1 .start, fun out env stop h => ?_⟩
  have hready := Session.Ready.start strict hsink
  have hwalked := Run.execLines_of_walks h hready rfl
  rw [execute_of_lines (p.lines_source endOfLine)]
  cases stop with
  | some stop =>
    have hrun := hwalked.bind_stopped (f := fun _ => Run.finish)
    exact ⟨hrun.env, hrun.result, hrun.sink⟩
  | none =>
    have hend := Run.runLines_apply (hready.execLines hwalked).reliable hwalked.result
      (hwalked.blocks rfl)
    have hconsistent := (hready.execLines hwalked).consistent
    rw [hend]
    refine ⟨hwalked.env, rfl, by rw [hwalked.sink]; rfl, ?_⟩
    exact Session.Consistent.closed ⟨hconsistent.frames, hconsistent.counts, hconsistent.sorted⟩
      (hwalked.blocks rfl)

/-- The text `a#b` is written inside a block, through an alias that is not
there any more behind the block. -/
theorem execute_source_alias_in_block :
    let x : Name := ⟨['x'], Text.isIdentifier_letter (by decide), by decide⟩
    let y : Name := ⟨['y'], Text.isIdentifier_letter (by decide), by decide⟩
    let body := Program.binding 2 true y ⟨.reference ['x'], x, rfl⟩ (.puts 2 y .done)
    let block := Program.block 1 .ifBlock ⟨['c', '\r'], by simp⟩ (.nextLine 0) body 0
      (.puts 0 y .done)
    let p := Program.binding 0 false x ⟨.text ['a', '#', 'b'], show '\n' ∉ _ by decide⟩ block
    Sink.Reliable Buffer.unlimited ∧
      (execute (p.source false) ⟨false, true⟩ Buffer.unlimited).result =
        .error (.fault 7 (.lookup (.unknownVariable ['y']))) ∧
      (execute (p.source false) ⟨false, true⟩ Buffer.unlimited).session.sink =
        Sink.taken Buffer.unlimited [['a', '#', 'b', '\n']] := by
  intro x y body block p
  have hsink := Buffer.reliable_unlimited
  let outer := Env.start.bind x.text (.text ['a', '#', 'b'])
  let inner := Env.bind (Env.blank :: outer) y.text (.reference ['x'])
  have halias : Alias.Resolves inner.get? y.text (.ok (.text ['a', '#', 'b'])) :=
    ⟨1, ['x'], rfl, rfl, rfl⟩
  have hgone : Alias.Resolves outer.get? y.text (.error (.unknownVariable ['y'])) :=
    ⟨0, rfl, rfl⟩
  have hbody : Walks 4 (Env.blank :: outer) body [['a', '#', 'b', '\n']] inner none :=
    .binding (.puts halias .done)
  have hrest : Walks 7 inner.tail (.puts 0 y .done) [] outer (some (7, .unknownVariable ['y'])) :=
    .putsUnresolved hgone
  have hblock : Walks 2 outer block ([['a', '#', 'b', '\n']] ++ []) outer
      (some (7, .unknownVariable ['y'])) :=
    .block hbody hrest
  have hwalk : Walks 1 .start p [['a', '#', 'b', '\n']] outer (some (7, .unknownVariable ['y'])) :=
    .binding hblock
  exact ⟨hsink, ((execute_source p false true hsink).2 _ _ _ hwalk).2⟩

end LineScript
