/-
Sessions that are ready for the next line: the records of the open blocks agree,
no traces are asked for, and the sink does not fail (`Session.Ready`). Opening a
block, closing one and binding a name leave a session ready, so that this can be
taken along a run; and a run over lines that leave a ready session ends in one
of two ways, by whether a block is still open.
-/
import LineScript.Proofs.Session.Records
import LineScript.Proofs.Session.Reliable

namespace LineScript

variable {σ : Type} [Sink σ]

/-- What is kept from line to line: the records agree, no traces are asked for,
and the sink does not fail. -/
structure Session.Ready (s : Session σ) : Prop where
  consistent : s.Consistent
  quiet : s.options.trace = false
  reliable : Sink.Reliable s.sink

namespace Session.Ready

variable {s : Session σ}

theorem start (strict : Bool) {sink : σ} (h : Sink.Reliable sink) :
    (Session.start ⟨false, strict⟩ sink).Ready :=
  ⟨.start _ _, rfl, h⟩

theorem openInnermost (h : s.Ready) (line : Nat) (kind : BlockKind) :
    (Run.openInnermost line kind s).session.Ready :=
  ⟨(Records.openInnermost_law line kind s h.consistent).1, h.quiet, h.reliable⟩

theorem bindName (h : s.Ready) (name : Text) (value : Value) :
    Session.Ready { s with symbols := s.symbols.bind name value } :=
  ⟨(Records.bindName_law name value s h.consistent).1, h.quiet, h.reliable⟩

/-- Where a block is open, closing it succeeds. -/
theorem closeInnermost (h : s.Ready) (line : Nat) {block : OpenBlock} {outer : List OpenBlock}
    (hb : s.blocks = block :: outer) :
    (Run.closeInnermost line s).result = .ok () ∧
      (Run.closeInnermost line s).session.Ready ∧
      (Run.closeInnermost line s).session.blocks = outer ∧
      (Run.closeInnermost line s).session.symbols.opened = s.symbols.opened := by
  have hconsistent := (Records.closeInnermost_law line s h.consistent).1
  obtain ⟨frame, frames, hframes, hid, -⟩ := h.consistent.innermost hb
  rw [Records.closeInnermost_apply line hb hframes hid] at hconsistent ⊢
  exact ⟨rfl, ⟨hconsistent, h.quiet, h.reliable⟩, rfl, rfl⟩

end Session.Ready

namespace Run

variable {lines : List Line} {s : Session σ}

/-- A run over some lines that leaves no block open. -/
theorem runLines_apply (hsink : Sink.Reliable (execLines lines s).session.sink)
    (hok : (execLines lines s).result = .ok ())
    (hblocks : (execLines lines s).session.blocks = []) :
    runLines lines s =
      ⟨.ok (), { (execLines lines s).session with
        sink := (Sink.flush (execLines lines s).session.sink).2 },
        (execLines lines s).events⟩ := by
  have hfinish : finish (execLines lines s).session = flush (execLines lines s).session := by
    rw [finish, session_bind_apply, hblocks]
  rw [runLines, bind_apply_ok hok, hfinish, flush_apply hsink]
  simp

/-- A run over some lines that leaves a block open. -/
theorem runLines_unclosed {block : OpenBlock} {outer : List OpenBlock}
    (hok : (execLines lines s).result = .ok ())
    (hblocks : (execLines lines s).session.blocks = block :: outer) :
    (runLines lines s).result = .error (.fault block.line (.scope (.unclosed block.frame))) := by
  rw [runLines, bind_apply_ok hok, finish, session_bind_apply, hblocks]
  rfl

end Run

end LineScript
