/-
Sessions that are used step by step: any calls, one after the other, on one
session, whatever each of them answers.
-/
import LineScript.Proofs.Session.Law

namespace LineScript

/-- Something that a session can be asked to do. -/
inductive Call where
  | execLine (line : Nat) (text : Text)
  | runLines (lines : List Line)
  | finish

variable {σ : Type} [Sink σ]

/-- Does what is asked. -/
def Call.run : Call → Run σ Unit
  | execLine line text => Run.execLine line text
  | runLines lines => Run.runLines lines
  | finish => Run.finish

/-- The sessions that calls lead to from the start; a call that failed is
followed by others just the same. -/
inductive Reachable (options : Options) (sink : σ) : Session σ → Prop
  | start : Reachable options sink (.start options sink)
  | call {s : Session σ} (c : Call) :
    Reachable options sink s → Reachable options sink (c.run s).session

theorem Law.Steps.call {Q : Law σ} (h : Law.Steps Q) (hfinish : Run.finish.Obeys Q) (c : Call) :
    c.run.Obeys Q := by
  cases c with
  | execLine line text => exact h.execLine line text
  | runLines lines => exact h.runLines hfinish lines
  | finish => exact hfinish

end LineScript
