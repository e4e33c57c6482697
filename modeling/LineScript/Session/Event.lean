/-
Events: what a run reports about itself beside its output, in the order in
which it happens.
-/
import LineScript.Symbols.Table

namespace LineScript

/-- One thing that a run reports. -/
inductive Event where
  /-- A source was read and has this many logical lines. -/
  | sourceRead (lines : Nat)
  /-- A text is about to be executed, `depth` blocks being open. -/
  | dispatched (line : Nat) (construct : Option Construct) (depth : Nat)
  | bindingRead (line : Nat) (name : Text) (type : ValueType)
  /-- A line was skipped that holds no construct. -/
  | skipped (line : Nat) (word : Text)
  /-- A name is bound, `depth` frames being open. -/
  | bound (name : Text) (value : Value) (depth : Nat)
  /-- A frame was opened, the `depth`-th from the outside. -/
  | opened (frame : FrameId) (depth : Nat)
  /-- A frame was closed that held this many bindings. -/
  | closed (frame : FrameId) (bindings : Nat)
  deriving DecidableEq

end LineScript
