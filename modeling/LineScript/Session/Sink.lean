/-
Sinks: where output goes. A sink takes texts one after the other and may fail,
on a text or when it is flushed; a text that it fails on may have been taken in
part.

The buffer is a sink that keeps the bytes of what it takes, up to a limit.
-/
import LineScript.Text.Basic

namespace LineScript

class Sink (σ : Type) where
  /-- Takes a text: why it failed, if it did, and the sink afterwards. -/
  write : σ → Text → Option String × σ
  /-- Hands everything on: why that failed, if it did, and the sink afterwards. -/
  flush : σ → Option String × σ

/-- The bytes of a text in UTF-8. -/
def Text.utf8 (t : Text) : List UInt8 :=
  t.flatMap String.utf8EncodeChar

/-- A sink that keeps what it takes. -/
structure Buffer where
  /-- How many bytes it keeps at most; without a limit it keeps all. -/
  limit? : Option Nat
  failsFlush : Bool
  bytes : Array UInt8

namespace Buffer

def unlimited : Buffer :=
  ⟨none, false, #[]⟩

/-- The buffer with these bytes behind those it holds. -/
def add (b : Buffer) (new : List UInt8) : Buffer :=
  { b with bytes := b.bytes ++ new }

/-- Takes a text, or as many of its bytes as there is room for. -/
def write (b : Buffer) (t : Text) : Option String × Buffer :=
  match b.limit? with
  | none => (none, b.add t.utf8)
  | some limit =>
    let room := limit - b.bytes.size
    if t.utf8.length ≤ room then (none, b.add t.utf8)
    else (some "disk full", b.add (t.utf8.take room))

/-- Fails or does nothing. -/
def flush (b : Buffer) : Option String × Buffer :=
  (if b.failsFlush then some "flush failed" else none, b)

instance : Sink Buffer where
  write := write
  flush := flush

/-- The bytes from the first `start` on, as text. -/
def textFrom? (b : Buffer) (start : Nat) : Option String :=
  String.fromUTF8? ⟨b.bytes.extract start b.bytes.size⟩

end Buffer

end LineScript
