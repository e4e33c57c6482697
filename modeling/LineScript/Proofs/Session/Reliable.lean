/-
Sinks that never fail, whatever they have taken before (`Sink.Reliable`). On
such a sink writing and flushing always succeed, and what a run wrote is read
off the sink that has taken its texts one after the other (`Sink.taken`).
-/
import LineScript.Session.Run

namespace LineScript

namespace Sink

variable {σ : Type} [Sink σ]

/-- The sink after it was given some texts. -/
def taken (sink : σ) (texts : List Text) : σ :=
  texts.foldl (fun s t => (write s t).2) sink

theorem taken_append (sink : σ) (texts texts' : List Text) :
    taken sink (texts ++ texts') = taken (taken sink texts) texts' :=
  List.foldl_append

/-- Gives texts to a sink until it fails: why it failed, if it did, and the sink
afterwards. -/
def writeAll (sink : σ) : List Text → Option String × σ
  | [] => (none, sink)
  | t :: rest =>
    match write sink t with
    | (none, sink) => writeAll sink rest
    | (some reason, sink) => (some reason, sink)

theorem writeAll_cons_of_taken {sink : σ} {t : Text} (rest : List Text)
    (h : (write sink t).1 = none) : writeAll sink (t :: rest) = writeAll (write sink t).2 rest := by
  rw [writeAll]
  rcases hwrite : write sink t with ⟨_ | reason, sink'⟩
  · rfl
  · simp [hwrite] at h

theorem writeAll_cons_of_refused {sink : σ} {t : Text} {reason : String} (rest : List Text)
    (h : (write sink t).1 = some reason) :
    writeAll sink (t :: rest) = (some reason, (write sink t).2) := by
  rw [writeAll]
  rcases hwrite : write sink t with ⟨_ | reason', sink'⟩
  · simp [hwrite] at h
  · simpa [hwrite] using h

theorem writeAll_singleton (sink : σ) (t : Text) : writeAll sink [t] = write sink t := by
  rw [writeAll]
  rcases write sink t with ⟨_ | reason, sink'⟩ <;> rfl

theorem writeAll_append_of_taken {sink : σ} {texts : List Text} (texts' : List Text)
    (h : (writeAll sink texts).1 = none) :
    writeAll sink (texts ++ texts') = writeAll (writeAll sink texts).2 texts' := by
  induction texts generalizing sink with
  | nil => rfl
  | cons t rest ih =>
    cases hwrite : (write sink t).1 with
    | none =>
      rw [writeAll_cons_of_taken rest hwrite] at h ⊢
      rw [List.cons_append, writeAll_cons_of_taken _ hwrite, ih h]
    | some reason =>
      rw [writeAll_cons_of_refused rest hwrite] at h
      cases h

theorem writeAll_append_of_refused {sink : σ} {texts : List Text} {reason : String}
    (texts' : List Text) (h : (writeAll sink texts).1 = some reason) :
    writeAll sink (texts ++ texts') = writeAll sink texts := by
  induction texts generalizing sink with
  | nil => cases h
  | cons t rest ih =>
    cases hwrite : (write sink t).1 with
    | none =>
      rw [writeAll_cons_of_taken rest hwrite] at h ⊢
      rw [List.cons_append, writeAll_cons_of_taken _ hwrite, ih h]
    | some reason =>
      rw [List.cons_append, writeAll_cons_of_refused _ hwrite, writeAll_cons_of_refused _ hwrite]

/-- After any texts, one more is taken and a flush succeeds. -/
def Reliable (sink : σ) : Prop :=
  ∀ texts, (∀ t, (write (taken sink texts) t).1 = none) ∧ (flush (taken sink texts)).1 = none

theorem Reliable.taken {sink : σ} (h : Reliable sink) (texts : List Text) :
    Reliable (taken sink texts) := by
  intro texts'
  rw [← taken_append]
  exact h (texts ++ texts')

/-- A sink that never fails takes all texts. -/
theorem Reliable.writeAll_eq {sink : σ} (h : Reliable sink) (texts : List Text) :
    writeAll sink texts = (none, Sink.taken sink texts) := by
  induction texts generalizing sink with
  | nil => rfl
  | cons t rest ih =>
    have hfirst : (write sink t).1 = none := (h []).1 t
    rw [writeAll_cons_of_taken rest hfirst]
    exact ih (h.taken [t])

end Sink

namespace Run

variable {σ : Type} [Sink σ] {s : Session σ}

theorem write_apply (h : Sink.Reliable s.sink) (t : Text) :
    write t s = ⟨.ok (), { s with sink := Sink.taken s.sink [t] }, []⟩ := by
  have hnone : (Sink.write s.sink t).1 = none := (h []).1 t
  rw [write, sinkAnswer, hnone]
  rfl

theorem flush_apply (h : Sink.Reliable s.sink) :
    flush s = ⟨.ok (), { s with sink := (Sink.flush s.sink).2 }, []⟩ := by
  have hnone : (Sink.flush s.sink).1 = none := (h []).2
  rw [flush, sinkAnswer, hnone]

end Run

namespace Buffer

theorem add_add (b : Buffer) (new new' : List UInt8) :
    (b.add new).add new' = b.add (new ++ new') := by
  have hbytes : b.bytes ++ new ++ new' = b.bytes ++ (new ++ new') := by
    apply Array.toList_inj.1
    simp
  rw [add, add, add, hbytes]

/-- A buffer without a limit holds the bytes of all that it was given. -/
theorem taken_unlimited (b : Buffer) (h : b.limit? = none) (texts : List Text) :
    Sink.taken b texts = b.add (texts.flatMap Text.utf8) := by
  induction texts generalizing b with
  | nil => simp [Sink.taken, add]
  | cons t rest ih =>
    have hwrite : (Sink.write b t).2 = b.add t.utf8 := by
      show (b.write t).2 = _
      rw [write, h]
    have hrest : Sink.taken b (t :: rest) = Sink.taken (b.add t.utf8) rest := by
      rw [← hwrite]
      rfl
    rw [hrest, ih (b.add t.utf8) h, List.flatMap_cons, add_add]

theorem reliable_unlimited : Sink.Reliable unlimited := by
  intro texts
  rw [taken_unlimited unlimited rfl]
  exact ⟨fun _ => rfl, rfl⟩

end Buffer

end LineScript
