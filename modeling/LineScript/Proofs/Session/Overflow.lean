/-
A sink that fills up shows the beginning of the real output
(`execute_limited`). What a run writes is settled by its dry run, so only the
buffer has to be looked at: the texts that it is given make up one row of bytes,
and it keeps as many of them as there is room for, wherever the texts begin and
end (`Buffer.writeAll_limited`).
-/
import LineScript.Proofs.Session.Written

namespace LineScript

namespace Buffer

/-- An empty buffer that keeps at most this many bytes. -/
def limited (limit : Nat) : Buffer :=
  ⟨some limit, false, #[]⟩

@[simp] theorem size_add (b : Buffer) (new : List UInt8) :
    (b.add new).bytes.size = b.bytes.size + new.length := by
  rw [add, ← Array.length_toList]
  simp

theorem write_of_fits {b : Buffer} {limit : Nat} {t : Text} (hlimit : b.limit? = some limit)
    (h : t.utf8.length ≤ limit - b.bytes.size) : Sink.write b t = (none, b.add t.utf8) := by
  show b.write t = _
  rw [write, hlimit]
  exact if_pos h

theorem write_of_full {b : Buffer} {limit : Nat} {t : Text} (hlimit : b.limit? = some limit)
    (h : ¬ t.utf8.length ≤ limit - b.bytes.size) :
    Sink.write b t = (some "disk full", b.add (t.utf8.take (limit - b.bytes.size))) := by
  show b.write t = _
  rw [write, hlimit]
  exact if_neg h

/-- Texts are kept if their bytes fit in all together, and else as many of the
bytes as there is room for. -/
theorem writeAll_limited {b : Buffer} {limit : Nat} (hlimit : b.limit? = some limit)
    (texts : List Text) :
    Sink.writeAll b texts =
      if (texts.flatMap Text.utf8).length ≤ limit - b.bytes.size then
        (none, b.add (texts.flatMap Text.utf8))
      else
        (some "disk full", b.add ((texts.flatMap Text.utf8).take (limit - b.bytes.size))) := by
  induction texts generalizing b with
  | nil => simp [Sink.writeAll, add]
  | cons t rest ih =>
    rw [List.flatMap_cons]
    by_cases hfits : t.utf8.length ≤ limit - b.bytes.size
    · have hwrite := write_of_fits hlimit hfits
      have hroom : limit - (b.add t.utf8).bytes.size =
          limit - b.bytes.size - t.utf8.length := by
        rw [size_add, Nat.sub_add_eq]
      have hiff : (t.utf8 ++ rest.flatMap Text.utf8).length ≤ limit - b.bytes.size ↔
          (rest.flatMap Text.utf8).length ≤ limit - b.bytes.size - t.utf8.length := by
        rw [List.length_append]
        omega
      rw [Sink.writeAll_cons_of_taken rest (by rw [hwrite]), hwrite,
        ih (b := b.add t.utf8) hlimit, hroom]
      simp only [hiff, add_add, List.take_append, List.take_of_length_le hfits]
    · have hwrite := write_of_full hlimit hfits
      have hall : ¬ (t.utf8 ++ rest.flatMap Text.utf8).length ≤ limit - b.bytes.size := by
        rw [List.length_append]
        omega
      have htake : (t.utf8 ++ rest.flatMap Text.utf8).take (limit - b.bytes.size) =
          t.utf8.take (limit - b.bytes.size) :=
        List.take_append_of_le_length (by omega)
      rw [Sink.writeAll_cons_of_refused rest (by rw [hwrite]), hwrite, if_neg hall, htake]

/-- A buffer is the same after the end of a run. -/
theorem atEnd_eq (result : Except Failure Unit) (b : Buffer) : Sink.atEnd result b = b := by
  cases result <;> rfl

end Buffer

/-- What a source writes where there is room for everything. -/
theorem execute_unlimited (source : Text) (options : Options) :
    (execute source options Buffer.unlimited).result =
        (Source.dryRun source options.strict).result ∧
      (execute source options Buffer.unlimited).session.sink.bytes =
        ((Chunk.shown options.trace (Source.chunks source options.strict)).flatMap
          Text.utf8).toArray := by
  have hwrote := (execute_reliable source options Buffer.reliable_unlimited).2
  refine ⟨result_execute source options Buffer.reliable_unlimited, ?_⟩
  rw [hwrote, Buffer.atEnd_eq, Buffer.taken_unlimited Buffer.unlimited rfl]
  simp [Buffer.add, Buffer.unlimited]

/-- **A full sink shows the beginning of the real output.** If a sink has room
for all that a run writes where nothing is refused, output and result are those
of that run. If it has not, it is left with the first bytes of that output, as
many as there is room for, and the result is the failure of the sink, whatever
else the run would have come to. -/
theorem execute_limited (source : Text) (options : Options) (limit : Nat) :
    let full := execute source options Buffer.unlimited
    let short := execute source options (Buffer.limited limit)
    if full.session.sink.bytes.size ≤ limit then
      short.result = full.result ∧ short.session.sink.bytes = full.session.sink.bytes
    else
      short.result = .error (.write "disk full") ∧
        short.session.sink.bytes = full.session.sink.bytes.take limit := by
  intro full short
  obtain ⟨hresult, hbytes⟩ := execute_unlimited source options
  have hsize : full.session.sink.bytes.size =
      ((Chunk.shown options.trace (Source.chunks source options.strict)).flatMap
        Text.utf8).length := by
    rw [hbytes, List.size_toArray]
  have hanswer := Buffer.writeAll_limited (b := Buffer.limited limit) rfl
    (Chunk.shown options.trace (Source.chunks source options.strict))
  have hroom : limit - (Buffer.limited limit).bytes.size = limit := rfl
  rw [hroom] at hanswer
  rw [hsize]
  split
  next hfits =>
    rw [if_pos hfits] at hanswer
    have hshort : short = _ := execute_of_taken hanswer rfl
    rw [hshort]
    refine ⟨hresult.symm, ?_⟩
    rw [hbytes]
    simp [Outcome.onto, Buffer.atEnd_eq, Buffer.add, Buffer.limited]
  next hfull =>
    rw [if_neg hfull] at hanswer
    obtain ⟨hfailed, hsink⟩ := execute_of_refusal hanswer
    refine ⟨hfailed, ?_⟩
    rw [hsink, hbytes]
    simp [Buffer.add, Buffer.limited]

/-- The unmatched brace on the second line is never come to. -/
example :
    let source : Text := ['p', 'u', 't', 's', ' ', '1', '2', '\n', '}']
    let short := execute source ⟨false, false⟩ (Buffer.limited 2)
    (execute source ⟨false, false⟩ Buffer.unlimited).result =
        .error (.fault 2 (.scope .unmatchedClose)) ∧
      short.result = .error (.write "disk full") ∧
      short.session.sink.bytes.toList = Text.utf8 ['1', '2'] := by
  decide +kernel

end LineScript
