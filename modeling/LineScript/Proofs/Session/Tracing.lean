/-
Trace lines are an observer (`execute_trace_observes`): whether they are asked
for changes nothing but what is written, and what is written changes by whole
trace lines alone. Each deed of a run puts its trace line in front of everything
that it writes, and in front of what the deeds behind it write: among these are
the ones nested in it, since the acts of a statement start with its own.

Nothing of this has to be shown by comparing two runs. Both are the same dry run,
whose chunks are written with or without those of trace lines.
-/
import LineScript.Proofs.Session.Written

namespace LineScript

variable {σ : Type} [Sink σ] {sink : σ}

theorem Chunk.shown_true (chunks : List Chunk) : shown true chunks = chunks.map text :=
  congrArg (List.map text) (List.filter_eq_self.2 fun _ _ => rfl)

theorem Chunk.shown_false (chunks : List Chunk) :
    shown false chunks = (chunks.filter isOutput).map text := by
  simp [shown]

theorem Deed.chunks_of_construct {d : Deed} {c : Construct} (h : d.act.construct? = some c) :
    d.chunks = .trace c d.act.text :: d.written?.toList.map .output := by
  rw [chunks, Act.announcement, h]
  rfl

/-- **Trace lines are an observer.** With traces and without, on a sink that
cannot fail, a source has the same result and leaves the same session, options
and sink apart, and the same is reported. The run consists of deeds, which are
the acts of the source in their order, all of them if it succeeds, and everything
that is reported is reported of the reading of the source or of one of them. With
traces the chunks of the deeds are written, and without traces those of them that
are output. Each deed with a construct has its trace line in front of what it
writes itself and in front of all chunks of the deeds behind it. -/
theorem execute_trace_observes (source : Text) (strict : Bool) (hsink : Sink.Reliable sink) :
    let plain := execute source ⟨false, strict⟩ sink
    let traced := execute source ⟨true, strict⟩ sink
    let deeds := Source.deeds source strict
    let chunks := deeds.flatMap Deed.chunks
    (traced.result = plain.result ∧
      traced.session = plain.session.onto ⟨true, strict⟩ traced.session.sink ∧
      traced.events = plain.events) ∧
    (deeds.map Deed.act <+: Source.acts source ∧
      (plain.result = .ok () → deeds.map Deed.act = Source.acts source) ∧
      plain.events = Source.readEvents source ++ deeds.flatMap Deed.events) ∧
    (traced.Wrote sink (chunks.map Chunk.text) ∧
      plain.Wrote sink ((chunks.filter Chunk.isOutput).map Chunk.text)) ∧
    ∀ before d after c, deeds = before ++ d :: after → d.act.construct? = some c →
      chunks = before.flatMap Deed.chunks ++
        .trace c d.act.text :: (d.written?.toList.map .output ++ after.flatMap Deed.chunks) := by
  intro plain traced deeds chunks
  obtain ⟨hplain, hplainWrote⟩ := execute_reliable source ⟨false, strict⟩ hsink
  obtain ⟨htraced, htracedWrote⟩ := execute_reliable source ⟨true, strict⟩ hsink
  rw [Chunk.shown_false] at hplainWrote
  rw [Chunk.shown_true] at htracedWrote
  have hresult : plain.result = (Source.dryRun source strict).result :=
    result_execute source ⟨false, strict⟩ hsink
  obtain ⟨hinitial, hall⟩ := Source.acts_of_deeds source strict
  refine ⟨⟨?_, ?_, ?_⟩, ⟨hinitial, fun hok => hall (hresult ▸ hok), ?_⟩,
    ⟨htracedWrote, hplainWrote⟩, ?_⟩
  · rw [hresult]
    exact result_execute source ⟨true, strict⟩ hsink
  · have hsession := congrArg Outcome.session hplain
    rw [show plain.session = _ from hsession]
    exact congrArg Outcome.session htraced
  · rw [show traced.events = _ from events_execute source ⟨true, strict⟩ hsink]
    exact (events_execute source ⟨false, strict⟩ hsink).symm
  · exact events_execute source ⟨false, strict⟩ hsink
  · intro before d after c hdeeds hc
    show List.flatMap Deed.chunks deeds = _
    rw [hdeeds, List.flatMap_append, List.flatMap_cons, Deed.chunks_of_construct hc]
    rfl

/-- A one-line block announces itself, its body and the brace that closes it. -/
theorem execute_trace_observes_nested :
    let body : Text := ['p', 'u', 't', 's', ' ', '"', 'b', '"']
    let source : Text := ['i', 'f', ' ', 'a', ' ', '{', ' '] ++ body ++ [' ', '}']
    let plain := execute source ⟨false, true⟩ Buffer.unlimited
    let traced := execute source ⟨true, true⟩ Buffer.unlimited
    let chunks : List Chunk :=
      [.trace (.block .ifBlock) source, .trace .puts body, .output ['b', '\n'],
        .trace .closeBrace ['}']]
    Sink.Reliable Buffer.unlimited ∧ plain.result = .ok () ∧ traced.result = .ok () ∧
      (Source.deeds source true).map Deed.act = Source.acts source ∧
      traced.Wrote Buffer.unlimited (chunks.map Chunk.text) ∧
      plain.Wrote Buffer.unlimited [['b', '\n']] ∧
      ∃ d₀ d₁ d₂, Source.deeds source true = [d₀, d₁, d₂] ∧ d₁.act.construct? = some .puts ∧
        chunks = [d₀].flatMap Deed.chunks ++ .trace .puts d₁.act.text ::
          (d₁.written?.toList.map .output ++ [d₂].flatMap Deed.chunks) := by
  intro body source plain traced chunks
  have hchunks : (Source.deeds source true).flatMap Deed.chunks = chunks := by decide +kernel
  have hplain : plain.result = .ok () := by decide +kernel
  obtain ⟨⟨hresult, -⟩, ⟨-, hall, -⟩, ⟨htraced, hwrote⟩, horder⟩ :=
    execute_trace_observes source true Buffer.reliable_unlimited
  rw [hchunks] at htraced hwrote horder
  have hthree : (Source.deeds source true).length = 3 := by decide +kernel
  obtain ⟨d₀, d₁, d₂, hdeeds⟩ := List.length_eq_three.1 hthree
  have hputs : (Source.deeds source true)[1]?.map (·.act.construct?) = some (some .puts) := by
    decide +kernel
  rw [hdeeds] at hputs
  have hconstruct : d₁.act.construct? = some .puts := by simpa using hputs
  exact ⟨Buffer.reliable_unlimited, hplain, hresult.trans hplain, hall hplain, htraced, hwrote,
    d₀, d₁, d₂, hdeeds, hconstruct, horder [d₀] d₁ [d₂] .puts hdeeds hconstruct⟩

end LineScript
