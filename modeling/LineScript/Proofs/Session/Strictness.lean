/-
Strict mode only adds failures on unknown text (`execute_strict`). As long as
every act has a construct, being strict makes no difference to it; at the first
one that has none a strict run fails, and a lenient run goes on. So the strict
run is the lenient run, or the part of it in front of that act.

That a run comes to text without a construct can be seen from the events: an act
with a text is reported before it is done, and nothing else is reported in this
way (`Run.dispatched_mem_deed_iff`).
-/
import LineScript.Proofs.Session.Written

namespace LineScript

variable {σ τ : Type}

/-- What a strict run fails with at an act that has no construct. -/
def Act.refusal (a : Act) : Failure :=
  .fault a.line (.unknownConstruct (a.text.firstWord?.getD []))

/-- The deed that an act without a construct is in a lenient run. -/
def Act.skipped (a : Act) (depth : Nat) : Deed :=
  ⟨a, [.dispatched a.line none depth, .skipped a.line (a.text.firstWord?.getD [])], none⟩

/-- The deed that it is in a strict one. -/
def Act.refused (a : Act) (depth : Nat) : Deed :=
  ⟨a, [.dispatched a.line none depth], none⟩

/-- Text without a construct has nothing to write. -/
theorem Deed.chunks_of_unknown {d : Deed} (hc : d.act.construct? = none)
    (hwritten : d.written? = none) : d.chunks = [] := by
  rw [chunks, Act.announcement, hc, hwritten]
  rfl

namespace Run

variable {a : Act} {s : Session σ}

/-! ## One act -/

/-- At an act without a construct a strict run fails, and a lenient run goes on
as if nothing had been there. -/
theorem perform_unknown (hc : a.construct? = none) (himplied : a.implied = false)
    (s : Session σ) :
    perform a s =
      if s.options.strict then ⟨.error a.refusal, s, (a.refused s.blocks.length).events⟩
      else ⟨.ok none, s, (a.skipped s.blocks.length).events⟩ := by
  have htakeUp : (takeUp a : Run σ Unit) = dispatch a.line none := by
    rw [takeUp, himplied, hc]
    rfl
  have hwork : (work a : Run σ _) = skip a.line a.text >>= fun _ => pure none := by
    rw [work, hc]
  rw [perform_apply, htakeUp, hwork, skip, dispatch]
  cases hs : s.options.strict with
  | true => simp [bind_apply, session, fail, report, hs, Act.refusal, Act.refused]
  | false => simp [bind_apply, session, report, hs, Act.skipped]

/-- What an act does reports of no text that is about to be executed. -/
def silent : Law σ := fun _ events _ _ =>
  ∀ line c depth, .dispatched line c depth ∉ events

theorem silent_composes : Law.Composes (silent : Law σ) where
  nothing _ := fun _ _ _ => List.not_mem_nil
  andThen h h' := fun line c depth hmem =>
    (List.mem_append.1 hmem).elim (h line c depth) (h' line c depth)

theorem silent_fail (failure : Failure) : (fail failure : Run σ Unit).Obeys silent :=
  fun _ _ _ _ => List.not_mem_nil

theorem silent_modify (f : Session σ → Session σ) : (modify f).Obeys silent :=
  fun _ _ _ _ => List.not_mem_nil

theorem silent_report {event : Event} (h : ∀ line c depth, event ≠ .dispatched line c depth) :
    (report event : Run σ Unit).Obeys silent :=
  fun _ line c depth hmem => h line c depth (List.mem_singleton.1 hmem).symm

theorem silent_closeInnermost (line : Nat) : (closeInnermost line : Run σ Unit).Obeys silent := by
  intro s
  rcases closeInnermost_cases line s with
    ⟨cause, blocks, hfails⟩ | ⟨block, outer, frame, symbols, -, -, hcloses⟩
  · rw [hfails]
    exact fun _ _ _ => List.not_mem_nil
  · rw [hcloses]
    exact fun _ _ _ hmem => nomatch List.mem_singleton.1 hmem

theorem silent_work (a : Act) : (work a : Run σ _).Obeys silent := by
  have hrender : ∀ line c text, (renderArgument line c text : Run σ _).Obeys silent :=
    fun line c text => silent_composes.bind silent_composes.session fun _ =>
      silent_composes.ofFault fun _ _ => silent_fail _
  obtain ⟨line, c, text, implied⟩ := a
  rcases c with _ | _ | _ | _ | kind | _ | _
  case none =>
    refine silent_composes.bind ?_ fun _ => silent_composes.pure none
    refine silent_composes.bind silent_composes.session fun s => ?_
    split
    · exact silent_composes.bind (silent_fail _) fun _ => silent_report nofun
    · exact silent_report nofun
  case some.binding =>
    refine silent_composes.bind (silent_composes.ofFault fun _ _ => silent_fail _) fun read => ?_
    refine silent_composes.bind (silent_report nofun) fun _ => ?_
    refine silent_composes.bind silent_composes.session fun _ => ?_
    refine silent_composes.bind (silent_report nofun) fun _ => ?_
    exact silent_composes.bind (silent_modify _) fun _ => silent_composes.pure none
  case some.print => exact silent_composes.bind (hrender _ _ _) fun _ => silent_composes.pure _
  case some.puts => exact silent_composes.bind (hrender _ _ _) fun _ => silent_composes.pure _
  case some.block =>
    refine silent_composes.bind ?_ fun _ => silent_composes.pure none
    refine silent_composes.bind silent_composes.session fun s => ?_
    refine silent_composes.bind (silent_modify _) fun _ => ?_
    exact silent_composes.bind silent_composes.session fun _ => silent_report nofun
  case some.openBrace => exact silent_composes.pure none
  case some.closeBrace =>
    exact silent_composes.bind (silent_closeInnermost line) fun _ => silent_composes.pure none

/-- Exactly the acts with a text are reported as about to be executed. -/
theorem dispatched_mem_deed_iff {line depth : Nat} {c : Option Construct} :
    .dispatched line c depth ∈ (deed a s).events ↔
      a.implied = false ∧ a.line = line ∧ a.construct? = c ∧ s.blocks.length = depth := by
  have hsilent := silent_work a s line c depth
  rw [deed, perform_apply]
  simp only [List.mem_append, hsilent, or_false]
  rw [takeUp]
  cases a.implied with
  | true => simp
  | false => simp [dispatch, session, report, bind_apply, eq_comm]

theorem not_dispatched_of_mem_deeds {as : List Act} {d : Deed} (h : d ∈ deeds as s)
    (hc : d.act.construct? ≠ none) (line depth : Nat) : .dispatched line none depth ∉ d.events := by
  induction as generalizing s with
  | nil => cases h
  | cons a rest ih =>
    rcases List.mem_cons.1 h with rfl | h
    · exact fun hmem => hc (dispatched_mem_deed_iff.1 hmem).2.2.1
    · cases hresult : (perform a s).result with
      | error failure =>
        rw [hresult] at h
        cases h
      | ok written? =>
        rw [hresult] at h
        exact ih h

theorem deeds_lenient (hc : a.construct? = none) (himplied : a.implied = false)
    (h : s.options.strict = false) (rest : List Act) :
    deeds (a :: rest) s = a.skipped s.blocks.length :: deeds rest s := by
  rw [deeds, deed, perform_unknown hc himplied, h]
  rfl

theorem dry_refused (hc : a.construct? = none) (himplied : a.implied = false)
    (h : s.options.strict = true) (rest : List Act) :
    (dry (a :: rest) s).result = .error a.refusal ∧
      deeds (a :: rest) s = [a.refused s.blocks.length] := by
  have hperform := perform_unknown hc himplied s
  rw [h] at hperform
  refine ⟨?_, ?_⟩
  · rw [dry, bind_apply, hperform]
    rfl
  · rw [deeds, deed, hperform]
    rfl

/-! ## A run -/

/-- Where every act has a construct, being strict makes no difference. -/
theorem dry_known {as : List Act} (h : ∀ a ∈ as, a.construct? ≠ none) (s : Session σ)
    (options : Options) (sink : τ) :
    (∀ d ∈ deeds as s, d.act.construct? ≠ none) ∧
      dry as (s.onto options sink) = (dry as s).onto options sink ∧
      deeds as (s.onto options sink) = deeds as s := by
  have hsame : ∀ a ∈ as, a.construct? = none → options.strict = s.options.strict :=
    fun a ha hc => absurd hc (h a ha)
  refine ⟨fun d hd => h _ ?_, dry_onto hsame sink, deeds_onto hsame sink⟩
  exact (acts_of_deeds as s).1.subset (List.mem_map_of_mem hd)

/-- A strict run beside a lenient one: either the lenient one comes to no text
without a construct, or the strict one fails at the first such text. -/
theorem dry_strict {as : List Act} {options : Options}
    (himplied : ∀ a ∈ as, a.construct? = none → a.implied = false)
    (hlenient : s.options.strict = false) (hstrict : options.strict = true) (sink : τ) :
    ((∀ d ∈ deeds as s, d.act.construct? ≠ none) ∧
      dry as (s.onto options sink) = (dry as s).onto options sink ∧
      deeds as (s.onto options sink) = deeds as s) ∨
    ∃ before, ∃ a : Act, ∃ depth after,
      deeds as s = before ++ a.skipped depth :: after ∧
      (∀ d ∈ before, d.act.construct? ≠ none) ∧ a.construct? = none ∧
      (dry as (s.onto options sink)).result = .error a.refusal ∧
      deeds as (s.onto options sink) = before ++ [a.refused depth] := by
  cases hfind : as.find? fun a => a.construct?.isNone with
  | none =>
    exact .inl (dry_known (by simpa using hfind) s options sink)
  | some a =>
    obtain ⟨hunknown, front, back, rfl, hfront⟩ := List.find?_eq_some_iff_append.1 hfind
    have hc : a.construct? = none := by simpa using hunknown
    have hknown : ∀ a ∈ front, a.construct? ≠ none := by
      simpa [Option.isSome_iff_ne_none] using hfront
    obtain ⟨hdone, hdry, hdeeds⟩ := dry_known hknown s options sink
    cases hresult : (dry front s).result with
    | error failure =>
      have hresult' : (dry front (s.onto options sink)).result = .error failure := by
        rw [hdry]
        exact hresult
      obtain ⟨hall, hallDeeds⟩ := dry_append_error hresult (a :: back)
      obtain ⟨hall', hallDeeds'⟩ := dry_append_error hresult' (a :: back)
      rw [hall, hallDeeds, hall', hallDeeds']
      exact .inl ⟨hdone, hdry, hdeeds⟩
    | ok done =>
      have hresult' : (dry front (s.onto options sink)).result = .ok () := by
        rw [hdry]
        exact hresult
      have hlenient' : (dry front s).session.options.strict = false := by
        rw [options_dry, hlenient]
      have ha := himplied a (by simp) hc
      obtain ⟨-, hallDeeds⟩ := dry_append_ok hresult (a :: back)
      obtain ⟨hall', hallDeeds'⟩ := dry_append_ok hresult' (a :: back)
      obtain ⟨hrefused, hrefusedDeeds⟩ := dry_refused
        (s := (dry front s).session.onto options sink) hc ha hstrict back
      refine .inr ⟨deeds front s, a, (dry front s).session.blocks.length,
        deeds back (dry front s).session, ?_, hdone, hc, ?_, ?_⟩
      · rw [hallDeeds, deeds_lenient hc ha hlenient']
      · rw [hall', hdry]
        exact hrefused
      · rw [hallDeeds', hdry, hdeeds]
        exact congrArg _ hrefusedDeeds

end Run

/-! ## Whole sources -/

namespace Source

variable {source : Text}

/-- Nothing without a construct is reported where only deeds with one are. -/
theorem not_dispatched_of_known {strict : Bool} {ds : List Deed} (hds : ds ⊆ deeds source strict)
    (hknown : ∀ d ∈ ds, d.act.construct? ≠ none) (line depth : Nat) :
    .dispatched line none depth ∉ readEvents source ++ ds.flatMap Deed.events := by
  rw [List.mem_append, List.mem_flatMap]
  rintro (hread | ⟨d, hd, hevent⟩)
  · rw [readEvents] at hread
    split at hread
    · cases hread
    · cases List.mem_singleton.1 hread
  · exact Run.not_dispatched_of_mem_deeds (hds hd) (hknown d hd) line depth hevent

/-- A run fails for want of a construct only where it comes to an act that has
none. -/
theorem exists_unknown_of_dryRun {strict : Bool} {line : Nat} {word : Text}
    (h : (dryRun source strict).result = .error (.fault line (.unknownConstruct word))) :
    ∃ d ∈ deeds source strict, d.act.construct? = none := by
  cases hlines : lines source with
  | error cause =>
    rw [dryRun_of_refused hlines] at h
    cases h
  | ok ls =>
    rw [dryRun_of_lines hlines] at h
    rcases Run.error_of_bind h with hdry | ⟨-, -, hclosed⟩
    · obtain ⟨before, a, after, -, -, hperform, hdeeds⟩ := Run.dry_error hdry
      obtain ⟨cause, hcause, hunknown⟩ := Run.perform_fault hperform
      rw [deeds_of_lines hlines, hdeeds]
      refine ⟨_, List.mem_append_right _ (List.mem_singleton_self _), ?_⟩
      exact hunknown word (Failure.fault.inj hcause).2.symm
    · obtain ⟨line, frame, hfailure⟩ := Run.checkClosed_fault hclosed
      cases hfailure

/-- A source that is run strictly, beside the same source run leniently. -/
theorem dryRun_strict (source : Text) :
    ((∀ d ∈ deeds source false, d.act.construct? ≠ none) ∧
      dryRun source true = (dryRun source false).onto ⟨false, true⟩ () ∧
      deeds source true = deeds source false) ∨
    ∃ before, ∃ a : Act, ∃ depth after,
      deeds source false = before ++ a.skipped depth :: after ∧
      (∀ d ∈ before, d.act.construct? ≠ none) ∧ a.construct? = none ∧
      (dryRun source true).result = .error a.refusal ∧
      deeds source true = before ++ [a.refused depth] := by
  cases hlines : lines source with
  | error cause =>
    rw [dryRun_of_refused hlines, dryRun_of_refused hlines, deeds_of_refused hlines,
      deeds_of_refused hlines]
    exact .inl ⟨nofun, rfl, rfl⟩
  | ok ls =>
    have himplied : ∀ a ∈ ls.flatMap Line.acts, a.construct? = none → a.implied = false := by
      intro a ha
      obtain ⟨line, -, ha⟩ := List.mem_flatMap.1 ha
      exact Line.not_implied_of_mem_acts ha
    have hstart : Session.dryStart true = (Session.dryStart false).onto ⟨false, true⟩ () := rfl
    rw [dryRun_of_lines hlines, dryRun_of_lines hlines, deeds_of_lines hlines,
      deeds_of_lines hlines, hstart]
    have hoptions : (⟨false, true⟩ : Options).strict = true := rfl
    rcases Run.dry_strict (s := Session.dryStart false) himplied rfl hoptions () with
      ⟨hknown, hdry, hdeeds⟩ | ⟨before, a, depth, after, hdeeds, hknown, hc, hresult, hdeeds'⟩
    · refine .inl ⟨hknown, ?_, hdeeds⟩
      simp only [Run.bind_onto hdry fun _ => Run.checkClosed_onto _ _ _]
      rfl
    · refine .inr ⟨before, a, depth, after, hdeeds, hknown, hc, ?_, hdeeds'⟩
      rw [Run.bind_apply_error hresult]

end Source

variable [Sink σ] {sink : σ}

/-- Runs whose dry runs are the same are the same themselves. -/
theorem execute_strict_same {source : Text} (trace : Bool) (hsink : Sink.Reliable sink)
    (hdry : Source.dryRun source true = (Source.dryRun source false).onto ⟨false, true⟩ ())
    (hdeeds : Source.deeds source true = Source.deeds source false) :
    execute source ⟨trace, true⟩ sink =
      (execute source ⟨trace, false⟩ sink).onto ⟨trace, true⟩
        (execute source ⟨trace, false⟩ sink).session.sink := by
  have hlenient := (execute_reliable source ⟨trace, false⟩ hsink).1
  have hstrict := (execute_reliable source ⟨trace, true⟩ hsink).1
  have hsinks : (execute source ⟨trace, true⟩ sink).session.sink =
      (execute source ⟨trace, false⟩ sink).session.sink := by
    refine sink_execute_congr hsink ?_ ?_
    · show (Source.dryRun source true).result = (Source.dryRun source false).result
      rw [hdry]
      rfl
    · simp only [Source.chunks, hdeeds]
  rw [hsinks, hdry] at hstrict
  rw [hstrict, hlenient]
  rfl

/-- **Strict mode only adds failures on unknown text.** On a sink that cannot
fail, with traces or without, there are two cases. Either the lenient run comes
to no text without a construct, and then the strict run is the same run; or it
does, and then the strict run fails on the first such text, with its line and its
first word, having reported and written what the lenient run had until then.
That text is the act of a deed of the lenient run, and no event before it is of
text without a construct. So strict runs fail in this way exactly if the lenient
run comes to such a text, and a source that succeeds strictly is executed in the
same way leniently. -/
theorem execute_strict (source : Text) (trace : Bool) (hsink : Sink.Reliable sink) :
    let lenient := execute source ⟨trace, false⟩ sink
    let strict := execute source ⟨trace, true⟩ sink
    ((strict = lenient.onto ⟨trace, true⟩ lenient.session.sink ∧
        ∀ line depth, .dispatched line none depth ∉ lenient.events) ∨
      ∃ before, ∃ a : Act, ∃ depth after,
        let reported := Source.readEvents source ++ before.flatMap Deed.events
        let word := a.text.firstWord?.getD []
        let out := Chunk.shown trace (before.flatMap Deed.chunks)
        Source.deeds source false =
          before ++ ⟨a, [.dispatched a.line none depth, .skipped a.line word], none⟩ :: after ∧
        lenient.events = reported ++ .dispatched a.line none depth :: .skipped a.line word ::
          after.flatMap Deed.events ∧
        (∀ line depth, .dispatched line none depth ∉ reported) ∧
        strict.result = .error (.fault a.line (.unknownConstruct word)) ∧
        strict.events = reported ++ [.dispatched a.line none depth] ∧
        strict.Wrote sink out ∧
        lenient.Wrote sink (out ++ Chunk.shown trace (after.flatMap Deed.chunks))) ∧
    ((∃ line word, strict.result = .error (.fault line (.unknownConstruct word))) ↔
      ∃ line depth, .dispatched line none depth ∈ lenient.events) ∧
    (strict.result = .ok () → strict = lenient.onto ⟨trace, true⟩ lenient.session.sink) := by
  intro lenient strict
  have hresult : strict.result = (Source.dryRun source true).result :=
    result_execute source ⟨trace, true⟩ hsink
  have hreported : lenient.events =
      Source.readEvents source ++ (Source.deeds source false).flatMap Deed.events :=
    events_execute source ⟨trace, false⟩ hsink
  rcases Source.dryRun_strict source with
    ⟨hknown, hdry, hdeeds⟩ | ⟨before, a, depth, after, hdeeds, hknown, hc, hrefused, hdeeds'⟩
  · have hsame : strict = lenient.onto ⟨trace, true⟩ lenient.session.sink :=
      execute_strict_same trace hsink hdry hdeeds
    have hnone : ∀ line depth, .dispatched line none depth ∉ lenient.events := by
      rw [hreported]
      exact Source.not_dispatched_of_known (List.Subset.refl _) hknown
    refine ⟨.inl ⟨hsame, hnone⟩, ⟨?_, ?_⟩, fun _ => hsame⟩
    · rintro ⟨line, word, hfailed⟩
      rw [hresult, hdry] at hfailed
      obtain ⟨d, hd, hc⟩ := Source.exists_unknown_of_dryRun hfailed
      exact absurd hc (hknown d hd)
    · rintro ⟨line, depth, hmem⟩
      exact absurd hmem (hnone line depth)
  · have hdone : before ⊆ Source.deeds source false := by
      rw [hdeeds]
      exact List.subset_append_left _ _
    have hlenientChunks : Source.chunks source false =
        before.flatMap Deed.chunks ++ after.flatMap Deed.chunks := by
      have hskipped : (a.skipped depth).chunks = [] := Deed.chunks_of_unknown hc rfl
      rw [Source.chunks, hdeeds, List.flatMap_append, List.flatMap_cons, hskipped, List.nil_append]
    have hstrictChunks : Source.chunks source true = before.flatMap Deed.chunks := by
      have hrefused : (a.refused depth).chunks = [] := Deed.chunks_of_unknown hc rfl
      rw [Source.chunks, hdeeds', List.flatMap_append, List.flatMap_singleton, hrefused,
        List.append_nil]
    have hevents : lenient.events = Source.readEvents source ++ before.flatMap Deed.events ++
        ((a.skipped depth).events ++ after.flatMap Deed.events) := by
      rw [hreported, hdeeds, List.flatMap_append, List.flatMap_cons, List.append_assoc]
    have hstrictEvents : strict.events =
        Source.readEvents source ++ before.flatMap Deed.events ++ (a.refused depth).events := by
      have hall : strict.events = _ := events_execute source ⟨trace, true⟩ hsink
      rw [hall, hdeeds', List.flatMap_append, List.flatMap_singleton, List.append_assoc]
    refine ⟨.inr ⟨before, a, depth, after, hdeeds, hevents, ?_, hresult.trans hrefused,
      hstrictEvents, ?_, ?_⟩, ⟨fun _ => ⟨a.line, depth, ?_⟩, fun _ => ?_⟩, fun hok => ?_⟩
    · exact Source.not_dispatched_of_known hdone hknown
    · rw [← hstrictChunks]
      exact (execute_reliable source ⟨trace, true⟩ hsink).2
    · rw [← Chunk.shown_append, ← hlenientChunks]
      exact (execute_reliable source ⟨trace, false⟩ hsink).2
    · rw [hevents]
      exact List.mem_append_right _ (List.mem_append_left _ List.mem_cons_self)
    · exact ⟨_, _, hresult.trans hrefused⟩
    · rw [hresult, hrefused] at hok
      cases hok

/-- The second line is unknown, so that only the first is executed strictly. -/
theorem execute_strict_second_line :
    let source : Text := ['p', 'u', 't', 's', ' ', '1', '\n', 'f', 'o', 'o', ' ', 'x', '\n', 'p',
      'u', 't', 's', ' ', '3']
    let lenient := execute source ⟨false, false⟩ Buffer.unlimited
    let strict := execute source ⟨false, true⟩ Buffer.unlimited
    Sink.Reliable Buffer.unlimited ∧ lenient.result = .ok () ∧
      .dispatched 2 none 0 ∈ lenient.events ∧
      ∃ before, ∃ a : Act, ∃ depth after,
        Source.deeds source false = before ++ a.skipped depth :: after ∧ a.line = 2 ∧
        strict.result = .error (.fault 2 (.unknownConstruct ['f', 'o', 'o'])) ∧
        strict.Wrote Buffer.unlimited (Chunk.shown false (before.flatMap Deed.chunks)) ∧
        lenient.Wrote Buffer.unlimited (Chunk.shown false (before.flatMap Deed.chunks) ++
          Chunk.shown false (after.flatMap Deed.chunks)) := by
  intro source lenient strict
  have hlenient : lenient.result = .ok () := by decide +kernel
  have hdispatched : .dispatched 2 none 0 ∈ lenient.events := by decide +kernel
  have hstrict : strict.result = .error (.fault 2 (.unknownConstruct ['f', 'o', 'o'])) := by
    decide +kernel
  obtain ⟨⟨-, hnone⟩ | ⟨before, a, depth, after, hdeeds, -, -, hfailed, -, hout, hall⟩, -⟩ :=
    execute_strict source false Buffer.reliable_unlimited
  · exact absurd hdispatched (hnone 2 0)
  · have hline : 2 = a.line := by
      have hsame := hstrict.symm.trans hfailed
      injection hsame with hsame
      exact (Failure.fault.inj hsame).1
    exact ⟨Buffer.reliable_unlimited, hlenient, hdispatched, before, a, depth, after, hdeeds,
      hline.symm, hstrict, hout, hall⟩

end LineScript
