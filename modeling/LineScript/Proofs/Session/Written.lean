/-
Every run is its dry run with the texts of the deeds given to the sink one by
one (`Run.acts_realizes`). If the sink takes all of them, the run ends as the dry
run does; else it ends with the failure of the sink, which is given nothing
more.

So what a run writes is settled before any sink is asked. On a sink that takes
it all, and can be flushed, a source is executed as its dry run says
(`execute_of_taken`).
-/
import LineScript.Proofs.Session.DryRun
import LineScript.Proofs.Session.Reliable

namespace LineScript

variable {σ τ α β : Type} [Sink σ]

/-- The sink when a run has ended: flushed, if the run succeeded. -/
def Sink.atEnd (result : Except Failure Unit) (sink : σ) : σ :=
  match result with
  | .error _ => sink
  | .ok _ => (flush sink).2

namespace Run

/-- Gives texts to the sink until it fails. -/
def writeTexts (texts : List Text) : Run σ Unit := fun s =>
  sinkAnswer s (Sink.writeAll s.sink texts)

theorem write_eq_writeTexts (t : Text) : (write t : Run σ Unit) = writeTexts [t] := by
  funext s
  rw [write, writeTexts, Sink.writeAll_singleton]

/-- The trace line is written exactly if traces are asked for. -/
theorem announce_apply (a : Act) (s : Session σ) :
    announce a s = writeTexts (Chunk.shown s.options.trace a.announcement) s := by
  obtain ⟨line, c, text, implied⟩ := a
  cases c with
  | none => rfl
  | some c =>
    simp only [announce, trace, session_bind_apply, Act.announcement]
    cases s.options.trace with
    | false => rfl
    | true => exact congrFun (write_eq_writeTexts (traceLine c text)) s

theorem writeOut_eq_writeTexts (written? : Option Text) :
    (writeOut written? : Run σ Unit) = writeTexts written?.toList := by
  cases written? with
  | none => rfl
  | some t => exact write_eq_writeTexts t

end Run

/-- What becomes of a plan when its texts are given to a sink, by the answer of
the sink: if it took them all, the plan is carried out, and else the run ends in
the failure of the sink. -/
structure Outcome.WrittenTo (o plan : Outcome σ α) (options : Options)
    (answer : Option String × σ) : Prop where
  taken : answer.1 = none → o = plan.onto options answer.2
  refused : ∀ reason, answer.1 = some reason →
    o.result = .error (.write reason) ∧ o.session.sink = answer.2

namespace Run

/-- On every sink, the action does what its plan does in the session, with these
texts given to the sink. -/
def Realizes (x plan : Run σ α) (s : Session σ) (texts : List Text) : Prop :=
  ∀ sink, (x (s.onto s.options sink)).WrittenTo (plan s) s.options (Sink.writeAll sink texts)

namespace Realizes

variable {s : Session σ}

/-- An action that leaves the sink alone is its own plan. -/
theorem of_onto {x : Run σ α}
    (h : ∀ sink, x (s.onto s.options sink) = (x s).onto s.options sink) : x.Realizes x s [] :=
  fun sink => ⟨fun _ => h sink, nofun⟩

theorem writeTexts (texts : List Text) : (writeTexts texts).Realizes (pure ()) s texts := by
  refine fun sink => ⟨fun h => ?_, fun reason h => ?_⟩
  · rw [Run.writeTexts, Session.sink_onto, sinkAnswer, h]
    rfl
  · rw [Run.writeTexts, Session.sink_onto, sinkAnswer, h]
    exact ⟨rfl, rfl⟩

/-- A second action follows if the sink took the texts of the first one and the
first plan succeeds. -/
theorem bind {x plan : Run σ α} {f g : α → Run σ β} {texts : List Text} {rest : α → List Text}
    (hx : x.Realizes plan s texts) (hoptions : (plan s).session.options = s.options)
    (hf : ∀ a, (plan s).result = .ok a → (f a).Realizes (g a) (plan s).session (rest a)) :
    (x >>= f).Realizes (plan >>= g) s
      (texts ++ (plan s).result.toOption.elim [] rest) := by
  intro sink
  cases hanswer : (Sink.writeAll sink texts).1 with
  | some reason =>
    obtain ⟨hresult, hsink⟩ := (hx sink).refused reason hanswer
    rw [Sink.writeAll_append_of_refused _ hanswer, bind_apply_error hresult]
    refine ⟨fun hnone => ?_, fun reason' hsome => ?_⟩
    · rw [hanswer] at hnone
      cases hnone
    · rw [hanswer] at hsome
      obtain rfl := Option.some.inj hsome
      exact ⟨rfl, hsink⟩
  | none =>
    have hfirst := (hx sink).taken hanswer
    rw [Sink.writeAll_append_of_taken _ hanswer, bind_apply, bind_apply, hfirst]
    cases hplan : (plan s).result with
    | error failure => exact ⟨fun _ => by simp only [Outcome.onto, hplan]; rfl, nofun⟩
    | ok a =>
      have hsecond := hf a hplan (Sink.writeAll sink texts).2
      rw [hoptions] at hsecond
      simp only [Outcome.onto, hplan]
      refine ⟨fun h => ?_, fun reason h => ?_⟩
      · rw [hsecond.taken h]
        rfl
      · exact hsecond.refused reason h

end Realizes

variable {s : Session σ}

theorem announce_realizes (a : Act) (s : Session σ) :
    (announce a).Realizes (pure ()) s (Chunk.shown s.options.trace a.announcement) := by
  intro sink
  rw [announce_apply]
  exact Realizes.writeTexts _ sink

theorem writeOut_realizes (written? : Option Text) (s : Session σ) :
    (writeOut written?).Realizes (pure ()) s written?.toList := by
  rw [writeOut_eq_writeTexts]
  exact .writeTexts _

omit [Sink σ] in
theorem shown_deed (a : Act) (s : Session σ) :
    Chunk.shown s.options.trace (deed a s).chunks =
      Chunk.shown s.options.trace a.announcement ++
        (work a s).result.toOption.elim [] Option.toList := by
  rw [Deed.chunks, Chunk.shown_append, deed, perform_apply]
  congr 1
  rcases (work a s).result with failure | _ | t
  · rfl
  · rfl
  · simp [Except.toOption, Chunk.shown, Chunk.isOutput, Chunk.text]

/-- An act announces itself, does its work and writes what is left to be
written. -/
theorem act_realizes (a : Act) (s : Session σ) :
    (act a).Realizes (dry [a]) s (Chunk.shown s.options.trace (deed a s).chunks) := by
  have hwork := Realizes.bind (.of_onto fun sink => work_onto (fun _ => rfl) sink)
    (options_work a s) fun written? _ => writeOut_realizes written? (work a s).session
  have hannounced := (announce_realizes a s).bind rfl fun _ _ => hwork
  have htakenUp := Realizes.bind (.of_onto (takeUp_onto a s s.options))
    (by rw [takeUp_apply]) fun _ _ => by
      rw [takeUp_apply]
      exact hannounced
  have hplan : (dry [a] : Run σ Unit) =
      takeUp a >>= fun _ => pure () >>= fun _ => work a >>= fun _ => pure () := by
    simp [dry, perform]
  rw [takeUp_apply] at htakenUp
  rw [shown_deed, hplan]
  exact htakenUp

/-- A run is its dry run, with the texts of its deeds given to the sink. -/
theorem acts_realizes (as : List Act) (s : Session σ) :
    (acts as).Realizes (dry as) s
      (Chunk.shown s.options.trace ((deeds as s).flatMap Deed.chunks)) := by
  induction as generalizing s with
  | nil => exact .of_onto fun _ => rfl
  | cons a rest ih =>
    have hrest := (act_realizes a s).bind (options_dry [a] s) fun _ _ => ih (dry [a] s).session
    have hplan : (dry (a :: rest) : Run σ Unit) = dry [a] >>= fun _ => dry rest :=
      dry_append [a] rest
    have hdeeds : deeds (a :: rest) s = deed a s ::
        (dry [a] s).result.toOption.elim [] fun _ => deeds rest (dry [a] s).session := by
      rw [← List.singleton_append, deeds_append, deeds_singleton, List.singleton_append]
    rw [hplan, hdeeds, List.flatMap_cons, Chunk.shown_append]
    rw [options_dry] at hrest
    cases hresult : (dry [a] s).result with
    | error failure =>
      rw [hresult] at hrest
      exact hrest
    | ok done =>
      rw [hresult] at hrest
      exact hrest

/-- At the end the sink is flushed, unless a block is open. -/
theorem finish_onto {options : Options} {sink : σ} (s : Session τ)
    (hflush : (Sink.flush sink).1 = none) :
    finish (s.onto options sink) =
      (checkClosed s).onto options (Sink.atEnd (checkClosed s).result sink) := by
  rw [finish, checkClosed, session_bind_apply, session_bind_apply, Session.blocks_onto]
  cases s.blocks with
  | cons block outer => rfl
  | nil =>
    simp only [flush, Session.sink_onto, sinkAnswer, hflush]
    rfl

end Run

variable {source : Text} {options : Options} {sink : σ}

namespace Run

/-- Acts from the start, on any sink. -/
theorem acts_start (as : List Act) {answer : Option String × σ}
    (h : Sink.writeAll sink (Chunk.shown options.trace
      ((deeds as (.dryStart options.strict)).flatMap Deed.chunks)) = answer) :
    (acts as (Session.start options sink)).WrittenTo
      ((dry as (.dryStart options.strict)).onto options sink) options answer := by
  have hrun := acts_realizes as ((Session.dryStart options.strict).onto options sink) sink
  have hstrict : ∀ a ∈ as, a.construct? = none →
      options.strict = (Session.dryStart options.strict).options.strict :=
    fun _ _ _ => rfl
  rw [dry_onto hstrict, deeds_onto hstrict] at hrun
  rw [← h]
  exact hrun

/-- Acts from the start to the end of a run, on a sink that takes all there is
to write. -/
theorem acts_finish (as : List Act) {taken : σ}
    (htaken : Sink.writeAll sink (Chunk.shown options.trace
      ((deeds as (.dryStart options.strict)).flatMap Deed.chunks)) = (none, taken))
    (hflush : (Sink.flush taken).1 = none) {plan : Outcome Unit Unit}
    (hplan : (dry as >>= fun _ => checkClosed) (.dryStart options.strict) = plan) :
    (acts as >>= fun _ => finish) (Session.start options sink) =
      plan.onto options (Sink.atEnd plan.result taken) := by
  rw [← hplan, bind_apply, bind_apply, (acts_start as htaken).taken rfl]
  cases hresult : (dry as (.dryStart options.strict)).result with
  | error failure => simp [Outcome.onto, hresult, Sink.atEnd]
  | ok done => simp [Outcome.onto, hresult, finish_onto _ hflush]

end Run

/-- **A source is executed as its dry run says**, on a sink that takes all that
there is to write and can be flushed then. -/
theorem execute_of_taken {taken : σ}
    (htaken : Sink.writeAll sink
      (Chunk.shown options.trace (Source.chunks source options.strict)) = (none, taken))
    (hflush : (Sink.flush taken).1 = none) :
    execute source options sink =
      (Source.dryRun source options.strict).onto options
        (Sink.atEnd (Source.dryRun source options.strict).result taken) := by
  rw [Source.chunks] at htaken
  cases hlines : Source.lines source with
  | error cause =>
    rw [Source.deeds_of_refused hlines] at htaken
    obtain rfl : sink = taken := congrArg Prod.snd htaken
    rw [execute_of_refused hlines, Source.dryRun_of_refused hlines]
    rfl
  | ok ls =>
    rw [Source.deeds_of_lines hlines] at htaken
    have hrun := Run.acts_finish (ls.flatMap Line.acts) htaken hflush rfl
    rw [execute_of_lines hlines, Run.runLines, Run.execLines_eq_acts, hrun,
      Source.dryRun_of_lines hlines]
    rfl

/-- Where the sink fails on some text, the run ends there. -/
theorem execute_of_refusal {reason : String} {taken : σ}
    (h : Sink.writeAll sink
      (Chunk.shown options.trace (Source.chunks source options.strict)) = (some reason, taken)) :
    (execute source options sink).result = .error (.write reason) ∧
      (execute source options sink).session.sink = taken := by
  rw [Source.chunks] at h
  cases hlines : Source.lines source with
  | error cause =>
    rw [Source.deeds_of_refused hlines] at h
    cases h
  | ok ls =>
    rw [Source.deeds_of_lines hlines] at h
    obtain ⟨hresult, hsink⟩ := (Run.acts_start (ls.flatMap Line.acts) h).refused reason rfl
    rw [execute_of_lines hlines, Run.runLines, Run.execLines_eq_acts, Run.bind_apply_error hresult]
    exact ⟨rfl, hsink⟩

/-- The run has given these texts to the sink, one by one, and then come to its
end. -/
def Outcome.Wrote (o : Outcome σ Unit) (sink : σ) (texts : List Text) : Prop :=
  o.session.sink = Sink.atEnd o.result (Sink.taken sink texts)

/-- On a sink that cannot fail there is nothing that a run does beyond its dry
run, but for the texts that it writes. -/
theorem execute_reliable (source : Text) (options : Options) (hsink : Sink.Reliable sink) :
    execute source options sink =
        (Source.dryRun source options.strict).onto options
          (execute source options sink).session.sink ∧
      (execute source options sink).Wrote sink
        (Chunk.shown options.trace (Source.chunks source options.strict)) := by
  have htaken := hsink.writeAll_eq
    (Chunk.shown options.trace (Source.chunks source options.strict))
  rw [execute_of_taken htaken (hsink _).2]
  exact ⟨rfl, rfl⟩

theorem result_execute (source : Text) (options : Options) (hsink : Sink.Reliable sink) :
    (execute source options sink).result = (Source.dryRun source options.strict).result :=
  congrArg Outcome.result (execute_reliable source options hsink).1

/-- Everything that is reported is reported of the reading or of some deed. -/
theorem events_execute (source : Text) (options : Options) (hsink : Sink.Reliable sink) :
    (execute source options sink).events =
      Source.readEvents source ++ (Source.deeds source options.strict).flatMap Deed.events :=
  (congrArg Outcome.events (execute_reliable source options hsink).1).trans
    (Source.events_dryRun source options.strict)

/-- Runs that come to the same result and write the same leave the same sink. -/
theorem sink_execute_congr {source' : Text} {options' : Options} (hsink : Sink.Reliable sink)
    (hresult : (Source.dryRun source' options'.strict).result =
      (Source.dryRun source options.strict).result)
    (hshown : Chunk.shown options'.trace (Source.chunks source' options'.strict) =
      Chunk.shown options.trace (Source.chunks source options.strict)) :
    (execute source' options' sink).session.sink = (execute source options sink).session.sink := by
  rw [(execute_reliable source options hsink).2, (execute_reliable source' options' hsink).2,
    result_execute source options hsink, result_execute source' options' hsink, hresult, hshown]

end LineScript
