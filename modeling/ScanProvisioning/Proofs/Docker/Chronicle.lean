import ScanProvisioning.Proofs.Docker.Creation
import ScanProvisioning.Proofs.Docker.Tasks

namespace ScanProvisioning.Docker

open Program Rehearsal

/-- A question of a call, with the tasks as they stand when it is asked, or the end of a task. -/
inductive Moment
  | asked (during : ClientCall) (tasks : Background) (ev : Event host)
  | ended (ending : Ending)

namespace Call

/-- A task is started or forgotten. -/
def renews (t : Task) : Call → Prop
  | start k _ => k = t
  | forget k => k = t
  | _ => False

def looksAt (t : Task) : Call → Prop
  | task k => k = t
  | _ => False

/-- The other end has to answer. -/
def waits : Call → Prop
  | exchange _ => True
  | _ => False

end Call

/-- What happens is that something is asked. -/
def Moment.Asks (what : Call → Prop) : Moment → Prop
  | asked _ _ ev => what ev.call
  | ended _ => False

/-- A task has failed, and nothing of the kind has been asked since. -/
def FailedSince (what : Call → Prop) (ms : List Moment) (t : Task) (f : Failure) : Prop :=
  ∃ before reply after, ms = before ++ .ended (t, reply) :: after ∧ t.result reply = .error f ∧
    ∀ m ∈ after, ¬ m.Asks what

/-- A task has failed, and it has been neither started nor forgotten since. -/
def LastHeard (ms : List Moment) (t : Task) (f : Failure) : Prop := FailedSince (·.renews t) ms t f

/-- A task has failed, and nobody has looked at it since. -/
def Unheard (ms : List Moment) (t : Task) (f : Failure) : Prop := FailedSince (·.looksAt t) ms t f

/-- A site, and what has happened there so far. -/
structure Chronicle (E : Type) where
  moments : List Moment
  site : Site E

/-- The calls that start a task. -/
def Task.startedBy (during : ClientCall) : Task → Prop
  | .commit name => ∃ spec, during = .create name (.snapshot spec)
  | .pull image => ∃ name spec, during = .create name (.scanner spec) ∧ spec.image = image

/-- The calls that forget a task. -/
def Task.forgottenBy (during : ClientCall) : Task → Prop
  | .commit name => during = .delete .snapshot name
  | .pull image => ∃ name spec, during = .create name (.scanner spec) ∧ spec.image = image

/-- What a call may ask while the tasks stand in some way. -/
structure Permitted (during : ClientCall) (b : Background) (call : Call) : Prop where
  start : ∀ t request, call = .start t request → t.startedBy during
  forget : ∀ t, call = .forget t → t.forgottenBy during ∧ b.tasks.get? t ≠ some .running
  exchange : ∀ request name, call = .exchange request → during = .delete .snapshot name →
    b.underway (.commit name) = 0

/-- A look at a task waits for nobody, so what a call asks after it is asked at once: no task ends in
between. -/
def AtOnce (lets : Call → Prop) : Prop := ∀ t, ¬ lets (.task t)

namespace Peer

variable {E : Type} (peer : Peer E) (lets : Call → Prop)

/-- A question of a call is answered, and tasks go on. Which questions let tasks end is a parameter, as it
depends on what runs the tasks: beside the calls, or only while a call waits. -/
def Records (during : ClientCall) (s : Chronicle E) (call : Call) (r : call.Reply) (u : Chronicle E) :
    Prop :=
  ∃ t ends, peer.Answers s.site call r t ∧ peer.Drifts t ends u.site ∧ (lets call ∨ ends = []) ∧
    u.moments = s.moments ++ .asked during s.site.background ⟨call, r⟩ :: ends.map .ended

/-- A run of a call that is made at a site. -/
def Runs (c : Config) (during : ClientCall) (s : Chronicle E) (es : List (Event host))
    (e : Option during.Reply) (u : Chronicle E) : Prop :=
  Trace (c.answer during) es e ∧ Exchanged (peer.Records lets during) s es u

/-- What may become of a site: tasks go on, and calls are made one at a time, some of them cut off. -/
inductive Course (c : Config) : Chronicle E → Chronicle E → Prop
  | rest (s : Chronicle E) : Course c s s
  | drift {s t u : Chronicle E} {ends : List Ending} (before : Course c s t)
      (drifts : peer.Drifts t.site ends u.site) (noted : u.moments = t.moments ++ ends.map .ended) :
      Course c s u
  | call {s t u : Chronicle E} {during : ClientCall} {es : List (Event host)} {e : Option during.Reply}
      (before : Course c s t) (run : peer.Runs lets c during t es e u) : Course c s u

end Peer

section

variable {E : Type} {peer : Peer E} {lets : Call → Prop} {during : ClientCall} {ms : List Moment} {m : Moment}
  {s t u : Site E} {k : Task} {f : Failure} {ends : List Ending}

variable {what : Call → Prop}

theorem failedSince_nil : ¬ FailedSince what [] k f := by
  intro failed
  obtain ⟨before, reply, after, split, -⟩ := failed
  simp at split

theorem failedSince_snoc : FailedSince what (ms ++ [m]) k f ↔
    (∃ reply, m = .ended (k, reply) ∧ k.result reply = .error f) ∨
      FailedSince what ms k f ∧ ¬ m.Asks what := by
  constructor
  · intro since
    obtain ⟨before, reply, after, split, failed, quiet⟩ := since
    rcases List.eq_nil_or_concat after with rfl | ⟨earlier, last, rfl⟩
    · have same : m = .ended (k, reply) := by simpa using (List.append_inj_right' split rfl)
      exact .inl ⟨reply, same, failed⟩
    · rw [List.concat_eq_append, ← List.cons_append, ← List.append_assoc] at split
      obtain ⟨rfl, same⟩ := List.append_inj' split rfl
      cases same
      refine .inr ⟨⟨before, reply, earlier, rfl, failed, ?_⟩, quiet _ (by simp)⟩
      intro m mem
      exact quiet m (by simp [mem])
  · intro h
    rcases h with ⟨reply, rfl, failed⟩ | ⟨⟨before, reply, after, rfl, failed, quiet⟩, calm⟩
    · exact ⟨ms, reply, [], rfl, failed, by simp⟩
    · refine ⟨before, reply, after ++ [m], by simp, failed, ?_⟩
      exact List.forall_mem_append.mpr ⟨quiet, List.forall_mem_singleton.mpr calm⟩

theorem FailedSince.append {more : List Moment} (failed : FailedSince what ms k f)
    (quiet : ∀ m ∈ more, ¬ m.Asks what) : FailedSince what (ms ++ more) k f := by
  obtain ⟨before, reply, after, rfl, result, calm⟩ := failed
  refine ⟨before, reply, after ++ more, by simp, result, ?_⟩
  exact List.forall_mem_append.mpr ⟨calm, quiet⟩

theorem not_asks_ended : ∀ m ∈ ends.map Moment.ended, ¬ m.Asks what := by
  intro m mem
  obtain ⟨ending, -, rfl⟩ := List.mem_map.mp mem
  exact id

/-- What is asked last ends what it is about. -/
theorem not_failedSince_asked {ev : Event host} {b : Background} (asks : what ev.call) :
    ¬ FailedSince what (ms ++ [.asked during b ev]) k f := by
  rw [failedSince_snoc]
  rintro (⟨reply, same, -⟩ | ⟨-, calm⟩)
  · cases same
  · exact calm asks

theorem Task.stateAfter_eq_failed_iff {reply : Except Http.Failure Http.Response} :
    k.stateAfter reply = some (.failed f) ↔ k.result reply = .error f := by
  cases result : k.result reply with
  | ok u => simp [Task.stateAfter_of_ok result]
  | error g => simp [Task.stateAfter_of_error result]

/-- A pull is started or forgotten only once somebody has looked at how it failed. -/
def Heeds (ms : List Moment) (call : Call) : Prop :=
  ∀ image, call.renews (.pull image) → ∀ f, ¬ Unheard ms (.pull image) f

/-- The records of tasks tell what has happened, and every question was permitted when it was asked. -/
structure Coherent (lets : Call → Prop) (s : Chronicle E) : Prop where
  balanced : s.site.background.Balanced
  recorded : ∀ k f, s.site.background.tasks.get? k = some (.failed f) ↔ LastHeard s.moments k f
  lawful : ∀ during b ev, .asked during b ev ∈ s.moments → b.Balanced ∧ Permitted during b ev.call
  /-- How a pull has failed is kept until somebody has looked at it. -/
  kept : AtOnce lets → ∀ image f, Unheard s.moments (.pull image) f → LastHeard s.moments (.pull image) f

theorem coherent_fresh (e : E) : Coherent lets ⟨[], ⟨e, {}⟩⟩ := by
  constructor
  · exact Background.balanced_empty
  · intro k f
    simp [LastHeard, failedSince_nil, Registry.get?_empty]
  · simp
  · intro _ image f unheard
    exact absurd unheard failedSince_nil

theorem Coherent.ask {call : Call} {r : call.Reply} (coherent : Coherent lets ⟨ms, s⟩)
    (permitted : Permitted during s.background call) (heeds : AtOnce lets → Heeds ms call)
    (answer : peer.Answers s call r t) :
    Coherent lets ⟨ms ++ [.asked during s.background ⟨call, r⟩], t⟩ := by
  have balanced := answer.balanced coherent.balanced fun k same => (permitted.forget k same).2
  refine ⟨balanced, ?_, ?_, ?_⟩
  · intro k f
    have here := coherent.recorded k f
    rw [LastHeard] at here ⊢
    rw [failedSince_snoc]
    cases answer with
    | exchange served => simpa [Moment.Asks, Call.renews] using here
    | task k' => simpa [Moment.Asks, Call.renews] using here
    | forget k' =>
      rw [Background.get?_forget]
      by_cases same : k = k'
      · simp [Moment.Asks, Call.renews, same]
      · simpa [Moment.Asks, Call.renews, same, Ne.symm same] using here
    | start k' request now =>
      rw [Background.get?_start]
      by_cases same : k = k'
      · simp [Moment.Asks, Call.renews, same]
      · simpa [Moment.Asks, Call.renews, same, Ne.symm same] using here
  · intro during' b ev mem
    rcases List.mem_append.mp mem with mem | mem
    · exact coherent.lawful during' b ev mem
    · cases List.mem_singleton.mp mem
      exact ⟨coherent.balanced, permitted⟩
  · intro atOnce image f unheard
    obtain ⟨reply, same, -⟩ | ⟨earlier, -⟩ := failedSince_snoc.mp unheard
    · cases same
    · refine failedSince_snoc.mpr (.inr ⟨coherent.kept atOnce image f earlier, ?_⟩)
      exact fun renews => heeds atOnce image renews f earlier

/-- A task that ends was recorded as running, so nothing else was known of it. -/
theorem Coherent.finish {w : Waiting} {others : List Waiting} {reply : Except Http.Failure Http.Response}
    (coherent : Coherent lets ⟨ms, s⟩) (first : s.background.waiting.Perm (w :: others)) :
    Coherent lets ⟨ms ++ [.ended (w.task, reply)],
      { s with background := { s.background with waiting := others }.finish w.task reply }⟩ := by
  refine ⟨coherent.balanced.finish first, ?_, ?_, ?_⟩
  · intro k f
    have here := coherent.recorded k f
    dsimp only at here ⊢
    rw [LastHeard] at here ⊢
    rw [failedSince_snoc, Background.get?_finish, ← here]
    by_cases same : k = w.task
    · subst same
      have running := coherent.balanced.running_of_waiting first
      simp [Task.stateAfter_eq_failed_iff, running]
    · simp [Moment.Asks, same, Ne.symm same]
  · intro during b ev mem
    exact coherent.lawful during b ev (by simpa using mem)
  · intro atOnce image f unheard
    obtain here | ⟨earlier, -⟩ := failedSince_snoc.mp unheard
    · exact failedSince_snoc.mpr (.inl here)
    · exact failedSince_snoc.mpr (.inr ⟨coherent.kept atOnce image f earlier, id⟩)

theorem Coherent.go (coherent : Coherent lets ⟨ms, s⟩) (goes : peer.Goes s ends t) :
    Coherent lets ⟨ms ++ ends.map .ended, t⟩ := by
  have balanced := goes.balanced coherent.balanced
  cases goes with
  | turn turned =>
    simpa using (⟨balanced, coherent.recorded, coherent.lawful, coherent.kept⟩ : Coherent lets ⟨ms, _⟩)
  | send first sends served =>
    simpa using (⟨balanced, coherent.recorded, coherent.lawful, coherent.kept⟩ : Coherent lets ⟨ms, _⟩)
  | hear first hears => exact coherent.finish first
  | give first unbuilt => exact coherent.finish first

theorem Coherent.drift (coherent : Coherent lets ⟨ms, s⟩) (drifts : peer.Drifts s ends t) :
    Coherent lets ⟨ms ++ ends.map .ended, t⟩ := by
  induction drifts generalizing ms with
  | rest s => simpa using coherent
  | go goes others ih =>
    rw [List.map_append, ← List.append_assoc]
    exact ih (coherent.go goes)

end

section

variable {E : Type} {peer : Peer E} {lets : Call → Prop} {c : Config} {during : ClientCall} {s u : Chronicle E}

/-- The law under which calls are made: the site is in order, and so is what is asked. -/
structure Orderly (lets : Call → Prop) (during : ClientCall) (s : Chronicle E) (call : Call) : Prop where
  coherent : Coherent lets s
  permitted : Permitted during s.site.background call
  heeds : AtOnce lets → Heeds s.moments call

theorem Orderly.records {call : Call} {r : call.Reply} (orderly : Orderly lets during s call)
    (records : peer.Records lets during s call r u) : Coherent lets u := by
  obtain ⟨t, ends, answer, drifts, -, noted⟩ := records
  have next := (orderly.coherent.ask orderly.permitted orderly.heeds answer).drift drifts
  rw [List.append_assoc, List.singleton_append, ← noted] at next
  exact next

theorem Peer.Records.grows {call : Call} {r : call.Reply} (records : peer.Records lets during s call r u) :
    ∃ ends : List Ending,
      u.moments = s.moments ++ .asked during s.site.background ⟨call, r⟩ :: ends.map .ended := by
  obtain ⟨t, ends, -, -, -, noted⟩ := records
  exact ⟨ends, noted⟩

/-- The records of tasks that do not run stay as the answer leaves them. -/
theorem Peer.Records.get?_exchange {request : Http.Request} {r : Except Http.Failure Http.Response}
    {k : Task} (records : peer.Records lets during s (.exchange request) r u) (coherent : Coherent lets s)
    (idle : s.site.background.tasks.get? k ≠ some .running) :
    u.site.background.tasks.get? k = s.site.background.tasks.get? k := by
  obtain ⟨t, ends, answer, drifts, -⟩ := records
  cases answer with
  | exchange served => exact drifts.get?_idle coherent.balanced idle

/-- What a look at a task sees is what is recorded of it, and stays so unless the task runs. -/
theorem Peer.Records.task {k : Task} {seen : Option TaskState} (coherent : Coherent lets s)
    (records : peer.Records lets during s (.task k) seen u) :
    seen = s.site.background.tasks.get? k ∧
      (seen ≠ some .running → u.site.background.tasks.get? k = seen) := by
  obtain ⟨t, ends, answer, drifts, -⟩ := records
  cases answer with
  | task k => exact ⟨rfl, fun idle => drifts.get?_idle coherent.balanced idle⟩

/-- Where a look lets no task end, all that has failed of it has been looked at. -/
theorem Peer.Records.heeded {k : Task} {seen : Option TaskState}
    (records : peer.Records lets during s (.task k) seen u) (atOnce : AtOnce lets) (f : Failure) :
    ¬ Unheard u.moments k f := by
  obtain ⟨t, ends, -, -, held | rfl, noted⟩ := records
  · exact absurd held (atOnce k)
  · rw [noted]
    exact not_failedSince_asked rfl

theorem Peer.Records.forget {k : Task} (coherent : Coherent lets s)
    (records : peer.Records lets during s (.forget k) () u)
    (idle : s.site.background.tasks.get? k ≠ some .running) : u.site.background.tasks.get? k = none := by
  obtain ⟨t, ends, answer, drifts, -⟩ := records
  cases answer with
  | forget k =>
    have gone : (s.site.background.forget k).tasks.get? k = none := by simp [Background.get?_forget]
    have still := drifts.get?_idle (k := k) (coherent.balanced.forget idle) (by simp [gone])
    exact still.trans gone

theorem Coherent.look (coherent : Coherent lets s) (k : Task) : Orderly lets during s (.task k) where
  coherent := coherent
  permitted := ⟨by simp, by simp, by simp⟩
  heeds := fun _ _ renews => renews.elim

theorem Coherent.exchange {request : Http.Request} (coherent : Coherent lets s)
    (idle : ∀ name, during = .delete .snapshot name →
      s.site.background.tasks.get? (.commit name) ≠ some .running) :
    Orderly lets during s (.exchange request) where
  coherent := coherent
  permitted := by
    refine ⟨by simp, by simp, ?_⟩
    intro _ name _ removal
    exact coherent.balanced.underway_eq_zero (idle name removal)
  heeds := fun _ _ renews => renews.elim

theorem Coherent.start {k : Task} {request : Http.Draft} (coherent : Coherent lets s) (own : k.startedBy during)
    (heeded : AtOnce lets → ∀ image, k = .pull image → ∀ f, ¬ Unheard s.moments k f) :
    Orderly lets during s (.start k request) where
  coherent := coherent
  permitted := by
    refine ⟨?_, by simp, by simp⟩
    intro k' request' same
    cases same
    exact own
  heeds := by
    rintro atOnce image rfl
    exact heeded atOnce image rfl

theorem Coherent.forget {k : Task} (coherent : Coherent lets s) (own : k.forgottenBy during)
    (idle : s.site.background.tasks.get? k ≠ some .running)
    (heeded : AtOnce lets → ∀ image, k = .pull image → ∀ f, ¬ Unheard s.moments k f) :
    Orderly lets during s (.forget k) where
  coherent := coherent
  permitted := by
    refine ⟨by simp, ?_, by simp⟩
    intro k' same
    cases same
    exact ⟨own, idle⟩
  heeds := by
    rintro atOnce image rfl
    exact heeded atOnce image rfl

/-- While the commit of a snapshot that is being removed does not run, requests are in order. -/
theorem OnlyExchanges.coherent {α : Type} {p : Program host α} (only : OnlyExchanges p)
    (coherent : Coherent lets s) (idle : ∀ name, during = .delete .snapshot name →
      s.site.background.tasks.get? (.commit name) ≠ some .running) :
    Guarded (peer.Records lets during) (Orderly lets during) (fun u _ => Coherent lets u) p s := by
  let kept (s : Chronicle E) : Prop := Coherent lets s ∧ ∀ name, during = .delete .snapshot name →
    s.site.background.tasks.get? (.commit name) ≠ some .running
  have holds : kept s := ⟨coherent, idle⟩
  refine guarded_mono (fun _ _ kept => kept.1) (only.guarded ?_ ?_ holds)
  · intro s request kept
    exact kept.1.exchange kept.2
  · intro s request reply u kept records
    obtain ⟨coherent, idle⟩ := kept
    refine ⟨(coherent.exchange idle).records records, ?_⟩
    intro name removal
    rw [records.get?_exchange coherent (idle name removal)]
    exact idle name removal

theorem observeSnapshot_coherent {name : String} (coherent : Coherent lets s) :
    Guarded (peer.Records lets (.observe .snapshot name)) (Orderly lets (.observe .snapshot name))
      (fun u _ => Coherent lets u) (c.observeSnapshot name).run s := by
  rw [Config.observeSnapshot]
  refine guarded_ask (coherent.look _) ?_
  intro seen t records
  have next := (coherent.look _).records records
  rcases seen with _ | (_ | f)
  · refine OnlyExchanges.coherent ?_ next (by simp)
    refine OnlyExchanges.bind (onlyExchanges_getJson _ _ _) ?_
    intro image
    refine OnlyExchanges.bind ?_ fun _ => trivial
    exact trivial
  · exact next
  · exact next

theorem createSnapshot_coherent {name : String} {spec : SnapshotSpec} (coherent : Coherent lets s) :
    Guarded (peer.Records lets (.create name (.snapshot spec))) (Orderly lets (.create name (.snapshot spec)))
      (fun u _ => Coherent lets u) (c.createSnapshot name spec).run s := by
  rw [Config.createSnapshot]
  have start : Orderly lets (.create name (.snapshot spec)) s
      (.start (.commit name) (Task.commitRequest c spec.sourceVolume name)) :=
    coherent.start ⟨spec, rfl⟩ (by simp)
  refine ⟨start, ?_⟩
  intro r t records
  exact start.records records

theorem deleteSnapshot_coherent {name : String} (coherent : Coherent lets s) :
    Guarded (peer.Records lets (.delete .snapshot name)) (Orderly lets (.delete .snapshot name))
      (fun u _ => Coherent lets u) (c.deleteSnapshot name).run s := by
  rw [Config.deleteSnapshot]
  refine guarded_ask (coherent.look _) ?_
  intro seen t records
  have next := (coherent.look _).records records
  have remove {s : Chronicle E} (coherent : Coherent lets s)
      (idle : s.site.background.tasks.get? (.commit name) ≠ some .running) :
      Guarded (peer.Records lets (.delete .snapshot name)) (Orderly lets (.delete .snapshot name))
        (fun u _ => Coherent lets u)
        (Engine.delete c "removing snapshot image" ("/images/" ++ name)).run s := by
    refine OnlyExchanges.coherent (onlyExchanges_discard _ _) coherent ?_
    intro _ same
    cases same
    exact idle
  rcases seen with _ | (_ | f)
  · have unknown := (records.task coherent).2 (by simp)
    exact remove next (by simp [unknown])
  · exact next
  · have failed := (records.task coherent).2 (by simp)
    have idle : t.site.background.tasks.get? (.commit name) ≠ some .running := by simp [failed]
    have forget : Orderly lets (.delete .snapshot name) t (.forget (.commit name)) :=
      next.forget rfl idle (by simp)
    refine guarded_ask forget ?_
    intro r v forgets
    have gone := forgets.forget next idle
    exact remove (forget.records forgets) (by simp [gone])

theorem pull_coherent {name : String} {spec : ScannerSpec} (coherent : Coherent lets s) :
    Guarded (peer.Records lets (.create name (.scanner spec))) (Orderly lets (.create name (.scanner spec)))
      (fun u _ => Coherent lets u) (c.pull spec.image).run s := by
  rw [Config.pull]
  have own : (Task.pull spec.image).startedBy (.create name (.scanner spec)) := ⟨name, spec, rfl, rfl⟩
  refine guarded_ask (coherent.look _) ?_
  intro seen t records
  have next := (coherent.look _).records records
  have heeded (atOnce : AtOnce lets) (image : String) (_ : Task.pull spec.image = .pull image) :=
    records.heeded atOnce
  have start : Guarded (peer.Records lets (.create name (.scanner spec)))
      (Orderly lets (.create name (.scanner spec))) (fun u _ => Coherent lets u)
      (Action.ask (.start (.pull spec.image) (Task.pullRequest c spec.image)) >>= fun _ =>
        throw (underWay spec.image) : Action Unit).run t := by
    have starts : Orderly lets (.create name (.scanner spec)) t
        (.start (.pull spec.image) (Task.pullRequest c spec.image)) := next.start own heeded
    refine guarded_ask starts ?_
    intro r v records
    exact starts.records records
  rcases seen with _ | (_ | f)
  · exact start
  · exact start
  · have failed := (records.task coherent).2 (by simp)
    have idle : t.site.background.tasks.get? (.pull spec.image) ≠ some .running := by simp [failed]
    have reports : (Task.pull spec.image).forgottenBy (.create name (.scanner spec)) := ⟨name, spec, rfl, rfl⟩
    have forget : Orderly lets (.create name (.scanner spec)) t (.forget (.pull spec.image)) :=
      next.forget reports idle heeded
    refine guarded_ask forget ?_
    intro r v forgets
    exact forget.records forgets

theorem createScanner_coherent {name : String} {spec : ScannerSpec} (coherent : Coherent lets s) :
    Guarded (peer.Records lets (.create name (.scanner spec))) (Orderly lets (.create name (.scanner spec)))
      (fun u _ => Coherent lets u) (c.createScanner name spec).run s := by
  rw [Config.createScanner]
  refine guarded_outcome (guarded_mono ?_
    ((onlyExchanges_discard _ _).coherent coherent (by simp)))
  intro t result next
  cases result with
  | ok u => exact (onlyExchanges_startOrDiscard c _ _).coherent next (by simp)
  | error f =>
    dsimp only
    cases Failure.hasStatus 404 f with
    | true => exact pull_coherent next
    | false => exact next

/-- Whatever a call is answered, the site stays in order, and every question of it is permitted. -/
theorem answer_coherent (coherent : Coherent lets s) :
    Guarded (peer.Records lets during) (Orderly lets during) (fun u _ => Coherent lets u)
      (c.answer during) s := by
  cases during with
  | observe kind name =>
    cases kind with
    | snapshot => exact observeSnapshot_coherent coherent
    | volume => exact (onlyExchanges_observeVolume c name).coherent coherent (by simp)
    | scanner => exact (onlyExchanges_observeScanner c name).coherent coherent (by simp)
    | networkInterface | stagedCopy => exact coherent
  | create name spec =>
    cases spec with
    | snapshot spec => exact createSnapshot_coherent coherent
    | volume spec => exact (onlyExchanges_createVolume c name spec).coherent coherent (by simp)
    | scanner spec => exact createScanner_coherent coherent
    | networkInterface spec => exact coherent
  | delete kind name =>
    cases kind with
    | snapshot => exact deleteSnapshot_coherent coherent
    | volume => exact (onlyExchanges_deleteVolume c name).coherent coherent (by simp)
    | scanner => exact (onlyExchanges_discard _ _).coherent coherent (by simp)
    | networkInterface | stagedCopy => exact coherent
  | listAssets => exact (onlyExchanges_listAssets c).coherent coherent (by simp)
  | grantAccess | revokeAccess | copyStatus | startCopy | deleteCopy => exact coherent

theorem Peer.Runs.coherent {es : List (Event host)} {e : Option during.Reply} (coherent : Coherent lets s)
    (run : peer.Runs lets c during s es e u) : Coherent lets u := by
  obtain ⟨trace, replies⟩ := run
  obtain ⟨-, -, ended⟩ := trace.guarded replies (answer_coherent coherent)
  rcases ended with ⟨call, orderly⟩ | ⟨r, kept⟩
  · exact orderly.coherent
  · exact kept

theorem Peer.Course.coherent (course : peer.Course lets c s u) (coherent : Coherent lets s) :
    Coherent lets u := by
  induction course with
  | rest => exact coherent
  | drift before drifts noted ih =>
    have next := ih.drift drifts
    rw [← noted] at next
    exact next
  | call before run ih => exact run.coherent ih

end

end ScanProvisioning.Docker
