import ScanProvisioning.Proofs.Docker.Progress

namespace ScanProvisioning

namespace Pass

open Program

variable {α β : Type} {before es : List (Event clients)} {kind : ResourceKind} {name : String}

/-- If a look sees something that is still being made, that is what the pass ends in. -/
def WaitsFor (result : Except Setback α) (ev : Event clients) : Prop :=
  ∀ kind name seen, ev = ⟨.observe kind name, .ok seen⟩ → seen.state = .provisioning →
    ∃ delay, result = .error (.retry delay
      (label kind name ++ " is not ready yet, provisioning state: " ++ seen.status))

private theorem WaitsFor.go_on {ev : Event clients} {a : α} {result : Except Setback β}
    (waits : WaitsFor (.ok a : Except Setback α) ev) : WaitsFor result ev := by
  intro kind name seen same provisioning
  obtain ⟨delay, stopped⟩ := waits kind name seen same provisioning
  cases stopped

theorem WaitsFor.map {ev : Event clients} {result : Except Setback α} (waits : WaitsFor result ev)
    (f : α → β) : WaitsFor (result.map f) ev := by
  intro kind name seen same provisioning
  obtain ⟨delay, rfl⟩ := waits kind name seen same provisioning
  exact ⟨delay, rfl⟩

theorem waitsFor_look {r : Except Failure Observation} {result : Except Setback α}
    (last : ∀ seen, r = .ok seen → seen.state = .provisioning → ∃ delay, result = .error (.retry delay
      (label kind name ++ " is not ready yet, provisioning state: " ++ seen.status))) :
    WaitsFor result ⟨.observe kind name, r⟩ := by
  intro kind' name' seen same provisioning
  cases same
  exact last seen rfl provisioning

theorem ensure_waits {estimate : Duration} {spec : Pass ResourceSpec} {made : ResourceSpec} {a : α}
    (settled : spec.run = .done (.ok made)) (clear : ∀ ev ∈ before, WaitsFor (.ok a : Except Setback α) ev) :
    Guarded recording anything (fun es result => ∀ ev ∈ es, WaitsFor result ev)
      (ensure kind name estimate spec).run before := by
  have upTo {r : Except Failure Observation} {result : Except Setback Handle}
      (last : WaitsFor result ⟨.observe kind name, r⟩) :
      ∀ ev ∈ before ++ [⟨.observe kind name, r⟩], WaitsFor result ev := by
    refine List.forall_mem_append.mpr ⟨fun ev mem => (clear ev mem).go_on, ?_⟩
    simpa using last
  rw [ensure]
  refine guarded_step (observe_run kind name) trivial ?_ ?_
  · intro r es e recorded failed
    cases recorded
    obtain ⟨f, rfl, -⟩ := unlessMissing_eq_error failed
    exact upTo (waitsFor_look (by simp))
  · intro r es found recorded looked
    cases recorded
    cases found with
    | some seen =>
      obtain ⟨seen', rfl, same⟩ | ⟨f, -, -, none⟩ := unlessMissing_eq_ok looked
      · have same : seen' = seen := by
          split at same
          · cases same
          · exact Option.some.inj same
        subst same
        refine upTo (waitsFor_look ?_)
        intro seen same provisioning
        cases same
        exact ⟨estimate, by rw [requireReady, provisioning]⟩
      · cases none
    | none =>
      have unlike : ∀ seen, r = .ok seen → seen.state ≠ .provisioning := by
        intro seen same provisioning
        subst same
        simp [unlessMissing, provisioning] at looked
      have quiet {result : Except Setback Handle} : WaitsFor result ⟨.observe kind name, r⟩ :=
        waitsFor_look fun seen same provisioning => absurd provisioning (unlike seen same)
      refine guarded_bindExcept ?_
      rw [settled]
      refine guarded_ask trivial ?_
      intro r' es recorded
      cases recorded
      have after {result : Except Setback Handle} :
          ∀ ev ∈ before ++ [⟨.observe kind name, r⟩] ++ [⟨.create name made, r'⟩], WaitsFor result ev := by
        refine List.forall_mem_append.mpr ⟨upTo quiet, ?_⟩
        intro ev mem kind' name' seen same
        cases (List.mem_singleton.mp mem).symm.trans same
      rcases r' with f | ⟨⟩
      · exact after
      · exact after

end Pass

namespace Docker

open Program Rehearsal

/-- A run ends in what it sees as still being made. -/
theorem run_waits (job : Job) : Guarded recording Program.anything
    (fun es result => ∀ ev ∈ es, Pass.WaitsFor result ev) (provider.pass .run job).run [] := by
  cases accepted : provider.kind.accept .run job with
  | error e =>
    rw [Provider.pass, accepted]
    exact guarded_throw (by simp)
  | ok u =>
    rw [pass_run_eq accepted, runSteps]
    refine guarded_bindExcept (guarded_mono ?_ (Pass.ensure_waits (a := ()) rfl (by simp)))
    intro es result waits
    cases result with
    | error e => exact fun ev mem => (waits ev mem).map fun _ => ()
    | ok snapshot =>
      refine guarded_bindExcept (guarded_mono ?_ (Pass.ensure_waits rfl waits))
      intro es result waits
      cases result with
      | error e => exact fun ev mem => (waits ev mem).map fun _ => ()
      | ok volume =>
        refine guarded_mapExcept (guarded_mono ?_ (Pass.ensure_waits rfl waits))
        exact fun es result waits ev mem => (waits ev mem).map _

section

variable {c : Config} {job : Job} {faults : Faults} {p : Part} {s t : Site Inventory}
  {es : List (Event clients)} {result : Except Setback Unit}

/-- A run comes to look at what a container belongs to. -/
def Reaches (job : Job) (p : Part) (es : List (Event clients)) : Prop :=
  ∃ r, (⟨.observe p.kind (job.names.of p.kind), r⟩ : Event clients) ∈ es

/-- What a run ends in that takes a container for one that is about to start. -/
def aboutToStart (job : Job) (p : Part) (delay : Duration) : Setback :=
  .retry delay (Pass.label p.kind (job.names.of p.kind) ++ " is not ready yet, provisioning state: " ++
    (p.heading ++ "created"))

/-- Where nothing fails, a run that reaches a container that has not been started asks to come back. -/
theorem Peer.Makes.about_to_start (built : ∀ op : Op, ∃ request, op.draft c job = .ok request)
    (sound : Sound c job s) (created : s.status job p = some .created)
    (makes : (engine c job calm).Makes c .run job s es (some result) t) (reaches : Reaches job p es) :
    ∃ delay, result = .error (aboutToStart job p delay) := by
  obtain ⟨r, mem⟩ := reaches
  cases makes with
  | whole run replies =>
    have waits := (run.lawful (run_waits job)).2 result rfl _ mem
    obtain ⟨before, after, rfl⟩ := List.append_of_mem mem
    obtain ⟨u, first, rest⟩ := exchanged_append replies
    cases rest with
    | cons treats others =>
      have kept := replies_kept calm_tame sound run.take first
      have observed := treats.observed calm_tame kept.sound
      have still := kept.stays rfl p created
      cases r with
      | ok seen =>
        obtain ⟨provisioning, status⟩ := observed.created still seen rfl
        obtain ⟨delay, ends⟩ := waits _ _ seen rfl provisioning
        rw [status] at ends
        exact ⟨delay, ends⟩
      | error f =>
        by_cases missing : f.verdict = .missing
        · cases (observed.absent missing).symm.trans still
        · obtain ⟨op, ⟨g, unbuilt⟩ | ⟨reply, fails⟩⟩ := observed.failed f rfl missing
          · obtain ⟨request, asks⟩ := built op
            cases unbuilt.symm.trans asks
          · exact fails.elim

/-- What runs of a job do about containers that have been created and not started. -/
structure Stranding (c : Config) (job : Job) (s : Site Inventory) : Prop where
  /-- No run starts or removes one that it finds, whatever fails in it and wherever it is cut off. -/
  stays : ∀ p t, s.status job p = some .created → (engine c job faulty).Life c (· = .run) job s t →
    t.status job p = some .created
  /-- A run in which nothing fails asks to come back where it reaches one. -/
  reported : (∀ op : Op, ∃ request, op.draft c job = .ok request) → ∀ p es result t,
    s.status job p = some .created → (engine c job calm).Makes c .run job s es (some result) t →
    Reaches job p es → ∃ delay, result = .error (aboutToStart job p delay)
  /-- A run that is not cut off leaves one behind only where it could neither be started nor removed. -/
  arises : ∀ (faults : Faults) p es result t, faults.Tame →
    (engine c job faults).Makes c .run job s es (some result) t → t.status job p = some .created →
    s.status job p = some .created ∨ Stuck c job faults p

/-- Wherever runs of a job may come to, whatever fails in them and wherever they are cut off. -/
theorem life_stranding {e : Inventory}
    (filled : e.containers.get? (Part.filler.name job) ≠ none → job.names.volume ∈ e.volumes)
    (life : (engine c job faulty).Life c (· = .run) job ⟨e, {}⟩ s) : Stranding c job s := by
  have sound := life.sound faulty_tame (sound_fresh filled)
  constructor
  case stays => exact fun p t created life => (life.standing faulty_tame sound).stays rfl p created
  case reported => exact fun built p es result t created makes => makes.about_to_start built sound created
  case arises => exact fun faults p es result t tame makes => (makes.kept tame sound).arises rfl p

/-- A filler that has been created, where nothing else has been made but the volume. -/
def strandedFiller (job : Job) : Inventory where
  images := [job.names.snapshot]
  volumes := [job.names.volume]
  containers := ({} : Registry String Status).set (Part.filler.name job) .created

/-- The creation of a volume may be left with a filler that can be neither started nor removed. -/
theorem Workable.leaves_filler {spec : VolumeSpec} {b : Background} (workable : Workable c job)
    (source : spec.source = .snapshot ⟨job.names.snapshot, imageId job.names.snapshot⟩) :
    (engine c job faulty).Treats c ⟨{ images := [job.names.snapshot] }, b⟩
      (.create job.names.volume (.volume spec)) (.error (refusal "creating volume" 500 ""))
      ⟨strandedFiller job, b⟩ := by
  let site (e : Inventory) : Site Inventory := ⟨e, b⟩
  let volume : Inventory := { images := [job.names.snapshot], volumes := [job.names.volume] }
  have fails (op : Op) : faulty op (.ok (plainResponse 500)) := .inl ⟨by decide, by decide, by decide⟩
  have unmade : (Op.make .filler (imageId job.names.snapshot)).refusal? job volume = none := by
    simp [Op.refusal?, volume, Inventory.knows, Registry.get?_empty]
  have makesVolume : Leads (engine c job faulty).Meets (discard (Engine.send "creating volume"
      (Op.makeVolume.draft c job))).run (site { images := [job.names.snapshot] }) (.ok ()) (site volume) :=
    workable.leads_plain rfl rfl
  have makesFiller : Leads (engine c job faulty).Meets (discard (Engine.send "creating volume"
      ((Op.make .filler (imageId job.names.snapshot)).draft c job))).run (site volume) (.ok ())
      (site (strandedFiller job)) := workable.leads_plain unmade rfl
  have starts : Leads (engine c job faulty).Meets (Engine.send "creating volume"
      ((Op.start .filler).draft c job)).run (site (strandedFiller job))
      (.error (refusal "creating volume" 500 "")) (site (strandedFiller job)) :=
    workable.leads_refused (.inr (fails _)) rfl
  have removes : Leads (engine c job faulty).Meets (Engine.send "removing unstarted container"
      ((Op.remove .filler).draft c job)).run (site (strandedFiller job))
      (.error (refusal "removing unstarted container" 500 "")) (site (strandedFiller job)) :=
    workable.leads_refused (.inr (fails _)) rfl
  change Leads _ (c.createVolume job.names.volume spec).run _ _ _
  rw [Config.createVolume, source]
  refine leads_bindExcept makesVolume ?_
  refine leads_bindExcept (leads_bindExcept (leads_outcome makesFiller) (leads_done _ _)) ?_
  refine leads_bindExcept (leads_outcome (leads_mapExcept starts)) ?_
  refine leads_bindExcept (leads_mapExcept (leads_outcome (leads_mapExcept removes))) ?_
  exact leads_done _ _

private theorem Workable.strands {b : Background} {r : Http.Response} {v : Json} (workable : Workable c job)
    (describes : Describes r v) (shown : v.string? "Id" = some (imageId job.names.snapshot))
    (idle : b.tasks.get? (.commit job.names.snapshot) = none) : ∃ es result,
    (engine c job faulty).Makes c .run job ⟨{ images := [job.names.snapshot] }, b⟩ es (some result)
      ⟨strandedFiller job, b⟩ := by
  have known : ({ images := [job.names.snapshot] } : Inventory).knows job.names.snapshot = true :=
    Inventory.knows_of_mem (.head _)
  have noVolume : Lacks job ⟨{ images := [job.names.snapshot] }, b⟩ .volume := by simp [Lacks]
  obtain ⟨f, missing, look⟩ := workable.misses faulty noVolume
  have found := workable.finds_snapshot (s := ⟨{ images := [job.names.snapshot] }, b⟩) faulty describes shown
    idle known
  obtain ⟨es, run, replies⟩ := workable.leads_run_volume (Pass.leads_ensure_found (by simp) found)
    (Pass.leads_ensure_missing missing rfl look (workable.leaves_filler rfl))
  exact ⟨es, _, .whole run replies⟩

/-- A run in which nothing fails looks at the filler that stands there. -/
theorem Workable.looks_at_filler {b : Background} {r r' : Http.Response} {v v' : Json}
    (workable : Workable c job)
    (describes : Describes r v) (shown : v.string? "Id" = some (imageId job.names.snapshot))
    (describes' : Describes r' v') (named : ∃ id, v'.string? "Id" = some id)
    (shown' : Status.created.ShownBy v')
    (idle : b.tasks.get? (.commit job.names.snapshot) = none) : ∃ es result,
    (engine c job calm).Makes c .run job ⟨strandedFiller job, b⟩ es (some result)
      ⟨strandedFiller job, b⟩ ∧ Reaches job .filler es := by
  have known : (strandedFiller job).knows job.names.snapshot = true := Inventory.knows_of_mem (.head _)
  have stands : Site.status job ⟨strandedFiller job, b⟩ .filler = some .created := by
    simp [Site.status, strandedFiller, Registry.get?_set]
  let image : Handle := ⟨job.names.snapshot, imageId job.names.snapshot⟩
  let volume : Handle := ⟨job.names.volume, job.names.volume⟩
  have ready : Trace (Pass.ensureSnapshot provider.timing job).run
      [⟨.observe .snapshot job.names.snapshot, .ok ⟨image, .ready, "committed"⟩⟩] (some (.ok image)) :=
    Pass.trace_ensure_found (by simp)
  have waits : Trace (Pass.ensureVolume provider.timing job (pure (.snapshot image))).run
      [⟨.observe .volume job.names.volume, .ok ⟨volume, .provisioning, "populate created"⟩⟩]
      (some (Pass.requireReady .volume job.names.volume provider.timing.volume
        ⟨volume, .provisioning, "populate created"⟩)) :=
    Pass.trace_ensure_found (by simp)
  have run := workable.trace_run_volume ready waits
  have found := workable.finds_snapshot (s := ⟨strandedFiller job, b⟩) calm describes shown idle known
  have found' := workable.finds_filler calm describes' named shown' (List.mem_singleton.mpr rfl) stands
  exact ⟨_, _, .whole run (.cons found (.cons found' (.nil _))), ⟨_, .tail _ (.head _)⟩⟩

end

/-- A description of a container that has been created and not started. -/
def createdContainer : Http.Response where
  status := 200
  headers := []
  body := .ok "\x7b\"Id\":\"f1\",\"State\":\x7b\"Status\":\"created\",\"ExitCode\":0\x7d\x7d"

theorem createdContainer_described : ∃ v, Describes createdContainer v ∧
    (∃ id, v.string? "Id" = some id) ∧ Status.created.ShownBy v := by
  have reads : createdContainer.json.toOption.map (fun v => (v.string? "Id", status? v, exitCode? v)) =
      some (some "f1", some "created", some 0) := by decide +kernel
  obtain ⟨v, read, shown⟩ := exists_of_json reads
  obtain ⟨id, stands, code⟩ := Prod.mk.inj shown |>.imp id Prod.mk.inj
  exact ⟨v, ⟨.inl (by decide), read⟩, ⟨_, id⟩, stands, code⟩

/-- Runs of the sample job come to leave a filler behind that has not been started. -/
theorem exists_stranded : ∃ b : Background,
    b.tasks.get? (.commit sampleContainerJob.names.snapshot) = none ∧
    (engine sampleConfig sampleContainerJob faulty).Life sampleConfig (· = .run) sampleContainerJob ⟨{}, {}⟩
      ⟨strandedFiller sampleContainerJob, b⟩ := by
  obtain ⟨v, describes, shown⟩ := sampleImage_described
  obtain ⟨s, life, made, idle⟩ := workable_sample.takes_snapshot faulty (· = .run) rfl
  obtain ⟨e, b⟩ := s
  cases made
  obtain ⟨es, result, makes⟩ := workable_sample.strands describes shown idle
  exact ⟨b, idle, .pass life rfl makes⟩

/-- A filler that could be neither started nor removed keeps standing there. -/
theorem life_stranding_filler : ∃ s, s.status sampleContainerJob .filler = some .created ∧
    (engine sampleConfig sampleContainerJob faulty).Life sampleConfig (· = .run) sampleContainerJob ⟨{}, {}⟩ s ∧
    Stranding sampleConfig sampleContainerJob s := by
  obtain ⟨b, -, life⟩ := exists_stranded
  refine ⟨_, ?_, life, life_stranding (by simp [Registry.get?_empty]) life⟩
  simp [Site.status, strandedFiller, Registry.get?_set]

/-- A run in which nothing fails starts or removes a container that earlier runs have left unstarted, if it
reaches it. -/
def Recovers (c : Config) (job : Job) : Prop :=
  (∀ op : Op, ∃ request, op.draft c job = .ok request) → ∀ s p es result t,
    (engine c job faulty).Life c (· = .run) job ⟨{}, {}⟩ s → s.status job p = some .created →
    (engine c job calm).Makes c .run job s es (some result) t → Reaches job p es →
    t.status job p ≠ some .created

/-- A filler that could be neither started nor removed is looked at, and left as it is. -/
theorem not_recovers : ¬ Recovers sampleConfig sampleContainerJob := by
  intro recovers
  obtain ⟨v, describes, shown⟩ := sampleImage_described
  obtain ⟨v', describes', named, shown'⟩ := createdContainer_described
  obtain ⟨b, idle, life⟩ := exists_stranded
  obtain ⟨es, result, makes, reaches⟩ := workable_sample.looks_at_filler describes shown describes' named
    shown' idle
  have created : (strandedFiller sampleContainerJob).containers.get? (Part.filler.name sampleContainerJob) =
      some .created := by simp [strandedFiller, Registry.get?_set]
  exact recovers workable_sample.built _ .filler es result _ life created makes reaches created

end Docker

end ScanProvisioning
