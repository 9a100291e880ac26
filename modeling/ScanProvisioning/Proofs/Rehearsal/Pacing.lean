import ScanProvisioning.Proofs.Drive.Itinerary
import ScanProvisioning.Proofs.Rehearsal.Convergence
import ScanProvisioning.Venue

namespace ScanProvisioning.Rehearsal

open Program Pass

namespace Cloud

variable {α β : Type} {x : Pass α} {f : α → Pass β} {c : Cloud}

namespace Course

variable {course : Course} {pause : ResourceKind → Duration} {kind : ResourceKind} {kinds : List ResourceKind}

/-- The delays that are due for some kinds of resources, in the order in which they are waited. -/
def due (course : Course) (pause : ResourceKind → Duration) (c : Cloud) (kinds : List ResourceKind) :
    List Duration :=
  kinds.flatMap fun kind => List.replicate (course.left c kind) (pause kind)

theorem due_cons (c : Cloud) (kind : ResourceKind) (kinds : List ResourceKind) :
    course.due pause c (kind :: kinds) =
      List.replicate (course.left c kind) (pause kind) ++ course.due pause c kinds := rfl

theorem due_singleton (c : Cloud) (kind : ResourceKind) :
    course.due pause c [kind] = List.replicate (course.left c kind) (pause kind) := by
  simp [due]

private theorem length_due (c : Cloud) (kinds : List ResourceKind) :
    (course.due pause c kinds).length = course.total c kinds := by
  induction kinds with
  | nil => rfl
  | cons kind kinds ih => rw [due_cons, total_cons, List.length_append, List.length_replicate, ih]

/-- What a pass does not touch has the same delays due as before. -/
theorem due_congr {c' : Cloud} (pools : ∀ kind ∈ kinds, c'.pool kind = c.pool kind)
    (staging : course.area ∈ kinds → c'.staging = c.staging) :
    course.due pause c' kinds = course.due pause c kinds := by
  induction kinds with
  | nil => rfl
  | cons kind kinds ih =>
    rw [List.forall_mem_cons] at pools
    have own := course.local_left pools.1 fun area => staging (area ▸ .head kinds)
    rw [due_cons, due_cons, own, ih pools.2 fun member => staging (.tail kind member)]

/-- A pass that advances and, ending in a retry, takes the first of the delays that are due. -/
structure Paced (course : Course) (pause : ResourceKind → Duration) (kinds : List ResourceKind) (x : Pass α)
    (c : Cloud) : Prop extends course.Advances kinds x c where
  suggests : ∀ delay rest, course.due pause c kinds = delay :: rest →
    (∃ reason, (run x.run c).1 = .error (.retry delay reason)) ∧
    course.due pause (run x.run c).2 kinds = rest

/-- A pass over one kind of resource that suggests one delay only. -/
theorem paced_one (advances : course.Advances [kind] x c)
    (only : ∀ delay reason, (run x.run c).1 = .error (.retry delay reason) → delay = pause kind) :
    course.Paced pause [kind] x c where
  toAdvances := advances
  suggests := by
    intro delay rest ahead
    have some : course.total c [kind] ≠ 0 := by
      have count : (course.due pause c [kind]).length = course.total c [kind] := length_due c [kind]
      rw [← count, ahead]
      exact Nat.succ_ne_zero _
    obtain ⟨⟨suggested, reason, retry⟩, count⟩ := advances.waits some
    rw [total_singleton, total_singleton] at count
    rw [due_singleton, ← count, List.replicate_succ] at ahead
    obtain ⟨rfl, rfl⟩ := List.cons.inj ahead
    rw [retry, only suggested reason retry, due_singleton]
    exact ⟨⟨reason, rfl⟩, rfl⟩

theorem Paced.map {g : α → β} (first : course.Paced pause kinds x c) :
    course.Paced pause kinds (g <$> x) c where
  toAdvances := first.toAdvances.map
  suggests := by
    intro delay rest ahead
    obtain ⟨⟨reason, retry⟩, after⟩ := first.suggests delay rest ahead
    rw [run_map, retry]
    exact ⟨⟨reason, rfl⟩, after⟩

/-- Passes over different kinds of resources one after the other take the delays one after the other. -/
theorem Paced.bind (first : course.Paced pause [kind] x c) (fresh : kind ∉ kinds)
    (rest : ∀ a c', course.kept c c' → course.Paced pause kinds (f a) c') :
    course.Paced pause (kind :: kinds) (x >>= f) c where
  toAdvances := first.toAdvances.bind fresh fun a c' kept => (rest a c' kept).toAdvances
  suggests := by
    have apart {k : ResourceKind} (member : k ∈ kinds) : k ∉ [kind] := by
      intro same
      rw [List.mem_singleton] at same
      exact fresh (same ▸ member)
    have others : course.due pause (run x.run c).2 kinds = course.due pause c kinds :=
      due_congr (fun k member => first.pools k (apart member)) fun member => first.staging (apart member)
    intro delay tail ahead
    rw [due_cons] at ahead
    cases left : course.left c kind with
    | zero =>
      obtain ⟨⟨a, ok⟩, done⟩ := first.ends ((total_singleton course c kind).trans left)
      have there := done kind (List.mem_singleton_self kind)
      have goes : run (x >>= f).run c = run (f a).run (run x.run c).2 := run_bind_ok (Prod.ext ok rfl)
      have next := rest a _ first.kept
      have still : course.done (run (f a).run (run x.run c).2).2 kind :=
        course.local_done (next.pools kind fresh) (fun area => next.staging (area ▸ fresh)) there
      rw [left, List.replicate_zero, List.nil_append, ← others] at ahead
      rw [goes, due_cons, course.left_of_done still]
      exact next.suggests delay tail ahead
    | succ count =>
      rw [left, List.replicate_succ, List.cons_append] at ahead
      obtain ⟨rfl, rfl⟩ := List.cons.inj ahead
      have own : course.due pause c [kind] = pause kind :: List.replicate count (pause kind) := by
        rw [due_singleton, left, List.replicate_succ]
      obtain ⟨⟨reason, retry⟩, after⟩ := first.suggests _ _ own
      have stops : run (x >>= f).run c = (.error (.retry (pause kind) reason), (run x.run c).2) :=
        run_bind_error (Prod.ext retry rfl)
      rw [due_singleton] at after
      rw [stops, due_cons]
      dsimp only
      rw [after, others]
      exact ⟨⟨reason, rfl⟩, rfl⟩

end Course

section

variable {network : Bool} {polls : Nat} {job : Job} {timing : Timing} {store : Option StagingStore}

/-- How long a build pass suggests to wait for a resource of a kind. -/
def estimate (timing : Timing) : ResourceKind → Duration
  | .snapshot => timing.snapshot
  | .volume => timing.volume
  | .networkInterface => timing.network
  | .scanner => timing.scanner
  | .stagedCopy => timing.copy

/-- Making sure of a resource whose source is at hand suggests its estimate and no other delay. -/
theorem ensure_pauses {kind : ResourceKind} {time : Duration} {spec : ResourceSpec} (own : spec.kind = kind)
    (member : kind ∈ creationOrder network) (build : Buildable network polls job c) (delay : Duration)
    (reason : String) (retry : (run (ensure kind (job.names.of kind) time (pure spec)).run c).1 =
      .error (.retry delay reason)) : delay = time := by
  subst own
  have real : spec.kind ≠ .stagedCopy := by cases spec <;> exact nofun
  obtain ⟨q, moved, told⟩ := run_ensure real (build.looks spec.kind) (job.names.of spec.kind) time (pure spec)
  rcases Stage.build_cases polls (build.sound spec.kind member) with
    ⟨shows, -⟩ | ⟨shows, -⟩ | ⟨shows, absent, -⟩
  · rw [shows] at told
    obtain ⟨handle, ran⟩ := told
    rw [ran] at retry
    cases retry
  · rw [shows] at told
    obtain ⟨reason', ran⟩ := told
    rw [ran] at retry
    cases retry
    rfl
  · have goes : run (ensure spec.kind (job.names.of spec.kind) time (pure spec)).run c =
        run (creation spec.kind (job.names.of spec.kind) time spec).run (c.withPool spec.kind q) := by
      rcases shows with shows | shows <;> rw [shows] at told <;> exact told
    have calm : ((c.withPool spec.kind q).pool spec.kind).createFailure = none := by
      rw [pool_withPool real, moved.createFailure, build.creations]
    have after : (c.withPool spec.kind q).stage spec.kind (job.names.of spec.kind) =
        Stage.looked (c.stage spec.kind (job.names.of spec.kind)) := stage_withPool real moved
    rw [← after] at absent
    obtain ⟨q', reason', ran, -⟩ := run_creation (job.names.of spec.kind) time calm absent
    rw [goes, ran] at retry
    cases retry
    rfl

theorem ensureNetworkInterface_paced (build : Buildable true polls job c) :
    (building true polls job).Paced (estimate timing) [.networkInterface]
      (ensureNetworkInterface timing job) c :=
  Course.paced_one (ensureNetworkInterface_advances build) (ensure_pauses rfl (by decide) build)

section

variable (near : job.crossesRegions = false) (build : Buildable network polls job c)

include build

theorem ensureSnapshot_paced :
    (building network polls job).Paced (estimate timing) [.snapshot] (ensureSnapshot timing job) c := by
  have member : ResourceKind.snapshot ∈ creationOrder network := by cases network <;> decide
  exact Course.paced_one (ensureSnapshot_advances build) (ensure_pauses rfl member build)

theorem ensureScanner_paced {volume : Handle} {networkInterface : Option Handle} :
    (building network polls job).Paced (estimate timing) [.scanner]
      (ensureScanner timing job volume networkInterface) c := by
  have member : ResourceKind.scanner ∈ creationOrder network := by cases network <;> decide
  exact Course.paced_one (ensureScanner_advances build) (ensure_pauses rfl member build)

include near

theorem ensureVolume_paced {snapshot : Handle} :
    (building network polls job).Paced (estimate timing) [.volume] (ensureVolume timing job
      (volumeSource (if job.crossesRegions then some Cloud.store else none) timing job snapshot)) c := by
  have member : ResourceKind.volume ∈ creationOrder network := by cases network <;> decide
  have advances : (building network polls job).Advances [.volume] (ensureVolume timing job
      (volumeSource (if job.crossesRegions then some Cloud.store else none) timing job snapshot)) c :=
    ensureVolume_advances build
  rw [near] at advances ⊢
  refine Course.paced_one advances ?_
  have own : (ResourceSpec.volume (job.volumeSpec (.snapshot snapshot))).kind = .volume := rfl
  exact ensure_pauses own member build

/-- A build pass within a region takes the delays in the order in which the resources are created. -/
theorem build_paced : (building network polls job).Paced (estimate timing) (creationOrder network)
    (Pass.build (facilities network) timing job) c := by
  rw [Pass.build, stagingFor_facilities, pure_bind]
  cases network with
  | true =>
    refine (ensureSnapshot_paced build).bind (by decide) fun snapshot c₁ steady₁ => ?_
    have build₁ := steady₁.buildable build
    refine (ensureVolume_paced near build₁).bind (by decide) fun volume c₂ steady₂ => ?_
    have build₂ := steady₂.buildable build₁
    refine (ensureNetworkInterface_paced build₂).map.bind (by decide) fun nic c₃ steady₃ => ?_
    exact (ensureScanner_paced (steady₃.buildable build₂)).map
  | false =>
    refine (ensureSnapshot_paced build).bind (by decide) fun snapshot c₁ steady₁ => ?_
    have build₁ := steady₁.buildable build
    refine (ensureVolume_paced near build₁).bind (by decide) fun volume c₂ steady₂ => ?_
    exact (ensureScanner_paced (steady₂.buildable build₁)).map

end

theorem buildable_empty (network : Bool) (polls : Nat) (job : Job) :
    Buildable network polls job (empty polls) where
  looks kind := by cases kind <;> rfl
  creations kind := by cases kind <;> rfl
  provisioning kind real := by cases kind <;> first | rfl | exact absurd rfl real
  sound kind _ := by cases kind <;> exact nofun
  staging := ⟨rfl, rfl, rfl, rfl, nofun⟩

/-- The delays that are waited until a scanner runs in an account that was empty: each resource takes as
many as it takes looks, and one for its creation. -/
def delaysFrom (network : Bool) (polls : Nat) (timing : Timing) : List Duration :=
  (creationOrder network).flatMap fun kind => List.replicate (polls + 1) (estimate timing kind)

theorem due_empty (near : job.crossesRegions = false) :
    (building network polls job).due (estimate timing) (empty polls) (creationOrder network) =
      delaysFrom network polls timing := by
  have left (kind : ResourceKind) : (building network polls job).left (empty polls) kind = polls + 1 := by
    have unstaged : waiting polls job (empty polls) kind = 0 := by
      apply waiting_eq_zero
      intro _
      rw [toStage, near, Bool.false_and]
    have whole : Stage.buildPasses polls ((empty polls).stage kind (job.names.of kind)) = polls + 1 := by
      cases kind <;> rfl
    rw [left_building, unstaged, whole]
  rw [Course.due, delaysFrom]
  simp only [left]

/-- The estimates for the resources of a job, put together. -/
def estimates (network : Bool) (timing : Timing) : Nat :=
  timing.snapshot.nanos + timing.volume.nanos + timing.scanner.nanos +
    if network then timing.network.nanos else 0

private theorem length_delaysFrom :
    (delaysFrom network polls timing).length = (3 + network.toNat) * (polls + 1) := by
  cases network <;> simp [delaysFrom, creationOrder] <;> omega

private theorem span_delaysFrom :
    Drive.span (delaysFrom network polls timing) = (polls + 1) * estimates network timing := by
  cases network <;>
    simp [delaysFrom, creationOrder, estimates, estimate, Drive.span_append, Drive.span_replicate,
      Nat.mul_add] <;>
    omega

variable {policy : RetryPolicy} {origin : Instant}

/-- The delays under a policy, from an instant on. -/
def journey (network : Bool) (polls : Nat) (timing : Timing) (policy : RetryPolicy) (origin : Instant) :
    Drive.Itinerary where
  policy := policy
  delays := delaysFrom network polls timing
  origin := origin

/-- A cloud provider on a simulated account. -/
def provider (network : Bool) (store : Option StagingStore) (timing : Timing) : Provider where
  kind := .azure
  facilities := { hasNetwork := network, store }
  timing := timing

/-- A job driven to a running scanner, on an account that is empty at first. -/
def driven (network : Bool) (store : Option StagingStore) (polls : Nat) (timing : Timing)
    (policy : RetryPolicy) (job : Job) (origin : Instant) : Ending (Except Drive.Failed Drive.Success) :=
  ((Venue.prompt answer).drive policy .run job.scanId ((provider network store timing).pass .run job)
    { now := origin, state := empty polls }).1

/-- Within a region nothing is staged, and so it does not matter where copies would go. -/
theorem pass_near (machine : job.target.kind = .virtualMachine) (near : job.crossesRegions = false) :
    (provider network store timing).pass .run job = Pass.build (facilities network) timing job := by
  have accepted : (provider network store timing).kind.accept .run job = .ok () := if_pos machine
  have unstaged (f : Facilities) : stagingFor f job = pure none := by
    rw [stagingFor, near]
    rfl
  rw [Provider.pass, accepted]
  dsimp only [ofPhase, provider]
  rw [Pass.build, Pass.build, unstaged, unstaged]
  rfl

theorem journey_length : (journey network polls timing policy origin).delays.length =
    (3 + network.toNat) * (polls + 1) := length_delaysFrom

theorem journey_waited : (journey network polls timing policy origin).waited
    ((3 + network.toNat) * (polls + 1)) = (polls + 1) * estimates network timing := by
  have whole : delaysFrom network polls timing = (delaysFrom network polls timing).take
      ((3 + network.toNat) * (polls + 1)) := by
    rw [← @length_delaysFrom network polls timing, List.take_length]
  rw [← span_delaysFrom, whole, Drive.Itinerary.waited]
  rfl

theorem invoke_prompt (pass : Pass Unit) (s : Clocked Cloud) :
    Drive.invoke ((Venue.prompt answer).setting pass) policy .run s =
      (.value (run pass.run s.state).1, { s with state := (run pass.run s.state).2 }) := rfl

/-- Simulated surroundings in which each call runs one build pass. -/
def surroundings (network : Bool) (timing : Timing) (job : Job) : Drive.Setting (Clocked Cloud) :=
  (Venue.prompt answer).setting (Pass.build (facilities network) timing job)

/-- An account on its way from an empty one. -/
def Rising (network : Bool) (polls : Nat) (job : Job) (s : Clocked Cloud) : Prop :=
  Steady network polls job (empty polls) s.state

/-- The delays that are still due. -/
def agenda (network : Bool) (polls : Nat) (timing : Timing) (job : Job) (s : Clocked Cloud) : List Duration :=
  (building network polls job).due (estimate timing) s.state (creationOrder network)

/-- Build passes follow the delays that are due. -/
theorem build_follows (near : job.crossesRegions = false) :
    Drive.Follows (surroundings network timing job) policy .run (Rising network polls job)
      (agenda network polls timing job) := by
  have paced (s : Clocked Cloud) (rising : Rising network polls job s) :
      (building network polls job).Paced (estimate timing) (creationOrder network)
        (Pass.build (facilities network) timing job) s.state :=
    build_paced near (rising.buildable (buildable_empty network polls job))
  constructor
  case ends =>
    intro s rising nothing
    have count : (agenda network polls timing job s).length =
        (building network polls job).total s.state (creationOrder network) := Course.length_due _ _
    rw [nothing] at count
    obtain ⟨⟨⟨⟩, ok⟩, -⟩ := (paced s rising).ends count.symm
    rw [surroundings, invoke_prompt, ok]
    exact ⟨_, rfl, rfl⟩
  case waits =>
    intro s delay rest rising ahead
    have here := paced s rising
    obtain ⟨⟨reason, retry⟩, after⟩ := here.suggests delay rest ahead
    rw [surroundings, invoke_prompt, retry]
    exact ⟨reason, _, rfl, rfl, fun wake => ⟨rfl, rising.trans here.kept, after⟩⟩

/-- Driving a job within a region succeeds exactly where attempts and time suffice for one pass for each look
and each creation and for all the delays between them, and takes just these. Otherwise it gives up. -/
theorem build_driven (machine : job.target.kind = .virtualMachine) (near : job.crossesRegions = false)
    (sums : (journey network polls timing policy origin).SumsFit)
    (waits : (journey network polls timing policy origin).WaitsFit) :
    ∃ result, driven network store polls timing policy job origin = .value result ∧
      ((∃ success, result = .ok success) ↔
        (3 + network.toNat) * (polls + 1) + 1 ≤ policy.maxAttempts.toNat ∧
          (polls + 1) * estimates network timing ≤ policy.maxElapsed.nanos) ∧
      (∀ success, result = .ok success → success.phase = .run ∧
        success.attempts = (3 + network.toNat) * (polls + 1) + 1 ∧
          success.elapsed.nanos = (polls + 1) * estimates network timing) ∧
      ∀ failed, result = .error failed → ∃ attempts elapsed reason,
        failed = .exhausted .run job.scanId.text attempts elapsed reason := by
  have follows : Drive.Follows (surroundings network timing job) policy .run (Rising network polls job)
      (agenda network polls timing job) := build_follows near
  have opening : (journey network polls timing policy origin).Here (surroundings network timing job)
      (Rising network polls job) (agenda network polls timing job) 0
      { now := origin, state := empty polls } := ⟨Steady.refl _, due_empty near, rfl⟩
  obtain ⟨result, s', ran, succeeds, success, failure⟩ := Drive.Itinerary.operation_follows
    job.scanId.text follows sums waits opening
  rw [journey_length, journey_waited] at succeeds success
  refine ⟨result, ?_, ?_, success, failure⟩
  · rw [driven, pass_near machine near]
    exact congrArg Prod.fst ran
  · rw [succeeds]
    have several : 1 ≤ (3 + network.toNat) * (polls + 1) := Nat.mul_pos (by omega) (Nat.succ_pos polls)
    have limit : (journey network polls timing policy origin).policy = policy := rfl
    rw [limit]
    omega

end

section

/-- Limits that are just enough for two looks at everything. -/
def sufficient : RetryPolicy where
  maxAttempts := 13
  maxElapsed := .ofSeconds 1125
  callTimeout := .ofSeconds 120
  timeoutDelay := .ofSeconds 30

theorem build_driven_sufficient :
    (sampleJob false).target.kind = .virtualMachine ∧ (sampleJob false).crossesRegions = false ∧
    (journey true 2 .cloud sufficient 0).SumsFit ∧ (journey true 2 .cloud sufficient 0).WaitsFit ∧
    ∃ success, driven true (some store) 2 .cloud sufficient (sampleJob false) 0 = .value (.ok success) ∧
      success.attempts = 13 ∧ success.elapsed.nanos = 1125000000000 := by
  have near : (sampleJob false).crossesRegions = false := by decide +kernel
  have sums : (journey true 2 .cloud sufficient 0).SumsFit :=
    Drive.Itinerary.sumsFit_of_span (by decide +kernel)
  have waits : (journey true 2 .cloud sufficient 0).WaitsFit :=
    Drive.Itinerary.waitsFit_of_span (by decide +kernel)
  obtain ⟨result, ran, succeeds, success, -⟩ :=
    @build_driven true 2 (sampleJob false) .cloud (some store) sufficient 0 rfl near sums waits
  obtain ⟨reached, rfl⟩ := succeeds.mpr (by decide +kernel)
  obtain ⟨-, attempts, elapsed⟩ := success reached rfl
  exact ⟨rfl, near, sums, waits, reached, ran, attempts, elapsed⟩

/-- A snapshot that is to be waited for longer than the clock goes on. -/
def belated : Timing := { Timing.cloud with snapshot := .ofSeconds 9223372036854775808 }

/-- Limits that are just enough for it. -/
def patient : RetryPolicy where
  maxAttempts := 4
  maxElapsed := .ofSeconds 9223372036854776048
  callTimeout := .ofSeconds 120
  timeoutDelay := .ofSeconds 30

/-- What an operation that has succeeded comes to. -/
def succeeded : Ending (Except Drive.Failed Drive.Success) → Option Drive.Success
  | .value (.ok success) => some success
  | _ => none

private theorem eq_of_succeeded {ending : Ending (Except Drive.Failed Drive.Success)} {success : Drive.Success}
    (ok : succeeded ending = some success) : ending = .value (.ok success) := by
  cases ending with
  | value result =>
    cases result with
    | ok other =>
      cases ok
      rfl
    | error failed => cases ok
  | cut | overflow | unending => cases ok

/-- Such a wait is over after thirty years, and the operation succeeds sooner than its delays add up to. -/
theorem build_driven_belated :
    (sampleJob false).target.kind = .virtualMachine ∧ (sampleJob false).crossesRegions = false ∧
    (journey false 0 belated patient 0).SumsFit ∧
    ∃ success, driven false none 0 belated patient (sampleJob false) 0 = .value (.ok success) ∧
      success.elapsed = .ofSeconds 946080240 ∧
      success.elapsed.nanos ≠ (0 + 1) * estimates false belated := by
  have ended : succeeded (driven false none 0 belated patient (sampleJob false) 0) =
      some { phase := .run, attempts := 4, elapsed := .ofSeconds 946080240 } := by decide +kernel
  have sums : (journey false 0 belated patient 0).SumsFit :=
    Drive.Itinerary.sumsFit_of_span (by decide +kernel)
  exact ⟨rfl, by decide +kernel, sums, _, eq_of_succeeded ended, rfl, by decide +kernel⟩

end

end Cloud

end ScanProvisioning.Rehearsal
