import ScanProvisioning.Proofs.Rehearsal.Stages
import ScanProvisioning.Proofs.Rehearsal.Staging

namespace ScanProvisioning.Rehearsal

open Program Pass

namespace Stage

/-- Whether a resource has still to be created, once what is being deleted is gone. -/
def unmade : Option Stage → Bool
  | none => true
  | some partly => true
  | some (deleting _) => true
  | _ => false

/-- How many build passes end short of a resource that is in a stage. -/
def buildPasses (polls : Nat) : Option Stage → Nat
  | none => polls + 1
  | some partly => polls + 1
  | some (deleting left) => left + polls + 1
  | some (provisioning left) => left
  | some ready => 0
  | some failed => 0

/-- A resource that has not failed is ready, comes one look nearer to what it is waiting for, or is to be
created. -/
theorem build_cases (polls : Nat) {s : Option Stage} (sound : s ≠ some failed) :
    (shown s = some .ready ∧ looked s = some ready ∧ unmade s = false ∧ buildPasses polls s = 0) ∨
    (shown s = some .provisioning ∧ buildPasses polls (looked s) + 1 = buildPasses polls s) ∨
    ((shown s = none ∨ shown s = some .absent) ∧ (looked s = none ∨ looked s = some partly) ∧
      unmade s = true ∧ buildPasses polls s = polls + 1) := by
  cases s with
  | none => exact .inr (.inr ⟨.inl rfl, .inl rfl, rfl, rfl⟩)
  | some stage =>
    cases stage with
    | provisioning left =>
      cases left with
      | zero => exact .inl ⟨rfl, rfl, rfl, rfl⟩
      | succ left => exact .inr (.inl ⟨rfl, rfl⟩)
    | ready => exact .inl ⟨rfl, rfl, rfl, rfl⟩
    | failed => exact absurd rfl sound
    | partly => exact .inr (.inr ⟨.inr rfl, .inr rfl, rfl, rfl⟩)
    | deleting left =>
      cases left with
      | zero => exact .inr (.inr ⟨.inl rfl, .inl rfl, rfl, by simp [buildPasses]⟩)
      | succ left =>
        have next : left + polls + 1 + 1 = left + 1 + polls + 1 := by omega
        exact .inr (.inl ⟨rfl, next⟩)

private theorem unmade_looked (s : Option Stage) : unmade (looked s) = unmade s := by
  cases s with
  | none => rfl
  | some stage =>
    cases stage with
    | provisioning left | deleting left => cases left <;> rfl
    | ready | failed | partly => rfl

theorem looked_sound {s : Option Stage} (sound : s ≠ some failed) : looked s ≠ some failed := by
  cases s with
  | none => exact nofun
  | some stage =>
    cases stage with
    | provisioning left | deleting left => cases left <;> exact nofun
    | ready | partly => exact nofun
    | failed => exact absurd rfl sound

private theorem unmade_of_buildPasses {polls : Nat} {s : Option Stage} (none : buildPasses polls s = 0) :
    unmade s = false := by
  cases s with
  | none => cases none
  | some stage => cases stage <;> first | rfl | cases none

end Stage

namespace Staging

/-- A staging area without failures, in which copies take a number of looks. -/
structure Reliable (polls : Nat) (name : String) (s : Staging) : Prop where
  copyPolls : s.copyPolls = polls
  starts : s.startFailure = none
  revocations : s.revokeFailure = none
  nextCopy : s.failNextCopy = false
  copies : ∀ copying, s.objects.get? name = some copying → copying.fails = false

/-- How many passes end short of a staged copy. -/
def passes (polls : Nat) (name : String) (s : Staging) : Nat :=
  match s.objects.get? name with
  | none => polls + 1
  | some copying => copying.left

end Staging

namespace Cloud

variable {network : Bool} {polls : Nat} {job : Job} {timing : Timing} {c c' d : Cloud} {kind : ResourceKind}

/-- The resources of a job in the order in which they are built up. -/
def creationOrder : Bool → List ResourceKind
  | true => [.snapshot, .volume, .networkInterface, .scanner]
  | false => [.snapshot, .volume, .scanner]

/-- An account in which creations and copies take a number of looks, and where nothing has failed and no
failures are ordered. -/
structure Buildable (network : Bool) (polls : Nat) (job : Job) (c : Cloud) : Prop where
  looks : ∀ kind, (c.pool kind).observeFailure = none
  creations : ∀ kind, (c.pool kind).createFailure = none
  provisioning : ∀ kind, kind ≠ .stagedCopy → (c.pool kind).provisioningPolls = polls
  sound : ∀ kind ∈ creationOrder network, c.stage kind (job.names.of kind) ≠ some .failed
  staging : c.staging.Reliable polls job.names.stagedCopy

/-- One for a resource that has still to be created. -/
def toCreate (job : Job) (c : Cloud) (kind : ResourceKind) : Nat :=
  (Stage.unmade (c.stage kind (job.names.of kind))).toNat

/-- Whether the volume has still to be made from a staged copy. -/
def toStage (job : Job) (c : Cloud) : Bool :=
  job.crossesRegions && Stage.unmade (c.stage .volume job.names.volume)

/-- One for access that has still to be opened. -/
def toGrant (job : Job) (c : Cloud) : Nat :=
  (toStage job c && (c.staging.objects.get? job.names.stagedCopy).isNone).toNat

/-- How many build passes wait for the staged copy. -/
def stagingPasses (polls : Nat) (job : Job) (c : Cloud) : Nat :=
  if toStage job c then c.staging.passes polls job.names.stagedCopy else 0

/-- The part of that for a kind of resource; it is the volume that waits. -/
def waiting (polls : Nat) (job : Job) (c : Cloud) (kind : ResourceKind) : Nat :=
  if kind = .volume then stagingPasses polls job c else 0

/-- What a build pass never breaks: what has been created and what has still to be add up, nothing is
deleted, and the account stays fit for further passes. -/
structure Steady (network : Bool) (polls : Nat) (job : Job) (a b : Cloud) : Prop where
  buildable : Buildable network polls job a → Buildable network polls job b
  creations : ∀ kind,
    (b.pool kind).creates + toCreate job b kind = (a.pool kind).creates + toCreate job a kind
  deletions : ∀ kind, deletions b kind = deletions a kind
  grants : b.staging.grants + toGrant job b = a.staging.grants + toGrant job a

theorem Steady.refl (c : Cloud) : Steady network polls job c c := ⟨id, fun _ => rfl, fun _ => rfl, rfl⟩

theorem Steady.trans (first : Steady network polls job c c') (second : Steady network polls job c' d) :
    Steady network polls job c d where
  buildable start := second.buildable (first.buildable start)
  creations kind := (second.creations kind).trans (first.creations kind)
  deletions kind := (second.deletions kind).trans (first.deletions kind)
  grants := second.grants.trans first.grants

theorem toStage_congr (volume : c'.pool .volume = c.pool .volume) : toStage job c' = toStage job c := by
  rw [toStage, toStage, stage, stage, volume]

private theorem toStage_withPool {q : Pool} {t : Option Stage} {a b : Nat} (real : kind ≠ .stagedCopy)
    (moved : Pool.Moved (job.names.of kind) t a b (c.pool kind) q)
    (same : Stage.unmade t = Stage.unmade (c.stage kind (job.names.of kind))) :
    toStage job (c.withPool kind q) = toStage job c := by
  by_cases volume : kind = .volume
  · subst volume
    have after : (c.withPool .volume q).stage .volume job.names.volume = t := stage_withPool real moved
    rw [toStage, toStage, after, same]
    rfl
  · exact toStage_congr (pool_withPool_other fun same => volume same.symm)

theorem waiting_congr (own : kind = .volume → toStage job c' = toStage job c)
    (staging : kind = .volume → c'.staging = c.staging) :
    waiting polls job c' kind = waiting polls job c kind := by
  by_cases volume : kind = .volume
  · rw [waiting, waiting, stagingPasses, stagingPasses, own volume, staging volume]
  · simp [waiting, volume]

theorem waiting_eq_zero (made : kind = .volume → toStage job c = false) : waiting polls job c kind = 0 := by
  by_cases volume : kind = .volume
  · simp [waiting, stagingPasses, made volume]
  · simp [waiting, volume]

/-- Build passes are measured by what the resources still take, the volume together with its staged
copy. -/
def building (network : Bool) (polls : Nat) (job : Job) : Course where
  area := .volume
  left c kind := Stage.buildPasses polls (c.stage kind (job.names.of kind)) + waiting polls job c kind
  done c kind := c.stage kind (job.names.of kind) = some .ready
  kept := Steady network polls job
  kept_trans := Steady.trans
  left_of_done := by
    intro c kind done
    have made : kind = .volume → toStage job c = false := by
      intro volume
      subst volume
      rw [Names.of] at done
      simp [toStage, done, Stage.unmade]
    rw [done, waiting_eq_zero made]
    rfl
  local_left := by
    intro c c' kind same staging
    have own : kind = .volume → toStage job c' = toStage job c := by
      intro volume
      subst volume
      exact toStage_congr same
    rw [stage, stage, same, waiting_congr own staging]
  local_done := by
    intro c c' kind same _ done
    rw [stage, same]
    exact done

theorem left_building (network : Bool) (polls : Nat) (job : Job) (c : Cloud) (kind : ResourceKind) :
    (building network polls job).left c kind =
      Stage.buildPasses polls (c.stage kind (job.names.of kind)) + waiting polls job c kind := rfl

theorem Buildable.withPool {q : Pool} {t : Option Stage} {a b : Nat} (fit : Buildable network polls job c)
    (real : kind ≠ .stagedCopy) (moved : Pool.Moved (job.names.of kind) t a b (c.pool kind) q)
    (sound : t ≠ some .failed) : Buildable network polls job (c.withPool kind q) := by
  constructor
  case looks =>
    apply forall_withPool (P := fun _ p => p.observeFailure = none) real
    · rw [moved.observeFailure, fit.looks kind]
    · exact fun k _ => fit.looks k
  case creations =>
    apply forall_withPool (P := fun _ p => p.createFailure = none) real
    · rw [moved.createFailure, fit.creations kind]
    · exact fun k _ => fit.creations k
  case provisioning =>
    apply forall_withPool (P := fun k p => k ≠ .stagedCopy → p.provisioningPolls = polls) real
    · intro _
      rw [moved.provisioningPolls, fit.provisioning kind real]
    · exact fun k _ => fit.provisioning k
  case sound =>
    intro k member
    by_cases same : k = kind
    · rw [same, stage_withPool real moved]
      exact sound
    · rw [stage, pool_withPool_other same]
      exact fit.sound k member
  case staging =>
    rw [staging_withPool]
    exact fit.staging

theorem Buildable.withStaging {s : Staging} (fit : Buildable network polls job c)
    (reliable : s.Reliable polls job.names.stagedCopy) : Buildable network polls job (c.withStaging s) := by
  have unmoved (k : ResourceKind) : (c.withStaging s).pool k = c.pool k := pool_withStaging s
  constructor
  case looks => exact fun k => by rw [unmoved, fit.looks k]
  case creations => exact fun k => by rw [unmoved, fit.creations k]
  case provisioning => exact fun k real => by rw [unmoved, fit.provisioning k real]
  case sound =>
    intro k member
    rw [stage, unmoved]
    exact fit.sound k member
  case staging => exact reliable

/-- A look at a resource, or its creation, leaves everything else as it was. -/
theorem steady_withPool {q : Pool} {t : Option Stage} {a : Nat} (real : kind ≠ .stagedCopy)
    (moved : Pool.Moved (job.names.of kind) t a 0 (c.pool kind) q) (sound : t ≠ some .failed)
    (balance : a + (Stage.unmade t).toNat = toCreate job c kind)
    (grants : kind = .volume → toGrant job (c.withPool kind q) = toGrant job c) :
    Steady network polls job c (c.withPool kind q) := by
  constructor
  case buildable => exact fun fit => fit.withPool real moved sound
  case creations =>
    intro k
    by_cases same : k = kind
    · rw [same, toCreate, stage_withPool real moved, pool_withPool real, moved.creates]
      omega
    · rw [toCreate, stage, pool_withPool_other same]
      rfl
  case deletions =>
    intro k
    by_cases same : k = kind
    · rw [same, deletions_eq real, deletions_eq real, pool_withPool real, moved.deletes, Nat.add_zero]
    · exact deletions_congr (pool_withPool_other same) fun _ => staging_withPool
  case grants =>
    rw [staging_withPool]
    by_cases volume : kind = .volume
    · rw [grants volume]
    -- Only the volume decides whether access has still to be opened.
    · have apart : ResourceKind.volume ≠ kind := fun same => volume same.symm
      rw [toGrant, toGrant, toStage_congr (pool_withPool_other apart), staging_withPool]

/-- A pass over the staged copy leaves the resources as they were. -/
theorem steady_withStaging {s : Staging} (reliable : s.Reliable polls job.names.stagedCopy)
    (deletes : s.deletes = c.staging.deletes)
    (grants : s.grants + toGrant job (c.withStaging s) = c.staging.grants + toGrant job c) :
    Steady network polls job c (c.withStaging s) := by
  have unmoved (k : ResourceKind) : (c.withStaging s).pool k = c.pool k := pool_withStaging s
  constructor
  case buildable => exact fun fit => fit.withStaging reliable
  case creations =>
    intro k
    rw [toCreate, toCreate, stage, stage, unmoved]
  case deletions =>
    intro k
    by_cases staged : k = .stagedCopy
    · subst staged
      exact deletes
    · exact deletions_congr (unmoved k) fun same => absurd same staged
  case grants => exact grants

/-- Where the spec of a resource comes from: it is there at once, or a pass over the staged copy makes
it or ends in a retry. -/
def Sourced (network : Bool) (polls : Nat) (job : Job) (kind : ResourceKind) (spec : Pass ResourceSpec) :
    Prop :=
  ∀ c, Buildable network polls job c → Stage.unmade (c.stage kind (job.names.of kind)) = true → ∃ s,
    Steady network polls job c (c.withStaging s) ∧ (kind ≠ .volume → s = c.staging) ∧
    (waiting polls job c kind = 0 ∧ (kind = .volume → toGrant job (c.withStaging s) = 0) ∧
        (∃ r, r.kind = kind ∧ run spec.run c = (.ok r, c.withStaging s)) ∨
      waiting polls job (c.withStaging s) kind + 1 = waiting polls job c kind ∧
        ∃ delay reason, run spec.run c = (.error (.retry delay reason), c.withStaging s))

theorem sourced_pure {spec : ResourceSpec} (own : spec.kind = kind)
    (inPlace : kind = .volume → job.crossesRegions = false) :
    Sourced network polls job kind (pure spec) := by
  intro c _ _
  refine ⟨c.staging, Steady.refl c, fun _ => rfl, .inl ⟨?_, ?_, spec, own, rfl⟩⟩
  · exact waiting_eq_zero fun volume => by rw [toStage, inPlace volume, Bool.false_and]
  · intro volume
    rw [toGrant, toStage, inPlace volume]
    rfl

/-- A pass that has found nothing of a resource: it waits for the source, or starts the creation. -/
theorem run_creates {estimate : Duration} {spec : Pass ResourceSpec} (real : kind ≠ .stagedCopy)
    (build : Buildable network polls job c) (sourced : Sourced network polls job kind spec)
    (absent : c.stage kind (job.names.of kind) = none ∨ c.stage kind (job.names.of kind) = some .partly) :
    ∃ d delay reason, run (spec >>= creation kind (job.names.of kind) estimate).run c =
        (.error (.retry delay reason), d) ∧ Steady network polls job c d ∧
      (∀ k, k ≠ kind → d.pool k = c.pool k) ∧ (kind ≠ .volume → d.staging = c.staging) ∧
      (building network polls job).left d kind = polls + waiting polls job c kind := by
  have unmade : Stage.unmade (c.stage kind (job.names.of kind)) = true := by
    rcases absent with absent | absent <;> rw [absent] <;> rfl
  have passes : Stage.buildPasses polls (c.stage kind (job.names.of kind)) = polls + 1 := by
    rcases absent with absent | absent <;> rw [absent] <;> rfl
  obtain ⟨s, steady, fixed, outcome⟩ := sourced c build unmade
  have same (k : ResourceKind) (name : String) : (c.withStaging s).stage k name = c.stage k name := by
    rw [stage, stage, pool_withStaging]
  rcases outcome with ⟨spent, granted, r, rfl, ran⟩ | ⟨fewer, delay, reason, ran⟩
  -- The source is at hand, and the creation counts the resource as made.
  · have build' := steady.buildable build
    rw [← same] at absent unmade
    obtain ⟨q, reason, ran', moved⟩ := run_creation (job.names.of r.kind) estimate
      (build'.creations r.kind) absent
    rw [build'.provisioning r.kind real] at moved
    have own : ((c.withStaging s).withPool r.kind q).stage r.kind (job.names.of r.kind) =
        some (.provisioning polls) := stage_withPool real moved
    have made : r.kind = .volume → toStage job ((c.withStaging s).withPool r.kind q) = false := by
      intro volume
      rw [volume] at own
      rw [volume, toStage, show job.names.volume = job.names.of .volume from rfl, own]
      exact Bool.and_false _
    have created : Steady network polls job (c.withStaging s) ((c.withStaging s).withPool r.kind q) := by
      refine steady_withPool real moved (by simp) ?_ ?_
      · rw [toCreate, unmade]
        rfl
      · intro volume
        rw [granted volume, toGrant, made volume]
        rfl
    refine ⟨_, _, reason, (run_bind_ok ran).trans ran', steady.trans created, ?_, ?_, ?_⟩
    · intro k other
      rw [pool_withPool_other other, pool_withStaging]
    · intro other
      rw [staging_withPool, staging_withStaging, fixed other]
    · rw [left_building, own, waiting_eq_zero made, spent]
      rfl
  -- The source has still to be waited for, once less.
  · refine ⟨_, delay, reason, run_bind_error ran, steady, fun k _ => pool_withStaging s, fixed, ?_⟩
    rw [left_building, same, passes]
    omega

/-- One pass over a resource that has not failed. -/
theorem ensure_advances {estimate : Duration} {spec : Pass ResourceSpec}
    (member : kind ∈ creationOrder network) (build : Buildable network polls job c)
    (sourced : Sourced network polls job kind spec) :
    (building network polls job).Advances [kind] (ensure kind (job.names.of kind) estimate spec) c := by
  have real : kind ≠ .stagedCopy := by
    rintro rfl
    cases network <;> simp [creationOrder] at member
  obtain ⟨q, moved, told⟩ := run_ensure real (build.looks kind) (job.names.of kind) estimate spec
  have own : (c.withPool kind q).stage kind (job.names.of kind) =
      Stage.looked (c.stage kind (job.names.of kind)) := stage_withPool real moved
  have staged : toStage job (c.withPool kind q) = toStage job c :=
    toStage_withPool real moved (Stage.unmade_looked _)
  have waits : waiting polls job (c.withPool kind q) kind = waiting polls job c kind :=
    waiting_congr (fun _ => staged) fun _ => staging_withPool
  have looked : Steady network polls job c (c.withPool kind q) := by
    refine steady_withPool real moved (Stage.looked_sound (build.sound kind member)) ?_ ?_
    · rw [Stage.unmade_looked, Nat.zero_add, toCreate]
    · intro _
      rw [toGrant, toGrant, staged, staging_withPool]
  rcases Stage.build_cases polls (build.sound kind member) with
    ⟨shows, ready, made, spent⟩ | ⟨shows, count⟩ | ⟨shows, absent, unmade, count⟩
  · rw [shows] at told
    obtain ⟨handle, ran⟩ := told
    refine Course.advances_done looked (fun _ => pool_withPool_other) (fun _ => staging_withPool) ran ?_
      (own.trans ready)
    have none : waiting polls job c kind = 0 := by
      apply waiting_eq_zero
      rintro rfl
      rw [Names.of] at made
      rw [toStage, made, Bool.and_false]
    rw [left_building, spent, none]
  · rw [shows] at told
    obtain ⟨reason, ran⟩ := told
    refine Course.advances_retry looked (fun _ => pool_withPool_other) (fun _ => staging_withPool) ran ?_
    rw [left_building, left_building, own, waits]
    omega
  · have goes : run (ensure kind (job.names.of kind) estimate spec).run c =
        run (spec >>= creation kind (job.names.of kind) estimate).run (c.withPool kind q) := by
      rcases shows with shows | shows <;> rw [shows] at told <;> exact told
    rw [← own] at absent
    obtain ⟨d, delay, reason, ran, created, pools, staging, left⟩ :=
      run_creates real (looked.buildable build) sourced absent
    refine Course.advances_retry (looked.trans created) ?_ ?_ (goes.trans ran) ?_
    · intro k other
      rw [pools k other, pool_withPool_other other]
    · intro other
      rw [staging other, staging_withPool]
    · rw [left, left_building, waits]
      omega

private theorem toGrant_held {copying : Copying}
    (held : c.staging.objects.get? job.names.stagedCopy = some copying) : toGrant job c = 0 := by
  rw [toGrant, held, Option.isNone_some, Bool.and_false]
  rfl

/-- One pass over a staged copy without failures: it is there, or it is one look nearer. -/
theorem run_ensureStagedCopy (store : StagingStore) (timing : Timing) (snapshot : Handle)
    (reliable : c.staging.Reliable polls job.names.stagedCopy) :
    ∃ s, s.Reliable polls job.names.stagedCopy ∧ s.deletes = c.staging.deletes ∧
      (∃ copying, s.objects.get? job.names.stagedCopy = some copying) ∧
      s.grants = c.staging.grants + (c.staging.objects.get? job.names.stagedCopy).isNone.toNat ∧
      (c.staging.passes polls job.names.stagedCopy = 0 ∧ (∃ copy,
          run (ensureStagedCopy store timing job snapshot).run c = (.ok copy, c.withStaging s)) ∨
        s.passes polls job.names.stagedCopy + 1 = c.staging.passes polls job.names.stagedCopy ∧
          ∃ delay reason, run (ensureStagedCopy store timing job snapshot).run c =
            (.error (.retry delay reason), c.withStaging s)) := by
  cases found : c.staging.objects.get? job.names.stagedCopy with
  | none =>
    obtain ⟨access, reason, ran⟩ := ensureStagedCopy_started store timing snapshot reliable.starts found
    have held : (c.staging.granted.started job.names.stagedCopy).objects.get? job.names.stagedCopy =
        some { left := c.staging.copyPolls, fails := c.staging.failNextCopy } := Staging.started_object
    refine ⟨c.staging.granted.started job.names.stagedCopy, ?_, rfl, ⟨_, held⟩, rfl,
      .inr ⟨?_, timing.copy, reason, ran.run⟩⟩
    · refine ⟨reliable.copyPolls, reliable.starts, reliable.revocations, rfl, ?_⟩
      intro copying same
      cases held.symm.trans same
      exact reliable.nextCopy
    · simp only [Staging.passes, held, found]
      exact congrArg (· + 1) reliable.copyPolls
  | some copying =>
    have fine := reliable.copies copying found
    have held : (c.staging.watched job.names.stagedCopy copying).objects.get? job.names.stagedCopy =
        some { copying with left := copying.left - 1 } := Staging.watched_object
    have watched : Staging.Reliable polls job.names.stagedCopy
        (c.staging.watched job.names.stagedCopy copying) := by
      refine ⟨reliable.copyPolls, reliable.starts, reliable.revocations, reliable.nextCopy, ?_⟩
      intro copying' same
      cases held.symm.trans same
      exact fine
    cases left : copying.left with
    | zero =>
      have success : copying.status = .success := by simp [Copying.status, left, fine]
      obtain ⟨copied, total, copy, ran⟩ :=
        ensureStagedCopy_success store timing snapshot reliable.revocations success found
      refine ⟨(c.staging.watched job.names.stagedCopy copying).revoked, ?_, rfl, ⟨_, held⟩, rfl,
        .inl ⟨?_, copy, ran.run⟩⟩
      · exact ⟨watched.copyPolls, watched.starts, watched.revocations, watched.nextCopy, watched.copies⟩
      · simp only [Staging.passes, found, left]
    | succ rest =>
      have pending : copying.status = .pending := by simp [Copying.status, left]
      obtain ⟨copied, total, delay, reason, ran⟩ := ensureStagedCopy_pending store timing snapshot pending found
      refine ⟨c.staging.watched job.names.stagedCopy copying, watched, rfl, ⟨_, held⟩, rfl,
        .inr ⟨?_, delay, reason, ran.run⟩⟩
      simp only [Staging.passes, held, found, left]
      rfl

/-- A volume in another region waits for its staged copy. -/
theorem sourced_staged {store : StagingStore} {snapshot : Handle} (crosses : job.crossesRegions = true) :
    Sourced network polls job .volume
      (do return .volume (job.volumeSpec (← volumeSource (some store) timing job snapshot))) := by
  intro c build unmade
  have stages : toStage job c = true := by
    rw [Names.of] at unmade
    rw [toStage, crosses, unmade, Bool.true_and]
  have waits (s : Staging) : waiting polls job (c.withStaging s) .volume =
      s.passes polls job.names.stagedCopy := by
    have still : toStage job (c.withStaging s) = true := by
      rw [toStage_congr (pool_withStaging s), stages]
    simp [waiting, stagingPasses, still]
  have own : waiting polls job c .volume = c.staging.passes polls job.names.stagedCopy := waits c.staging
  obtain ⟨s, reliable, deletes, ⟨copying, held⟩, grants, outcome⟩ :=
    run_ensureStagedCopy store timing snapshot build.staging
  have granted : toGrant job (c.withStaging s) = 0 := toGrant_held held
  have steady : Steady network polls job c (c.withStaging s) := by
    refine steady_withStaging reliable deletes ?_
    rw [granted, grants, toGrant, stages, Bool.true_and, Nat.add_zero]
  refine ⟨s, steady, fun other => absurd rfl other, ?_⟩
  rw [own, waits]
  rcases outcome with ⟨spent, copy, ran⟩ | ⟨count, delay, reason, ran⟩
  · exact .inl ⟨spent, fun _ => granted, _, rfl, run_bind_ok (run_bind_ok ran)⟩
  · exact .inr ⟨count, delay, reason, run_bind_error (run_bind_error ran)⟩

theorem ensureSnapshot_advances (build : Buildable network polls job c) :
    (building network polls job).Advances [.snapshot] (ensureSnapshot timing job) c := by
  have member : .snapshot ∈ creationOrder network := by cases network <;> simp [creationOrder]
  exact ensure_advances member build (sourced_pure rfl nofun)

theorem ensureVolume_advances {snapshot : Handle} (build : Buildable network polls job c) :
    (building network polls job).Advances [.volume] (ensureVolume timing job
      (volumeSource (if job.crossesRegions then some store else none) timing job snapshot)) c := by
  have member : .volume ∈ creationOrder network := by cases network <;> simp [creationOrder]
  cases crosses : job.crossesRegions with
  | true => exact ensure_advances member build (sourced_staged crosses)
  | false =>
    have sourced : Sourced network polls job .volume
        (pure (.volume (job.volumeSpec (.snapshot snapshot)))) := sourced_pure rfl fun _ => crosses
    exact ensure_advances member build sourced

theorem ensureNetworkInterface_advances (build : Buildable true polls job c) :
    (building true polls job).Advances [.networkInterface] (ensureNetworkInterface timing job) c :=
  ensure_advances (by simp [creationOrder]) build (sourced_pure rfl nofun)

theorem ensureScanner_advances {volume : Handle} {networkInterface : Option Handle}
    (build : Buildable network polls job c) :
    (building network polls job).Advances [.scanner]
      (ensureScanner timing job volume networkInterface) c := by
  have member : .scanner ∈ creationOrder network := by cases network <;> simp [creationOrder]
  exact ensure_advances member build (sourced_pure rfl nofun)

theorem stagingFor_facilities (network : Bool) (job : Job) :
    stagingFor (facilities network) job = pure (if job.crossesRegions then some store else none) := by
  unfold stagingFor facilities
  cases job.crossesRegions <;> rfl

theorem build_advances (build : Buildable network polls job c) :
    (building network polls job).Advances (creationOrder network)
      (Pass.build (facilities network) timing job) c := by
  rw [Pass.build, stagingFor_facilities, pure_bind]
  cases network with
  | true =>
    refine (ensureSnapshot_advances build).bind (by decide) fun snapshot c₁ steady₁ => ?_
    have build₁ := steady₁.buildable build
    refine (ensureVolume_advances build₁).bind (by decide) fun volume c₂ steady₂ => ?_
    have build₂ := steady₂.buildable build₁
    refine (ensureNetworkInterface_advances build₂).map.bind (by decide) fun nic c₃ steady₃ => ?_
    exact (ensureScanner_advances (steady₃.buildable build₂)).map
  | false =>
    refine (ensureSnapshot_advances build).bind (by decide) fun snapshot c₁ steady₁ => ?_
    have build₁ := steady₁.buildable build
    refine (ensureVolume_advances build₁).bind (by decide) fun volume c₂ steady₂ => ?_
    exact (ensureScanner_advances (steady₂.buildable build₁)).map

/-- How many build passes end short of a running scanner. -/
def passesToReady (network : Bool) (polls : Nat) (job : Job) (c : Cloud) : Nat :=
  sumOver (fun kind => Stage.buildPasses polls (c.stage kind (job.names.of kind))) (creationOrder network) +
    stagingPasses polls job c

private theorem total_building (network : Bool) (polls : Nat) (job : Job) (c : Cloud) :
    (building network polls job).total c (creationOrder network) = passesToReady network polls job c := by
  cases network with
  | true =>
    simp [passesToReady, Course.total, sumOver, building, creationOrder, waiting]
    omega
  | false =>
    simp [passesToReady, Course.total, sumOver, building, creationOrder, waiting]
    omega

/-- A build pass on a simulated account. -/
def buildPass (network : Bool) (timing : Timing) (job : Job) : Program clients (Except Setback Unit) :=
  (Pass.build (facilities network) timing job).run

/-- Where nothing is waited for, every resource has been created, and the access it took been opened. -/
theorem made_of_total (none : (building network polls job).total c (creationOrder network) = 0) :
    (∀ kind ∈ creationOrder network, toCreate job c kind = 0) ∧ toGrant job c = 0 := by
  have made (kind : ResourceKind) (member : kind ∈ creationOrder network) :
      Stage.unmade (c.stage kind (job.names.of kind)) = false := by
    have left := Course.total_eq_zero_iff.mp none kind member
    rw [left_building] at left
    exact Stage.unmade_of_buildPasses (Nat.eq_zero_of_add_eq_zero_right left)
  constructor
  · intro kind member
    rw [toCreate, made kind member]
    rfl
  · have volume := made .volume (by cases network <;> simp [creationOrder])
    rw [Names.of] at volume
    rw [toGrant, toStage, volume, Bool.and_false, Bool.false_and]
    rfl

/-- A build pass that has nothing to wait for succeeds, and creates, deletes and opens nothing. -/
theorem build_idle (fit : Buildable network polls job c)
    (none : (building network polls job).total c (creationOrder network) = 0) :
    (run (buildPass network timing job) c).1 = .ok () ∧
    (∀ kind, ((run (buildPass network timing job) c).2.pool kind).creates = (c.pool kind).creates ∧
      deletions (run (buildPass network timing job) c).2 kind = deletions c kind) ∧
    (run (buildPass network timing job) c).2.staging.grants = c.staging.grants := by
  have advance : (building network polls job).Advances (creationOrder network)
      (Pass.build (facilities network) timing job) c := build_advances fit
  obtain ⟨⟨⟨⟩, ok⟩, done⟩ := advance.ends none
  have still : (building network polls job).total (run (buildPass network timing job) c).2
      (creationOrder network) = 0 :=
    Course.total_eq_zero_iff.mpr fun kind member => Course.left_of_done _ (done kind member)
  have steady : Steady network polls job c (run (buildPass network timing job) c).2 := advance.kept
  have before := made_of_total none
  have after := made_of_total still
  refine ⟨ok, ?_, ?_⟩
  · intro kind
    refine ⟨?_, steady.deletions kind⟩
    by_cases member : kind ∈ creationOrder network
    · have balance := steady.creations kind
      rw [before.1 kind member, after.1 kind member] at balance
      exact balance
    · exact congrArg Pool.creates (advance.pools kind member)
  · have balance := steady.grants
    rw [before.2, after.2] at balance
    exact balance

/-- From an empty account every resource takes its looks and the call that starts it. -/
theorem passesToReady_empty (network : Bool) (polls : Nat) (job : Job) :
    passesToReady network polls job (empty polls) =
      (3 + network.toNat + job.crossesRegions.toNat) * (polls + 1) := by
  have kinds : sumOver (fun kind => Stage.buildPasses polls ((empty polls).stage kind (job.names.of kind)))
      (creationOrder network) = (3 + network.toNat) * (polls + 1) := by
    cases network
    · change polls + 1 + (polls + 1 + (polls + 1 + 0)) = 3 * (polls + 1)
      omega
    · change polls + 1 + (polls + 1 + (polls + 1 + (polls + 1 + 0))) = 4 * (polls + 1)
      omega
  have staged : stagingPasses polls job (empty polls) = job.crossesRegions.toNat * (polls + 1) := by
    cases crosses : job.crossesRegions <;> rw [stagingPasses, toStage, crosses]
    · rw [Bool.false_and, Bool.toNat_false, Nat.zero_mul]
      rfl
    · exact (Nat.one_mul (polls + 1)).symm
  rw [passesToReady, kinds, staged, ← Nat.add_mul]

/-- Build passes retry exactly as often as what is there takes, and each resource that was not there is
created once meanwhile. From then on every pass succeeds, and creates, deletes and opens nothing. -/
theorem build_converges (fit : Buildable network polls job c) :
    (∀ i < passesToReady network polls job c, ∃ delay reason,
      (run (buildPass network timing job) (repeated (buildPass network timing job) i c)).1 =
        .error (.retry delay reason)) ∧
    (∀ i ≥ passesToReady network polls job c,
      (run (buildPass network timing job) (repeated (buildPass network timing job) i c)).1 = .ok () ∧
      (∀ kind,
        ((repeated (buildPass network timing job) (i + 1) c).pool kind).creates =
          ((repeated (buildPass network timing job) i c).pool kind).creates ∧
        deletions (repeated (buildPass network timing job) (i + 1) c) kind =
          deletions (repeated (buildPass network timing job) i c) kind) ∧
      (repeated (buildPass network timing job) (i + 1) c).staging.grants =
        (repeated (buildPass network timing job) i c).staging.grants) ∧
    (∀ kind ∈ creationOrder network,
      ((repeated (buildPass network timing job) (passesToReady network polls job c) c).pool kind).creates =
        (c.pool kind).creates + toCreate job c kind) ∧
    (c = empty polls →
      passesToReady network polls job c + 1 =
        (3 + network.toNat + job.crossesRegions.toNat) * (polls + 1) + 1 ∧
      ∀ kind ∈ creationOrder network, ((repeated (buildPass network timing job)
        (passesToReady network polls job c) c).pool kind).creates = 1) := by
  have down : Countdown (buildPass network timing job) (Steady network polls job c)
      ((building network polls job).total · (creationOrder network)) :=
    Course.countdown fun c' steady => build_advances (steady.buildable fit)
  have needed := total_building network polls job c
  have steady (i : Nat) : Steady network polls job c (repeated (buildPass network timing job) i c) :=
    (down.repeated (Steady.refl c) i).1
  have none (i : Nat) (late : passesToReady network polls job c ≤ i) : (building network polls job).total
      (repeated (buildPass network timing job) i c) (creationOrder network) = 0 := by
    have count := (down.repeated (Steady.refl c) i).2
    omega
  have created (kind : ResourceKind) (member : kind ∈ creationOrder network) :
      ((repeated (buildPass network timing job) (passesToReady network polls job c) c).pool kind).creates =
        (c.pool kind).creates + toCreate job c kind := by
    have balance := (steady (passesToReady network polls job c)).creations kind
    have made := (made_of_total (none _ (Nat.le_refl _))).1 kind member
    omega
  refine ⟨?_, ?_, created, ?_⟩
  · intro i early
    exact (down.exact (Steady.refl c) i).1 (needed ▸ early)
  · intro i late
    exact build_idle ((steady i).buildable fit) (none i late)
  · intro start
    subst start
    refine ⟨congrArg (· + 1) (passesToReady_empty network polls job), ?_⟩
    intro kind member
    have first : ((empty polls).pool kind).creates + toCreate job (empty polls) kind = 1 := by
      cases kind <;> rfl
    rw [created kind member, first]

/-- Every kind of resource in another stage on the way to a scanner, and a copy under way. -/
def underway : Cloud :=
  let c := empty 2
  { c with
    snapshots := c.snapshots.place "asset-scan-snapshot-scan-0001" (.provisioning 1)
    volumes := c.volumes.place "asset-scan-volume-scan-0001" (.deleting 1)
    networks := c.networks.place "asset-scan-nic-scan-0001" .partly
    staging := { c.staging with objects := ⟨[("scan-0001.vhd", { left := 2, fails := false })]⟩ } }

theorem build_converges_underway :
    passesToReady true 2 (sampleJob true) underway = 13 ∧
    (∃ delay reason, (run (buildPass true .cloud (sampleJob true))
      (repeated (buildPass true .cloud (sampleJob true)) 12 underway)).1 = .error (.retry delay reason)) ∧
    (run (buildPass true .cloud (sampleJob true))
      (repeated (buildPass true .cloud (sampleJob true)) 13 underway)).1 = .ok () := by
  have fit : Buildable true 2 (sampleJob true) underway := by
    constructor
    case looks => exact fun kind => by cases kind <;> rfl
    case creations => exact fun kind => by cases kind <;> rfl
    case provisioning => exact fun kind real => by cases kind <;> first | rfl | exact absurd rfl real
    case sound => decide +kernel
    case staging =>
      refine ⟨rfl, rfl, rfl, rfl, ?_⟩
      intro copying found
      have there : underway.staging.objects.get? (sampleJob true).names.stagedCopy =
          some { left := 2, fails := false } := by decide +kernel
      cases there.symm.trans found
      rfl
  have needed : passesToReady true 2 (sampleJob true) underway = 13 := by decide +kernel
  obtain ⟨waits, ends, -, -⟩ := @build_converges true 2 (sampleJob true) .cloud underway fit
  rw [needed] at waits ends
  exact ⟨needed, waits 12 (by decide), (ends 13 (by decide)).1⟩

end Cloud

end ScanProvisioning.Rehearsal
