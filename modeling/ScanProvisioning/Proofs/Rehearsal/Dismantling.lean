import ScanProvisioning.Proofs.Pass.Teardown
import ScanProvisioning.Proofs.Rehearsal.Stages
import ScanProvisioning.Proofs.Rehearsal.Staging

namespace ScanProvisioning.Rehearsal

open Program Pass

namespace Stage

/-- How many teardown passes end short of a resource that is in a stage. -/
def removalPasses (polls : Nat) : Option Stage → Nat
  | none => 0
  | some (deleting left) => left / 2
  | some _ => (polls + 1) / 2

private theorem removalPasses_hidden (polls : Nat) {s : Option Stage} (hidden : shown s = none) :
    removalPasses polls s = 0 ∧ looked s = none := by
  cases s with
  | none => exact ⟨rfl, rfl⟩
  | some stage =>
    cases stage with
    | deleting left =>
      cases left with
      | zero => exact ⟨rfl, rfl⟩
      | succ left => cases hidden
    | provisioning left => cases left <;> cases hidden
    | ready => cases hidden
    | failed => cases hidden
    | partly => cases hidden

/-- After a look and a request for deletion a resource that is there is being deleted, and a pass is worth
two looks of what that takes. -/
theorem removalPasses_dropped (polls : Nat) {s : Option Stage} (there : shown s ≠ none) :
    looked s ≠ none ∧ ∃ left, dropped polls (looked s) = some (deleting left) ∧
      removalPasses polls s = (left + 1) / 2 := by
  cases s with
  | none => exact absurd rfl there
  | some stage =>
    cases stage with
    | deleting left =>
      cases left with
      | zero => exact absurd rfl there
      | succ left => exact ⟨by simp [looked], left, rfl, rfl⟩
    | provisioning left => cases left <;> exact ⟨by simp [looked], polls, rfl, rfl⟩
    | ready => exact ⟨by simp [looked], polls, rfl, rfl⟩
    | failed => exact ⟨by simp [looked], polls, rfl, rfl⟩
    | partly => exact ⟨by simp [looked], polls, rfl, rfl⟩

private theorem removalPasses_deleting (polls left : Nat) :
    shown (some (deleting left)) = none ∧ (left + 1) / 2 = 0 ∨
    shown (some (deleting left)) ≠ none ∧
      removalPasses polls (looked (some (deleting left))) + 1 = (left + 1) / 2 := by
  cases left with
  | zero => exact .inl ⟨rfl, rfl⟩
  | succ left =>
    have half : left / 2 + 1 = (left + 1 + 1) / 2 := by omega
    exact .inr ⟨by simp [shown], half⟩

end Stage

namespace Cloud

variable {c : Cloud} {kind : ResourceKind} {name : String} {estimate : Duration}

/-- One pass over a resource that is to go: it is gone, or its deletion is a pass nearer. -/
theorem run_ensureAbsent (name : String) (estimate : Duration) (real : kind ≠ .stagedCopy)
    (calm : (c.pool kind).observeFailure = none) :
    ∃ q t asked, Pool.Moved name t 0 asked (c.pool kind) q ∧
      (c.stage kind name = none → asked = 0) ∧
      (Stage.removalPasses (c.pool kind).deletionPolls (c.stage kind name) = 0 ∧ t = none ∧
          run (ensureAbsent kind name estimate).run c = (.ok (), c.withPool kind q) ∨
        Stage.removalPasses (c.pool kind).deletionPolls t + 1 =
            Stage.removalPasses (c.pool kind).deletionPolls (c.stage kind name) ∧
          ∃ reason, run (ensureAbsent kind name estimate).run c =
            (.error (.retry estimate reason), c.withPool kind q)) := by
  obtain ⟨q₁, first, moved₁⟩ := run_isPresent real calm name
  rw [ensureAbsent, run_bind_ok first]
  cases shows : Stage.shown (c.stage kind name) with
  | none =>
    obtain ⟨spent, gone⟩ := Stage.removalPasses_hidden (c.pool kind).deletionPolls shows
    exact ⟨q₁, _, 0, moved₁, fun _ => rfl, .inl ⟨spent, gone, rfl⟩⟩
  | some state =>
    have there : Stage.shown (c.stage kind name) ≠ none := by simp [shows]
    have present : c.stage kind name ≠ none := by
      intro none
      rw [none] at there
      exact there rfl
    obtain ⟨looked, left, drops, passes⟩ :=
      Stage.removalPasses_dropped (c.pool kind).deletionPolls there
    rw [← stage_withPool (c := c) real moved₁] at looked
    obtain ⟨q₂, asked, moved₂⟩ := answer_delete_there real looked
    rw [withPool_withPool] at asked
    rw [stage_withPool real moved₁, pool_withPool real, moved₁.deletionPolls, drops] at moved₂
    have moved := moved₁.trans moved₂
    -- The second look is at a resource that is being deleted, whatever the first one has found.
    have calm₂ : ((c.withPool kind q₂).pool kind).observeFailure = none := by
      rw [pool_withPool real, moved.observeFailure, calm]
    obtain ⟨q₃, last, moved₃⟩ := run_isPresent real calm₂ name
    rw [stage_withPool real moved, withPool_withPool] at last
    rw [stage_withPool real moved, pool_withPool real] at moved₃
    refine ⟨q₃, _, 1, moved.trans moved₃, fun none => absurd none present, ?_⟩
    simp only [Option.isSome_some, Bool.not_true, Bool.false_eq_true, if_false]
    rw [run_ask, asked, passes]
    dsimp only
    rcases Stage.removalPasses_deleting (c.pool kind).deletionPolls left with
      ⟨hidden, spent⟩ | ⟨shows, waits⟩
    · rw [hidden] at last
      obtain ⟨-, gone⟩ := Stage.removalPasses_hidden (c.pool kind).deletionPolls hidden
      exact .inl ⟨spent, gone, run_bind_ok last⟩
    · obtain ⟨state, shows⟩ := Option.ne_none_iff_exists'.mp shows
      rw [shows] at last
      exact .inr ⟨waits, _, run_bind_ok last⟩

/-- Nothing is left of a job's resource of a kind. -/
def Cleared (job : Job) (c : Cloud) : ResourceKind → Prop
  | .stagedCopy => c.staging.objects.get? job.names.stagedCopy = none
  | kind => c.stage kind (job.names.of kind) = none

/-- An account in which deletions take a number of looks and no failures are ordered that a teardown
could meet. -/
structure Clearable (polls : Nat) (c : Cloud) : Prop where
  looks : ∀ kind, (c.pool kind).observeFailure = none
  deletions : ∀ kind, kind ≠ .stagedCopy → (c.pool kind).deletionPolls = polls
  revocations : c.staging.revokeFailure = none

section

variable {job : Job} {polls : Nat} {c' : Cloud}

theorem cleared_iff (real : kind ≠ .stagedCopy) :
    Cleared job c kind ↔ c.stage kind (job.names.of kind) = none := by
  cases kind <;> first | rfl | exact absurd rfl real

theorem cleared_congr (same : c'.pool kind = c.pool kind)
    (staging : kind = .stagedCopy → c'.staging = c.staging) : Cleared job c' kind ↔ Cleared job c kind := by
  by_cases real : kind = .stagedCopy
  · subst real
    rw [Cleared, Cleared, staging rfl]
  · rw [cleared_iff real, cleared_iff real, stage, stage, same]

theorem Clearable.withPool {q : Pool} {t : Option Stage} {a b : Nat} (clear : Clearable polls c)
    (real : kind ≠ .stagedCopy) (moved : Pool.Moved name t a b (c.pool kind) q) :
    Clearable polls (c.withPool kind q) := by
  constructor
  case looks =>
    apply forall_withPool (P := fun _ p => p.observeFailure = none) real
    · rw [moved.observeFailure, clear.looks kind]
    · exact fun k _ => clear.looks k
  case deletions =>
    apply forall_withPool (P := fun k p => k ≠ .stagedCopy → p.deletionPolls = polls) real
    · intro _
      rw [moved.deletionPolls, clear.deletions kind real]
    · exact fun k _ => clear.deletions k
  case revocations =>
    rw [staging_withPool]
    exact clear.revocations

theorem Clearable.withStaging {s : Staging} (clear : Clearable polls c) (calm : s.revokeFailure = none) :
    Clearable polls (c.withStaging s) := by
  constructor
  case looks => exact fun k => by rw [pool_withStaging, clear.looks k]
  case deletions => exact fun k real => by rw [pool_withStaging, clear.deletions k real]
  case revocations => exact calm

end

/-- Teardown passes are measured by what the resources that are left still take; a pass keeps what is
gone, and asks no deletion of it. -/
def clearing (polls : Nat) (job : Job) : Course where
  area := .stagedCopy
  left c kind := Stage.removalPasses polls (c.stage kind (job.names.of kind))
  done c kind := Cleared job c kind
  kept a b := (Clearable polls a → Clearable polls b) ∧
    ∀ kind, Cleared job a kind → Cleared job b kind ∧ deletions b kind = deletions a kind
  kept_trans := by
    rintro a b c ⟨clear, gone⟩ ⟨clear', gone'⟩
    refine ⟨fun start => clear' (clear start), ?_⟩
    intro kind start
    obtain ⟨mid, count⟩ := gone kind start
    obtain ⟨last, count'⟩ := gone' kind mid
    exact ⟨last, count'.trans count⟩
  left_of_done := by
    intro c kind gone
    by_cases real : kind = .stagedCopy
    · subst real
      rfl
    · rw [(cleared_iff real).mp gone]
      rfl
  local_left := by
    intro c c' kind same _
    rw [stage, stage, same]
  local_done := by
    intro c c' kind same staging
    exact (cleared_congr same staging).mpr

private theorem left_clearing (polls : Nat) (job : Job) (c : Cloud) (kind : ResourceKind) :
    (clearing polls job).left c kind = Stage.removalPasses polls (c.stage kind (job.names.of kind)) := rfl

section

variable {job : Job} {polls : Nat} {timing : Timing}

theorem ensureAbsent_advances (clear : Clearable polls c) (real : kind ≠ .stagedCopy) :
    (clearing polls job).Advances [kind] (ensureAbsent kind (job.names.of kind) estimate) c := by
  obtain ⟨q, t, asked, moved, idle, outcome⟩ :=
    run_ensureAbsent (job.names.of kind) estimate real (clear.looks kind)
  rw [clear.deletions kind real] at outcome
  have stage_after : (c.withPool kind q).stage kind (job.names.of kind) = t := stage_withPool real moved
  have kept : (clearing polls job).kept c (c.withPool kind q) := by
    refine ⟨fun _ => clear.withPool real moved, ?_⟩
    intro k gone
    by_cases same : k = kind
    · subst same
      have absent := (cleared_iff real).mp gone
      rcases outcome with ⟨-, rfl, -⟩ | ⟨count, -⟩
      · refine ⟨(cleared_iff real).mpr stage_after, ?_⟩
        rw [deletions_eq real, deletions_eq real, pool_withPool real, moved.deletes, idle absent,
          Nat.add_zero]
      · rw [absent] at count
        cases count
    · have other : (c.withPool kind q).pool k = c.pool k := pool_withPool_other same
      exact ⟨(cleared_congr other fun _ => staging_withPool).mpr gone,
        deletions_congr other fun _ => staging_withPool⟩
  rcases outcome with ⟨spent, rfl, ok⟩ | ⟨count, reason, retry⟩
  · exact Course.advances_done kept (fun _ => pool_withPool_other) (fun _ => staging_withPool) ok spent
      ((cleared_iff real).mpr stage_after)
  · refine Course.advances_retry kept (fun _ => pool_withPool_other) (fun _ => staging_withPool) retry ?_
    rw [left_clearing, left_clearing, stage_after]
    exact count

/-- One pass takes a staged copy away, and closes the access to its snapshot first. -/
theorem removeStagedCopy_advances (clear : Clearable polls c) :
    (clearing polls job).Advances [.stagedCopy] (removeStagedCopy timing job) c := by
  cases found : c.staging.objects.get? job.names.stagedCopy with
  | none =>
    have ran := removeStagedCopy_missing timing found
    have kept : (clearing polls job).kept c c := ⟨id, fun kind gone => ⟨gone, rfl⟩⟩
    exact Course.advances_done kept (fun _ _ => rfl) (fun _ => rfl) ran.run rfl found
  | some copying =>
    obtain ⟨copied, total, ran⟩ := removeStagedCopy_found timing clear.revocations found
    have kept : (clearing polls job).kept c (c.withStaging
        ((c.staging.watched job.names.stagedCopy copying).revoked.without job.names.stagedCopy)) := by
      refine ⟨fun _ => clear.withStaging clear.revocations, ?_⟩
      intro k start
      by_cases staged : k = .stagedCopy
      · subst staged
        rw [Cleared, found] at start
        cases start
      · exact ⟨(cleared_congr (pool_withStaging _) fun same => absurd same staged).mpr start,
          deletions_congr (pool_withStaging _) fun same => absurd same staged⟩
    exact Course.advances_done kept (fun _ _ => pool_withStaging _) (fun other => absurd rfl other) ran.run
      rfl Staging.without_object

theorem removeKind_advances (clear : Clearable polls c) :
    (clearing polls job).Advances [kind] (removeKind timing job kind) c := by
  cases kind with
  | stagedCopy => exact removeStagedCopy_advances clear
  | snapshot | volume | networkInterface | scanner => exact ensureAbsent_advances clear (by decide)

theorem removeAll_advances {order : List ResourceKind} (distinct : order.Nodup)
    (clear : Clearable polls c) : (clearing polls job).Advances order (removeAll timing job order) c := by
  induction order generalizing c with
  | nil =>
    constructor
    case kept => exact ⟨id, fun kind gone => ⟨gone, rfl⟩⟩
    case pools => exact fun k _ => rfl
    case staging => exact fun _ => rfl
    case ends => exact fun _ => ⟨⟨(), rfl⟩, by simp⟩
    case waits => exact fun some => absurd rfl some
  | cons kind kinds ih =>
    rw [List.nodup_cons] at distinct
    exact (removeKind_advances clear).bind distinct.1 fun _ _ kept => ih distinct.2 (kept.1 clear)

/-- A teardown pass on a simulated account. -/
def teardownPass (facilities : Facilities) (timing : Timing) (job : Job) :
    Program clients (Except Setback Unit) :=
  (teardown facilities timing job).run

/-- How many teardown passes end short of a job's resources all being gone. -/
def passesToClear (facilities : Facilities) (polls : Nat) (job : Job) (c : Cloud) : Nat :=
  sumOver (fun kind => Stage.removalPasses polls (c.stage kind (job.names.of kind)))
    (removalOrder facilities job)

variable {facilities : Facilities}

theorem teardown_advances (clear : Clearable polls c) :
    (clearing polls job).Advances (removalOrder facilities job) (teardown facilities timing job) c := by
  rw [teardown_eq_removeAll]
  exact removeAll_advances (removalOrder_nodup facilities job) clear

/-- Teardown passes retry exactly as often as what is there takes. From then on they succeed and nothing
is left, and the passes after the first that succeeds ask for no deletion. -/
theorem teardown_converges (clear : Clearable polls c) :
    (∀ i < passesToClear facilities polls job c, ∃ delay reason,
      (run (teardownPass facilities timing job) (repeated (teardownPass facilities timing job) i c)).1 =
        .error (.retry delay reason)) ∧
    (∀ i ≥ passesToClear facilities polls job c,
      (run (teardownPass facilities timing job) (repeated (teardownPass facilities timing job) i c)).1 =
        .ok () ∧
      ∀ kind ∈ removalOrder facilities job,
        Cleared job (repeated (teardownPass facilities timing job) (i + 1) c) kind) ∧
    ∀ i > passesToClear facilities polls job c, ∀ kind,
      deletions (repeated (teardownPass facilities timing job) (i + 1) c) kind =
        deletions (repeated (teardownPass facilities timing job) i c) kind := by
  have down : Countdown (teardownPass facilities timing job) ((clearing polls job).kept c)
      ((clearing polls job).total · (removalOrder facilities job)) :=
    Course.countdown fun c' kept => teardown_advances (kept.1 clear)
  have start : (clearing polls job).kept c c := ⟨id, fun kind gone => ⟨gone, rfl⟩⟩
  have advances (i : Nat) : (clearing polls job).Advances (removalOrder facilities job)
      (teardown facilities timing job) (repeated (teardownPass facilities timing job) i c) :=
    teardown_advances ((down.repeated start i).1.1 clear)
  have gone (i : Nat) (late : passesToClear facilities polls job c ≤ i) :
      ∀ kind ∈ removalOrder facilities job,
        Cleared job (repeated (teardownPass facilities timing job) (i + 1) c) kind := by
    have count := (down.repeated start i).2
    have spent : (clearing polls job).total c (removalOrder facilities job) ≤ i := late
    exact ((advances i).ends (by omega)).2
  refine ⟨fun i => (down.exact start i).1, fun i late => ⟨(down.exact start i).2 late, gone i late⟩, ?_⟩
  intro i later kind
  obtain ⟨i, rfl⟩ : ∃ j, i = j + 1 := ⟨i - 1, by omega⟩
  by_cases member : kind ∈ removalOrder facilities job
  · have absent := gone i (by omega) kind member
    exact ((advances (i + 1)).kept.2 kind absent).2
  · refine deletions_congr ((advances (i + 1)).pools kind member) ?_
    intro staged
    subst staged
    exact (advances (i + 1)).staging member

end

/-- Every kind of resource in another stage, a staged copy, and access that is still open. -/
def halfway : Cloud :=
  let c := (Cloud.empty 4).withDeletionPolls 3
  { c with
    snapshots := c.snapshots.place "asset-scan-snapshot-scan-0001" .partly
    volumes := c.volumes.place "asset-scan-volume-scan-0001" (.provisioning 1)
    networks := c.networks.place "asset-scan-nic-scan-0001" (.deleting 3)
    scanners := c.scanners.place "asset-scan-scanner-scan-0001" .ready
    staging := { c.staging with
      objects := ⟨[("scan-0001.vhd", { left := 2, fails := false })]⟩
      activeGrants := 1 } }

theorem teardown_converges_halfway :
    passesToClear (facilities true) 3 (sampleJob true) halfway = 7 ∧
    (∃ delay reason, (run (teardownPass (facilities true) .cloud (sampleJob true))
      (repeated (teardownPass (facilities true) .cloud (sampleJob true)) 6 halfway)).1 =
        .error (.retry delay reason)) ∧
    (run (teardownPass (facilities true) .cloud (sampleJob true))
      (repeated (teardownPass (facilities true) .cloud (sampleJob true)) 7 halfway)).1 = .ok () := by
  have clear : Clearable 3 halfway := by
    constructor
    case looks => exact fun kind => by cases kind <;> rfl
    case deletions => exact fun kind real => by cases kind <;> first | rfl | exact absurd rfl real
    case revocations => rfl
  have needed : passesToClear (facilities true) 3 (sampleJob true) halfway = 7 := by decide +kernel
  obtain ⟨waits, ends, -⟩ := @teardown_converges halfway (sampleJob true) 3 .cloud (facilities true) clear
  rw [needed] at waits ends
  exact ⟨needed, waits 6 (by decide), (ends 7 (by decide)).1⟩

end Cloud

end ScanProvisioning.Rehearsal
