import ScanProvisioning.Proofs.Rehearsal.Runs

namespace ScanProvisioning.Rehearsal

open Program Pass

namespace Stage

/-- What a look shows of a resource; `none` where it is reported missing. -/
def shown : Option Stage → Option ResourceState
  | none => none
  | some (provisioning 0) => some .ready
  | some (provisioning (_ + 1)) => some .provisioning
  | some ready => some .ready
  | some failed => some .failed
  | some partly => some .absent
  | some (deleting 0) => none
  | some (deleting (_ + 1)) => some .provisioning

/-- The stage after a look. -/
def looked : Option Stage → Option Stage
  | some (provisioning 0) => some ready
  | some (provisioning (left + 1)) => some (provisioning left)
  | some (deleting 0) => none
  | some (deleting (left + 1)) => some (deleting left)
  | s => s

/-- The stage after a deletion has been asked for. -/
def dropped (polls : Nat) : Option Stage → Option Stage
  | none => none
  | some (deleting left) => some (deleting left)
  | some _ => some (deleting polls)

end Stage

namespace Pool

/-- How a pool stands after calls about one resource: the stage of that resource, and how many
creations and deletions were asked for. -/
structure Moved (name : String) (stage : Option Stage) (creations deletions : Nat) (p q : Pool) : Prop where
  stage : q.resources.get? name = stage
  creates : q.creates = p.creates + creations
  deletes : q.deletes = p.deletes + deletions
  provisioningPolls : q.provisioningPolls = p.provisioningPolls
  deletionPolls : q.deletionPolls = p.deletionPolls
  observeFailure : q.observeFailure = p.observeFailure
  createFailure : q.createFailure = p.createFailure

variable {p q r : Pool} {name : String}

theorem Moved.trans {s t : Option Stage} {a b d e : Nat} (first : Moved name s a b p q)
    (second : Moved name t d e q r) : Moved name t (a + d) (b + e) p r where
  stage := second.stage
  creates := by rw [second.creates, first.creates, Nat.add_assoc]
  deletes := by rw [second.deletes, first.deletes, Nat.add_assoc]
  provisioningPolls := second.provisioningPolls.trans first.provisioningPolls
  deletionPolls := second.deletionPolls.trans first.deletionPolls
  observeFailure := second.observeFailure.trans first.observeFailure
  createFailure := second.createFailure.trans first.createFailure

theorem moved_place (stage : Stage) : Moved name (some stage) 0 0 p (p.place name stage) where
  stage := by simp [place, Registry.get?_set]
  creates := rfl
  deletes := rfl
  provisioningPolls := rfl
  deletionPolls := rfl
  observeFailure := rfl
  createFailure := rfl

theorem moved_gone : Moved name none 0 0 p { p with resources := p.resources.erase name } where
  stage := by simp [Registry.get?_erase]
  creates := rfl
  deletes := rfl
  provisioningPolls := rfl
  deletionPolls := rfl
  observeFailure := rfl
  createFailure := rfl

private theorem missing_verdict (operation : String) : (Failure.missing operation).verdict = .missing := by
  rfl

/-- A look answers with what the stage shows, and moves it on. -/
theorem observe_spec (name : String) (calm : p.observeFailure = none) :
    Moved name (Stage.looked (p.resources.get? name)) 0 0 p (p.observe name).2 ∧
    match Stage.shown (p.resources.get? name) with
    | some state => ∃ status, (p.observe name).1 = .ok ⟨p.handle name, state, status⟩
    | none => ∃ f : Failure, f.verdict = .missing ∧ (p.observe name).1 = .error f := by
  have gone := missing_verdict ("getting " ++ p.kind.name)
  have counted : Moved name (p.resources.get? name) 0 0 p
      { p with observes := p.observes + 1, observeFailure := none } :=
    ⟨rfl, rfl, rfl, rfl, rfl, calm.symm, rfl⟩
  simp only [observe, calm]
  cases found : p.resources.get? name with
  | none =>
    rw [found] at counted
    exact ⟨counted, _, gone, rfl⟩
  | some stage =>
    rw [found] at counted
    cases stage with
    | provisioning left =>
      cases left with
      | zero => exact ⟨counted.trans (moved_place .ready), _, rfl⟩
      | succ left => exact ⟨counted.trans (moved_place (.provisioning left)), _, rfl⟩
    | ready => exact ⟨counted, _, rfl⟩
    | failed => exact ⟨counted, _, rfl⟩
    | partly => exact ⟨counted, _, rfl⟩
    | deleting left =>
      cases left with
      | zero => exact ⟨counted.trans moved_gone, _, gone, rfl⟩
      | succ left => exact ⟨counted.trans (moved_place (.deleting left)), _, rfl⟩

theorem delete_spec (there : p.resources.get? name ≠ none) :
    Moved name (Stage.dropped p.deletionPolls (p.resources.get? name)) 0 1 p (p.delete name).2 ∧
    (p.delete name).1 = .ok () := by
  have counted : Moved name (p.resources.get? name) 0 1 p { p with deletes := p.deletes + 1 } :=
    ⟨rfl, rfl, rfl, rfl, rfl, rfl, rfl⟩
  simp only [delete]
  cases found : p.resources.get? name with
  | none => exact absurd found there
  | some stage =>
    rw [found] at counted
    cases stage with
    | deleting left => exact ⟨counted, rfl⟩
    | provisioning left => exact ⟨counted.trans (moved_place _), rfl⟩
    | ready => exact ⟨counted.trans (moved_place _), rfl⟩
    | failed => exact ⟨counted.trans (moved_place _), rfl⟩
    | partly => exact ⟨counted.trans (moved_place _), rfl⟩

theorem create_spec (spec : ResourceSpec) (calm : p.createFailure = none)
    (unmade : p.resources.get? name = none ∨ p.resources.get? name = some .partly) :
    Moved name (some (.provisioning p.provisioningPolls)) 1 0 p (p.create name spec).2 ∧
    (p.create name spec).1 = .ok () := by
  have counted : Moved name (p.resources.get? name) 1 0 p
      { p with creates := p.creates + 1, specs := spec :: p.specs, createFailure := none } :=
    ⟨rfl, rfl, rfl, rfl, rfl, rfl, calm.symm⟩
  simp only [create, calm]
  rcases unmade with found | found
  · rw [found]
    exact ⟨counted.trans (moved_place _), rfl⟩
  · rw [found]
    exact ⟨counted.trans (moved_place _), rfl⟩

end Pool

namespace Cloud

variable {c : Cloud} {kind : ResourceKind} {name : String} {estimate : Duration}

theorem stage_withPool {p q : Pool} {t : Option Stage} {a b : Nat} (real : kind ≠ .stagedCopy)
    (moved : Pool.Moved name t a b p q) : (c.withPool kind q).stage kind name = t := by
  rw [stage, pool_withPool real, moved.stage]

/-- The part of making sure of a resource that starts its creation. -/
def creation (kind : ResourceKind) (name : String) (estimate : Duration) (spec : ResourceSpec) :
    Pass Handle := do
  match ← Pass.ask (.create name spec) with
  | .error f => giveUp ("creating " ++ label kind name) f
  | .ok () => throw (.retry estimate (label kind name ++ " creation started"))

theorem run_creation {spec : ResourceSpec} (name : String) (estimate : Duration)
    (calm : (c.pool spec.kind).createFailure = none)
    (unmade : c.stage spec.kind name = none ∨ c.stage spec.kind name = some .partly) :
    ∃ q reason, run (creation kind name estimate spec).run c =
        (.error (.retry estimate reason), c.withPool spec.kind q) ∧
      Pool.Moved name (some (.provisioning (c.pool spec.kind).provisioningPolls)) 1 0
        (c.pool spec.kind) q := by
  obtain ⟨moved, created⟩ := Pool.create_spec spec calm unmade
  refine ⟨_, label kind name ++ " creation started", ?_, moved⟩
  rw [creation, run_ask, answer_create, created]
  rfl

theorem answer_delete_there (real : kind ≠ .stagedCopy) (there : c.stage kind name ≠ none) :
    ∃ q, answer (.delete kind name) c = (.ok (), c.withPool kind q) ∧
      Pool.Moved name (Stage.dropped (c.pool kind).deletionPolls (c.stage kind name)) 0 1
        (c.pool kind) q := by
  obtain ⟨moved, deleted⟩ := Pool.delete_spec there
  refine ⟨_, ?_, moved⟩
  rw [answer_delete real, deleted]

section

variable (real : kind ≠ .stagedCopy) (calm : (c.pool kind).observeFailure = none)

include real calm

theorem run_isPresent (name : String) : ∃ q,
    run (isPresent kind name).run c = (.ok (Stage.shown (c.stage kind name)).isSome, c.withPool kind q) ∧
    Pool.Moved name (Stage.looked (c.stage kind name)) 0 0 (c.pool kind) q := by
  obtain ⟨moved, told⟩ := Pool.observe_spec name calm
  refine ⟨_, ?_, moved⟩
  rw [run_step (isPresent_run kind name), answer_observe real]
  rw [stage]
  cases shows : Stage.shown ((c.pool kind).resources.get? name) with
  | none =>
    rw [shows] at told
    obtain ⟨f, missing, answer⟩ := told
    rw [answer, unlessMissing_missing missing]
    rfl
  | some state =>
    rw [shows] at told
    obtain ⟨status, answer⟩ := told
    rw [answer]
    rfl

/-- Making sure of a resource goes on as its stage shows. -/
theorem run_ensure (name : String) (estimate : Duration) (spec : Pass ResourceSpec) : ∃ q,
    Pool.Moved name (Stage.looked (c.stage kind name)) 0 0 (c.pool kind) q ∧
    match Stage.shown (c.stage kind name) with
    | some .ready => ∃ handle,
      run (ensure kind name estimate spec).run c = (.ok handle, c.withPool kind q)
    | some .provisioning => ∃ reason,
      run (ensure kind name estimate spec).run c = (.error (.retry estimate reason), c.withPool kind q)
    | some .failed => ∃ reason,
      run (ensure kind name estimate spec).run c = (.error (.fatal reason), c.withPool kind q)
    | _ => run (ensure kind name estimate spec).run c =
      run (spec >>= creation kind name estimate).run (c.withPool kind q) := by
  obtain ⟨moved, told⟩ := Pool.observe_spec name calm
  refine ⟨_, moved, ?_⟩
  have look := run_step (observe_run kind name) c
  rw [answer_observe real] at look
  rw [stage]
  cases shows : Stage.shown ((c.pool kind).resources.get? name) with
  | none =>
    rw [shows] at told
    obtain ⟨f, missing, answer⟩ := told
    rw [answer, unlessMissing_missing missing] at look
    rw [ensure, run_bind_ok look]
    rfl
  | some state =>
    rw [shows] at told
    obtain ⟨status, answer⟩ := told
    rw [answer] at look
    rw [ensure]
    cases state with
    | absent => exact run_bind_ok look
    | provisioning => exact ⟨_, run_bind_ok look⟩
    | ready => exact ⟨_, run_bind_ok look⟩
    | failed => exact ⟨_, run_bind_ok look⟩

end

end Cloud

end ScanProvisioning.Rehearsal
