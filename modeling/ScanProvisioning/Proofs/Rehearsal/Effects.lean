import ScanProvisioning.Proofs.Rehearsal.Stages

namespace ScanProvisioning

theorem ResourceSpec.kind_ne_stagedCopy (spec : ResourceSpec) : spec.kind ≠ .stagedCopy := by
  cases spec <;> simp [kind]

namespace Rehearsal

namespace Stage

/-- The stage after a creation has been asked for. -/
def begun (polls : Nat) : Option Stage → Option Stage
  | none => some (provisioning polls)
  | some partly => some (provisioning polls)
  | s => s

end Stage

namespace Pool

variable {p : Pool} {name other : String}

theorem get?_place (stage : Stage) : (p.place name stage).resources.get? other =
    if other = name then some stage else p.resources.get? other := by
  rw [place, Registry.get?_set]

theorem get?_observe : (p.observe name).2.resources.get? other =
    if p.observeFailure = none ∧ other = name then Stage.looked (p.resources.get? other)
    else p.resources.get? other := by
  cases failing : p.observeFailure with
  | some f => simp [observe, failing]
  | none =>
    by_cases same : other = name
    · subst same
      have moved := (observe_spec (p := p) other failing).1
      simpa using moved.stage
    · rw [if_neg fun own => same own.2]
      simp only [observe, failing]
      cases found : p.resources.get? name with
      | none => rfl
      | some stage =>
        cases stage with
        | provisioning left | deleting left =>
          cases left <;> simp [place, Registry.get?_set, Registry.get?_erase, same]
        | ready | failed | partly => rfl

private theorem get?_create (spec : ResourceSpec) : (p.create name spec).2.resources.get? other =
    if p.createFailure = none ∧ other = name then
      Stage.begun p.provisioningPolls (p.resources.get? other)
    else p.resources.get? other := by
  cases failing : p.createFailure with
  | some f => simp [create, failing]
  | none =>
    by_cases same : other = name
    · subst same
      simp only [create, failing]
      cases found : p.resources.get? other with
      | none => simp [get?_place, Stage.begun]
      | some stage => cases stage <;> simp [get?_place, Stage.begun, found]
    · simp only [create, failing, same]
      cases p.resources.get? name with
      | none => simp [get?_place, same]
      | some stage => cases stage <;> simp [get?_place, same]

theorem get?_delete : (p.delete name).2.resources.get? other =
    if other = name then Stage.dropped p.deletionPolls (p.resources.get? other)
    else p.resources.get? other := by
  by_cases same : other = name
  · subst same
    simp only [delete]
    cases found : p.resources.get? other with
    | none => simp [found, Stage.dropped]
    | some stage => cases stage <;> simp [get?_place, Stage.dropped, found]
  · simp only [delete, same]
    cases p.resources.get? name with
    | none => simp
    | some stage => cases stage <;> simp [get?_place, same]

end Pool

namespace Staging

variable {s : Staging} {name other : String}

/-- A staged object after a look at it. -/
def watchedOnce (copying : Copying) : Copying := { copying with left := copying.left - 1 }

private theorem get?_copyStatus : (s.copyStatus name).2.objects.get? other =
    if other = name then (s.objects.get? other).map watchedOnce else s.objects.get? other := by
  simp only [copyStatus]
  by_cases same : other = name
  · subst same
    cases found : s.objects.get? other with
    | none => simp [found]
    | some copying => simp [Registry.get?_set, watchedOnce]
  · cases s.objects.get? name with
    | none => simp [same]
    | some copying => simp [Registry.get?_set, same]

private theorem get?_startCopy : (s.startCopy name).2.objects.get? other =
    if s.startFailure = none ∧ other = name then some { left := s.copyPolls, fails := s.failNextCopy }
    else s.objects.get? other := by
  cases failing : s.startFailure with
  | some f => simp [startCopy, failing]
  | none => simp [startCopy, failing, Registry.get?_set]

private theorem get?_deleteCopy : (s.deleteCopy name).2.objects.get? other =
    if other = name then none else s.objects.get? other := by
  simp only [deleteCopy]
  by_cases same : other = name
  · subst same
    cases found : s.objects.get? other with
    | none => simp [found]
    | some copying => simp [Registry.get?_erase]
  · cases s.objects.get? name with
    | none => simp [same]
    | some copying => simp [Registry.get?_erase, same]

private theorem objects_revoke : s.revoke.2.objects = s.objects := by
  cases failing : s.revokeFailure <;> simp [revoke, failing]

end Staging

namespace Cloud

variable {c : Cloud} {kind : ResourceKind} {name : String}

/-- The stage of a resource after a call. -/
def stageAfter (p : Pool) (kind : ResourceKind) (name : String) (call : ClientCall) (s : Option Stage) :
    Option Stage :=
  match call with
  | .observe k n => if k = kind ∧ p.observeFailure = none ∧ name = n then Stage.looked s else s
  | .create n spec =>
    if spec.kind = kind ∧ p.createFailure = none ∧ name = n then Stage.begun p.provisioningPolls s else s
  | .delete k n => if k = kind ∧ name = n then Stage.dropped p.deletionPolls s else s
  | _ => s

/-- A staged object after a call. -/
def objectAfter (s : Staging) (name : String) (call : ClientCall) (o : Option Copying) : Option Copying :=
  match call with
  | .copyStatus n => if name = n then o.map Staging.watchedOnce else o
  | .startCopy n _ =>
    if s.startFailure = none ∧ name = n then some { left := s.copyPolls, fails := s.failNextCopy } else o
  | .deleteCopy n => if name = n then none else o
  | _ => o

/-- The stages after a change to the pool of a kind. -/
theorem stage_changed {k : ResourceKind} {q : Pool} (real : k ≠ .stagedCopy) :
    (c.withPool k q).stage kind name =
      if k = kind then q.resources.get? name else c.stage kind name := by
  by_cases same : k = kind
  · subst same
    rw [stage, pool_withPool real, if_pos rfl]
  · rw [stage, pool_withPool_other (Ne.symm same), if_neg same, stage]

theorem stage_answer (real : kind ≠ .stagedCopy) (call : ClientCall) (c : Cloud) (name : String) :
    (answer call c).2.stage kind name = stageAfter (c.pool kind) kind name call (c.stage kind name) := by
  cases call with
  | observe k n =>
    by_cases staged : k = .stagedCopy
    · subst staged
      rw [stageAfter, if_neg fun same => real same.1.symm]
      rfl
    · rw [answer_observe staged, stage_changed staged, Pool.get?_observe, stageAfter, stage]
      by_cases same : k = kind
      · subst same
        simp
      · simp [same]
  | create n spec =>
    rw [answer_create, stage_changed spec.kind_ne_stagedCopy, Pool.get?_create, stageAfter, stage]
    by_cases same : spec.kind = kind
    · subst same
      simp
    · simp [same]
  | delete k n =>
    by_cases staged : k = .stagedCopy
    · subst staged
      rw [stageAfter, if_neg fun same => real same.1.symm]
      rfl
    · rw [answer_delete staged, stage_changed staged, Pool.get?_delete, stageAfter, stage]
      by_cases same : k = kind
      · subst same
        simp
      · simp [same]
  | grantAccess | revokeAccess | copyStatus | startCopy | deleteCopy => cases kind <;> rfl
  | listAssets => rfl

theorem object_answer (call : ClientCall) (c : Cloud) (name : String) :
    (answer call c).2.staging.objects.get? name =
      objectAfter c.staging name call (c.staging.objects.get? name) := by
  cases call with
  | observe k n => cases k <;> rfl
  | create n spec => cases spec <;> rfl
  | delete k n => cases k <;> rfl
  | grantAccess | listAssets => rfl
  | revokeAccess => exact congrArg (·.get? name) Staging.objects_revoke
  | copyStatus n => exact Staging.get?_copyStatus
  | startCopy n source => exact Staging.get?_startCopy
  | deleteCopy n => exact Staging.get?_deleteCopy

end Cloud

end Rehearsal

end ScanProvisioning
