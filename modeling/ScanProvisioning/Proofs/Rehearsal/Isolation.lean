import ScanProvisioning.Proofs.Pass.Teardown
import ScanProvisioning.Proofs.Rehearsal.Effects
import ScanProvisioning.Provider

namespace ScanProvisioning

/-- A resource belongs to the jobs of one scan only. -/
theorem Job.scanId_eq_of_resource_eq {first second : Job} {k l : ResourceKind}
    (same : first.resource k = second.resource l) : first.scanId = second.scanId := by
  obtain ⟨rfl, named⟩ := Prod.mk.inj same
  apply ScanId.ext
  apply String.toList_inj.mp
  have spelled := congrArg String.toList named
  cases k <;>
    simpa [Names.of, Job.names, Names.ofScan, String.toList_append] using spelled

namespace Rehearsal

open Program Pass

/-- A call that is about no resource but those of a job. -/
def Concerns (job : Job) (call : ClientCall) : Prop :=
  ∀ resource, call.about = some resource → ∃ kind, resource = job.resource kind

namespace Pool

variable {p q : Pool} {name : String}

/-- What has been set about a pool, without what has been made in it. -/
def bare (p : Pool) : Pool :=
  { p with resources := {}, specs := [], observes := 0, creates := 0, deletes := 0 }

private theorem bare_observe : (p.observe name).2.bare = p.bare := by
  simp only [observe]
  split
  · rfl
  · split <;> rfl

private theorem bare_create (spec : ResourceSpec) : (p.create name spec).2.bare = p.bare := by
  simp only [create]
  split
  · rfl
  · split <;> rfl

private theorem bare_delete : (p.delete name).2.bare = p.bare := by
  simp only [delete]
  split <;> rfl

section

variable (alike : p.bare = q.bare)

include alike

theorem observe_congr (stage : p.resources.get? name = q.resources.get? name) :
    (p.observe name).1 = (q.observe name).1 := by
  have kind : p.kind = q.kind := (congrArg Pool.kind alike :)
  have failure : p.observeFailure = q.observeFailure := (congrArg Pool.observeFailure alike :)
  simp only [observe, seen, handle, kind, failure, stage]
  cases q.observeFailure with
  | some f => rfl
  | none =>
    cases q.resources.get? name with
    | none => rfl
    | some stage =>
      cases stage with
      | provisioning left | deleting left => cases left <;> rfl
      | ready | failed | partly => rfl

theorem create_congr (spec : ResourceSpec) : (p.create name spec).1 = (q.create name spec).1 := by
  have failure : p.createFailure = q.createFailure := (congrArg Pool.createFailure alike :)
  simp only [create, failure]
  cases q.createFailure with
  | some f => rfl
  | none =>
    dsimp only
    split <;> split <;> rfl

theorem delete_congr (stage : p.resources.get? name = q.resources.get? name) :
    (p.delete name).1 = (q.delete name).1 := by
  have kind : p.kind = q.kind := (congrArg Pool.kind alike :)
  simp only [delete, kind, stage]
  cases q.resources.get? name with
  | none => rfl
  | some stage => cases stage <;> rfl

end

end Pool

namespace Staging

variable {s t : Staging} {name : String}

/-- What has been set about the staging area, without what has been made in it. -/
def bare (s : Staging) : Staging :=
  { s with objects := {}, grants := 0, revokes := 0, activeGrants := 0, deletes := 0 }

/-- No failure has been ordered that only the next call would meet, whoever makes it. -/
def Impartial (s : Staging) : Prop := s.revokeFailure = none ∧ s.failNextCopy = false

private theorem bare_copyStatus : (s.copyStatus name).2.bare = s.bare := by
  simp only [copyStatus]
  split <;> rfl

private theorem bare_deleteCopy : (s.deleteCopy name).2.bare = s.bare := by
  simp only [deleteCopy]
  split <;> rfl

private theorem Impartial.bare_revoke (impartial : s.Impartial) : s.revoke.2.bare = s.bare := by
  simp only [revoke, bare, impartial.1]

private theorem Impartial.bare_startCopy (impartial : s.Impartial) : (s.startCopy name).2.bare = s.bare := by
  simp only [startCopy, impartial.2]
  split
  · rfl
  · rw [← impartial.2]
    rfl

theorem Impartial.of_bare (impartial : s.Impartial) (alike : t.bare = s.bare) : t.Impartial :=
  ⟨(congrArg Staging.revokeFailure alike :).trans impartial.1,
    (congrArg Staging.failNextCopy alike :).trans impartial.2⟩

end Staging

namespace Cloud

variable {facilities : Facilities} {timing : Timing} {job : Job} {c d e : Cloud} {kind : ResourceKind}
  {call : ClientCall}

theorem bare_pool_answer (call : ClientCall) (c : Cloud) (kind : ResourceKind) :
    ((answer call c).2.pool kind).bare = (c.pool kind).bare := by
  have changed (k : ResourceKind) {q : Pool} (same : q.bare = (c.pool k).bare) :
      ((c.withPool k q).pool kind).bare = (c.pool kind).bare := by
    by_cases own : kind = k
    · subst own
      cases kind <;> first | exact same | rfl
    · rw [pool_withPool_other own]
  cases call with
  | observe k n =>
    by_cases real : k = .stagedCopy
    · subst real
      rfl
    · rw [answer_observe real]
      exact changed k Pool.bare_observe
  | create n spec =>
    rw [answer_create]
    exact changed spec.kind (Pool.bare_create spec)
  | delete k n =>
    by_cases real : k = .stagedCopy
    · subst real
      rfl
    · rw [answer_delete real]
      exact changed k Pool.bare_delete
  | grantAccess | revokeAccess | copyStatus | startCopy | deleteCopy => cases kind <;> rfl
  | listAssets => rfl

theorem bare_staging_answer (impartial : c.staging.Impartial) (call : ClientCall) :
    (answer call c).2.staging.bare = c.staging.bare := by
  cases call with
  | observe k n => cases k <;> rfl
  | create n spec => cases spec <;> rfl
  | delete k n => cases k <;> rfl
  | grantAccess | listAssets => rfl
  | revokeAccess => exact impartial.bare_revoke
  | copyStatus n => exact Staging.bare_copyStatus
  | startCopy n source => exact impartial.bare_startCopy
  | deleteCopy n => exact Staging.bare_deleteCopy

theorem assets_answer (call : ClientCall) (c : Cloud) : (answer call c).2.assets = c.assets := by
  cases call with
  | observe k n => cases k <;> rfl
  | create n spec => cases spec <;> rfl
  | delete k n => cases k <;> rfl
  | grantAccess | revokeAccess | copyStatus | startCopy | deleteCopy | listAssets => rfl

/-- What an account holds for a job: the stages of its resources, and its staged object. -/
structure Holdings where
  stages : ResourceKind → Option Stage
  object : Option Copying

def holdings (c : Cloud) (job : Job) : Holdings where
  stages kind := c.stage kind (job.names.of kind)
  object := c.staging.objects.get? job.names.stagedCopy

/-- Two accounts look the same to a job. -/
structure Alike (job : Job) (c d : Cloud) : Prop where
  pools : ∀ kind, (d.pool kind).bare = (c.pool kind).bare
  staging : d.staging.bare = c.staging.bare
  assets : d.assets = c.assets
  holdings : d.holdings job = c.holdings job

theorem Alike.refl (job : Job) (c : Cloud) : Alike job c c := ⟨fun _ => rfl, rfl, rfl, rfl⟩

theorem Alike.symm (alike : Alike job c d) : Alike job d c :=
  ⟨fun kind => (alike.pools kind).symm, alike.staging.symm, alike.assets.symm, alike.holdings.symm⟩

theorem Alike.trans (first : Alike job c d) (second : Alike job d e) : Alike job c e where
  pools kind := (second.pools kind).trans (first.pools kind)
  staging := second.staging.trans first.staging
  assets := second.assets.trans first.assets
  holdings := second.holdings.trans first.holdings

theorem Alike.stage (alike : Alike job c d) (kind : ResourceKind) :
    d.stage kind (job.names.of kind) = c.stage kind (job.names.of kind) :=
  congrFun (congrArg Holdings.stages alike.holdings) kind

theorem Alike.object (alike : Alike job c d) :
    d.staging.objects.get? job.names.stagedCopy = c.staging.objects.get? job.names.stagedCopy :=
  congrArg Holdings.object alike.holdings

theorem stageAfter_congr {p q : Pool} {name : String} {s : Option Stage} (alike : p.bare = q.bare) :
    stageAfter p kind name call s = stageAfter q kind name call s := by
  have observing : p.observeFailure = q.observeFailure := (congrArg Pool.observeFailure alike :)
  have creating : p.createFailure = q.createFailure := (congrArg Pool.createFailure alike :)
  have making : p.provisioningPolls = q.provisioningPolls := (congrArg Pool.provisioningPolls alike :)
  have leaving : p.deletionPolls = q.deletionPolls := (congrArg Pool.deletionPolls alike :)
  cases call <;> simp only [stageAfter, observing, creating, making, leaving]

theorem objectAfter_congr {s t : Staging} {name : String} {o : Option Copying} (alike : s.bare = t.bare) :
    objectAfter s name call o = objectAfter t name call o := by
  have starting : s.startFailure = t.startFailure := (congrArg Staging.startFailure alike :)
  have copying : s.copyPolls = t.copyPolls := (congrArg Staging.copyPolls alike :)
  have failing : s.failNextCopy = t.failNextCopy := (congrArg Staging.failNextCopy alike :)
  cases call <;> simp only [objectAfter, starting, copying, failing]

/-- A call changes accounts that look the same in the same way. -/
theorem Alike.answer (alike : Alike job c d) (impartial : c.staging.Impartial) (call : ClientCall) :
    Alike job (answer call c).2 (answer call d).2 where
  pools kind := by rw [bare_pool_answer, bare_pool_answer, alike.pools]
  staging := by
    rw [bare_staging_answer impartial, bare_staging_answer (impartial.of_bare alike.staging), alike.staging]
  assets := by rw [assets_answer, assets_answer, alike.assets]
  holdings := by
    have stages (kind : ResourceKind) : (Cloud.answer call d).2.stage kind (job.names.of kind) =
        (Cloud.answer call c).2.stage kind (job.names.of kind) := by
      by_cases real : kind = .stagedCopy
      · subst real
        rfl
      · rw [stage_answer real, stage_answer real, alike.stage, stageAfter_congr (alike.pools kind)]
    rw [Cloud.holdings, Cloud.holdings, object_answer, object_answer, alike.object,
      objectAfter_congr alike.staging]
    exact congrArg (Holdings.mk · _) (funext stages)

/-- Accounts that look the same to a job answer its calls in the same way. -/
theorem Alike.reply (alike : Alike job c d) (own : Concerns job call) :
    (Cloud.answer call d).1 = (Cloud.answer call c).1 := by
  have named {k : ResourceKind} {n : String} (about : call.about = some (k, n)) : n = job.names.of k := by
    obtain ⟨kind, same⟩ := own _ about
    obtain ⟨rfl, rfl⟩ := Prod.mk.inj same
    rfl
  cases call with
  | observe k n =>
    by_cases real : k = .stagedCopy
    · subst real
      rfl
    · obtain rfl := named rfl
      rw [answer_observe real, answer_observe real]
      exact Pool.observe_congr (alike.pools k) (alike.stage k)
  | create n spec =>
    rw [answer_create, answer_create]
    exact Pool.create_congr (alike.pools spec.kind) spec
  | delete k n =>
    by_cases real : k = .stagedCopy
    · subst real
      rfl
    · obtain rfl := named rfl
      rw [answer_delete real, answer_delete real]
      exact Pool.delete_congr (alike.pools k) (alike.stage k)
  | grantAccess => rfl
  | revokeAccess =>
    have failure : d.staging.revokeFailure = c.staging.revokeFailure :=
      (congrArg Staging.revokeFailure alike.staging :)
    change d.staging.revoke.1 = c.staging.revoke.1
    simp only [Staging.revoke, failure]
    split <;> rfl
  | copyStatus n =>
    obtain rfl : n = job.names.stagedCopy := named rfl
    change (d.staging.copyStatus _).1 = (c.staging.copyStatus _).1
    simp only [Staging.copyStatus, alike.object]
    split <;> rfl
  | startCopy n source =>
    have failure : d.staging.startFailure = c.staging.startFailure :=
      (congrArg Staging.startFailure alike.staging :)
    change (d.staging.startCopy n).1 = (c.staging.startCopy n).1
    simp only [Staging.startCopy, failure]
    split <;> rfl
  | deleteCopy n =>
    obtain rfl : n = job.names.stagedCopy := named rfl
    change (d.staging.deleteCopy _).1 = (c.staging.deleteCopy _).1
    simp only [Staging.deleteCopy, alike.object]
    split <;> rfl
  | listAssets => exact congrArg Except.ok alike.assets

/-- A call that is about nothing of a job leaves the account looking the same to it. -/
theorem alike_answer (impartial : c.staging.Impartial)
    (foreign : ∀ kind, call.about ≠ some (job.resource kind)) : Alike job c (Cloud.answer call c).2 where
  pools kind := bare_pool_answer call c kind
  staging := bare_staging_answer impartial call
  assets := assets_answer call c
  holdings := by
    have stages (kind : ResourceKind) : (Cloud.answer call c).2.stage kind (job.names.of kind) =
        c.stage kind (job.names.of kind) := by
      by_cases real : kind = .stagedCopy
      · subst real
        rfl
      · rw [stage_answer real]
        cases call with
        | observe k n => exact if_neg fun h => foreign kind (by rw [ClientCall.about, h.1, ← h.2.2]; rfl)
        | create n spec => exact if_neg fun h => foreign kind (by rw [ClientCall.about, h.1, ← h.2.2]; rfl)
        | delete k n => exact if_neg fun h => foreign kind (by rw [ClientCall.about, h.1, ← h.2]; rfl)
        | grantAccess | revokeAccess | copyStatus | startCopy | deleteCopy | listAssets => rfl
    have object : (Cloud.answer call c).2.staging.objects.get? job.names.stagedCopy =
        c.staging.objects.get? job.names.stagedCopy := by
      rw [object_answer]
      cases call with
      | copyStatus n => exact if_neg fun h => foreign .stagedCopy (by rw [ClientCall.about, ← h]; rfl)
      | startCopy n source => exact if_neg fun h => foreign .stagedCopy (by rw [ClientCall.about, ← h.2]; rfl)
      | deleteCopy n => exact if_neg fun h => foreign .stagedCopy (by rw [ClientCall.about, ← h]; rfl)
      | observe | create | delete | grantAccess | revokeAccess | listAssets => rfl
    rw [Cloud.holdings, Cloud.holdings, object]
    exact congrArg (Holdings.mk · _) (funext stages)

end Cloud

/-- A program that asks nothing about the resources of others, whatever it is answered. -/
def KeepsTo {α : Type} (job : Job) (p : Program clients α) : Prop :=
  Guarded (fun _ _ _ _ => True) (fun _ => Concerns job) (fun _ _ => True) p ()

section

variable {α β : Type} {facilities : Facilities} {timing : Timing} {job : Job} {call : ClientCall}

theorem concerns_own (kind : ResourceKind) (about : call.about = some (job.resource kind)) :
    Concerns job call := by
  intro resource same
  exact ⟨kind, Option.some.inj (same.symm.trans about)⟩

theorem concerns_nothing (about : call.about = none) : Concerns job call := by
  intro resource same
  cases about.symm.trans same

theorem KeepsTo.bind {p : Program clients α} {f : α → Program clients β} (first : KeepsTo job p)
    (rest : ∀ a, KeepsTo job (f a)) : KeepsTo job (p >>= f) :=
  guarded_bind (guarded_mono (fun _ a _ => rest a) first)

theorem KeepsTo.andThen {x : Pass α} {f : α → Pass β} (first : KeepsTo job x.run)
    (rest : ∀ a, KeepsTo job (f a).run) : KeepsTo job (x >>= f).run := by
  refine guarded_bindExcept (guarded_mono ?_ first)
  rintro _ (e | a) -
  · trivial
  · exact rest a

theorem keepsTo_ask {f : call.Reply → Pass β} (concerns : Concerns job call)
    (rest : ∀ r, KeepsTo job (f r).run) : KeepsTo job (Pass.ask call >>= f).run :=
  guarded_ask concerns fun r _ _ => rest r

theorem keepsTo_step {x : Pass α} {g : call.Reply → Except Setback α} {f : α → Pass β}
    (step : x.run = Program.ask (I := clients) call fun r => .done (g r)) (concerns : Concerns job call)
    (rest : ∀ a, KeepsTo job (f a).run) : KeepsTo job (x >>= f).run :=
  guarded_step step concerns (fun _ _ _ _ _ => trivial) fun _ _ a _ _ => rest a

theorem startCopy_keepsTo (name : String) :
    KeepsTo job (startCopy timing name job.names.stagedCopy).run := by
  refine keepsTo_ask (concerns_nothing rfl) ?_
  rintro (f | access)
  · trivial
  · refine keepsTo_ask (concerns_own .stagedCopy rfl) ?_
    rintro (f | ⟨⟩)
    · exact keepsTo_ask (concerns_nothing rfl) fun _ => trivial
    · trivial

theorem ensureStagedCopy_keepsTo (store : StagingStore) (snapshot : Handle) :
    KeepsTo job (ensureStagedCopy store timing job snapshot).run := by
  have looking : Concerns job (.copyStatus job.names.stagedCopy) := concerns_own .stagedCopy rfl
  have deleting : Concerns job (.deleteCopy job.names.stagedCopy) := concerns_own .stagedCopy rfl
  have restarting (status : CopyStatus) :
      KeepsTo job (restartCopy timing snapshot.name job.names.stagedCopy status).run := by
    refine keepsTo_step (revokeGrants_run _) (concerns_nothing rfl) fun _ => ?_
    exact keepsTo_step (deleteCopy_run _) deleting fun _ => trivial
  refine keepsTo_step (copyProgress_run _) looking ?_
  rintro (_ | ⟨status, copied, total⟩)
  · exact startCopy_keepsTo snapshot.name
  · cases status with
    | pending => trivial
    | success => exact keepsTo_step (revokeGrants_run _) (concerns_nothing rfl) fun _ => trivial
    | failed => exact restarting .failed
    | aborted => exact restarting .aborted

theorem ensure_keepsTo (kind : ResourceKind) {estimate : Duration} {spec : Pass ResourceSpec}
    (resolves : Guarded (fun _ _ _ _ => True) (fun _ => Concerns job)
      (fun _ result => ∀ spec, result = .ok spec → spec.kind = kind) spec.run ()) :
    KeepsTo job (ensure kind (job.names.of kind) estimate spec).run := by
  refine ensure_guarded (concerns_own kind rfl) (fun _ _ _ _ => trivial)
    (fun _ _ _ _ _ => trivial) ?_
  intro r t _ _
  refine guarded_mono ?_ resolves
  rintro _ (e | spec) fits
  · trivial
  · obtain rfl := fits spec rfl
    exact ⟨concerns_own spec.kind rfl, fun _ _ _ _ => trivial⟩

theorem ensurePure_keepsTo {estimate : Duration} (spec : ResourceSpec) :
    KeepsTo job (ensure spec.kind (job.names.of spec.kind) estimate (pure spec)).run := by
  refine ensure_keepsTo spec.kind ?_
  intro spec' same
  cases same
  rfl

theorem ensureVolume_keepsTo {source : Pass VolumeSource} (resolves : KeepsTo job source.run) :
    KeepsTo job (ensureVolume timing job source).run := by
  refine ensure_keepsTo .volume (guarded_bindExcept (guarded_mono ?_ resolves))
  rintro _ (e | source) -
  · intro spec same
    cases same
  · intro spec same
    cases same
    rfl

theorem build_keepsTo : KeepsTo job (build facilities timing job).run := by
  refine KeepsTo.andThen ?_ fun staging => ?_
  · unfold stagingFor
    split
    · split <;> trivial
    · trivial
  refine KeepsTo.andThen (ensurePure_keepsTo (.snapshot _)) fun snapshot => ?_
  refine KeepsTo.andThen (ensureVolume_keepsTo ?_) fun volume => ?_
  · cases staging with
    | none => trivial
    | some store => exact (ensureStagedCopy_keepsTo store snapshot).andThen fun _ => trivial
  have last (connection : Option Handle) :
      KeepsTo job (discard (ensureScanner timing job volume connection)).run :=
    guarded_mapExcept (ensurePure_keepsTo (.scanner _))
  cases facilities.hasNetwork with
  | false => exact last none
  | true =>
    exact KeepsTo.andThen (guarded_mapExcept (ensurePure_keepsTo (.networkInterface _))) last

theorem removeKind_keepsTo (kind : ResourceKind) : KeepsTo job (removeKind timing job kind).run := by
  have real : KeepsTo job (ensureAbsent kind (job.names.of kind) timing.deletion).run := by
    have looking : Concerns job (.observe kind (job.names.of kind)) := concerns_own kind rfl
    refine keepsTo_step (isPresent_run kind _) looking ?_
    rintro (_ | _)
    · trivial
    · refine keepsTo_ask (concerns_own kind rfl) ?_
      rintro (f | ⟨⟩)
      · dsimp only
        cases f.verdict <;> trivial
      · refine keepsTo_step (isPresent_run kind _) looking ?_
        rintro (_ | _) <;> trivial
  have staged : KeepsTo job (removeStagedCopy timing job).run := by
    have looking : Concerns job (.copyStatus job.names.stagedCopy) := concerns_own .stagedCopy rfl
    refine keepsTo_step (copyProgress_run _) looking ?_
    rintro (_ | _)
    · trivial
    · refine keepsTo_step (revokeGrants_run _) (concerns_nothing rfl) fun _ => ?_
      refine keepsTo_step (deleteCopy_run _) (concerns_own .stagedCopy rfl) fun _ => ?_
      refine keepsTo_step (copyProgress_run _) looking ?_
      rintro (_ | _) <;> trivial
  cases kind with
  | stagedCopy => exact staged
  | snapshot | volume | networkInterface | scanner => exact real

theorem removeAll_keepsTo (order : List ResourceKind) : KeepsTo job (removeAll timing job order).run := by
  induction order with
  | nil => trivial
  | cons kind kinds ih => exact (removeKind_keepsTo kind).andThen fun _ => ih

/-- The passes of a job, one after the other, with what each of them ends in. -/
def passes (facilities : Facilities) (job : Job) :
    List (Phase × Timing) → Program clients (List (Except Setback Unit))
  | [] => pure []
  | (phase, timing) :: calls => do
    let result ← (Pass.ofPhase facilities timing phase job).run
    let results ← passes facilities job calls
    return result :: results

theorem passes_keepsTo (calls : List (Phase × Timing)) : KeepsTo job (passes facilities job calls) := by
  induction calls with
  | nil => trivial
  | cons first calls ih =>
    obtain ⟨phase, timing⟩ := first
    refine KeepsTo.bind ?_ fun result => ih.bind fun results => trivial
    cases phase with
    | run => exact build_keepsTo
    | remove =>
      rw [Pass.ofPhase, teardown_eq_removeAll]
      exact removeAll_keepsTo _

end

/-- Two programs on one account, which take turns in any order, one question at a time; what each ends in,
and the account at the end. -/
inductive Together {α β : Type} : Program clients α → Program clients β → Cloud → α → β → Cloud → Prop
  | done (a : α) (b : β) (c : Cloud) : Together (.done a) (.done b) c a b c
  | left {call : ClientCall} {k : call.Reply → Program clients α} {q : Program clients β} {c d : Cloud}
      {a : α} {b : β} (rest : Together (k (Cloud.answer call c).1) q (Cloud.answer call c).2 a b d) :
      Together (.ask call k) q c a b d
  | right {call : ClientCall} {p : Program clients α} {k : call.Reply → Program clients β} {c d : Cloud}
      {a : α} {b : β} (rest : Together p (k (Cloud.answer call c).1) (Cloud.answer call c).2 a b d) :
      Together p (.ask call k) c a b d

section

open Cloud

variable {α β : Type} {facilities : Facilities} {first second : Job} {c d : Cloud}

theorem Together.swap {p : Program clients α} {q : Program clients β} {a : α} {b : β}
    (together : Together p q c a b d) : Together q p c b a d := by
  induction together with
  | done a b c => exact .done b a c
  | left rest ih => exact .right ih
  | right rest ih => exact .left ih

/-- What keeps to another scan's resources is about none of a job's. -/
theorem Concerns.foreign {call : ClientCall} (concerns : Concerns second call)
    (apart : first.scanId ≠ second.scanId) (kind : ResourceKind) :
    call.about ≠ some (first.resource kind) := by
  intro about
  obtain ⟨k, same⟩ := concerns _ about
  exact apart (Job.scanId_eq_of_resource_eq same)

/-- Beside a program that keeps to another scan, a program ends as it does alone, from any account that
looks the same to its job. -/
theorem Together.isolated {p : Program clients α} {q : Program clients β} {a : α} {b : β} {e : Cloud}
    (together : Together p q c a b d) (apart : first.scanId ≠ second.scanId) (own : KeepsTo first p)
    (other : KeepsTo second q) (impartial : c.staging.Impartial) (alike : Alike first c e) :
    a = (Cloud.run p e).1 ∧ Alike first d (Cloud.run p e).2 := by
  induction together generalizing e with
  | done a b c => exact ⟨rfl, alike⟩
  | @left call k q c d a b rest ih =>
    have told := alike.reply own.1
    have kept := impartial.of_bare (bare_staging_answer impartial call)
    rw [Cloud.run, Program.run]
    change a = (Cloud.run (k (answer call e).1) (answer call e).2).1 ∧
      Alike first d (Cloud.run (k (answer call e).1) (answer call e).2).2
    rw [told]
    exact ih (own.2 _ () trivial) other kept (alike.answer impartial call)
  | @right call p k c d a b rest ih =>
    have kept := impartial.of_bare (bare_staging_answer impartial call)
    have unseen : Alike first c (answer call c).2 := alike_answer impartial (other.1.foreign apart)
    exact ih own (other.2 _ () trivial) kept (unseen.symm.trans alike)

/-- Passes for two scans on one account end as they do where each scan has it alone, and leave the same
to either. -/
theorem passes_isolated {calls calls' : List (Phase × Timing)} {results results' : List (Except Setback Unit)}
    (apart : first.scanId ≠ second.scanId) (impartial : c.staging.Impartial)
    (together : Together (passes facilities first calls) (passes facilities second calls') c
      results results' d) :
    (results = (Cloud.run (passes facilities first calls) c).1 ∧
      d.holdings first = (Cloud.run (passes facilities first calls) c).2.holdings first) ∧
    (results' = (Cloud.run (passes facilities second calls') c).1 ∧
      d.holdings second = (Cloud.run (passes facilities second calls') c).2.holdings second) := by
  obtain ⟨ends, alike⟩ := together.isolated apart (passes_keepsTo calls) (passes_keepsTo calls') impartial
    (.refl first c)
  obtain ⟨ends', alike'⟩ := together.swap.isolated apart.symm (passes_keepsTo calls') (passes_keepsTo calls)
    impartial (.refl second c)
  exact ⟨⟨ends, alike.holdings.symm⟩, ends', alike'.holdings.symm⟩

/-- Two programs on one account that take the given turns, and go on one after the other when these are
used up. -/
def weave : List Bool → Program clients α → Program clients β → Cloud → α × β × Cloud
  | [], p, q, c => ((Cloud.run p c).1, Cloud.run q (Cloud.run p c).2)
  | true :: turns, .ask call k, q, c => weave turns (k (answer call c).1) q (answer call c).2
  | false :: turns, p, .ask call k, c => weave turns p (k (answer call c).1) (answer call c).2
  | true :: turns, .done a, q, c => weave turns (.done a) q c
  | false :: turns, p, .done b, c => weave turns p (.done b) c
termination_by structural turns => turns

private theorem together_run (p : Program clients α) (q : Program clients β) (c : Cloud) :
    Together p q c (Cloud.run p c).1 (Cloud.run q (Cloud.run p c).2).1 (Cloud.run q (Cloud.run p c).2).2 := by
  induction p generalizing c with
  | ask call k ih => exact .left (ih _ _)
  | done a =>
    induction q generalizing c with
    | ask call k ih => exact .right (ih _ _)
    | done b => exact .done a b c

private theorem together_weave (turns : List Bool) (p : Program clients α) (q : Program clients β) (c : Cloud) :
    Together p q c (weave turns p q c).1 (weave turns p q c).2.1 (weave turns p q c).2.2 := by
  fun_induction weave turns p q c with
  | case1 p q c => exact together_run p q c
  | case2 turns call k q c ih => exact .left ih
  | case3 turns p call k c ih => exact .right ih
  | case4 turns a q c ih => exact ih
  | case5 turns p b c ih => exact ih

end

section

open Cloud

def neighbour : Job := { sampleJob false with
  scanId := {
    text := "scan-0002"
    nonempty := by decide
    short := by decide
    allowed := List.all_eq_true.mp (by decide)
    bounded := by decide } }

def sharedAccount : Cloud := (Cloud.empty 1).withDeletionPolls 1

/-- Build passes until the scanner is there, and the first teardown passes. -/
def sampleCalls : List (Phase × Timing) :=
  List.replicate 12 (.run, .cloud) ++ List.replicate 3 (.remove, .cloud)

def alternating : List (Except Setback Unit) × List (Except Setback Unit) × Cloud :=
  weave (List.replicate 60 [true, false]).flatten (passes (facilities true) (sampleJob true) sampleCalls)
    (passes (facilities true) neighbour sampleCalls) sharedAccount

theorem passes_isolated_alternating :
    (sampleJob true).scanId ≠ neighbour.scanId ∧ sharedAccount.staging.Impartial ∧
    Together (passes (facilities true) (sampleJob true) sampleCalls)
      (passes (facilities true) neighbour sampleCalls) sharedAccount alternating.1 alternating.2.1
      alternating.2.2 ∧
    (alternating.1 = (Cloud.run (passes (facilities true) (sampleJob true) sampleCalls) sharedAccount).1 ∧
      alternating.2.2.holdings (sampleJob true) =
        (Cloud.run (passes (facilities true) (sampleJob true) sampleCalls) sharedAccount).2.holdings
          (sampleJob true)) ∧
    (alternating.2.1 = (Cloud.run (passes (facilities true) neighbour sampleCalls) sharedAccount).1 ∧
      alternating.2.2.holdings neighbour =
        (Cloud.run (passes (facilities true) neighbour sampleCalls) sharedAccount).2.holdings neighbour) ∧
    alternating.1.map (·.isOk) = List.replicate 10 false ++ [true, true, false, false, false] ∧
    (alternating.2.2.holdings neighbour).stages .scanner = none := by
  have apart : (sampleJob true).scanId ≠ neighbour.scanId := by decide
  have impartial : sharedAccount.staging.Impartial := ⟨rfl, rfl⟩
  have together := together_weave (List.replicate 60 [true, false]).flatten
    (passes (facilities true) (sampleJob true) sampleCalls)
    (passes (facilities true) neighbour sampleCalls) sharedAccount
  obtain ⟨own, other⟩ := passes_isolated apart impartial together
  exact ⟨apart, impartial, together, own, other, by decide +kernel, by decide +kernel⟩

end

end Rehearsal

end ScanProvisioning
