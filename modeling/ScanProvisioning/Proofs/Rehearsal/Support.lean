import ScanProvisioning.Proofs.Pass.Dependency
import ScanProvisioning.Proofs.Rehearsal.Access
import ScanProvisioning.Proofs.Rehearsal.Dismantling
import ScanProvisioning.Proofs.Rehearsal.Effects
import ScanProvisioning.Provider

namespace ScanProvisioning

/-- What a resource of a job stands on: what it is made from, or what is created before it. -/
def Job.supports (facilities : Facilities) (job : Job) : ResourceKind → List ResourceKind
  | .snapshot => []
  | .stagedCopy => [.snapshot]
  | .volume => if job.crossesRegions then [.snapshot, .stagedCopy] else [.snapshot]
  | .networkInterface => [.volume]
  | .scanner => if facilities.hasNetwork then [.networkInterface, .volume] else [.volume]

namespace Rehearsal

open Program Pass

/-- What can be set about the resources of a kind: how long changes take, and the failures ordered. -/
structure PoolTerms where
  provisioningPolls : Nat := 0
  deletionPolls : Nat := 0
  observeFailure : Option Failure := none
  createFailure : Option Failure := none

def Pool.under (p : Pool) (t : PoolTerms) : Pool := { p with
  provisioningPolls := t.provisioningPolls
  deletionPolls := t.deletionPolls
  observeFailure := t.observeFailure
  createFailure := t.createFailure }

/-- What can be set about an account. -/
structure Terms where
  pools : ResourceKind → PoolTerms := fun _ => {}
  copyPolls : Nat := 0
  orders : Orders := {}

/-- No look fails as if its resource were missing. -/
def Terms.Honest (t : Terms) : Prop :=
  ∀ kind f, (t.pools kind).observeFailure = some f → f.verdict ≠ .missing

namespace Stage

/-- A resource that is there and is not being deleted. -/
def Stands (s : Option Stage) : Prop := s ≠ none ∧ ∀ left, s ≠ some (deleting left)

theorem Stands.looked {s : Option Stage} (stands : Stands s) : Stands (looked s) := by
  obtain ⟨there, kept⟩ := stands
  cases s with
  | none => exact absurd rfl there
  | some stage =>
    cases stage with
    | provisioning left => cases left <;> exact ⟨nofun, nofun⟩
    | ready | failed | partly => exact ⟨nofun, nofun⟩
    | deleting left => exact absurd rfl (kept left)

theorem Stands.begun {s : Option Stage} (polls : Nat) (stands : Stands s) : Stands (begun polls s) := by
  obtain ⟨there, kept⟩ := stands
  cases s with
  | none => exact absurd rfl there
  | some stage =>
    cases stage with
    | provisioning | ready | failed | partly => exact ⟨nofun, nofun⟩
    | deleting left => exact absurd rfl (kept left)

private theorem stands_of_shown_ready {s : Option Stage} (ready : shown s = some .ready) : Stands s := by
  cases s with
  | none => cases ready
  | some stage =>
    cases stage with
    | provisioning | ready => exact ⟨nofun, nofun⟩
    | failed | partly => cases ready
    | deleting left => cases left <;> cases ready

private theorem looked_ne_partly {s : Option Stage} (whole : s ≠ some partly) : looked s ≠ some partly := by
  cases s with
  | none => exact nofun
  | some stage =>
    cases stage with
    | provisioning left | deleting left => cases left <;> exact nofun
    | ready | failed => exact nofun
    | partly => exact absurd rfl whole

private theorem begun_ne_partly (polls : Nat) (s : Option Stage) : begun polls s ≠ some partly := by
  cases s with
  | none => exact nofun
  | some stage => cases stage <;> exact nofun

private theorem dropped_ne_partly (polls : Nat) (s : Option Stage) : dropped polls s ≠ some partly := by
  cases s with
  | none => exact nofun
  | some stage => cases stage <;> exact nofun

/-- A look that shows nothing, or something half created, is at a resource that it leaves gone. -/
theorem looked_eq_none {s : Option Stage} (whole : s ≠ some partly)
    (shows : shown s = none ∨ shown s = some .absent) : looked s = none := by
  cases s with
  | none => rfl
  | some stage =>
    cases stage with
    | provisioning left => cases left <;> simp [shown] at shows
    | ready | failed => simp [shown] at shows
    | partly => exact absurd rfl whole
    | deleting left =>
      cases left with
      | zero => rfl
      | succ left => simp [shown] at shows

end Stage

namespace Pool

variable {p : Pool} {name : String}

private theorem observe_ok {seen : Observation} (told : (p.observe name).1 = .ok seen) :
    p.observeFailure = none ∧ Stage.shown (p.resources.get? name) = some seen.state := by
  cases failing : p.observeFailure with
  | some f =>
    simp only [observe, failing] at told
    cases told
  | none =>
    refine ⟨rfl, ?_⟩
    obtain ⟨-, shows⟩ := observe_spec (p := p) name failing
    cases shown : Stage.shown (p.resources.get? name) with
    | none =>
      rw [shown] at shows
      obtain ⟨f, -, missing⟩ := shows
      cases told.symm.trans missing
    | some state =>
      rw [shown] at shows
      obtain ⟨status, found⟩ := shows
      cases told.symm.trans found
      rfl

private theorem observe_missing {f : Failure} (honest : ∀ f, p.observeFailure = some f → f.verdict ≠ .missing)
    (told : (p.observe name).1 = .error f) (missing : f.verdict = .missing) :
    p.observeFailure = none ∧ Stage.shown (p.resources.get? name) = none := by
  cases failing : p.observeFailure with
  | some f' =>
    simp only [observe, failing] at told
    cases told
    exact absurd missing (honest f failing)
  | none =>
    refine ⟨rfl, ?_⟩
    obtain ⟨-, shows⟩ := observe_spec (p := p) name failing
    cases shown : Stage.shown (p.resources.get? name) with
    | none => rfl
    | some state =>
      rw [shown] at shows
      obtain ⟨status, found⟩ := shows
      cases told.symm.trans found

end Pool

namespace Cloud

def under (c : Cloud) (t : Terms) : Cloud := { c with
  snapshots := c.snapshots.under (t.pools .snapshot)
  volumes := c.volumes.under (t.pools .volume)
  networks := c.networks.under (t.pools .networkInterface)
  scanners := c.scanners.under (t.pools .scanner)
  staging := { (c.order t.orders).staging with copyPolls := t.copyPolls } }

/-- The account's answer to a call before which anything may have been set, looks being honest. -/
def Replies (c : Cloud) (call : ClientCall) (r : call.Reply) (after : Cloud) : Prop :=
  ∃ t : Terms, t.Honest ∧ Cloud.answer call (c.under t) = (r, after)

/-- A resource of a job is there, in whatever state. -/
def Live (job : Job) (c : Cloud) (kind : ResourceKind) : Prop := ¬ Cleared job c kind

/-- A resource of a job is there and is not being deleted. -/
def Standing (job : Job) (c : Cloud) (kind : ResourceKind) : Prop :=
  Live job c kind ∧ ∀ left, c.stage kind (job.names.of kind) ≠ some (.deleting left)

variable {facilities : Facilities} {timing : Timing} {job : Job} {c c' d : Cloud} {kind : ResourceKind}
  {call : ClientCall} {r : call.Reply}

theorem stage_under (t : Terms) (name : String) : (c.under t).stage kind name = c.stage kind name := by
  cases kind <;> rfl

theorem standing_iff (real : kind ≠ .stagedCopy) :
    Standing job c kind ↔ Stage.Stands (c.stage kind (job.names.of kind)) := by
  rw [Standing, Live, cleared_iff real, Stage.Stands]

private theorem standing_stagedCopy : Standing job c .stagedCopy ↔ Live job c .stagedCopy :=
  ⟨And.left, fun live => ⟨live, nofun⟩⟩

private theorem live_under {t : Terms} : Live job (c.under t) kind ↔ Live job c kind := by
  cases kind <;> rfl

private theorem standing_under {t : Terms} : Standing job (c.under t) kind ↔ Standing job c kind := by
  rw [Standing, Standing, live_under, stage_under]

/-- Only a call that starts a resource makes it appear. -/
theorem cleared_answer (gone : Cleared job c kind)
    (aside : ¬ (call.starts = true ∧ call.about = some (job.resource kind))) :
    Cleared job (answer call c).2 kind := by
  by_cases staged : kind = .stagedCopy
  · subst staged
    rw [Cleared] at gone
    rw [Cleared, object_answer, gone]
    cases call with
    | startCopy n source =>
      rw [objectAfter, if_neg]
      intro h
      exact aside ⟨rfl, by rw [ClientCall.about, ← h.2]; rfl⟩
    | copyStatus n => exact ite_self none
    | deleteCopy n => exact ite_self none
    | observe | create | delete | grantAccess | revokeAccess | listAssets => rfl
  · rw [cleared_iff staged] at gone
    rw [cleared_iff staged, stage_answer staged, gone]
    cases call with
    | create n spec =>
      rw [stageAfter, if_neg]
      intro h
      exact aside ⟨rfl, by rw [ClientCall.about, h.1, ← h.2.2]; rfl⟩
    | observe k n => exact ite_self none
    | delete k n => exact ite_self none
    | startCopy | copyStatus | deleteCopy | grantAccess | revokeAccess | listAssets => rfl

/-- Only a call that asks for the deletion of a resource makes it fall. -/
theorem standing_answer (standing : Standing job c kind)
    (aside : ¬ (call.deletes = true ∧ call.about = some (job.resource kind))) :
    Standing job (answer call c).2 kind := by
  by_cases staged : kind = .stagedCopy
  · subst staged
    rw [standing_stagedCopy, Live, Cleared] at standing ⊢
    rw [object_answer]
    cases call with
    | startCopy n source =>
      rw [objectAfter]
      split
      · exact Option.some_ne_none _
      · exact standing
    | copyStatus n =>
      rw [objectAfter]
      split
      · rwa [Option.map_eq_none_iff]
      · exact standing
    | deleteCopy n =>
      rw [objectAfter, if_neg]
      · exact standing
      · intro same
        exact aside ⟨rfl, by rw [ClientCall.about, ← same]; rfl⟩
    | observe | create | delete | grantAccess | revokeAccess | listAssets => exact standing
  · rw [standing_iff staged] at standing ⊢
    rw [stage_answer staged]
    cases call with
    | observe k n =>
      rw [stageAfter]
      split
      · exact standing.looked
      · exact standing
    | create n spec =>
      rw [stageAfter]
      split
      · exact standing.begun _
      · exact standing
    | delete k n =>
      rw [stageAfter, if_neg]
      · exact standing
      · intro same
        exact aside ⟨rfl, by rw [ClientCall.about, same.1, ← same.2]; rfl⟩
    | startCopy | copyStatus | deleteCopy | grantAccess | revokeAccess | listAssets => exact standing

/-- No call leaves a resource half created. -/
theorem whole_answer {name : String} (whole : c.stage kind name ≠ some .partly) :
    (answer call c).2.stage kind name ≠ some .partly := by
  by_cases staged : kind = .stagedCopy
  · subst staged
    exact nofun
  · rw [stage_answer staged]
    cases call with
    | observe k n =>
      rw [stageAfter]
      split
      · exact Stage.looked_ne_partly whole
      · exact whole
    | create n spec =>
      rw [stageAfter]
      split
      · exact Stage.begun_ne_partly _ _
      · exact whole
    | delete k n =>
      rw [stageAfter]
      split
      · exact Stage.dropped_ne_partly _ _
      · exact whole
    | startCopy | copyStatus | deleteCopy | grantAccess | revokeAccess | listAssets => exact whole

/-- What holds of an account between any two calls: nothing is half created, only what takes part in the
job is there, and everything stands on what is there and not being deleted. -/
structure Upheld (facilities : Facilities) (job : Job) (c : Cloud) : Prop where
  whole : ∀ kind, c.stage kind (job.names.of kind) ≠ some .partly
  part : ∀ kind, Live job c kind → takesPart facilities job kind = true
  standing : ∀ kind, Live job c kind → ∀ k ∈ job.supports facilities kind, Standing job c k

/-- What a pass may ask: it starts a resource only where everything that it stands on is standing, and has
one deleted only where nothing is there that stands on it. -/
structure Permits (facilities : Facilities) (job : Job) (c : Cloud) (call : ClientCall) : Prop where
  starts : call.starts = true → ∀ kind, call.about = some (job.resource kind) →
    takesPart facilities job kind = true ∧ ∀ k ∈ job.supports facilities kind, Standing job c k
  deletes : call.deletes = true → ∀ kind, call.about = some (job.resource kind) →
    ∀ k, Live job c k → kind ∉ job.supports facilities k

/-- Whatever stood still stands, and nothing has appeared. -/
structure Keeps (job : Job) (c d : Cloud) : Prop where
  standing : ∀ k, Standing job c k → Standing job d k
  live : ∀ k, Live job d k → Live job c k

theorem replies_live (replies : c.Replies call r c') (live : Live job c' kind) :
    Live job c kind ∨ call.starts = true ∧ call.about = some (job.resource kind) := by
  obtain ⟨t, -, same⟩ := replies
  obtain rfl : (answer call (c.under t)).2 = c' := congrArg Prod.snd same
  by_cases own : call.starts = true ∧ call.about = some (job.resource kind)
  · exact .inr own
  · refine .inl fun gone => live (cleared_answer ?_ own)
    exact Classical.not_not.mp fun there => (live_under.mp there) gone

theorem replies_live_idle (idle : call.starts = false) (replies : c.Replies call r c')
    (live : Live job c' kind) : Live job c kind := by
  rcases replies_live replies live with live | ⟨starts, -⟩
  · exact live
  · cases idle.symm.trans starts

private theorem replies_standing (replies : c.Replies call r c') (standing : Standing job c kind) :
    Standing job c' kind ∨ call.deletes = true ∧ call.about = some (job.resource kind) := by
  obtain ⟨t, -, same⟩ := replies
  obtain rfl : (answer call (c.under t)).2 = c' := congrArg Prod.snd same
  by_cases own : call.deletes = true ∧ call.about = some (job.resource kind)
  · exact .inr own
  · exact .inl (standing_answer (standing_under.mpr standing) own)

private theorem replies_whole {name : String} (replies : c.Replies call r c')
    (whole : c.stage kind name ≠ some .partly) : c'.stage kind name ≠ some .partly := by
  obtain ⟨t, -, same⟩ := replies
  obtain rfl : (answer call (c.under t)).2 = c' := congrArg Prod.snd same
  rw [← stage_under t] at whole
  exact whole_answer whole

/-- A call that neither starts nor deletes anything. -/
theorem replies_keeps (idle : call.starts = false) (spares : call.deletes = false)
    (replies : c.Replies call r c') : Keeps job c c' where
  standing k stands := by
    rcases replies_standing replies stands with stands | ⟨deletes, -⟩
    · exact stands
    · cases spares.symm.trans deletes
  live _ := replies_live_idle idle replies

private theorem not_starts_of_deletes (deletes : call.deletes = true) : call.starts = false := by
  cases call <;> first | rfl | cases deletes

/-- A permitted call takes nothing away from under what is there. -/
theorem Upheld.after (upheld : Upheld facilities job c) (permits : Permits facilities job c call)
    (replies : c.Replies call r c') : Upheld facilities job c' := by
  constructor
  case whole => exact fun k => replies_whole replies (upheld.whole k)
  case part =>
    intro k live
    rcases replies_live replies live with live | ⟨starts, about⟩
    · exact upheld.part k live
    · exact (permits.starts starts k about).1
  case standing =>
    intro k live l member
    have before : Standing job c l := by
      rcases replies_live replies live with live | ⟨starts, about⟩
      · exact upheld.standing k live l member
      · exact (permits.starts starts k about).2 l member
    rcases replies_standing replies before with stands | ⟨deletes, about⟩
    · exact stands
    -- The resource that is deleted has nothing on it, and a call that deletes starts nothing.
    · rcases replies_live replies live with live | ⟨starts, -⟩
      · exact absurd member (permits.deletes deletes l about k live)
      · cases (not_starts_of_deletes deletes).symm.trans starts

theorem permits_quiet (idle : call.starts = false) (spares : call.deletes = false) :
    Permits facilities job c call where
  starts starts := by cases idle.symm.trans starts
  deletes deletes := by cases spares.symm.trans deletes

private theorem replies_ready {handle : Handle} {status : String} (real : kind ≠ .stagedCopy)
    (replies : c.Replies (.observe kind (job.names.of kind)) (.ok ⟨handle, .ready, status⟩) c') :
    Standing job c' kind := by
  obtain ⟨t, -, same⟩ := replies
  rw [answer_observe real] at same
  obtain ⟨told, rfl⟩ := Prod.mk.inj same
  obtain ⟨calm, shows⟩ := Pool.observe_ok told
  rw [standing_iff real, stage_changed real, if_pos rfl, Pool.get?_observe, if_pos ⟨calm, rfl⟩]
  exact (Stage.stands_of_shown_ready shows).looked

/-- A look that finds nothing is at a resource that is gone. -/
theorem replies_absent {r : Except Failure Observation} (real : kind ≠ .stagedCopy)
    (whole : c.stage kind (job.names.of kind) ≠ some .partly)
    (replies : c.Replies (.observe kind (job.names.of kind)) r c') (absent : LooksAbsent r) :
    ¬ Live job c' kind := by
  obtain ⟨t, honest, same⟩ := replies
  rw [answer_observe real] at same
  obtain ⟨told, rfl⟩ := Prod.mk.inj same
  have honest (f : Failure) (ordered : ((c.under t).pool kind).observeFailure = some f) :
      f.verdict ≠ .missing := by
    cases kind with
    | stagedCopy => exact absurd rfl real
    | snapshot => exact honest .snapshot f ordered
    | volume => exact honest .volume f ordered
    | networkInterface => exact honest .networkInterface f ordered
    | scanner => exact honest .scanner f ordered
  rw [← stage_under t] at whole
  rw [Live, Classical.not_not, cleared_iff real, stage_changed real, if_pos rfl, Pool.get?_observe]
  cases r with
  | ok seen =>
    obtain ⟨calm, shows⟩ := Pool.observe_ok told
    rw [if_pos ⟨calm, rfl⟩]
    exact Stage.looked_eq_none whole (.inr (shows.trans (congrArg some absent)))
  | error f =>
    obtain ⟨calm, shows⟩ := Pool.observe_missing honest told absent
    rw [if_pos ⟨calm, rfl⟩]
    exact Stage.looked_eq_none whole (.inl shows)

private theorem replies_delete_error {f : Failure} (real : kind ≠ .stagedCopy)
    (replies : c.Replies (.delete kind (job.names.of kind)) (.error f) c') : ¬ Live job c' kind := by
  obtain ⟨t, -, same⟩ := replies
  rw [answer_delete real] at same
  obtain ⟨told, rfl⟩ := Prod.mk.inj same
  rw [Live, Classical.not_not, cleared_iff real, stage_changed real, if_pos rfl, Pool.get?_delete,
    if_pos rfl]
  cases found : ((c.under t).pool kind).resources.get? (job.names.of kind) with
  | none => rfl
  | some stage =>
    have there : ((c.under t).pool kind).resources.get? (job.names.of kind) ≠ none := by simp [found]
    cases told.symm.trans (Pool.delete_spec there).2

private theorem replies_copyStatus {r : Except Failure CopyProgress}
    (replies : c.Replies (.copyStatus job.names.stagedCopy) r c') :
    Live job c' .stagedCopy ↔ ∃ progress, r = .ok progress := by
  obtain ⟨t, -, same⟩ := replies
  obtain rfl : (answer (.copyStatus job.names.stagedCopy) (c.under t)).2 = c' := congrArg Prod.snd same
  have told : ((c.under t).staging.copyStatus job.names.stagedCopy).1 = r := congrArg Prod.fst same
  rw [Live, Cleared, object_answer, objectAfter, if_pos rfl, Option.map_eq_none_iff, ← told,
    Staging.copyStatus]
  cases (c.under t).staging.objects.get? job.names.stagedCopy with
  | none => simp
  | some copying => simp

/-- What holds at every call of a pass. -/
def Law (facilities : Facilities) (job : Job) (c : Cloud) (call : ClientCall) : Prop :=
  Upheld facilities job c ∧ Permits facilities job c call

section

variable {α β : Type} {post : Cloud → Except Setback β → Prop}

/-- A question that neither starts nor deletes anything, and what follows it. -/
theorem upheld_step {call : ClientCall} {x : Pass α} {g : call.Reply → Except Setback α} {f : α → Pass β}
    (step : x.run = Program.ask (I := clients) call fun r => .done (g r))
    (upheld : Upheld facilities job c) (idle : call.starts = false) (spares : call.deletes = false)
    (failed : ∀ d e, Upheld facilities job d → post d (.error e))
    (rest : ∀ r d a, c.Replies call r d → Upheld facilities job d → Keeps job c d → g r = .ok a →
      Guarded Replies (Law facilities job) post (f a).run d) :
    Guarded Replies (Law facilities job) post (x >>= f).run c := by
  have permits : Permits facilities job c call := permits_quiet idle spares
  refine guarded_step step ⟨upheld, permits⟩ ?_ ?_
  · intro r d e replies _
    exact failed d e (upheld.after permits replies)
  · intro r d a replies success
    exact rest r d a replies (upheld.after permits replies) (replies_keeps idle spares replies) success

end

variable {store : StagingStore} {snapshot : Handle} {name : String}

/-- How a pass over a staged copy leaves the account. -/
def Staged (facilities : Facilities) (job : Job) (d : Cloud) (result : Except Setback StagedCopy) : Prop :=
  Upheld facilities job d ∧
    ∀ copy, result = .ok copy → Standing job d .snapshot ∧ Standing job d .stagedCopy

theorem staged_error {e : Setback} (upheld : Upheld facilities job c) :
    Staged facilities job c (.error e) :=
  ⟨upheld, nofun⟩

theorem startCopy_upheld (upheld : Upheld facilities job c)
    (part : takesPart facilities job .stagedCopy = true) (ground : Standing job c .snapshot) :
    Guarded Replies (Law facilities job) (Staged facilities job)
      (startCopy timing name job.names.stagedCopy).run c := by
  rw [startCopy]
  have granting : Permits facilities job c (.grantAccess name timing.grantTtl) := permits_quiet rfl rfl
  refine guarded_ask ⟨upheld, granting⟩ ?_
  rintro (f | access) d replies
  · exact staged_error (upheld.after granting replies)
  · have upheld := upheld.after granting replies
    have ground := (replies_keeps rfl rfl replies).standing _ ground
    have starting : Permits facilities job d (.startCopy job.names.stagedCopy access) := by
      constructor
      case starts =>
        intro _ kind about
        obtain rfl : ResourceKind.stagedCopy = kind := congrArg Prod.fst (Option.some.inj about)
        exact ⟨part, List.forall_mem_singleton.mpr ground⟩
      case deletes =>
        intro deletes
        cases deletes
    refine guarded_ask ⟨upheld, starting⟩ ?_
    rintro (f | ⟨⟩) d' replies
    · have upheld := upheld.after starting replies
      have revoking : Permits facilities job d' (.revokeAccess name) := permits_quiet rfl rfl
      exact guarded_ask ⟨upheld, revoking⟩ fun r d'' replies => staged_error (upheld.after revoking replies)
    · exact staged_error (upheld.after starting replies)

/-- A resource may be deleted while nothing is there that stands on it. -/
theorem permits_deletion (about : call.about = some (job.resource kind)) (idle : call.starts = false)
    (free : ∀ k, Live job c k → kind ∉ job.supports facilities k) : Permits facilities job c call where
  starts starts := by cases idle.symm.trans starts
  deletes := by
    intro _ k own
    obtain rfl : kind = k := congrArg Prod.fst (Option.some.inj (about.symm.trans own))
    exact free

/-- Only a volume stands on a staged copy. -/
theorem free_stagedCopy (unused : ¬ Live job c .volume) (k : ResourceKind) (live : Live job c k) :
    .stagedCopy ∉ job.supports facilities k := by
  cases k with
  | volume => exact absurd live unused
  | snapshot | stagedCopy | networkInterface => simp [Job.supports]
  | scanner => cases has : facilities.hasNetwork <;> simp [Job.supports, has]

/-- A copy is only started over while no volume has been made from it. -/
theorem restartCopy_upheld (status : CopyStatus) (upheld : Upheld facilities job c)
    (unused : ¬ Live job c .volume) :
    Guarded Replies (Law facilities job) (Staged facilities job)
      (restartCopy timing name job.names.stagedCopy status).run c := by
  refine upheld_step (revokeGrants_run _) upheld rfl rfl (fun _ _ => staged_error) ?_
  intro r d _ _ upheld keeps _
  have permits : Permits facilities job d (.deleteCopy job.names.stagedCopy) :=
    permits_deletion rfl rfl (free_stagedCopy fun live => unused (keeps.live _ live))
  refine guarded_step (deleteCopy_run _) ⟨upheld, permits⟩ ?_ ?_
  · exact fun r d e replies _ => staged_error (upheld.after permits replies)
  · exact fun r d _ replies _ => staged_error (upheld.after permits replies)

theorem ensureStagedCopy_upheld (upheld : Upheld facilities job c)
    (part : takesPart facilities job .stagedCopy = true) (ground : Standing job c .snapshot)
    (unused : ¬ Live job c .volume) :
    Guarded Replies (Law facilities job) (Staged facilities job)
      (ensureStagedCopy store timing job snapshot).run c := by
  rw [ensureStagedCopy]
  refine upheld_step (copyProgress_run _) upheld rfl rfl (fun _ _ => staged_error) ?_
  intro r d found replies upheld keeps looked
  have ground := keeps.standing _ ground
  have unused : ¬ Live job d .volume := fun live => unused (keeps.live _ live)
  obtain ⟨progress, rfl, rfl⟩ | ⟨f, rfl, -, rfl⟩ := unlessMissing_eq_ok looked
  · have there : Standing job d .stagedCopy :=
      standing_stagedCopy.mpr ((replies_copyStatus replies).mpr ⟨progress, rfl⟩)
    obtain ⟨status, copied, total⟩ := progress
    cases status with
    | pending => exact staged_error upheld
    | success =>
      refine upheld_step (revokeGrants_run _) upheld rfl rfl (fun _ _ => staged_error) ?_
      intro r d' _ _ upheld keeps _
      exact ⟨upheld, fun _ _ => ⟨keeps.standing _ ground, keeps.standing _ there⟩⟩
    | failed => exact restartCopy_upheld .failed upheld unused
    | aborted => exact restartCopy_upheld .aborted upheld unused
  · exact startCopy_upheld upheld part ground

/-- How making sure of a resource leaves the account: where it succeeds, the resource stands and so does
all that stood before. -/
def Raised (facilities : Facilities) (job : Job) (kind : ResourceKind) (c d : Cloud)
    (result : Except Setback Handle) : Prop :=
  Upheld facilities job d ∧
    ∀ handle, result = .ok handle → Standing job d kind ∧ ∀ k, Standing job c k → Standing job d k

theorem raised_error {e : Setback} (upheld : Upheld facilities job d) :
    Raised facilities job kind c d (.error e) :=
  ⟨upheld, nofun⟩

theorem ensure_upheld {estimate : Duration} {spec : Pass ResourceSpec} (real : kind ≠ .stagedCopy)
    (part : takesPart facilities job kind = true) (upheld : Upheld facilities job c)
    (resolves : ∀ d, Upheld facilities job d → Keeps job c d → ¬ Live job d kind →
      Guarded Replies (Law facilities job) (fun d result => Upheld facilities job d ∧
        ∀ spec, result = .ok spec → spec.kind = kind ∧
          ∀ k ∈ job.supports facilities kind, Standing job d k) spec.run d) :
    Guarded Replies (Law facilities job) (Raised facilities job kind c)
      (ensure kind (job.names.of kind) estimate spec).run c := by
  have looking : Permits facilities job c (.observe kind (job.names.of kind)) := permits_quiet rfl rfl
  refine ensure_guarded ⟨upheld, looking⟩ ?_ ?_ ?_
  · intro handle status d replies
    refine ⟨upheld.after looking replies, fun _ _ => ⟨replies_ready real replies, ?_⟩⟩
    exact (replies_keeps rfl rfl replies).standing
  · intro r d e replies _
    exact raised_error (upheld.after looking replies)
  · intro r d replies absent
    have gone := replies_absent real (upheld.whole kind) replies absent
    refine guarded_mono ?_ (resolves d (upheld.after looking replies) (replies_keeps rfl rfl replies) gone)
    rintro d' (e | spec) ⟨upheld, grounds⟩
    · exact raised_error upheld
    · obtain ⟨rfl, grounds⟩ := grounds spec rfl
      have creating : Permits facilities job d' (.create (job.names.of spec.kind) spec) := by
        constructor
        case starts =>
          intro _ k about
          obtain rfl : spec.kind = k := congrArg Prod.fst (Option.some.inj about)
          exact ⟨part, grounds⟩
        case deletes =>
          intro deletes
          cases deletes
      exact ⟨⟨upheld, creating⟩, fun r d'' e replies => raised_error (upheld.after creating replies)⟩

/-- A resource whose spec is at hand once everything that it stands on is standing. -/
theorem ensurePure_upheld {estimate : Duration} (spec : ResourceSpec)
    (part : takesPart facilities job spec.kind = true) (upheld : Upheld facilities job c)
    (grounds : ∀ k ∈ job.supports facilities spec.kind, Standing job c k) :
    Guarded Replies (Law facilities job) (Raised facilities job spec.kind c)
      (ensure spec.kind (job.names.of spec.kind) estimate (pure spec)).run c := by
  refine ensure_upheld spec.kind_ne_stagedCopy part upheld ?_
  intro d upheld keeps _
  refine ⟨upheld, ?_⟩
  intro spec' same
  cases same
  exact ⟨rfl, fun k member => keeps.standing k (grounds k member)⟩

theorem ensureVolume_upheld {staging : Option StagingStore} (fits : Fits facilities job staging)
    (upheld : Upheld facilities job c) (ground : Standing job c .snapshot) :
    Guarded Replies (Law facilities job) (Raised facilities job .volume c)
      (ensureVolume timing job (volumeSource staging timing job snapshot)).run c := by
  have real : ResourceKind.volume ≠ .stagedCopy := by decide
  refine ensure_upheld real rfl upheld ?_
  intro d upheld keeps unused
  have ground := keeps.standing _ ground
  refine guarded_bindExcept ?_
  cases staging with
  | none =>
    have alone : job.crossesRegions = false := fits
    refine ⟨upheld, ?_⟩
    intro spec same
    cases same
    refine ⟨rfl, ?_⟩
    simpa [Job.supports, alone] using ground
  | some store =>
    obtain ⟨crosses, store_eq⟩ := fits
    have part : takesPart facilities job .stagedCopy = true := by
      simp [takesPart, crosses, store_eq]
    refine guarded_bindExcept (guarded_mono ?_ (ensureStagedCopy_upheld upheld part ground unused))
    rintro d' (e | copy) ⟨upheld, staged⟩
    · refine ⟨upheld, ?_⟩
      intro spec same
      cases same
    · refine ⟨upheld, ?_⟩
      intro spec same
      cases same
      refine ⟨rfl, ?_⟩
      simpa [Job.supports, crosses] using staged copy rfl

theorem ensureScanner_upheld {volume : Handle} {networkInterface : Option Handle}
    (upheld : Upheld facilities job c) (volumeStands : Standing job c .volume)
    (connected : facilities.hasNetwork = true → Standing job c .networkInterface) :
    Guarded Replies (Law facilities job) (fun d _ => Upheld facilities job d)
      (discard (ensureScanner timing job volume networkInterface)).run c := by
  have grounds : ∀ k ∈ job.supports facilities .scanner, Standing job c k := by
    cases has : facilities.hasNetwork with
    | false => simpa [Job.supports, has] using volumeStands
    | true => simpa [Job.supports, has] using ⟨connected has, volumeStands⟩
  have raised : Guarded Replies (Law facilities job) (Raised facilities job .scanner c)
      (ensureScanner timing job volume networkInterface).run c :=
    ensurePure_upheld (.scanner _) rfl upheld grounds
  exact guarded_mapExcept (guarded_mono (fun _ _ raised => raised.1) raised)

theorem build_upheld (upheld : Upheld facilities job c) :
    Guarded Replies (Law facilities job) (fun d _ => Upheld facilities job d)
      (build facilities timing job).run c := by
  rw [build]
  refine guarded_bindExcept ?_
  obtain ⟨e, run⟩ | ⟨staging, run, fits⟩ := stagingFor_run facilities job
  · rw [run]
    exact upheld
  rw [run]
  have first : Guarded Replies (Law facilities job) (Raised facilities job .snapshot c)
      (ensureSnapshot timing job).run c :=
    ensurePure_upheld (.snapshot job.snapshotSpec) rfl upheld (List.forall_mem_nil _)
  refine guarded_bindExcept (guarded_mono ?_ first)
  rintro d (e | snapshot) ⟨upheld, raised⟩
  · exact upheld
  have ground := (raised snapshot rfl).1
  refine guarded_bindExcept (guarded_mono ?_ (ensureVolume_upheld fits upheld ground))
  rintro d (e | volume) ⟨upheld, raised⟩
  · exact upheld
  have ground := (raised volume rfl).1
  cases has : facilities.hasNetwork with
  | false => exact ensureScanner_upheld upheld ground fun network => by cases has.symm.trans network
  | true =>
    have third : Guarded Replies (Law facilities job) (Raised facilities job .networkInterface d)
        (ensureNetworkInterface timing job).run d :=
      ensurePure_upheld (.networkInterface job.networkSpec) has upheld
        (List.forall_mem_singleton.mpr ground)
    refine guarded_bindExcept (guarded_mapExcept (guarded_mono ?_ third))
    rintro d' (e | handle) ⟨upheld, raised⟩
    · exact upheld
    · obtain ⟨connected, still⟩ := raised handle rfl
      exact ensureScanner_upheld upheld (still _ ground) fun _ => connected

/-- How making sure that a resource is gone leaves the account. -/
def Lowered (facilities : Facilities) (job : Job) (kind : ResourceKind) (c d : Cloud)
    (result : Except Setback Unit) : Prop :=
  Upheld facilities job d ∧ (∀ k, Live job d k → Live job c k) ∧ (result = .ok () → ¬ Live job d kind)

theorem lowered_error {e : Setback} (upheld : Upheld facilities job d)
    (fewer : ∀ k, Live job d k → Live job c k) : Lowered facilities job kind c d (.error e) :=
  ⟨upheld, fewer, nofun⟩

/-- A question on the way to a removal, and what follows it. Nothing appears meanwhile. -/
theorem lowered_step {α : Type} {x : Pass α} {g : call.Reply → Except Setback α} {f : α → Pass Unit}
    (step : x.run = Program.ask (I := clients) call fun r => .done (g r)) (idle : call.starts = false)
    (permits : Permits facilities job c call) (upheld : Upheld facilities job c)
    (fewer : ∀ k, Live job c k → Live job d k)
    (rest : ∀ r c' a, c.Replies call r c' → Upheld facilities job c' → (∀ k, Live job c' k → Live job d k) →
      g r = .ok a → Guarded Replies (Law facilities job) (Lowered facilities job kind d) (f a).run c') :
    Guarded Replies (Law facilities job) (Lowered facilities job kind d) (x >>= f).run c := by
  refine guarded_step step ⟨upheld, permits⟩ ?_ ?_
  · intro r c' e replies _
    exact lowered_error (upheld.after permits replies) fun k live =>
      fewer k (replies_live_idle idle replies live)
  · intro r c' a replies success
    exact rest r c' a replies (upheld.after permits replies)
      (fun k live => fewer k (replies_live_idle idle replies live)) success

/-- A look at a resource on the way to its removal. -/
theorem isPresent_upheld {name : String} {f : Bool → Pass Unit} (real : kind ≠ .stagedCopy)
    (own : name = job.names.of kind) (upheld : Upheld facilities job c)
    (fewer : ∀ k, Live job c k → Live job d k) (ends : f false = pure ())
    (rest : ∀ c', Upheld facilities job c' → (∀ k, Live job c' k → Live job d k) →
      Guarded Replies (Law facilities job) (Lowered facilities job kind d) (f true).run c') :
    Guarded Replies (Law facilities job) (Lowered facilities job kind d)
      (isPresent kind name >>= f).run c := by
  subst own
  refine lowered_step (isPresent_run kind _) rfl (permits_quiet rfl rfl) upheld fewer ?_
  intro r c' present replies upheld' fewer looked
  cases present with
  | true => exact rest c' upheld' fewer
  | false =>
    rw [ends]
    obtain ⟨f, missing, rfl⟩ := missing_of_eq_gone (by simp) looked
    exact ⟨upheld', fewer, fun _ => replies_absent real (upheld.whole kind) replies missing⟩

theorem ensureAbsent_upheld {estimate : Duration} (real : kind ≠ .stagedCopy)
    (upheld : Upheld facilities job c) (free : ∀ k, Live job c k → kind ∉ job.supports facilities k) :
    Guarded Replies (Law facilities job) (Lowered facilities job kind c)
      (ensureAbsent kind (job.names.of kind) estimate).run c := by
  rw [ensureAbsent]
  refine isPresent_upheld real rfl upheld (fun _ live => live) rfl ?_
  intro c' upheld fewer
  have deleting : Permits facilities job c' (.delete kind (job.names.of kind)) :=
    permits_deletion rfl rfl fun k live => free k (fewer k live)
  refine guarded_ask ⟨upheld, deleting⟩ ?_
  intro r d replies
  have upheld := upheld.after deleting replies
  have fewer (k : ResourceKind) (live : Live job d k) : Live job c k :=
    fewer k (replies_live_idle rfl replies live)
  cases r with
  | ok => exact isPresent_upheld real rfl upheld fewer rfl fun d' => lowered_error
  | error f =>
    dsimp only
    cases f.verdict with
    | missing => exact ⟨upheld, fewer, fun _ => replies_delete_error real replies⟩
    | retry | fatal => exact lowered_error upheld fewer

/-- A look at a staged copy on the way to its removal. -/
theorem copyProgress_upheld {f : Option CopyProgress → Pass Unit} (upheld : Upheld facilities job c)
    (fewer : ∀ k, Live job c k → Live job d k) (ends : f none = pure ())
    (rest : ∀ progress c', Upheld facilities job c' → (∀ k, Live job c' k → Live job d k) →
      Guarded Replies (Law facilities job) (Lowered facilities job .stagedCopy d)
        (f (some progress)).run c') :
    Guarded Replies (Law facilities job) (Lowered facilities job .stagedCopy d)
      (copyProgress job.names.stagedCopy >>= f).run c := by
  refine lowered_step (copyProgress_run _) rfl (permits_quiet rfl rfl) upheld fewer ?_
  intro r c' found replies upheld fewer looked
  cases found with
  | some progress => exact rest progress c' upheld fewer
  | none =>
    rw [ends]
    obtain ⟨f, missing, rfl⟩ := missing_of_eq_gone (by simp) looked
    refine ⟨upheld, fewer, fun _ live => ?_⟩
    obtain ⟨progress, same⟩ := (replies_copyStatus replies).mp live
    cases same

theorem removeStagedCopy_upheld (upheld : Upheld facilities job c)
    (free : ∀ k, Live job c k → .stagedCopy ∉ job.supports facilities k) :
    Guarded Replies (Law facilities job) (Lowered facilities job .stagedCopy c)
      (removeStagedCopy timing job).run c := by
  rw [removeStagedCopy]
  refine copyProgress_upheld upheld (fun _ live => live) rfl ?_
  intro _ c' upheld fewer
  refine lowered_step (revokeGrants_run _) rfl (permits_quiet rfl rfl) upheld fewer ?_
  intro _ c' _ _ upheld fewer _
  refine lowered_step (deleteCopy_run _) rfl (permits_deletion rfl rfl fun k live => free k (fewer k live))
    upheld fewer ?_
  intro _ c' _ _ upheld fewer _
  exact copyProgress_upheld upheld fewer rfl fun _ d => lowered_error

theorem removeKind_upheld (upheld : Upheld facilities job c)
    (free : ∀ k, Live job c k → kind ∉ job.supports facilities k) :
    Guarded Replies (Law facilities job) (Lowered facilities job kind c)
      (removeKind timing job kind).run c := by
  cases kind with
  | stagedCopy => exact removeStagedCopy_upheld upheld free
  | snapshot | volume | networkInterface | scanner => exact ensureAbsent_upheld (by decide) upheld free

/-- Resources are removed one after the other while whatever is there is still to be removed, and nothing
that comes later stands on what comes before. -/
theorem removeAll_upheld {order : List ResourceKind} (upheld : Upheld facilities job c)
    (left : ∀ k, Live job c k → k ∈ order) (alone : ∀ k, k ∉ job.supports facilities k)
    (sorted : order.Pairwise fun k l => k ∉ job.supports facilities l) :
    Guarded Replies (Law facilities job) (fun d _ => Upheld facilities job d)
      (removeAll timing job order).run c := by
  induction order generalizing c with
  | nil => exact upheld
  | cons kind kinds ih =>
    rw [List.pairwise_cons] at sorted
    have free (k : ResourceKind) (live : Live job c k) : kind ∉ job.supports facilities k := by
      rcases List.mem_cons.mp (left k live) with rfl | member
      · exact alone k
      · exact sorted.1 k member
    refine guarded_bindExcept (guarded_mono ?_ (removeKind_upheld upheld free))
    rintro d (e | ⟨⟩) ⟨upheld, fewer, gone⟩
    · exact upheld
    · refine ih upheld ?_ sorted.2
      intro k live
      rcases List.mem_cons.mp (left k (fewer k live)) with rfl | member
      · exact absurd live (gone rfl)
      · exact member

theorem teardown_upheld (upheld : Upheld facilities job c) :
    Guarded Replies (Law facilities job) (fun d _ => Upheld facilities job d)
      (teardown facilities timing job).run c := by
  rw [teardown_eq_removeAll]
  apply removeAll_upheld upheld
  · intro k live
    have part := upheld.part k live
    cases k <;> simp [removalOrder, part]
  · intro k
    cases k <;> simp [Job.supports] <;> split <;> simp
  · apply List.Pairwise.filter
    simp only [Job.supports]
    cases job.crossesRegions <;> cases facilities.hasNetwork <;> decide

theorem ofPhase_upheld (phase : Phase) (upheld : Upheld facilities job c) :
    Guarded Replies (Law facilities job) (fun d _ => Upheld facilities job d)
      (Pass.ofPhase facilities timing phase job).run c := by
  cases phase with
  | run => exact build_upheld upheld
  | remove => exact teardown_upheld upheld

theorem upheld_empty (polls : Nat) : Upheld facilities job (empty polls) := by
  have gone (kind : ResourceKind) : Cleared job (empty polls) kind := by cases kind <;> rfl
  constructor
  case whole => exact fun kind => by cases kind <;> exact nofun
  case part => exact fun kind live => absurd (gone kind) live
  case standing => exact fun kind live => absurd (gone kind) live

end Cloud

open Cloud

/-- The accounts that passes for one job leave of one that was empty: build and teardown passes in any
order, each with its own timing, and each either complete or cut off between two calls. -/
inductive Mixed (facilities : Facilities) (job : Job) : Cloud → Prop
  | empty (polls : Nat) : Mixed facilities job (Cloud.empty polls)
  | pass {c c' : Cloud} {es : List (Event clients)} {e : Option (Except Setback Unit)}
      (earlier : Mixed facilities job c) (phase : Phase) (timing : Timing)
      (run : Trace (Pass.ofPhase facilities timing phase job).run es e)
      (replies : Exchanged Cloud.Replies c es c') : Mixed facilities job c'

section

variable {facilities : Facilities} {job : Job} {c : Cloud}

theorem Mixed.upheld (history : Mixed facilities job c) : Upheld facilities job c := by
  induction history with
  | empty polls => exact upheld_empty polls
  | pass earlier phase timing run replies ih =>
    obtain ⟨-, -, ⟨call, law⟩ | ⟨result, ending⟩⟩ := run.guarded replies (ofPhase_upheld phase ih)
    · exact law.1
    · exact ending

/-- At no point of a history is a resource there without what it stands on, nor with any of that being
deleted. -/
theorem supports_live (history : Mixed facilities job c) :
    (Live job c .scanner →
      (facilities.hasNetwork = true → Live job c .networkInterface) ∧ Live job c .volume) ∧
    (Live job c .networkInterface → Live job c .volume) ∧
    (Live job c .volume →
      Live job c .snapshot ∧ (job.crossesRegions = true → Live job c .stagedCopy)) ∧
    (Live job c .stagedCopy → Live job c .snapshot) ∧
    ∀ kind, Live job c kind → ∀ k ∈ job.supports facilities kind, Standing job c k := by
  have standing := history.upheld.standing
  have live {kind k : ResourceKind} (there : Live job c kind) (member : k ∈ job.supports facilities kind) :
      Live job c k := (standing kind there k member).1
  refine ⟨?_, ?_, ?_, ?_, standing⟩
  · intro there
    refine ⟨fun has => live there (by simp [Job.supports, has]), live there ?_⟩
    cases has : facilities.hasNetwork <;> simp [Job.supports, has]
  · exact fun there => live there (by simp [Job.supports])
  · intro there
    refine ⟨live there ?_, fun crosses => live there (by simp [Job.supports, crosses])⟩
    cases crosses : job.crossesRegions <;> simp [Job.supports, crosses]
  · exact fun there => live there (by simp [Job.supports])

end

section

variable {c : Cloud}

/-- An account's answers under the same terms at every call. -/
def Cloud.answerUnderTerms (t : Terms) (call : ClientCall) : StateM Cloud call.Reply :=
  fun c => answer call (c.under t)

/-- The account after one more pass for the sample job. -/
def afterPass (c : Cloud) (step : Phase × Terms) : Cloud :=
  ((Pass.ofPhase (Cloud.facilities true) .cloud step.1 (sampleJob true)).run.run
    (m := StateM Cloud) (Cloud.answerUnderTerms step.2) c).2

private theorem exchanged_underTerms {α : Type} {t : Terms} (honest : t.Honest) (p : Program clients α)
    (c : Cloud) :
    Exchanged Cloud.Replies c (p.log (answerUnderTerms t) c)
      (p.run (m := StateM Cloud) (answerUnderTerms t) c).2 :=
  (exchanged_log (answerUnderTerms t) p c).mono fun _ _ _ _ same => ⟨t, honest, same⟩

private theorem mixed_afterPass {step : Phase × Terms} (honest : step.2.Honest)
    (history : Mixed (Cloud.facilities true) (sampleJob true) c) :
    Mixed (Cloud.facilities true) (sampleJob true) (afterPass c step) :=
  .pass history step.1 .cloud (trace_log (I := clients) (answerUnderTerms step.2) _ c)
    (exchanged_underTerms honest _ c)

private theorem mixed_afterPasses {steps : List (Phase × Terms)} (honest : ∀ step ∈ steps, step.2.Honest)
    (history : Mixed (Cloud.facilities true) (sampleJob true) c) :
    Mixed (Cloud.facilities true) (sampleJob true) (steps.foldl afterPass c) := by
  induction steps generalizing c with
  | nil => exact history
  | cons step steps ih =>
    rw [List.forall_mem_cons] at honest
    exact ih honest.2 (mixed_afterPass honest.1 history)

/-- Deleted resources stay visible for a look. -/
def lingering : Terms where
  pools := fun _ => { deletionPolls := 1 }

def unseen : Terms where
  pools := fun _ => { observeFailure := some (.unreachable "getting" "connection reset" false) }

def unstarted : Terms where
  orders := { startFailure := some (.unreachable "starting copy" "connection reset" false) }

def interruptions : List (Phase × Terms) := [
  (.run, {}), (.run, unstarted), (.run, {}), (.run, unseen), (.run, {}), (.run, {}), (.run, {}), (.run, {}),
  (.remove, lingering), (.remove, lingering), (.run, lingering), (.run, {}), (.run, {}), (.remove, lingering)]

/-- A job's resources after passes that went wrong, a teardown and a build begun in the middle of each
other, and a last teardown, which leaves the scanner being deleted. -/
def interrupted : Cloud := interruptions.foldl afterPass (Cloud.empty 0)

private theorem interruptions_honest : ∀ step ∈ interruptions, step.2.Honest := by
  have calm : Terms.Honest {} := nofun
  have lingers : lingering.Honest := nofun
  have unstarts : unstarted.Honest := nofun
  have unsees : unseen.Honest := by
    intro kind f ordered
    cases ordered
    decide
  simp [interruptions, calm, lingers, unstarts, unsees]

theorem supports_live_interrupted :
    Mixed (Cloud.facilities true) (sampleJob true) interrupted ∧
    interrupted.stage .scanner "asset-scan-scanner-scan-0001" = some (.deleting 0) ∧
    ∀ k, Live (sampleJob true) interrupted k ∧
      (k ≠ .scanner → Standing (sampleJob true) interrupted k) := by
  have history := mixed_afterPasses interruptions_honest (.empty 0)
  have leaving : interrupted.stage .scanner "asset-scan-scanner-scan-0001" = some (.deleting 0) := by
    decide +kernel
  have crosses : (sampleJob true).crossesRegions = true := by decide +kernel
  have scanner : Live (sampleJob true) interrupted .scanner := by
    have real : ResourceKind.scanner ≠ .stagedCopy := by decide
    rw [Live, cleared_iff real]
    intro gone
    cases gone.symm.trans leaving
  obtain ⟨onScanner, -, onVolume, -, standing⟩ := supports_live history
  obtain ⟨network, volume⟩ := onScanner scanner
  obtain ⟨snapshot, staged⟩ := onVolume volume
  refine ⟨history, leaving, ?_⟩
  intro k
  cases k with
  | scanner => exact ⟨scanner, fun other => absurd rfl other⟩
  | networkInterface => exact ⟨network rfl, fun _ => standing _ scanner _ (by decide +kernel)⟩
  | volume => exact ⟨volume, fun _ => standing _ scanner _ (by decide +kernel)⟩
  | stagedCopy => exact ⟨staged crosses, fun _ => standing _ volume _ (by decide +kernel)⟩
  | snapshot => exact ⟨snapshot, fun _ => standing _ volume _ (by decide +kernel)⟩

end

end Rehearsal

end ScanProvisioning
