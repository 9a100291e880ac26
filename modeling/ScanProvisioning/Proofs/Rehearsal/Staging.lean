import ScanProvisioning.Proofs.Rehearsal.Runs

namespace ScanProvisioning.Rehearsal

open Program Pass

/-- What a look at a copy shows of it. -/
def Copying.status (copying : Copying) : CopyStatus :=
  if copying.left ≠ 0 then .pending else if copying.fails then .failed else .success

namespace Staging

/-- The staging area after a look at a copy. -/
def watched (s : Staging) (name : String) (copying : Copying) : Staging :=
  { s with objects := s.objects.set name { copying with left := copying.left - 1 } }

def granted (s : Staging) : Staging :=
  { s with grants := s.grants + 1, activeGrants := s.activeGrants + 1 }

def started (s : Staging) (name : String) : Staging := { s with
  failNextCopy := false
  objects := s.objects.set name { left := s.copyPolls, fails := s.failNextCopy } }

def revoked (s : Staging) : Staging := { s with
  activeGrants := 0
  revokes := if 0 < s.activeGrants then s.revokes + 1 else s.revokes }

def without (s : Staging) (name : String) : Staging := { s with
  deletes := s.deletes + 1
  objects := s.objects.erase name }

variable {s : Staging} {name : String} {copying : Copying}

@[simp] theorem watched_object :
    (s.watched name copying).objects.get? name = some { copying with left := copying.left - 1 } := by
  simp [watched, Registry.get?_set]

@[simp] theorem started_object :
    (s.started name).objects.get? name = some { left := s.copyPolls, fails := s.failNextCopy } := by
  simp [started, Registry.get?_set]

@[simp] theorem revoked_object : s.revoked.objects.get? name = s.objects.get? name := rfl

@[simp] theorem granted_object : s.granted.objects.get? name = s.objects.get? name := rfl

@[simp] theorem without_object : (s.without name).objects.get? name = none := by
  simp [without, Registry.get?_erase]

private theorem copyStatus_found (found : s.objects.get? name = some copying) : ∃ copied total,
    s.copyStatus name = (.ok ⟨copying.status, copied, total⟩, s.watched name copying) := by
  simp only [copyStatus, found]
  exact ⟨_, _, rfl⟩

theorem revoke_calm (calm : s.revokeFailure = none) : s.revoke = (.ok (), s.revoked) := by
  unfold revoke
  split
  · next f failing => cases calm.symm.trans failing
  · rfl

theorem startCopy_calm (calm : s.startFailure = none) : s.startCopy name = (.ok (), s.started name) := by
  unfold startCopy
  split
  · next f failing => cases calm.symm.trans failing
  · rfl

private theorem startCopy_failing {f : Failure} (failing : s.startFailure = some f) :
    s.startCopy name = (.error f, s) := by
  unfold startCopy
  rw [failing]

end Staging

namespace Cloud

section

variable {α β : Type} {x : Pass α} {f : α → Pass β} {c c' d : Cloud} {es more : List (Event clients)}

/-- What a program that is rehearsed asks and hears, how it ends, and the account that it leaves. -/
structure Ran (p : Program clients α) (c : Cloud) (es : List (Event clients)) (a : α) (c' : Cloud) :
    Prop where
  log : p.log answer c = es
  run : run p c = (a, c')

theorem log_bind (p : Program clients α) (f : α → Program clients β) (c : Cloud) :
    (p >>= f).log answer c = p.log answer c ++ (f (run p c).1).log answer (run p c).2 := by
  induction p generalizing c with
  | done a => rfl
  | ask call k ih => exact congrArg (_ :: ·) (ih _ _)

/-- A pass that goes on after a single question. -/
theorem Ran.andThen {a : α} {ev : Event clients} {r : Except Setback β}
    (first : Ran x.run c [ev] (.ok a) c') (rest : Ran (f a).run c' es r d) :
    Ran (x >>= f).run c (ev :: es) r d where
  log := by
    have unfolded : (x >>= f).run = x.run >>= ExceptT.bindCont f := rfl
    rw [unfolded, log_bind, first.log, first.run, ← rest.log]
    rfl
  run := (run_bind_ok first.run).trans rest.run

theorem ran_done (a : α) (c : Cloud) : Ran (Program.done a) c [] a c := ⟨rfl, rfl⟩

/-- A step that is a single question ends as its answer says. -/
theorem ran_step {call : ClientCall} {r : call.Reply} {g : call.Reply → Except Setback α}
    (step : x.run = Program.ask (I := clients) call fun r => .done (g r))
    (told : answer call c = (r, c')) : Ran x.run c [⟨call, r⟩] (g r) c' where
  log := by
    rw [step]
    simp only [Program.log, told]
  run := by
    rw [run_step step, told]

theorem ran_ask {call : ClientCall} {r : call.Reply} {g : call.Reply → Pass β} {e : Except Setback β}
    (told : answer call c = (r, c')) (rest : Ran (g r).run c' es e d) :
    Ran (Pass.ask call >>= g).run c (⟨call, r⟩ :: es) e d where
  log := by
    have unfolded : (Pass.ask call >>= g).run = Program.ask (I := clients) call fun r => (g r).run := rfl
    rw [unfolded, Program.log, told, ← rest.log]
  run := by
    rw [run_ask, told]
    exact rest.run

end

variable {c : Cloud} {name : String} {copying : Copying}

/-- The answer to a look at an object that is not there. -/
def copyMissing : Except Failure CopyProgress := .error (Staging.missing "getting blob")

theorem ran_copyProgress_missing (gone : c.staging.objects.get? name = none) :
    Ran (copyProgress name).run c [⟨.copyStatus name, copyMissing⟩] (.ok none) c := by
  have told : answer (.copyStatus name) c = (copyMissing, c) := by
    simp only [answer, onStaging, Staging.copyStatus, gone]
    rfl
  exact ran_step (copyProgress_run name) told

theorem ran_copyProgress_found (found : c.staging.objects.get? name = some copying) : ∃ copied total,
    Ran (copyProgress name).run c [⟨.copyStatus name, .ok ⟨copying.status, copied, total⟩⟩]
      (.ok (some ⟨copying.status, copied, total⟩)) (c.withStaging (c.staging.watched name copying)) := by
  obtain ⟨copied, total, told⟩ := Staging.copyStatus_found found
  have told : answer (.copyStatus name) c =
      (.ok ⟨copying.status, copied, total⟩, c.withStaging (c.staging.watched name copying)) := by
    simp only [answer, onStaging, told]
    rfl
  exact ⟨copied, total, ran_step (copyProgress_run name) told⟩

private theorem answer_revokeAccess (snapshot : String) (calm : c.staging.revokeFailure = none) :
    answer (.revokeAccess snapshot) c = (.ok (), c.withStaging c.staging.revoked) := by
  simp only [answer, onStaging, Staging.revoke_calm calm]
  rfl

private theorem ran_revokeGrants (snapshot : String) (calm : c.staging.revokeFailure = none) :
    Ran (revokeGrants snapshot).run c [⟨.revokeAccess snapshot, .ok ()⟩] (.ok ())
      (c.withStaging c.staging.revoked) :=
  ran_step (revokeGrants_run snapshot) (answer_revokeAccess snapshot calm)

private theorem ran_deleteCopy (found : c.staging.objects.get? name = some copying) :
    Ran (deleteCopy name).run c [⟨.deleteCopy name, .ok ()⟩] (.ok ())
      (c.withStaging (c.staging.without name)) := by
  have told : answer (.deleteCopy name) c = (.ok (), c.withStaging (c.staging.without name)) := by
    simp only [answer, onStaging, Staging.deleteCopy, found]
    rfl
  exact ran_step (deleteCopy_run name) told

section

variable {timing : Timing} {snapshot : String}

private theorem startCopy_refused {f : Failure} (calm : c.staging.revokeFailure = none)
    (failing : c.staging.startFailure = some f) : ∃ access e,
    Ran (startCopy timing snapshot name).run c
      [⟨.grantAccess snapshot timing.grantTtl, .ok access⟩, ⟨.startCopy name access, .error f⟩,
        ⟨.revokeAccess snapshot, .ok ()⟩]
      (.error e) (c.withStaging c.staging.granted.revoked) := by
  obtain ⟨access, granted⟩ : ∃ access, answer (.grantAccess snapshot timing.grantTtl) c =
      (.ok access, c.withStaging c.staging.granted) := ⟨_, rfl⟩
  have refused : answer (.startCopy name access) (c.withStaging c.staging.granted) =
      (.error f, c.withStaging c.staging.granted) := by
    have told : c.staging.granted.startCopy name = (.error f, c.staging.granted) :=
      Staging.startCopy_failing failing
    simp only [answer, onStaging, staging_withStaging, told]
    rfl
  have revoked : answer (.revokeAccess snapshot) (c.withStaging c.staging.granted) =
      (.ok (), c.withStaging c.staging.granted.revoked) := answer_revokeAccess snapshot calm
  refine ⟨access, f.setback.during ("starting copy into " ++ name), ?_⟩
  exact ran_ask granted (ran_ask refused (ran_ask revoked (ran_done _ _)))

private theorem startCopy_started (calm : c.staging.startFailure = none) : ∃ access reason,
    Ran (startCopy timing snapshot name).run c
      [⟨.grantAccess snapshot timing.grantTtl, .ok access⟩, ⟨.startCopy name access, .ok ()⟩]
      (.error (.retry timing.copy reason)) (c.withStaging (c.staging.granted.started name)) := by
  obtain ⟨access, granted⟩ : ∃ access, answer (.grantAccess snapshot timing.grantTtl) c =
      (.ok access, c.withStaging c.staging.granted) := ⟨_, rfl⟩
  have started : answer (.startCopy name access) (c.withStaging c.staging.granted) =
      (.ok (), c.withStaging (c.staging.granted.started name)) := by
    have told : c.staging.granted.startCopy name = (.ok (), c.staging.granted.started name) :=
      Staging.startCopy_calm calm
    simp only [answer, onStaging, staging_withStaging, told]
    rfl
  exact ⟨access, _, ran_ask granted (ran_ask started (ran_done _ _))⟩

end

section

variable (store : StagingStore) (timing : Timing) {job : Job} (snapshot : Handle)

theorem ensureStagedCopy_refused {f : Failure} (calm : c.staging.revokeFailure = none)
    (failing : c.staging.startFailure = some f)
    (gone : c.staging.objects.get? job.names.stagedCopy = none) : ∃ access e,
    Ran (ensureStagedCopy store timing job snapshot).run c
      [⟨.copyStatus job.names.stagedCopy, copyMissing⟩,
        ⟨.grantAccess snapshot.name timing.grantTtl, .ok access⟩,
        ⟨.startCopy job.names.stagedCopy access, .error f⟩,
        ⟨.revokeAccess snapshot.name, .ok ()⟩]
      (.error e) (c.withStaging c.staging.granted.revoked) := by
  obtain ⟨access, e, ran⟩ := startCopy_refused calm failing
  exact ⟨access, e, (ran_copyProgress_missing gone).andThen ran⟩

theorem ensureStagedCopy_started (calm : c.staging.startFailure = none)
    (gone : c.staging.objects.get? job.names.stagedCopy = none) : ∃ access reason,
    Ran (ensureStagedCopy store timing job snapshot).run c
      [⟨.copyStatus job.names.stagedCopy, copyMissing⟩,
        ⟨.grantAccess snapshot.name timing.grantTtl, .ok access⟩,
        ⟨.startCopy job.names.stagedCopy access, .ok ()⟩]
      (.error (.retry timing.copy reason))
      (c.withStaging (c.staging.granted.started job.names.stagedCopy)) := by
  obtain ⟨access, reason, ran⟩ := startCopy_started calm
  exact ⟨access, reason, (ran_copyProgress_missing gone).andThen ran⟩

theorem ensureStagedCopy_pending (pending : copying.status = .pending)
    (found : c.staging.objects.get? job.names.stagedCopy = some copying) : ∃ copied total delay reason,
    Ran (ensureStagedCopy store timing job snapshot).run c
      [⟨.copyStatus job.names.stagedCopy, .ok ⟨.pending, copied, total⟩⟩]
      (.error (.retry delay reason))
      (c.withStaging (c.staging.watched job.names.stagedCopy copying)) := by
  obtain ⟨copied, total, look⟩ := ran_copyProgress_found found
  rw [pending] at look
  exact ⟨copied, total, _, _, look.andThen (ran_done _ _)⟩

theorem ensureStagedCopy_success (calm : c.staging.revokeFailure = none)
    (success : copying.status = .success)
    (found : c.staging.objects.get? job.names.stagedCopy = some copying) : ∃ copied total copy,
    Ran (ensureStagedCopy store timing job snapshot).run c
      [⟨.copyStatus job.names.stagedCopy, .ok ⟨.success, copied, total⟩⟩, ⟨.revokeAccess snapshot.name, .ok ()⟩]
      (.ok copy) (c.withStaging (c.staging.watched job.names.stagedCopy copying).revoked) := by
  obtain ⟨copied, total, look⟩ := ran_copyProgress_found found
  rw [success] at look
  have revoked : Ran (revokeGrants snapshot.name).run
      (c.withStaging (c.staging.watched job.names.stagedCopy copying))
      [⟨.revokeAccess snapshot.name, .ok ()⟩] (.ok ())
      (c.withStaging (c.staging.watched job.names.stagedCopy copying).revoked) := ran_revokeGrants _ calm
  exact ⟨copied, total, _, look.andThen (revoked.andThen (ran_done _ _))⟩

/-- Closing the access that served a copy, and deleting the copy. -/
theorem ran_dropCopy {β : Type} {f : Pass β} {es : List (Event clients)} {e : Except Setback β} {d : Cloud}
    (snapshot : String) (calm : c.staging.revokeFailure = none)
    (found : c.staging.objects.get? name = some copying)
    (rest : Ran f.run (c.withStaging (c.staging.revoked.without name)) es e d) :
    Ran (do revokeGrants snapshot; deleteCopy name; f : Pass β).run c
      (⟨.revokeAccess snapshot, .ok ()⟩ :: ⟨.deleteCopy name, .ok ()⟩ :: es) e d := by
  have deleted : Ran (deleteCopy name).run (c.withStaging c.staging.revoked)
      [⟨.deleteCopy name, .ok ()⟩] (.ok ()) (c.withStaging (c.staging.revoked.without name)) :=
    ran_deleteCopy (found : c.staging.revoked.objects.get? name = _)
  exact (ran_revokeGrants snapshot calm).andThen (deleted.andThen rest)

theorem ensureStagedCopy_failed (calm : c.staging.revokeFailure = none) (failed : copying.status = .failed)
    (found : c.staging.objects.get? job.names.stagedCopy = some copying) : ∃ copied total reason,
    Ran (ensureStagedCopy store timing job snapshot).run c
      [⟨.copyStatus job.names.stagedCopy, .ok ⟨.failed, copied, total⟩⟩, ⟨.revokeAccess snapshot.name, .ok ()⟩,
        ⟨.deleteCopy job.names.stagedCopy, .ok ()⟩]
      (.error (.retry timing.copy reason))
      (c.withStaging ((c.staging.watched job.names.stagedCopy copying).revoked.without
        job.names.stagedCopy)) := by
  obtain ⟨copied, total, look⟩ := ran_copyProgress_found found
  rw [failed] at look
  exact ⟨copied, total, _, look.andThen (ran_dropCopy snapshot.name calm Staging.watched_object (ran_done _ _))⟩

theorem removeStagedCopy_missing (gone : c.staging.objects.get? job.names.stagedCopy = none) :
    Ran (removeStagedCopy timing job).run c [⟨.copyStatus job.names.stagedCopy, copyMissing⟩] (.ok ()) c :=
  (ran_copyProgress_missing gone).andThen (ran_done _ _)

theorem removeStagedCopy_found (calm : c.staging.revokeFailure = none)
    (found : c.staging.objects.get? job.names.stagedCopy = some copying) : ∃ copied total,
    Ran (removeStagedCopy timing job).run c
      [⟨.copyStatus job.names.stagedCopy, .ok ⟨copying.status, copied, total⟩⟩,
        ⟨.revokeAccess job.names.snapshot, .ok ()⟩, ⟨.deleteCopy job.names.stagedCopy, .ok ()⟩,
        ⟨.copyStatus job.names.stagedCopy, copyMissing⟩]
      (.ok ()) (c.withStaging ((c.staging.watched job.names.stagedCopy copying).revoked.without
        job.names.stagedCopy)) := by
  obtain ⟨copied, total, look⟩ := ran_copyProgress_found found
  have last : Ran (copyProgress job.names.stagedCopy).run
      (c.withStaging ((c.staging.watched job.names.stagedCopy copying).revoked.without job.names.stagedCopy))
      [⟨.copyStatus job.names.stagedCopy, copyMissing⟩] (.ok none) _ :=
    ran_copyProgress_missing Staging.without_object
  exact ⟨copied, total, look.andThen (ran_dropCopy job.names.snapshot calm Staging.watched_object
    (last.andThen (ran_done _ _)))⟩

end

end Cloud

end ScanProvisioning.Rehearsal
