import ScanProvisioning.Proofs.Rehearsal.Access
import ScanProvisioning.Proofs.Rehearsal.Staging

namespace ScanProvisioning

namespace Event

/-- A copy is started. -/
def startsCopy : Event clients → Bool
  | ⟨.startCopy .., .ok _⟩ => true
  | _ => false

def failsStart : Event clients → Bool
  | ⟨.startCopy .., .error _⟩ => true
  | _ => false

/-- A look shows a copy that has ended, well or not. -/
def seesEnd : Event clients → Bool
  | ⟨.copyStatus _, .ok progress⟩ => progress.status ≠ .pending
  | _ => false

end Event

namespace Rehearsal

open Program Pass

/-- A copy has been started, and no look since then has seen it end. -/
def Unended (es : List (Event clients)) : Prop :=
  ∃ before ev after, es = before ++ ev :: after ∧ ev.startsCopy = true ∧
    ∀ x ∈ after, x.startsCopy = false ∧ x.seesEnd = false

def failedStarts (es : List (Event clients)) : Nat := es.countP Event.failsStart

/-- Copies that were started over, in place of one that had failed or been removed: all but the first. -/
def restarts (es : List (Event clients)) : Nat := es.countP Event.startsCopy - 1

section

variable {es more : List (Event clients)} {ev : Event clients}

theorem not_unended_nil : ¬ Unended [] := by
  intro h
  obtain ⟨before, ev, after, split, -⟩ := h
  cases before <;> cases split

theorem unended_cons : Unended (ev :: es) ↔
    Unended es ∨ ev.startsCopy = true ∧ ∀ x ∈ es, x.startsCopy = false ∧ x.seesEnd = false := by
  constructor
  · intro h
    obtain ⟨before, start, after, split, starts, quiet⟩ := h
    cases before with
    | nil =>
      cases split
      exact .inr ⟨starts, quiet⟩
    | cons _ before =>
      cases split
      exact .inl ⟨before, start, after, rfl, starts, quiet⟩
  · intro h
    rcases h with ⟨before, start, after, rfl, starts, quiet⟩ | ⟨starts, quiet⟩
    · exact ⟨ev :: before, start, after, rfl, starts, quiet⟩
    · exact ⟨[], ev, es, rfl, starts, quiet⟩

theorem unended_append : Unended (es ++ more) ↔
    Unended more ∨ Unended es ∧ ∀ x ∈ more, x.startsCopy = false ∧ x.seesEnd = false := by
  induction es with
  | nil => simp [not_unended_nil]
  | cons ev es ih =>
    rw [List.cons_append, unended_cons, unended_cons, ih, List.forall_mem_append]
    constructor
    · intro h
      rcases h with (late | ⟨early, quiet⟩) | ⟨starts, quiet, quiet'⟩
      · exact .inl late
      · exact .inr ⟨.inl early, quiet⟩
      · exact .inr ⟨.inr ⟨starts, quiet⟩, quiet'⟩
    · intro h
      rcases h with late | ⟨early | ⟨starts, quiet⟩, quiet'⟩
      · exact .inl (.inl late)
      · exact .inl (.inr ⟨early, quiet'⟩)
      · exact .inr ⟨starts, quiet, quiet'⟩

end

/-- How the counters of a staging area stand to what has been asked of it for one copy. -/
structure Accounted (name : String) (es : List (Event clients)) (s : Staging) : Prop where
  balance : s.grants = s.revokes + s.activeGrants
  single : s.activeGrants ≤ 1
  serving : s.activeGrants = 1 ↔ s.objects.get? name ≠ none ∧ Unended es
  /-- Every grant was opened for a start. -/
  opened : s.grants = failedStarts es + es.countP Event.startsCopy
  /-- Every started copy is still there or has been deleted. -/
  dropped : es.countP Event.startsCopy = s.deletes + (s.objects.get? name).isSome.toNat

namespace Accounted

variable {name : String} {es more : List (Event clients)} {s t : Staging} {copying : Copying}

/-- No access is open while the object is missing. -/
theorem closed (accounted : Accounted name es s) (gone : s.objects.get? name = none) :
    s.activeGrants = 0 := by
  have single := accounted.single
  have serving := accounted.serving
  simp only [gone, ne_eq, not_true_eq_false, false_and, iff_false] at serving
  omega

theorem append (accounted : Accounted name es s) (balance : t.grants = t.revokes + t.activeGrants)
    (single : t.activeGrants ≤ 1)
    (serving : t.activeGrants = 1 ↔ t.objects.get? name ≠ none ∧ Unended (es ++ more))
    (opened : t.grants = s.grants + more.countP Event.failsStart + more.countP Event.startsCopy)
    (dropped : s.deletes + (s.objects.get? name).isSome.toNat + more.countP Event.startsCopy =
      t.deletes + (t.objects.get? name).isSome.toNat) : Accounted name (es ++ more) t where
  balance := balance
  single := single
  serving := serving
  opened := by
    have before := accounted.opened
    rw [failedStarts] at before ⊢
    rw [List.countP_append, List.countP_append]
    omega
  dropped := by
    have before := accounted.dropped
    rw [List.countP_append]
    omega

/-- A pass that closes the access, and starts no copy. -/
theorem settled (accounted : Accounted name es s) (counts : t.grants = s.grants)
    (closed : t.activeGrants = 0) (revokes : t.revokes = s.revoked.revokes)
    (starts : more.countP Event.startsCopy = 0) (fails : more.countP Event.failsStart = 0)
    (ended : t.objects.get? name = none ∨ ¬ Unended (es ++ more))
    (dropped : s.deletes + (s.objects.get? name).isSome.toNat =
      t.deletes + (t.objects.get? name).isSome.toNat) : Accounted name (es ++ more) t := by
  have balance := accounted.balance
  have single := accounted.single
  apply accounted.append
  · rw [counts, closed, revokes, Staging.revoked]
    dsimp only
    split <;> omega
  · omega
  · rw [closed]
    constructor
    · intro one
      cases one
    · intro h
      rcases ended with gone | ended
      · exact absurd gone h.1
      · exact absurd h.2 ended
  · omega
  · omega

theorem refused {access : AccessUrl} {f : Failure} {snapshot : String} {ttl : Duration}
    (accounted : Accounted name es s) (gone : s.objects.get? name = none) :
    Accounted name (es ++ [⟨.copyStatus name, Cloud.copyMissing⟩,
      ⟨.grantAccess snapshot ttl, .ok access⟩, ⟨.startCopy name access, .error f⟩,
      ⟨.revokeAccess snapshot, .ok ()⟩]) s.granted.revoked := by
  have closed := accounted.closed gone
  have balance := accounted.balance
  have still : s.granted.revoked.objects.get? name = none := gone
  apply accounted.append
  · have opens : 0 < s.granted.activeGrants := Nat.succ_pos _
    change s.grants + 1 = (if 0 < s.granted.activeGrants then s.revokes + 1 else s.revokes) + 0
    rw [if_pos opens]
    omega
  · exact Nat.zero_le 1
  · simp [gone, Staging.revoked]
  · rfl
  · rw [still, gone]
    rfl

theorem started {access : AccessUrl} {snapshot : String} {ttl : Duration}
    (accounted : Accounted name es s) (gone : s.objects.get? name = none) :
    Accounted name (es ++ [⟨.copyStatus name, Cloud.copyMissing⟩,
      ⟨.grantAccess snapshot ttl, .ok access⟩, ⟨.startCopy name access, .ok ()⟩])
      (s.granted.started name) := by
  have closed := accounted.closed gone
  have balance := accounted.balance
  have one : (s.granted.started name).activeGrants = 1 := congrArg (· + 1) closed
  apply accounted.append
  · change s.grants + 1 = s.revokes + (s.activeGrants + 1)
    omega
  · exact Nat.le_of_eq one
  · simp [one, unended_append, unended_cons, Event.startsCopy]
  · rfl
  · rw [Staging.started_object, gone]
    rfl

/-- A look that finds the copy under way. -/
theorem pending {copied total : Option UInt64} (accounted : Accounted name es s)
    (found : s.objects.get? name = some copying) :
    Accounted name (es ++ [⟨.copyStatus name, .ok ⟨.pending, copied, total⟩⟩]) (s.watched name copying) := by
  have serving := accounted.serving
  rw [found] at serving
  apply accounted.append
  · exact accounted.balance
  · exact accounted.single
  · change s.activeGrants = 1 ↔ _
    rw [Staging.watched_object]
    simpa [unended_append, unended_cons, not_unended_nil, Event.startsCopy, Event.seesEnd] using serving
  · rfl
  · rw [Staging.watched_object, found]
    rfl

theorem success {copied total : Option UInt64} {snapshot : String} (accounted : Accounted name es s)
    (found : s.objects.get? name = some copying) :
    Accounted name (es ++ [⟨.copyStatus name, .ok ⟨.success, copied, total⟩⟩, ⟨.revokeAccess snapshot, .ok ()⟩])
      (s.watched name copying).revoked := by
  refine accounted.settled rfl rfl rfl rfl rfl (.inr ?_) ?_
  · simp [unended_append, unended_cons, not_unended_nil, Event.startsCopy, Event.seesEnd]
  · rw [Staging.revoked_object, Staging.watched_object, found]
    rfl

/-- A copy is deleted once the access to its snapshot has been closed; a look may follow. -/
theorem deleted {status : CopyStatus} {copied total : Option UInt64} {snapshot : String}
    {last : List (Event clients)} (accounted : Accounted name es s)
    (found : s.objects.get? name = some copying)
    (looks : ∀ ev ∈ last, ev = ⟨.copyStatus name, Cloud.copyMissing⟩) :
    Accounted name (es ++ ⟨.copyStatus name, .ok ⟨status, copied, total⟩⟩ :: ⟨.revokeAccess snapshot, .ok ()⟩ ::
      ⟨.deleteCopy name, .ok ()⟩ :: last) ((s.watched name copying).revoked.without name) := by
  have idle (p : Event clients → Bool) (none : p ⟨.copyStatus name, Cloud.copyMissing⟩ = false) :
      last.countP p = 0 := by
    rw [List.countP_eq_zero]
    intro ev member
    rw [looks ev member, none]
    exact Bool.false_ne_true
  refine accounted.settled rfl rfl rfl ?_ ?_ (.inl Staging.without_object) ?_
  · rw [List.countP_cons, List.countP_cons, List.countP_cons, idle _ rfl]
    rfl
  · rw [List.countP_cons, List.countP_cons, List.countP_cons, idle _ rfl]
    rfl
  · rw [Staging.without_object, found]
    rfl

end Accounted

theorem Copying.status_eq_success_iff {copying : Copying} :
    copying.status = .success ↔ copying.left = 0 ∧ copying.fails = false := by
  unfold status
  split
  · next left => simp [left]
  · next left =>
    have none : copying.left = 0 := by omega
    split <;> simp_all

namespace Staging

/-- What the counters of a staging area show. -/
def counters (s : Staging) : Nat × Nat × Nat × Nat := (s.grants, s.revokes, s.activeGrants, s.deletes)

/-- The copy is there, and no access is open any more. -/
def Finished (name : String) (s : Staging) : Prop :=
  s.activeGrants = 0 ∧ ∃ copying, s.objects.get? name = some copying ∧ copying.status = .success

variable {s : Staging} {name : String} {copying : Copying}

private theorem finished_watched (success : copying.status = .success) :
    Finished name (s.watched name copying).revoked := by
  obtain ⟨left, fine⟩ := Copying.status_eq_success_iff.mp success
  refine ⟨rfl, _, watched_object, ?_⟩
  rw [Copying.status_eq_success_iff]
  exact ⟨by rw [left], fine⟩

private theorem Finished.counters_watched (finished : Finished name s) :
    (s.watched name copying).revoked.counters = s.counters := by
  have none : ¬ 0 < (s.watched name copying).activeGrants := by
    change ¬ 0 < s.activeGrants
    rw [finished.1]
    exact Nat.lt_irrefl 0
  change (s.grants, (if 0 < (s.watched name copying).activeGrants then s.revokes + 1 else s.revokes), 0,
    s.deletes) = (s.grants, s.revokes, s.activeGrants, s.deletes)
  rw [if_neg none, finished.1]

end Staging

namespace Cloud

/-- A pass that stages a copy. -/
def stagingPass (store : StagingStore) (timing : Timing) (job : Job) (snapshot : Handle) :
    Program clients (Except Setback StagedCopy) :=
  (ensureStagedCopy store timing job snapshot).run

/-- A pass that removes a staged copy. -/
def unstagingPass (timing : Timing) (job : Job) : Program clients (Except Setback Unit) :=
  (removeStagedCopy timing job).run

variable (store : StagingStore) (timing : Timing) {job : Job} (snapshot : Handle) {c : Cloud}
  {es : List (Event clients)}

theorem stagingPass_accounted (calm : c.staging.revokeFailure = none)
    (accounted : Accounted job.names.stagedCopy es c.staging) :
    ∃ pass r d, Ran (stagingPass store timing job snapshot) c pass r d ∧
      Accounted job.names.stagedCopy (es ++ pass) d.staging ∧
      ∀ copy, r = .ok copy → d.staging.Finished job.names.stagedCopy := by
  cases found : c.staging.objects.get? job.names.stagedCopy with
  | none =>
    cases starts : c.staging.startFailure with
    | some f =>
      obtain ⟨access, e, ran⟩ := ensureStagedCopy_refused store timing snapshot calm starts found
      exact ⟨_, _, _, ran, accounted.refused found, nofun⟩
    | none =>
      obtain ⟨access, reason, ran⟩ := ensureStagedCopy_started store timing snapshot starts found
      exact ⟨_, _, _, ran, accounted.started found, nofun⟩
  | some copying =>
    cases status : copying.status with
    | pending =>
      obtain ⟨copied, total, delay, reason, ran⟩ := ensureStagedCopy_pending store timing snapshot status found
      exact ⟨_, _, _, ran, accounted.pending found, nofun⟩
    | success =>
      obtain ⟨copied, total, copy, ran⟩ := ensureStagedCopy_success store timing snapshot calm status found
      exact ⟨_, _, _, ran, accounted.success found, fun _ _ => Staging.finished_watched status⟩
    | failed =>
      obtain ⟨copied, total, reason, ran⟩ := ensureStagedCopy_failed store timing snapshot calm status found
      exact ⟨_, _, _, ran, accounted.deleted found (List.forall_mem_nil _), nofun⟩
    | aborted =>
      unfold Copying.status at status
      split at status
      · cases status
      · split at status <;> cases status

theorem unstagingPass_accounted (calm : c.staging.revokeFailure = none)
    (accounted : Accounted job.names.stagedCopy es c.staging) :
    ∃ pass r d, Ran (unstagingPass timing job) c pass r d ∧
      Accounted job.names.stagedCopy (es ++ pass) d.staging := by
  cases found : c.staging.objects.get? job.names.stagedCopy with
  | none =>
    refine ⟨_, _, _, removeStagedCopy_missing timing found, ?_⟩
    refine accounted.settled rfl (accounted.closed found) ?_ rfl rfl (.inl found) rfl
    have closed := accounted.closed found
    change _ = if 0 < c.staging.activeGrants then _ else _
    rw [closed]
    rfl
  | some copying =>
    obtain ⟨copied, total, ran⟩ := removeStagedCopy_found timing calm found
    exact ⟨_, _, _, ran, accounted.deleted found (by simp)⟩

/-- Staging again finds the copy, and the counters stay as they are. -/
theorem stagingPass_finished (calm : c.staging.revokeFailure = none)
    (finished : c.staging.Finished job.names.stagedCopy) : ∃ copy d,
    run (stagingPass store timing job snapshot) c = (.ok copy, d) ∧
      d.staging.Finished job.names.stagedCopy ∧ d.staging.counters = c.staging.counters := by
  obtain ⟨-, copying, found, success⟩ := id finished
  obtain ⟨copied, total, copy, ran⟩ := ensureStagedCopy_success store timing snapshot calm success found
  exact ⟨copy, _, ran.run, Staging.finished_watched success, finished.counters_watched⟩

end Cloud

/-- What complete calls for one job have asked of an account that was empty, and the account they leave:
calls that stage a copy or remove it in any order, before each of which starts of copies or a copy may be
ordered to fail, but no revocation. -/
inductive Calls (polls : Nat) (job : Job) : List (Event clients) → Cloud → Prop
  | empty : Calls polls job [] (Cloud.empty polls)
  | stage {es : List (Event clients)} {c : Cloud} (earlier : Calls polls job es c) (store : StagingStore)
      (timing : Timing) (snapshot : Handle) (o : Orders) (calm : o.revokeFailure = none) :
      Calls polls job
        (es ++ (Cloud.stagingPass store timing job snapshot).log Cloud.answer (c.order o))
        (Cloud.run (Cloud.stagingPass store timing job snapshot) (c.order o)).2
  | remove {es : List (Event clients)} {c : Cloud} (earlier : Calls polls job es c) (timing : Timing)
      (o : Orders) (calm : o.revokeFailure = none) :
      Calls polls job (es ++ (Cloud.unstagingPass timing job).log Cloud.answer (c.order o))
        (Cloud.run (Cloud.unstagingPass timing job) (c.order o)).2

section

variable {polls : Nat} {job : Job} {es : List (Event clients)} {c : Cloud}

theorem accounted_order (accounted : Accounted job.names.stagedCopy es c.staging) (o : Orders) :
    Accounted job.names.stagedCopy es (c.order o).staging :=
  ⟨accounted.balance, accounted.single, accounted.serving, accounted.opened, accounted.dropped⟩

theorem Calls.accounted (calls : Calls polls job es c) : Accounted job.names.stagedCopy es c.staging := by
  induction calls with
  | empty =>
    exact ⟨rfl, Nat.zero_le 1, by simp [Cloud.empty, not_unended_nil], rfl, rfl⟩
  | stage earlier store timing snapshot o calm ih =>
    obtain ⟨pass, r, d, ran, accounted, -⟩ :=
      Cloud.stagingPass_accounted store timing snapshot calm (accounted_order ih o)
    rw [ran.log, ran.run]
    exact accounted
  | remove earlier timing o calm ih =>
    obtain ⟨pass, r, d, ran, accounted⟩ := Cloud.unstagingPass_accounted timing calm (accounted_order ih o)
    rw [ran.log, ran.run]
    exact accounted

/-- The account after a pass has been repeated, with failures ordered before each time. -/
def Cloud.repeatedUnder (p : Program clients (Except Setback StagedCopy)) (os : List Orders) (c : Cloud) :
    Cloud :=
  os.foldl (fun c o => (run p (c.order o)).2) c

private theorem counters_repeated {store : StagingStore} {timing : Timing} {snapshot : Handle}
    {os : List Orders}
    (finished : c.staging.Finished job.names.stagedCopy) (calm : ∀ o ∈ os, o.revokeFailure = none) :
    (c.repeatedUnder (Cloud.stagingPass store timing job snapshot) os).staging.counters =
      c.staging.counters := by
  induction os generalizing c with
  | nil => rfl
  | cons o os ih =>
    rw [List.forall_mem_cons] at calm
    have finished : (c.order o).staging.Finished job.names.stagedCopy := finished
    obtain ⟨copy, d, ran, still, same⟩ :=
      Cloud.stagingPass_finished store timing snapshot calm.1 finished
    have next := ih still calm.2
    rw [same] at next
    change (Cloud.repeatedUnder _ os (Cloud.run _ (c.order o)).2).staging.counters = _
    rw [ran]
    exact next

/-- The grants of a job add up over every series of calls in which no revocation fails: at most one is
open, and exactly while a copy is there that no call has seen end. Once staging succeeds, every grant has
been closed, one for the copy, one for every failed start and one for every copy that was started over;
staging again changes nothing. -/
theorem grants_accounted (calls : Calls polls job es c) :
    (c.staging.activeGrants ≤ 1 ∧ c.staging.grants = c.staging.revokes + c.staging.activeGrants ∧
      (c.staging.activeGrants = 1 ↔ c.Holds job.names.stagedCopy ∧ Unended es)) ∧
    ∀ store timing snapshot o copy pass c', o.revokeFailure = none →
      Cloud.Ran (Cloud.stagingPass store timing job snapshot) (c.order o) pass (.ok copy) c' →
      c'.staging.grants = c'.staging.revokes ∧
      c'.staging.revokes = 1 + failedStarts (es ++ pass) + restarts (es ++ pass) ∧
      restarts (es ++ pass) = c'.staging.deletes ∧
      ∀ os, (∀ o ∈ os, o.revokeFailure = none) →
        (c'.repeatedUnder (Cloud.stagingPass store timing job snapshot) os).staging.counters =
          c'.staging.counters := by
  have accounted := calls.accounted
  refine ⟨⟨accounted.single, accounted.balance, accounted.serving⟩, ?_⟩
  intro store timing snapshot o copy pass c' calm ran
  obtain ⟨pass', r, d, ran', accounted', finish⟩ :=
    Cloud.stagingPass_accounted store timing snapshot calm (accounted_order accounted o)
  obtain rfl : pass = pass' := ran.log.symm.trans ran'.log
  obtain ⟨rfl, rfl⟩ : .ok copy = r ∧ c' = d := Prod.ext_iff.mp (ran.run.symm.trans ran'.run)
  have finished := finish copy rfl
  obtain ⟨closed, copying, there, -⟩ := id finished
  have balance := accounted'.balance
  have opened := accounted'.opened
  have dropped := accounted'.dropped
  rw [there, Option.isSome_some, Bool.toNat_true] at dropped
  refine ⟨by omega, ?_, ?_, fun os calm => counters_repeated finished calm⟩
  · rw [restarts]
    omega
  · rw [restarts]
    omega

end

section

def sampleStaging : Program clients (Except Setback StagedCopy) :=
  Cloud.stagingPass Cloud.store .cloud (sampleJob true) sampleSnapshot

/-- The events and the account after one more call that stages a copy. -/
def andStage (o : Orders) (past : List (Event clients) × Cloud) : List (Event clients) × Cloud :=
  (past.1 ++ sampleStaging.log Cloud.answer (past.2.order o), (Cloud.run sampleStaging (past.2.order o)).2)

def andRemove (past : List (Event clients) × Cloud) : List (Event clients) × Cloud :=
  (past.1 ++ (Cloud.unstagingPass .cloud (sampleJob true)).log Cloud.answer (past.2.order {}),
    (Cloud.run (Cloud.unstagingPass .cloud (sampleJob true)) (past.2.order {})).2)

theorem calls_andStage (o : Orders) {past : List (Event clients) × Cloud} (calm : o.revokeFailure = none)
    (calls : Calls 0 (sampleJob true) past.1 past.2) :
    Calls 0 (sampleJob true) (andStage o past).1 (andStage o past).2 :=
  calls.stage Cloud.store .cloud sampleSnapshot o calm

private theorem calls_andRemove {past : List (Event clients) × Cloud}
    (calls : Calls 0 (sampleJob true) past.1 past.2) :
    Calls 0 (sampleJob true) (andRemove past).1 (andRemove past).2 :=
  calls.remove .cloud {} rfl

theorem andStage_events (o : Orders) (past : List (Event clients) × Cloud) :
    (andStage o past).1 = past.1 ++ sampleStaging.log Cloud.answer (past.2.order o) := rfl

private theorem ran_andStage {o : Orders} {past : List (Event clients) × Cloud} {copy : StagedCopy}
    (ends : (Cloud.run sampleStaging (past.2.order o)).1 = .ok copy) :
    Cloud.Ran sampleStaging (past.2.order o) (sampleStaging.log Cloud.answer (past.2.order o)) (.ok copy)
      (andStage o past).2 :=
  ⟨rfl, Prod.ext ends rfl⟩

def noStart : Orders where
  startFailure := some (.unreachable "starting copy" "connection reset" false)

/-- A start fails, a copy fails and is started over, and its successor is removed and started over. -/
def mishaps : List (Event clients) × Cloud :=
  andStage {} (andRemove (andStage {} (andStage {} (andStage { failNextCopy := true }
    (andStage noStart ([], Cloud.empty 0))))))

theorem grants_accounted_mishaps :
    Calls 0 (sampleJob true) mishaps.1 mishaps.2 ∧
    mishaps.2.staging.activeGrants = 1 ∧ Unended mishaps.1 ∧
    (andStage {} mishaps).2.staging.grants = (andStage {} mishaps).2.staging.revokes ∧
    (andStage {} mishaps).2.staging.revokes = 1 + 1 + 2 ∧
    failedStarts (andStage {} mishaps).1 = 1 ∧ restarts (andStage {} mishaps).1 = 2 := by
  have calls : Calls 0 (sampleJob true) mishaps.1 mishaps.2 := by
    unfold mishaps
    apply calls_andStage {} rfl
    apply calls_andRemove
    apply calls_andStage {} rfl
    apply calls_andStage {} rfl
    apply calls_andStage { failNextCopy := true } rfl
    exact calls_andStage noStart rfl .empty
  have open_ : mishaps.2.staging.activeGrants = 1 := by decide +kernel
  have failed : failedStarts (andStage {} mishaps).1 = 1 := by decide +kernel
  have again : restarts (andStage {} mishaps).1 = 2 := by decide +kernel
  obtain ⟨copy, ends⟩ := exists_ok_of_isOk
    (by decide +kernel : (Cloud.run sampleStaging (mishaps.2.order {})).1.isOk = true)
  obtain ⟨⟨-, -, serving⟩, settled⟩ := grants_accounted calls
  obtain ⟨closed, counted, -⟩ :=
    settled Cloud.store .cloud sampleSnapshot {} copy _ _ rfl (ran_andStage ends)
  rw [← andStage_events, failed, again] at counted
  exact ⟨calls, open_, (serving.mp open_).2, closed, counted, failed, again⟩

end

end Rehearsal

end ScanProvisioning
