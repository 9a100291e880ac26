import ScanProvisioning.Proofs.Pass.Dependency
import ScanProvisioning.Proofs.Pass.Teardown
import ScanProvisioning.Provider

namespace ScanProvisioning

namespace ClientCall

def revokes : ClientCall → Bool
  | revokeAccess _ => true
  | _ => false

def startsCopy : ClientCall → Bool
  | startCopy .. => true
  | _ => false

end ClientCall

/-- What the kind of a failure's verdict depends on. -/
inductive Failure.Shape
  | refused (status : UInt16) (code : Option String)
  | unreachable
  | unreadable
  | unsupported

def Failure.shape : Failure → Shape
  | .refused _ status code _ _ => .refused status code
  | .unreachable .. => .unreachable
  | .unreadable .. => .unreadable
  | .unsupported .. => .unsupported

inductive Verdict.Kind
  | missing
  | retry
  | fatal

namespace Verdict

def kind : Verdict → Kind
  | missing => .missing
  | retry .. => .retry
  | fatal _ => .fatal

/-- The same verdict, with another delay where it has one. -/
def after (delay : Duration) : Verdict → Verdict
  | retry _ reason => retry delay reason
  | v => v

end Verdict

private theorem Failure.kind_of_shape {f g : Failure} (same : f.shape = g.shape) :
    f.verdict.kind = g.verdict.kind := by
  cases f with
  | refused operation status code message retryAfter =>
    cases g with
    | refused operation' status' code' message' retryAfter' =>
      obtain ⟨rfl, rfl⟩ := Shape.refused.inj same
      simp only [verdict]
      split
      · rfl
      split
      · rfl
      split
      · rfl
      split <;> rfl
    | unreachable | unreadable | unsupported => cases same
  | unreachable | unreadable | unsupported => cases g <;> first | rfl | cases same

/-- A hint moves the delay of a refusal, and nothing else. -/
theorem Failure.verdict_hint (operation : String) (status : UInt16) (code : Option String)
    (message : String) (hint : Duration) (earlier : Option Duration) :
    (refused operation status code message (some hint)).verdict =
      (refused operation status code message earlier).verdict.after (min hint longestHint) := by
  simp only [verdict]
  split
  · rfl
  split
  · rfl
  split
  · rfl
  split <;> rfl

/-- The second setback is the first, of the same kind and delay, with words before its reason. -/
inductive Setback.Adds (words : String) : Setback → Setback → Prop
  | retry (delay : Duration) (reason : String) :
    Adds words (.retry delay reason) (.retry delay (words ++ reason))
  | fatal (reason : String) : Adds words (.fatal reason) (.fatal (words ++ reason))

private theorem Setback.adds_during (activity : String) (s : Setback) :
    Adds (activity ++ ": ") s (s.during activity) := by
  cases s with
  | retry delay reason => exact .retry delay reason
  | fatal reason => exact .fatal reason

namespace Pass

open Program

/-- A failure that does not stop a pass: what the call was to look at, to revoke or to delete is missing. -/
def Tolerated (call : ClientCall) (f : Failure) : Prop :=
  f.verdict = .missing ∧ (call.looks = true ∨ call.revokes = true ∨ call.deletes = true)

/-- A revocation right after a copy could not be started. -/
def BestEffort (before : List (Event clients)) (call : ClientCall) : Prop :=
  call.revokes = true ∧ ∃ earlier name access f,
    before = earlier ++ [(⟨.startCopy name access, .error f⟩ : Event clients)]

/-- An event that does not stop a pass. -/
def Smooth (ev : Event clients) : Prop := ∀ f, ev.failure? = some f → Tolerated ev.call f

/-- All that may follow the failure that stops a pass. -/
def Afterwards (call : ClientCall) (after : List (Event clients)) : Prop :=
  after = [] ∨ call.startsCopy = true ∧
    ∃ snapshot r, after = [(⟨.revokeAccess snapshot, r⟩ : Event clients)]

/-- How a pass accounts for its events: either none of them stops it, and a fatal setback has some cause
of its own, or one of them stops it and is what the pass ends in. -/
inductive Account {α : Type} (cause : List (Event clients) → String → Prop) (es : List (Event clients))
    (e : Option (Except Setback α)) : Prop
  | smooth (clean : ∀ ev ∈ es, Smooth ev)
      (fatal : ∀ reason, e = some (.error (.fatal reason)) → cause es reason)
  | stopped {before after : List (Event clients)} {ev : Event clients} {f : Failure}
      (split : es = before ++ ev :: after) (clean : ∀ ev ∈ before, Smooth ev)
      (failed : ev.failure? = some f) (hard : ¬ Tolerated ev.call f) (last : Afterwards ev.call after)
      (ends : ∀ result, e = some result → ∃ activity, result = .error (f.setback.during activity))

/-- A pass accounts for its events in every run. -/
def Accounts {α : Type} (cause : List (Event clients) → String → Prop) (x : Pass α) : Prop :=
  ∀ es e, Trace x.run es e → Account cause es e

section

variable {α β : Type} {cause : List (Event clients) → String → Prop} {es before : List (Event clients)}
  {e : Option (Except Setback α)} {ev : Event clients} {call : ClientCall}

theorem Account.mono {weaker : List (Event clients) → String → Prop}
    (weaken : ∀ reason, cause es reason → weaker es reason) (account : Account cause es e) :
    Account weaker es e := by
  cases account with
  | smooth clean fatal => exact .smooth clean fun reason same => weaken reason (fatal reason same)
  | stopped split clean failed hard last ends => exact .stopped split clean failed hard last ends

/-- What came before, as long as nothing stopped the pass. -/
theorem Account.prepend (clean : ∀ ev ∈ before, Smooth ev)
    (account : Account (fun after => cause (before ++ after)) es e) : Account cause (before ++ es) e := by
  cases account with
  | smooth clean' fatal => exact .smooth (List.forall_mem_append.mpr ⟨clean, clean'⟩) fatal
  | stopped split clean' failed hard last ends =>
    subst split
    rw [← List.append_assoc]
    exact .stopped rfl (List.forall_mem_append.mpr ⟨clean, clean'⟩) failed hard last ends

/-- A pass that ends well has met nothing that stops it. -/
theorem Account.clean_of_ok {a : α} (account : Account cause es (some (.ok a))) : ∀ ev ∈ es, Smooth ev := by
  cases account with
  | smooth clean => exact clean
  | stopped split clean failed hard last ends =>
    obtain ⟨activity, same⟩ := ends _ rfl
    cases same

/-- The first event stops the pass. -/
theorem Account.first {after : List (Event clients)} {f : Failure} (failed : ev.failure? = some f)
    (hard : ¬ Tolerated ev.call f) (last : Afterwards ev.call after)
    (ends : ∀ result, e = some result → ∃ activity, result = .error (f.setback.during activity)) :
    Account cause (ev :: after) e :=
  .stopped (List.nil_append _).symm (List.forall_mem_nil _) failed hard last ends

theorem accounts_done {result : Except Setback α}
    (fatal : ∀ reason, result = .error (.fatal reason) → cause [] reason) :
    Accounts cause (ExceptT.mk (.done result) : Pass α) := by
  intro es e run
  obtain ⟨rfl, rfl | rfl⟩ := trace_done_iff.mp run
  · exact .smooth (List.forall_mem_nil _) nofun
  · exact .smooth (List.forall_mem_nil _) fun reason same => fatal reason (Option.some.inj same)

theorem accounts_pure (a : α) : Accounts cause (pure a : Pass α) := accounts_done nofun

theorem accounts_retry (delay : Duration) (reason : String) :
    Accounts cause (throw (.retry delay reason) : Pass α) := accounts_done nofun

/-- Passes one after the other. What the second makes of its own events depends on the events before. -/
theorem Accounts.bind {x : Pass α} {f : α → Pass β} (first : Accounts cause x)
    (rest : ∀ a before, Trace x.run before (some (.ok a)) →
      Accounts (fun after => cause (before ++ after)) (f a)) : Accounts cause (x >>= f) := by
  intro es e run
  rcases trace_bindExcept_iff.mp run with
    ⟨rfl, early⟩ | ⟨s, rfl, early⟩ | ⟨a, before, after, rfl, early, late⟩
  · cases first es none early with
    | smooth clean => exact .smooth clean nofun
    | stopped split clean failed hard last => exact .stopped split clean failed hard last nofun
  · cases first es _ early with
    | smooth clean fatal =>
      refine .smooth clean fun reason same => fatal reason ?_
      cases same
      rfl
    | stopped split clean failed hard last ends =>
      refine .stopped split clean failed hard last ?_
      intro result same
      cases same
      obtain ⟨activity, same⟩ := ends _ rfl
      cases same
      exact ⟨activity, rfl⟩
  · exact (rest a before early after e late).prepend (first before _ early).clean_of_ok

/-- Passes one after the other, where a cause remains one whatever came before. -/
theorem Accounts.andThen {x : Pass α} {f : α → Pass β} (first : Accounts cause x)
    (lasting : ∀ before after reason, cause after reason → cause (before ++ after) reason)
    (rest : ∀ a, Accounts cause (f a)) : Accounts cause (x >>= f) :=
  first.bind fun a before _ es e run => (rest a es e run).mono (lasting before es)

/-- What a pass makes of the answer to a single question, if it is to account for it. -/
inductive Reads (ev : Event clients) : Except Setback α → Prop
  | settled (a : α) (smooth : Smooth ev) : Reads ev (.ok a)
  | gaveUp {f : Failure} (activity : String) (failed : ev.failure? = some f) (hard : ¬ Tolerated ev.call f) :
      Reads ev (.error (f.setback.during activity))

theorem accounts_step {x : Pass α} {g : call.Reply → Except Setback α}
    (step : x.run = Program.ask (I := clients) call fun r => .done (g r))
    (reads : ∀ r, Reads ⟨call, r⟩ (g r)) : Accounts cause x := by
  intro es e run
  rw [step] at run
  cases run with
  | cut => exact .smooth (List.forall_mem_nil _) nofun
  | ask r rest =>
    obtain ⟨rfl, ends⟩ := trace_done_iff.mp rest
    cases h : g r with
    | ok a =>
      have reads := reads r
      rw [h] at reads
      cases reads with
      | settled _ smooth =>
        refine .smooth (List.forall_mem_singleton.mpr smooth) ?_
        rintro reason rfl
        rw [h] at ends
        rcases ends with ends | ends <;> cases ends
    | error s =>
      have reads := reads r
      rw [h] at reads ends
      cases reads with
      | gaveUp activity failed hard =>
        refine .first failed hard (.inl rfl) ?_
        rintro result rfl
        rcases ends with ends | ends <;> cases ends
        exact ⟨activity, rfl⟩

theorem smooth_of_none (fine : ev.failure? = none) : Smooth ev := by
  intro f failed
  cases fine.symm.trans failed

/-- A question whose answer may be that something is missing. -/
theorem reads_unlessMissing {γ : Type} {activity : String} {found : γ → α} {gone : α}
    {answer : Except Failure γ} (told : ev.failure? = Event.failure?.refusal answer)
    (tolerant : ev.call.looks = true ∨ ev.call.revokes = true ∨ ev.call.deletes = true) :
    Reads ev (unlessMissing activity found gone answer) := by
  cases answer with
  | ok a => exact .settled _ (smooth_of_none told)
  | error f =>
    by_cases missing : f.verdict = .missing
    · rw [unlessMissing_missing missing]
      refine .settled _ ?_
      intro f' failed
      cases told.symm.trans failed
      exact ⟨missing, tolerant⟩
    · rw [unlessMissing_failure missing]
      exact .gaveUp activity told fun tolerated => missing tolerated.1

/-- A question that is followed by what its answer says. -/
theorem accounts_ask {f : call.Reply → Pass β}
    (rest : ∀ r es e, Trace (f r).run es e → Account cause (⟨call, r⟩ :: es) e) :
    Accounts cause (Pass.ask call >>= f) := by
  intro es e run
  cases run with
  | cut => exact .smooth (List.forall_mem_nil _) nofun
  | ask r run => exact rest r _ _ run

theorem account_smooth {x : Pass β} {e : Option (Except Setback β)} (smooth : Smooth ev)
    (rest : Accounts (fun after => cause (ev :: after)) x) (run : Trace x.run es e) :
    Account cause (ev :: es) e := by
  have clean : ∀ x ∈ [ev], Smooth x := List.forall_mem_singleton.mpr smooth
  exact (rest es e run).prepend clean

theorem account_giveUp {activity : String} {f : Failure} (failed : ev.failure? = some f)
    (hard : ¬ Tolerated ev.call f) (run : Trace (giveUp activity f : Pass α).run es e) :
    Account cause (ev :: es) e := by
  obtain ⟨rfl, ends⟩ := trace_throw_iff.mp run
  refine .first failed hard (.inl rfl) ?_
  rintro result rfl
  rcases ends with ends | ends <;> cases ends
  exact ⟨activity, rfl⟩

/-- No failure of a call that is to start something is tolerated. -/
theorem not_tolerated {f : Failure} (looks : call.looks = false) (revokes : call.revokes = false)
    (deletes : call.deletes = false) : ¬ Tolerated call f := by
  rintro ⟨-, tolerant⟩
  simp [looks, revokes, deletes] at tolerant

end

section

variable {cause : List (Event clients) → String → Prop} {timing : Timing} {job : Job}

theorem observe_accounts (kind : ResourceKind) (name : String) : Accounts cause (observe kind name) :=
  accounts_step (observe_run kind name) fun _ => reads_unlessMissing rfl (.inl rfl)

theorem isPresent_accounts (kind : ResourceKind) (name : String) : Accounts cause (isPresent kind name) :=
  accounts_step (isPresent_run kind name) fun _ => reads_unlessMissing rfl (.inl rfl)

theorem copyProgress_accounts (name : String) : Accounts cause (copyProgress name) :=
  accounts_step (copyProgress_run name) fun _ => reads_unlessMissing rfl (.inl rfl)

theorem revokeGrants_accounts (snapshot : String) : Accounts cause (revokeGrants snapshot) :=
  accounts_step (revokeGrants_run snapshot) fun _ => reads_unlessMissing rfl (.inr (.inl rfl))

theorem deleteCopy_accounts (name : String) : Accounts cause (deleteCopy name) :=
  accounts_step (deleteCopy_run name) fun _ => reads_unlessMissing rfl (.inr (.inr rfl))

/-- Access is closed again where the copy cannot be started, and whatever comes of that, the pass ends in
what the start came to. -/
theorem startCopy_accounts (snapshot name : String) : Accounts cause (startCopy timing snapshot name) := by
  refine accounts_ask ?_
  rintro (f | access) es e run
  · exact account_giveUp rfl (not_tolerated rfl rfl rfl) run
  · refine account_smooth (smooth_of_none rfl) (accounts_ask ?_) run
    rintro (f | ⟨⟩) es e run
    · have hard : ¬ Tolerated (.startCopy name access) f := not_tolerated rfl rfl rfl
      cases run with
      | cut => exact .first rfl hard (.inl rfl) nofun
      | ask r run =>
        obtain ⟨rfl, ends⟩ := trace_done_iff.mp run
        refine .first rfl hard (.inr ⟨rfl, snapshot, r, rfl⟩) ?_
        rintro result rfl
        rcases ends with ends | ends <;> cases ends
        exact ⟨"starting copy into " ++ name, rfl⟩
    · exact account_smooth (smooth_of_none rfl) (accounts_retry _ _) run

theorem restartCopy_accounts (snapshot name : String) (status : CopyStatus) :
    Accounts cause (restartCopy timing snapshot name status) :=
  (revokeGrants_accounts snapshot).bind fun _ _ _ =>
    (deleteCopy_accounts name).bind fun _ _ _ => accounts_retry _ _

theorem ensureStagedCopy_accounts (store : StagingStore) (snapshot : Handle) :
    Accounts cause (ensureStagedCopy store timing job snapshot) := by
  refine (copyProgress_accounts _).bind fun found _ _ => ?_
  cases found with
  | none => exact startCopy_accounts snapshot.name _
  | some progress =>
    obtain ⟨status, copied, total⟩ := progress
    cases status with
    | pending => exact accounts_retry _ _
    | success => exact (revokeGrants_accounts snapshot.name).bind fun _ _ _ => accounts_pure _
    | failed => exact restartCopy_accounts snapshot.name _ .failed
    | aborted => exact restartCopy_accounts snapshot.name _ .aborted

/-- The last that a pass sees is a resource of its job that has failed. -/
def SeesFailed (job : Job) (es : List (Event clients)) (reason : String) : Prop :=
  ∃ before kind seen, es = before ++ [(⟨.observe kind (job.names.of kind), .ok seen⟩ : Event clients)] ∧
    seen.state = .failed ∧
    reason = label kind (job.names.of kind) ++ " failed to provision, provisioning state: " ++ seen.status

/-- What a build pass is fatal for on its own account. -/
def Unbuildable (facilities : Facilities) (job : Job) (es : List (Event clients)) (reason : String) : Prop :=
  job.crossesRegions = true ∧ facilities.store = none ∨ SeesFailed job es reason

variable {facilities : Facilities}

theorem unbuildable_append (before after : List (Event clients)) (reason : String)
    (unbuildable : Unbuildable facilities job after reason) :
    Unbuildable facilities job (before ++ after) reason := by
  refine unbuildable.imp_right ?_
  rintro ⟨earlier, kind, seen, rfl, failed, same⟩
  exact ⟨before ++ earlier, kind, seen, (List.append_assoc ..).symm, failed, same⟩

theorem ensure_accounts (kind : ResourceKind) {estimate : Duration} {spec : Pass ResourceSpec}
    (resolves : Accounts (Unbuildable facilities job) spec) :
    Accounts (Unbuildable facilities job) (ensure kind (job.names.of kind) estimate spec) := by
  refine (observe_accounts kind _).bind fun found before run => ?_
  cases found with
  | none =>
    intro es e run
    refine Account.mono (unbuildable_append before es) ?_
    refine resolves.andThen unbuildable_append (fun spec => accounts_ask ?_) es e run
    rintro (f | ⟨⟩) es e run
    · exact account_giveUp rfl (not_tolerated rfl rfl rfl) run
    · exact account_smooth (smooth_of_none rfl) (accounts_retry _ _) run
  | some seen =>
    have looked : before = [⟨.observe kind (job.names.of kind), .ok seen⟩] := by
      rw [observe_run] at run
      cases run with
      | ask r rest =>
        obtain ⟨rfl, ends | ends⟩ := trace_done_iff.mp rest
        · cases ends
        obtain ⟨seen', rfl, same⟩ | ⟨f, -, -, same⟩ := unlessMissing_eq_ok (Option.some.inj ends).symm
        · split at same
          · cases same
          · cases same
            rfl
        · cases same
    refine accounts_done ?_
    intro reason failed
    obtain ⟨handle, state, status⟩ := seen
    cases state with
    | failed =>
      cases failed
      exact .inr ⟨[], kind, _, by rw [looked]; rfl, rfl, rfl⟩
    | ready | provisioning | absent => cases failed

theorem build_accounts : Accounts (Unbuildable facilities job) (build facilities timing job) := by
  refine Accounts.andThen ?_ unbuildable_append fun staging => ?_
  · unfold stagingFor
    split
    next crosses =>
      split
      · exact accounts_pure _
      next none => exact accounts_done fun _ _ => .inl ⟨crosses, none⟩
    · exact accounts_pure _
  refine Accounts.andThen (ensure_accounts .snapshot (accounts_pure _)) unbuildable_append
    fun snapshot => ?_
  refine Accounts.andThen (ensure_accounts .volume ?_) unbuildable_append fun volume => ?_
  · refine Accounts.bind ?_ fun _ _ _ => accounts_pure _
    cases staging with
    | none => exact accounts_pure _
    | some store => exact (ensureStagedCopy_accounts store snapshot).bind fun _ _ _ => accounts_pure _
  have last (connection : Option Handle) :
      Accounts (Unbuildable facilities job) (discard (ensureScanner timing job volume connection)) :=
    Accounts.bind (ensure_accounts .scanner (accounts_pure _)) fun _ _ _ => accounts_pure _
  cases facilities.hasNetwork with
  | false => exact last none
  | true =>
    refine Accounts.andThen ?_ unbuildable_append last
    exact Accounts.bind (ensure_accounts .networkInterface (accounts_pure _))
      fun _ _ _ => accounts_pure _

theorem ensureAbsent_accounts (kind : ResourceKind) (name : String) (estimate : Duration) :
    Accounts cause (ensureAbsent kind name estimate) := by
  refine (isPresent_accounts kind name).bind fun present _ _ => ?_
  cases present with
  | false => exact accounts_pure _
  | true =>
    refine accounts_ask ?_
    rintro (f | ⟨⟩) es e run
    · cases verdict : f.verdict with
      | missing =>
        have smooth : Smooth ⟨.delete kind name, .error f⟩ := by
          intro f' failed
          cases failed
          exact ⟨verdict, .inr (.inr rfl)⟩
        simp only [verdict] at run
        exact account_smooth smooth (accounts_pure ()) run
      | retry | fatal =>
        simp only [verdict] at run
        exact account_giveUp rfl (fun tolerated => nomatch verdict.symm.trans tolerated.1) run
    · refine account_smooth (smooth_of_none rfl) ?_ run
      refine (isPresent_accounts kind name).bind fun present _ _ => ?_
      cases present with
      | false => exact accounts_pure _
      | true => exact accounts_retry _ _

theorem removeStagedCopy_accounts : Accounts cause (removeStagedCopy timing job) := by
  refine (copyProgress_accounts _).bind fun found _ _ => ?_
  cases found with
  | none => exact accounts_pure _
  | some progress =>
    refine (revokeGrants_accounts _).bind fun _ _ _ => ?_
    refine (deleteCopy_accounts _).bind fun _ _ _ => ?_
    refine (copyProgress_accounts _).bind fun found _ _ => ?_
    cases found with
    | none => exact accounts_pure _
    | some progress => exact accounts_retry _ _

theorem removeAll_accounts (order : List ResourceKind) : Accounts cause (removeAll timing job order) := by
  induction order generalizing cause with
  | nil => exact accounts_pure _
  | cons kind kinds ih =>
    refine Accounts.bind ?_ fun _ _ _ => ih
    cases kind with
    | stagedCopy => exact removeStagedCopy_accounts
    | snapshot | volume | networkInterface | scanner => exact ensureAbsent_accounts _ _ _

end

section

variable {facilities : Facilities} {timing : Timing} {phase : Phase} {job : Job}
  {es before after : List (Event clients)} {ev : Event clients} {f : Failure}

private theorem startsCopy_failed (starts : ev.call.startsCopy = true) (failed : ev.failure? = some f) :
    ∃ name access, ev = ⟨.startCopy name access, .error f⟩ := by
  obtain ⟨call, r⟩ := ev
  cases call with
  | startCopy name access =>
    rcases r with f' | ⟨⟩
    · cases failed
      exact ⟨name, access, rfl⟩
    · cases failed
  | observe | create | delete | grantAccess | revokeAccess | copyStatus | deleteCopy | listAssets =>
    cases starts

/-- Where nothing stopped the pass before, a revocation is not one after a start that failed. -/
theorem not_bestEffort (clean : ∀ ev ∈ before, Smooth ev) (call : ClientCall) :
    ¬ BestEffort before call := by
  rintro ⟨-, earlier, name, access, f, rfl⟩
  exact not_tolerated rfl rfl rfl (clean _ (List.mem_append_right _ (.head _)) f rfl)

theorem Account.stops {α : Type} {cause : List (Event clients) → String → Prop}
    {e : Option (Except Setback α)} (account : Account cause es e) (split : es = before ++ ev :: after)
    (failed : ev.failure? = some f) (hard : ¬ Tolerated ev.call f) (needed : ¬ BestEffort before ev.call) :
    Afterwards ev.call after ∧
      ∀ result, e = some result → ∃ activity, result = .error (f.setback.during activity) := by
  subst split
  cases account with
  | smooth clean => exact absurd (clean ev (List.mem_append_right _ (.head _)) f failed) hard
  | @stopped earlier later stopping g same clean stops _ last ends =>
    have here (own : ev = stopping) (rest : after = later) : Afterwards ev.call after ∧
        ∀ result, e = some result → ∃ activity, result = .error (f.setback.during activity) := by
      subst own rest
      obtain rfl : f = g := Option.some.inj (failed.symm.trans stops)
      exact ⟨last, ends⟩
    rcases List.append_eq_append_iff.mp same with ⟨between, rfl, tail⟩ | ⟨between, rfl, tail⟩
    · cases between with
      | nil =>
        obtain ⟨own, rest⟩ := List.cons.inj tail
        exact here own rest
      | cons first between =>
        obtain ⟨rfl, -⟩ := List.cons.inj tail
        exact absurd (clean ev (List.mem_append_right _ (.head _)) f failed) hard
    · cases between with
      | nil =>
        obtain ⟨own, rest⟩ := List.cons.inj tail
        exact here own.symm rest.symm
      -- What follows the failure that stops the pass can only be the revocation after it.
      | cons first between =>
        obtain ⟨rfl, rfl⟩ := List.cons.inj tail
        rcases last with none | ⟨starts, snapshot, r, single⟩
        · cases (List.append_eq_nil_iff.mp none).2
        · obtain ⟨name, access, rfl⟩ := startsCopy_failed starts stops
          obtain ⟨rfl, only⟩ | ⟨-, only⟩ := List.append_eq_singleton_iff.mp single
          · obtain ⟨rfl, -⟩ := List.cons.inj only
            exact absurd ⟨rfl, earlier, name, access, g, rfl⟩ needed
          · cases only

/-- What a run of a pass reports. -/
structure Reported (facilities : Facilities) (phase : Phase) (job : Job) (es : List (Event clients))
    (e : Option (Except Setback Unit)) : Prop where
  /-- A failure stops the pass and is what it ends in. -/
  stops : ∀ before ev after f, es = before ++ ev :: after → ev.failure? = some f →
    ¬ Tolerated ev.call f → ¬ BestEffort before ev.call →
    Afterwards ev.call after ∧
      ∀ result, e = some result → ∃ activity s, result = .error s ∧ Setback.Adds (activity ++ ": ") f.setback s
  /-- Nothing else is fatal but what stands in the way of building. -/
  fatal : ∀ reason, e = some (.error (.fatal reason)) →
    (∃ before ev after f said, es = before ++ ev :: after ∧ ev.failure? = some f ∧
      ¬ Tolerated ev.call f ∧ ¬ BestEffort before ev.call ∧ f.verdict = .fatal said) ∨
    phase = .run ∧ Unbuildable facilities job es reason

theorem Account.reported {cause : List (Event clients) → String → Prop} {e : Option (Except Setback Unit)}
    (account : Account cause es e)
    (own : ∀ reason, cause es reason → phase = .run ∧ Unbuildable facilities job es reason) :
    Reported facilities phase job es e := by
  constructor
  case stops =>
    intro before ev after f split failed hard needed
    obtain ⟨last, ends⟩ := account.stops split failed hard needed
    refine ⟨last, ?_⟩
    intro result ended
    obtain ⟨activity, rfl⟩ := ends result ended
    exact ⟨activity, _, rfl, Setback.adds_during activity f.setback⟩
  case fatal =>
    rintro reason rfl
    cases account with
    | smooth clean fatal => exact .inr (own reason (fatal reason rfl))
    | @stopped before after ev f split clean failed hard last ends =>
      refine .inl ⟨before, ev, after, f, ?_⟩
      obtain ⟨activity, same⟩ := ends _ rfl
      cases verdict : f.verdict with
      | fatal said => exact ⟨said, split, failed, hard, not_bestEffort clean _, rfl⟩
      | missing | retry => simp [Failure.setback, Verdict.setback, verdict, Setback.during] at same

/-- No failure of a client is lost, and none is made more or less of than its verdict says, the kind of
which depends on neither message nor hint; a hint moves nothing but the delay of a refusal. -/
theorem failures_reported {e : Option (Except Setback Unit)}
    (run : Trace (ofPhase facilities timing phase job).run es e) :
    Reported facilities phase job es e ∧
    (∀ f g : Failure, f.shape = g.shape → f.verdict.kind = g.verdict.kind) ∧
    ∀ (f : Failure) (hint : Duration), (f.withRetryAfter (some hint)).verdict =
      match f with
      | .refused .. => f.verdict.after (min hint (.ofSeconds 300))
      | _ => f.verdict := by
  refine ⟨?_, fun _ _ => Failure.kind_of_shape, ?_⟩
  · cases phase with
    | run => exact (build_accounts es e run).reported fun reason unbuildable => ⟨rfl, unbuildable⟩
    | remove =>
      rw [ofPhase, teardown_eq_removeAll] at run
      have accounts : Accounts (fun _ _ => False) (removeAll timing job (removalOrder facilities job)) :=
        removeAll_accounts _
      exact (accounts es e run).reported fun _ => False.elim
  · intro f hint
    cases f with
    | refused operation status code message earlier =>
      exact Failure.verdict_hint operation status code message hint earlier
    | unreachable | unreadable | unsupported => rfl

end

section

open Rehearsal

/-- The copy may not be started, and access cannot be closed again either. -/
def denied : Cloud := { rehearsed 1 with
  staging := { (rehearsed 1).staging with
    startFailure := some (.refusal "starting copy" 403 (some "AuthorizationFailed") "denied")
    revokeFailure := some (.unreachable "revoking access" "connection reset" false) } }

/-- What a pass was set back by. -/
def setback? : Except Setback Unit → Option Setback
  | .ok () => none
  | .error s => some s

theorem failures_reported_denied :
    (rehearsal.log Cloud.answer denied).map (·.call) = [
      .observe .snapshot "asset-scan-snapshot-scan-0001",
      .observe .volume "asset-scan-volume-scan-0001",
      .copyStatus "scan-0001.vhd",
      .grantAccess "asset-scan-snapshot-scan-0001" (.ofSeconds 3600),
      .startCopy "scan-0001.vhd"
        ⟨"https://md-sim.blob.example/asset-scan-snapshot-scan-0001/abcd?se=3600&sig=secret"⟩,
      .revokeAccess "asset-scan-snapshot-scan-0001"] ∧
    setback? (Cloud.run rehearsal denied).1 = some (.fatal
      "starting copy into scan-0001.vhd: starting copy: HTTP 403 [AuthorizationFailed]: denied") ∧
    Reported (Cloud.facilities true) .run (sampleJob true) (rehearsal.log Cloud.answer denied)
      (some (Cloud.run rehearsal denied).1) := by
  have run : Trace (ofPhase (Cloud.facilities true) .cloud .run (sampleJob true)).run
      (rehearsal.log Cloud.answer denied) (some (Cloud.run rehearsal denied).1) :=
    trace_log (I := clients) Cloud.answer rehearsal denied
  exact ⟨by decide +kernel, by decide +kernel, (failures_reported run).1⟩

end

end Pass

end ScanProvisioning
