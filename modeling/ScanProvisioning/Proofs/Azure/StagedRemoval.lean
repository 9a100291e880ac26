import ScanProvisioning.Proofs.Azure.Readiness

namespace ScanProvisioning

namespace Pass

open Program

variable {α β : Type} {facilities : Facilities} {timing : Timing} {job : Job} {es : List (Event clients)}

/-- From a staged copy that is there, a removal goes on to close the access to the snapshot, and once that is
done to delete the copy. -/
def GoesOn (job : Job) (after : List (Event clients)) : Prop :=
  ∃ revoked rest, after = ⟨.revokeAccess job.names.snapshot, revoked⟩ :: rest ∧
    (revoked = .ok () → ∃ deleted last, rest = ⟨.deleteCopy job.names.stagedCopy, deleted⟩ :: last)

/-- No complete run asks a question. -/
def NeverAsks (c : ClientCall) (x : Pass α) : Prop :=
  ∀ es e, Trace x.run es (some e) → ∀ ev ∈ es, ev.call ≠ c

/-- A question that the first part never asks comes in the second part. -/
theorem trace_past {c : ClientCall} {x : Pass α} {f : α → Pass β} {before after : List (Event clients)}
    {r : c.Reply} {result : Except Setback β}
    (never : NeverAsks c x)
    (run : Trace (x >>= f).run (before ++ ⟨c, r⟩ :: after) (some result)) :
    ∃ a skipped early, before = skipped ++ early ∧
      Trace (f a).run (early ++ ⟨c, r⟩ :: after) (some result) := by
  obtain ⟨⟨⟩, -⟩ | ⟨e, -, first⟩ | ⟨a, part, rest, split, first, run⟩ := trace_bindExcept_iff.mp run
  · exact absurd rfl (never _ _ first ⟨c, r⟩ (by simp))
  · rcases List.append_eq_append_iff.mp split with ⟨late, rfl, here⟩ | ⟨early, rfl, rfl⟩
    · cases late with
      | nil =>
        rw [List.nil_append] at here
        subst here
        exact ⟨a, before, [], by simp, run⟩
      | cons ev late =>
        rw [List.cons_append, List.cons.injEq] at here
        exact absurd rfl (never _ _ first ⟨c, r⟩ (by simp [here.1]))
    · exact ⟨a, part, early, rfl, run⟩

theorem ensureAbsent_neverAsks {kind : ResourceKind} {name copy : String} {estimate : Duration} :
    NeverAsks (.copyStatus copy) (ensureAbsent kind name estimate) := by
  intro es e run ev mem
  have guarded : Guarded recording (fun _ c => c ≠ ClientCall.copyStatus copy)
      (fun _ (result : Except Setback Unit) => True ∧ (result = .ok () → True))
      (ensureAbsent kind name estimate).run [] :=
    ensureAbsent_guarded (by simp) (by simp) (by simp) (by simp) trivial
  obtain ⟨before, after, rfl⟩ := List.append_of_mem mem
  exact (run.lawful guarded).1 before ev after rfl

private theorem onlyIf_neverAsks {c : ClientCall} {needed : Bool} {x : Pass Unit} (never : NeverAsks c x) :
    NeverAsks c (onlyIf needed x) := by
  cases needed with
  | true => exact never
  | false =>
    intro es e run
    cases run
    simp

/-- What the first look at a staged copy means for its removal: a copy that is found is removed, and a look
that fails ends the pass, unless it finds the copy missing. -/
def Decides (job : Job) (reply : Except Failure CopyProgress) (after : List (Event clients))
    (result : Except Setback Unit) : Prop :=
  (∀ progress, reply = .ok progress → GoesOn job after) ∧
  ∀ f : Failure, reply = .error f → f.verdict ≠ .missing → after = [] ∧
    result = .error (f.setback.during ("looking up staged copy " ++ job.names.stagedCopy))

private theorem trace_removeStagedCopy {f : Unit → Pass Unit} {result : Except Setback Unit}
    (run : Trace (removeStagedCopy timing job >>= f).run es (some result)) :
    ∃ reply after, es = ⟨.copyStatus job.names.stagedCopy, reply⟩ :: after ∧
      Decides job reply after result := by
  rw [removeStagedCopy, LawfulMonad.bind_assoc] at run
  obtain ⟨reply, after, rfl, ⟨e, failed, rfl, rfl⟩ | ⟨found, looked, run⟩⟩ :=
    trace_step (copyProgress_run _) run
  · obtain ⟨f, rfl, other⟩ := unlessMissing_eq_error failed
    refine ⟨_, _, rfl, by simp, ?_⟩
    intro f' same _
    cases same
    rw [unlessMissing_failure other] at failed
    cases failed
    exact ⟨rfl, rfl⟩
  · refine ⟨_, _, rfl, ?_, ?_⟩
    · rintro progress rfl
      cases looked
      dsimp only at run
      rw [LawfulMonad.bind_assoc] at run
      obtain ⟨revoked, rest, rfl, settled⟩ := trace_step (revokeGrants_run _) run
      refine ⟨revoked, rest, rfl, ?_⟩
      rintro rfl
      obtain ⟨e, ⟨⟩, -⟩ | ⟨⟨⟩, -, run⟩ := settled
      rw [LawfulMonad.bind_assoc] at run
      obtain ⟨deleted, last, rfl, -⟩ := trace_step (deleteCopy_run _) run
      exact ⟨deleted, last, rfl⟩
    · rintro f rfl other
      rw [unlessMissing_failure other] at looked
      cases looked

/-- A removal pass decides by its first look at the staged copy. -/
theorem trace_teardown_look {before after : List (Event clients)} {reply : Except Failure CopyProgress}
    {result : Except Setback Unit}
    (run : Trace (teardown facilities timing job).run
      (before ++ ⟨.copyStatus job.names.stagedCopy, reply⟩ :: after) (some result))
    (first : ∀ ev ∈ before, ev.call ≠ .copyStatus job.names.stagedCopy) :
    Decides job reply after result := by
  rw [teardown_eq] at run
  obtain ⟨-, ofScanner, _, rfl, fromNetwork⟩ := trace_past ensureAbsent_neverAsks run
  obtain ⟨-, ofNetwork, _, rfl, fromVolume⟩ :=
    trace_past (onlyIf_neverAsks ensureAbsent_neverAsks) fromNetwork
  obtain ⟨-, ofVolume, before, rfl, fromCopy⟩ := trace_past ensureAbsent_neverAsks fromVolume
  cases needed : job.crossesRegions && facilities.store.isSome with
  | false =>
    rw [needed] at fromCopy
    have never : NeverAsks (.copyStatus job.names.stagedCopy)
        (ensureAbsent .snapshot job.names.snapshot timing.deletion) := ensureAbsent_neverAsks
    exact absurd rfl (never _ _ fromCopy ⟨.copyStatus job.names.stagedCopy, reply⟩ (by simp))
  | true =>
    rw [needed] at fromCopy
    obtain ⟨reply', after', split, decides⟩ := trace_removeStagedCopy fromCopy
    cases before with
    | nil =>
      cases split
      exact decides
    | cons ev early =>
      rw [List.cons_append, List.cons.injEq] at split
      exact absurd (congrArg Event.call split.1) (first ev (by simp))

private theorem trace_ensureAbsent_missing {kind : ResourceKind} {name : String} {estimate : Duration}
    {f : Failure}
    (missing : f.verdict = .missing) : Trace (ensureAbsent kind name estimate).run
      [⟨.observe kind name, .error f⟩] (some (.ok ())) := by
  have leads : Leads recording (ensureAbsent kind name estimate).run [] (.ok ())
      [⟨.observe kind name, .error f⟩] := leads_ensureAbsent_missing missing rfl
  obtain ⟨es, run, replies⟩ := leads
  rw [recording_unique replies]
  exact run

private theorem trace_removeStagedCopy_failed {f : Failure} (other : f.verdict ≠ .missing) :
    Trace (removeStagedCopy timing job).run [⟨.copyStatus job.names.stagedCopy, .error f⟩]
      (some (.error (f.setback.during ("looking up staged copy " ++ job.names.stagedCopy)))) := by
  rw [removeStagedCopy]
  refine trace_bindExcept_iff.mpr (.inr (.inl ⟨_, rfl, ?_⟩))
  rw [copyProgress_run]
  refine Trace.ask (I := clients) (c := .copyStatus job.names.stagedCopy) (.error f) ?_
  rw [unlessMissing_failure other]
  exact .done _

/-- The removal of a staged copy that stays for the time being. -/
theorem trace_removeStagedCopy_found (progress : CopyProgress) : Trace (removeStagedCopy timing job).run
      [⟨.copyStatus job.names.stagedCopy, .ok progress⟩, ⟨.revokeAccess job.names.snapshot, .ok ()⟩,
        ⟨.deleteCopy job.names.stagedCopy, .ok ()⟩, ⟨.copyStatus job.names.stagedCopy, .ok progress⟩]
      (some (.error (.retry timing.deletion
        ("staged copy " ++ job.names.stagedCopy ++ " deletion in progress")))) :=
  .ask (I := clients) (c := .copyStatus _) (.ok progress)
    (.ask (I := clients) (c := .revokeAccess _) (.ok ())
      (.ask (I := clients) (c := .deleteCopy _) (.ok ())
        (.ask (I := clients) (c := .copyStatus _) (.ok progress) (.done _))))

/-- Where nothing is left but the staged copy, a removal pass that fails does so on the copy. -/
theorem trace_teardown_copy {f : Failure} {e : Setback} (missing : f.verdict = .missing)
    (network : facilities.hasNetwork = true) (staged : (job.crossesRegions && facilities.store.isSome) = true)
    (run : Trace (removeStagedCopy timing job).run es (some (.error e))) :
    Trace (teardown facilities timing job).run ([⟨.observe .scanner job.names.scanner, .error f⟩,
      ⟨.observe .networkInterface job.names.networkInterface, .error f⟩,
      ⟨.observe .volume job.names.volume, .error f⟩] ++ es) (some (.error e)) := by
  rw [teardown_eq, network, staged]
  have absent {kind : ResourceKind} {name : String} {next : Unit → Pass Unit} {es : List (Event clients)}
      (rest : Trace (next ()).run es (some (.error e))) :
      Trace (ensureAbsent kind name timing.deletion >>= next).run
        (⟨.observe kind name, .error f⟩ :: es) (some (.error e)) :=
    trace_bindExcept_iff.mpr (.inr (.inr ⟨(), [_], es, rfl, trace_ensureAbsent_missing missing, rest⟩))
  refine absent (absent (absent ?_))
  exact trace_bindExcept_iff.mpr (.inr (.inl ⟨e, rfl, run⟩))

end Pass

namespace Azure

open Program

/-- A copy status that is there and known. -/
def Readable (r : Http.Response) : Prop :=
  ∃ status, (r.header? "x-ms-copy-status").bind CopyStatus.ofName? = some status

/-- What the first look at the staged copy in a removal pass comes to where the store answers it with a
success. -/
structure FirstLook (a : Account) (job : Job) (before : List (Event clients))
    (reply : Except Failure CopyProgress) (after : List (Event clients)) (result : Except Setback Unit)
    (r : Http.Response) : Prop where
  run : Trace (a.provider.pass .remove job).run
    (before ++ ⟨.copyStatus job.names.stagedCopy, reply⟩ :: after) (some result)
  first : ∀ ev ∈ before, ev.call ≠ .copyStatus job.names.stagedCopy
  answered : ∃ part request, Trace (a.answer (.copyStatus job.names.stagedCopy)) part (some reply) ∧
    (⟨.exchange request, .ok r⟩ : Event host) ∈ part ∧ request.method = .head ∧ r.isSuccess = true

section

variable {a : Account} {name : String} {part : List (Event host)} {r : Http.Response}

private theorem copyReport_of_readable (operation : String) (readable : Readable r) :
    ∃ progress, Account.copyReport operation r = .ok progress := by
  obtain ⟨status, known⟩ := readable
  obtain ⟨text, there, known⟩ := Option.bind_eq_some_iff.mp known
  unfold Account.copyReport
  rw [there]
  dsimp only
  rw [known]
  exact ⟨_, rfl⟩

private theorem copyReport_of_not_readable (operation : String) (unreadable : ¬ Readable r) :
    ∃ message, Account.copyReport operation r = .error (.unreadable operation message) := by
  unfold Account.copyReport
  cases there : r.header? "x-ms-copy-status" with
  | none => exact ⟨_, rfl⟩
  | some text =>
    dsimp only
    cases known : CopyStatus.ofName? text with
    | none => exact ⟨_, rfl⟩
    | some status => exact absurd ⟨status, by rw [there]; exact known⟩ unreadable

/-- A look at a copy comes to what the store reports in its answer. -/
theorem copyStatus_reports {reply : Except Failure CopyProgress} {request : Http.Request}
    (run : Trace (a.copyStatus name).run part (some reply))
    (mem : (⟨.exchange request, .ok r⟩ : Event host) ∈ part) (look : request.method = .head)
    (success : r.isSuccess = true) : reply = Account.copyReport "getting staged copy" r := by
  obtain ⟨first, send, rfl⟩ := trace_bindPure_iff.mp run
  have notForToken : ¬ ForToken a.credential (.exchange request) := by
    intro tokens
    obtain ⟨tenant, form, -, asks⟩ := tokens request rfl
    rw [tokenDraft_method asks] at look
    cases look
  obtain ⟨tokens, -⟩ | ⟨early, request', reply', rfl, tokens, -, rfl⟩ := trace_send send
  · exact absurd (tokens _ mem) notForToken
  · rcases List.mem_append.mp mem with mem | mem
    · exact absurd (tokens _ mem) notForToken
    · rw [List.mem_singleton] at mem
      cases mem
      simp only [answered, success, if_true]
      rfl

end

section

variable {a : Account} {job : Job} {before after : List (Event clients)}
  {reply : Except Failure CopyProgress} {result : Except Setback Unit} {r : Http.Response}

/-- A removal pass goes on from a staged copy that the store has shown exactly where its copy status can be
read; elsewhere it ends there, for somebody to step in. -/
theorem removal_goesOn_iff (look : FirstLook a job before reply after result r) :
    (Pass.GoesOn job after ↔ Readable r) ∧
    (¬ Readable r → after = [] ∧ ∃ reason, result = .error (.fatal reason)) := by
  obtain ⟨part, request, answer, mem, head, success⟩ := look.answered
  obtain ⟨goes, stops⟩ := Pass.trace_teardown_look look.run look.first
  have reports : reply = Account.copyReport "getting staged copy" r :=
    copyStatus_reports answer mem head success
  have ends (unreadable : ¬ Readable r) : after = [] ∧ ∃ reason, result = .error (.fatal reason) := by
    obtain ⟨message, unread⟩ := copyReport_of_not_readable "getting staged copy" unreadable
    obtain ⟨last, failed⟩ := stops _ (reports.trans unread) (by rintro ⟨⟩)
    exact ⟨last, _, failed⟩
  refine ⟨⟨?_, ?_⟩, ends⟩
  · intro goesOn
    apply Classical.byContradiction
    intro unreadable
    obtain ⟨revoked, rest, follows, -⟩ := goesOn
    rw [(ends unreadable).1] at follows
    cases follows
  · intro readable
    obtain ⟨progress, read⟩ := copyReport_of_readable "getting staged copy" readable
    exact goes progress (reports.trans read)

end

section

open Rehearsal

/-- With everything else gone, a removal pass looks at the copy, and the store answers the look. -/
theorem firstLook_of_report (a : Account) (job : Job) {token : String} {r : Http.Response}
    {reply : Except Failure CopyProgress} {after : List (Event clients)} {e : Setback}
    (issued : a.credential = .issued token)
    (crosses : job.crossesRegions = true)
    (buildable : (Http.Draft.header "x-ms-client-request-id" "id" (Http.Draft.header "authorization"
      ("Bearer " ++ token) (a.objectRequest .head job.names.stagedCopy))).isOk = true)
    (success : r.isSuccess = true) (report : Account.copyReport "getting staged copy" r = reply)
    (run : Trace (Pass.removeStagedCopy a.provider.timing job).run
      (⟨.copyStatus job.names.stagedCopy, reply⟩ :: after) (some (.error e))) :
    ∃ before, FirstLook a job before reply after (.error e) r := by
  have missing : (Failure.missing "getting").verdict = .missing := by decide +kernel
  have staged : (job.crossesRegions && a.provider.facilities.store.isSome) = true := by
    rw [crosses]
    rfl
  obtain ⟨request, built⟩ := exists_ok_of_isOk buildable
  refine ⟨_, Pass.trace_teardown_copy missing rfl staged run, by simp, ?_⟩
  have sent : Trace (a.copyStatus job.names.stagedCopy).run
      [⟨.requestId, "id"⟩, ⟨.exchange request, .ok r⟩]
      (some reply) := by
    unfold Account.copyStatus
    rw [issued, ← report]
    refine trace_bindPure_iff.mpr ⟨_, trace_send_issued built (.ok r), ?_⟩
    simp only [answered, success, if_true]
    rfl
  obtain ⟨target, same, method, -⟩ :=
    sameTarget_header (sameTarget_header (sameTarget_header (sameTarget_refl _) _ _) _ _) _ _ request built
  have head : request.method = .head := method.trans (Http.draft_method same)
  exact ⟨_, request, sent, by simp, head, success⟩

private theorem issuedAccount_buildable : (Http.Draft.header "x-ms-client-request-id" "id"
    (Http.Draft.header "authorization" "Bearer token"
      (issuedAccount.objectRequest .head (sampleJob true).names.stagedCopy))).isOk = true := by
  decide +kernel

/-- A complete copy. -/
def complete : Http.Response := { status := 200, headers := [("x-ms-copy-status", "success")], body := .ok "" }

theorem removal_goesOn_complete : ∃ before reply after result,
    FirstLook issuedAccount (sampleJob true) before reply after result complete ∧ Readable complete ∧
      Pass.GoesOn (sampleJob true) after := by
  have readable : Readable complete := ⟨.success, by decide +kernel⟩
  obtain ⟨progress, report⟩ := copyReport_of_readable "getting staged copy" readable
  obtain ⟨before, look⟩ := firstLook_of_report issuedAccount (sampleJob true) rfl
    (by decide +kernel) issuedAccount_buildable (by decide) report (Pass.trace_removeStagedCopy_found progress)
  exact ⟨_, _, _, _, look, readable, (removal_goesOn_iff look).1.mpr readable⟩

/-- A copy without a copy status stays, and so does the access to its snapshot. -/
theorem removal_not_goesOn : ¬ ∀ before reply after result r,
    FirstLook issuedAccount (sampleJob true) before reply after result r →
      Pass.GoesOn (sampleJob true) after := by
  intro decides
  have unreadable : ¬ Readable { status := 200, headers := [], body := .ok "" } := by
    rintro ⟨status, ⟨⟩⟩
  obtain ⟨message, report⟩ := copyReport_of_not_readable "getting staged copy" unreadable
  obtain ⟨before, look⟩ := firstLook_of_report issuedAccount (sampleJob true) rfl
    (by decide +kernel) issuedAccount_buildable (by decide) report
    (Pass.trace_removeStagedCopy_failed (by rintro ⟨⟩))
  obtain ⟨revoked, rest, none, -⟩ := decides _ _ _ _ _ look
  cases none

end

end Azure

end ScanProvisioning
