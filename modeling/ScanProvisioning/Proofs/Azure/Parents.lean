import ScanProvisioning.Proofs.Azure.Readiness
import ScanProvisioning.Proofs.Azure.Refusals

namespace ScanProvisioning

namespace Pass

open Program

variable {facilities : Facilities} {timing : Timing} {phase : Phase} {job : Job} {es : List (Event clients)}

/-- The program starts no copy. -/
def Startless {α : Type} (x : Pass α) : Prop :=
  ∀ before, Guarded recording (fun _ (c : ClientCall) => c.startsCopy = false) (fun _ _ => True) x.run before

theorem Startless.step {α β : Type} {c : ClientCall} {x : Pass α} {g : c.Reply → Except Setback α}
    {f : α → Pass β}
    (step : x.run = Program.ask (I := clients) c fun r => .done (g r)) (startless : c.startsCopy = false)
    (rest : ∀ a, Startless (f a)) : Startless (x >>= f) := fun _ =>
  guarded_step step startless (fun _ _ _ _ _ => trivial) fun _ after a _ _ => rest a after

theorem removeStagedCopy_startless : Startless (removeStagedCopy timing job) := by
  refine Startless.step (copyProgress_run _) rfl fun found => ?_
  cases found with
  | none => exact fun _ => trivial
  | some progress =>
    refine Startless.step (revokeGrants_run _) rfl fun _ => ?_
    refine Startless.step (deleteCopy_run _) rfl fun _ => ?_
    refine Startless.step (copyProgress_run _) rfl fun found => ?_
    cases found <;> exact fun _ => trivial

theorem removeAll_startless (order : List ResourceKind) : Startless (removeAll timing job order) := by
  have absent {kind : ResourceKind} {name : String} {estimate : Duration} :
      Startless (ensureAbsent kind name estimate) := by
    intro before
    have guarded : Guarded recording (fun _ (c : ClientCall) => c.startsCopy = false)
        (fun _ (result : Except Setback Unit) => True ∧ (result = .ok () → True))
        (ensureAbsent kind name estimate).run before :=
      ensureAbsent_guarded (fun _ _ => rfl) (fun _ _ => rfl) (by simp) (by simp) trivial
    exact guarded_mono (fun _ _ _ => trivial) guarded
  induction order with
  | nil => exact fun _ => trivial
  | cons kind kinds ih =>
    have first : Startless (removeKind timing job kind) := by
      cases kind with
      | stagedCopy => exact removeStagedCopy_startless
      | snapshot | volume | networkInterface | scanner => exact absent
    intro before
    refine guarded_bindExcept (guarded_mono ?_ (first before))
    rintro after (e | a) -
    · trivial
    · exact ih after

/-- A pass that failed to start a copy ends in that failure. -/
def Unstarted (es : List (Event clients)) (result : Except Setback Unit) : Prop :=
  ∃ name access f activity, (⟨.startCopy name access, .error f⟩ : Event clients) ∈ es ∧
    result = .error (f.setback.during activity)

/-- A fatal failure of a client is fatal for the pass, unless it only failed to clean up after a copy that could
not be started. -/
theorem ofPhase_fatal {result : Except Setback Unit} {ev : Event clients} {f : Failure} {reason : String}
    (run : Trace (ofPhase facilities timing phase job).run es (some result)) (mem : ev ∈ es)
    (failed : ev.failure? = some f) (fatal : f.verdict = .fatal reason) :
    (∃ reason, result = .error (.fatal reason)) ∨ phase = .run ∧ Unstarted es result := by
  obtain ⟨cause, account, starts⟩ : ∃ cause, Account cause es (some result) ∧
      ((∃ ev ∈ es, ev.call.startsCopy = true) → phase = .run) := by
    cases phase with
    | run => exact ⟨_, build_accounts es _ run, fun _ => rfl⟩
    | remove =>
      rw [ofPhase, teardown_eq_removeAll] at run
      refine ⟨fun _ _ => False, removeAll_accounts _ es _ run, ?_⟩
      rintro ⟨ev, known, starts⟩
      obtain ⟨before, after, rfl⟩ := List.append_of_mem known
      have never := (run.lawful (removeAll_startless _ [])).1 before ev after rfl
      rw [starts] at never
      cases never
  obtain ⟨before, after, rfl⟩ := List.append_of_mem mem
  by_cases effort : BestEffort before ev.call
  · obtain ⟨-, earlier, name, access, g, rfl⟩ := effort
    have started : (⟨.startCopy name access, .error g⟩ : Event clients) ∈
        earlier ++ [(⟨.startCopy name access, .error g⟩ : Event clients)] ++ ev :: after := by simp
    have split : earlier ++ [(⟨.startCopy name access, .error g⟩ : Event clients)] ++ ev :: after =
        earlier ++ ⟨.startCopy name access, .error g⟩ :: ev :: after := by simp
    have first : ¬ BestEffort earlier (.startCopy name access) := by
      rintro ⟨⟨⟩, -⟩
    obtain ⟨-, ends⟩ := account.stops split rfl (not_tolerated rfl rfl rfl) first
    obtain ⟨activity, same⟩ := ends _ rfl
    exact .inr ⟨starts ⟨_, started, rfl⟩, name, access, g, activity, started, same⟩
  · have hard : ¬ Tolerated ev.call f := by
      rintro ⟨missing, -⟩
      cases fatal.symm.trans missing
    obtain ⟨-, ends⟩ := account.stops rfl failed hard effort
    obtain ⟨activity, same⟩ := ends _ rfl
    refine .inl ⟨activity ++ ": " ++ reason, ?_⟩
    rw [same, Failure.setback, fatal]
    rfl

end Pass

namespace Azure

open Program

/-- What a resource may be missing for want of. -/
def parents : List String := ["ResourceGroupNotFound", "SubscriptionNotFound", "ParentResourceNotFound"]

/-- A response that something is missing, and that names a missing parent as the reason. -/
def MissesParent (r : Http.Response) : Prop :=
  r.status = 404 ∧ ∃ body code, r.text = .ok body ∧ codeNamed? body = some code ∧ code ∈ parents

def PlainlySaid (r : Http.Response) : Prop := ∃ body, r.text = .ok body ∧ Plain body

/-- A request to the resource manager: it asks for no token and is not about a staged copy. -/
def ForManager (a : Account) (request : Http.Request) : Prop :=
  ¬ AsksForToken a.credential request ∧
    ∀ method, method = .head ∨ method = .put ∨ method = .delete →
      ∀ name, ¬ Aims (a.objectRequest method name) request

/-- A copy could not be started, and that is what the pass ends in. -/
def Unstarted (a : Account) (js : List (Event host)) (result : Except Setback Unit) : Prop :=
  ∃ name access f activity part, part ⊆ js ∧ Trace (a.startCopy name access).run part (some (.error f)) ∧
    result = .error (f.setback.during activity)

section

variable {a : Account} {r : Http.Response} {operation : String}

theorem MissesParent.refused (misses : MissesParent r) : r.isSuccess = false := by
  rw [Http.Response.isSuccess, misses.1]
  rfl

/-- A missing parent is fatal if it is said plainly, and otherwise reads as a missing resource. -/
theorem MissesParent.verdict (misses : MissesParent r) (operation : String) :
    (PlainlySaid r ∧ ∃ reason, (refusalOf operation .management r).verdict = .fatal reason) ∨
    ¬ PlainlySaid r ∧ (refusalOf operation .management r).verdict = .missing := by
  obtain ⟨status, body, code, text, named, known⟩ := misses
  have read : r.text.toOption.getD "" = body := by
    rw [text]
    rfl
  rw [refusalOf, read, status]
  obtain ⟨plain, message, refused⟩ | ⟨blurred, refused⟩ := managementRefusal_of_named named operation 404
  · refine .inl ⟨⟨body, text, plain⟩, ?_⟩
    have fatal : fatalCodes.contains code = true := by
      simp only [parents, List.mem_cons, List.not_mem_nil, or_false] at known
      rcases known with rfl | rfl | rfl <;> decide
    rw [refused]
    simp only [Failure.refusal, Failure.withRetryAfter, Failure.verdict, Option.getD_some, fatal]
    exact ⟨_, rfl⟩
  · refine .inr ⟨?_, ?_⟩
    · rintro ⟨body', text', plain⟩
      rw [text] at text'
      cases text'
      exact blurred plain
    · rw [refused]
      exact Failure.verdict_refused_eq_missing_iff.mpr ⟨by decide, .inl rfl⟩

theorem MissesParent.missing (misses : MissesParent r) (vague : ¬ PlainlySaid r) (operation : String) :
    (refusalOf operation .management r).verdict = .missing := by
  obtain ⟨plain, -⟩ | ⟨-, missing⟩ := misses.verdict operation
  · exact absurd plain vague
  · exact missing

/-- All that a client call to the store exchanges is a token or about the copy. -/
theorem not_forManager_of_storage {call : ClientCall} {reply : call.Reply} {es : List (Event host)}
    {request : Http.Request} {answer : Except Http.Failure Http.Response} (storage : serviceOf call = .storage)
    (run : Trace (a.answer call) es (some reply)) (mem : (⟨.exchange request, answer⟩ : Event host) ∈ es) :
    ¬ ForManager a request := by
  rintro ⟨own, elsewhere⟩
  have sent {operation name : String} {method : Http.Method} {d : Http.Draft}
      {result : Except Failure Http.Response} (about : method = .head ∨ method = .put ∨ method = .delete)
      (same : SameTarget (a.objectRequest method name) d)
      (run : Trace (a.credential.send operation .storage d).run es (some result)) : False := by
    obtain ⟨quiet, -⟩ | ⟨early, request', reply', rfl, quiet, ⟨target, built, method', url⟩, -⟩ :=
      trace_send run
    · exact own (quiet _ mem request rfl)
    · rcases List.mem_append.mp mem with mem | mem
      · exact own (quiet _ mem request rfl)
      · cases List.mem_singleton.mp mem
        obtain ⟨first, firstBuilt, firstMethod, firstUrl⟩ := same target built
        exact elsewhere method about name ⟨first, firstBuilt, method'.trans firstMethod, url.trans firstUrl⟩
  cases call with
  | copyStatus name =>
    obtain ⟨first, run, -⟩ := trace_bindPure_iff.mp run
    exact sent (.inl rfl) (sameTarget_refl _) run
  | startCopy name source =>
    obtain ⟨first, run, -⟩ := trace_bindPure_iff (f := fun _ => .ok ()) |>.mp run
    exact sent (.inr (.inl rfl)) (sameTarget_header (sameTarget_header (sameTarget_refl _) _ _) _ _) run
  | deleteCopy name =>
    obtain ⟨first, run, -⟩ := trace_bindPure_iff (f := fun _ => .ok ()) |>.mp run
    exact sent (.inr (.inr rfl)) (sameTarget_header (sameTarget_refl _) _ _) run
  | observe | create | delete | grantAccess | revokeAccess | listAssets => cases storage

/-- A missing parent that is said plainly stops the pass that meets it. -/
theorem pass_fatal {phase : Phase} {job : Job} {js : List (Event host)} {result : Except Setback Unit}
    {request : Http.Request}
    (run : Trace ((a.provider.pass phase job).run.interpret a.answer) js (some result))
    (mem : (⟨.exchange request, .ok r⟩ : Event host) ∈ js) (own : ForManager a request)
    (misses : MissesParent r)
    (plain : PlainlySaid r) :
    (∃ reason, result = .error (.fatal reason)) ∨ phase = .run ∧ Unstarted a js result := by
  obtain ⟨es, settled, answered, ⟨rfl, pass⟩ | ⟨c, pending, -, cut, -⟩⟩ := trace_interpret run
  · obtain ⟨⟨call, reply⟩, known, part, inside, answer⟩ := answered.part mem
    have service : serviceOf call = .management := by
      cases service : serviceOf call with
      | management => rfl
      | storage => exact absurd own (not_forManager_of_storage service answer inside)
    obtain ⟨operation, failed⟩ := answer_passesOn answer inside own.1 misses.refused
    rw [service] at failed
    obtain ⟨-, reason, fatal⟩ | ⟨blurred, -⟩ := misses.verdict operation
    · have stopped : (∃ reason, result = .error (.fatal reason)) ∨ phase = .run ∧ Pass.Unstarted es result := by
        rw [Provider.pass] at pass
        cases accepted : a.provider.kind.accept phase job with
        | error e =>
          rw [accepted] at pass
          cases pass
          cases known
        | ok =>
          rw [accepted] at pass
          exact Pass.ofPhase_fatal pass known failed fatal
      refine stopped.imp_right fun ⟨build, name, access, f, activity, started, same⟩ => ⟨build, ?_⟩
      obtain ⟨part, sub, answer⟩ := answered.mem started
      exact ⟨name, access, f, activity, part, sub, answer, same⟩
    · exact absurd plain blurred
  · cases cut

end

section

open Rehearsal

variable {r : Http.Response}

/-- All that is exchanged are looks at the resource manager, each with the same answer. -/
def OnlyLooks (response : Http.Response) (ev : Event host) : Prop :=
  ∀ request answer, ev = ⟨.exchange request, .ok answer⟩ → request.method = .get ∧ answer = response

private theorem look_canEnd {operation path version : String} {query : List (String × String)}
    (buildable : (Http.Draft.header "x-ms-client-request-id" "id" (Http.Draft.header "authorization"
      ("Bearer " ++ "token") (Http.Draft.query query (Management.draft .get
        (Management.address path version))))).isOk = true)
    (refused : r.isSuccess = false) :
    CanEnd (OnlyLooks r) (Management.getJson (.issued "token") operation path version query).run
      (.error (refusalOf operation .management r)) := by
  obtain ⟨request, built⟩ := exists_ok_of_isOk buildable
  have sent : Trace ((Credential.issued "token").send operation .management _).run _ _ :=
    trace_send_issued built (.ok r)
  rw [answered, refused] at sent
  refine canEnd_bindExcept_error ⟨_, sent, ?_⟩
  obtain ⟨target, same, method, -⟩ := sameTarget_header (sameTarget_header
    (sameTarget_query (sameTarget_refl _) query) _ _) _ _ request built
  have get : request.method = .get := method.trans (Http.draft_method same)
  intro ev mem request' answer same
  rcases List.mem_cons.mp mem with rfl | mem
  · cases same
  · obtain rfl := List.mem_singleton.mp mem
    cases same
    exact ⟨get, rfl⟩

/-- Where every look is refused as one for something missing, the removal of a job succeeds on looks alone. -/
theorem canEnd_unfound (refused : r.isSuccess = false)
    (missing : ∀ operation, (refusalOf operation .management r).verdict = .missing) :
    CanEnd (OnlyLooks r) ((issuedAccount.provider.pass .remove (sampleJob false)).run.interpret
      issuedAccount.answer) (.ok ()) := by
  refine canEnd_interpret (Pass.canEnd_teardown_own _ _ _ (fun kind real => ?_) fun crosses => ?_)
  · cases kind with
    | stagedCopy => exact absurd rfl real
    | snapshot | volume | networkInterface | scanner =>
      exact ⟨_, missing _, canEnd_bindExcept_error (look_canEnd (by decide +kernel) refused)⟩
  · have stays : (sampleJob false).crossesRegions = false := by decide +kernel
    rw [stays] at crosses
    cases crosses

/-- It asks the resource manager for the scanner, at least. -/
theorem exists_unfound (refused : r.isSuccess = false)
    (missing : ∀ operation, (refusalOf operation .management r).verdict = .missing) :
    ∃ js request, Trace ((issuedAccount.provider.pass .remove (sampleJob false)).run.interpret
        issuedAccount.answer) js (some (.ok ())) ∧
      (⟨.exchange request, .ok r⟩ : Event host) ∈ js ∧ ForManager issuedAccount request := by
  obtain ⟨js, run, only⟩ := canEnd_unfound refused missing
  have tokenless (request : Http.Request) : ¬ AsksForToken issuedAccount.credential request := by
    rintro ⟨tenant, form, ⟨⟩, -⟩
  have truthful := truthful_of_not_misread run fun ⟨request, response, _, asks, _⟩ => tokenless request asks
  obtain ⟨-, -, target, request, answer, -, mem, -⟩ := truthful.scanner
  obtain ⟨get, rfl⟩ := only _ mem request answer rfl
  refine ⟨js, request, run, mem, tokenless request, ?_⟩
  rintro method about name ⟨target, built, same, -⟩
  obtain ⟨first, firstBuilt, firstMethod, -⟩ := sameTarget_header (sameTarget_refl _) _ _ target built
  have draft : method = .get :=
    (Http.draft_method firstBuilt).symm.trans (firstMethod.symm.trans (same.symm.trans get))
  rcases about with rfl | rfl | rfl <;> cases draft

/-- The code that a body names is passed on exactly if the body is plain. Where the resource manager may
give some responses, one of them that names a missing parent stops every pass that meets it, unless the pass
stopped at a copy that could not be started, exactly if each of them that names a missing parent is plain.
-/
theorem code_kept_iff (body code : String) (admits : Http.Response → Prop) :
    (codeNamed? body = some code → ∀ operation status,
      (∃ message, managementRefusal operation status body = .refusal operation status (some code) message) ↔
        Plain body) ∧
    ((∀ (a : Account) (phase : Phase) (job : Job) (js : List (Event host)) (result : Except Setback Unit),
        Trace ((a.provider.pass phase job).run.interpret a.answer) js (some result) →
        ∀ request r, (⟨.exchange request, .ok r⟩ : Event host) ∈ js → ForManager a request → admits r →
          MissesParent r →
        (∃ reason, result = .error (.fatal reason)) ∨ phase = .run ∧ Unstarted a js result) ↔
      ∀ r, admits r → MissesParent r → PlainlySaid r) := by
  constructor
  · intro named operation status
    obtain ⟨plain, kept⟩ | ⟨blurred, lost⟩ := managementRefusal_of_named named operation status
    · exact ⟨fun _ => plain, fun _ => kept⟩
    · refine ⟨fun ⟨message, kept⟩ => ?_, fun plain => absurd plain blurred⟩
      cases lost.symm.trans kept
  · constructor
    · intro stops r admitted misses
      obtain ⟨plain, -⟩ | ⟨blurred, -⟩ := misses.verdict "looking"
      · exact plain
      · obtain ⟨js, request, run, mem, own⟩ := exists_unfound misses.refused (misses.missing blurred)
        obtain ⟨reason, ⟨⟩⟩ | ⟨⟨⟩, -⟩ := stops _ _ _ _ _ run request r mem own admitted misses
    · intro plain a phase job js result run request r mem own admitted misses
      exact pass_fatal run mem own misses (plain r admitted misses)

/-- A resource group that does not exist, with a message that is null. -/
def blurred : String := "\x7b\"error\":\x7b\"code\":\"ResourceGroupNotFound\",\"message\":null\x7d\x7d"

/-- The code in that body is lost, and the removal of a job succeeds on it. -/
theorem code_not_kept :
    (¬ ∀ body code, codeNamed? body = some code → ∀ operation status,
      ∃ message, managementRefusal operation status body = .refusal operation status (some code) message) ∧
    ¬ ∀ js result, Trace ((issuedAccount.provider.pass .remove (sampleJob false)).run.interpret
        issuedAccount.answer) js (some result) →
      ∀ request r, (⟨.exchange request, .ok r⟩ : Event host) ∈ js → ForManager issuedAccount request →
        MissesParent r → ∃ reason, result = .error (.fatal reason) := by
  have named : codeNamed? blurred = some "ResourceGroupNotFound" := by decide +kernel
  have lost : managementRefusal "looking" 404 blurred = .refusal "looking" 404 none blurred := by decide +kernel
  have unclear : ¬ Plain blurred := by
    intro plain
    obtain ⟨-, message, kept⟩ | ⟨unclear, -⟩ := managementRefusal_of_named named "looking" 404
    · cases lost.symm.trans kept
    · exact unclear plain
  constructor
  · intro kept
    obtain ⟨message, kept⟩ := kept blurred _ named "looking" 404
    cases lost.symm.trans kept
  · intro stops
    let r : Http.Response := { status := 404, headers := [], body := .ok blurred }
    have text : r.text = .ok blurred := rfl
    have misses : MissesParent r := ⟨rfl, blurred, _, text, named, by decide⟩
    have vague : ¬ PlainlySaid r := by
      rintro ⟨body, said, plain⟩
      rw [text] at said
      cases said
      exact unclear plain
    obtain ⟨js, request, run, mem, own⟩ := exists_unfound misses.refused (misses.missing vague)
    obtain ⟨reason, ⟨⟩⟩ := stops js _ run request r mem own misses

end

end Azure

end ScanProvisioning
