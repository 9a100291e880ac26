import ScanProvisioning.Proofs.Azure.Removal
import ScanProvisioning.Proofs.Azure.Requests
import ScanProvisioning.Proofs.Pass.Dependency

namespace ScanProvisioning.Azure

open Program

/-- A look at a resource was answered by its own address with a description of it. -/
def Described (a : Account) (js : List (Event host)) (kind : ResourceKind) (name : String) (v : Json) :
    Prop :=
  ∃ request response, Aims (Http.Request.draft .get (a.address kind name) (some requestTimeout)) request ∧
    (⟨.exchange request, .ok response⟩ : Event host) ∈ js ∧ response.isSuccess = true ∧ response.json = .ok v

/-- A description with an id, of something that is provisioned. -/
def Provisioned (v : Json) : Prop :=
  (∃ id, v.string? "id" = some id) ∧ v.stringAt? ["properties", "provisioningState"] = some "Succeeded"

/-- Of all statuses in a description of a machine, the first that is about its power says that it runs. -/
def Runs (v : Json) : Prop :=
  ∃ statuses before after,
    (v.at? ["properties", "instanceView", "statuses"]).bind Json.asArray? = some statuses ∧
    statuses.filterMap (·.string? "code") = before ++ "PowerState/running" :: after ∧
    ∀ code ∈ before, Text.beginsWith "PowerState/" code = false

/-- What a call has exchanged by which the scanner of a job runs. -/
structure FoundRunning (a : Account) (job : Job) (js : List (Event host)) : Prop where
  snapshot : ∃ v, Described a js .snapshot job.names.snapshot v ∧ Provisioned v
  volume : ∃ v, Described a js .volume job.names.volume v ∧ Provisioned v
  networkInterface : ∃ v, Described a js .networkInterface job.names.networkInterface v ∧ Provisioned v
  scanner : ∃ v, Described a js .scanner job.names.scanner v ∧ Provisioned v ∧ Runs v
  unchanged : ∀ request reply, (⟨.exchange request, reply⟩ : Event host) ∈ js →
    AsksForToken a.credential request ∨ request.method = .get

private theorem provisioningState_ready {v : Json} (ready : (Management.provisioningState v).1 = .ready) :
    v.stringAt? ["properties", "provisioningState"] = some "Succeeded" := by
  unfold Management.provisioningState at ready
  cases state : v.stringAt? ["properties", "provisioningState"] with
  | none =>
    rw [state] at ready
    cases ready
  | some status =>
    rw [state] at ready
    dsimp only [Option.getD] at ready
    split at ready
    · rfl
    all_goals cases ready

theorem provisioned_of_observation {operation name : String} {v : Json} {seen : Observation}
    (observed : Management.observation operation name v = .ok seen) (ready : seen.state = .ready) :
    Provisioned v := by
  unfold Management.observation at observed
  cases id : v.string? "id" with
  | none =>
    rw [id] at observed
    cases observed
  | some found =>
    rw [id] at observed
    cases observed
    exact ⟨⟨found, id⟩, provisioningState_ready ready⟩

private theorem runs_of_power {v : Json} (power :
    (((((v.at? ["properties", "instanceView", "statuses"]).bind Json.asArray?).getD []).filterMap
      (·.string? "code")).find? (Text.beginsWith "PowerState/")).getD "PowerState/unknown" =
      "PowerState/running") : Runs v := by
  cases listed : (v.at? ["properties", "instanceView", "statuses"]).bind Json.asArray? with
  | none =>
    rw [listed] at power
    simp at power
  | some statuses =>
    rw [listed, Option.getD_some] at power
    cases found : (statuses.filterMap (·.string? "code")).find? (Text.beginsWith "PowerState/") with
    | none =>
      rw [found] at power
      simp at power
    | some code =>
      rw [found, Option.getD_some] at power
      subst power
      obtain ⟨-, before, after, split, others⟩ := List.find?_eq_some_iff_append.mp found
      refine ⟨statuses, before, after, listed, split, ?_⟩
      intro code mem
      simpa using others code mem

private theorem runs_of_machineObservation {name : String} {v : Json} {seen : Observation}
    (observed : machineObservation name v = .ok seen) (ready : seen.state = .ready) :
    Provisioned v ∧ Runs v := by
  unfold machineObservation at observed
  cases first : Management.observation "getting scanner vm" name v with
  | error f =>
    rw [first] at observed
    cases observed
  | ok early =>
    rw [first] at observed
    simp only [Bind.bind, Except.bind] at observed
    split at observed
    case isTrue unready =>
      cases observed
      exact absurd ready unready
    case isFalse settled =>
      split at observed
      case isTrue power =>
        cases observed
        exact ⟨provisioned_of_observation first ready, runs_of_power power⟩
      case isFalse =>
        cases observed
        cases ready

section

variable {a : Account} {kind : ResourceKind} {name : String} {es : List (Event host)}

/-- A look is a request, and its answer read as JSON. -/
theorem trace_look {t : ResourceType} {query : List (String × String)} {result : Except Failure Json}
    (run : Trace (a.look t name query).run es (some result)) :
    ∃ first, result = (first >>= readJson ("getting " ++ t.label)) ∧
      Trace (a.credential.send ("getting " ++ t.label) .management
        (Http.Draft.query query (Management.draft .get (Management.address (a.id t name) t.version)))).run es
        (some first) := by
  unfold Account.look Management.getJson at run
  simp only [json_eq_settle] at run
  obtain ⟨first, send, same⟩ := trace_bindPure_iff.mp run
  exact ⟨first, same, send⟩

theorem look_described {t : ResourceType} {query : List (String × String)} {v : Json}
    (here : a.address kind name = Management.address (a.id t name) t.version)
    (run : Trace (a.look t name query).run es (some (.ok v))) : Described a es kind name v := by
  obtain ⟨f | response, read, send⟩ := trace_look run
  · cases read
  obtain ⟨request, aims, mem, success⟩ := trace_send_ok send
  obtain ⟨target, built, sameMethod, sameUrl⟩ := aims
  obtain ⟨own, ownBuilt, method, url⟩ := sameTarget_query (sameTarget_refl _) query target built
  refine ⟨request, response, ?_, mem, success, ?_⟩
  · rw [here]
    exact ⟨own, ownBuilt, sameMethod.trans method, sameUrl.trans url⟩
  · have read : readJson ("getting " ++ t.label) response = .ok v := read.symm
    unfold readJson at read
    cases json : response.json with
    | error f =>
      rw [json] at read
      cases read
    | ok w =>
      rw [json] at read
      cases read
      rfl

/-- A resource that is seen ready has described itself as provisioned, and a machine as running. -/
theorem observe_ready {handle : Handle} {status : String}
    (run : Trace (a.observe kind name).run es (some (.ok ⟨handle, .ready, status⟩))) :
    ∃ v, Described a es kind name v ∧ Provisioned v ∧ (kind = .scanner → Runs v) := by
  have observed {t : ResourceType} {query : List (String × String)} {f : Json → Except Failure Observation}
      (here : a.address kind name = Management.address (a.id t name) t.version)
      (run : Trace (a.look t name query >>= fun v => Action.settle (f v)).run es
        (some (.ok ⟨handle, .ready, status⟩))) :
      ∃ v, Described a es kind name v ∧ f v = .ok ⟨handle, .ready, status⟩ := by
    obtain ⟨_ | v, look, read⟩ := trace_bindPure_iff.mp run
    · cases read
    · exact ⟨v, look_described here look, read.symm⟩
  cases kind with
  | stagedCopy => cases run
  | snapshot =>
    obtain ⟨v, described, read⟩ := observed (a.managed_eq .snapshot name) run
    exact ⟨v, described, provisioned_of_observation read rfl, by simp⟩
  | volume =>
    obtain ⟨v, described, read⟩ := observed (a.managed_eq .disk name) run
    exact ⟨v, described, provisioned_of_observation read rfl, by simp⟩
  | networkInterface =>
    obtain ⟨v, described, read⟩ := observed (a.managed_eq .networkInterface name) run
    exact ⟨v, described, provisioned_of_observation read rfl, by simp⟩
  | scanner =>
    obtain ⟨v, described, read⟩ := observed (a.managed_eq .machine name) run
    obtain ⟨provisioned, runs⟩ := runs_of_machineObservation read rfl
    exact ⟨v, described, provisioned, fun _ => runs⟩

/-- Where something is exchanged, it is a request for a token or one that only reads. -/
def Harmless (c : Credential) (call : Call) : Prop :=
  ∀ request, call = .exchange request → AsksForToken c request ∨ request.method = .get

theorem look_harmless {t : ResourceType} {query : List (String × String)} {result : Except Failure Json}
    (run : Trace (a.look t name query).run es (some result)) : ∀ ev ∈ es, Harmless a.credential ev.call := by
  obtain ⟨first, -, send⟩ := trace_look run
  have quiet {ev : Event host} (tokens : ForToken a.credential ev.call) : Harmless a.credential ev.call :=
    fun request same => .inl (tokens request same)
  obtain ⟨tokens, -⟩ | ⟨early, request, reply, rfl, tokens, aims, -⟩ := trace_send send
  · exact fun ev mem => quiet (tokens ev mem)
  · refine List.forall_mem_append.mpr ⟨fun ev mem => quiet (tokens ev mem), ?_⟩
    obtain ⟨target, built, method, -⟩ := aims
    obtain ⟨own, ownBuilt, ownMethod, -⟩ := sameTarget_query (sameTarget_refl _) query target built
    have gets : request.method = .get := method.trans (ownMethod.trans (Http.draft_method ownBuilt))
    simp only [List.forall_mem_singleton]
    intro request' same
    cases same
    exact .inr gets

theorem observe_harmless {result : Except Failure Observation}
    (run : Trace (a.observe kind name).run es (some result)) : ∀ ev ∈ es, Harmless a.credential ev.call := by
  have looked {t : ResourceType} {query : List (String × String)} {f : Json → Except Failure Observation}
      (run : Trace (a.look t name query >>= fun v => Action.settle (f v)).run es (some result)) :
      ∀ ev ∈ es, Harmless a.credential ev.call := by
    obtain ⟨first, look, -⟩ := trace_bindPure_iff.mp run
    exact look_harmless look
  cases kind with
  | stagedCopy =>
    cases run
    simp
  | snapshot => exact looked run
  | volume => exact looked run
  | networkInterface => exact looked run
  | scanner => exact looked run

end

section

variable {a : Account} {job : Job} {js : List (Event host)}

theorem Described.mono {kind : ResourceKind} {name : String} {v : Json} {part : List (Event host)}
    (sub : part ⊆ js) (described : Described a part kind name v) : Described a js kind name v := by
  obtain ⟨request, response, aims, mem, answer⟩ := described
  exact ⟨request, response, aims, sub mem, answer⟩

/-- A build pass that succeeds has found the scanner of its job running, and has changed nothing. -/
theorem build_foundRunning
    (run : Trace ((a.provider.pass .run job).run.interpret a.answer) js (some (.ok ()))) :
    FoundRunning a job js := by
  obtain ⟨es, settled, answered, ⟨rfl, pass⟩ | ⟨c, pending, -, cut, -⟩⟩ := trace_interpret run
  · have build : Trace (Pass.build a.provider.facilities a.provider.timing job).run es (some (.ok ())) := by
      unfold Provider.pass at pass
      cases accepted : a.provider.kind.accept .run job with
      | error e =>
        rw [accepted] at pass
        cases pass
      | ok u =>
        rw [accepted] at pass
        exact pass
    have described {kind : ResourceKind} {name : String} {handle : Handle}
        (seen : Pass.SeenReady es kind name handle) :
        ∃ v, Described a js kind name v ∧ Provisioned v ∧ (kind = .scanner → Runs v) := by
      obtain ⟨status, mem⟩ := seen
      obtain ⟨part, sub, look⟩ := answered.mem mem
      obtain ⟨v, described, facts⟩ := observe_ready look
      exact ⟨v, described.mono sub, facts⟩
    obtain ⟨⟨⟨_, snapshot⟩, ⟨_, volume⟩, connected, ⟨_, scanner⟩⟩, -⟩ :=
      (build.lawful Pass.build_lawful).2 _ rfl
    obtain ⟨_, networkInterface⟩ := connected rfl
    constructor
    case snapshot =>
      obtain ⟨v, found, provisioned, -⟩ := described snapshot
      exact ⟨v, found, provisioned⟩
    case volume =>
      obtain ⟨v, found, provisioned, -⟩ := described volume
      exact ⟨v, found, provisioned⟩
    case networkInterface =>
      obtain ⟨v, found, provisioned, -⟩ := described networkInterface
      exact ⟨v, found, provisioned⟩
    case scanner =>
      obtain ⟨v, found, provisioned, runs⟩ := described scanner
      exact ⟨v, found, provisioned, runs rfl⟩
    case unchanged =>
      intro request reply mem
      obtain ⟨ev, known, part, inside, answer⟩ := answered.part mem
      obtain ⟨call, reply'⟩ := ev
      obtain ⟨kind, name, same⟩ := Pass.trace_build_ok build _ known
      dsimp only at same
      subst same
      exact observe_harmless answer _ inside request rfl
  · cases cut

end

/-- An account whose token was issued beforehand. -/
def issuedAccount : Account := { sampleAccount with credential := .issued "token" }

def sampleDescription (properties : String) : String :=
  "\x7b\"id\":\"/r\",\"properties\":\x7b\"provisioningState\":\"Succeeded\"" ++ properties ++ "\x7d\x7d"

/-- Where the resources of the sample job are, and how each describes itself. -/
def sampleDescriptions : List (String × String) :=
  let providers := "https://management.azure.com/subscriptions/sub/resourceGroups/scanner/providers/"
  let power := ",\"instanceView\":\x7b\"statuses\":[\x7b\"code\":\"PowerState/running\"\x7d]\x7d"
  [(providers ++ "Microsoft.Compute/snapshots/asset-scan-snapshot-scan-0001?api-version=2023-04-02",
      sampleDescription ""),
    (providers ++ "Microsoft.Compute/disks/asset-scan-volume-scan-0001?api-version=2023-04-02",
      sampleDescription ""),
    (providers ++ "Microsoft.Network/networkInterfaces/asset-scan-nic-scan-0001?api-version=2023-09-01",
      sampleDescription ""),
    (providers ++ "Microsoft.Compute/virtualMachines/asset-scan-scanner-scan-0001" ++
        "?api-version=2023-09-01&%24expand=instanceView",
      sampleDescription power)]

/-- Nothing is answered but at the addresses of the resources. -/
def allRunning : (c : Call) → Option c.Reply
  | .exchange request =>
    (sampleDescriptions.lookup request.url.text).map fun described =>
      .ok { status := 200, headers := [], body := .ok described }
  | .requestId => some "id"
  | _ => none

def running : Program host (Except Setback Unit) :=
  (issuedAccount.provider.pass .run (Rehearsal.sampleJob false)).run.interpret issuedAccount.answer

theorem build_foundRunning_sample :
    Trace running (running.scripted allRunning).1 (some (.ok ())) ∧
    FoundRunning issuedAccount (Rehearsal.sampleJob false) (running.scripted allRunning).1 := by
  obtain ⟨⟨⟩, run⟩ := trace_scripted_ok (h := allRunning) (p := running) (by decide +kernel)
  exact ⟨run, build_foundRunning run⟩

end ScanProvisioning.Azure
