import ScanProvisioning.Azure.Clients
import ScanProvisioning.Proofs.Pass.Removal

namespace ScanProvisioning

namespace Azure

open Program

/-- Which tenant a credential asks for tokens; one that was issued beforehand asks none. -/
def Credential.tenant? : Credential → Option String
  | .issued _ => none
  | .secret tenant _ _ => some tenant
  | .federated tenant _ _ => some tenant

def tokenDraft (tenant : String) (form : List (String × String)) : Http.Draft :=
  Http.Draft.form form (Http.Request.draft .post
    ("https://login.microsoftonline.com/" ++ tenant ++ "/oauth2/v2.0/token") (some requestTimeout))

def AsksForToken (c : Credential) (request : Http.Request) : Prop :=
  ∃ tenant form, c.tenant? = some tenant ∧ tokenDraft tenant form = .ok request

/-- The refusal of a token that reads as if a resource were missing. -/
def ReadsAsMissing (r : Http.Response) : Prop :=
  ∃ body, r.text = .ok body ∧ r.isSuccess = false ∧
    (tokenRefusal "acquiring token" r.status body).verdict = .missing

/-- A token was refused, and the refusal reads as missing. -/
def Misread (c : Credential) (js : List (Event host)) : Prop :=
  ∃ request response, (⟨.exchange request, .ok response⟩ : Event host) ∈ js ∧
    AsksForToken c request ∧ ReadsAsMissing response

/-- A request was refused as one for something missing; headers, body and query do not count. -/
def Refused (scope : Scope) (d : Http.Draft) (js : List (Event host)) : Prop :=
  ∃ target request response, d = .ok target ∧
    (⟨.exchange request, .ok response⟩ : Event host) ∈ js ∧ request.method = target.method ∧
    request.url.resource = target.url.resource ∧ response.isSuccess = false ∧
    ∃ operation, (refusalOf operation scope response).verdict = .missing

/-- Where a resource of the account's resource group is, by its provider and type. -/
def Account.managed (a : Account) (type name version : String) : String :=
  "https://management.azure.com/subscriptions/" ++ a.config.subscription ++ "/resourceGroups/" ++
    a.config.resourceGroup ++ "/providers/" ++ type ++ "/" ++ name ++ "?api-version=" ++ version

/-- Where a resource or a staged copy is. -/
def Account.address (a : Account) (kind : ResourceKind) (name : String) : String :=
  match kind with
  | .snapshot => a.managed "Microsoft.Compute/snapshots" name "2023-04-02"
  | .stagedCopy =>
    "https://" ++ a.config.storageAccount ++ ".blob.core.windows.net/" ++ a.config.storageContainer ++ "/" ++
      Text.pathPart name
  | .volume => a.managed "Microsoft.Compute/disks" name "2023-04-02"
  | .networkInterface => a.managed "Microsoft.Network/networkInterfaces" name "2023-09-01"
  | .scanner => a.managed "Microsoft.Compute/virtualMachines" name "2023-09-01"

theorem managementUrl_eq : "https://management.azure.com/subscriptions/" =
    "https://management.azure.com" ++ "/subscriptions/" := by simp

theorem Account.managed_eq (a : Account) (t : ResourceType) (name : String) :
    a.managed t.path name t.version = Management.address (a.id t name) t.version := by
  unfold managed Management.address id Config.resourceId
  rw [managementUrl_eq]
  simp only [String.append_assoc]

private theorem Account.managed_tail {a : Account} {type type' name name' version version' : String}
    (same : a.managed type name version = a.managed type' name' version') :
    type ++ ("/" ++ name ++ "?api-version=" ++ version) =
      type' ++ ("/" ++ name' ++ "?api-version=" ++ version') := by
  unfold managed at same
  simpa only [String.append_assoc, String.append_right_inj] using same

/-- Resources of the resource group that differ in kind or in name have addresses that differ. -/
theorem Account.address_inj {a : Account} {kind kind' : ResourceKind} {name name' : String}
    (managed : kind ≠ .stagedCopy) (managed' : kind' ≠ .stagedCopy)
    (same : a.address kind name = a.address kind' name') : kind = kind' ∧ name = name' := by
  cases kind <;> cases kind' <;> try contradiction
  all_goals
    have tail := congrArg String.toList (managed_tail same)
    simp at tail
  -- Provider and type have told all others apart: what is left are pairs of the same kind.
  all_goals exact ⟨rfl, String.toList_inj.mp tail⟩

def scopeOf : ResourceKind → Scope
  | .stagedCopy => .storage
  | _ => .management

/-- A resource was reported missing by an answer from its own address, to a look at it or to its
deletion. -/
def ReportedMissing (a : Account) (js : List (Event host)) (kind : ResourceKind) (name : String) : Prop :=
  ∃ method, (method = .get ∨ method = .head ∨ method = .delete) ∧
    Refused (scopeOf kind) (Http.Request.draft method (a.address kind name) (some requestTimeout)) js

/-- Everything that a job may have was reported missing by an answer from its own address. -/
structure Truthful (a : Account) (job : Job) (js : List (Event host)) : Prop where
  scanner : ReportedMissing a js .scanner job.names.scanner
  networkInterface : ReportedMissing a js .networkInterface job.names.networkInterface
  volume : ReportedMissing a js .volume job.names.volume
  stagedCopy : job.crossesRegions = true → ReportedMissing a js .stagedCopy job.names.stagedCopy
  snapshot : ReportedMissing a js .snapshot job.names.snapshot

section

variable {α β : Type} {P : List (Event host) → Prop} {before : List (Event host)}

/-- A failure that reads as missing rests on a fact about what has happened. -/
def Blames (P : List (Event host) → Prop) (es : List (Event host)) (result : Except Failure α) : Prop :=
  ∀ f, result = .error f → f.verdict = .missing → P es

theorem blames_ok {a : α} : Blames P before (.ok a) := by
  intro f same
  cases same

theorem blames_error {f : Failure} (other : f.verdict ≠ .missing) :
    Blames P before (.error f : Except Failure α) := by
  intro f same missing
  cases same
  exact absurd missing other

theorem blames_bind {x : Action α} {f : α → Action β}
    (first : Guarded recording anything (Blames P) x.run before)
    (rest : ∀ a after, Guarded recording anything (Blames P) (f a).run after) :
    Guarded recording anything (Blames P) (x >>= f).run before := by
  refine guarded_bindExcept ?_
  refine guarded_mono ?_ first
  intro after result blames
  cases result with
  | ok a => exact rest a after
  | error f =>
    intro _ same
    cases same
    exact blames f rfl

theorem blames_map {x : Action α} {f : α → β} (first : Guarded recording anything (Blames P) x.run before) :
    Guarded recording anything (Blames P) (f <$> x).run before := by
  refine guarded_mapExcept ?_
  refine guarded_mono ?_ first
  rintro after (failure | a) blames
  · intro _ same
    cases same
    exact blames failure rfl
  · exact blames_ok

theorem blames_ask {c : Call} {f : c.Reply → Action α}
    (rest : ∀ r, Guarded recording anything (Blames P) (f r).run (before ++ [⟨c, r⟩])) :
    Guarded recording anything (Blames P) (Action.ask c >>= f).run before := by
  refine ⟨trivial, ?_⟩
  intro r after recorded
  subst recorded
  exact rest r

private theorem blames_exchange {operation : String} {d : Http.Draft} {f : Http.Response → Action α}
    (rest : ∀ request response, d = .ok request →
      Guarded recording anything (Blames P) (f response).run
        (before ++ [⟨.exchange request, .ok response⟩])) :
    Guarded recording anything (Blames P) (Action.exchange operation d >>= f).run before := by
  cases d with
  | error f => exact blames_error (by rintro ⟨⟩)
  | ok request =>
    refine ⟨trivial, ?_⟩
    rintro (f | response) after rfl
    · exact blames_error (by rintro ⟨⟩)
    · exact rest request response rfl

theorem blames_settle {r : Except Failure α} (other : ∀ f, r = .error f → f.verdict ≠ .missing) :
    Guarded recording anything (Blames P) (Action.settle r).run before := by
  cases r with
  | ok a => exact blames_ok
  | error f => exact blames_error (other f rfl)

private theorem blames_json {operation : String} {r : Http.Response} :
    Guarded recording anything (Blames P) (Action.json operation r).run before := by
  unfold Action.json
  cases r.json with
  | ok v => exact blames_ok
  | error f => exact blames_error (by rintro ⟨⟩)

end

/-- Whether a refusal of a token reads as missing does not depend on what the token is for. -/
theorem tokenRefusal_eq_missing_iff {operation : String} (other : String) {status : UInt16} {body : String} :
    (tokenRefusal operation status body).verdict = .missing ↔
      (tokenRefusal other status body).verdict = .missing := by
  unfold tokenRefusal
  cases Json.Decoder.ofText tokenRefusalDecoder body with
  | ok found =>
    obtain ⟨code, message⟩ := found
    exact Failure.verdict_refused_eq_missing_iff.trans Failure.verdict_refused_eq_missing_iff.symm
  | error r =>
    exact Failure.verdict_refused_eq_missing_iff.trans Failure.verdict_refused_eq_missing_iff.symm

section

variable {α : Type} {c : Credential} {scope : Scope} {before : List (Event host)}

theorem application_guarded {operation : String} {P : List (Event host) → Prop}
    {f : String × List (String × String) → Action α}
    (rest : ∀ tenant form after, c.tenant? = some tenant →
      Guarded recording anything (Blames P) (f (tenant, form)).run after) (asks : c.tenant? ≠ none) :
    Guarded recording anything (Blames P) (Identity.application operation scope c >>= f).run before := by
  cases c with
  | issued token => exact absurd rfl asks
  | secret tenant client secret => exact rest tenant _ before rfl
  | federated tenant client file =>
    refine guarded_bindExcept ⟨trivial, ?_⟩
    rintro (reason | assertion) after rfl
    · exact blames_error (by rintro ⟨⟩)
    · exact rest tenant _ _ rfl

/-- A token that cannot be fetched is taken for a missing resource only where its refusal reads so. -/
theorem fetch_blames (asks : c.tenant? ≠ none) :
    Guarded recording anything (Blames (Misread c)) (c.identity.fetch scope).run before := by
  rw [Identity.fetch]
  refine application_guarded ?_ asks
  intro tenant form earlier tenant_eq
  refine blames_exchange ?_
  intro request response built
  cases text : response.text with
  | error f => exact blames_error (by rintro ⟨⟩)
  | ok body =>
    cases success : response.isSuccess with
    | false =>
      intro f same missing
      cases same
      refine ⟨request, response, by simp, ⟨tenant, form, tenant_eq, built⟩, body, text, success, ?_⟩
      exact (tokenRefusal_eq_missing_iff _).mp missing
    | true =>
      simp only [Bool.not_true, Bool.false_eq_true, if_false]
      cases Json.Decoder.ofText IssuedToken.decoder body with
      | error r => exact blames_error (by rintro ⟨⟩)
      | ok issued =>
        refine blames_ask fun now => ?_
        cases Instant.after? now (.ofSeconds (issued.lifetime.getD Identity.defaultLifetime)) with
        | none => exact blames_ask fun impossible => impossible.elim
        | some expiresAt => exact blames_ok

theorem renew_blames (asks : c.tenant? ≠ none) :
    Guarded recording anything (Blames (Misread c)) (c.identity.renew scope).run before := by
  rw [Identity.renew]
  exact blames_bind (fetch_blames asks) fun fetched after => blames_ask fun _ => blames_ok

theorem token_blames :
    Guarded recording anything (Blames (Misread c)) (c.identity.token scope).run before := by
  rw [Identity.token]
  cases c with
  | issued token => exact blames_ok
  | secret tenant client other | federated tenant client other =>
    dsimp only [Credential.identity]
    refine blames_ask fun remembered => ?_
    cases remembered with
    | none => exact renew_blames (by simp [Credential.tenant?])
    | some cached =>
      refine blames_ask fun now => ?_
      cases cached.isFresh now with
      | true => exact blames_ok
      | false => exact renew_blames (by simp [Credential.tenant?])

end

/-- A draft asks for what another one asks for, whatever headers, body and query it adds. -/
def SameTarget (own d : Http.Draft) : Prop :=
  ∀ request, d = .ok request → ∃ target, own = .ok target ∧ request.method = target.method ∧
    request.url.resource = target.url.resource

theorem sameTarget_refl (d : Http.Draft) : SameTarget d d := fun request built => ⟨request, built, rfl, rfl⟩

theorem sameTarget_header {own d : Http.Draft} (same : SameTarget own d) (name value : String) :
    SameTarget own (d.header name value) := by
  intro request built
  cases d with
  | error f => cases built
  | ok r =>
    obtain ⟨target, own_eq, method, url⟩ := same r rfl
    cases valid : Http.isHeaderValue value with
    | false =>
      simp [Http.Draft.header, valid, Bind.bind, Except.bind] at built
    | true =>
      simp [Http.Draft.header, valid, Bind.bind, Except.bind] at built
      cases built
      exact ⟨target, own_eq, method, url⟩

theorem sameTarget_query {own d : Http.Draft} (same : SameTarget own d) (pairs : List (String × String)) :
    SameTarget own (d.query pairs) := by
  intro request built
  cases d with
  | error f => cases built
  | ok r =>
    cases built
    exact same r rfl

/-- A request that fails as one for something missing was refused so, or its token was. -/
theorem send_blames {c : Credential} {operation : String} {scope : Scope} {own d : Http.Draft}
    {before : List (Event host)} (same : SameTarget own d) :
    Guarded recording anything (Blames fun js => Misread c js ∨ Refused scope own js)
      (c.send operation scope d).run before := by
  rw [Credential.send]
  refine blames_bind ?_ fun token after => ?_
  · refine guarded_mono ?_ token_blames
    intro es result blames f failed missing
    exact .inl (blames f failed missing)
  · refine blames_ask fun id => ?_
    refine blames_exchange ?_
    intro request response built
    obtain ⟨target, own_eq, method, url⟩ :=
      sameTarget_header (sameTarget_header same _ _) _ _ request built
    cases success : response.isSuccess with
    | true => exact blames_ok
    | false =>
      intro f same missing
      cases same
      exact .inr ⟨target, request, response, own_eq, by simp, method, url, success, operation, missing⟩

section

variable {a : Account} {name : String} {before : List (Event host)}

/-- What a client call that fails as one for something missing rests on. -/
def RestsOn (a : Account) (kind : ResourceKind) (name : String) (js : List (Event host)) : Prop :=
  Misread a.credential js ∨ ReportedMissing a js kind name

theorem request_blames {operation : String} {kind : ResourceKind} {method : Http.Method} {d : Http.Draft}
    (look : method = .get ∨ method = .head ∨ method = .delete)
    (same : SameTarget (Http.Request.draft method (a.address kind name) (some requestTimeout)) d) :
    Guarded recording anything (Blames (RestsOn a kind name))
      (a.credential.send operation (scopeOf kind) d).run before := by
  refine guarded_mono ?_ (send_blames same)
  intro es result blames f failed missing
  rcases blames f failed missing with misread | refused
  · exact .inl misread
  · exact .inr ⟨method, look, refused⟩

theorem observation_error {operation : String} {v : Json} {f : Failure}
    (failed : Management.observation operation name v = .error f) : f.verdict ≠ .missing := by
  unfold Management.observation at failed
  cases id : v.string? "id" with
  | none =>
    rw [id] at failed
    cases failed
    intro same
    cases same
  | some id' =>
    rw [id] at failed
    cases failed

private theorem machineObservation_error {v : Json} {f : Failure}
    (failed : machineObservation name v = .error f) : f.verdict ≠ .missing := by
  unfold machineObservation at failed
  cases seen : Management.observation "getting scanner vm" name v with
  | error f' =>
    rw [seen] at failed
    cases failed
    exact observation_error seen
  | ok seen' =>
    rw [seen] at failed
    simp only [Bind.bind, Except.bind] at failed
    split at failed
    · cases failed
    · split at failed <;> cases failed

private theorem copyReport_error {operation : String} {r : Http.Response} {f : Failure}
    (failed : Account.copyReport operation r = .error f) : f.verdict ≠ .missing := by
  unfold Account.copyReport at failed
  split at failed
  · cases failed
    intro same
    cases same
  · split at failed <;> cases failed
    intro same
    cases same

theorem look_blames {kind : ResourceKind} {t : ResourceType} {query : List (String × String)}
    (here : a.address kind name = Management.address (a.id t name) t.version)
    (scope : scopeOf kind = .management) :
    Guarded recording anything (Blames (RestsOn a kind name)) (a.look t name query).run before := by
  rw [Account.look, Management.getJson]
  refine blames_bind ?_ fun response after => blames_json
  rw [← scope]
  refine request_blames (.inl rfl) ?_
  rw [here]
  exact sameTarget_query (sameTarget_refl _) query

theorem observe_blames {kind : ResourceKind} :
    Guarded recording anything (Blames (RestsOn a kind name)) (a.observe kind name).run before := by
  cases kind with
  | stagedCopy => exact blames_error (by rintro ⟨⟩)
  | snapshot =>
    exact blames_bind (look_blames (a.managed_eq .snapshot name) rfl) fun v after =>
      blames_settle fun f => observation_error
  | volume =>
    exact blames_bind (look_blames (a.managed_eq .disk name) rfl) fun v after =>
      blames_settle fun f => observation_error
  | networkInterface =>
    exact blames_bind (look_blames (a.managed_eq .networkInterface name) rfl) fun v after =>
      blames_settle fun f => observation_error
  | scanner =>
    exact blames_bind (look_blames (a.managed_eq .machine name) rfl) fun v after =>
      blames_settle fun f => machineObservation_error

theorem deleteAs_blames {kind : ResourceKind} {t : ResourceType}
    (here : a.address kind name = Management.address (a.id t name) t.version)
    (scope : scopeOf kind = .management) :
    Guarded recording anything (Blames (RestsOn a kind name)) (a.deleteAs t name).run before := by
  rw [Account.deleteAs, Management.delete, ← scope]
  refine blames_map (request_blames (.inr (.inr rfl)) ?_)
  rw [here]
  exact sameTarget_refl _

theorem delete_blames {kind : ResourceKind} :
    Guarded recording anything (Blames (RestsOn a kind name)) (a.delete kind name).run before := by
  cases kind with
  | stagedCopy => exact blames_error (by rintro ⟨⟩)
  | snapshot => exact deleteAs_blames (a.managed_eq .snapshot name) rfl
  | volume => exact deleteAs_blames (a.managed_eq .disk name) rfl
  | networkInterface => exact deleteAs_blames (a.managed_eq .networkInterface name) rfl
  | scanner => exact deleteAs_blames (a.managed_eq .machine name) rfl

theorem copyStatus_blames :
    Guarded recording anything (Blames (RestsOn a .stagedCopy name)) (a.copyStatus name).run before := by
  refine blames_bind (request_blames (.inr (.inl rfl)) (sameTarget_header (sameTarget_refl _) _ _)) ?_
  intro response after
  exact blames_settle fun f => copyReport_error

end

section

variable {a : Account} {job : Job} {js : List (Event host)}

theorem RestsOn.mono {kind : ResourceKind} {name : String} {part : List (Event host)} (sub : part ⊆ js)
    (rests : RestsOn a kind name part) : RestsOn a kind name js := by
  rcases rests with ⟨request, response, mem, misread⟩ |
    ⟨method, look, target, request, response, built, mem, refused⟩
  · exact .inl ⟨request, response, sub mem, misread⟩
  · exact .inr ⟨method, look, target, request, response, built, sub mem, refused⟩

/-- Where no refusal of a token reads as missing, a removal pass that succeeds has found everything
missing at its own address. -/
theorem truthful_of_not_misread
    (run : Trace ((a.provider.pass .remove job).run.interpret a.answer) js (some (.ok ())))
    (clear : ¬ Misread a.credential js) : Truthful a job js := by
  obtain ⟨es, settled, answered, ⟨rfl, pass⟩ | ⟨c, pending, -, cut, -⟩⟩ := trace_interpret run
  · have gone := Pass.teardown_allGone pass
    -- A client call that fails as one for something missing was answered by the resource's own address,
    -- or its token was refused, which is excluded here.
    have reported {kind : ResourceKind} {name : String} (gone : Pass.Gone es kind name) :
        ReportedMissing a js kind name := by
      obtain ⟨f, missing, seen | deleted⟩ := gone
      · obtain ⟨part, sub, answer⟩ := answered.mem seen
        have rests := (answer.lawful observe_blames).2 _ rfl f rfl missing
        exact (rests.mono sub).resolve_left clear
      · obtain ⟨part, sub, answer⟩ := answered.mem deleted
        have rests := (answer.lawful delete_blames).2 _ rfl f rfl missing
        exact (rests.mono sub).resolve_left clear
    constructor
    case scanner => exact reported gone.scanner
    case networkInterface => exact reported (gone.networkInterface rfl)
    case volume => exact reported gone.volume
    case stagedCopy =>
      intro crosses
      obtain ⟨f, missing, seen⟩ := gone.stagedCopy crosses rfl
      obtain ⟨part, sub, answer⟩ := answered.mem seen
      have rests := (answer.lawful copyStatus_blames).2 _ rfl f rfl missing
      exact (rests.mono sub).resolve_left clear
    case snapshot => exact reported gone.snapshot
  · cases cut

end

end Azure

end ScanProvisioning
