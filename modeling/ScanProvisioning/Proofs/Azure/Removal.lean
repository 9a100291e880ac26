import ScanProvisioning.Proofs.Azure.Missing
import ScanProvisioning.Proofs.Http
import ScanProvisioning.Rehearsal.Cloud

namespace ScanProvisioning.Azure

open Program

/-- All that is exchanged are requests for tokens, each with the same answer. -/
def OnlyTokens (c : Credential) (response : Http.Response) (ev : Event host) : Prop :=
  ∀ request answer, ev = ⟨.exchange request, .ok answer⟩ → AsksForToken c request ∧ answer = response

/-- An action can fail while all that is exchanged are refusals of tokens. -/
def FailsOn {α : Type} (c : Credential) (response : Http.Response) (x : Action α) (f : Failure) : Prop :=
  CanEnd (OnlyTokens c response) x.run (.error f)

/-- Whether a request for a token can be built does not depend on its form. -/
theorem tokenDraft_ok {tenant : String} {form : List (String × String)} {request : Http.Request}
    (built : tokenDraft tenant form = .ok request) (other : List (String × String)) :
    ∃ request', tokenDraft tenant other = .ok request' := by
  unfold tokenDraft at built ⊢
  cases d : Http.Request.draft .post
    ("https://login.microsoftonline.com/" ++ tenant ++ "/oauth2/v2.0/token") (some requestTimeout) with
  | error e =>
    rw [d] at built
    cases built
  | ok r => exact ⟨_, rfl⟩

theorem tokenDraft_method {tenant : String} {form : List (String × String)} {request : Http.Request}
    (built : tokenDraft tenant form = .ok request) : request.method = .post := by
  unfold tokenDraft at built
  cases d : Http.Request.draft .post
    ("https://login.microsoftonline.com/" ++ tenant ++ "/oauth2/v2.0/token") (some requestTimeout) with
  | error e =>
    rw [d] at built
    cases built
  | ok r =>
    rw [d] at built
    obtain ⟨target, same, method, -⟩ := sameTarget_header (sameTarget_refl _) _ _ request built
    cases same
    have posted : r.method = .post := Http.draft_method d
    exact method.trans posted

section

variable {c : Credential} {response : Http.Response} {scope : Scope}

private theorem canEnd_exchange (response : Http.Response) {operation : String} {d : Http.Draft}
    {request : Http.Request} (built : d = .ok request) (asks : AsksForToken c request) :
    CanEnd (OnlyTokens c response) (Action.exchange operation d).run (.ok response) := by
  subst built
  refine canEnd_ask (I := host) (c := .exchange request) (.ok response) ?_ (canEnd_done _)
  intro request' answer same
  cases same
  exact ⟨asks, rfl⟩

/-- What an exchange does not answer says nothing about tokens. -/
theorem onlyTokens_of_silent {call : Call} {r : call.Reply}
    (silent : ∀ request, call ≠ .exchange request) : OnlyTokens c response ⟨call, r⟩ := by
  intro request answer same
  cases same
  exact absurd rfl (silent request)

def refusalFor (scope : Scope) (response : Http.Response) (body : String) : Failure :=
  tokenRefusal ("acquiring " ++ scope.name ++ " token") response.status body

theorem fetch_failsOn {body : String} (reachable : ∃ request, AsksForToken c request)
    (text : response.text = .ok body) (refused : response.isSuccess = false) :
    FailsOn c response (c.identity.fetch scope) (refusalFor scope response body) := by
  obtain ⟨request, tenant, form, asks, built⟩ := reachable
  have sent (form' : List (String × String)) (application : CanEnd (OnlyTokens c response)
        (Identity.application ("acquiring " ++ scope.name ++ " token") scope c).run
        (.ok (tenant, form'))) :
      FailsOn c response (c.identity.fetch scope) (refusalFor scope response body) := by
    obtain ⟨request', built'⟩ := tokenDraft_ok built form'
    have exchanged : CanEnd (OnlyTokens c response) (Action.exchange ("acquiring " ++ scope.name ++ " token")
        (tokenDraft tenant form')).run (.ok response) :=
      canEnd_exchange response built' ⟨tenant, form', asks, built'⟩
    refine canEnd_bindExcept application (canEnd_bindExcept exchanged ?_)
    rw [text]
    simp only [refused, Bool.not_false, if_true]
    exact canEnd_done _
  cases c with
  | issued token => cases asks
  | secret tenant' client secret =>
    cases asks
    exact sent _ (canEnd_done _)
  | federated tenant' client file =>
    cases asks
    exact sent _ (canEnd_ask (I := host) (c := .readFile file) (.ok "") (onlyTokens_of_silent (by simp))
      (canEnd_done _))

theorem token_failsOn {body : String} (reachable : ∃ request, AsksForToken c request)
    (text : response.text = .ok body) (refused : response.isSuccess = false) :
    FailsOn c response (c.identity.token scope) (refusalFor scope response body) := by
  have renewed : FailsOn c response (c.identity.renew scope) (refusalFor scope response body) :=
    canEnd_bindExcept_error (fetch_failsOn reachable text refused)
  rw [Identity.token]
  cases c with
  | issued token =>
    obtain ⟨request, tenant, form, ⟨⟩, built⟩ := reachable
  | secret tenant client secret | federated tenant client file =>
    dsimp only [Credential.identity] at renewed ⊢
    exact canEnd_ask (I := host) (c := .tokenFor scope) none (onlyTokens_of_silent (by simp)) renewed

theorem send_failsOn {operation body : String} {d : Http.Draft}
    (reachable : ∃ request, AsksForToken c request) (text : response.text = .ok body)
    (refused : response.isSuccess = false) :
    FailsOn c response (c.send operation scope d) (refusalFor scope response body) :=
  canEnd_bindExcept_error (token_failsOn reachable text refused)

end

section

variable {a : Account} {job : Job} {response : Http.Response} {js : List (Event host)}

/-- Where a refusal of a token reads as missing, a removal pass succeeds on such refusals alone. -/
theorem canEnd_removal (job : Job) (reachable : ∃ request, AsksForToken a.credential request)
    (reads : ReadsAsMissing response) :
    CanEnd (OnlyTokens a.credential response) ((a.provider.pass .remove job).run.interpret a.answer)
      (.ok ()) := by
  obtain ⟨body, text, refused, missing⟩ := reads
  have sent {operation : String} {scope : Scope} {d : Http.Draft} :
      FailsOn a.credential response (a.credential.send operation scope d) (refusalFor scope response body) :=
    send_failsOn reachable text refused
  have absent (scope : Scope) : (refusalFor scope response body).verdict = .missing :=
    (tokenRefusal_eq_missing_iff _).mp missing
  have looked (kind : ResourceKind) (name : String) (real : kind ≠ .stagedCopy) : FailsOn a.credential
      response (a.observe kind name) (refusalFor .management response body) := by
    have look {t : ResourceType} {query : List (String × String)} : FailsOn a.credential response
        (a.look t name query) (refusalFor .management response body) := canEnd_bindExcept_error sent
    cases kind with
    | stagedCopy => exact absurd rfl real
    | snapshot => exact canEnd_bindExcept_error look
    | volume => exact canEnd_bindExcept_error look
    | networkInterface => exact canEnd_bindExcept_error look
    | scanner => exact canEnd_bindExcept_error look
  have copied (name : String) : FailsOn a.credential response (a.copyStatus name)
      (refusalFor .storage response body) := canEnd_bindExcept_error sent
  exact canEnd_interpret (Pass.canEnd_teardown _ _ _
    (fun kind name real => ⟨_, absent .management, looked kind name real⟩)
    (fun name => ⟨_, absent .storage, copied name⟩))

private theorem not_truthful_of_onlyTokens (only : ∀ ev ∈ js, OnlyTokens a.credential response ev) :
    ¬ Truthful a job js := by
  intro truthful
  obtain ⟨method, look, target, request, answer, built, mem, same, -⟩ := truthful.scanner
  obtain ⟨⟨tenant, form, -, asked⟩, -⟩ := only _ mem request answer rfl
  rw [tokenDraft_method asked, Http.draft_method built] at same
  rcases look with rfl | rfl | rfl <;> cases same

/-- For the answers that an authority may give to requests for tokens: the success of a removal pass is
borne out by an answer from every resource, unless a token can be asked for and refused in a way that
reads as missing. -/
theorem removal_truthful_iff (a : Account) (job : Job) (admits : Http.Response → Prop) :
    (∀ js, Trace ((a.provider.pass .remove job).run.interpret a.answer) js (some (.ok ())) →
      (∀ request response, (⟨.exchange request, .ok response⟩ : Event host) ∈ js →
        AsksForToken a.credential request → admits response) → Truthful a job js) ↔
    ((∃ request, AsksForToken a.credential request) →
      ∀ response, admits response → ¬ ReadsAsMissing response) := by
  constructor
  · intro truthful reachable response admitted reads
    obtain ⟨js, run, only⟩ := canEnd_removal job reachable reads
    apply not_truthful_of_onlyTokens only
    apply truthful js run
    intro request answer mem _
    rw [(only _ mem request answer rfl).2]
    exact admitted
  · intro clear js run admitted
    apply truthful_of_not_misread run
    intro misread
    obtain ⟨request, response, mem, asks, reads⟩ := misread
    exact clear ⟨request, asks⟩ response (admitted request response mem asks) reads

end

def sampleAccount : Account where
  config := {
    subscription := "sub"
    resourceGroup := "scanner"
    storageAccount := "scanner"
    storageContainer := "scans"
    subnet := "/subscriptions/sub/subnets/scan"
    publicKey := "ssh-ed25519 AAAA"
    adminName := "scanner"
    image := { publisher := "Canonical", offer := "ubuntu", sku := "22_04", version := "latest" } }
  credential := .secret "tenant" "client" "secret"

/-- An authority that does not find the tenant makes a removal pass succeed. -/
theorem removal_not_truthful : ¬ ∀ js,
    Trace ((sampleAccount.provider.pass .remove (Rehearsal.sampleJob false)).run.interpret
      sampleAccount.answer) js (some (.ok ())) →
    Truthful sampleAccount (Rehearsal.sampleJob false) js := by
  intro truthful
  have reachable : ∃ request, AsksForToken sampleAccount.credential request := by
    have buildable : (tokenDraft "tenant" []).isOk = true := by decide +kernel
    obtain ⟨request, built⟩ := exists_ok_of_isOk buildable
    exact ⟨request, "tenant", [], rfl, built⟩
  have reads : ReadsAsMissing { status := 404, headers := [], body := .ok "" } :=
    ⟨_, rfl, by decide +kernel, by decide +kernel⟩
  obtain ⟨js, run, only⟩ := canEnd_removal (Rehearsal.sampleJob false) reachable reads
  exact not_truthful_of_onlyTokens only (truthful js run)

end ScanProvisioning.Azure
