import ScanProvisioning.Proofs.Azure.Readiness
import ScanProvisioning.Proofs.Weathering

namespace ScanProvisioning.Azure

open Program

/-- Exchanges that fail on the way. -/
def hazard (admits : Http.Response → Prop) : Hazard host where
  strikes
    | .exchange request, reply => Http.Broken admits request reply
    | _, _ => False
  instead
    | .exchange _, reply, other => Http.Instead reply other
    | _, _, _ => False

variable {α β : Type} {admits : Http.Response → Prop} {operation name : String}

/-- A body that does not arrive dooms what reads the response, or nobody reads it. -/
def Unread (request : Http.Request) (admits : Http.Response → Prop) (f : Http.Response → Action α) : Prop :=
  ∀ r, Http.Broken admits request (.ok r) → Doomed Unreached (f r).run ∨ ∀ body, f { r with body } = f r

theorem weathered_ask {call : Call} {f : call.Reply → Action α} (silent : ∀ request, call ≠ .exchange request)
    (rest : ∀ r, Weathered (hazard admits) (f r)) : Weathered (hazard admits) (Action.ask call >>= f) := by
  refine weathers_ask ?_ rest
  intro r strikes
  cases call with
  | exchange request => exact silent request rfl
  | _ => exact strikes

theorem weathered_json {r : Http.Response} : Weathered (hazard admits) (Action.json operation r) := by
  rw [json_eq_settle]
  trivial

private theorem weathered_exchange {d : Http.Draft} {f : Http.Response → Action α}
    (rest : ∀ r, Weathered (hazard admits) (f r))
    (unread : ∀ request, d = .ok request → Unread request admits f) :
    Weathered (hazard admits) (Action.exchange operation d >>= f) := by
  cases d with
  | error f => trivial
  | ok request =>
    rintro (lost | r)
    · exact ⟨trivial, fun _ => .inl doomed_throw⟩
    · refine ⟨rest r, fun broken => (unread request rfl r broken).imp_right ?_⟩
      rintro same _ ⟨body, rfl⟩
      exact congrArg ExceptT.run (same body)

section

variable {c : Credential} {scope : Scope}

private theorem weathered_application {f : String × List (String × String) → Action α}
    (rest : ∀ x, Weathered (hazard admits) (f x)) :
    Weathered (hazard admits) (Identity.application operation scope c >>= f) := by
  refine Weathered.bind ?_ rest
  cases c with
  | issued token | secret tenant client secret => trivial
  | federated tenant client file =>
    refine weathered_ask (by simp) ?_
    rintro (reason | assertion) <;> trivial

theorem fetch_weathered : Weathered (hazard admits) (c.identity.fetch scope) := by
  rw [Identity.fetch]
  refine weathered_application fun _ => weathered_exchange ?_ ?_
  · intro r
    cases r.text with
    | error f => trivial
    | ok body =>
      cases r.isSuccess with
      | false => trivial
      | true =>
        simp only [Bool.not_true, Bool.false_eq_true, if_false]
        cases Json.Decoder.ofText IssuedToken.decoder body with
        | error reason => trivial
        | ok issued =>
          refine weathered_ask (by simp) fun now => ?_
          cases Instant.after? now (.ofSeconds (issued.lifetime.getD Identity.defaultLifetime)) with
          | none => exact weathered_ask (by simp) fun impossible => impossible.elim
          | some expiresAt => trivial
  · rintro request - r ⟨-, ⟨f, lost⟩, -⟩
    have text : r.text = .error f := by
      rw [Http.Response.text, lost]
      rfl
    dsimp only
    rw [text]
    exact .inl doomed_throw

theorem token_weathered : Weathered (hazard admits) (c.identity.token scope) := by
  have renewed : Weathered (hazard admits) (c.identity.renew scope) := by
    rw [Identity.renew]
    exact fetch_weathered.bind fun fetched => weathered_ask (by simp) fun _ => trivial
  rw [Identity.token]
  cases c with
  | issued token => trivial
  | secret tenant client other | federated tenant client other =>
    dsimp only [Credential.identity] at renewed ⊢
    refine weathered_ask (by simp) fun remembered => ?_
    cases remembered with
    | none => exact renewed
    | some cached =>
      refine weathered_ask (by simp) fun now => ?_
      cases cached.isFresh now with
      | true => trivial
      | false => exact renewed

theorem weathered_send {d : Http.Draft} {f : Http.Response → Action α}
    (rest : ∀ r, Weathered (hazard admits) (f r))
    (unread : ∀ request, Aims d request → Unread request admits f) :
    Weathered (hazard admits) (c.send operation scope d >>= f) := by
  rw [Credential.send, LawfulMonad.bind_assoc]
  refine token_weathered.bind fun token => ?_
  rw [LawfulMonad.bind_assoc]
  refine weathered_ask (by simp) fun id => ?_
  rw [LawfulMonad.bind_assoc]
  refine weathered_exchange ?_ ?_
  · intro r
    cases r.isSuccess with
    | true => exact rest r
    | false => trivial
  · intro request built r broken
    have aims := sameTarget_header (sameTarget_header (sameTarget_refl d) _ _) _ _ request built
    have passed (response : Http.Response) (success : response.isSuccess = true) :
        ((if response.isSuccess = true then pure response else throw (refusalOf operation scope response) :
          Action Http.Response) >>= f) = f response := by
      rw [if_pos success]
      rfl
    dsimp only
    rw [passed r broken.1]
    refine (unread request aims r broken).imp_right fun same body => ?_
    exact (passed { r with body } broken.1).trans (same body)

/-- A request whose response is not read beyond its headers. -/
theorem weathered_discard {d : Http.Draft} :
    Weathered (hazard admits) (discard (c.send operation scope d)) := by
  rw [discard_eq_bind]
  exact weathered_send (fun _ => trivial) fun _ _ _ _ => .inr fun _ => rfl

/-- A lookup, whose body is not lost where it reports success. -/
theorem weathered_lookup {d : Http.Draft} {f : Http.Response → Action α} (arrives : Http.Arrives admits)
    (gets : ∀ request, Aims d request → request.method = .get) (rest : ∀ r, Weathered (hazard admits) (f r)) :
    Weathered (hazard admits) (c.send operation scope d >>= f) :=
  weathered_send rest fun request aims _ broken => absurd broken (arrives.not_broken (gets request aims))

private theorem aims_draft_method {method : Http.Method} {address : String} {request : Http.Request}
    (aims : Aims (Management.draft method address) request) : request.method = method := by
  obtain ⟨target, built, same, -⟩ := aims
  exact same.trans (Http.draft_method built)

theorem getJson_weathered {path version : String} {query : List (String × String)}
    (arrives : Http.Arrives admits) :
    Weathered (hazard admits) (Management.getJson c operation path version query) := by
  refine weathered_lookup arrives ?_ fun r => weathered_json
  rintro request ⟨target, built, same, -⟩
  obtain ⟨own, ownBuilt, method, -⟩ := sameTarget_query (sameTarget_refl _) query target built
  exact same.trans (method.trans (Http.draft_method ownBuilt))

theorem listFrom_weathered {pages : Nat} {address : String} (arrives : Http.Arrives admits) :
    Weathered (hazard admits) (Management.listFrom c operation pages address) := by
  induction pages generalizing address with
  | zero => exact weathered_ask (by simp) fun impossible => impossible.elim
  | succ pages ih =>
    refine weathered_lookup arrives (fun request aims => aims_draft_method aims) fun r => ?_
    refine weathered_json.bind fun page => ?_
    cases page.string? "nextLink" with
    | none => trivial
    | some next => exact ih.bind fun _ => trivial

private theorem weathered_optionalJson {r : Http.Response} :
    Weathered (hazard admits) (Management.optionalJson operation r) := by
  unfold Management.optionalJson
  cases r.text with
  | error f => trivial
  | ok text =>
    dsimp only
    split
    · trivial
    · cases Json.ofText text <;> trivial

theorem watch_weathered {w : Management.Watch} {left : Nat} {delay : Duration} (arrives : Http.Arrives admits) :
    Weathered (hazard admits) (Management.watch c operation w left delay) := by
  induction left generalizing delay with
  | zero => trivial
  | succ left ih =>
    refine weathered_ask (by simp) fun _ => ?_
    refine weathered_lookup arrives (fun request aims => aims_draft_method aims) fun r => ?_
    refine Weathered.bind ?_ fun progress => ?_
    · cases w with
      | report address => exact weathered_json.bind fun _ => trivial
      | result address =>
        dsimp only [Management.Watch.progress]
        split
        · trivial
        · exact weathered_optionalJson.bind fun _ => trivial
    · cases progress with
      | running => exact ih
      | succeeded output => trivial

/-- An operation that is accepted is watched; of one that is over the body is read, if it arrives. -/
theorem post_weathered {path action version : String} {body : Json} (arrives : Http.Arrives admits) :
    Weathered (hazard admits) (Management.post c operation path action version body) := by
  refine weathered_send ?_ ?_
  · intro r
    unfold Management.awaitOperation
    split
    · cases Management.Watch.ofResponse r with
      | none => trivial
      | some w => exact watch_weathered arrives
    · exact weathered_optionalJson
  · rintro request - r ⟨-, ⟨f, lost⟩, -⟩
    by_cases accepted : r.status = 202
    · right
      intro body
      simp only [Management.awaitOperation, accepted, if_true]
      rfl
    · left
      have text : r.text = .error f := by
        rw [Http.Response.text, lost]
        rfl
      have ended : Management.awaitOperation c operation r = Management.optionalJson operation r :=
        if_neg accepted
      dsimp only
      rw [ended, Management.optionalJson, text]
      exact doomed_throw

end

section

variable (a : Account) (arrives : Http.Arrives admits)

include arrives

theorem observe_weathered (kind : ResourceKind) : Weathered (hazard admits) (a.observe kind name) := by
  cases kind with
  | stagedCopy => trivial
  | snapshot | volume | networkInterface | scanner =>
    exact (getJson_weathered arrives).bind fun _ => trivial

omit arrives in
theorem create_weathered (spec : ResourceSpec) : Weathered (hazard admits) (a.create name spec) := by
  cases spec with
  | snapshot | volume | networkInterface => exact weathered_discard
  | scanner spec =>
    refine Weathered.bind trivial fun body => ?_
    exact weathered_discard

omit arrives in
theorem delete_weathered (kind : ResourceKind) : Weathered (hazard admits) (a.delete kind name) := by
  cases kind with
  | stagedCopy => trivial
  | snapshot | volume | networkInterface | scanner => exact weathered_discard

theorem grantAccess_weathered (ttl : Duration) : Weathered (hazard admits) (a.grantAccess name ttl) := by
  refine (post_weathered arrives).bind fun output => ?_
  cases output.bind grantedAddress? <;> trivial

omit arrives in
theorem copyStatus_weathered : Weathered (hazard admits) (a.copyStatus name) :=
  weathered_send (fun _ => trivial) fun _ _ _ _ => .inr fun _ => rfl

/-- Every call of an account weathers what fails on the way. -/
theorem answer_weathers : (c : ClientCall) → Weathers (hazard admits) (Retried c) (a.answer c)
  | .observe kind _ => weathers_mono (fun _ => Unreached.retried) (observe_weathered a arrives kind)
  | .create _ spec => weathers_mono (fun _ => Unreached.retried) (create_weathered a spec)
  | .delete kind _ => weathers_mono (fun _ => Unreached.retried) (delete_weathered a kind)
  | .grantAccess _ ttl => weathers_mono (fun _ => Unreached.retried) (grantAccess_weathered a arrives ttl)
  | .revokeAccess _ => weathers_mono (fun _ => Unreached.retried) (post_weathered arrives).discard
  | .copyStatus _ => weathers_mono (fun _ => Unreached.retried) (copyStatus_weathered a)
  | .startCopy .. => weathers_mono (fun _ => Unreached.retried) weathered_discard
  | .deleteCopy _ => weathers_mono (fun _ => Unreached.retried) weathered_discard
  | .listAssets =>
    weathers_mono (fun _ => Unreached.retried) ((listFrom_weathered arrives).bind fun _ => trivial)

end

end ScanProvisioning.Azure
