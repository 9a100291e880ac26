import ScanProvisioning.Proofs.Azure.Missing

namespace ScanProvisioning.Azure

open Program

/-- Where something is exchanged, it is a request for a token. -/
def ForToken (c : Credential) (call : Call) : Prop :=
  ∀ request, call = .exchange request → AsksForToken c request

/-- A request has the method and the address of a draft, whatever its headers, body and query. -/
def Aims (own : Http.Draft) (request : Http.Request) : Prop :=
  ∃ target, own = .ok target ∧ request.method = target.method ∧ request.url.resource = target.url.resource

/-- The JSON in a response. -/
def readJson (operation : String) (r : Http.Response) : Except Failure Json :=
  match r.json with
  | .ok v => .ok v
  | .error f => .error (.unreadable operation f.message)

theorem json_eq_settle (operation : String) (r : Http.Response) :
    Action.json operation r = Action.settle (readJson operation r) := by
  unfold Action.json readJson
  cases r.json <;> rfl

/-- What a request comes to once it has been answered. -/
def answered (operation : String) (scope : Scope) :
    Except Http.Failure Http.Response → Except Failure Http.Response
  | .error f => .error (.unreachable operation f.message f.timedOut)
  | .ok r => if r.isSuccess then .ok r else .error (refusalOf operation scope r)

section

variable {α : Type} {c : Credential} {scope : Scope} {operation : String} {before : List (Event host)}

private theorem forToken_silent {call : Call} (silent : ∀ request, call ≠ .exchange request) :
    ForToken c call := by
  intro request same
  exact absurd same (silent request)

/-- The program exchanges nothing but requests for tokens. -/
def SeeksToken (c : Credential) (x : Action α) (before : List (Event host)) : Prop :=
  Guarded recording (fun _ => ForToken c) (fun _ _ => True) x.run before

theorem seeksToken_ask {call : Call} {f : call.Reply → Action α} (silent : ∀ request, call ≠ .exchange request)
    (rest : ∀ r after, SeeksToken c (f r) after) : SeeksToken c (Action.ask call >>= f) before :=
  ⟨forToken_silent silent, fun r after _ => rest r after⟩

private theorem seeksToken_exchange {d : Http.Draft} {f : Http.Response → Action α}
    (own : ∀ request, d = .ok request → AsksForToken c request)
    (rest : ∀ response after, SeeksToken c (f response) after) :
    SeeksToken c (Action.exchange operation d >>= f) before := by
  cases d with
  | error f => trivial
  | ok request =>
    refine ⟨?_, ?_⟩
    · intro request' same
      cases same
      exact own request rfl
    · rintro (f | response) after -
      · trivial
      · exact rest response after

private theorem seeksToken_application {f : String × List (String × String) → Action α}
    (asks : c.tenant? ≠ none)
    (rest : ∀ tenant form after, c.tenant? = some tenant → SeeksToken c (f (tenant, form)) after) :
    SeeksToken c (Identity.application operation scope c >>= f) before := by
  cases c with
  | issued token => exact absurd rfl asks
  | secret tenant client secret => exact rest tenant _ before rfl
  | federated tenant client file =>
    refine guarded_bindExcept ⟨forToken_silent (by simp), ?_⟩
    rintro (reason | assertion) after -
    · trivial
    · exact rest tenant _ after rfl

theorem fetch_seeksToken (asks : c.tenant? ≠ none) : SeeksToken c (c.identity.fetch scope) before := by
  rw [Identity.fetch]
  refine seeksToken_application asks ?_
  intro tenant form earlier tenant_eq
  refine seeksToken_exchange (fun request built => ⟨tenant, form, tenant_eq, built⟩) ?_
  intro response after
  cases response.text with
  | error f => trivial
  | ok body =>
    cases response.isSuccess with
    | false => trivial
    | true =>
      simp only [Bool.not_true, Bool.false_eq_true, if_false]
      cases Json.Decoder.ofText IssuedToken.decoder body with
      | error r => trivial
      | ok issued =>
        refine seeksToken_ask (by simp) fun now later => ?_
        cases Instant.after? now (.ofSeconds (issued.lifetime.getD Identity.defaultLifetime)) with
        | none => exact seeksToken_ask (by simp) fun impossible => impossible.elim
        | some expiresAt => trivial

theorem renew_seeksToken (asks : c.tenant? ≠ none) : SeeksToken c (c.identity.renew scope) before := by
  rw [Identity.renew]
  refine guarded_bindExcept (guarded_mono ?_ (fetch_seeksToken asks))
  rintro after (f | fetched) -
  · trivial
  · exact seeksToken_ask (by simp) fun _ _ => trivial

/-- All that is exchanged for the sake of a token are requests for one. -/
theorem token_seeksToken : SeeksToken c (c.identity.token scope) before := by
  rw [Identity.token]
  cases c with
  | issued token => trivial
  | secret tenant client other | federated tenant client other =>
    dsimp only [Credential.identity]
    refine seeksToken_ask (by simp) fun remembered after => ?_
    cases remembered with
    | none => exact renew_seeksToken (by simp [Credential.tenant?])
    | some cached =>
      refine seeksToken_ask (by simp) fun now later => ?_
      cases cached.isFresh now with
      | true => trivial
      | false => exact renew_seeksToken (by simp [Credential.tenant?])

private theorem forToken_of_sought {es : List (Event host)} {e : Option (Except Failure String)}
    (run : Trace (c.identity.token scope).run es e) : ∀ ev ∈ es, ForToken c ev.call := by
  intro ev mem
  obtain ⟨before, after, rfl⟩ := List.append_of_mem mem
  exact (run.lawful token_seeksToken).1 before ev after rfl

/-- A request that can be built is exchanged, and the answer decides. -/
theorem trace_exchange {d : Http.Draft} {es : List (Event host)} {result : Except Failure Http.Response}
    (run : Trace (Action.exchange operation d >>= fun response =>
      if response.isSuccess then pure response else throw (refusalOf operation scope response)).run es
        (some result)) :
    es = [] ∧ (∃ f, result = .error f) ∨ ∃ request reply, d = .ok request ∧
      es = [⟨.exchange request, reply⟩] ∧ result = answered operation scope reply := by
  cases d with
  | error f =>
    cases run
    exact .inl ⟨rfl, _, rfl⟩
  | ok request =>
    right
    cases run with
    | ask reply run =>
      refine ⟨request, reply, rfl, ?_⟩
      cases reply with
      | error f =>
        cases run
        exact ⟨rfl, rfl⟩
      | ok response =>
        have run : Trace (if response.isSuccess = true then pure response
          else throw (refusalOf operation scope response) : Action Http.Response).run _ _ := run
        cases success : response.isSuccess with
        | true | false =>
          simp only [success] at run
          cases run
          exact ⟨rfl, by simp [answered, success]⟩

/-- How a request goes: a token is sought, and where there is one, the request is built with it and
exchanged once. -/
theorem trace_send {d : Http.Draft} {es : List (Event host)} {result : Except Failure Http.Response}
    (run : Trace (c.send operation scope d).run es (some result)) :
    (∀ ev ∈ es, ForToken c ev.call) ∧ (∃ f, result = .error f) ∨
    ∃ early request reply, es = early ++ [⟨.exchange request, reply⟩] ∧
      (∀ ev ∈ early, ForToken c ev.call) ∧ Aims d request ∧ result = answered operation scope reply := by
  rw [Credential.send] at run
  obtain ⟨⟨⟩, -⟩ | ⟨f, same, sought⟩ | ⟨token, early, late, rfl, sought, run⟩ := trace_bindExcept_iff.mp run
  · cases same
    exact .inl ⟨forToken_of_sought sought, f, rfl⟩
  · have fine : ∀ ev ∈ early, ForToken c ev.call := forToken_of_sought sought
    cases run with
    | ask id run =>
      have quiet : ∀ ev ∈ early ++ [(⟨.requestId, id⟩ : Event host)], ForToken c ev.call :=
        List.forall_mem_append.mpr ⟨fine, by simp [ForToken]⟩
      obtain ⟨rfl, failed⟩ | ⟨request, reply, built, rfl, ended⟩ := trace_exchange run
      · exact .inl ⟨quiet, failed⟩
      · have aims := sameTarget_header (sameTarget_header (sameTarget_refl d) _ _) _ _ request built
        exact .inr ⟨_, request, reply, by simp, quiet, aims, ended⟩

/-- With a token that was issued beforehand, a request that can be built is sent at once. -/
theorem trace_send_issued {token id : String} {d : Http.Draft} {request : Http.Request}
    (built : Http.Draft.header "x-ms-client-request-id" id
      (Http.Draft.header "authorization" ("Bearer " ++ token) d) = .ok request)
    (reply : Except Http.Failure Http.Response) :
    Trace ((Credential.issued token).send operation scope d).run
      [⟨.requestId, id⟩, ⟨.exchange request, reply⟩] (some (answered operation scope reply)) := by
  refine Trace.ask (I := host) (c := .requestId) id ?_
  have sent : Trace (Action.exchange operation (.ok request) >>= fun response =>
      if response.isSuccess then pure response else throw (refusalOf operation scope response)).run
      [⟨.exchange request, reply⟩] (some (answered operation scope reply)) := by
    refine Trace.ask (I := host) (c := .exchange request) reply ?_
    obtain f | response := reply
    · exact .done _
    · rw [answered]
      change Trace (if response.isSuccess then pure response else throw _ : Action Http.Response).run _ _
      cases response.isSuccess <;> exact .done _
  rw [← built] at sent
  exact sent

/-- A request that succeeds was answered with success. -/
theorem trace_send_ok {d : Http.Draft} {es : List (Event host)} {response : Http.Response}
    (run : Trace (c.send operation scope d).run es (some (.ok response))) :
    ∃ request, Aims d request ∧ (⟨.exchange request, .ok response⟩ : Event host) ∈ es ∧
      response.isSuccess = true := by
  obtain ⟨-, f, ⟨⟩⟩ | ⟨early, request, reply, rfl, -, aims, ended⟩ := trace_send run
  obtain f | answer := reply
  · cases ended
  · cases success : answer.isSuccess with
    | false => simp [answered, success] at ended
    | true =>
      simp only [answered, success, if_true] at ended
      cases ended
      exact ⟨request, aims, by simp, success⟩

end

end ScanProvisioning.Azure
