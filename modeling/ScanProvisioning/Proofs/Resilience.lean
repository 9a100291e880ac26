import ScanProvisioning.Proofs.Azure.Weathering
import ScanProvisioning.Proofs.Docker.Weathering

namespace ScanProvisioning

open Program

/-- Every exchange that fails on the way makes its call fail in a way that is retried, unless nothing of what
was lost would have been read. -/
structure Resilient (admits : Http.Response → Prop) : Prop where
  azure : ∀ (a : Azure.Account) (c : ClientCall),
    Withstands (Azure.hazard admits) (Retried c) (a.answer c)
  docker : ∀ (c : Docker.Config) (call : ClientCall),
    Withstands (Docker.hazard admits) (Retried call) (c.answer call)
  tasks : ∀ (t : Docker.Task) request reply, Http.Broken admits request reply →
    (∃ f, t.result reply = .error f ∧ f.verdict = .retry transientDelay f.text) ∨
      ∀ other, Http.Instead reply other → t.result other = t.result reply

section

open Azure

/-- A look at a snapshot of an account whose token was issued beforehand. -/
def sampleLook : Program Azure.host (Except Failure Observation) := (issuedAccount.observe .snapshot "snap").run

def looking : String := "getting " ++ ResourceType.snapshot.label

/-- A response with success decides the look by its body. -/
theorem exists_look : ∃ request, request.method = .get ∧ ∀ r : Http.Response, r.isSuccess = true →
    Trace sampleLook [⟨.requestId, "id"⟩, ⟨.exchange request, .ok r⟩]
      (some (readJson looking r >>= Management.observation looking "snap")) := by
  obtain ⟨request, built⟩ : ∃ request, Http.Draft.header "x-ms-client-request-id" "id"
      (Http.Draft.header "authorization" ("Bearer " ++ "token") (Http.Draft.query []
        (Management.draft .get (Management.address (issuedAccount.id .snapshot "snap")
          ResourceType.snapshot.version)))) = .ok request :=
    exists_ok_of_isOk (by decide +kernel)
  obtain ⟨drafted, same, method, -⟩ :=
    sameTarget_header (sameTarget_header (sameTarget_query (sameTarget_refl _) _) _ _) _ _ request built
  refine ⟨request, method.trans (Http.draft_method same), ?_⟩
  intro r success
  have sent : Trace ((Credential.issued "token").send looking .management _).run _ _ :=
    trace_send_issued built (.ok r)
  have read : Trace (issuedAccount.look .snapshot "snap" []).run
      [⟨.requestId, "id"⟩, ⟨.exchange request, .ok r⟩] (some (readJson looking r)) := by
    unfold Account.look Management.getJson
    simp only [json_eq_settle]
    refine trace_bindPure_iff.mpr ⟨_, sent, ?_⟩
    simp only [answered, success, if_true]
    rfl
  exact trace_bindPure_iff.mpr ⟨_, read, rfl⟩

private theorem exists_description : ∃ text v id, Json.ofText text = .ok v ∧ v.string? "id" = some id := by
  have parsed : ((Json.ofText "\x7b\"id\":\"/snap\"\x7d").toOption.bind (Json.string? "id")).isSome = true := by
    decide +kernel
  obtain ⟨id, found⟩ := Option.isSome_iff_exists.mp parsed
  obtain ⟨v, read, known⟩ := Option.bind_eq_some_iff.mp found
  refine ⟨"\x7b\"id\":\"/snap\"\x7d", v, id, ?_, known⟩
  cases result : Json.ofText "\x7b\"id\":\"/snap\"\x7d" with
  | error fault =>
    rw [result] at read
    cases read
  | ok w =>
    rw [result] at read
    cases read
    rfl

/-- A body that says what the snapshot is makes the look succeed. -/
theorem look_succeeds {r : Http.Response} {text id : String} {v : Json} (body : r.body = .ok text)
    (read : Json.ofText text = .ok v) (known : v.string? "id" = some id) :
    (readJson looking r >>= Management.observation looking "snap").isOk = true := by
  have json : r.json = .ok v := by
    unfold Http.Response.json
    rw [body]
    dsimp only [Bind.bind, Except.bind]
    rw [read]
    rfl
  have described : readJson looking r = .ok v := by
    rw [readJson, json]
  rw [described]
  change (Management.observation looking "snap" v).isOk = true
  rw [Management.observation, known]
  rfl

/-- What weathers everything that is admitted has been spared the loss of a body that it reads. -/
theorem arrives_of_withstands {admits : Http.Response → Prop}
    (withstands : Withstands (Azure.hazard admits) (Retried (.observe .snapshot "snap")) sampleLook) :
    Http.Arrives admits := by
  intro r f admitted success lost
  obtain ⟨request, get, look⟩ := exists_look
  have failed : readJson looking r = .error (.unreadable looking f.message) := by
    rw [readJson, Http.Response.json, lost]
    rfl
  have struck := look r success
  rw [failed] at struck
  obtain retried | unnoticed := withstands [⟨.requestId, "id"⟩] (.exchange request) (.ok r) [] _ struck
    ⟨success, ⟨f, lost⟩, fun _ => admitted⟩
  · obtain ⟨g, same, verdict⟩ := retried
    cases same
    cases verdict
  · obtain ⟨text, v, id, read, known⟩ := exists_description
    have fine := look { r with body := .ok text } success
    have same := fine.unique (unnoticed _ ⟨_, rfl⟩)
    have succeeds := look_succeeds (r := { r with body := .ok text }) rfl read known
    rw [same] at succeeds
    cases succeeds

end

/-- Exchanges that fail on the way are retried wherever they strike, exactly where no body of a lookup is
lost. -/
theorem resilient_iff (admits : Http.Response → Prop) : Resilient admits ↔ Http.Arrives admits := by
  constructor
  · intro resilient
    exact arrives_of_withstands (resilient.azure Azure.issuedAccount (.observe .snapshot "snap"))
  · intro arrives
    constructor
    case azure => exact fun a c => (Azure.answer_weathers a arrives c).withstands
    case docker => exact fun c call => (Docker.answer_weathers c arrives call).withstands
    case tasks =>
      intro t request reply broken
      refine (Docker.Task.weathers broken).imp_left ?_
      intro lost
      obtain ⟨operation, message, timedOut, same⟩ := lost
      exact ⟨_, same, rfl⟩

/-- A look whose answer is cut off in its body is given up. -/
theorem look_not_resilient : ¬ Withstands (Azure.hazard fun _ => True)
    (Retried (.observe .snapshot "snap")) (Azure.issuedAccount.answer (.observe .snapshot "snap")) := by
  intro withstands
  exact arrives_of_withstands withstands { status := 200, headers := [], body := .error .undecodable } _ trivial
    (by decide) rfl

end ScanProvisioning
