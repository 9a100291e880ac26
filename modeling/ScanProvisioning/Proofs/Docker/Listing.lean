import ScanProvisioning.Docker.Clients
import ScanProvisioning.Proofs.Trace

namespace ScanProvisioning.Docker

open Program

variable {c : Config} {operation path : String} {es : List (Event host)}

/-- What the answer to a question comes to. -/
def answerOf (operation : String) (reply : Except Http.Failure Http.Response) : Except Failure Json :=
  accepted operation reply >>= fun r => r.json.mapError fun f => .unreadable operation f.message

/-- The engine is asked once, if the request can be built at all. -/
theorem trace_getJson_iff {answer : Except Failure Json} :
    Trace (Engine.getJson c operation path).run es (some answer) ↔
      (∃ f, c.draft .get path = .error f ∧ es = [] ∧
        answer = .error (.unreachable operation f.message f.timedOut)) ∨
      ∃ request reply, c.draft .get path = .ok request ∧ es = [⟨.exchange request, reply⟩] ∧
        answer = answerOf operation reply := by
  have read : Engine.getJson c operation path = Engine.send operation (c.draft .get path) >>= fun r =>
      ExceptT.mk (pure (r.json.mapError fun f => .unreadable operation f.message)) := by
    refine congrArg (Bind.bind (Engine.send operation (c.draft .get path))) (funext fun r => ?_)
    cases r.json <;> rfl
  rw [read, trace_bindPure_iff]
  cases c.draft .get path with
  | error f =>
    constructor
    · rintro ⟨first, run, rfl⟩
      cases run
      exact .inl ⟨f, rfl, rfl, rfl⟩
    · rintro (⟨f, ⟨⟩, rfl, rfl⟩ | ⟨request, reply, ⟨⟩, -⟩)
      exact ⟨_, .done _, rfl⟩
  | ok request =>
    constructor
    · rintro ⟨first, run, rfl⟩
      cases run with
      | ask reply run =>
        cases run
        exact .inr ⟨request, reply, rfl, rfl, rfl⟩
    · rintro (⟨f, ⟨⟩, -⟩ | ⟨request, reply, ⟨⟩, rfl, rfl⟩)
      exact ⟨_, .ask reply (.done _), rfl⟩

def listing : String := "listing containers"

/-- The containers in what an engine answers. -/
def containersOf (c : Config) (body : Json) : Except Failure (List Asset) :=
  match body.asArray? with
  | some containers => .ok (containers.filterMap (asset? c.location))
  | none => .error (.unreadable listing "expected an array")

theorem listAssets_eq (c : Config) :
    c.listAssets = Engine.getJson c listing "/containers/json" >>= fun body =>
      ExceptT.mk (pure (containersOf c body)) := by
  refine congrArg (Bind.bind (Engine.getJson c listing "/containers/json")) (funext fun body => ?_)
  rw [containersOf]
  cases body.asArray? <;> rfl

/-- The containers are those in the answer, or the failure to get one. -/
theorem trace_listAssets_iff {assets : Except Failure (List Asset)} :
    Trace c.listAssets.run es (some assets) ↔
      (∃ f, c.draft .get "/containers/json" = .error f ∧ es = [] ∧
        assets = .error (.unreachable listing f.message f.timedOut)) ∨
      ∃ request reply, c.draft .get "/containers/json" = .ok request ∧ es = [⟨.exchange request, reply⟩] ∧
        assets = answerOf listing reply >>= containersOf c := by
  rw [listAssets_eq, trace_bindPure_iff]
  simp only [trace_getJson_iff]
  constructor
  · rintro ⟨answer, ⟨f, broken, rfl, rfl⟩ | ⟨request, reply, built, rfl, rfl⟩, rfl⟩
    · exact .inl ⟨f, broken, rfl, rfl⟩
    · exact .inr ⟨request, reply, built, rfl, rfl⟩
  · rintro (⟨f, broken, rfl, rfl⟩ | ⟨request, reply, built, rfl, rfl⟩)
    · exact ⟨_, .inl ⟨f, broken, rfl, rfl⟩, rfl⟩
    · exact ⟨_, .inr ⟨request, reply, built, rfl, rfl⟩, rfl⟩

end ScanProvisioning.Docker
