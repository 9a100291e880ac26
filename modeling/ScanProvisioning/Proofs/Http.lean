import ScanProvisioning.Http.Message

namespace ScanProvisioning.Http

theorem draft_method {method : Method} {address : String} {timeout : Option Duration}
    {request : Request} (built : Request.draft method address timeout = .ok request) :
    request.method = method := by
  unfold Request.draft at built
  cases parsed : Url.parse address with
  | ok url =>
    rw [parsed] at built
    cases built
    rfl
  | error fault =>
    rw [parsed] at built
    cases fault <;> cases built

/-- An exchange that fails on the way, before there is a response or while the body of one that reports
success arrives. Of the bodies of answers to lookups, only those that are admitted. -/
def Broken (admits : Response → Prop) (request : Request) : Except Failure Response → Prop
  | .error _ => True
  | .ok r => r.isSuccess = true ∧ (∃ f, r.body = .error f) ∧ (request.method = .get → admits r)

/-- No body of an answer to a lookup that reports success is admitted unless it has arrived. -/
def Arrives (admits : Response → Prop) : Prop := ∀ r f, admits r → r.isSuccess = true → r.body ≠ .error f

theorem Arrives.not_broken {admits : Response → Prop} {request : Request} {r : Response}
    (arrives : Arrives admits) (lookup : request.method = .get) : ¬ Broken admits request (.ok r) := by
  rintro ⟨success, ⟨f, lost⟩, admitted⟩
  exact arrives r f (admitted lookup) success lost

/-- What could have come instead: anything where nothing came, else the same response with another body. -/
def Instead : Except Failure Response → Except Failure Response → Prop
  | .error _, _ => True
  | .ok r, reply => ∃ body, reply = .ok { r with body }

end ScanProvisioning.Http
