import ScanProvisioning.Failure
import ScanProvisioning.Http.Message
import ScanProvisioning.Instant
import ScanProvisioning.Program

namespace ScanProvisioning.Azure

/-- What a token is good for. -/
inductive Scope
  | management
  | storage
  deriving DecidableEq, Repr

namespace Scope

def name : Scope → String
  | management => "management"
  | storage => "storage"

def address : Scope → String
  | management => "https://management.azure.com/.default"
  | storage => "https://storage.azure.com/.default"

end Scope

structure CachedToken where
  token : String
  expiresAt : Instant
  deriving DecidableEq

inductive Call
  | exchange (request : Http.Request)
  | wait (d : Duration)
  /-- An id that no other request has. -/
  | requestId
  | readFile (path : String)
  /-- The present, on the clock by which tokens expire. -/
  | clock
  /-- The token remembered for a scope. -/
  | tokenFor (scope : Scope)
  | keepToken (scope : Scope) (token : CachedToken)
  /-- An instant left its range; there is no answer. -/
  | overflow
  /-- A listing went on for longer than any listing; there is no answer. -/
  | unending
  deriving DecidableEq

@[reducible] def Call.Reply : Call → Type
  | exchange _ => Except Http.Failure Http.Response
  | wait _ => Unit
  | requestId => String
  | readFile _ => Except String String
  | clock => Instant
  | tokenFor _ => Option CachedToken
  | keepToken .. => Unit
  | overflow => Empty
  | unending => Empty

abbrev host : Interface := ⟨Call, Call.Reply⟩

/-- A program on a host that ends in a value or a failure. -/
abbrev Action (α : Type) := ExceptT Failure (Program host) α

namespace Action

def ask (c : Call) : Action c.Reply := ExceptT.lift (Program.call (I := host) c)

def settle {α : Type} (r : Except Failure α) : Action α := ExceptT.mk (pure r)

def exchange (operation : String) (d : Http.Draft) : Action Http.Response := do
  match d with
  | .error f => throw (.unreachable operation f.message f.timedOut)
  | .ok request =>
    match ← ask (.exchange request) with
    | .error f => throw (.unreachable operation f.message f.timedOut)
    | .ok response => return response

def json (operation : String) (r : Http.Response) : Action Json :=
  match r.json with
  | .ok v => return v
  | .error f => throw (.unreadable operation f.message)

end Action

end ScanProvisioning.Azure
