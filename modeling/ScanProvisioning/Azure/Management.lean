import ScanProvisioning.Azure.Identity
import ScanProvisioning.Azure.StorageRefusal
import ScanProvisioning.Resource

namespace ScanProvisioning.Azure

open Json.Decoder (record field optionalField required withDefault string)

/-- Code and message of a refusal by the resource manager. -/
def refusalDetailDecoder : Json.Decoder (String × String) := fun d => do
  let found ← record "ArmErrorDetail" [field "code" string, optionalField "message" string] d
  return (← required found "code" string, ← withDefault found "message" string "")

def refusalDecoder : Json.Decoder (String × String) := fun d => do
  let found ← record "ArmErrorResponse" [field "error" refusalDetailDecoder] d
  required found "error" refusalDetailDecoder

/-- The failure that a refused request to the resource manager comes to. -/
def managementRefusal (operation : String) (status : UInt16) (body : String) : Failure :=
  match Json.Decoder.ofText refusalDecoder body with
  | .ok (code, message) => .refusal operation status (some code) message
  | .error _ => .refusal operation status none body

/-- The failure that a refused request comes to, with the server's hint when to come back. -/
def refusalOf (operation : String) (scope : Scope) (r : Http.Response) : Failure :=
  let body := r.text.toOption.getD ""
  (match scope with
    | .management => managementRefusal operation r.status body
    | .storage => storageRefusal operation r.status (r.header? "x-ms-error-code") body).withRetryAfter
      r.retryAfter

/-- How long to wait for an answer. -/
def requestTimeout : Duration := .ofSeconds 30

def Credential.identity (c : Credential) : Identity := { credential := c, timeout := some requestTimeout }

namespace Credential

open ScanProvisioning.Azure.Action

def send (c : Credential) (operation : String) (scope : Scope) (d : Http.Draft) : Action Http.Response := do
  let token ← c.identity.token scope
  let id ← ask .requestId
  let d := d |> Http.Draft.header "authorization" ("Bearer " ++ token)
    |> Http.Draft.header "x-ms-client-request-id" id
  let response ← exchange operation d
  if response.isSuccess then return response
  throw (refusalOf operation scope response)

end Credential

namespace Management

open ScanProvisioning.Azure.Action

def draft (method : Http.Method) (address : String) : Http.Draft :=
  Http.Request.draft method address (some requestTimeout)

def address (path version : String) : String :=
  "https://management.azure.com" ++ path ++ "?api-version=" ++ version

def getJson (c : Credential) (operation path version : String) (query : List (String × String)) :
    Action Json := do
  let d := Http.Draft.query query (draft .get (address path version))
  Action.json operation (← c.send operation .management d)

def put (c : Credential) (operation path version : String) (body : Json) : Action Unit := do
  discard (c.send operation .management (Http.Draft.json body (draft .put (address path version))))

def delete (c : Credential) (operation path version : String) : Action Unit := do
  discard (c.send operation .management (draft .delete (address path version)))

def pageItems (page : Json) : List Json := ((page.get? "value").bind Json.asArray?).getD []

/-- The items of a page and of all pages after it, of at most `pages` pages. -/
def listFrom (c : Credential) (operation : String) :
    (pages : Nat) → (address : String) → Action (List Json)
  | 0, _ => do (← ask .unending).elim
  | pages + 1, address => do
    let page ← Action.json operation (← c.send operation .management (draft .get address))
    match page.string? "nextLink" with
    | none => return pageItems page
    | some next => return pageItems page ++ (← listFrom c operation pages next)

/-- More pages than any listing has. -/
def pageLimit : Nat := UInt64.size

def list (c : Credential) (operation path version : String) : Action (List Json) :=
  listFrom c operation pageLimit (address path version)

def optionalJson (operation : String) (r : Http.Response) : Action (Option Json) :=
  match r.text with
  | .error f => throw (.unreachable operation f.message f.timedOut)
  | .ok text =>
    if Text.trim text = "" then return none
    else
      match Json.ofText text with
      | .ok v => return some v
      | .error f => throw (.unreadable operation f.message)

/-- What a look at a long operation finds. -/
inductive Progress
  | running
  | succeeded (output : Option Json)

def progressOf (operation : String) (report : Json) : Except Failure Progress :=
  match report.string? "status" with
  | none => .error (.unreadable operation "operation status missing")
  | some "Succeeded" =>
    .ok (.succeeded (match report.at? ["properties", "output"] with
      | some output => some output
      | none => report.get? "properties"))
  | some status =>
    if status = "Failed" ∨ status = "Canceled" then
      .error (.refusal operation 500 (report.stringAt? ["error", "code"])
        ((report.stringAt? ["error", "message"]).getD status))
    else .ok .running

/-- Where a long operation reports. -/
inductive Watch
  /-- Reports say how the operation goes. -/
  | report (address : String)
  /-- The status of the answer says whether it is over. -/
  | result (address : String)

namespace Watch

def address : Watch → String
  | report address => address
  | result address => address

def ofResponse (r : Http.Response) : Option Watch :=
  match r.header? "azure-asyncoperation", r.header? "location" with
  | some address, _ => some (report address)
  | none, some address => some (result address)
  | none, none => none

def progress (operation : String) (r : Http.Response) : Watch → Action Progress
  | report _ => do settle (progressOf operation (← Action.json operation r))
  | result _ =>
    if r.status = 202 then return .running else return .succeeded (← optionalJson operation r)

end Watch

/-- How often a long operation is looked at in one call. -/
def pollLimit : Nat := 30

/-- The wait between looks where the server does not say. -/
def pollInterval : Duration := .ofSeconds 2

def nextDelay (r : Http.Response) : Duration := r.retryAfter.getD pollInterval

/-- Look at a long operation after a delay, and at most `left` times, until it is over. -/
def watch (c : Credential) (operation : String) (w : Watch) :
    (left : Nat) → (delay : Duration) → Action (Option Json)
  | 0, _ =>
    throw (.unreachable operation
      ("operation still running after " ++ toString pollLimit ++ " status polls") true)
  | left + 1, delay => do
    ask (.wait delay)
    let response ← c.send operation .management (draft .get w.address)
    match ← w.progress operation response with
    | .succeeded output => return output
    | .running => watch c operation w left (nextDelay response)

def awaitOperation (c : Credential) (operation : String) (r : Http.Response) : Action (Option Json) :=
  if r.status = 202 then
    match Watch.ofResponse r with
    | none => return none
    | some w => watch c operation w pollLimit (nextDelay r)
  else optionalJson operation r

/-- Order an action on a resource and wait for its output. -/
def post (c : Credential) (operation path action version : String) (body : Json) : Action (Option Json) := do
  let d := Http.Draft.json body (draft .post (address (path ++ "/" ++ action) version))
  awaitOperation c operation (← c.send operation .management d)

def provisioningState (v : Json) : ResourceState × String :=
  let status := (v.stringAt? ["properties", "provisioningState"]).getD "Unknown"
  let state : ResourceState := match status with
    | "Succeeded" => .ready
    | "Failed" => .failed
    | "Canceled" => .failed
    | _ => .provisioning
  (state, status)

def observation (operation name : String) (v : Json) : Except Failure Observation :=
  match v.string? "id" with
  | none => .error (.unreadable operation "resource id missing")
  | some id =>
    let (state, status) := provisioningState v
    .ok { handle := { name, id }, state, status }

end Management

end ScanProvisioning.Azure
