import ScanProvisioning.Docker.Host
import ScanProvisioning.Json.Decoder
import ScanProvisioning.Resource

namespace ScanProvisioning.Docker

open Json.Decoder (record field required string)

def messageDecoder : Json.Decoder String := fun d => do
  required (← record "EngineError" [field "message" string] d) "message" string

def refusal (operation : String) (status : UInt16) (body : String) : Failure :=
  let message := match Json.Decoder.ofText messageDecoder body with
    | .ok message => message
    | .error _ => body
  let code := match status with
    | 404 => some "NotFound"
    | 409 => some "Conflict"
    | _ => none
  .refusal operation status code message

def Failure.hasStatus (status : UInt16) : Failure → Bool
  | .refused _ s .. => s = status
  | _ => false

/-- How long to wait for an answer. -/
def requestTimeout : Duration := .ofSeconds 30

namespace Config

def draft (c : Config) (method : Http.Method) (path : String) : Http.Draft :=
  Http.Request.draft method (c.endpoint ++ "/v1.43" ++ path) (some requestTimeout)

end Config

/-- The response to a request, unless the engine refuses it. What is done already is no refusal. -/
def accepted (operation : String) : Except Http.Failure Http.Response → Except Failure Http.Response
  | .error f => .error (.unreachable operation f.message f.timedOut)
  | .ok r =>
    if r.isSuccess ∨ r.status = 304 then .ok r
    else .error (refusal operation r.status (r.text.toOption.getD ""))

namespace Engine

open ScanProvisioning.Docker.Action

def send (operation : String) (d : Http.Draft) : Action Http.Response := do
  match d with
  | .error f => throw (.unreachable operation f.message f.timedOut)
  | .ok request => settle (accepted operation (← ask (.exchange request)))

def getJson (c : Config) (operation path : String) : Action Json := do
  match (← send operation (c.draft .get path)).json with
  | .ok v => return v
  | .error f => throw (.unreadable operation f.message)

def delete (c : Config) (operation path : String) : Action Unit := do
  discard (send operation (Http.Draft.query [("force", "true")] (c.draft .delete path)))

def createContainer (c : Config) (operation name : String) (body : Json) : Action Unit := do
  discard (send operation
    (Http.Draft.json body (Http.Draft.query [("name", name)] (c.draft .post "/containers/create"))))

def startContainer (c : Config) (operation name : String) : Action Unit := do
  discard (send operation (c.draft .post ("/containers/" ++ name ++ "/start")))

/-- Remove a container that did not start, as far as possible, lest it stand there as created forever. -/
def discardUnstarted (c : Config) (name : String) : Action Unit := do
  discard (outcome (delete c "removing unstarted container" ("/containers/" ++ name)))

/-- Start a container; one that does not start is removed. -/
def startOrDiscard (c : Config) (operation name : String) : Action Unit := do
  match ← outcome (startContainer c operation name) with
  | .ok () => return
  | .error f =>
    discardUnstarted c name
    throw f

end Engine

/-- The first error in a stream of progress reports, one a line. -/
def streamError? (stream : String) : Option String :=
  (stream.splitOn "\n").findSome? fun line =>
    match Json.ofText line with
    | .ok report => report.string? "error"
    | .error _ => none

namespace Task

def committing : String := "committing snapshot image"

def pulling : String := "pulling scanner image"

def commitRequest (c : Config) (container image : String) : Http.Draft :=
  (c.draft .post "/commit"
    |> Http.Draft.query [("container", container), ("repo", image), ("tag", "latest"), ("pause", "false")]
    |> Http.Draft.within (.ofSeconds 300))

def pullRequest (c : Config) (image : String) : Http.Draft :=
  (c.draft .post "/images/create"
    |> Http.Draft.query [("fromImage", image)]
    |> Http.Draft.within (.ofSeconds 600))

def pullFailed (message : String) : Failure := .refusal pulling 400 (some "ImagePullFailed") message

/-- What a pull comes to. An image that the registry does not know will not appear by waiting. -/
def pullResult (r : Except Http.Failure Http.Response) : Except Failure Unit :=
  match accepted pulling r with
  | .error f =>
    match f with
    | .refused _ 404 _ message _ => .error (pullFailed message)
    | f => .error f
  | .ok response =>
    match response.text with
    | .error f => .error (.unreachable pulling f.message f.timedOut)
    | .ok stream =>
      match streamError? stream with
      | some message => .error (pullFailed message)
      | none => .ok ()

def result (t : Task) (r : Except Http.Failure Http.Response) : Except Failure Unit :=
  match t with
  | commit _ => (accepted committing r).map fun _ => ()
  | pull _ => pullResult r

def stateAfter (t : Task) (r : Except Http.Failure Http.Response) : Option TaskState :=
  match t.result r with
  | .ok () => none
  | .error f => some (.failed f)

end Task

/-- State and status of a container in its description. -/
def containerState (v : Json) : ResourceState × String :=
  let status := (v.stringAt? ["State", "Status"]).getD "unknown"
  let exitCode := ((v.at? ["State", "ExitCode"]).bind Json.asInt64?).getD 0
  let state : ResourceState := match status with
    | "running" => .ready
    | "exited" => if exitCode = 0 then .ready else .failed
    | "dead" => .failed
    | _ => .provisioning
  (state, if status = "exited" then "exited (" ++ toString exitCode ++ ")" else status)

end ScanProvisioning.Docker
