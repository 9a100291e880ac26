import ScanProvisioning.Docker.Body
import ScanProvisioning.Docker.Engine
import ScanProvisioning.Provider

namespace ScanProvisioning.Docker

/-- The container that fills a volume. -/
def fillerName (volume : String) : String := volume ++ "-populate"

/-- How soon to come back while an image is pulled. -/
def pullHint : Duration := .ofSeconds 10

def requiredText (operation member : String) (v : Json) : Except Failure String :=
  match v.string? member with
  | some s => .ok s
  | none => .error (.unreadable operation (member ++ " missing"))

/-- The asset that a listed container is, unless it belongs to a scan. -/
def asset? (location : String) (v : Json) : Option Asset := do
  let name ← ((v.get? "Names").bind Json.asArray?).bind fun names => names.head?.bind Json.asString?
  let name := Text.dropLeading '/' name
  if Names.isScanResource name then none
  return .container (← v.string? "Id") name ((v.string? "Image").getD "") location

namespace Config

open ScanProvisioning.Docker.Action

variable (c : Config)

def observeSnapshot (name : String) : Action Observation := do
  match ← ask (.task (.commit name)) with
  | some .running =>
    return { handle := { name, id := name }, state := .provisioning, status := "committing" }
  | some (.failed f) =>
    return { handle := { name, id := name }, state := .failed, status := "commit failed: " ++ f.text }
  | none =>
    let operation := "inspecting snapshot image"
    let image ← Engine.getJson c operation ("/images/" ++ name ++ "/json")
    return {
      handle := { name, id := ← settle (requiredText operation "Id" image) }
      state := .ready
      status := "committed" }

def createSnapshot (name : String) (s : SnapshotSpec) : Action Unit := do
  ask (.start (.commit name) (Task.commitRequest c s.sourceVolume name))

/-- An image under way would appear after its removal, so removal waits for it. -/
def deleteSnapshot (name : String) : Action Unit := do
  let operation := "removing snapshot image"
  match ← ask (.task (.commit name)) with
  | some .running =>
    throw (.refusal operation 409 (some "CommitInProgress") (name ++ " is still being committed"))
  | some (.failed _) =>
    ask (.forget (.commit name))
    Engine.delete c operation ("/images/" ++ name)
  | none => Engine.delete c operation ("/images/" ++ name)

/-- A volume counts as absent until its filler has been created. -/
def observeVolume (name : String) : Action Observation := do
  let operation := "inspecting volume"
  discard (Engine.getJson c operation ("/volumes/" ++ name))
  match ← outcome (Engine.getJson c operation ("/containers/" ++ fillerName name ++ "/json")) with
  | .ok filler =>
    let (state, status) := containerState filler
    return { handle := { name, id := name }, state, status := "populate " ++ status }
  | .error f =>
    if Failure.hasStatus 404 f then
      return { handle := { name, id := name }, state := .absent, status := "not populated" }
    throw f

/-- Go on where an action succeeds or is refused with a status that does not matter. -/
def tolerate (status : UInt16) (x : Action Unit) : Action Unit := do
  match ← outcome x with
  | .ok () => return
  | .error f => if Failure.hasStatus status f then return else throw f

def createVolume (name : String) (s : VolumeSpec) : Action Unit := do
  let operation := "creating volume"
  match s.source with
  | .staged _ =>
    throw (.unsupported operation "docker volumes cannot be imported from a staged copy")
  | .snapshot image =>
    discard (Engine.send operation (Http.Draft.json (Body.volume name) (c.draft .post "/volumes/create")))
    tolerate 409 (Engine.createContainer c operation (fillerName name) (Body.filler name image.id))
    Engine.startOrDiscard c operation (fillerName name)

def deleteVolume (name : String) : Action Unit := do
  tolerate 404 (Engine.delete c "removing populate container" ("/containers/" ++ fillerName name))
  Engine.delete c "removing volume" ("/volumes/" ++ name)

def observeScanner (name : String) : Action Observation := do
  let operation := "inspecting scanner container"
  let container ← Engine.getJson c operation ("/containers/" ++ name ++ "/json")
  let id ← settle (requiredText operation "Id" container)
  let (state, status) := containerState container
  return { handle := { name, id }, state, status }

/-- Start to pull an image and ask to come back later, or report the pull that has failed before. -/
def pull (image : String) : Action Unit := do
  match ← ask (.task (.pull image)) with
  | some (.failed f) =>
    ask (.forget (.pull image))
    throw f
  | _ =>
    ask (.start (.pull image) (Task.pullRequest c image))
    throw (.refused Task.pulling 409 (some "ImagePullInProgress") ("image " ++ image ++ " is being pulled")
      (some pullHint))

def createScanner (name : String) (s : ScannerSpec) : Action Unit := do
  let operation := "creating scanner container"
  match ← outcome (Engine.createContainer c operation name (Body.scanner s)) with
  | .ok () => Engine.startOrDiscard c operation name
  | .error f => if Failure.hasStatus 404 f then c.pull s.image else throw f

def deleteScanner (name : String) : Action Unit :=
  Engine.delete c "removing scanner container" ("/containers/" ++ name)

def listAssets : Action (List Asset) := do
  let operation := "listing containers"
  match (← Engine.getJson c operation "/containers/json").asArray? with
  | some containers => return containers.filterMap (asset? c.location)
  | none => throw (.unreadable operation "expected an array")

def noClient {α : Type} (what : String) : Action α := throw (.unsupported "looking up a client" what)

def observe (kind : ResourceKind) (name : String) : Action Observation :=
  match kind with
  | .snapshot => c.observeSnapshot name
  | .volume => c.observeVolume name
  | .scanner => c.observeScanner name
  | .networkInterface => noClient "docker has no network interfaces"
  | .stagedCopy => noClient "docker has no staged copies"

def create (name : String) : ResourceSpec → Action Unit
  | .snapshot s => c.createSnapshot name s
  | .volume s => c.createVolume name s
  | .scanner s => c.createScanner name s
  | .networkInterface _ => noClient "docker has no network interfaces"

def delete (kind : ResourceKind) (name : String) : Action Unit :=
  match kind with
  | .snapshot => c.deleteSnapshot name
  | .volume => c.deleteVolume name
  | .scanner => c.deleteScanner name
  | .networkInterface => noClient "docker has no network interfaces"
  | .stagedCopy => noClient "docker has no staged copies"

def answer : (call : ClientCall) → Program host call.Reply
  | .observe kind name => (c.observe kind name).run
  | .create name spec => (c.create name spec).run
  | .delete kind name => (c.delete kind name).run
  | .grantAccess .. => (noClient "docker has no staged copies" : Action AccessUrl).run
  | .revokeAccess _ => (noClient "docker has no staged copies" : Action Unit).run
  | .copyStatus _ => (noClient "docker has no staged copies" : Action CopyProgress).run
  | .startCopy .. => (noClient "docker has no staged copies" : Action Unit).run
  | .deleteCopy _ => (noClient "docker has no staged copies" : Action Unit).run
  | .listAssets => c.listAssets.run

end Config

def provider : Provider where
  kind := .docker
  facilities := { hasNetwork := false, store := none }
  timing := .localRuntime

end ScanProvisioning.Docker
