import ScanProvisioning.Azure.Body
import ScanProvisioning.Azure.Management
import ScanProvisioning.Client
import ScanProvisioning.Provider

namespace ScanProvisioning.Azure

/-- A kind of resource at the resource manager. -/
structure ResourceType where
  /-- Provider and type. -/
  path : String
  version : String
  /-- The resource in the names of operations. -/
  label : String

namespace ResourceType

def snapshot : ResourceType := ⟨"Microsoft.Compute/snapshots", "2023-04-02", "snapshot"⟩

def disk : ResourceType := ⟨"Microsoft.Compute/disks", "2023-04-02", "disk"⟩

def networkInterface : ResourceType :=
  ⟨"Microsoft.Network/networkInterfaces", "2023-09-01", "network interface"⟩

def machine : ResourceType := ⟨"Microsoft.Compute/virtualMachines", "2023-09-01", "scanner vm"⟩

end ResourceType

/-- A machine is ready once it is provisioned and runs. -/
def machineObservation (name : String) (v : Json) : Except Failure Observation := do
  let seen ← Management.observation "getting scanner vm" name v
  if seen.state ≠ .ready then return seen
  let statuses := ((v.at? ["properties", "instanceView", "statuses"]).bind Json.asArray?).getD []
  let power := (statuses.filterMap (·.string? "code")).find? (Text.beginsWith "PowerState/")
  let power := power.getD "PowerState/unknown"
  if power = "PowerState/running" then return seen
  return { seen with state := .provisioning, status := power }

def grantedAddress? (output : Json) : Option String :=
  ([["accessSAS"], ["output", "accessSAS"], ["properties", "output", "accessSAS"]].findSome? fun path =>
    output.at? path).bind Json.asString?

/-- The asset that a listed machine is, unless it belongs to a scan. -/
def asset? (v : Json) : Option Asset := do
  let name ← v.string? "name"
  if Names.isScanResource name then none
  return .virtualMachine (← v.string? "id") name (← v.string? "location")
    (v.stringAt? ["properties", "storageProfile", "osDisk", "managedDisk", "id"])

namespace Account

open ScanProvisioning.Azure.Action

variable (a : Account)

def id (t : ResourceType) (name : String) : String := a.config.resourceId t.path name

def look (t : ResourceType) (name : String) (query : List (String × String)) : Action Json :=
  Management.getJson a.credential ("getting " ++ t.label) (a.id t name) t.version query

def observeAs (t : ResourceType) (name : String) : Action Observation := do
  settle (Management.observation ("getting " ++ t.label) name (← a.look t name []))

def observeMachine (name : String) : Action Observation := do
  settle (machineObservation name (← a.look .machine name [("$expand", "instanceView")]))

def createAs (t : ResourceType) (name : String) (body : Json) : Action Unit :=
  Management.put a.credential ("creating " ++ t.label) (a.id t name) t.version body

def createMachine (name : String) (s : ScannerSpec) : Action Unit := do
  a.createAs .machine name (← settle (Body.machine a.config name s))

def deleteAs (t : ResourceType) (name : String) : Action Unit :=
  Management.delete a.credential ("deleting " ++ t.label) (a.id t name) t.version

def grantAccess (snapshot : String) (ttl : Duration) : Action AccessUrl := do
  let operation := "granting snapshot access"
  let output ← Management.post a.credential operation (a.id .snapshot snapshot) "beginGetAccess"
    ResourceType.snapshot.version
    (.object [("access", .str "Read"), ("durationInSeconds", .ofNat ttl.seconds)])
  match output.bind grantedAddress? with
  | some address => return ⟨address⟩
  | none => throw (.unreadable operation "no accessSAS in grant result")

def revokeAccess (snapshot : String) : Action Unit := do
  discard (Management.post a.credential "revoking snapshot access" (a.id .snapshot snapshot)
    "endGetAccess" ResourceType.snapshot.version (.object []))

def objectUrl (name : String) : String :=
  "https://" ++ a.config.storageAccount ++ ".blob.core.windows.net/" ++ a.config.storageContainer ++ "/" ++
    Text.pathPart name

def objectRequest (method : Http.Method) (name : String) : Http.Draft :=
  Http.Draft.header "x-ms-version" "2021-08-06"
    (Http.Request.draft method (a.objectUrl name) (some requestTimeout))

def copyReport (operation : String) (r : Http.Response) : Except Failure CopyProgress :=
  match r.header? "x-ms-copy-status" with
  | none => .error (.unreadable operation "blob has no copy status")
  | some status =>
    match CopyStatus.ofName? status with
    | none => .error (.unreadable operation ("unknown copy status " ++ Text.quoted status))
    | some known => .ok (.ofReport known (r.header? "x-ms-copy-progress"))

def copyStatus (name : String) : Action CopyProgress := do
  let operation := "getting staged copy"
  settle (copyReport operation (← a.credential.send operation .storage (a.objectRequest .head name)))

def startCopy (name : String) (source : AccessUrl) : Action Unit := do
  discard (a.credential.send "starting staged copy" .storage
    (a.objectRequest .put name |> Http.Draft.header "x-ms-copy-source" source.url
      |> Http.Draft.header "content-length" "0"))

def deleteCopy (name : String) : Action Unit := do
  discard (a.credential.send "deleting staged copy" .storage
    (a.objectRequest .delete name |> Http.Draft.header "x-ms-delete-snapshots" "include"))

def listAssets : Action (List Asset) := do
  let path := "/subscriptions/" ++ a.config.subscription ++ "/providers/" ++ ResourceType.machine.path
  let machines ← Management.list a.credential "listing virtual machines" path ResourceType.machine.version
  return machines.filterMap asset?

def noClient {α : Type} : Action α :=
  throw (.unsupported "looking up a client" "staged copies are not resources")

def observe (kind : ResourceKind) (name : String) : Action Observation :=
  match kind with
  | .snapshot => a.observeAs .snapshot name
  | .volume => a.observeAs .disk name
  | .networkInterface => a.observeAs .networkInterface name
  | .scanner => a.observeMachine name
  | .stagedCopy => noClient

def create (name : String) : ResourceSpec → Action Unit
  | .snapshot s => a.createAs .snapshot name (Body.snapshot s)
  | .volume s => a.createAs .disk name (Body.disk s)
  | .networkInterface s => a.createAs .networkInterface name (Body.networkInterface a.config.subnet s)
  | .scanner s => a.createMachine name s

def delete (kind : ResourceKind) (name : String) : Action Unit :=
  match kind with
  | .snapshot => a.deleteAs .snapshot name
  | .volume => a.deleteAs .disk name
  | .networkInterface => a.deleteAs .networkInterface name
  | .scanner => a.deleteAs .machine name
  | .stagedCopy => noClient

def answer : (c : ClientCall) → Program host c.Reply
  | .observe kind name => (a.observe kind name).run
  | .create name spec => (a.create name spec).run
  | .delete kind name => (a.delete kind name).run
  | .grantAccess snapshot ttl => (a.grantAccess snapshot ttl).run
  | .revokeAccess snapshot => (a.revokeAccess snapshot).run
  | .copyStatus name => (a.copyStatus name).run
  | .startCopy name source => (a.startCopy name source).run
  | .deleteCopy name => (a.deleteCopy name).run
  | .listAssets => a.listAssets.run

def store : StagingStore where
  objectUrl := a.objectUrl
  storageAccountId := a.config.storageAccountId

def provider : Provider where
  kind := .azure
  facilities := { hasNetwork := true, store := some a.store }
  timing := .cloud

end Account

end ScanProvisioning.Azure
