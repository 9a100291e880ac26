import ScanProvisioning.Client
import ScanProvisioning.Registry

namespace ScanProvisioning.Rehearsal

/-- Where a simulated resource is in its life; counts are looks that are left. -/
inductive Stage
  | provisioning (left : Nat)
  | ready
  | failed
  /-- Creation stopped halfway; it looks absent. -/
  | partly
  | deleting (left : Nat)
  deriving DecidableEq

/-- The simulated resources of one kind. -/
structure Pool where
  kind : ResourceKind
  provisioningPolls : Nat
  deletionPolls : Nat := 0
  resources : Registry String Stage := {}
  /-- The specs of successful creations, latest first. -/
  specs : List ResourceSpec := []
  observes : Nat := 0
  creates : Nat := 0
  deletes : Nat := 0
  /-- Every look fails like this. -/
  observeFailure : Option Failure := none
  /-- Every creation fails like this. -/
  createFailure : Option Failure := none

namespace Pool

def handle (p : Pool) (name : String) : Handle :=
  { name, id := "sim://" ++ p.kind.name ++ "/" ++ name }

def place (p : Pool) (name : String) (stage : Stage) : Pool :=
  { p with resources := p.resources.set name stage }

def seen (p : Pool) (name : String) (state : ResourceState) (status : String) :
    Except Failure Observation :=
  .ok { handle := p.handle name, state, status }

def observe (p : Pool) (name : String) : Except Failure Observation × Pool :=
  let p := { p with observes := p.observes + 1 }
  match p.observeFailure with
  | some f => (.error f, p)
  | none =>
    let gone : Except Failure Observation := .error (.missing ("getting " ++ p.kind.name))
    match p.resources.get? name with
    | none => (gone, p)
    | some (.provisioning 0) => (p.seen name .ready "Succeeded", p.place name .ready)
    | some (.provisioning (left + 1)) =>
      (p.seen name .provisioning "Creating", p.place name (.provisioning left))
    | some .ready => (p.seen name .ready "Succeeded", p)
    | some .failed => (p.seen name .failed "Failed", p)
    | some .partly => (p.seen name .absent "Incomplete", p)
    | some (.deleting 0) => (gone, { p with resources := p.resources.erase name })
    | some (.deleting (left + 1)) =>
      (p.seen name .provisioning "Deleting", p.place name (.deleting left))

/-- Start a creation; a resource that is there stays as it is. -/
def create (p : Pool) (name : String) (spec : ResourceSpec) : Except Failure Unit × Pool :=
  let p := { p with creates := p.creates + 1 }
  match p.createFailure with
  | some f => (.error f, p)
  | none =>
    let p := { p with specs := spec :: p.specs }
    match p.resources.get? name with
    | none => (.ok (), p.place name (.provisioning p.provisioningPolls))
    | some .partly => (.ok (), p.place name (.provisioning p.provisioningPolls))
    | some _ => (.ok (), p)

/-- Start a deletion; one under way goes on. -/
def delete (p : Pool) (name : String) : Except Failure Unit × Pool :=
  let p := { p with deletes := p.deletes + 1 }
  match p.resources.get? name with
  | none => (.error (.missing ("deleting " ++ p.kind.name)), p)
  | some (.deleting _) => (.ok (), p)
  | some _ => (.ok (), p.place name (.deleting p.deletionPolls))

end Pool

/-- A simulated staged object. -/
structure Copying where
  left : Nat
  fails : Bool
  deriving DecidableEq

/-- Simulated access grants and staged objects. -/
structure Staging where
  copyPolls : Nat
  objects : Registry String Copying := {}
  grants : Nat := 0
  /-- Revocations that closed an open grant. -/
  revokes : Nat := 0
  /-- Grants that are open. -/
  activeGrants : Nat := 0
  deletes : Nat := 0
  /-- Every start of a copy fails like this. -/
  startFailure : Option Failure := none
  /-- The next revocation fails like this. -/
  revokeFailure : Option Failure := none
  /-- The next copy ends in failure. -/
  failNextCopy : Bool := false

namespace Staging

def objectBytes : Nat := 30 * 1024 * 1024 * 1024

def missing (operation : String) : Failure := .refusal operation 404 (some "BlobNotFound") "missing"

def grant (s : Staging) (snapshot : String) (ttl : Duration) : Except Failure AccessUrl × Staging :=
  (.ok ⟨"https://md-sim.blob.example/" ++ snapshot ++ "/abcd?se=" ++ toString ttl.seconds ++ "&sig=secret"⟩,
    { s with grants := s.grants + 1, activeGrants := s.activeGrants + 1 })

def revoke (s : Staging) : Except Failure Unit × Staging :=
  match s.revokeFailure with
  | some f => (.error f, { s with revokeFailure := none })
  | none =>
    (.ok (), { s with
      activeGrants := 0
      revokes := if 0 < s.activeGrants then s.revokes + 1 else s.revokes })

/-- A look at an object, which moves its copy one look on. -/
def copyStatus (s : Staging) (name : String) : Except Failure CopyProgress × Staging :=
  match s.objects.get? name with
  | none => (.error (missing "getting blob"), s)
  | some copying =>
    let left := copying.left - 1
    let status : CopyStatus :=
      if copying.left ≠ 0 then .pending else if copying.fails then .failed else .success
    (.ok {
      status
      copied := some (UInt64.ofNat (objectBytes / (left + 1)))
      total := some (UInt64.ofNat objectBytes) },
      { s with objects := s.objects.set name { copying with left } })

def startCopy (s : Staging) (name : String) : Except Failure Unit × Staging :=
  match s.startFailure with
  | some f => (.error f, s)
  | none =>
    (.ok (), { s with
      failNextCopy := false
      objects := s.objects.set name { left := s.copyPolls, fails := s.failNextCopy } })

def deleteCopy (s : Staging) (name : String) : Except Failure Unit × Staging :=
  let s := { s with deletes := s.deletes + 1 }
  match s.objects.get? name with
  | none => (.error (missing "deleting blob"), s)
  | some _ => (.ok (), { s with objects := s.objects.erase name })

end Staging

/-- A simulated provider account. -/
structure Cloud where
  snapshots : Pool
  volumes : Pool
  networks : Pool
  scanners : Pool
  staging : Staging
  assets : List Asset := []

namespace Cloud

/-- An empty account in which creations and copies take `polls` looks. -/
def empty (polls : Nat) : Cloud where
  snapshots := { kind := .snapshot, provisioningPolls := polls }
  volumes := { kind := .volume, provisioningPolls := polls }
  networks := { kind := .networkInterface, provisioningPolls := polls }
  scanners := { kind := .scanner, provisioningPolls := polls }
  staging := { copyPolls := polls }

/-- Change the pool of a kind; staged copies have none. -/
def onPool {α : Type} (c : Cloud) (kind : ResourceKind) (other : α) (f : Pool → α × Pool) :
    α × Cloud :=
  match kind with
  | .snapshot => let (a, p) := f c.snapshots; (a, { c with snapshots := p })
  | .volume => let (a, p) := f c.volumes; (a, { c with volumes := p })
  | .networkInterface => let (a, p) := f c.networks; (a, { c with networks := p })
  | .scanner => let (a, p) := f c.scanners; (a, { c with scanners := p })
  | .stagedCopy => (other, c)

/-- Set how many looks deleted resources stay visible for. -/
def withDeletionPolls (c : Cloud) (polls : Nat) : Cloud :=
  [ResourceKind.snapshot, .volume, .networkInterface, .scanner].foldl (fun c kind =>
    (c.onPool kind () fun p => ((), { p with deletionPolls := polls })).2) c

def onStaging {α : Type} (c : Cloud) (f : Staging → α × Staging) : α × Cloud :=
  let (a, s) := f c.staging
  (a, { c with staging := s })

def noClient {α : Type} : Except Failure α :=
  .error (.unsupported "looking up a client" "staged copies are not resources")

def answer (call : ClientCall) : StateM Cloud call.Reply := fun c =>
  match call with
  | .observe kind name => c.onPool kind noClient (·.observe name)
  | .create name spec => c.onPool spec.kind noClient (·.create name spec)
  | .delete kind name => c.onPool kind noClient (·.delete name)
  | .grantAccess snapshot ttl => c.onStaging (·.grant snapshot ttl)
  | .revokeAccess _ => c.onStaging (·.revoke)
  | .copyStatus name => c.onStaging (·.copyStatus name)
  | .startCopy name _ => c.onStaging (·.startCopy name)
  | .deleteCopy name => c.onStaging (·.deleteCopy name)
  | .listAssets => (.ok c.assets, c)

def store : StagingStore where
  objectUrl name := "https://scanner.blob.example/scans/" ++ name
  storageAccountId :=
    "/subscriptions/sub/resourceGroups/scanner/providers/Microsoft.Storage/storageAccounts/scanner"

def facilities (withNetwork : Bool) : Facilities := { hasNetwork := withNetwork, store := some store }

def run {α : Type} (p : Program clients α) (c : Cloud) : α × Cloud := p.run (m := StateM Cloud) answer c

end Cloud

def sampleJob (crossesRegions : Bool) : Job where
  scanId := {
    text := "scan-0001"
    nonempty := by decide
    short := by decide
    allowed := List.all_eq_true.mp (by decide)
    bounded := by decide }
  target := {
    kind := .virtualMachine
    id := "/subscriptions/sub/resourceGroups/prod/providers/Microsoft.Compute/virtualMachines/web-1"
    volume := "/subscriptions/sub/resourceGroups/prod/providers/Microsoft.Compute/disks/web-1-os" }
  sourceRegion := "eastus"
  destinationRegion := if crossesRegions then "westeurope" else "eastus"
  sizing := {
    storageClass := "StandardSSD_LRS"
    computeSize := "Standard_D2s_v3"
    osDiskGigabytes := 30
    useSpot := false
    maxSpotPrice := none }
  scanner := {
    image := "ghcr.io/openclarity/vmclarity-cli:latest"
    config := some "analyzers: [syft]"
    server := none }

end ScanProvisioning.Rehearsal
