import ScanProvisioning.Job

namespace ScanProvisioning

inductive ResourceKind
  | snapshot
  | stagedCopy
  | volume
  | networkInterface
  | scanner
  deriving DecidableEq, Repr

namespace ResourceKind

def name : ResourceKind → String
  | snapshot => "snapshot"
  | stagedCopy => "staged copy"
  | volume => "volume"
  | networkInterface => "network interface"
  | scanner => "scanner"

def key : ResourceKind → String
  | snapshot => "snapshot"
  | stagedCopy => "staged_copy"
  | volume => "volume"
  | networkInterface => "network_interface"
  | scanner => "scanner"

def all : List ResourceKind := [snapshot, stagedCopy, volume, networkInterface, scanner]

end ResourceKind

inductive ResourceState
  | absent
  | provisioning
  | ready
  | failed
  deriving DecidableEq, Repr

namespace ResourceState

def name : ResourceState → String
  | absent => "absent"
  | provisioning => "provisioning"
  | ready => "ready"
  | failed => "failed"

def all : List ResourceState := [absent, provisioning, ready, failed]

end ResourceState

/-- A resource by the name it was created under and the provider's id for it. -/
structure Handle where
  name : String
  id : String
  deriving DecidableEq

/-- One look at a resource that exists at the provider. -/
structure Observation where
  handle : Handle
  state : ResourceState
  /-- The state in the provider's words. -/
  status : String
  deriving DecidableEq

structure SnapshotSpec where
  location : String
  sourceVolume : String
  deriving DecidableEq

/-- A finished staged copy. -/
structure StagedCopy where
  /-- The lasting address of the copy; it grants nothing. -/
  url : String
  storageAccountId : String
  deriving DecidableEq

/-- What a volume is made from. -/
inductive VolumeSource
  | snapshot (handle : Handle)
  | staged (copy : StagedCopy)
  deriving DecidableEq

structure VolumeSpec where
  location : String
  storageClass : String
  source : VolumeSource
  deriving DecidableEq

structure NetworkSpec where
  location : String
  deriving DecidableEq

structure ScannerSpec where
  scanId : ScanId
  location : String
  computeSize : String
  osDiskGigabytes : UInt32
  storageClass : String
  /-- The volume to read. -/
  volume : Handle
  networkInterface : Option Handle
  image : String
  config : Option String
  server : Option String
  useSpot : Bool
  maxSpotPrice : Option Binary64
  deriving DecidableEq

/-- What is needed to create a resource. -/
inductive ResourceSpec
  | snapshot (spec : SnapshotSpec)
  | volume (spec : VolumeSpec)
  | networkInterface (spec : NetworkSpec)
  | scanner (spec : ScannerSpec)
  deriving DecidableEq

def ResourceSpec.kind : ResourceSpec → ResourceKind
  | snapshot _ => .snapshot
  | volume _ => .volume
  | networkInterface _ => .networkInterface
  | scanner _ => .scanner

namespace Job

def snapshotSpec (job : Job) : SnapshotSpec where
  location := job.sourceRegion
  sourceVolume := job.target.volume

def volumeSpec (job : Job) (source : VolumeSource) : VolumeSpec where
  location := job.destinationRegion
  storageClass := job.sizing.storageClass
  source := source

def networkSpec (job : Job) : NetworkSpec where
  location := job.destinationRegion

def scannerSpec (job : Job) (volume : Handle) (networkInterface : Option Handle) : ScannerSpec where
  scanId := job.scanId
  location := job.destinationRegion
  computeSize := job.sizing.computeSize
  osDiskGigabytes := job.sizing.osDiskGigabytes
  storageClass := job.sizing.storageClass
  volume := volume
  networkInterface := networkInterface
  image := job.scanner.image
  config := job.scanner.config
  server := job.scanner.server
  useSpot := job.sizing.useSpot
  maxSpotPrice := job.sizing.maxSpotPrice

end Job

end ScanProvisioning
