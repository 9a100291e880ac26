import ScanProvisioning.Names
import ScanProvisioning.Binary64

namespace ScanProvisioning

inductive AssetKind
  | virtualMachine
  | container
  deriving DecidableEq, Repr

def AssetKind.name : AssetKind → String
  | virtualMachine => "virtual_machine"
  | container => "container"

/-- The asset to scan and the storage volume to snapshot. -/
structure Target where
  kind : AssetKind
  id : String
  volume : String
  deriving DecidableEq

/-- Size and class of the resources of a scan. -/
structure Sizing where
  storageClass : String
  computeSize : String
  osDiskGigabytes : UInt32
  /-- Whether the scanner runs on spot capacity. -/
  useSpot : Bool
  maxSpotPrice : Option Binary64
  deriving DecidableEq

/-- What the scanner runs. -/
structure ScannerSettings where
  image : String
  /-- Configuration handed to the scanner verbatim. -/
  config : Option String
  /-- Address of the server the scanner reports to. -/
  server : Option String
  deriving DecidableEq

structure Job where
  scanId : ScanId
  target : Target
  /-- The region of the asset and its snapshot. -/
  sourceRegion : String
  /-- The region of the scanner and its volume. -/
  destinationRegion : String
  sizing : Sizing
  scanner : ScannerSettings
  deriving DecidableEq

namespace Job

/-- Whether the snapshot has to be staged into another region. -/
def crossesRegions (job : Job) : Bool :=
  Text.toLowerAscii job.sourceRegion ≠ Text.toLowerAscii job.destinationRegion

def names (job : Job) : Names := Names.ofScan job.scanId

end Job

end ScanProvisioning
