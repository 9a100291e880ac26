import ScanProvisioning.ScanId
import ScanProvisioning.Text.Blank

namespace ScanProvisioning

/-- The names of the resources of a scan. They depend on its id alone, so a later pass finds what an earlier one
started, and discovery recognises them. -/
structure Names where
  snapshot : String
  volume : String
  /-- The object that holds the snapshot's copy in another region. -/
  stagedCopy : String
  networkInterface : String
  scanner : String
  deriving DecidableEq

namespace Names

def snapshotStem : String := "asset-scan-snapshot-"

def volumeStem : String := "asset-scan-volume-"

def networkInterfaceStem : String := "asset-scan-nic-"

def scannerStem : String := "asset-scan-scanner-"

def stagedCopyEnding : String := ".vhd"

def ofScan (id : ScanId) : Names where
  snapshot := snapshotStem ++ id.text
  volume := volumeStem ++ id.text
  stagedCopy := id.text ++ stagedCopyEnding
  networkInterface := networkInterfaceStem ++ id.text
  scanner := scannerStem ++ id.text

/-- Whether a name, leading slashes aside, belongs to a scan's own resources. -/
def isScanResource (name : String) : Bool :=
  let name := Text.dropLeading '/' name
  [snapshotStem, volumeStem, networkInterfaceStem, scannerStem].any fun stem =>
    Text.beginsWith stem name

end Names

end ScanProvisioning
