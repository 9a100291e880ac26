import ScanProvisioning.Job
import ScanProvisioning.Timestamp

namespace ScanProvisioning

inductive Asset
  | virtualMachine (instanceId name location : String) (rootVolume : Option String)
  | container (containerId name image location : String)
  deriving DecidableEq

namespace Asset

def kind : Asset → AssetKind
  | virtualMachine .. => .virtualMachine
  | container .. => .container

def location : Asset → String
  | virtualMachine _ _ location _ => location
  | container _ _ _ location => location

/-- What to scan on this asset, if it shows a volume to snapshot. -/
def target : Asset → Option Target
  | virtualMachine instanceId _ _ rootVolume =>
    rootVolume.map fun volume => { kind := .virtualMachine, id := instanceId, volume }
  | container containerId .. => some { kind := .container, id := containerId, volume := containerId }

end Asset

inductive ProviderKind
  | azure
  | docker
  deriving DecidableEq, Repr

def ProviderKind.name : ProviderKind → String
  | azure => "azure"
  | docker => "docker"

/-- An asset, the provider it was found at and when. -/
structure DiscoveredAsset where
  provider : ProviderKind
  asset : Asset
  discoveredAt : Timestamp
  deriving DecidableEq

end ScanProvisioning
