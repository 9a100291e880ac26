import ScanProvisioning.Asset
import ScanProvisioning.CopyProgress
import ScanProvisioning.Failure
import ScanProvisioning.Program
import ScanProvisioning.Resource

namespace ScanProvisioning

/-- The one-time address of an access grant. -/
structure AccessUrl where
  url : String
  deriving DecidableEq

/-- How a grant appears in messages; its address stays out of them. -/
def AccessUrl.shown (_ : AccessUrl) : String := "AccessUrl(<redacted>)"

inductive ClientCall
  | observe (kind : ResourceKind) (name : String)
  /-- Start creating a resource, without waiting for it. -/
  | create (name : String) (spec : ResourceSpec)
  | delete (kind : ResourceKind) (name : String)
  /-- Open read access to a snapshot. -/
  | grantAccess (snapshot : String) (ttl : Duration)
  /-- Close every open access to a snapshot. -/
  | revokeAccess (snapshot : String)
  | copyStatus (name : String)
  /-- Start copying from a granted address into an object. -/
  | startCopy (name : String) (source : AccessUrl)
  | deleteCopy (name : String)
  | listAssets
  deriving DecidableEq

@[reducible] def ClientCall.Reply : ClientCall → Type
  | observe .. => Except Failure Observation
  | create .. => Except Failure Unit
  | delete .. => Except Failure Unit
  | grantAccess .. => Except Failure AccessUrl
  | revokeAccess _ => Except Failure Unit
  | copyStatus _ => Except Failure CopyProgress
  | startCopy .. => Except Failure Unit
  | deleteCopy _ => Except Failure Unit
  | listAssets => Except Failure (List Asset)

/-- Programs over a provider's clients. -/
abbrev clients : Interface := ⟨ClientCall, ClientCall.Reply⟩

/-- The store that receives staged copies. -/
structure StagingStore where
  objectUrl : String → String
  storageAccountId : String

/-- Which of the optional clients a provider has. -/
structure Facilities where
  /-- Whether scanners need a network interface of their own. -/
  hasNetwork : Bool
  /-- The store for copies between regions, if there is one. -/
  store : Option StagingStore

end ScanProvisioning
