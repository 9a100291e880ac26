namespace ScanProvisioning

abbrev Settings := String → Option String

/-- Why a provider cannot be set up. -/
inductive SetupFault
  | required (name : String)
  | noTenant
  | noClient
  | noProof
  | socketHost (host : String)
  | unsupportedHost (host : String)
  deriving DecidableEq

namespace SetupFault

/-- The cause behind a complaint about a missing setting. -/
def notFound : String := "environment variable not found"

def chain : SetupFault → List String
  | required name => [name ++ " must be set"]
  | noTenant => ["AZURE_TENANT_ID not configured (or set AZURE_ACCESS_TOKEN)", notFound]
  | noClient => ["AZURE_CLIENT_ID not configured", notFound]
  | noProof => ["Neither AZURE_CLIENT_SECRET nor AZURE_FEDERATED_TOKEN_FILE is set", notFound]
  | socketHost host => ["DOCKER_HOST " ++ host ++ " is a unix socket; expose the daemon on tcp://"]
  | unsupportedHost host => ["Unsupported DOCKER_HOST " ++ host]

def message (f : SetupFault) : String := ": ".intercalate f.chain

end SetupFault

def Settings.required (s : Settings) (name : String) (fault : SetupFault) : Except SetupFault String :=
  match s name with
  | some v => .ok v
  | none => .error fault

end ScanProvisioning
