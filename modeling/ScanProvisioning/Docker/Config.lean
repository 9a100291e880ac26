import ScanProvisioning.Settings
import ScanProvisioning.Text.Blank

namespace ScanProvisioning.Docker

structure Config where
  /-- The address that all paths of the engine follow. -/
  endpoint : String
  /-- The location of the engine's containers. -/
  location : String
  deriving DecidableEq

namespace Config

/-- The address of an engine, from the way its host is written. -/
def endpointOf (raw : String) : Except SetupFault String :=
  let raw := Text.dropTrailing '/' (Text.trim raw)
  match Text.after? "tcp://" raw with
  | some address => .ok ("http://" ++ address)
  | none =>
    if Text.beginsWith "http://" raw ∨ Text.beginsWith "https://" raw then .ok raw
    else if Text.beginsWith "unix://" raw then .error (.socketHost raw)
    else .error (.unsupportedHost raw)

def ofSettings (s : Settings) : Except SetupFault Config := do
  return {
    endpoint := ← endpointOf ((s "DOCKER_HOST").getD "tcp://127.0.0.1:2375")
    location := (s "DOCKER_LOCATION").getD "local" }

end Config

end ScanProvisioning.Docker
