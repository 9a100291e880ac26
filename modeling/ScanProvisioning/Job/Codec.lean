import ScanProvisioning.Job
import ScanProvisioning.Json.Decoder

namespace ScanProvisioning

open Json Json.Decoder

namespace AssetKind

def choices : List (String × AssetKind) :=
  [(virtualMachine.name, virtualMachine), (container.name, container)]

def decoder : Decoder AssetKind := choice choices

end AssetKind

namespace ScanId

def decoder : Decoder ScanId := fun d => do
  match parse (← string d) with
  | .ok id => return id
  | .error r => throw (.mismatch (.rejected r.message))

end ScanId

namespace Target

def decoder : Decoder Target := fun d => do
  let found ← record "AssetTarget"
    [field "kind" AssetKind.decoder, field "id" string, field "volume" string] d
  return {
    kind := ← required found "kind" AssetKind.decoder
    id := ← required found "id" string
    volume := ← required found "volume" string }

def toJson (t : Target) : Json :=
  .object [("kind", .str t.kind.name), ("id", .str t.id), ("volume", .str t.volume)]

end Target

namespace Sizing

def decoder : Decoder Sizing := fun d => do
  let found ← record "ScannerResources"
    [field "volume_storage_class" string, field "compute_size" string,
      field "os_disk_size_gb" uint32, optionalField "use_spot_instances" boolean,
      optionalField "max_spot_price" (orNull binary64)] d
  return {
    storageClass := ← required found "volume_storage_class" string
    computeSize := ← required found "compute_size" string
    osDiskGigabytes := ← required found "os_disk_size_gb" uint32
    useSpot := ← withDefault found "use_spot_instances" boolean false
    maxSpotPrice := ← withDefault found "max_spot_price" (orNull binary64) none }

def toJson (s : Sizing) : Json :=
  .object [
    ("volume_storage_class", .str s.storageClass),
    ("compute_size", .str s.computeSize),
    ("os_disk_size_gb", .ofNat s.osDiskGigabytes.toNat),
    ("use_spot_instances", .bool s.useSpot),
    ("max_spot_price", (s.maxSpotPrice.map Json.ofBinary64).getD .null)]

end Sizing

namespace ScannerSettings

def decoder : Decoder ScannerSettings := fun d => do
  let found ← record "ScannerSettings"
    [field "image" string, optionalField "cli_config" (orNull string),
      optionalField "server_address" (orNull string)] d
  return {
    image := ← required found "image" string
    config := ← withDefault found "cli_config" (orNull string) none
    server := ← withDefault found "server_address" (orNull string) none }

def toJson (s : ScannerSettings) : Json :=
  .object [
    ("image", .str s.image), ("cli_config", .ofString? s.config),
    ("server_address", .ofString? s.server)]

end ScannerSettings

namespace Job

def decoder : Decoder Job := fun d => do
  let found ← record "ScanJobDescriptor"
    [field "asset_scan_id" ScanId.decoder, field "asset" Target.decoder,
      field "source_region" string, field "destination_region" string,
      field "resources" Sizing.decoder, field "scanner" ScannerSettings.decoder] d
  return {
    scanId := ← required found "asset_scan_id" ScanId.decoder
    target := ← required found "asset" Target.decoder
    sourceRegion := ← required found "source_region" string
    destinationRegion := ← required found "destination_region" string
    sizing := ← required found "resources" Sizing.decoder
    scanner := ← required found "scanner" ScannerSettings.decoder }

def toJson (job : Job) : Json :=
  .object [
    ("asset_scan_id", .str job.scanId.text),
    ("asset", job.target.toJson),
    ("source_region", .str job.sourceRegion),
    ("destination_region", .str job.destinationRegion),
    ("resources", job.sizing.toJson),
    ("scanner", job.scanner.toJson)]

end Job

namespace Names

def toJson (n : Names) : Json :=
  .object [
    ("snapshot", .str n.snapshot), ("volume", .str n.volume), ("staged_copy", .str n.stagedCopy),
    ("network_interface", .str n.networkInterface), ("scanner", .str n.scanner)]

end Names

end ScanProvisioning
