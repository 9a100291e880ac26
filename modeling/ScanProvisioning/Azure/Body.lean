import ScanProvisioning.Azure.Account
import ScanProvisioning.Azure.BootScript
import ScanProvisioning.Failure
import ScanProvisioning.Json.Basic

namespace ScanProvisioning.Azure.Body

def snapshot (s : SnapshotSpec) : Json :=
  .object [
    ("location", .str s.location),
    ("properties", .object [
      ("creationData", .object [
        ("createOption", .str "Copy"), ("sourceResourceId", .str s.sourceVolume)])])]

def creationData : VolumeSource → Json
  | .snapshot handle =>
    .object [("createOption", .str "Copy"), ("sourceResourceId", .str handle.id)]
  | .staged copy =>
    .object [
      ("createOption", .str "Import"), ("sourceUri", .str copy.url),
      ("storageAccountId", .str copy.storageAccountId)]

def disk (s : VolumeSpec) : Json :=
  .object [
    ("location", .str s.location),
    ("sku", .object [("name", .str s.storageClass)]),
    ("properties", .object [("creationData", creationData s.source)])]

def networkInterface (subnet : String) (s : NetworkSpec) : Json :=
  .object [
    ("location", .str s.location),
    ("properties", .object [
      ("ipConfigurations", .arr [
        .object [
          ("name", .str "scanner"),
          ("properties", .object [
            ("subnet", .object [("id", .str subnet)]),
            ("privateIPAllocationMethod", .str "Dynamic")])]])])]

def storageProfile (image : BootImage) (s : ScannerSpec) : Json :=
  .object [
    ("imageReference", .object [
      ("publisher", .str image.publisher), ("offer", .str image.offer), ("sku", .str image.sku),
      ("version", .str image.version)]),
    ("osDisk", .object [
      ("createOption", .str "FromImage"), ("diskSizeGB", .ofNat s.osDiskGigabytes.toNat),
      ("managedDisk", .object [("storageAccountType", .str s.storageClass)]),
      ("deleteOption", .str "Delete")]),
    ("dataDisks", .arr [
      .object [
        ("lun", .int 0), ("createOption", .str "Attach"),
        ("managedDisk", .object [("id", .str s.volume.id)]), ("deleteOption", .str "Detach")]])]

def osProfile (c : Config) (name : String) (s : ScannerSpec) : Json :=
  .object [
    ("computerName", .str name), ("adminUsername", .str c.adminName),
    ("customData", .str (Text.Base64.encoded (BootScript.text s))),
    ("linuxConfiguration", .object [
      ("disablePasswordAuthentication", .bool true),
      ("ssh", .object [
        ("publicKeys", .arr [
          .object [
            ("path", .str ("/home/" ++ c.adminName ++ "/.ssh/authorized_keys")),
            ("keyData", .str c.publicKey)]])])])]

def networkProfile (networkInterface : Handle) : Json :=
  .object [
    ("networkInterfaces", .arr [
      .object [
        ("id", .str networkInterface.id),
        ("properties", .object [("primary", .bool true), ("deleteOption", .str "Delete")])]])]

/-- Spot capacity, with a price of -1 for whatever it costs on demand. -/
def spot (s : ScannerSpec) : List (String × Json) :=
  if s.useSpot then [
    ("priority", .str "Spot"), ("evictionPolicy", .str "Delete"),
    ("billingProfile", .object [("maxPrice", .float (s.maxSpotPrice.getD Binary64.minusOne))])]
  else []

/-- A scanner machine; without a network interface there is none. -/
def machine (c : Config) (name : String) (s : ScannerSpec) : Except Failure Json :=
  match s.networkInterface with
  | none => .error (.unsupported "creating scanner vm" "scanner vm needs a network interface")
  | some networkInterface =>
    .ok (.object [
      ("location", .str s.location),
      ("tags", .object [("asset-scan-id", .str s.scanId.text)]),
      ("properties", .object ([
        ("hardwareProfile", .object [("vmSize", .str s.computeSize)]),
        ("storageProfile", storageProfile c.image s),
        ("osProfile", osProfile c name s),
        ("networkProfile", networkProfile networkInterface)] ++ spot s))])

end ScanProvisioning.Azure.Body
