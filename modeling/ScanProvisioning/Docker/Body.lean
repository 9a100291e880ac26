import ScanProvisioning.Json.Basic
import ScanProvisioning.Resource

namespace ScanProvisioning.Docker.Body

/-- Where a volume stands while it is filled. -/
def fillFolder : String := "/scan-volume"

/-- Where a scanner finds the volume. -/
def scanFolder : String := "/mnt/snapshot"

/-- Copies the file system of the snapshot into the volume. -/
def fillScript : String :=
  "tar -C / --exclude=./proc --exclude=./sys --exclude=./dev --exclude=./scan-volume -cf - . | tar -C /scan-volume -xf -"

/-- The label of the kind of resource that a container or volume is. -/
def kindLabel : String := "asset-scan.resource"

def volume (name : String) : Json :=
  .object [("Name", .str name), ("Labels", .object [(kindLabel, .str "volume")])]

/-- The container that fills a volume. -/
def filler (volume image : String) : Json :=
  .object [
    ("Image", .str image), ("User", .str "0"), ("Entrypoint", .strings ["/bin/sh", "-c"]),
    ("Cmd", .strings [fillScript]),
    ("Labels", .object [(kindLabel, .str "volume-populate")]),
    ("HostConfig", .object [("Binds", .strings [volume ++ ":" ++ fillFolder])])]

def environment (s : ScannerSpec) : List String :=
  ["ASSET_SCAN_ID=" ++ s.scanId.text] ++
    (s.config.map ("SCANNER_CONFIG=" ++ ·)).toList ++
    (s.server.map ("SCAN_SERVER_ADDRESS=" ++ ·)).toList

def scanner (s : ScannerSpec) : Json :=
  .object [
    ("Image", .str s.image), ("Env", .strings (environment s)),
    ("Labels", .object [(kindLabel, .str "scanner"), ("asset-scan.id", .str s.scanId.text)]),
    ("HostConfig", .object [("Binds", .strings [s.volume.name ++ ":" ++ scanFolder ++ ":ro"])])]

end ScanProvisioning.Docker.Body
