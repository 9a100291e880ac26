import ScanProvisioning.Resource
import ScanProvisioning.Text.Base64

namespace ScanProvisioning.Azure.BootScript

/-- The characters of a shell word inside single quotes. -/
def quotedChars : List Char → List Char
  | [] => []
  | c :: cs => if c = '\'' then '\'' :: '\\' :: '\'' :: '\'' :: quotedChars cs else c :: quotedChars cs

def shellWord (s : String) : String := "'" ++ String.ofList (quotedChars s.toList) ++ "'"

def configFolder : String := "/etc/asset-scan"

def arguments (s : ScannerSpec) : List String :=
  ["scan", "--config", configFolder ++ "/config.yaml", "--asset-scan-id", shellWord s.scanId.text,
    "--mount-attached-volume"] ++
    match s.server with
    | some server => ["--server", shellWord server]
    | none => []

def lines (s : ScannerSpec) : List String := [
  "#!/bin/bash",
  "set -euo pipefail",
  "",
  "mkdir -p " ++ configFolder,
  "echo '" ++ Text.Base64.encoded (s.config.getD "") ++ "' | base64 -d > " ++ configFolder ++ "/config.yaml",
  "",
  "if ! command -v docker >/dev/null; then",
  "  apt-get update -y",
  "  apt-get install -y docker.io",
  "fi",
  "systemctl start docker",
  "",
  "docker pull " ++ shellWord s.image,
  "docker run --rm --privileged --net host -v /dev:/dev -v " ++ configFolder ++ ":" ++ configFolder ++ " " ++
    shellWord s.image ++ " " ++ " ".intercalate (arguments s)]

def text (s : ScannerSpec) : String := "\n".intercalate (lines s) ++ "\n"

end ScanProvisioning.Azure.BootScript
