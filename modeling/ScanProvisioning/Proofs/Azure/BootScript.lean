import ScanProvisioning.Azure.BootScript
import ScanProvisioning.Proofs.Shell
import ScanProvisioning.Proofs.Text.Base64
import ScanProvisioning.Rehearsal.Cloud

namespace ScanProvisioning.Azure.BootScript

open Shell (Line Reads Spells Token newline words)
open Text.Base64 (decoded encoded)

/-- In quotes, a value with its quotes replaced reads as the value: each of its quotes leaves the quotes, stands
behind a backslash and enters them again. -/
theorem scan_quotedChars {cs : List Char} (nul : '\x00' ∉ cs) (read : List Char) :
    Shell.scan (.quoted read) (quotedChars cs) = some ([], .quoted (read ++ cs)) := by
  induction cs generalizing read with
  | nil => rw [quotedChars, Shell.scan, List.append_nil]
  | cons c cs ih =>
    rw [List.mem_cons, not_or] at nul
    have later :
        Shell.scan (.quoted (read ++ [c])) (quotedChars cs) = some ([], .quoted (read ++ c :: cs)) := by
      rw [ih nul.2, List.append_assoc, List.singleton_append]
    rw [quotedChars]
    by_cases quote : c = '\''
    · subst quote
      have around :
          Shell.scan (.quoted read) ['\'', '\\', '\'', '\''] = some ([], .quoted (read ++ ['\''])) := rfl
      rw [if_pos rfl]
      exact Shell.scan_append around later
    · have taken : Shell.scan (.quoted read) [c] = some ([], .quoted (read ++ [c])) :=
        Shell.scan_quoted (by simpa using Ne.symm quote) (by simpa using nul.1) read
      rw [if_neg quote]
      exact Shell.scan_append taken later

theorem spells_shellWord {v : String} (nul : '\x00' ∉ v.toList) : Spells (shellWord v) v := by
  have opened : Reads .between "'" [] (.quoted []) := rfl
  have inside : Reads (.quoted []) (String.ofList (quotedChars v.toList)) [] (.quoted v.toList) := by
    rw [Reads, String.toList_ofList]
    exact scan_quotedChars nul []
  have closed : Reads (.quoted v.toList) "'" [] (.word v.toList) := rfl
  exact (opened.append inside).append closed

private theorem nul_notMem_scanId (id : ScanId) : '\x00' ∉ id.text.toList := by
  intro mem
  exact absurd (id.allowed '\x00' mem) (by decide)

/-- What the scanner is called with. -/
def scannerArguments (s : ScannerSpec) : List String :=
  ["scan", "--config", "/etc/asset-scan/config.yaml", "--asset-scan-id", s.scanId.text,
    "--mount-attached-volume"] ++
    match s.server with
    | some server => ["--server", server]
    | none => []

/-- The lines of the script as the shell is to see them, when its configuration is this text. -/
def script (s : ScannerSpec) (config : String) : List (List Token) := [
  [],
  words ["set", "-euo", "pipefail"],
  [],
  words ["mkdir", "-p", "/etc/asset-scan"],
  words ["echo", config] ++ [.operator '|'] ++ words ["base64", "-d"] ++ [.operator '>'] ++
    words ["/etc/asset-scan/config.yaml"],
  [],
  words ["if", "!", "command", "-v", "docker"] ++ [.operator '>'] ++ words ["/dev/null"] ++ [.operator ';'] ++
    words ["then"],
  words ["apt-get", "update", "-y"],
  words ["apt-get", "install", "-y", "docker.io"],
  words ["fi"],
  words ["systemctl", "start", "docker"],
  [],
  words ["docker", "pull", s.image],
  words (["docker", "run", "--rm", "--privileged", "--net", "host", "-v", "/dev:/dev",
    "-v", "/etc/asset-scan:/etc/asset-scan", s.image] ++ scannerArguments s)]

section

variable {s : ScannerSpec} (image : '\x00' ∉ s.image.toList) (server : ∀ a ∈ s.server, '\x00' ∉ a.toList)

include server in
private theorem spells_arguments : List.Forall₂ Spells (arguments s) (scannerArguments s) := by
  have given : List.Forall₂ Spells
      ["scan", "--config", configFolder ++ "/config.yaml", "--asset-scan-id", shellWord s.scanId.text,
        "--mount-attached-volume"]
      ["scan", "--config", "/etc/asset-scan/config.yaml", "--asset-scan-id", s.scanId.text,
        "--mount-attached-volume"] :=
    .cons (by decide +kernel) <|
    .cons (by decide +kernel) <|
    .cons (by decide +kernel) <|
    .cons (by decide +kernel) <|
    .cons (spells_shellWord (nul_notMem_scanId s.scanId)) <|
    .cons (by decide +kernel) .nil
  rw [arguments, scannerArguments]
  refine List.rel_append given ?_
  cases address : s.server with
  | none => exact .nil
  | some a => exact .cons rfl (.cons (spells_shellWord (server a address)) .nil)

private theorem line_config (config : String) :
    Line ("echo '" ++ encoded config ++ "' | base64 -d > " ++ configFolder ++ "/config.yaml")
      (words ["echo", encoded config] ++ [.operator '|'] ++ words ["base64", "-d"] ++ [.operator '>'] ++
        words ["/etc/asset-scan/config.yaml"]) where
  reads := by
    have opened : Reads .between "echo '" (words ["echo"]) (.quoted []) := rfl
    have inside : Reads (.quoted []) (encoded config) [] (.quoted (encoded config).toList) := by
      have unquoted : '\'' ∉ Text.Base64.digits (Text.Base64.bytes config) :=
        Text.Base64.notMem_digits rfl (by decide)
      have nul : '\x00' ∉ Text.Base64.digits (Text.Base64.bytes config) :=
        Text.Base64.notMem_digits rfl (by decide)
      rw [Reads, encoded, String.toList_ofList]
      exact Shell.scan_quoted unquoted nul []
    have closed : Reads (.quoted (encoded config).toList) "' | base64 -d > "
        (.word (String.ofList (encoded config).toList) :: .operator '|' :: words ["base64", "-d"] ++
          [.operator '>']) .between := rfl
    have file : Reads .between (configFolder ++ ("/config.yaml" ++ "\n"))
        (words ["/etc/asset-scan/config.yaml"] ++ [newline]) .between := by decide +kernel
    rw [String.ofList_toList] at closed
    rw [String.append_assoc, String.append_assoc, String.append_assoc, String.append_assoc]
    exact opened.append (inside.append (closed.append file))
  single := by simp [words, newline]

include image in
private theorem line_pull : Line ("docker pull " ++ shellWord s.image) (words ["docker", "pull", s.image]) := by
  have before : Reads .between "docker pull " (words ["docker", "pull"]) .between := by decide +kernel
  have value : Reads .between (shellWord s.image ++ "\n") (words [s.image] ++ [newline]) .between :=
    (spells_shellWord image).followed rfl
  refine .of_words ?_
  rw [String.append_assoc]
  exact before.append value

include image server

private theorem line_run : Line
    ("docker run --rm --privileged --net host -v /dev:/dev -v " ++ configFolder ++ ":" ++ configFolder ++
      " " ++ shellWord s.image ++ " " ++ " ".intercalate (arguments s))
    (words (["docker", "run", "--rm", "--privileged", "--net", "host", "-v", "/dev:/dev",
      "-v", "/etc/asset-scan:/etc/asset-scan", s.image] ++ scannerArguments s)) := by
  have before : Reads .between
      ("docker run --rm --privileged --net host -v /dev:/dev -v " ++ configFolder ++ ":" ++ configFolder ++ " ")
      (words ["docker", "run", "--rm", "--privileged", "--net", "host", "-v", "/dev:/dev",
        "-v", "/etc/asset-scan:/etc/asset-scan"]) .between := by decide +kernel
  have value : Reads .between (shellWord s.image ++ " ") (words [s.image]) .between :=
    (spells_shellWord image).followed rfl
  have after := Shell.reads_words (spells_arguments server) (by simp [arguments])
  have whole := (before.append value).append after
  refine .of_words ?_
  simp only [words, List.map_append, String.append_assoc, List.append_assoc] at whole ⊢
  exact whole

private theorem lines_text : Shell.lines (text s) = some (script s (encoded (s.config.getD "")) ++ [[]]) := by
  have blank : Line "" [] := ⟨by decide +kernel, List.not_mem_nil⟩
  have each : List.Forall₂ Line (lines s) (script s (encoded (s.config.getD ""))) :=
    .cons ⟨by decide +kernel, List.not_mem_nil⟩ <|
    .cons (.of_words (by decide +kernel)) <|
    .cons blank <|
    .cons (.of_words (by decide +kernel)) <|
    .cons (line_config _) <|
    .cons blank <|
    .cons ⟨by decide +kernel, by decide⟩ <|
    .cons (.of_words (by decide +kernel)) <|
    .cons (.of_words (by decide +kernel)) <|
    .cons (.of_words (by decide +kernel)) <|
    .cons (.of_words (by decide +kernel)) <|
    .cons blank <|
    .cons (line_pull image) <|
    .cons (line_run image server) .nil
  exact Shell.lines_intercalate each (by simp [lines])

end

/-- Every quoted value is one word with that value, whatever it holds; the script has the lines of `script`,
with the image, the id and the server as words of their own; and what it pipes into the decoder comes out as
the configuration, or as nothing without one. The scan id has no NUL by itself, and the configuration may
have some. -/
theorem reads_as_script (s : ScannerSpec) (image : '\x00' ∉ s.image.toList)
    (server : ∀ a ∈ s.server, '\x00' ∉ a.toList) :
    (∀ v : String, '\x00' ∉ v.toList → Shell.tokens (shellWord v) = some (words [v])) ∧
      ∃ config, Shell.lines (text s) = some (script s config ++ [[]]) ∧
        (decoded (config ++ "\n")).map List.toByteArray = some (s.config.getD "").toUTF8 := by
  refine ⟨fun v nul => (spells_shellWord nul).tokens, encoded (s.config.getD ""),
    lines_text image server, ?_⟩
  rw [Text.Base64.decoded_encoded, Option.map_some, Text.Base64.toByteArray_bytes]

/-- Values that would do harm outside their words. -/
def hostile : ScannerSpec :=
  { (Rehearsal.sampleJob false).scannerSpec ⟨"asset-scan-volume-scan-0001", "/disks/scan"⟩ none with
    image := "it's'; reboot #\\'"
    config := some "analyzers: ['$HOME']\n"
    server := some "http://a b\n\"$(halt)\" > /dev/sda | \\\n" }

theorem reads_as_script_hostile :
    ('\x00' ∉ hostile.image.toList ∧ ∀ a ∈ hostile.server, '\x00' ∉ a.toList) ∧
      (∀ v : String, '\x00' ∉ v.toList → Shell.tokens (shellWord v) = some (words [v])) ∧
      ∃ config, Shell.lines (text hostile) = some (script hostile config ++ [[]]) ∧
        (decoded (config ++ "\n")).map List.toByteArray = some "analyzers: ['$HOME']\n".toUTF8 := by
  have image : '\x00' ∉ hostile.image.toList := by decide
  have server : ∀ a ∈ hostile.server, '\x00' ∉ a.toList := by decide
  exact ⟨⟨image, server⟩, reads_as_script hostile image server⟩

end ScanProvisioning.Azure.BootScript
