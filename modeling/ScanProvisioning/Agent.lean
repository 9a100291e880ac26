import ScanProvisioning.Azure.Clients
import ScanProvisioning.CommandLine
import ScanProvisioning.Docker.Clients
import ScanProvisioning.Job.Codec
import ScanProvisioning.Asset.Codec
import ScanProvisioning.Json.Printed

namespace ScanProvisioning

/-- A provider with all that its clients need. -/
inductive Service
  | azure (account : Azure.Account)
  | docker (config : Docker.Config)

namespace Service

def ofSettings (kind : ProviderKind) (s : Settings) : Except SetupFault Service :=
  match kind with
  | .azure => (Azure.Account.ofSettings s).map azure
  | .docker => (Docker.Config.ofSettings s).map docker

def provider : Service → Provider
  | azure account => account.provider
  | docker _ => Docker.provider

end Service

namespace Agent

def settingNames : List String :=
  (.job :: CommandLine.Name.shared).filterMap CommandLine.Name.setting? ++ [
    "DOCKER_HOST", "DOCKER_LOCATION", "AZURE_SUBSCRIPTION_ID", "AZURE_SCANNER_RESOURCE_GROUP",
    "AZURE_SCANNER_STORAGE_ACCOUNT", "AZURE_SCANNER_STORAGE_CONTAINER", "AZURE_SCANNER_SUBNET_ID",
    "AZURE_SCANNER_PUBLIC_KEY", "AZURE_SCANNER_ADMIN_USERNAME", "AZURE_SCANNER_IMAGE_PUBLISHER",
    "AZURE_SCANNER_IMAGE_OFFER", "AZURE_SCANNER_IMAGE_SKU", "AZURE_SCANNER_IMAGE_VERSION",
    "AZURE_ACCESS_TOKEN", "AZURE_TENANT_ID", "AZURE_CLIENT_ID", "AZURE_CLIENT_SECRET",
    "AZURE_FEDERATED_TOKEN_FILE"]

/-- What the agent asks of its surroundings. -/
inductive Call
  | readFile (path : String)
  | clock
  | discover (service : Service)
  | invoke (service : Service) (policy : RetryPolicy) (phase : Phase) (job : Job)
  | drive (service : Service) (policy : RetryPolicy) (phase : Phase) (job : Job)

@[reducible] def Call.Reply : Call → Type
  | readFile _ => Except String String
  | clock => Timestamp
  | discover _ => Except Setback (List Asset)
  | invoke .. => Except Setback Unit
  | drive .. => Except Drive.Failed Drive.Success

def surroundings : Interface := ⟨Call, Call.Reply⟩

/-- How the agent ends. -/
structure Finish where
  exitCode : UInt8
  output : String
  errors : String
  deriving DecidableEq

/-- The lines of a cause; a number stands before it where there are several causes. -/
def causeLines (number : Option Nat) (cause : String) : List String :=
  let (first, others) := match number with
    | some n => ("    " ++ toString n ++ ": ", "       ")
    | none => ("    ", "    ")
  match cause.splitOn "\n" with
  | [] => []
  | line :: lines => (first ++ line) :: lines.map (others ++ ·)

def complaint : List String → String
  | [] => ""
  | [message] => "Error: " ++ message ++ "\n"
  | [message, cause] =>
    "Error: " ++ message ++ "\n\nCaused by:\n" ++ "\n".intercalate (causeLines none cause) ++ "\n"
  | message :: causes =>
    let lines := causes.zipIdx.flatMap fun (cause, n) => causeLines (some n) cause
    "Error: " ++ message ++ "\n\nCaused by:\n" ++ "\n".intercalate lines ++ "\n"

def failed (chain : List String) : Finish := { exitCode := 1, output := "", errors := complaint chain }

def succeeded (output : String) : Finish := { exitCode := 0, output := output ++ "\n", errors := "" }

def callReport : Except Setback Unit → Json
  | .ok () => .object [("outcome", .str "done")]
  | .error (.retry delay reason) =>
    .object [("outcome", .str "retry"), ("delay_secs", .ofNat delay.seconds), ("reason", .str reason)]
  | .error (.fatal reason) => .object [("outcome", .str "fatal"), ("reason", .str reason)]

/-- The end after one call. A setback that passes with time is no failure of the agent. -/
def afterCall (r : Except Setback Unit) : Finish :=
  match r with
  | .error (.fatal reason) =>
    { succeeded (callReport r).printed with exitCode := 1, errors := complaint [(Setback.fatal reason).text] }
  | _ => succeeded (callReport r).printed

def driveReport (job : Job) (s : Drive.Success) : Json :=
  .object [
    ("asset_scan_id", .str job.scanId.text), ("phase", .str s.phase.name), ("outcome", .str "done"),
    ("attempts", .ofNat s.attempts), ("elapsed_secs", .ofNat s.elapsed.seconds)]

def afterDrive (job : Job) : Except Drive.Failed Drive.Success → Finish
  | .ok s => succeeded (driveReport job s).printed
  | .error f => failed [f.text]

def readJob (path : String) : Except String String → Except (List String) Job
  | .error reason => .error ["Failed to read job descriptor " ++ Text.quoted path, reason]
  | .ok contents =>
    match Json.Decoder.ofText Job.decoder contents with
    | .ok job => .ok job
    | .error r => .error ["Failed to parse job descriptor " ++ Text.quoted path, r.message]

def scan (service : Service) (o : Options) (phase : Phase) (path : String) :
    Program surroundings Finish :=
  .ask (.readFile path) fun contents =>
    match readJob path contents with
    | .error chain => .done (failed chain)
    | .ok job =>
      if o.once then .ask (.invoke service o.policy phase job) fun r => .done (afterCall r)
      else .ask (.drive service o.policy phase job) fun r => .done (afterDrive job r)

def discover (service : Service) : Program surroundings Finish :=
  .ask (.discover service) fun listing =>
    .ask .clock fun now =>
      let assets := discoverAll now [(service.provider.kind, listing)]
      .done (succeeded (Json.arr (assets.map DiscoveredAsset.toJson)).pretty)

def run (s : Settings) (o : Options) : Program surroundings Finish :=
  match Service.ofSettings o.provider s with
  | .error f => .done (failed ("Failed to configure provider" :: f.chain))
  | .ok service =>
    match o.command with
    | .discover => discover service
    | .scan phase path => scan service o phase path

def usage : String :=
  "Usage: asset-scan-agent [OPTIONS] <COMMAND>\n\nCommands:\n" ++
    "  discover  List scannable assets\n" ++
    "  run       Bring up the scan infrastructure of a job\n" ++
    "  remove    Tear down the scan infrastructure of a job\n\nOptions:\n" ++
    String.join (CommandLine.Name.shared.map fun n => "  " ++ n.flag ++ "\n") ++
    "  --job <JOB>  Job descriptor of run and remove\n"

def version : String := "asset-scan-agent 0.1.0"

def stopped : CommandLine.Stop → Finish
  | .usage => { exitCode := 2, output := "", errors := usage }
  | .help => { exitCode := 0, output := usage, errors := "" }
  | .version => succeeded version

def program (s : Settings) (args : List String) : Program surroundings Finish :=
  match CommandLine.parse s args with
  | .error stop => .done (stopped stop)
  | .ok o => run s o

end Agent

end ScanProvisioning
