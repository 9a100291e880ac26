import ScanProvisioning.Drive
import ScanProvisioning.Settings
import ScanProvisioning.Text.Decimal

namespace ScanProvisioning

/-- What the agent is asked to do. -/
inductive Command
  | discover
  | scan (phase : Phase) (jobFile : String)
  deriving DecidableEq

structure Options where
  provider : ProviderKind
  /-- Make one call instead of driving the job to its end. -/
  once : Bool
  policy : RetryPolicy
  command : Command
  deriving DecidableEq

namespace CommandLine

/-- Why a command line starts nothing. -/
inductive Stop
  | usage
  | help
  | version
  deriving DecidableEq

/-- An option of every command. -/
inductive Name
  | provider
  | once
  | maxAttempts
  | maxElapsed
  | callTimeout
  | timeoutDelay
  | job
  deriving DecidableEq

namespace Name

def flag : Name → String
  | provider => "--provider"
  | once => "--once"
  | maxAttempts => "--max-attempts"
  | maxElapsed => "--max-elapsed"
  | callTimeout => "--call-timeout"
  | timeoutDelay => "--timeout-delay"
  | job => "--job"

def setting? : Name → Option String
  | provider => some "ASSET_SCAN_PROVIDER"
  | once => none
  | maxAttempts => some "ASSET_SCAN_MAX_ATTEMPTS"
  | maxElapsed => some "ASSET_SCAN_MAX_ELAPSED"
  | callTimeout => some "ASSET_SCAN_CALL_TIMEOUT"
  | timeoutDelay => some "ASSET_SCAN_TIMEOUT_DELAY"
  | job => some "ASSET_SCAN_JOB"

def shared : List Name := [provider, once, maxAttempts, maxElapsed, callTimeout, timeoutDelay]

end Name

def provider? (s : String) : Option ProviderKind :=
  [ProviderKind.azure, .docker].find? (·.name == s)

/-- A number of attempts; a sign may stand before it. -/
def attempts? (s : String) : Option UInt32 :=
  (Text.integer? s).bind fun i =>
    if 0 ≤ i ∧ i < UInt32.size then some (UInt32.ofNat i.toNat) else none

def accepts (n : Name) (value : String) : Bool :=
  match n with
  | .provider => (provider? value).isSome
  | .once => true
  | .maxAttempts => (attempts? value).isSome
  | .maxElapsed => (Text.uint64? value).isSome
  | .callTimeout => (Text.uint64? value).isSome
  | .timeoutDelay => (Text.uint64? value).isSome
  | .job => value ≠ ""

abbrev Given := List (Name × String)

def note (n : Name) (value : String) (given : Given) : Except Stop Given :=
  if (given.lookup n).isSome ∨ !accepts n value then .error .usage else .ok ((n, value) :: given)

def splitLong (arg : String) : String × Option String :=
  match Text.splitOnce '=' arg with
  | some (name, value) => (name, some value)
  | none => (arg, none)

def short (atTop : Bool) (arg : String) : Stop :=
  match arg.toList with
  | '-' :: 'h' :: _ => .help
  | '-' :: 'V' :: _ => if atTop then .version else .usage
  | _ => .usage

/-- What an option asks for that has no value of its own and is none of the options of a command. -/
def long (atTop : Bool) (arg : String) : Stop :=
  if arg = "--help" then .help else if arg = "--version" ∧ atTop then .version else .usage

/-- Read options until an argument that is none; that one and those after it are left. -/
def options (atTop : Bool) (names : List Name) :
    (given : Given) → List String → Except Stop (Given × List String)
  | given, [] => .ok (given, [])
  | given, arg :: rest =>
    if arg = "--" then .ok (given, arg :: rest)
    else if Text.beginsWith "--" arg then
      let (name, value) := splitLong arg
      match names.find? (·.flag == name) with
      | none => .error (if value.isSome then .usage else long atTop name)
      | some .once =>
        if value.isSome then .error .usage
        else do options atTop names (← note .once "true" given) rest
      | some n =>
        match value, rest with
        | some value, rest => do options atTop names (← note n value given) rest
        | none, [] => .error .usage
        | none, value :: rest =>
          if Text.beginsWith "-" value ∧ value ≠ "-" then .error .usage
          else do options atTop names (← note n value given) rest
    else if Text.beginsWith "-" arg ∧ arg ≠ "-" then .error (short atTop arg)
    else .ok (given, arg :: rest)

def withSettings (s : Settings) (names : List Name) (given : Given) : Except Stop Given :=
  names.foldlM (fun given n =>
    if (given.lookup n).isSome then .ok given
    else
      match n.setting?.bind s with
      | none => .ok given
      | some value => note n value given) given

/-- The value of an option; the command line counts before the settings. -/
def value? (outer inner outerSet innerSet : Given) (n : Name) : Option String :=
  (inner.lookup n).or ((outer.lookup n).or ((innerSet.lookup n).or (outerSet.lookup n)))

def seconds? (s : String) : Option Duration := (Text.uint64? s).map Duration.ofSeconds

def command? (name : String) (job : Option String) : Option Command :=
  match name with
  | "discover" => some .discover
  | "run" => job.map (.scan .run)
  | "remove" => job.map (.scan .remove)
  | _ => none

def behindCommand (s : Settings) (outer : Given) (name : String) (rest : List String) :
    Except Stop Options := do
  let names := if name = "discover" then Name.shared else .job :: Name.shared
  let (inner, rest) ← options false names [] rest
  if rest ≠ [] ∧ rest ≠ ["--"] then throw .usage
  let innerSet ← withSettings s names inner
  let outerSet ← withSettings s Name.shared outer
  let value := value? outer inner outerSet innerSet
  let some command := command? name (value .job) | throw .usage
  let standard := RetryPolicy.standard
  return {
    provider := ((value .provider).bind provider?).getD .azure
    once := (value .once).isSome
    policy := {
      maxAttempts := ((value .maxAttempts).bind attempts?).getD standard.maxAttempts
      maxElapsed := ((value .maxElapsed).bind seconds?).getD standard.maxElapsed
      callTimeout := ((value .callTimeout).bind seconds?).getD standard.callTimeout
      timeoutDelay := ((value .timeoutDelay).bind seconds?).getD standard.timeoutDelay }
    command }

/-- Whether there is something to say about the commands named. -/
def helpAbout : List String → Stop
  | [] => .help
  | [name] => if ["discover", "run", "remove", "help"].contains name then .help else .usage
  | _ => .usage

def parse (s : Settings) (args : List String) : Except Stop Options := do
  let (outer, rest) ← options true Name.shared [] args
  match rest with
  | [] => throw .usage
  | name :: rest =>
    if name = "help" then throw (helpAbout rest)
    unless ["discover", "run", "remove"].contains name do throw .usage
    behindCommand s outer name rest

end CommandLine

end ScanProvisioning
