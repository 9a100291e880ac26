import ScanProvisioning.Agent
import ScanProvisioning.Http.Transcript
import ScanProvisioning.Registry
import ScanProvisioning.Text.RandomId
import Std.Async.DNS
import Std.Async.TCP
import Std.Time.DateTime.Timestamp

namespace ScanProvisioning.Machine

def relayName : String := "ASSET_SCAN_RELAY"

def settings : IO Settings := do
  let values ← (relayName :: Agent.settingNames).filterMapM fun name =>
    return (← IO.getEnv name).map (name, ·)
  return fun name => values.lookup name

def now : IO Instant := IO.monoNanosNow

def timestamp : IO Timestamp := do
  let nanos := (← Std.Time.Timestamp.now).toNanosecondsSinceUnixEpoch.val
  return { seconds := nanos / 1000000000, nanos := (nanos % 1000000000).toNat }

partial def sleepUntil (t : Instant) : IO Unit := do
  let present ← now
  if present < t then
    IO.sleep (UInt32.ofNat (min ((t - present) / 1000000 + 1) 60000))
    sleepUntil t

def requestId : IO String := return Text.randomId (← IO.getRandomBytes 16).toList

def systemFault (code : UInt32) (details : String) : String :=
  let number := if code < 0x80000000 then code else 0 - code
  details.capitalize ++ " (os error " ++ toString number ++ ")"

def fileText (path : String) : IO (Except String String) := do
  try
    return .ok (← IO.FS.readFile path)
  catch
    | .noFileOrDirectory _ code details => return .error (systemFault code details)
    | .permissionDenied _ code details => return .error (systemFault code details)
    | .inappropriateType _ code details => return .error (systemFault code details)
    | e => return .error (toString e)

def socketAddress (port : Nat) : Std.Net.IPAddr → Std.Net.SocketAddress
  | .v4 addr => .v4 { addr, port := UInt16.ofNat port }
  | .v6 addr => .v6 { addr, port := UInt16.ofNat port }

/-- Everything that a server sends until it closes the connection. -/
partial def receiveAll (c : Std.Async.TCP.Socket.Client) (received : ByteArray) :
    Std.Async.Async ByteArray := do
  match ← c.recv? 65536 with
  | none => return received
  | some bytes => receiveAll c (received ++ bytes)

def transmit (relay : Option String) (r : Http.Request) : Std.Async.Async ByteArray := do
  let some route := r.url.route? relay | throw (IO.userError "no way to the server")
  let addresses ← Std.Async.DNS.getAddrInfo route.host (toString route.port)
  let some address := addresses[0]? | throw (IO.userError "no address")
  let c ← Std.Async.TCP.Socket.Client.mk
  c.connect (socketAddress route.port address)
  c.send (r.transcript route.target).toUTF8
  receiveAll c .empty

/-- A request under way. -/
structure Reception where
  request : Http.Request
  /-- When its sender stops to wait. -/
  limit : Option Instant
  received : Task (Except IO.Error ByteArray)

namespace Reception

def start (relay : Option String) (request : Http.Request) : IO Reception := do
  let sent ← now
  return {
    request
    limit := request.timeout.map (Instant.endOfWait sent ·)
    received := ← Std.Async.Async.toIO (transmit relay request) }

def response? (c : Reception) : Except IO.Error ByteArray → Option Http.Response
  | .ok bytes => Http.Response.ofTranscript? c.request.method bytes
  | .error _ => none

def outcome? (c : Reception) : IO (Option (Except Http.Failure Http.Response)) := do
  if ← IO.hasFinished c.received then
    return some ((c.response? c.received.get).elim (.error (.unanswered c.request.url false)) .ok)
  match c.limit with
  | none => return none
  | some limit => return if limit ≤ (← now) then some (.error (.unanswered c.request.url true)) else none

/-- What the sender hears, unless the deadline comes first. -/
partial def outcomeBy (c : Reception) (deadline : Option Instant) :
    IO (Option (Except Http.Failure Http.Response)) := do
  match ← c.outcome? with
  | some outcome => return some outcome
  | none =>
    if let some limit := deadline then
      if limit ≤ (← now) then return none
    IO.sleep 5
    outcomeBy c deadline

end Reception

/-- Work that may be cut off or leave the range of times. -/
abbrev Run := ExceptT (Ending Unit) IO

/-- A task that was started: its request is under way, or it is known to have failed. -/
inductive Started
  | pending (request : Reception)
  | failed (failure : Failure)

/-- What outlives a call. -/
structure Memory where
  relay : Option String
  tokens : IO.Ref (Registry Azure.Scope Azure.CachedToken)
  tasks : IO.Ref (Registry Docker.Task Started)

namespace Memory

variable (m : Memory) (deadline : Option Instant)

def exchange (r : Http.Request) : Run (Except Http.Failure Http.Response) := do
  match ← (← Reception.start m.relay r).outcomeBy deadline with
  | some outcome => return outcome
  | none => throw .cut

def wait (d : Duration) : Run Unit := do
  let t := Instant.endOfWait (← now) d
  match deadline with
  | none => sleepUntil t
  | some limit =>
    sleepUntil (min t limit)
    if limit < t then throw .cut

def answerAzure : (c : Azure.Call) → Run c.Reply
  | .exchange r => m.exchange deadline r
  | .wait d => wait deadline d
  | .requestId => requestId
  | .readFile path => fileText path
  | .clock => now
  | .tokenFor scope => return (← m.tokens.get).get? scope
  | .keepToken scope token => m.tokens.modify (·.set scope token)
  | .overflow => throw .overflow
  | .unending => throw .unending

def settle (t : Docker.Task) (outcome : Except Http.Failure Http.Response) :
    Run (Option Docker.TaskState) := do
  let state := t.stateAfter outcome
  match state with
  | some (.failed f) => m.tasks.modify (·.set t (.failed f))
  | _ => m.tasks.modify (·.erase t)
  return state

def task? (t : Docker.Task) : Run (Option Docker.TaskState) := do
  match (← m.tasks.get).get? t with
  | none => return none
  | some (.failed f) => return some (.failed f)
  | some (.pending c) =>
    match ← c.outcome? with
    | none => return some .running
    | some outcome => m.settle t outcome

def startTask (t : Docker.Task) (request : Http.Draft) : Run Unit := do
  match ← m.task? t, request with
  | some .running, _ => return
  | _, .error f => discard (m.settle t (.error f))
  | _, .ok r =>
    let c ← Reception.start m.relay r
    m.tasks.modify (·.set t (.pending c))

def answerDocker : (c : Docker.Call) → Run c.Reply
  | .exchange r => m.exchange deadline r
  | .task t => m.task? t
  | .forget t => m.tasks.modify (·.erase t)
  | .start t request => m.startTask t request

def runClients {α : Type} (service : Service) (p : Program clients α) : Run α :=
  match service with
  | .azure a => (p.interpret a.answer).run (m.answerAzure deadline)
  | .docker c => (p.interpret c.answer).run (m.answerDocker deadline)

def invoke (service : Service) (policy : RetryPolicy) (phase : Phase) (job : Job) :
    Run (Except Setback Unit) := do
  let deadline := Instant.endOfWait (← now) policy.callTimeout
  try
    m.runClients (some deadline) service (service.provider.pass phase job).run
  catch
    | .cut => return .error (Drive.deadlineMissed policy phase)
    | e => throw e

def answerDrive (service : Service) (policy : RetryPolicy) (phase : Phase) (job : Job) (start : Instant) :
    (c : Drive.Call) → Run c.Reply
  | .invoke => m.invoke service policy phase job
  | .elapsed => return Duration.ofNanos ((← now) - start)
  | .sleep d => wait none d
  | .overflow => throw .overflow

def answer : (c : Agent.Call) → Run c.Reply
  | .readFile path => fileText path
  | .clock => timestamp
  | .discover service => m.runClients none service Pass.discover.run
  | .invoke service policy phase job => m.invoke service policy phase job
  | .drive service policy phase job => do
    let start ← now
    (Drive.operation policy phase job.scanId.text).run (m.answerDrive service policy phase job start)

end Memory

def run (args : List String) : IO UInt32 := do
  let s ← settings
  let m : Memory := { relay := s relayName, tokens := ← IO.mkRef {}, tasks := ← IO.mkRef {} }
  match ← ((Agent.program s args).run m.answer).run with
  | .ok finish =>
    IO.print finish.output
    IO.eprint finish.errors
    return finish.exitCode.toUInt32
  | .error _ =>
    IO.eprint "a span of time left its range\n"
    return 101

end ScanProvisioning.Machine

def main (args : List String) : IO UInt32 := ScanProvisioning.Machine.run args
