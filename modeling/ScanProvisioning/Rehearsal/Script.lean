import ScanProvisioning.Client
import ScanProvisioning.Drive

namespace ScanProvisioning.Rehearsal

/-- The next entry of a script and the script after it. -/
def nextEntry {α : Type} : List α → Option α × List α
  | [] => (none, [])
  | [a] => (some a, [a])
  | a :: rest => (some a, rest)

/-- A look that finds something; the id is made from the name where none is given. -/
structure Sighting where
  state : ResourceState
  status : String
  id : Option String

/-- Answers of a scripted client for one kind of resource. -/
structure ResourceScript where
  observe : List (Except Failure Sighting) := []
  create : List (Except Failure Unit) := []
  delete : List (Except Failure Unit) := []

/-- Answers of a scripted account, and the calls it has received, latest first. -/
structure Account where
  snapshots : ResourceScript := {}
  volumes : ResourceScript := {}
  networks : ResourceScript := {}
  scanners : ResourceScript := {}
  grant : List (Except Failure String) := []
  revoke : List (Except Failure Unit) := []
  copyStatus : List (Except Failure CopyProgress) := []
  startCopy : List (Except Failure Unit) := []
  deleteCopy : List (Except Failure Unit) := []
  list : List (Except Failure (List Asset)) := []
  calls : List ClientCall := []

namespace ResourceScript

def nextObserve (s : ResourceScript) (name : String) : Except Failure Observation × ResourceScript :=
  let (entry, rest) := nextEntry s.observe
  let answer := match entry with
    | none => .error (.missing "observing")
    | some (.error f) => .error f
    | some (.ok e) =>
      .ok { handle := { name, id := e.id.getD ("id:" ++ name) }, state := e.state, status := e.status }
  (answer, { s with observe := rest })

def nextCreate (s : ResourceScript) : Except Failure Unit × ResourceScript :=
  let (entry, rest) := nextEntry s.create
  (entry.getD (.ok ()), { s with create := rest })

def nextDelete (s : ResourceScript) : Except Failure Unit × ResourceScript :=
  let (entry, rest) := nextEntry s.delete
  (entry.getD (.ok ()), { s with delete := rest })

end ResourceScript

namespace Account

def onResource {α : Type} (a : Account) (kind : ResourceKind) (other : α)
    (f : ResourceScript → α × ResourceScript) : α × Account :=
  match kind with
  | .snapshot => let (x, s) := f a.snapshots; (x, { a with snapshots := s })
  | .volume => let (x, s) := f a.volumes; (x, { a with volumes := s })
  | .networkInterface => let (x, s) := f a.networks; (x, { a with networks := s })
  | .scanner => let (x, s) := f a.scanners; (x, { a with scanners := s })
  | .stagedCopy => (other, a)

def noClient {α : Type} : Except Failure α :=
  .error (.unsupported "looking up a client" "staged copies are not resources")

def defaultGrant : String := "https://grant/url?sig=x"

def copyMissing : Failure := .refusal "getting blob" 404 (some "BlobNotFound") "missing"

def answer (call : ClientCall) : StateM Account call.Reply := fun a =>
  let a := { a with calls := call :: a.calls }
  match call with
  | .observe kind name => a.onResource kind noClient (·.nextObserve name)
  | .create _ spec => a.onResource spec.kind noClient (·.nextCreate)
  | .delete kind _ => a.onResource kind noClient (·.nextDelete)
  | .grantAccess .. =>
    let (entry, rest) := nextEntry a.grant
    ((entry.getD (.ok defaultGrant)).map AccessUrl.mk, { a with grant := rest })
  | .revokeAccess _ =>
    let (entry, rest) := nextEntry a.revoke
    (entry.getD (.ok ()), { a with revoke := rest })
  | .copyStatus _ =>
    let (entry, rest) := nextEntry a.copyStatus
    (entry.getD (.error copyMissing), { a with copyStatus := rest })
  | .startCopy .. =>
    let (entry, rest) := nextEntry a.startCopy
    (entry.getD (.ok ()), { a with startCopy := rest })
  | .deleteCopy _ =>
    let (entry, rest) := nextEntry a.deleteCopy
    (entry.getD (.ok ()), { a with deleteCopy := rest })
  | .listAssets =>
    let (entry, rest) := nextEntry a.list
    (entry.getD (.ok []), { a with list := rest })

def store : StagingStore where
  objectUrl name := "https://store/" ++ name
  storageAccountId := "/storageAccounts/scripted"

end Account

/-- A scripted call of a driven operation: how long it takes and what it comes to. -/
structure ScriptedCall where
  takes : Option Duration
  result : Except Setback Unit

/-- A scripted operation under way: the clock, the calls to come, and when calls started, latest first. -/
structure Operation where
  now : Instant := 0
  script : List ScriptedCall
  starts : List Instant := []

namespace Operation

/-- One call: it is cut off where it takes longer than its deadline allows. -/
def call (deadline : Instant) (o : Operation) : Ending (Except Setback Unit) × Operation :=
  let (entry, rest) := nextEntry o.script
  let o := { o with script := rest, starts := o.now :: o.starts }
  let entry := entry.getD { takes := none, result := .ok () }
  let finish := match entry.takes with
    | none => o.now
    | some d => Instant.endOfWait o.now d
  if finish ≤ deadline then (.value entry.result, { o with now := finish })
  else (.cut, { o with now := deadline })

def setting : Drive.Setting Operation where
  now o := o.now
  sleepUntil t o := { o with now := t }
  call := call

end Operation

end ScanProvisioning.Rehearsal
