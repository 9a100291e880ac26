import ScanProvisioning.Proofs.Docker.Filling
import ScanProvisioning.Proofs.Docker.Tasks
import ScanProvisioning.Proofs.Names

namespace ScanProvisioning.Docker

/-- How a container stands. -/
inductive Status
  | created
  | running
  | exited (code : UInt8)
  deriving DecidableEq

namespace Status

def text : Status → String
  | created => "created"
  | running => "running"
  | exited _ => "exited"

def exitCode : Status → Int
  | exited code => code.toNat
  | _ => 0

/-- State and status of a container that stands so. -/
def shown : Status → ResourceState × String
  | created => (.provisioning, "created")
  | running => (.ready, "running")
  | exited code => (if code = 0 then .ready else .failed, "exited (" ++ toString (code.toNat : Int) ++ ")")

/-- A description of a container that stands so. -/
def ShownBy (status : Status) (v : Json) : Prop :=
  status? v = some status.text ∧ exitCode? v = some status.exitCode

end Status

/-- What an engine has, by name. -/
structure Inventory where
  images : List String := []
  volumes : List String := []
  containers : Registry String Status := {}

/-- The id of an image. -/
def imageId (name : String) : String := "sha256:" ++ name

def Inventory.knows (e : Inventory) (image : String) : Bool :=
  e.images.any fun name => image = name ∨ image = imageId name

/-- The containers of a job. -/
inductive Part
  | filler
  | scanner
  deriving DecidableEq

def Part.name (job : Job) : Part → String
  | filler => fillerName job.names.volume
  | scanner => job.names.scanner

/-- The description with which a container is created from an image. -/
def Part.body (job : Job) (image : String) : Part → Json
  | filler => Body.filler job.names.volume image
  | scanner => Body.scanner { job.scannerSpec ⟨job.names.volume, job.names.volume⟩ none with image }

/-- What is asked of an engine about the objects of a job. -/
inductive Op
  | inspectImage
  | commit
  | removeImage
  | pull
  | inspectVolume
  | makeVolume
  | removeVolume
  | inspect (p : Part)
  | make (p : Part) (image : String)
  | start (p : Part)
  | remove (p : Part)
  deriving DecidableEq

namespace Op

/-- The request that asks for it, without its body. -/
def address (c : Config) (job : Job) : Op → Http.Draft
  | inspectImage => c.draft .get ("/images/" ++ job.names.snapshot ++ "/json")
  | commit => Task.commitRequest c job.target.volume job.names.snapshot
  | removeImage => Http.Draft.query [("force", "true")] (c.draft .delete ("/images/" ++ job.names.snapshot))
  | pull => Task.pullRequest c job.scanner.image
  | inspectVolume => c.draft .get ("/volumes/" ++ job.names.volume)
  | makeVolume => c.draft .post "/volumes/create"
  | removeVolume => Http.Draft.query [("force", "true")] (c.draft .delete ("/volumes/" ++ job.names.volume))
  | inspect p => c.draft .get ("/containers/" ++ p.name job ++ "/json")
  | make p _ => Http.Draft.query [("name", p.name job)] (c.draft .post "/containers/create")
  | start p => c.draft .post ("/containers/" ++ p.name job ++ "/start")
  | remove p => Http.Draft.query [("force", "true")] (c.draft .delete ("/containers/" ++ p.name job))

/-- The request that asks for it. -/
def draft (c : Config) (job : Job) (op : Op) : Http.Draft :=
  match op with
  | makeVolume => Http.Draft.json (Body.volume job.names.volume) (op.address c job)
  | make p image => Http.Draft.json (p.body job image) (op.address c job)
  | op => op.address c job

/-- The status with which an engine refuses it. -/
def refusal? (job : Job) (e : Inventory) : Op → Option UInt16
  | inspectImage | removeImage => if e.knows job.names.snapshot then none else some 404
  | commit | pull | makeVolume => none
  | inspectVolume | removeVolume => if job.names.volume ∈ e.volumes then none else some 404
  | make p image =>
    if ¬ e.knows image then some 404
    else if e.containers.get? (p.name job) = none then none
    else some 409
  | inspect p | start p | remove p => if e.containers.get? (p.name job) = none then some 404 else none

/-- What an engine has after it has done what it is asked. -/
def effect (job : Job) (e : Inventory) : Op → Inventory
  | commit => { e with images := job.names.snapshot :: e.images }
  | removeImage =>
    { e with images := e.images.filter fun name =>
        job.names.snapshot ≠ name ∧ job.names.snapshot ≠ imageId name }
  | pull => { e with images := job.scanner.image :: e.images }
  | makeVolume => { e with volumes := job.names.volume :: e.volumes }
  | removeVolume => { e with volumes := e.volumes.filter (· ≠ job.names.volume) }
  | make p _ => { e with containers := e.containers.set (p.name job) .created }
  | start p => { e with containers := e.containers.set (p.name job) .running }
  | remove p => { e with containers := e.containers.erase (p.name job) }
  | inspectImage | inspectVolume | inspect _ => e

def inspects : Op → Bool
  | inspectImage | inspectVolume | inspect _ => true
  | _ => false

/-- What is to be said of the object that is inspected. -/
def ShownBy (job : Job) (e : Inventory) (v : Json) : Op → Prop
  | inspectImage => v.string? "Id" = some (imageId job.names.snapshot)
  | inspect p => (∃ id, v.string? "Id" = some id) ∧
      ∃ status, e.containers.get? (p.name job) = some status ∧ status.ShownBy v
  | _ => True

/-- The engine does what it is asked, or refuses it. -/
inductive Served (job : Job) (op : Op) (e : Inventory) : Except Http.Failure Http.Response → Inventory → Prop
  | done {r : Http.Response} (possible : op.refusal? job e = none)
      (fine : r.isSuccess = true ∨ r.status = 304)
      (shown : op.inspects = true → ∃ v, r.json = .ok v ∧ op.ShownBy job e v) :
      Served job op e (.ok r) (op.effect job e)
  | refused {r : Http.Response} (refused : op.refusal? job e = some r.status) : Served job op e (.ok r) e

end Op

/-- The ways in which requests may fail that the engine could have served. -/
abbrev Faults := Op → Except Http.Failure Http.Response → Prop

/-- Nothing fails. -/
def calm : Faults := fun _ _ => False

/-- Any request may remain without an answer, or get one with any status that is neither a success nor
404. A pull may also fail in the answer to it. -/
def faulty : Faults := fun op reply =>
  match reply with
  | .error _ => True
  | .ok r => r.isSuccess = false ∧ r.status ≠ 304 ∧ r.status ≠ 404 ∨ op = .pull

/-- An engine, as far as a job has to do with it. Containers that run may come to their end. -/
def engine (c : Config) (job : Job) (faults : Faults) : Peer Inventory where
  serves e request reply after :=
    (∀ op : Op, op.draft c job = .ok request → op.Served job e reply after ∨ faults op reply ∧ after = e) ∧
      ((∀ op : Op, op.draft c job ≠ .ok request) → after = e)
  turns e after := ∃ (p : Part) (code : UInt8), e.containers.get? (p.name job) = some .running ∧
    after = { e with containers := e.containers.set (p.name job) (.exited code) }

section

variable {job : Job} {e : Inventory} {op : Op} {p q : Part}

theorem Part.name_inj : p.name job = q.name job ↔ p = q := by
  have apart : Part.filler.name job ≠ Part.scanner.name job := Names.fillerName_ne_scanner
  cases p <;> cases q <;> simp [apart, apart.symm]

theorem containerState_of_shownBy {status : Status} {v : Json} (shown : status.ShownBy v) :
    containerState v = status.shown := by
  obtain ⟨stands, ends⟩ := shown
  rw [status?] at stands
  rw [exitCode?] at ends
  rw [containerState, stands, ends]
  cases status with
  | created | running => rfl
  | exited code =>
    have zero : code.toNat = 0 ↔ code = 0 := UInt8.toNat_inj (b := 0)
    simp [Status.text, Status.exitCode, Status.shown, zero]

theorem Inventory.knows_of_mem {name : String} (mem : name ∈ e.images) : e.knows name = true := by
  rw [Inventory.knows, List.any_eq_true]
  exact ⟨name, mem, by simp⟩

namespace Op

theorem effect_of_inspects (inspects : op.inspects = true) : op.effect job e = e := by
  cases op with
  | inspectImage | inspectVolume | inspect => rfl
  | _ => cases inspects

/-- What an operation makes of a container. -/
def leaves (p : Part) (before : Option Status) : Op → Option Status
  | make q _ => if p = q then some .created else before
  | start q => if p = q then some .running else before
  | remove q => if p = q then none else before
  | _ => before

theorem container_effect :
    (op.effect job e).containers.get? (p.name job) = op.leaves p (e.containers.get? (p.name job)) := by
  cases op with
  | make q image | start q => simp [effect, leaves, Registry.get?_set, Part.name_inj]
  | remove q => simp [effect, leaves, Registry.get?_erase, Part.name_inj]
  | _ => rfl

theorem volume_effect : job.names.volume ∈ (op.effect job e).volumes ↔
    op = .makeVolume ∨ op ≠ .removeVolume ∧ job.names.volume ∈ e.volumes := by
  cases op <;> simp [effect]

theorem image_effect : job.names.snapshot ∈ (op.effect job e).images ↔
    op = .commit ∨ op = .pull ∧ job.scanner.image = job.names.snapshot ∨
      op ≠ .removeImage ∧ job.names.snapshot ∈ e.images := by
  cases op <;> simp [effect, eq_comm]

/-- Only a removal makes an engine forget an image. -/
theorem knows_effect (other : op ≠ .removeImage) {image : String} (known : e.knows image = true) :
    (op.effect job e).knows image = true := by
  cases op with
  | commit | pull => exact Bool.or_eq_true_iff.mpr (.inr known)
  | removeImage => exact absurd rfl other
  | _ => exact known

end Op

end

end ScanProvisioning.Docker
