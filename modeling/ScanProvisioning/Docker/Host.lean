import ScanProvisioning.Docker.Config
import ScanProvisioning.Failure
import ScanProvisioning.Http.Message
import ScanProvisioning.Program

namespace ScanProvisioning.Docker

/-- Work that outlives a call, by what it makes. -/
inductive Task
  /-- A container becomes an image. -/
  | commit (image : String)
  /-- An image is fetched from its registry. -/
  | pull (image : String)
  deriving DecidableEq

/-- A task that has not succeeded. -/
inductive TaskState
  | running
  | failed (failure : Failure)
  deriving DecidableEq

inductive Call
  | exchange (request : Http.Request)
  /-- What is known of a task; nothing once it has succeeded. -/
  | task (t : Task)
  /-- Forget what is known of a task. -/
  | forget (t : Task)
  /-- Start a task with a request, unless it is running. -/
  | start (t : Task) (request : Http.Draft)

@[reducible] def Call.Reply : Call → Type
  | exchange _ => Except Http.Failure Http.Response
  | task _ => Option TaskState
  | forget _ => Unit
  | start .. => Unit

abbrev host : Interface := ⟨Call, Call.Reply⟩

/-- A program on a host that ends in a value or a failure. -/
abbrev Action (α : Type) := ExceptT Failure (Program host) α

namespace Action

def ask (c : Call) : Action c.Reply := ExceptT.lift (Program.call (I := host) c)

def settle {α : Type} (r : Except Failure α) : Action α := ExceptT.mk (pure r)

def outcome {α : Type} (x : Action α) : Action (Except Failure α) := ExceptT.lift x.run

end Action

end ScanProvisioning.Docker
