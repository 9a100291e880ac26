import ScanProvisioning.Pass
import ScanProvisioning.Timing

namespace ScanProvisioning.Pass

def label (kind : ResourceKind) (name : String) : String := kind.name ++ " " ++ name

/-- Look a resource up; one that is missing or only half created is `none`. -/
def observe (kind : ResourceKind) (name : String) : Pass (Option Observation) := do
  match ← ask (.observe kind name) with
  | .ok seen => return if seen.state = .absent then none else some seen
  | .error f =>
    match f.verdict with
    | .missing => return none
    | _ => giveUp ("looking up " ++ label kind name) f

/-- What an observed resource means for the pass that needs it. -/
def requireReady (kind : ResourceKind) (name : String) (estimate : Duration) (seen : Observation) :
    Except Setback Handle :=
  match seen.state with
  | .ready => .ok seen.handle
  | .failed =>
    .error (.fatal (label kind name ++ " failed to provision, provisioning state: " ++ seen.status))
  | _ =>
    .error (.retry estimate
      (label kind name ++ " is not ready yet, provisioning state: " ++ seen.status))

/--
Make sure that a resource is there and ready. `spec` runs only where the resource has to be created, so
what leads to it is not entered again afterwards.
-/
def ensure (kind : ResourceKind) (name : String) (estimate : Duration) (spec : Pass ResourceSpec) :
    Pass Handle := do
  match ← observe kind name with
  | some seen => liftExcept (requireReady kind name estimate seen)
  | none =>
    let spec ← spec
    match ← ask (.create name spec) with
    | .error f => giveUp ("creating " ++ label kind name) f
    | .ok () => throw (.retry estimate (label kind name ++ " creation started"))
where
  liftExcept (r : Except Setback Handle) : Pass Handle := ExceptT.mk (pure r)

/-- Whether anything is left under a name, half created resources included. -/
def isPresent (kind : ResourceKind) (name : String) : Pass Bool := do
  match ← ask (.observe kind name) with
  | .ok _ => return true
  | .error f =>
    match f.verdict with
    | .missing => return false
    | _ => giveUp ("looking up " ++ label kind name) f

def ensureAbsent (kind : ResourceKind) (name : String) (estimate : Duration) : Pass Unit := do
  if !(← isPresent kind name) then return
  match ← ask (.delete kind name) with
  | .error f =>
    match f.verdict with
    | .missing => return
    | _ => giveUp ("deleting " ++ label kind name) f
  | .ok () =>
    if ← isPresent kind name then
      throw (.retry estimate (label kind name ++ " deletion in progress"))

end ScanProvisioning.Pass
