import ScanProvisioning.Agent
import ScanProvisioning.Rehearsal.AzureHost
import ScanProvisioning.Rehearsal.DockerHost

namespace ScanProvisioning.Rehearsal

structure Invocation where
  wire : Wire
  files : Registry String String := {}

namespace Invocation

/-- An invocation that stops early keeps how it ended. -/
abbrev Run := ExceptT (Ending Unit) (StateM Invocation)

def settle {α : Type} (e : Ending α) (wire : Wire) : Run α := do
  modify fun p => { p with wire }
  match e with
  | .value a => return a
  | .cut => throw .cut
  | .overflow => throw .overflow
  | .unending => throw .unending

def inVenue {α : Type} (service : Service)
    (act : {σ : Type} → Venue σ → Provider → σ → Ending α × σ) : Run α := do
  let p ← get
  match service with
  | .azure a =>
    let (e, h) := act (AzureHost.venue a) a.provider { wire := p.wire, files := p.files }
    settle e h.wire
  | .docker c =>
    let (e, h) := act (DockerHost.venue c) Docker.provider { wire := p.wire }
    settle e h.wire

def answer (now : Timestamp) (c : Agent.Call) : Run c.Reply :=
  match c with
  | .readFile path => do
    return match (← get).files.get? path with
      | some s => .ok s
      | none => .error AzureHost.noFile
  | .clock => return now
  | .discover service => inVenue service fun v _ s => v.run none Pass.discover.run s
  | .invoke service policy phase job =>
    inVenue service fun v p s => v.invoke policy phase (p.pass phase job) s
  | .drive service policy phase job =>
    inVenue service fun v p s => v.drive policy phase job.scanId (p.pass phase job) s

def run (now : Timestamp) (s : Settings) (args : List String) (p : Invocation) :
    Except (Ending Unit) Agent.Finish × Invocation :=
  ((Agent.program s args).run (m := Run) (answer now)).run.run p

end Invocation

end ScanProvisioning.Rehearsal
