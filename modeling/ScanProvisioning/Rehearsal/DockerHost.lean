import ScanProvisioning.Docker.Clients
import ScanProvisioning.Rehearsal.Wire
import ScanProvisioning.Venue

namespace ScanProvisioning.Rehearsal

/-- The next step of a task. -/
inductive TaskStep
  | send (request : Http.Draft)
  | hear (outcome : Except Http.Failure Http.Response)

/-- A task that is ready for its next step at an instant. -/
structure Waiting where
  ready : Instant
  task : Docker.Task
  step : TaskStep

/-- Tasks that outlive the calls that start them. -/
structure Background where
  tasks : Registry Docker.Task Docker.TaskState := {}
  /-- Tasks under way, in the order in which they began to wait. -/
  waiting : List Waiting := []

namespace Background

def finish (t : Docker.Task) (r : Except Http.Failure Http.Response) (b : Background) : Background :=
  match t.stateAfter r with
  | none => { b with tasks := b.tasks.erase t }
  | some s => { b with tasks := b.tasks.set t s }

def start (t : Docker.Task) (request : Http.Draft) (now : Instant) (b : Background) : Background :=
  if b.tasks.get? t = some .running then b
  else {
    tasks := b.tasks.set t .running
    waiting := b.waiting ++ [{ ready := now, task := t, step := .send request }] }

def forget (t : Docker.Task) (b : Background) : Background := { b with tasks := b.tasks.erase t }

end Background

/-- A host for the clients of a container engine, with a scripted engine and a clock that waits move
forward. Tasks go on while a call waits, in the order in which they become ready; at the end of its wait the
call goes first. -/
structure DockerHost extends Background where
  wire : Wire

namespace DockerHost

def onBackground (f : Background → Background) (h : DockerHost) : DockerHost :=
  { h with toBackground := f h.toBackground }

def step (w : Waiting) (h : DockerHost) : DockerHost :=
  let h := { h with wire.now := max h.wire.now w.ready }
  match w.step with
  | .hear outcome => h.onBackground (·.finish w.task outcome)
  | .send (.error f) => h.onBackground (·.finish w.task (.error f))
  | .send (.ok r) =>
    let ((d, outcome), wire) := h.wire.send r
    let h := { h with wire }
    if d = .zero then h.onBackground (·.finish w.task outcome)
    else
      let ready := Instant.endOfWait wire.now d
      { h with waiting := h.waiting ++ [{ ready, task := w.task, step := .hear outcome }] }

/-- The first of the tasks that are ready earliest, and the others. -/
def earliest : List Waiting → Option (Waiting × List Waiting)
  | [] => none
  | w :: rest =>
    match earliest rest with
    | none => some (w, [])
    | some (v, others) => if v.ready < w.ready then some (v, w :: others) else some (w, rest)

/-- Let tasks go on that are ready before an instant, `steps` steps at most. -/
def advance (t : Instant) : (steps : Nat) → DockerHost → DockerHost
  | 0, h => h
  | steps + 1, h =>
    match earliest h.waiting with
    | none => h
    | some (w, others) =>
      if w.ready < t then advance t steps (step w { h with waiting := others }) else h

/-- Let tasks go on that are ready before an instant. A task makes two steps, to send and to hear. -/
def advanceTo (t : Instant) (h : DockerHost) : DockerHost := advance t (2 * h.waiting.length) h

/-- Wait until an instant. -/
def sleepUntil (t : Instant) (h : DockerHost) : DockerHost :=
  if h.wire.now < t then
    let h := h.advanceTo t
    { h with wire.now := t }
  else h

def run {α : Type} (deadline : Option Instant) :
    Program Docker.host α → DockerHost → Ending α × DockerHost
  | .done a, h => (.value a, h)
  | .ask (.exchange r) k, h =>
    let ((d, outcome), wire) := h.wire.send r
    let h := { h with wire }
    match waitEnd? deadline wire.now d with
    | none => (.cut, sleepUntil (deadline.getD wire.now) h)
    | some t => run deadline (k outcome) (sleepUntil t h)
  | .ask (.task t) k, h => run deadline (k (h.tasks.get? t)) h
  | .ask (.forget t) k, h => run deadline (k ()) (h.onBackground (·.forget t))
  | .ask (.start t request) k, h => run deadline (k ()) (h.onBackground (·.start t request h.wire.now))

def venue (c : Docker.Config) : Venue DockerHost where
  now h := h.wire.now
  sleepUntil := sleepUntil
  run deadline p h := run deadline (p.interpret c.answer) h

end DockerHost

end ScanProvisioning.Rehearsal
