import ScanProvisioning.Proofs.Guarded
import ScanProvisioning.Rehearsal.DockerHost

namespace ScanProvisioning

namespace Docker

variable {t : Task} {r : Except Http.Failure Http.Response}

theorem Task.stateAfter_of_ok (fine : t.result r = .ok ()) : t.stateAfter r = none := by
  rw [Task.stateAfter, fine]

theorem Task.stateAfter_of_error {f : Failure} (failed : t.result r = .error f) :
    t.stateAfter r = some (.failed f) := by
  rw [Task.stateAfter, failed]

theorem Task.stateAfter_ne_running : t.stateAfter r ≠ some .running := by
  cases result : t.result r with
  | ok u => simp [Task.stateAfter_of_ok result]
  | error f => simp [Task.stateAfter_of_error result]

end Docker

namespace Rehearsal.Background

open Docker (Task TaskState)

variable {b : Background} {t u : Task} {r : Except Http.Failure Http.Response} {request : Http.Draft}
  {now : Instant} {w v : Waiting} {others : List Waiting}

/-- How often a task is under way. -/
def underway (b : Background) (t : Task) : Nat := b.waiting.countP (·.task = t)

theorem get?_finish : (b.finish t r).tasks.get? u = if u = t then t.stateAfter r else b.tasks.get? u := by
  rw [finish]
  split
  · next ended => rw [ended, Registry.get?_erase]
  · next state ended => rw [ended, Registry.get?_set]

@[simp] theorem waiting_finish : (b.finish t r).waiting = b.waiting := by
  rw [finish]
  split <;> rfl

theorem get?_start :
    (b.start t request now).tasks.get? u = if u = t then some .running else b.tasks.get? u := by
  rw [start]
  split
  · next running =>
    split
    · next same => rw [same, running]
    · rfl
  · exact Registry.get?_set ..

theorem get?_forget : (b.forget t).tasks.get? u = if u = t then none else b.tasks.get? u :=
  Registry.get?_erase ..

@[simp] theorem waiting_forget : (b.forget t).waiting = b.waiting := rfl

/-- Every task that is recorded as running is under way once, and no other is. -/
def Balanced (b : Background) : Prop :=
  ∀ t, b.underway t = if b.tasks.get? t = some .running then 1 else 0

theorem balanced_empty : ({} : Background).Balanced := by
  intro t
  rfl

theorem Balanced.underway_eq_zero (balanced : b.Balanced) (idle : b.tasks.get? t ≠ some .running) :
    b.underway t = 0 := by
  rw [balanced t, if_neg idle]

theorem Balanced.running_of_waiting (balanced : b.Balanced) (first : b.waiting.Perm (w :: others)) :
    b.tasks.get? w.task = some .running := by
  have here := balanced w.task
  rw [Background.underway, first.countP_eq, List.countP_cons] at here
  by_cases running : b.tasks.get? w.task = some .running
  · exact running
  · simp [running] at here

/-- A task is not started again while it runs. -/
theorem Balanced.start (balanced : b.Balanced) : (b.start t request now).Balanced := by
  intro u
  have here := balanced u
  rw [Background.underway] at here
  rw [get?_start, Background.underway, Background.start]
  split
  · next running =>
    rw [here]
    by_cases same : u = t
    · simp [same, running]
    · simp [same]
  · next idle =>
    rw [List.countP_append, here]
    by_cases same : u = t
    · simp [same, idle]
    · simp [same, Ne.symm same]

theorem Balanced.forget (balanced : b.Balanced) (idle : b.tasks.get? t ≠ some .running) :
    (b.forget t).Balanced := by
  intro u
  have here := balanced u
  rw [get?_forget]
  by_cases same : u = t
  · subst same
    simpa [Background.underway, idle] using here
  · simpa [Background.underway, same] using here

/-- A task that hears its answer, or cannot send its request, is over. -/
theorem Balanced.finish (balanced : b.Balanced) (first : b.waiting.Perm (w :: others)) :
    (Background.finish w.task r { b with waiting := others }).Balanced := by
  intro u
  have here := balanced u
  rw [Background.underway, first.countP_eq, List.countP_cons] at here
  rw [Background.underway, waiting_finish, get?_finish]
  by_cases same : u = w.task
  · subst same
    simp only [decide_true, if_true] at here
    rw [if_pos rfl, if_neg Task.stateAfter_ne_running]
    dsimp only
    split at here <;> omega
  · simpa [same, Ne.symm same] using here

theorem Balanced.send (balanced : b.Balanced) (first : b.waiting.Perm (w :: others))
    (same : v.task = w.task) : ({ b with waiting := others ++ [v] } : Background).Balanced := by
  intro u
  have here := balanced u
  rw [Background.underway, first.countP_eq, List.countP_cons] at here
  rw [Background.underway, List.countP_append, List.countP_singleton, same]
  exact here

end Rehearsal.Background

namespace Docker

open Program Rehearsal

/-- The other end of all requests: how it may serve one, and how it may change on its own. -/
structure Peer (E : Type) where
  serves : E → Http.Request → Except Http.Failure Http.Response → E → Prop
  turns : E → E → Prop

/-- The other end of all requests as it stands, and the tasks beside the calls to it. -/
structure Site (E : Type) where
  engine : E
  background : Background

/-- A task and the outcome of its request. -/
abbrev Ending := Task × Except Http.Failure Http.Response

namespace Peer

variable {E : Type} (peer : Peer E)

/-- How a question may be answered. -/
inductive Answers : Site E → (call : Call) → call.Reply → Site E → Prop
  | exchange {s : Site E} {request : Http.Request} {reply : Except Http.Failure Http.Response} {e : E}
      (served : peer.serves s.engine request reply e) :
      Answers s (.exchange request) reply { s with engine := e }
  | task (s : Site E) (t : Task) : Answers s (.task t) (s.background.tasks.get? t) s
  | forget (s : Site E) (t : Task) : Answers s (.forget t) () { s with background := s.background.forget t }
  | start (s : Site E) (t : Task) (request : Http.Draft) (now : Instant) :
      Answers s (.start t request) () { s with background := s.background.start t request now }

/-- What may happen between questions: the other end changes, or a task takes a step, which may end it. -/
inductive Goes : Site E → List Ending → Site E → Prop
  | turn {s : Site E} {e : E} (turned : peer.turns s.engine e) : Goes s [] { s with engine := e }
  | send {s : Site E} {w : Waiting} {others : List Waiting} {request : Http.Request}
      {reply : Except Http.Failure Http.Response} {e : E} {ready : Instant}
      (first : s.background.waiting.Perm (w :: others)) (sends : w.step = .send (.ok request))
      (served : peer.serves s.engine request reply e) :
      Goes s [] ⟨e, { s.background with
        waiting := others ++ [{ ready, task := w.task, step := .hear reply }] }⟩
  | hear {s : Site E} {w : Waiting} {others : List Waiting} {reply : Except Http.Failure Http.Response}
      (first : s.background.waiting.Perm (w :: others)) (hears : w.step = .hear reply) :
      Goes s [(w.task, reply)]
        { s with background := { s.background with waiting := others }.finish w.task reply }
  | give {s : Site E} {w : Waiting} {others : List Waiting} {f : Http.Failure}
      (first : s.background.waiting.Perm (w :: others)) (unbuilt : w.step = .send (.error f)) :
      Goes s [(w.task, .error f)]
        { s with background := { s.background with waiting := others }.finish w.task (.error f) }

inductive Drifts : Site E → List Ending → Site E → Prop
  | rest (s : Site E) : Drifts s [] s
  | go {s t u : Site E} {first more : List Ending} (goes : peer.Goes s first t) (others : Drifts t more u) :
      Drifts s (first ++ more) u

/-- A question is answered, and then tasks go on. -/
def Meets (s : Site E) (call : Call) (r : call.Reply) (u : Site E) : Prop :=
  ∃ t ends, peer.Answers s call r t ∧ peer.Drifts t ends u

variable {peer} {s t u : Site E} {ends : List Ending}

theorem Answers.balanced {call : Call} {r : call.Reply} (answer : peer.Answers s call r t)
    (balanced : s.background.Balanced)
    (idle : ∀ k, call = .forget k → s.background.tasks.get? k ≠ some .running) : t.background.Balanced := by
  cases answer with
  | exchange served => exact balanced
  | task k => exact balanced
  | forget k => exact balanced.forget (idle k rfl)
  | start k request now => exact balanced.start

theorem Goes.balanced (goes : peer.Goes s ends t) (balanced : s.background.Balanced) :
    t.background.Balanced := by
  cases goes with
  | turn turned => exact balanced
  | send first sends served => exact balanced.send first rfl
  | hear first hears => exact balanced.finish first
  | give first unbuilt => exact balanced.finish first

theorem Drifts.balanced (drifts : peer.Drifts s ends t) (balanced : s.background.Balanced) :
    t.background.Balanced := by
  induction drifts with
  | rest s => exact balanced
  | go goes others ih => exact ih (goes.balanced balanced)

/-- Tasks that go on leave the record of a task alone that does not run. -/
theorem Goes.get?_idle {k : Task} (goes : peer.Goes s ends t) (balanced : s.background.Balanced)
    (idle : s.background.tasks.get? k ≠ some .running) :
    t.background.tasks.get? k = s.background.tasks.get? k := by
  have other {w : Waiting} {others : List Waiting} (first : s.background.waiting.Perm (w :: others)) :
      k ≠ w.task := by
    intro same
    exact idle (same ▸ balanced.running_of_waiting first)
  cases goes with
  | turn turned => rfl
  | send first sends served => rfl
  | hear first hears => rw [Background.get?_finish, if_neg (other first)]
  | give first unbuilt => rw [Background.get?_finish, if_neg (other first)]

theorem Drifts.get?_idle {k : Task} (drifts : peer.Drifts s ends t) (balanced : s.background.Balanced)
    (idle : s.background.tasks.get? k ≠ some .running) :
    t.background.tasks.get? k = s.background.tasks.get? k := by
  induction drifts with
  | rest s => rfl
  | go goes others ih =>
    have first := goes.get?_idle balanced idle
    rw [← first] at idle ⊢
    exact ih (goes.balanced balanced) idle

end Peer

end Docker

end ScanProvisioning
