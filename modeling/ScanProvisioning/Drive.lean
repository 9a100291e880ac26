import ScanProvisioning.Instant
import ScanProvisioning.Program
import ScanProvisioning.Provider

namespace ScanProvisioning

/-- Limits of one driven operation. -/
structure RetryPolicy where
  maxAttempts : UInt32
  /-- Time for the whole operation; a wait that would cross it is not started. -/
  maxElapsed : Duration
  /-- Deadline of one call. -/
  callTimeout : Duration
  /-- Delay after a call that missed its deadline. -/
  timeoutDelay : Duration
  deriving DecidableEq

def RetryPolicy.standard : RetryPolicy where
  maxAttempts := 360
  maxElapsed := .ofSeconds (3 * 60 * 60)
  callTimeout := .ofSeconds 120
  timeoutDelay := .ofSeconds 30

namespace Drive

/-- What the driving loop asks of its surroundings. -/
inductive Call
  /-- Make one call, cut off at its deadline. -/
  | invoke
  /-- The time since the start. -/
  | elapsed
  | sleep (d : Duration)
  /-- A sum of spans of time left its range; there is no answer. -/
  | overflow

@[reducible] def Call.Reply : Call → Type
  | invoke => Except Setback Unit
  | elapsed => Duration
  | sleep _ => Unit
  | overflow => Empty

abbrev driving : Interface := ⟨Call, Call.Reply⟩

/-- How many calls a successful operation took, and how long. -/
structure Success where
  phase : Phase
  attempts : Nat
  elapsed : Duration
  deriving DecidableEq

inductive Failed
  | fatal (phase : Phase) (scanId : String) (attempts : Nat) (reason : String)
  | exhausted (phase : Phase) (scanId : String) (attempts : Nat) (elapsed : Duration)
      (lastReason : String)
  deriving DecidableEq

def Failed.text : Failed → String
  | fatal phase scanId attempts reason =>
    phase.name ++ " asset scan " ++ scanId ++ " failed on attempt " ++ toString attempts ++ ": " ++ reason
  | exhausted phase scanId attempts elapsed lastReason =>
    phase.name ++ " asset scan " ++ scanId ++ " gave up after " ++ toString attempts ++
      " attempts in " ++ toString elapsed.seconds ++ "s: " ++ lastReason

/-- The loop from one attempt on, with `left` more attempts allowed after it. -/
def loop (policy : RetryPolicy) (phase : Phase) (scanId : String) (attempt : Nat) (left : Nat) :
    Program driving (Except Failed Success) :=
  .ask .invoke fun
    | .ok () => .ask .elapsed fun elapsed => .done (.ok { phase, attempts := attempt, elapsed })
    | .error (.fatal reason) => .done (.error (.fatal phase scanId attempt reason))
    | .error (.retry delay reason) => .ask .elapsed fun elapsed =>
      let exhausted := Except.error (.exhausted phase scanId attempt elapsed reason)
      match left with
      | 0 => .done exhausted
      | left + 1 =>
        match elapsed.add? delay with
        | none => .ask .overflow Empty.elim
        | some total =>
          if policy.maxElapsed < total then .done exhausted
          else .ask (.sleep delay) fun _ => loop policy phase scanId (attempt + 1) left

/-- Drive an operation to its end. There is at least one attempt. -/
def operation (policy : RetryPolicy) (phase : Phase) (scanId : String) :
    Program driving (Except Failed Success) :=
  loop policy phase scanId 1 (policy.maxAttempts.toNat - 1)

def deadlineMissed (policy : RetryPolicy) (phase : Phase) : Setback :=
  .retry policy.timeoutDelay
    (phase.name ++ " call exceeded its " ++ toString policy.callTimeout.seconds ++ "s deadline")

/-- Surroundings with a clock, in which a call can be made. -/
structure Setting (σ : Type) where
  now : σ → Instant
  sleepUntil : Instant → σ → σ
  /-- One call, cut off at an instant. -/
  call : (deadline : Instant) → σ → Ending (Except Setback Unit) × σ

variable {σ : Type}

def invoke (w : Setting σ) (policy : RetryPolicy) (phase : Phase) (s : σ) :
    Ending (Except Setback Unit) × σ :=
  match w.call (Instant.endOfWait (w.now s) policy.callTimeout) s with
  | (.cut, s) => (.value (.error (deadlineMissed policy phase)), s)
  | r => r

def run {α : Type} (w : Setting σ) (policy : RetryPolicy) (phase : Phase) (start : Instant) :
    Program driving α → σ → Ending α × σ
  | .done a, s => (.value a, s)
  | .ask .invoke k, s =>
    match invoke w policy phase s with
    | (.value r, s) => run w policy phase start (k r) s
    | (.cut, s) => (.cut, s)
    | (.overflow, s) => (.overflow, s)
    | (.unending, s) => (.unending, s)
  | .ask .elapsed k, s => run w policy phase start (k (Duration.ofNanos (w.now s - start))) s
  | .ask (.sleep d) k, s =>
    run w policy phase start (k ()) (w.sleepUntil (Instant.endOfWait (w.now s) d) s)
  | .ask .overflow _, s => (.overflow, s)

end Drive

end ScanProvisioning
