import ScanProvisioning.Drive

namespace ScanProvisioning

/-- Surroundings in which programs over a provider's clients run. -/
structure Venue (σ : Type) where
  now : σ → Instant
  sleepUntil : Instant → σ → σ
  run : {α : Type} → (deadline : Option Instant) → Program clients α → σ → Ending α × σ

namespace Venue

variable {σ : Type}

def sleep (v : Venue σ) (d : Duration) (s : σ) : σ := v.sleepUntil (Instant.endOfWait (v.now s) d) s

/-- The driving surroundings in which each call runs one pass. -/
def setting (v : Venue σ) (pass : Pass Unit) : Drive.Setting σ where
  now := v.now
  sleepUntil := v.sleepUntil
  call deadline s := v.run (some deadline) pass.run s

def invoke (v : Venue σ) (policy : RetryPolicy) (phase : Phase) (pass : Pass Unit) (s : σ) :
    Ending (Except Setback Unit) × σ :=
  Drive.invoke (v.setting pass) policy phase s

def drive (v : Venue σ) (policy : RetryPolicy) (phase : Phase) (scanId : ScanId) (pass : Pass Unit)
    (s : σ) : Ending (Except Drive.Failed Drive.Success) × σ :=
  Drive.run (v.setting pass) policy phase (v.now s) (Drive.operation policy phase scanId.text) s

end Venue

/-- Surroundings beside a clock. -/
structure Clocked (σ : Type) where
  now : Instant := 0
  state : σ

def Venue.prompt {σ : Type} (answer : (call : ClientCall) → StateM σ call.Reply) :
    Venue (Clocked σ) where
  now s := s.now
  sleepUntil t s := { s with now := t }
  run _ p s :=
    let (a, state) := p.run (m := StateM σ) answer s.state
    (.value a, { s with state })

end ScanProvisioning
