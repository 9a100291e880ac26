import ScanProvisioning.Azure.Clients
import ScanProvisioning.Rehearsal.Wire
import ScanProvisioning.Venue

namespace ScanProvisioning.Rehearsal

/-- A host for Azure clients, with scripted servers and a clock that waits move forward. Tokens expire by
another clock, which stands still. -/
structure AzureHost where
  wire : Wire
  tokens : Registry Azure.Scope Azure.CachedToken := {}
  /-- Contents of files by path. -/
  files : Registry String String := {}

namespace AzureHost

def noFile : String := "No such file or directory (os error 2)"

def run {α : Type} (deadline : Option Instant) :
    Program Azure.host α → AzureHost → Ending α × AzureHost
  | .done a, h => (.value a, h)
  | .ask (.exchange r) k, h =>
    let ((d, outcome), wire) := h.wire.send r
    match waitEnd? deadline wire.now d with
    | none => (.cut, { h with wire := { wire with now := deadline.getD wire.now } })
    | some t => run deadline (k outcome) { h with wire := { wire with now := t } }
  | .ask (.wait d) k, h =>
    match waitEnd? deadline h.wire.now d with
    | none => (.cut, { h with wire.now := deadline.getD h.wire.now })
    | some t => run deadline (k ()) { h with wire.now := t }
  | .ask .requestId k, h => run deadline (k "00000000-0000-4000-8000-000000000000") h
  | .ask (.readFile path) k, h =>
    if deadline = some h.wire.now then (.cut, h)
    else
      run deadline (k (match h.files.get? path with
        | some s => .ok s
        | none => .error noFile)) h
  | .ask .clock k, h => run deadline (k (0 : Instant)) h
  | .ask (.tokenFor scope) k, h => run deadline (k (h.tokens.get? scope)) h
  | .ask (.keepToken scope token) k, h =>
    run deadline (k ()) { h with tokens := h.tokens.set scope token }
  | .ask .overflow _, h => (.overflow, h)
  | .ask .unending _, h => (.unending, h)

def venue (a : Azure.Account) : Venue AzureHost where
  now h := h.wire.now
  sleepUntil t h := { h with wire.now := t }
  run deadline p h := run deadline (p.interpret a.answer) h

end AzureHost

end ScanProvisioning.Rehearsal
