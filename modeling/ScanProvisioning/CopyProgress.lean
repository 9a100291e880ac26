import ScanProvisioning.Duration
import ScanProvisioning.Text.Blank
import ScanProvisioning.Text.Decimal

namespace ScanProvisioning

inductive CopyStatus
  | pending
  | success
  | failed
  | aborted
  deriving DecidableEq, Repr

namespace CopyStatus

def name : CopyStatus → String
  | pending => "Pending"
  | success => "Success"
  | failed => "Failed"
  | aborted => "Aborted"

/-- The status with that name, in any mixture of cases. -/
def ofName? (s : String) : Option CopyStatus :=
  [pending, success, failed, aborted].find? fun c =>
    Text.toLowerAscii c.name == Text.toLowerAscii s

end CopyStatus

/-- A look at a staged object. -/
structure CopyProgress where
  status : CopyStatus
  /-- Bytes copied so far. -/
  copied : Option UInt64
  /-- Bytes in all. -/
  total : Option UInt64
  deriving DecidableEq

namespace CopyProgress

/-- Two counts with a slash between them, blanks around either. -/
def counts? (s : String) : Option (UInt64 × UInt64) := do
  let (copied, total) ← Text.splitOnce '/' s
  return (← Text.uint64? (Text.trim copied), ← Text.uint64? (Text.trim total))

def ofReport (status : CopyStatus) (progress : Option String) : CopyProgress :=
  let counts := progress.bind counts?
  { status, copied := counts.map Prod.fst, total := counts.map Prod.snd }

def shortestDelay : Duration := .ofSeconds 30

def longestDelay : Duration := .ofSeconds 600

/--
The time that the rest of a copy takes at `throughput` bytes a second, within bounds; `otherwise` where
that cannot be told.
-/
def delay (p : CopyProgress) (throughput : UInt64) (otherwise : Duration) : Duration :=
  match p.copied, p.total with
  | some copied, some total =>
    if 0 < total ∧ 0 < throughput then
      let remaining := total.toNat - copied.toNat
      let seconds := (remaining + throughput.toNat - 1) / throughput.toNat
      (Duration.ofNanos (seconds * 1000000000)).clamp shortestDelay longestDelay
    else otherwise
  | _, _ => otherwise

/-- What is known of the counts; one that is unknown is shown as zero. -/
def shown (p : CopyProgress) : String :=
  toString (p.copied.getD 0).toNat ++ "/" ++ toString (p.total.getD 0).toNat

end CopyProgress

end ScanProvisioning
