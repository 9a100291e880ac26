import ScanProvisioning.Duration

namespace ScanProvisioning

structure Timing where
  snapshot : Duration
  copy : Duration
  volume : Duration
  network : Duration
  scanner : Duration
  deletion : Duration
  /-- Lifetime of the read access used for copies between regions. -/
  grantTtl : Duration
  /-- Assumed speed of copies in bytes a second. -/
  throughput : UInt64
  deriving DecidableEq

namespace Timing

/-- Cloud providers: operations take minutes. -/
def cloud : Timing where
  snapshot := .ofSeconds 120
  copy := .ofSeconds 120
  volume := .ofSeconds 120
  network := .ofSeconds 15
  scanner := .ofSeconds 120
  deletion := .ofSeconds 30
  grantTtl := .ofSeconds 3600
  throughput := 64 * 1024 * 1024

/-- Container runtimes: operations take seconds. -/
def localRuntime : Timing where
  snapshot := .ofSeconds 5
  copy := .ofSeconds 5
  volume := .ofSeconds 5
  network := .ofSeconds 1
  scanner := .ofSeconds 5
  deletion := .ofSeconds 2
  grantTtl := .ofSeconds 3600
  throughput := 64 * 1024 * 1024

end Timing

end ScanProvisioning
