import ScanProvisioning.Pass.Resource
import ScanProvisioning.Pass.StagedCopy

namespace ScanProvisioning.Pass

def ensureSnapshot (timing : Timing) (job : Job) : Pass Handle :=
  ensure .snapshot job.names.snapshot timing.snapshot (pure (.snapshot job.snapshotSpec))

/-- Make sure of the volume; its source is resolved only while the volume does not exist. -/
def ensureVolume (timing : Timing) (job : Job) (source : Pass VolumeSource) : Pass Handle :=
  ensure .volume job.names.volume timing.volume do
    return .volume (job.volumeSpec (← source))

def ensureNetworkInterface (timing : Timing) (job : Job) : Pass Handle :=
  ensure .networkInterface job.names.networkInterface timing.network
    (pure (.networkInterface job.networkSpec))

def ensureScanner (timing : Timing) (job : Job) (volume : Handle) (networkInterface : Option Handle) :
    Pass Handle :=
  ensure .scanner job.names.scanner timing.scanner
    (pure (.scanner (job.scannerSpec volume networkInterface)))

/-- Where the volume comes from: the snapshot, or its copy in the destination region. -/
def volumeSource (staging : Option StagingStore) (timing : Timing) (job : Job) (snapshot : Handle) :
    Pass VolumeSource :=
  match staging with
  | none => return .snapshot snapshot
  | some store => do return .staged (← ensureStagedCopy store timing job snapshot)

def stagingFor (facilities : Facilities) (job : Job) : Pass (Option StagingStore) :=
  if job.crossesRegions then
    match facilities.store with
    | some store => return some store
    | none =>
      throw (.fatal ("provider cannot stage snapshots across regions (" ++ job.sourceRegion ++ " -> " ++
        job.destinationRegion ++ ")"))
  else return none

/-- One pass towards a running scanner. -/
def build (facilities : Facilities) (timing : Timing) (job : Job) : Pass Unit := do
  let staging ← stagingFor facilities job
  let snapshot ← ensureSnapshot timing job
  let volume ← ensureVolume timing job (volumeSource staging timing job snapshot)
  let networkInterface ←
    if facilities.hasNetwork then some <$> ensureNetworkInterface timing job else pure none
  discard (ensureScanner timing job volume networkInterface)

/-- One pass towards nothing being left. -/
def teardown (facilities : Facilities) (timing : Timing) (job : Job) : Pass Unit := do
  let names := job.names
  ensureAbsent .scanner names.scanner timing.deletion
  if facilities.hasNetwork then
    ensureAbsent .networkInterface names.networkInterface timing.deletion
  ensureAbsent .volume names.volume timing.deletion
  if job.crossesRegions && facilities.store.isSome then
    removeStagedCopy timing job
  ensureAbsent .snapshot names.snapshot timing.deletion

end ScanProvisioning.Pass
