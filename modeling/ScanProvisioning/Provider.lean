import ScanProvisioning.Pass.Scan

namespace ScanProvisioning

/-- The direction of a pass. -/
inductive Phase
  | run
  | remove
  deriving DecidableEq, Repr

def Phase.name : Phase → String
  | run => "run"
  | remove => "remove"

namespace ProviderKind

def requireKind (p : ProviderKind) (kind : AssetKind) (job : Job) : Except Setback Unit :=
  if job.target.kind = kind then .ok ()
  else .error (.fatal (p.name ++ " provider cannot scan " ++ job.target.kind.name ++ " assets"))

/-- Whether a provider takes a job on in a phase. Azure tears down for any kind of asset. -/
def accept (p : ProviderKind) (phase : Phase) (job : Job) : Except Setback Unit :=
  match p, phase with
  | azure, .run => requireKind azure .virtualMachine job
  | azure, .remove => .ok ()
  | docker, _ => do
    requireKind docker .container job
    if job.crossesRegions then
      throw (.fatal ("docker provider cannot move snapshots from " ++ job.sourceRegion ++ " to " ++
        job.destinationRegion))

end ProviderKind

namespace Pass

def ofPhase (facilities : Facilities) (timing : Timing) : Phase → Job → Pass Unit
  | .run, job => build facilities timing job
  | .remove, job => teardown facilities timing job

def discover : Pass (List Asset) := do
  match ← ask .listAssets with
  | .ok assets => return assets
  | .error f => throw f.setback

end Pass

/-- A provider whose clients are at hand. -/
structure Provider where
  kind : ProviderKind
  facilities : Facilities
  timing : Timing

/-- The pass of a phase for a job that the provider accepts. -/
def Provider.pass (p : Provider) (phase : Phase) (job : Job) : Pass Unit :=
  match p.kind.accept phase job with
  | .ok () => Pass.ofPhase p.facilities p.timing phase job
  | .error e => throw e

/-- The assets of the providers whose listing succeeded, in the order of the providers. -/
def discoverAll (now : Timestamp) (listings : List (ProviderKind × Except Setback (List Asset))) :
    List DiscoveredAsset :=
  listings.flatMap fun (provider, listing) =>
    match listing with
    | .ok assets => assets.map fun asset => { provider, asset, discoveredAt := now }
    | .error _ => []

end ScanProvisioning
