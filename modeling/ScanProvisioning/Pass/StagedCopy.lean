import ScanProvisioning.Pass
import ScanProvisioning.Timing

namespace ScanProvisioning.Pass

/-- Close every access to a snapshot; one that is gone has none. -/
def revokeGrants (snapshot : String) : Pass Unit := do
  match ← ask (.revokeAccess snapshot) with
  | .ok () => return
  | .error f =>
    match f.verdict with
    | .missing => return
    | _ => giveUp ("revoking access to " ++ snapshot) f

/-- Delete a staged copy; one that is gone is deleted. -/
def deleteCopy (name : String) : Pass Unit := do
  match ← ask (.deleteCopy name) with
  | .ok () => return
  | .error f =>
    match f.verdict with
    | .missing => return
    | _ => giveUp ("deleting staged copy " ++ name) f

/-- Look at a staged copy; one that is missing is `none`. -/
def copyProgress (name : String) : Pass (Option CopyProgress) := do
  match ← ask (.copyStatus name) with
  | .ok progress => return some progress
  | .error f =>
    match f.verdict with
    | .missing => return none
    | _ => giveUp ("looking up staged copy " ++ name) f

/-- Open access and start the copy. Access that no copy uses is closed again as far as possible. -/
def startCopy (timing : Timing) (snapshot name : String) : Pass StagedCopy := do
  match ← ask (.grantAccess snapshot timing.grantTtl) with
  | .error f => giveUp ("granting access to " ++ snapshot) f
  | .ok access =>
    match ← ask (.startCopy name access) with
    | .error f =>
      discard (ask (.revokeAccess snapshot))
      giveUp ("starting copy into " ++ name) f
    | .ok () => throw (.retry timing.copy ("staged copy " ++ name ++ " started"))

/-- Make sure that a snapshot has been copied into the destination region. -/
def ensureStagedCopy (store : StagingStore) (timing : Timing) (job : Job) (snapshot : Handle) :
    Pass StagedCopy := do
  let name := job.names.stagedCopy
  match ← copyProgress name with
  | none => startCopy timing snapshot.name name
  | some progress =>
    match progress.status with
    | .pending =>
      throw (.retry (progress.delay timing.throughput timing.copy)
        ("staged copy " ++ name ++ " still copying (" ++ progress.shown ++ " bytes)"))
    | .success =>
      revokeGrants snapshot.name
      return { url := store.objectUrl name, storageAccountId := store.storageAccountId }
    | _ =>
      revokeGrants snapshot.name
      deleteCopy name
      throw (.retry timing.copy
        ("staged copy " ++ name ++ " ended " ++ progress.status.name ++ ", restarting"))

/-- Make sure that no staged copy is left and no access is open that served it. -/
def removeStagedCopy (timing : Timing) (job : Job) : Pass Unit := do
  let names := job.names
  let name := names.stagedCopy
  match ← copyProgress name with
  | none => return
  | some _ =>
    revokeGrants names.snapshot
    deleteCopy name
    match ← copyProgress name with
    | none => return
    | some _ =>
      throw (.retry timing.deletion ("staged copy " ++ name ++ " deletion in progress"))

end ScanProvisioning.Pass
