import ScanProvisioning.Proofs.Pass.Steps
import ScanProvisioning.Rehearsal.Cloud

namespace ScanProvisioning

namespace ClientCall

/-- Whether a call starts something: the creation of a resource or a copy. -/
def starts : ClientCall → Bool
  | create .. => true
  | startCopy .. => true
  | _ => false

/-- Whether a call goes to the access of a snapshot or to the store of staged copies. -/
def isStaging : ClientCall → Bool
  | grantAccess .. => true
  | revokeAccess _ => true
  | copyStatus _ => true
  | startCopy .. => true
  | deleteCopy _ => true
  | _ => false

/-- Whether a call asks for a change. -/
def changes : ClientCall → Bool
  | observe .. => false
  | copyStatus _ => false
  | listAssets => false
  | _ => true

attribute [simp] starts isStaging changes

end ClientCall

namespace Pass

open Program

/-- A look that finds a resource ready. -/
def readyLook (kind : ResourceKind) (name : String) (handle : Handle) (status : String) :
    Event clients :=
  ⟨.observe kind name, .ok ⟨handle, .ready, status⟩⟩

/-- A resource has been seen ready under a handle. -/
def SeenReady (es : List (Event clients)) (kind : ResourceKind) (name : String) (handle : Handle) :
    Prop :=
  ∃ status, readyLook kind name handle status ∈ es

/-- What a volume may be made from: the snapshot itself, or a copy of it that has been seen complete and
for which the access to the snapshot has been closed. -/
def Sourced (facilities : Facilities) (job : Job) (before : List (Event clients)) (snapshot : Handle) :
    VolumeSource → Prop
  | .snapshot handle => job.crossesRegions = false ∧ handle = snapshot
  | .staged copy => job.crossesRegions = true ∧ ∃ store, facilities.store = some store ∧
      copy = { url := store.objectUrl job.names.stagedCopy, storageAccountId := store.storageAccountId } ∧
      (∃ copied total,
        (⟨.copyStatus job.names.stagedCopy, .ok ⟨.success, copied, total⟩⟩ : Event clients) ∈ before) ∧
      ∃ r, (⟨.revokeAccess snapshot.name, r⟩ : Event clients) ∈ before ∧ Settles r

/-- The network interface of a scanner, where the provider has them. -/
def Connected (facilities : Facilities) (job : Job) (es : List (Event clients)) :
    Option Handle → Prop
  | some handle => facilities.hasNetwork = true ∧
      SeenReady es .networkInterface job.names.networkInterface handle
  | none => facilities.hasNetwork = false

/-- Every resource of a job has been seen ready. -/
def AllReady (facilities : Facilities) (job : Job) (es : List (Event clients)) : Prop :=
  (∃ handle, SeenReady es .snapshot job.names.snapshot handle) ∧
  (∃ handle, SeenReady es .volume job.names.volume handle) ∧
  (facilities.hasNetwork = true →
    ∃ handle, SeenReady es .networkInterface job.names.networkInterface handle) ∧
  ∃ handle, SeenReady es .scanner job.names.scanner handle

/-- What a build pass may ask after some events. -/
structure MayAsk (facilities : Facilities) (job : Job) (before : List (Event clients))
    (c : ClientCall) : Prop where
  once : c.starts = true → ∀ ev ∈ before, ev.call.starts = false
  staging : c.isStaging = true → ∀ seen,
    (⟨.observe .volume job.names.volume, .ok seen⟩ : Event clients) ∈ before → seen.state = .absent
  look : ∀ kind name, c = .observe kind name →
    (∀ ev ∈ before, ev.call.isStaging = false) ∧ ∀ ev ∈ before, ev.call ≠ .observe kind name
  volume : ∀ name spec, c = .create name (.volume spec) → name = job.names.volume ∧
    ∃ snapshot source, SeenReady before .snapshot job.names.snapshot snapshot ∧
      Sourced facilities job before snapshot source ∧ spec = job.volumeSpec source
  scanner : ∀ name spec, c = .create name (.scanner spec) → name = job.names.scanner ∧
    ∃ snapshot volume networkInterface, SeenReady before .snapshot job.names.snapshot snapshot ∧
      SeenReady before .volume job.names.volume volume ∧
      Connected facilities job before networkInterface ∧
      spec = job.scannerSpec volume networkInterface

/-- How a build pass may end: with everything seen ready and nothing changed, or short of the scanner. -/
def MayEnd (facilities : Facilities) (job : Job) (es : List (Event clients)) :
    Except Setback Unit → Prop
  | .ok () => AllReady facilities job es ∧ ∀ ev ∈ es, ev.call.changes = false
  | .error _ => ∀ handle, ¬ SeenReady es .scanner job.names.scanner handle

variable {facilities : Facilities} {timing : Timing} {job : Job}

private theorem mayAsk_observe {kind : ResourceKind} {name : String} {before : List (Event clients)}
    (quiet : ∀ ev ∈ before, ev.call.isStaging = false)
    (unseen : ∀ ev ∈ before, ev.call ≠ .observe kind name) :
    MayAsk facilities job before (.observe kind name) where
  once := by simp
  staging := by simp
  look := by
    intro kind' name' same
    cases same
    exact ⟨quiet, unseen⟩
  volume := by simp
  scanner := by simp

private theorem mayAsk_create {name : String} {spec : ResourceSpec} {before : List (Event clients)}
    (notVolume : ∀ v, spec ≠ .volume v) (notScanner : ∀ s, spec ≠ .scanner s)
    (quiet : ∀ ev ∈ before, ev.call.starts = false) :
    MayAsk facilities job before (.create name spec) where
  once := fun _ => quiet
  staging := by simp
  look := by simp
  volume := by
    intro name' v same
    cases same
    exact absurd rfl (notVolume v)
  scanner := by
    intro name' s same
    cases same
    exact absurd rfl (notScanner s)

/-- A staging call is in order while the volume looks absent and nothing has been started. -/
theorem mayAsk_staging {c : ClientCall} {before more : List (Event clients)} (staging : c.isStaging = true)
    (quiet : ∀ ev ∈ before, ev.call.starts = false)
    (quieter : c.starts = true → ∀ ev ∈ more, ev.call.starts = false)
    (staged : ∀ ev ∈ more, ev.call.isStaging = true)
    (absent : ∀ seen, (⟨.observe .volume job.names.volume, .ok seen⟩ : Event clients) ∈ before →
      seen.state = .absent) :
    MayAsk facilities job (before ++ more) c where
  once := fun starts => List.forall_mem_append.mpr ⟨quiet, quieter starts⟩
  staging := by
    intro _ seen mem
    rcases List.mem_append.mp mem with mem | mem
    · exact absent seen mem
    · cases staged _ mem
  look := by
    intro kind name same
    simp [same] at staging
  volume := by
    intro name spec same
    simp [same] at staging
  scanner := by
    intro name spec same
    simp [same] at staging

/-- What staging a copy adds to the events: staging calls only, and where it succeeds nothing started, a
look that finds the copy complete, and an answer that settles the revocation. -/
def StagedFrom (store : StagingStore) (job : Job) (snapshot : Handle) (before after : List (Event clients))
    (result : Except Setback StagedCopy) : Prop :=
  ∃ more, after = before ++ more ∧ (∀ ev ∈ more, ev.call.isStaging = true) ∧
    ∀ copy, result = .ok copy → (∀ ev ∈ more, ev.call.starts = false) ∧
      copy = { url := store.objectUrl job.names.stagedCopy, storageAccountId := store.storageAccountId } ∧
      (∃ copied total,
        (⟨.copyStatus job.names.stagedCopy, .ok ⟨.success, copied, total⟩⟩ : Event clients) ∈ more) ∧
      ∃ r, (⟨.revokeAccess snapshot.name, r⟩ : Event clients) ∈ more ∧ Settles r

theorem stagedFrom_error {store : StagingStore} {snapshot : Handle} {before more : List (Event clients)}
    {e : Setback} (staged : ∀ ev ∈ more, ev.call.isStaging = true) :
    StagedFrom store job snapshot before (before ++ more) (.error e) :=
  ⟨more, rfl, staged, by simp⟩

section

variable {before : List (Event clients)} (quiet : ∀ ev ∈ before, ev.call.starts = false)
  (absent : ∀ seen, (⟨.observe .volume job.names.volume, .ok seen⟩ : Event clients) ∈ before →
    seen.state = .absent)

include quiet absent

theorem startCopy_lawful {store : StagingStore} {snapshot : Handle} (f : Failure) :
    Guarded recording (MayAsk facilities job) (StagedFrom store job snapshot before)
      (startCopy timing snapshot.name job.names.stagedCopy).run
      (before ++ [⟨.copyStatus job.names.stagedCopy, .error f⟩]) := by
  rw [startCopy]
  refine guarded_ask (mayAsk_staging rfl quiet (by simp) (by simp) absent) ?_
  rintro (f | access) t rfl <;> rw [List.append_assoc]
  · exact stagedFrom_error (by simp)
  · refine guarded_ask (mayAsk_staging rfl quiet (by simp) (by simp) absent) ?_
    rintro (f | ⟨⟩) t rfl <;> rw [List.append_assoc]
    · refine ⟨mayAsk_staging rfl quiet (by simp) (by simp) absent, ?_⟩
      intro r t recorded
      subst recorded
      rw [List.append_assoc]
      exact stagedFrom_error (by simp)
    · exact stagedFrom_error (by simp)

/-- A copy that was found is not used, nor started again, before the access to its snapshot is closed. -/
theorem revokeGrants_lawful {store : StagingStore} {snapshot : Handle} {progress : CopyProgress}
    {next : Unit → Pass StagedCopy}
    (rest : ∀ r, Settles r → Guarded recording (MayAsk facilities job)
      (StagedFrom store job snapshot before) (next ()).run (before ++
        [⟨.copyStatus job.names.stagedCopy, .ok progress⟩, ⟨.revokeAccess snapshot.name, r⟩])) :
    Guarded recording (MayAsk facilities job) (StagedFrom store job snapshot before)
      (revokeGrants snapshot.name >>= next).run
      (before ++ [⟨.copyStatus job.names.stagedCopy, .ok progress⟩]) := by
  refine guarded_step (revokeGrants_run _) (mayAsk_staging rfl quiet (by simp) (by simp) absent) ?_ ?_
  · intro r t e recorded _
    rw [recorded, List.append_assoc]
    exact stagedFrom_error (by simp)
  · intro r t _ recorded settled
    rw [recorded, List.append_assoc]
    exact rest r (settles_of_unlessMissing settled)

theorem restartCopy_lawful {store : StagingStore} {snapshot : Handle} {progress : CopyProgress}
    (status : CopyStatus) :
    Guarded recording (MayAsk facilities job) (StagedFrom store job snapshot before)
      (restartCopy timing snapshot.name job.names.stagedCopy status).run
      (before ++ [⟨.copyStatus job.names.stagedCopy, .ok progress⟩]) := by
  refine revokeGrants_lawful quiet absent fun revoked _ => ?_
  refine guarded_step (deleteCopy_run _) (mayAsk_staging rfl quiet (by simp) (by simp) absent) ?_ ?_
  · intro r t e recorded _
    rw [recorded, List.append_assoc]
    exact stagedFrom_error (by simp)
  · intro r t _ recorded _
    rw [recorded, List.append_assoc]
    exact stagedFrom_error (by simp)

theorem ensureStagedCopy_lawful {store : StagingStore} {snapshot : Handle} :
    Guarded recording (MayAsk facilities job) (StagedFrom store job snapshot before)
      (ensureStagedCopy store timing job snapshot).run before := by
  rw [ensureStagedCopy]
  have first : MayAsk facilities job before (.copyStatus job.names.stagedCopy) := by
    have staging : MayAsk facilities job (before ++ []) (.copyStatus job.names.stagedCopy) :=
      mayAsk_staging rfl quiet (by simp) (by simp) absent
    rwa [List.append_nil] at staging
  refine guarded_step (copyProgress_run _) first ?_ ?_
  · intro r t e recorded _
    rw [recorded]
    exact stagedFrom_error (by simp)
  · intro r t found recorded looked
    subst recorded
    obtain ⟨progress, rfl, rfl⟩ | ⟨f, rfl, -, rfl⟩ := unlessMissing_eq_ok looked
    · obtain ⟨status, copied, total⟩ := progress
      cases status with
      | pending => exact stagedFrom_error (by simp)
      | success =>
        refine revokeGrants_lawful quiet absent fun r settled => ?_
        refine ⟨_, rfl, by simp, ?_⟩
        intro copy same
        cases same
        exact ⟨by simp, rfl, ⟨copied, total, by simp⟩, r, by simp, settled⟩
      | failed => exact restartCopy_lawful quiet absent .failed
      | aborted => exact restartCopy_lawful quiet absent .aborted
    · exact startCopy_lawful quiet absent f

end

/-- The store that a pass stages copies in, as far as its job needs one. -/
def Fits (facilities : Facilities) (job : Job) : Option StagingStore → Prop
  | none => job.crossesRegions = false
  | some store => job.crossesRegions = true ∧ facilities.store = some store

theorem stagingFor_run (facilities : Facilities) (job : Job) :
    (∃ e, (stagingFor facilities job).run = .done (.error e)) ∨
      ∃ staging, (stagingFor facilities job).run = .done (.ok staging) ∧ Fits facilities job staging := by
  unfold stagingFor
  cases crosses : job.crossesRegions with
  | false => exact .inr ⟨none, rfl, crosses⟩
  | true =>
    cases store : facilities.store with
    | none => exact .inl ⟨_, rfl⟩
    | some store' => exact .inr ⟨some store', rfl, crosses, store⟩

theorem volumeSource_lawful {staging : Option StagingStore} {snapshot : Handle}
    {before : List (Event clients)} (fits : Fits facilities job staging)
    (quiet : ∀ ev ∈ before, ev.call.starts = false)
    (absent : ∀ seen, (⟨.observe .volume job.names.volume, .ok seen⟩ : Event clients) ∈ before →
      seen.state = .absent) :
    Guarded recording (MayAsk facilities job) (fun after result => ∃ more, after = before ++ more ∧
      (∀ ev ∈ more, ev.call.isStaging = true) ∧ ∀ source, result = .ok source →
        (∀ ev ∈ more, ev.call.starts = false) ∧ Sourced facilities job after snapshot source)
      (volumeSource staging timing job snapshot).run before := by
  cases staging with
  | none =>
    refine ⟨[], by simp, by simp, ?_⟩
    intro source same
    cases same
    exact ⟨by simp, fits, rfl⟩
  | some store =>
    obtain ⟨crosses, store_eq⟩ := fits
    refine guarded_bindExcept (guarded_mono ?_ (ensureStagedCopy_lawful quiet absent))
    rintro after (e | copy) ⟨more, rfl, staged, done⟩
    · exact ⟨more, rfl, staged, by simp⟩
    · obtain ⟨quieter, same, ⟨copied, total, complete⟩, r, revoked, settles⟩ := done copy rfl
      refine ⟨more, rfl, staged, ?_⟩
      intro source same
      cases same
      exact ⟨quieter, crosses, store, store_eq, same, ⟨copied, total, List.mem_append_right _ complete⟩,
        r, List.mem_append_right _ revoked, settles⟩

theorem mayEnd_error {es : List (Event clients)} {e : Setback}
    (unseen : ∀ ev ∈ es, ev.call ≠ .observe .scanner job.names.scanner) :
    MayEnd facilities job es (.error e) := by
  intro handle seen
  obtain ⟨status, mem⟩ := seen
  exact unseen _ mem rfl

theorem ensurePure_lawful {kind : ResourceKind} {name : String} {estimate : Duration}
    {spec : ResourceSpec} {before : List (Event clients)}
    {post : List (Event clients) → Except Setback Handle → Prop}
    (quiet : ∀ ev ∈ before, ev.call.isStaging = false)
    (unseen : ∀ ev ∈ before, ev.call ≠ .observe kind name)
    (create : ∀ r, MayAsk facilities job (before ++ [⟨.observe kind name, r⟩]) (.create name spec))
    (ready : ∀ handle status, post (before ++ [readyLook kind name handle status]) (.ok handle))
    (short : ∀ r more e, (∀ handle status, r ≠ .ok ⟨handle, .ready, status⟩) →
      (∀ ev ∈ more, ev.call = .create name spec) →
      post (before ++ ⟨.observe kind name, r⟩ :: more) (.error e)) :
    Guarded recording (MayAsk facilities job) post (ensure kind name estimate (pure spec)).run before := by
  refine ensure_guarded (mayAsk_observe quiet unseen) ?_ ?_ ?_
  · intro handle status t recorded
    subst recorded
    exact ready handle status
  · intro r t e recorded unready
    subst recorded
    exact short r [] e unready (by simp)
  · intro r t recorded absent
    subst recorded
    refine ⟨create r, ?_⟩
    intro r' t e recorded
    subst recorded
    have unready : ∀ handle status, r ≠ .ok ⟨handle, .ready, status⟩ := by
      intro handle status recorded
      subst recorded
      cases absent
    rw [List.append_assoc]
    exact short r [⟨.create name spec, r'⟩] e unready (by simp)

/-- So far a pass has only looked up resources that come before the scanner. -/
def OnlyLooked (es : List (Event clients)) : Prop :=
  ∀ ev ∈ es, ∃ kind name, ev.call = .observe kind name ∧ kind ≠ .scanner

section

variable {es : List (Event clients)} (looked : OnlyLooked es)

include looked

private theorem OnlyLooked.notStarted : ∀ ev ∈ es, ev.call.starts = false := by
  intro ev mem
  obtain ⟨kind, name, same, -⟩ := looked ev mem
  simp [same]

private theorem OnlyLooked.notStaging : ∀ ev ∈ es, ev.call.isStaging = false := by
  intro ev mem
  obtain ⟨kind, name, same, -⟩ := looked ev mem
  simp [same]

theorem OnlyLooked.unchanged : ∀ ev ∈ es, ev.call.changes = false := by
  intro ev mem
  obtain ⟨kind, name, same, -⟩ := looked ev mem
  simp [same]

theorem OnlyLooked.notScanner {name : String} : ∀ ev ∈ es, ev.call ≠ .observe .scanner name := by
  intro ev mem
  obtain ⟨kind, name', same, early⟩ := looked ev mem
  simp [same, early]

end

/-- A look at a resource before the scanner that the pass does not get past. -/
theorem mayEnd_short {kind : ResourceKind} {name : String} {spec : ResourceSpec}
    {before more : List (Event clients)} {r : Except Failure Observation} {e : Setback}
    (looked : OnlyLooked before) (early : kind ≠ .scanner)
    (creates : ∀ ev ∈ more, ev.call = .create name spec) :
    MayEnd facilities job (before ++ ⟨.observe kind name, r⟩ :: more) (.error e) := by
  refine mayEnd_error (List.forall_mem_append.mpr ⟨looked.notScanner, ?_⟩)
  refine List.forall_mem_cons.mpr ⟨?_, ?_⟩
  · intro same
    cases same
    exact early rfl
  · intro ev mem same
    have created := creates ev mem
    rw [same] at created
    cases created

theorem ensureVolume_lawful {staging : Option StagingStore} {snapshot : Handle} {status : String}
    {post : List (Event clients) → Except Setback Handle → Prop} (fits : Fits facilities job staging)
    (ready : ∀ volume status', post [readyLook .snapshot job.names.snapshot snapshot status,
      readyLook .volume job.names.volume volume status'] (.ok volume))
    (short : ∀ es e, (∀ ev ∈ es, ev.call ≠ .observe .scanner job.names.scanner) → post es (.error e)) :
    Guarded recording (MayAsk facilities job) post
      (ensureVolume timing job (volumeSource staging timing job snapshot)).run
      [readyLook .snapshot job.names.snapshot snapshot status] := by
  rw [ensureVolume]
  refine ensure_guarded
    (mayAsk_observe (by simp [readyLook]) (by simp [readyLook])) ?_ ?_ ?_
  · intro volume status' t recorded
    subst recorded
    exact ready volume status'
  · intro r t e recorded _
    subst recorded
    exact short _ e (by simp [readyLook])
  · intro r t recorded absent
    subst recorded
    have unseen {more : List (Event clients)} (staged : ∀ ev ∈ more, ev.call.isStaging = true) :
        ∀ ev ∈ [readyLook .snapshot job.names.snapshot snapshot status] ++
          [⟨.observe .volume job.names.volume, r⟩] ++ more,
          ev.call ≠ .observe .scanner job.names.scanner := by
      refine List.forall_mem_append.mpr ⟨by simp [readyLook], ?_⟩
      intro ev mem same
      have staging := staged ev mem
      rw [same] at staging
      cases staging
    have quiet : ∀ ev ∈ [readyLook .snapshot job.names.snapshot snapshot status] ++
        [⟨.observe .volume job.names.volume, r⟩], ev.call.starts = false := by
      simp [readyLook]
    refine guarded_bindExcept (guarded_mono ?_ (volumeSource_lawful fits quiet ?_))
    · rintro after (e | source) ⟨more, rfl, staged, done⟩
      · exact short _ e (unseen staged)
      · obtain ⟨quieter, sourced⟩ := done source rfl
        refine ⟨⟨?once, by simp, by simp, ?volume, by simp⟩, ?failed⟩
        case once => exact fun _ => List.forall_mem_append.mpr ⟨quiet, quieter⟩
        case volume =>
          intro name spec same
          cases same
          exact ⟨rfl, snapshot, source, ⟨status, by simp⟩, sourced, rfl⟩
        case failed =>
          intro r' t e recorded
          subst recorded
          exact short _ e (List.forall_mem_append.mpr ⟨unseen staged, by simp⟩)
    · intro seen mem
      simp [readyLook] at mem
      subst mem
      exact absent

theorem ensureNetworkInterface_lawful {before : List (Event clients)}
    {post : List (Event clients) → Except Setback Handle → Prop} (looked : OnlyLooked before)
    (unseen : ∀ ev ∈ before, ev.call ≠ .observe .networkInterface job.names.networkInterface)
    (ready : ∀ handle status, post
      (before ++ [readyLook .networkInterface job.names.networkInterface handle status]) (.ok handle))
    (short : ∀ es e, MayEnd facilities job es (.error e) → post es (.error e)) :
    Guarded recording (MayAsk facilities job) post (ensureNetworkInterface timing job).run before := by
  rw [ensureNetworkInterface]
  refine ensurePure_lawful looked.notStaging unseen ?_ ready ?_
  · intro r
    exact mayAsk_create (by simp) (by simp)
      (List.forall_mem_append.mpr ⟨looked.notStarted, by simp⟩)
  · intro r more e _ creates
    exact short _ e (mayEnd_short looked (by decide) creates)

/-- The last step of a pass, once everything that the scanner needs has been seen ready. -/
theorem ensureScanner_lawful {before : List (Event clients)} {snapshot volume : Handle}
    {networkInterface : Option Handle} (looked : OnlyLooked before)
    (seenSnapshot : SeenReady before .snapshot job.names.snapshot snapshot)
    (seenVolume : SeenReady before .volume job.names.volume volume)
    (connected : Connected facilities job before networkInterface) :
    Guarded recording (MayAsk facilities job) (MayEnd facilities job)
      (discard (ensureScanner timing job volume networkInterface)).run before := by
  have later {kind : ResourceKind} {name : String} {handle : Handle} {ev : Event clients}
      (seen : SeenReady before kind name handle) : SeenReady (before ++ [ev]) kind name handle := by
    obtain ⟨status, mem⟩ := seen
    exact ⟨status, List.mem_append_left _ mem⟩
  refine guarded_mapExcept (ensurePure_lawful looked.notStaging
    looked.notScanner ?_ ?_ ?_)
  · intro r
    refine ⟨?once, by simp, by simp, by simp, ?scanner⟩
    case once =>
      exact fun _ => List.forall_mem_append.mpr ⟨looked.notStarted, by simp⟩
    case scanner =>
      intro name spec same
      cases same
      refine ⟨rfl, snapshot, volume, networkInterface, later seenSnapshot, later seenVolume, ?_, rfl⟩
      cases networkInterface with
      | none => exact connected
      | some handle => exact ⟨connected.1, later connected.2⟩
  · intro handle status
    refine ⟨⟨⟨snapshot, later seenSnapshot⟩, ⟨volume, later seenVolume⟩, ?_,
      handle, status, by simp⟩, ?_⟩
    · intro has
      cases networkInterface with
      | none => cases has.symm.trans connected
      | some nic => exact ⟨nic, later connected.2⟩
    · exact List.forall_mem_append.mpr
        ⟨looked.unchanged, by simp [readyLook]⟩
  · intro r more e unready creates handle seen
    obtain ⟨status, mem⟩ := seen
    rcases List.mem_append.mp mem with mem | mem
    · exact looked.notScanner _ mem rfl
    · rcases List.mem_cons.mp mem with same | mem
      · cases same
        exact unready handle status rfl
      · cases creates _ mem

/-- Every question of a build pass is in order, and so is its end. -/
theorem build_lawful : Guarded recording (MayAsk facilities job) (MayEnd facilities job)
    (build facilities timing job).run [] := by
  rw [build]
  refine guarded_bindExcept ?_
  obtain ⟨e, run⟩ | ⟨staging, run, fits⟩ := stagingFor_run facilities job
  · rw [run]
    have atOnce : MayEnd facilities job [] (.error e) := mayEnd_error (by simp)
    exact atOnce
  rw [run]
  refine guarded_bindExcept (ensurePure_lawful (by simp) (by simp) ?_ ?_ ?_)
  · intro r
    exact mayAsk_create (by simp) (by simp) (by simp)
  · intro snapshot status
    refine guarded_bindExcept (ensureVolume_lawful fits ?_ fun es e unseen => mayEnd_error unseen)
    intro volume status'
    have looked : OnlyLooked [readyLook .snapshot job.names.snapshot snapshot status,
        readyLook .volume job.names.volume volume status'] := by
      simp [OnlyLooked, readyLook]
    have seenSnapshot {more : List (Event clients)} : SeenReady
        (readyLook .snapshot job.names.snapshot snapshot status :: more) .snapshot
        job.names.snapshot snapshot := ⟨status, .head _⟩
    have seenVolume {first : Event clients} {more : List (Event clients)} : SeenReady
        (first :: readyLook .volume job.names.volume volume status' :: more) .volume
        job.names.volume volume := ⟨status', .tail _ (.head _)⟩
    cases has : facilities.hasNetwork with
    | false => exact ensureScanner_lawful looked seenSnapshot seenVolume has
    | true =>
      refine guarded_bindExcept (guarded_mapExcept (ensureNetworkInterface_lawful looked
        (by simp [readyLook]) ?_ fun es e ending => ending))
      intro handle status''
      have lookedAll : OnlyLooked (_ ++ [readyLook .networkInterface job.names.networkInterface handle
          status'']) := List.forall_mem_append.mpr ⟨looked, by simp [readyLook]⟩
      exact ensureScanner_lawful lookedAll seenSnapshot seenVolume
        ⟨has, status'', List.mem_append_right _ (.head _)⟩
  · intro r more e _ creates
    have looked : OnlyLooked [] := by simp [OnlyLooked]
    exact mayEnd_short looked (by decide) creates

/-- Making sure of a resource succeeds only on a look that finds it ready. -/
theorem trace_ensure_ok {kind : ResourceKind} {name : String} {estimate : Duration}
    {spec : Pass ResourceSpec} {es : List (Event clients)} {handle : Handle}
    (run : Trace (ensure kind name estimate spec).run es (some (.ok handle))) :
    ∃ status, es = [readyLook kind name handle status] := by
  have guarded : Guarded recording anything (fun after result => ∀ found, result = .ok found →
      ∃ status, after = [readyLook kind name found status])
      (ensure kind name estimate spec).run [] := by
    refine ensure_guarded trivial ?_ (by simp) ?_
    · intro found status t recorded found' same
      cases same
      exact ⟨status, recorded⟩
    · intro r t _ _
      refine guarded_mono ?_ (guarded_anything _ _)
      rintro u (e | made) -
      · simp
      · exact ⟨trivial, by simp⟩
  exact (run.lawful guarded).2 _ rfl handle rfl

/-- A build pass that succeeds has done nothing but look. -/
theorem trace_build_ok {es : List (Event clients)}
    (run : Trace (build facilities timing job).run es (some (.ok ()))) :
    ∀ ev ∈ es, ∃ kind name, ev.call = .observe kind name := by
  have looked {kind : ResourceKind} {name : String} {estimate : Duration} {spec : Pass ResourceSpec}
      {es : List (Event clients)} {handle : Handle}
      (run : Trace (ensure kind name estimate spec).run es (some (.ok handle))) :
      ∀ ev ∈ es, ∃ kind name, ev.call = .observe kind name := by
    obtain ⟨status, rfl⟩ := trace_ensure_ok run
    simp [readyLook]
  rw [build] at run
  obtain ⟨staging, first, es, rfl, chosen, run⟩ := trace_bindExcept_ok_iff.mp run
  obtain ⟨snapshot, second, es, rfl, ensured, run⟩ := trace_bindExcept_ok_iff.mp run
  obtain ⟨volume, third, es, rfl, ensured', run⟩ := trace_bindExcept_ok_iff.mp run
  have ended {networkInterface : Option Handle} {es : List (Event clients)} (run : Trace
      (discard (ensureScanner timing job volume networkInterface)).run es (some (.ok ()))) :
      ∀ ev ∈ es, ∃ kind name, ev.call = .observe kind name := by
    obtain ⟨scanner, before, after, rfl, ensured, rest⟩ := trace_bindExcept_ok_iff.mp run
    cases rest
    simpa using looked ensured
  have early : first = [] := by
    obtain ⟨e, atOnce⟩ | ⟨staging', atOnce, -⟩ := stagingFor_run facilities job
    all_goals rw [atOnce] at chosen; cases chosen
    rfl
  rw [early, List.nil_append]
  refine List.forall_mem_append.mpr ⟨looked ensured, List.forall_mem_append.mpr ⟨looked ensured', ?_⟩⟩
  cases has : facilities.hasNetwork with
  | false =>
    rw [has] at run
    exact ended run
  | true =>
    rw [has] at run
    obtain ⟨networkInterface, fourth, last, rfl, connected, run⟩ := trace_bindExcept_ok_iff.mp run
    obtain ⟨handle, before, after, rfl, ensured'', rest⟩ := trace_bindExcept_ok_iff.mp connected
    cases rest
    exact List.forall_mem_append.mpr ⟨by simpa using looked ensured'', ended run⟩

/-- The order that the events of a build pass keep, whether it ends or is cut off. -/
structure InOrder (facilities : Facilities) (job : Job) (es : List (Event clients))
    (e : Option (Except Setback Unit)) : Prop where
  /-- The volume is created only from a source that is ready. -/
  volume : ∀ before name spec r after, es = before ++ ⟨.create name (.volume spec), r⟩ :: after →
    name = job.names.volume ∧
    spec = {
      location := job.destinationRegion
      storageClass := job.sizing.storageClass
      source := spec.source } ∧
    ∃ snapshot, SeenReady before .snapshot job.names.snapshot snapshot ∧
      Sourced facilities job before snapshot spec.source
  /-- The scanner is created only with a volume and a network interface that are ready. -/
  scanner : ∀ before name spec r after, es = before ++ ⟨.create name (.scanner spec), r⟩ :: after →
    name = job.names.scanner ∧
    spec = {
      scanId := job.scanId
      location := job.destinationRegion
      computeSize := job.sizing.computeSize
      osDiskGigabytes := job.sizing.osDiskGigabytes
      storageClass := job.sizing.storageClass
      volume := spec.volume
      networkInterface := spec.networkInterface
      image := job.scanner.image
      config := job.scanner.config
      server := job.scanner.server
      useSpot := job.sizing.useSpot
      maxSpotPrice := job.sizing.maxSpotPrice } ∧
    (∃ snapshot, SeenReady before .snapshot job.names.snapshot snapshot) ∧
    SeenReady before .volume job.names.volume spec.volume ∧
    Connected facilities job before spec.networkInterface
  /-- Where the volume is there, nothing is staged. -/
  unstaged : ∀ seen, (⟨.observe .volume job.names.volume, .ok seen⟩ : Event clients) ∈ es →
    seen.state ≠ .absent → ∀ ev ∈ es, ev.call.isStaging = false
  /-- One thing is started at most. -/
  startsOnce : es.countP (fun ev => ev.call.starts) ≤ 1
  /-- No resource is looked up twice, so a handle that was seen is the only one. -/
  looksOnce : ∀ kind name, es.countP (fun ev => ev.call = .observe kind name) ≤ 1
  success : ∀ result, e = some result → (result = .ok () ↔ AllReady facilities job es)
  unchanged : e = some (.ok ()) → ∀ ev ∈ es, ev.call.changes = false

/-- Every build pass keeps the order, whatever the clients answer. -/
theorem build_inOrder {es : List (Event clients)} {e : Option (Except Setback Unit)}
    (run : Trace (build facilities timing job).run es e) : InOrder facilities job es e := by
  obtain ⟨asked, ended⟩ := run.lawful build_lawful
  constructor
  case volume =>
    intro before name spec r after split
    obtain ⟨named, snapshot, source, seen, sourced, rfl⟩ := (asked before _ after split).volume name spec rfl
    exact ⟨named, rfl, snapshot, seen, sourced⟩
  case scanner =>
    intro before name spec r after split
    obtain ⟨named, snapshot, volume, networkInterface, seen, ready, connected, rfl⟩ :=
      (asked before _ after split).scanner name spec rfl
    exact ⟨named, rfl, ⟨snapshot, seen⟩, ready, connected⟩
  case unstaged =>
    intro seen mem there ev evMem
    obtain ⟨before, after, split⟩ := List.append_of_mem mem
    have earlier := ((asked before _ after split).look .volume job.names.volume rfl).1
    rw [split] at evMem
    rcases List.mem_append.mp evMem with evMem | evMem
    -- A pass looks before it stages, so nothing before the look is a staging call; and a staging call
    -- after it would have needed the volume to be absent.
    · exact earlier ev evMem
    · rcases List.mem_cons.mp evMem with rfl | evMem
      · rfl
      · obtain ⟨between, rest, rfl⟩ := List.append_of_mem evMem
        cases staging : ev.call.isStaging with
        | false => rfl
        | true =>
          have later := asked (before ++ ⟨.observe .volume job.names.volume, .ok seen⟩ :: between) ev
            rest (by rw [split]; simp)
          exact absurd (later.staging staging seen (by simp)) there
  case startsOnce =>
    apply countP_le_one
    intro before ev after split starts
    exact (asked before ev after split).once starts
  case looksOnce =>
    intro kind name
    apply countP_le_one
    intro before ev after split same x mem
    exact decide_eq_false (((asked before ev after split).look kind name (of_decide_eq_true same)).2 x mem)
  case success =>
    rintro (e | ⟨⟩) rfl
    · refine ⟨by simp, ?_⟩
      intro allReady
      obtain ⟨-, -, -, handle, seen⟩ := allReady
      exact absurd seen (ended _ rfl handle)
    · exact ⟨fun _ => (ended _ rfl).1, fun _ => rfl⟩
  case unchanged =>
    intro same
    subst same
    exact (ended _ rfl).2

section

open Rehearsal

def rehearsal : Program clients (Except Setback Unit) :=
  (build (Cloud.facilities true) .cloud (sampleJob true)).run

def rehearsed : Nat → Cloud
  | 0 => Cloud.empty 0
  | passes + 1 => (Cloud.run rehearsal (rehearsed passes)).2

/-- The third pass finds the copy complete and creates the volume from it. -/
theorem build_inOrder_third_pass :
    (rehearsal.log Cloud.answer (rehearsed 2)).map (·.call) = [
      .observe .snapshot "asset-scan-snapshot-scan-0001",
      .observe .volume "asset-scan-volume-scan-0001",
      .copyStatus "scan-0001.vhd",
      .revokeAccess "asset-scan-snapshot-scan-0001",
      .create "asset-scan-volume-scan-0001" (.volume {
        location := "westeurope"
        storageClass := "StandardSSD_LRS"
        source := .staged {
          url := "https://scanner.blob.example/scans/scan-0001.vhd"
          storageAccountId := Cloud.store.storageAccountId } })] ∧
    InOrder (Cloud.facilities true) (sampleJob true) (rehearsal.log Cloud.answer (rehearsed 2))
      (some (Cloud.run rehearsal (rehearsed 2)).1) := by
  have run := trace_log (I := clients) Cloud.answer rehearsal (rehearsed 2)
  exact ⟨by decide +kernel, build_inOrder run⟩

end

end Pass

end ScanProvisioning
