import ScanProvisioning.Proofs.Pass.Steps

namespace ScanProvisioning.Pass

open Program

/-- A resource was found missing, by a look at it or by its deletion. -/
def Gone (es : List (Event clients)) (kind : ResourceKind) (name : String) : Prop :=
  ∃ f : Failure, f.verdict = .missing ∧
    ((⟨.observe kind name, .error f⟩ : Event clients) ∈ es ∨
      (⟨.delete kind name, .error f⟩ : Event clients) ∈ es)

/-- A staged copy was found missing. -/
def CopyGone (es : List (Event clients)) (name : String) : Prop :=
  ∃ f : Failure, f.verdict = .missing ∧ (⟨.copyStatus name, .error f⟩ : Event clients) ∈ es

/-- Every resource that a job may have was found missing. -/
structure AllGone (facilities : Facilities) (job : Job) (es : List (Event clients)) : Prop where
  scanner : Gone es .scanner job.names.scanner
  networkInterface : facilities.hasNetwork = true → Gone es .networkInterface job.names.networkInterface
  volume : Gone es .volume job.names.volume
  stagedCopy : job.crossesRegions = true → facilities.store.isSome = true →
    CopyGone es job.names.stagedCopy
  snapshot : Gone es .snapshot job.names.snapshot

variable {facilities : Facilities} {timing : Timing} {job : Job} {es more : List (Event clients)}

theorem Gone.mono {kind : ResourceKind} {name : String} (sub : es ⊆ more) (gone : Gone es kind name) :
    Gone more kind name := by
  obtain ⟨f, missing, seen | deleted⟩ := gone
  · exact ⟨f, missing, .inl (sub seen)⟩
  · exact ⟨f, missing, .inr (sub deleted)⟩

theorem CopyGone.mono {name : String} (sub : es ⊆ more) (gone : CopyGone es name) : CopyGone more name := by
  obtain ⟨f, missing, seen⟩ := gone
  exact ⟨f, missing, sub seen⟩

theorem ensureAbsent_gone {kind : ResourceKind} {name : String} {estimate : Duration} :
    Guarded recording anything (fun es result => result = .ok () → Gone es kind name)
      (ensureAbsent kind name estimate).run [] := by
  rw [ensureAbsent]
  refine guarded_step (isPresent_run kind name) trivial (by simp) ?_
  intro r t present recorded looked
  subst recorded
  cases present with
  | false =>
    obtain ⟨f, missing, rfl⟩ := missing_of_eq_gone (by simp) looked
    exact fun _ => ⟨f, missing, .inl (by simp)⟩
  | true =>
    refine guarded_ask trivial ?_
    rintro (f | ⟨⟩) t rfl
    · dsimp only
      cases verdict : f.verdict with
      | missing => exact fun _ => ⟨f, verdict, .inr (by simp)⟩
      | retry delay reason => exact guarded_giveUp (by simp)
      | fatal reason => exact guarded_giveUp (by simp)
    · refine guarded_step (isPresent_run kind name) trivial (by simp) ?_
      intro r' t present recorded looked
      subst recorded
      cases present with
      | false =>
        obtain ⟨f, missing, rfl⟩ := missing_of_eq_gone (by simp) looked
        exact fun _ => ⟨f, missing, .inl (by simp)⟩
      | true => exact guarded_throw (by simp)

theorem removeStagedCopy_gone :
    Guarded recording anything (fun es result => result = .ok () → CopyGone es job.names.stagedCopy)
      (removeStagedCopy timing job).run [] := by
  rw [removeStagedCopy]
  refine guarded_step (copyProgress_run _) trivial (by simp) ?_
  intro r t found recorded looked
  subst recorded
  cases found with
  | none =>
    obtain ⟨f, missing, rfl⟩ := missing_of_eq_gone (by simp) looked
    exact fun _ => ⟨f, missing, by simp⟩
  | some progress =>
    refine guarded_step (revokeGrants_run _) trivial (by simp) ?_
    intro revoked t same recorded _
    cases same
    subst recorded
    refine guarded_step (deleteCopy_run _) trivial (by simp) ?_
    intro deleted t same recorded _
    cases same
    subst recorded
    refine guarded_step (copyProgress_run _) trivial (by simp) ?_
    intro last t found recorded looked
    subst recorded
    cases found with
    | none =>
      obtain ⟨f, missing, rfl⟩ := missing_of_eq_gone (by simp) looked
      exact fun _ => ⟨f, missing, by simp⟩
    | some progress => exact guarded_throw (by simp)

def onlyIf (needed : Bool) (x : Pass Unit) : Pass Unit := if needed then x else pure ()

theorem teardown_eq (facilities : Facilities) (timing : Timing) (job : Job) :
    teardown facilities timing job =
      ensureAbsent .scanner job.names.scanner timing.deletion >>= fun _ =>
      onlyIf facilities.hasNetwork
        (ensureAbsent .networkInterface job.names.networkInterface timing.deletion) >>= fun _ =>
      ensureAbsent .volume job.names.volume timing.deletion >>= fun _ =>
      onlyIf (job.crossesRegions && facilities.store.isSome) (removeStagedCopy timing job) >>= fun _ =>
      ensureAbsent .snapshot job.names.snapshot timing.deletion := by
  unfold teardown onlyIf
  cases facilities.hasNetwork <;> cases job.crossesRegions && facilities.store.isSome <;> rfl

private theorem trace_onlyIf {needed : Bool} {x : Pass Unit}
    (run : Trace (onlyIf needed x).run es (some (.ok ())))
    (need : needed = true) : Trace x.run es (some (.ok ())) := by
  subst need
  exact run

/-- A removal pass succeeds only where it has found everything missing. -/
theorem teardown_allGone (run : Trace (teardown facilities timing job).run es (some (.ok ()))) :
    AllGone facilities job es := by
  have gone {kind : ResourceKind} {name : String} {estimate : Duration} {part : List (Event clients)}
      (run : Trace (ensureAbsent kind name estimate).run part (some (.ok ()))) (sub : part ⊆ es) :
      Gone es kind name :=
    ((run.lawful ensureAbsent_gone).2 _ rfl rfl).mono sub
  rw [teardown_eq] at run
  obtain ⟨⟨⟩, ofScanner, _, rfl, scanner, run⟩ := trace_bindExcept_ok_iff.mp run
  obtain ⟨⟨⟩, ofNetwork, _, rfl, network, run⟩ := trace_bindExcept_ok_iff.mp run
  obtain ⟨⟨⟩, ofVolume, _, rfl, volume, run⟩ := trace_bindExcept_ok_iff.mp run
  obtain ⟨⟨⟩, ofCopy, ofSnapshot, rfl, copy, snapshot⟩ := trace_bindExcept_ok_iff.mp run
  constructor
  case scanner => exact gone scanner fun ev mem => by simp [mem]
  case networkInterface =>
    intro has
    exact gone (trace_onlyIf network has) fun ev mem => by simp [mem]
  case volume => exact gone volume fun ev mem => by simp [mem]
  case stagedCopy =>
    intro crosses store
    have removed := trace_onlyIf copy (by rw [crosses, store]; rfl)
    exact ((removed.lawful removeStagedCopy_gone).2 _ rfl rfl).mono fun ev mem => by simp [mem]
  case snapshot => exact gone snapshot fun ev mem => by simp [mem]

section

variable {allowed : Event clients → Prop} {f : Failure} (missing : f.verdict = .missing)

include missing

/-- A look that finds a resource missing is all that making sure of its absence takes. -/
theorem canEnd_ensureAbsent {kind : ResourceKind} {name : String} {estimate : Duration}
    (may : allowed ⟨.observe kind name, .error f⟩) :
    CanEnd allowed (ensureAbsent kind name estimate).run (.ok ()) := by
  rw [ensureAbsent]
  refine canEnd_bindExcept (canEnd_step (isPresent_run kind name) may (unlessMissing_missing missing)) ?_
  exact canEnd_done _

private theorem canEnd_removeStagedCopy (may : allowed ⟨.copyStatus job.names.stagedCopy, .error f⟩) :
    CanEnd allowed (removeStagedCopy timing job).run (.ok ()) := by
  rw [removeStagedCopy]
  refine canEnd_bindExcept (canEnd_step (copyProgress_run _) may (unlessMissing_missing missing)) ?_
  exact canEnd_done _

end

section

variable {allowed : Event clients → Prop}

private theorem canEnd_onlyIf {needed : Bool} {x : Pass Unit}
    (step : needed = true → CanEnd allowed x.run (.ok ())) :
    CanEnd allowed (onlyIf needed x).run (.ok ()) := by
  cases needed with
  | false => exact canEnd_done _
  | true => exact step rfl

/-- Where the look at every resource of the job may find it missing, and that at its copy if it has one, a
removal pass can succeed on the looks alone. -/
theorem canEnd_teardown_own (facilities : Facilities) (timing : Timing) (job : Job)
    (resources : ∀ kind, kind ≠ .stagedCopy →
      ∃ f : Failure, f.verdict = .missing ∧ allowed ⟨.observe kind (job.names.of kind), .error f⟩)
    (copies : job.crossesRegions = true →
      ∃ f : Failure, f.verdict = .missing ∧ allowed ⟨.copyStatus job.names.stagedCopy, .error f⟩) :
    CanEnd allowed (teardown facilities timing job).run (.ok ()) := by
  have absent (kind : ResourceKind) (real : kind ≠ .stagedCopy) :
      CanEnd allowed (ensureAbsent kind (job.names.of kind) timing.deletion).run (.ok ()) := by
    obtain ⟨f, missing, may⟩ := resources kind real
    exact canEnd_ensureAbsent missing may
  have removed (staged : (job.crossesRegions && facilities.store.isSome) = true) :
      CanEnd allowed (removeStagedCopy timing job).run (.ok ()) := by
    obtain ⟨f, missing, may⟩ := copies (Bool.and_eq_true_iff.mp staged).1
    exact canEnd_removeStagedCopy missing may
  rw [teardown_eq]
  apply canEnd_bindExcept (absent .scanner (by decide))
  apply canEnd_bindExcept (canEnd_onlyIf fun _ => absent .networkInterface (by decide))
  apply canEnd_bindExcept (absent .volume (by decide))
  apply canEnd_bindExcept (canEnd_onlyIf removed)
  exact absent .snapshot (by decide)

/-- Where the look at every resource and at the copy may find it missing, a removal pass can succeed on
the looks alone. -/
theorem canEnd_teardown (facilities : Facilities) (timing : Timing) (job : Job)
    (resources : ∀ kind name, kind ≠ .stagedCopy →
      ∃ f : Failure, f.verdict = .missing ∧ allowed ⟨.observe kind name, .error f⟩)
    (copies : ∀ name, ∃ f : Failure, f.verdict = .missing ∧ allowed ⟨.copyStatus name, .error f⟩) :
    CanEnd allowed (teardown facilities timing job).run (.ok ()) :=
  canEnd_teardown_own facilities timing job (fun kind => resources kind _) fun _ => copies _

end

end ScanProvisioning.Pass
