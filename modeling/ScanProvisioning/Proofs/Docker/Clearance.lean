import ScanProvisioning.Proofs.Docker.Progress

namespace ScanProvisioning.Docker

open Program Rehearsal

/-- Nothing of a job is at a site, nor on its way. -/
structure Cleared (job : Job) (s : Site Inventory) : Prop where
  containers : ∀ p, s.status job p = none
  volume : job.names.volume ∉ s.engine.volumes
  image : job.names.snapshot ∉ s.engine.images
  commit : s.background.underway (.commit job.names.snapshot) = 0

section

variable {c : Config} {job : Job} {faults : Faults} {s t u : Site Inventory} {es : List (Event clients)}

private theorem Sound.cleared (sound : Sound c job s) (gone : ∀ kind, Gone job s kind) : Cleared job s where
  containers p := by
    cases p with
    | filler => exact Decidable.not_not.mp (mt sound.filled (gone .volume))
    | scanner => exact gone .scanner
  volume := gone .volume
  image := (gone .snapshot).1
  commit := sound.balanced.underway_eq_zero (gone .snapshot).2

/-- What is gone does not come back by itself. -/
theorem Drifted.gone (drifted : Drifted c job s t) (gone : ∀ kind, Gone job s kind) :
    ∀ kind, Gone job t kind :=
  fun kind => drifted.shrunk.gone (gone kind)

theorem Peer.Makes.gone (tame : faults.Tame) (sound : Sound c job s)
    (removal : (engine c job faults).Makes c .remove job s es (some (.ok ())) t) : ∀ kind, Gone job t kind := by
  cases removal with
  | whole run replies =>
    obtain ⟨-, ending, -⟩ := run.guarded replies (teardown_steady tame sound)
    exact (ending _ rfl).2 rfl

variable (faults) in
/-- A removal of the image, where nothing else is left, may succeed. -/
theorem Workable.removes {r : Http.Response} {v : Json} (workable : Workable c job) (describes : Describes r v)
    (shown : v.string? "Id" = some (imageId job.names.snapshot))
    (made : s.engine = { images := [job.names.snapshot] })
    (idle : s.background.tasks.get? (.commit job.names.snapshot) = none) :
    ∃ es t, (engine c job faults).Makes c .remove job s es (some (.ok ())) t := by
  have noScanner : Lacks job s .scanner := by simp [Lacks, Site.status, made, Registry.get?_empty]
  have noVolume : Lacks job s .volume := by simp [Lacks, made]
  have known : s.engine.knows job.names.snapshot = true := Inventory.knows_of_mem (by simp [made])
  have noImage : Lacks job { s with engine := Op.removeImage.effect job s.engine } .snapshot := by
    refine ⟨idle, ?_⟩
    simp [made, Op.effect, Inventory.knows]
  obtain ⟨f₁, missing₁, look₁⟩ := workable.misses faults noScanner
  obtain ⟨f₂, missing₂, look₂⟩ := workable.misses faults noVolume
  obtain ⟨f₃, missing₃, look₃⟩ := workable.misses faults noImage
  have found := workable.finds_snapshot faults describes shown idle known
  have removed : Leads ((engine c job faults).Treats c) (provider.pass .remove job).run s (.ok ())
      { s with engine := Op.removeImage.effect job s.engine } := by
    rw [Provider.pass, workable.takenOn .remove]
    dsimp only [Pass.ofPhase]
    rw [Pass.teardown_eq_removeAll, docker_removalOrder]
    refine leads_bindExcept (Pass.leads_ensureAbsent_missing missing₁ look₁) ?_
    refine leads_bindExcept (Pass.leads_ensureAbsent_missing missing₂ look₂) ?_
    refine leads_bindExcept (Pass.leads_ensureAbsent_deleted missing₃ found
      (workable.removes_snapshot idle known) look₃) ?_
    exact leads_done _ _
  obtain ⟨es, run, replies⟩ := removed
  exact ⟨es, _, .whole run replies⟩

/-- Whatever runs and removals of a job have come to, whatever failed in them and wherever they were cut
off: a removal that succeeds leaves nothing, and nothing appears afterwards. -/
theorem removal_clears {e : Inventory} {admits : Phase → Prop} {ends : List Ending}
    (filled : e.containers.get? (Part.filler.name job) ≠ none → job.names.volume ∈ e.volumes)
    (life : (engine c job faulty).Life c admits job ⟨e, {}⟩ s)
    (removal : (engine c job faulty).Makes c .remove job s es (some (.ok ())) t)
    (drifts : (engine c job faulty).Drifts t ends u) : Cleared job u := by
  have sound := life.sound faulty_tame (sound_fresh filled)
  have removed := (removal.kept faulty_tame sound).sound
  have drifted := removed.drift drifts
  exact drifted.sound.cleared (drifted.gone (removal.gone faulty_tame sound))

end

/-- A snapshot is taken and removed again. -/
theorem removal_clears_snapshot : ∃ s t, sampleContainerJob.names.snapshot ∈ s.engine.images ∧
    (engine sampleConfig sampleContainerJob faulty).Life sampleConfig (fun _ => True) sampleContainerJob
      ⟨{}, {}⟩ s ∧
    (∃ es, (engine sampleConfig sampleContainerJob faulty).Makes sampleConfig .remove sampleContainerJob s es
      (some (.ok ())) t) ∧ Cleared sampleContainerJob t := by
  obtain ⟨s, life, made, idle⟩ := workable_sample.takes_snapshot faulty (fun _ => True) trivial
  obtain ⟨v, describes, shown⟩ := sampleImage_described
  obtain ⟨es, t, removal⟩ := workable_sample.removes faulty describes shown made idle
  refine ⟨s, t, by simp [made], life, ⟨es, removal⟩, ?_⟩
  exact removal_clears (by simp [Registry.get?_empty]) life removal (.rest t)

end ScanProvisioning.Docker
