import ScanProvisioning.Proofs.Docker.Creation
import ScanProvisioning.Proofs.Docker.Upkeep

namespace ScanProvisioning.Docker

open Program Rehearsal

namespace Part

/-- The kind of resource that a container belongs to. -/
def kind : Part → ResourceKind
  | filler => .volume
  | scanner => .scanner

/-- How the status of a container begins where it is shown. -/
def heading : Part → String
  | filler => "populate "
  | scanner => ""

end Part

/-- Nothing of a kind is left of a job. -/
def Gone (job : Job) (s : Site Inventory) : ResourceKind → Prop
  | .snapshot => Free job s
  | .volume => job.names.volume ∉ s.engine.volumes
  | .scanner => s.status job .scanner = none
  | _ => True

/-- A look at the resource that a container belongs to. -/
structure Observed (c : Config) (job : Job) (faults : Faults) (p : Part) (s : Site Inventory)
    (r : Except Failure Observation) (t : Site Inventory) : Prop where
  drifted : Drifted c job s t
  missing : ∀ f, r = .error f → f.verdict = .missing → Gone job t p.kind
  absent : Pass.LooksAbsent r → s.status job p = none
  created : s.status job p = some .created → ∀ seen, r = .ok seen →
    seen.state = .provisioning ∧ seen.status = p.heading ++ "created"
  failed : ∀ f, r = .error f → f.verdict ≠ .missing → ∃ op : Op, op.MayFail c job faults
  handle : ∀ seen, r = .ok seen → p = .filler → seen.handle = ⟨job.names.volume, job.names.volume⟩

/-- What a removal may make of a site. -/
structure Shrunk (c : Config) (job : Job) (s t : Site Inventory) : Prop where
  sound : Sound c job t
  container : ∀ p, s.status job p = none → t.status job p = none
  volume : job.names.volume ∉ s.engine.volumes → job.names.volume ∉ t.engine.volumes
  free : Free job s → Free job t

/-- What a creation may make of a site, which concerns one container or none. -/
structure Raised (c : Config) (job : Job) (own : Option Part) (s t : Site Inventory) : Prop where
  sound : Sound c job t
  knows : s.engine.knows job.names.snapshot = true → t.engine.knows job.names.snapshot = true
  created : ∀ p, own ≠ some p → (t.status job p = some .created ↔ s.status job p = some .created)

/-- A container can be neither started nor removed. -/
def Stuck (c : Config) (job : Job) (faults : Faults) (p : Part) : Prop :=
  (Op.start p).MayFail c job faults ∧ (Op.remove p).MayFail c job faults

section

variable {c : Config} {job : Job} {faults : Faults} {s t u : Site Inventory}

theorem Drifted.shrunk (drifted : Drifted c job s t) : Shrunk c job s t where
  sound := drifted.sound
  container p none := (drifted.absent p).mpr none
  volume := mt drifted.volume.mp
  free := drifted.free

theorem Shrunk.trans (first : Shrunk c job s t) (next : Shrunk c job t u) : Shrunk c job s u where
  sound := next.sound
  container p none := next.container p (first.container p none)
  volume none := next.volume (first.volume none)
  free none := next.free (first.free none)

theorem Shrunk.gone {kind : ResourceKind} (shrunk : Shrunk c job s t) (gone : Gone job s kind) :
    Gone job t kind := by
  cases kind with
  | snapshot => exact shrunk.free gone
  | volume => exact shrunk.volume gone
  | scanner => exact shrunk.container .scanner gone
  | stagedCopy | networkInterface => trivial

theorem upholds_getJson (op : Op) {operation path : String} {stands : Site Inventory → Prop}
    {post : Site Inventory → Except Failure Json → Prop} (tame : faults.Tame) (sound : Sound c job s)
    (here : stands s) (inspects : op.inspects = true) (asks : op.draft c job = c.draft .get path)
    (found : ∀ v t, op.refusal? job s.engine = none → op.ShownBy job s.engine v → Drifted c job s t →
      post t (.ok v))
    (missing : ∀ f t, op.refusal? job s.engine = some 404 → Failure.hasStatus 404 f = true →
      f.verdict = .missing → Drifted c job s t → post t (.error f))
    (failed : ∀ f t, op.MayFail c job faults → Inconclusive f → Drifted c job s t → post t (.error f)) :
    Upholds c job faults stands post (Engine.getJson c operation path).run s := by
  have other : op ≠ .pull := by
    rintro rfl
    cases inspects
  have careful : op.Careful job s := by
    cases op with
    | make | removeVolume => cases inspects
    | _ => trivial
  rw [Engine.getJson, ← asks]
  refine guarded_bindExcept (upholds_send op tame sound here other careful ?_)
  intro r e t result drifted
  cases result with
  | done possible shown =>
    rw [Op.effect_of_inspects inspects] at drifted
    obtain ⟨v, read, shown⟩ := shown inspects
    dsimp only
    rw [read]
    exact found v t possible shown drifted
  | refused refused =>
    rcases Op.refusal?_ne_accepted refused with rfl | rfl
    · exact missing _ t refused rfl (verdict_refusal_eq_missing_iff.mpr rfl) drifted
    · cases op <;> simp [Op.refusal?, Op.inspects] at refused inspects
  | failed may inconclusive => exact failed _ t may inconclusive drifted

/-- A look that does not come to an answer. -/
theorem observed_failed {p : Part} {f : Failure} {op : Op} (may : op.MayFail c job faults)
    (inconclusive : Inconclusive f) (drifted : Drifted c job s t) :
    Observed c job faults p s (.error f) t := by
  refine ⟨drifted, ?_, fun missing => absurd missing inconclusive.verdict, by simp, ?_, by simp⟩
  · intro g same missing
    cases same
    exact absurd missing inconclusive.verdict
  · exact fun _ _ _ => ⟨op, may⟩

/-- A look that is answered with a description of the container. -/
theorem observed_shown {p : Part} {status : Status} {handle : Handle} (drifted : Drifted c job s t)
    (stands : t.status job p = some status) (drifted' : Drifted c job t u)
    (own : p = .filler → handle = ⟨job.names.volume, job.names.volume⟩) :
    Observed c job faults p s
      (.ok { handle, state := status.shown.1, status := p.heading ++ status.shown.2 }) u := by
  refine ⟨drifted.trans drifted', by simp, ?_, ?_, by simp, ?_⟩
  · intro absent
    cases status with
    | created | running => cases absent
    | exited code =>
      by_cases zero : code = 0 <;> simp [Pass.LooksAbsent, Status.shown, zero] at absent
  · intro created seen same
    cases stands.symm.trans ((drifted.created p).mpr created)
    cases same
    exact ⟨rfl, rfl⟩
  · intro seen same
    cases same
    exact own

theorem upholds_observeVolume (tame : faults.Tame) (sound : Sound c job s) :
    Upholds c job faults (Drifted c job s) (fun t r => Observed c job faults .filler s r t)
      (c.observeVolume job.names.volume).run s := by
  rw [Config.observeVolume]
  refine guarded_bindExcept (guarded_discard (upholds_getJson .inspectVolume tame sound sound.drifted rfl rfl
    ?_ ?_ ?_))
  · intro volume t there _ drifted
    refine guarded_outcome (upholds_getJson (.inspect .filler) tame drifted.sound drifted rfl rfl
      ?_ ?_ ?_)
    · intro filler u _ shown drifted'
      obtain ⟨-, status, stands, shown⟩ := shown
      change Observed c job faults .filler s
        (.ok ⟨_, (containerState filler).1, "populate " ++ (containerState filler).2⟩) u
      rw [containerState_of_shownBy shown]
      exact observed_shown drifted stands drifted' fun _ => rfl
    · intro f u refused status missing drifted'
      dsimp only
      rw [if_pos status]
      have none : s.status job .filler = none := by
        rw [← drifted.absent .filler]
        simpa [Op.refusal?] using refused
      refine ⟨drifted.trans drifted', by simp, fun _ => none, by simp [none], by simp, ?_⟩
      intro seen same _
      cases same
      rfl
    · intro f u may inconclusive drifted'
      dsimp only
      rw [if_neg (by simp [inconclusive.status])]
      exact observed_failed may inconclusive (drifted.trans drifted')
  · intro f t refused _ missing drifted
    have gone : job.names.volume ∉ s.engine.volumes := by simpa [Op.refusal?] using refused
    have none : s.status job .filler = none := Decidable.not_not.mp (mt sound.filled gone)
    refine ⟨drifted, fun _ _ _ => mt drifted.volume.mp gone, fun _ => none, by simp, ?_, by simp⟩
    intro g same other
    cases same
    exact absurd missing other
  · intro f t may inconclusive drifted
    exact observed_failed may inconclusive drifted

theorem upholds_observeScanner (tame : faults.Tame) (sound : Sound c job s) :
    Upholds c job faults (Drifted c job s) (fun t r => Observed c job faults .scanner s r t)
      (c.observeScanner job.names.scanner).run s := by
  rw [Config.observeScanner]
  refine guarded_bindExcept (upholds_getJson (.inspect .scanner) tame sound sound.drifted rfl rfl ?_ ?_ ?_)
  · intro v t _ shown drifted
    obtain ⟨⟨id, named⟩, status, stands, shown⟩ := shown
    have settled : requiredText "inspecting scanner container" "Id" v = .ok id := by
      rw [requiredText, named]
    dsimp only
    rw [settled]
    change Observed c job faults .scanner s
      (.ok ⟨_, (containerState v).1, (containerState v).2⟩) t
    have bare : status.shown.2 = Part.scanner.heading ++ status.shown.2 := String.empty_append.symm
    rw [containerState_of_shownBy shown, bare]
    exact observed_shown sound.drifted stands drifted (by simp)
  · intro f t refused _ missing drifted
    have none : s.status job .scanner = none := by simpa [Op.refusal?] using refused
    refine ⟨drifted, fun _ _ _ => (drifted.absent .scanner).mpr none, fun _ => none, by simp, ?_, by simp⟩
    intro g same other
    cases same
    exact absurd missing other
  · intro f t may inconclusive drifted
    exact observed_failed may inconclusive drifted

/-- Looking at a task leaves the site as it is, and a task that does not run stays as it is seen. -/
theorem Sound.task {k : Task} {seen : Option TaskState} (sound : Sound c job s)
    (meets : (engine c job faults).Meets s (.task k) seen t) :
    Drifted c job s t ∧ (seen ≠ some .running → t.background.tasks.get? k = seen) := by
  obtain ⟨v, ends, answer, drifts⟩ := meets
  cases answer with
  | task => exact ⟨sound.drift drifts, fun idle => drifts.get?_idle sound.balanced idle⟩

/-- What is forgotten did not run, and stays forgotten. -/
theorem Sound.forget {k : Task} (sound : Sound c job s) (idle : s.background.tasks.get? k ≠ some .running)
    (meets : (engine c job faults).Meets s (.forget k) () t) :
    Drifted c job s t ∧ t.background.tasks.get? k = none := by
  obtain ⟨v, ends, answer, drifts⟩ := meets
  cases answer with
  | forget =>
    have quiet (j : Task) (still : s.background.tasks.get? j ≠ some .running) :
        (s.background.forget k).tasks.get? j ≠ some .running := by
      rw [Background.get?_forget]
      by_cases same : j = k
      · simp [same]
      · rw [if_neg same]
        exact still
    have gone : (s.background.forget k).tasks.get? k = none := by simp [Background.get?_forget]
    have forgotten : Drifted c job s { s with background := s.background.forget k } :=
      ⟨⟨sound.balanced.forget idle, sound.own, sound.filled, quiet _ sound.apart⟩, by simp, by simp, .rfl, id,
        fun none => ⟨none.1, quiet _ none.2⟩⟩
    refine ⟨forgotten.trans (forgotten.sound.drift drifts), ?_⟩
    exact (drifts.get?_idle forgotten.sound.balanced (by simp [gone])).trans gone

theorem Sound.start (op : Op) {k : Task} (sound : Sound c job s) (own : op.task? job = some k)
    (other : k ≠ .pull job.names.snapshot)
    (meets : (engine c job faults).Meets s (.start k (op.draft c job)) () t) : Raised c job none s t := by
  obtain ⟨v, ends, answer, drifts⟩ := meets
  cases answer with
  | start _ _ now =>
    have started : Sound c job { s with background := s.background.start k (op.draft c job) now } := by
      refine ⟨sound.balanced.start, ?_, sound.filled, ?_⟩
      · intro w mem request sends
        simp only [Background.start] at mem
        split at mem
        · exact sound.own w mem request sends
        · rcases List.mem_append.mp mem with mem | mem
          · exact sound.own w mem request sends
          · cases List.mem_singleton.mp mem
            exact ⟨op, TaskStep.send.inj sends, own⟩
      · rw [Background.get?_start, if_neg other.symm]
        exact sound.apart
    have drifted := started.drift drifts
    exact ⟨drifted.sound, drifted.knows, fun p _ => drifted.created p⟩

theorem upholds_observeSnapshot (tame : faults.Tame) (sound : Sound c job s) :
    Upholds c job faults (Drifted c job s)
      (fun t r => Drifted c job s t ∧ (∀ f, r = .error f → f.verdict = .missing → Free job t) ∧
        ∀ seen, r = .ok seen → seen.state = .ready → t.engine.knows job.names.snapshot = true)
      (c.observeSnapshot job.names.snapshot).run s := by
  rw [Config.observeSnapshot]
  refine guarded_ask sound.drifted ?_
  intro seen t meets
  obtain ⟨drifted, stays⟩ := sound.task meets
  rcases seen with _ | (_ | f)
  · refine guarded_bindExcept (upholds_getJson .inspectImage tame drifted.sound drifted rfl rfl
      ?_ ?_ ?_)
    · intro v u there shown drifted'
      have settled : requiredText "inspecting snapshot image" "Id" v = .ok (imageId job.names.snapshot) := by
        rw [requiredText, shown]
      have known : t.engine.knows job.names.snapshot = true := by simpa [Op.refusal?] using there
      dsimp only
      rw [settled]
      exact ⟨drifted.trans drifted', by simp, fun _ _ _ => drifted'.knows known⟩
    · intro f u refused _ missing drifted'
      have none : t.engine.knows job.names.snapshot = false := by simpa [Op.refusal?] using refused
      refine ⟨drifted.trans drifted', fun _ _ _ => drifted'.free ⟨?_, ?_⟩, by simp⟩
      · intro mem
        rw [Inventory.knows_of_mem mem] at none
        cases none
      · rw [stays (by simp)]
        simp
    · intro f u may inconclusive drifted'
      refine ⟨drifted.trans drifted', ?_, by simp⟩
      intro g same missing
      cases same
      exact absurd missing inconclusive.verdict
  · exact ⟨drifted, by simp, fun seen same ready => by cases same; cases ready⟩
  · exact ⟨drifted, by simp, fun seen same ready => by cases same; cases ready⟩

/-- What is asked for to remove something. -/
def Op.removes : Op → Bool
  | removeImage | removeVolume | remove _ => true
  | _ => false

theorem Op.Result.shrunk {op : Op} {operation : String} {r : Except Failure Http.Response} {e : Inventory}
    (result : op.Result c job faults operation s.engine r e) (removes : op.removes = true)
    (drifted : Drifted c job { s with engine := e } t) : Shrunk c job s t := by
  cases result with
  | refused | failed => exact drifted.shrunk
  | done possible shown =>
    have kept := drifted.shrunk
    refine ⟨kept.sound, fun p none => kept.container p ?_, fun none => kept.volume ?_,
      fun none => kept.free ⟨?_, none.2⟩⟩
    · rw [Site.status, Op.container_effect]
      rw [Site.status] at none
      rw [none]
      cases op with
      | remove => simp [Op.leaves]
      | removeImage | removeVolume => rfl
      | _ => cases removes
    · rw [Op.volume_effect]
      intro there
      rcases there with rfl | ⟨-, there⟩
      · cases removes
      · exact none there
    · rw [Op.image_effect]
      intro there
      rcases there with rfl | ⟨rfl, -⟩ | ⟨-, there⟩
      · cases removes
      · cases removes
      · exact none.1 there

/-- A removal that is told of a missing object has made nothing of the site. -/
theorem upholds_removal (op : Op) {operation : String} {gone : Site Inventory → Prop} (tame : faults.Tame)
    (removes : op.removes = true) (shrunk : Shrunk c job s t) (careful : op.Careful job t)
    (missing : ∀ u, op.refusal? job t.engine = some 404 → Drifted c job t u → gone u) :
    Upholds c job faults (Shrunk c job s)
      (fun u r => Shrunk c job s u ∧ ∀ f, r = .error f → f.verdict = .missing → gone u)
      (discard (Engine.send operation (op.draft c job))).run t := by
  have other : op ≠ .pull := by
    rintro rfl
    cases removes
  refine guarded_discard (upholds_send op tame shrunk.sound shrunk other careful ?_)
  intro r e u result drifted
  refine ⟨shrunk.trans (result.shrunk removes drifted), ?_⟩
  intro f same verdict
  cases result with
  | done possible shown => cases same
  | refused refused =>
    cases same
    rw [verdict_refusal_eq_missing_iff.mp verdict] at refused
    exact missing u refused drifted
  | failed may inconclusive =>
    cases same
    exact absurd verdict inconclusive.verdict

theorem upholds_deleteScanner (tame : faults.Tame) (sound : Sound c job s) :
    Upholds c job faults (Shrunk c job s)
      (fun t r => Shrunk c job s t ∧ ∀ f, r = .error f → f.verdict = .missing → Gone job t .scanner)
      (c.deleteScanner job.names.scanner).run s := by
  refine upholds_removal (.remove .scanner) tame rfl sound.drifted.shrunk trivial ?_
  intro t refused drifted
  have none : s.status job .scanner = none := by simpa [Op.refusal?] using refused
  exact (drifted.absent .scanner).mpr none

/-- The filler is removed before its volume. -/
theorem upholds_deleteVolume (tame : faults.Tame) (sound : Sound c job s) :
    Upholds c job faults (Shrunk c job s)
      (fun t r => Shrunk c job s t ∧ ∀ f, r = .error f → f.verdict = .missing → Gone job t .volume)
      (c.deleteVolume job.names.volume).run s := by
  have volume {t : Site Inventory} (shrunk : Shrunk c job s t) (none : t.status job .filler = none) :
      Upholds c job faults (Shrunk c job s)
        (fun u r => Shrunk c job s u ∧ ∀ f, r = .error f → f.verdict = .missing → Gone job u .volume)
        (Engine.delete c "removing volume" ("/volumes/" ++ job.names.volume)).run t := by
    refine upholds_removal .removeVolume tame rfl shrunk none ?_
    intro u refused drifted
    have gone : job.names.volume ∉ t.engine.volumes := by simpa [Op.refusal?] using refused
    exact mt drifted.volume.mp gone
  rw [Config.deleteVolume]
  refine guarded_bindExcept (guarded_outcome (guarded_discard
    (upholds_send (.remove .filler) tame sound sound.drifted.shrunk (by simp) trivial ?_)))
  intro r e t result drifted
  have shrunk := result.shrunk rfl drifted
  cases result with
  | done possible shown =>
    have none : t.status job .filler = none := by
      apply (drifted.absent .filler).mpr
      rw [Site.status, Op.container_effect]
      simp [Op.leaves]
    exact volume shrunk none
  | @refused status body refused =>
    rcases Op.refusal?_ne_accepted refused with rfl | rfl
    · have none : t.status job .filler = none := by
        apply (drifted.absent .filler).mpr
        by_cases none : s.status job .filler = none
        · exact none
        · simp [Op.refusal?, none] at refused
      exact volume shrunk none
    · simp [Op.refusal?] at refused
  | failed may inconclusive =>
    dsimp only [Except.map]
    rw [if_neg (by simp [inconclusive.status])]
    refine ⟨shrunk, ?_⟩
    intro f same missing
    cases same
    exact absurd missing inconclusive.verdict

theorem upholds_deleteSnapshot (tame : faults.Tame) (sound : Sound c job s) :
    Upholds c job faults (Shrunk c job s)
      (fun t r => Shrunk c job s t ∧ ∀ f, r = .error f → f.verdict = .missing → Gone job t .snapshot)
      (c.deleteSnapshot job.names.snapshot).run s := by
  have image {t : Site Inventory} (shrunk : Shrunk c job s t)
      (idle : t.background.tasks.get? (.commit job.names.snapshot) ≠ some .running) :
      Upholds c job faults (Shrunk c job s)
        (fun u r => Shrunk c job s u ∧ ∀ f, r = .error f → f.verdict = .missing → Gone job u .snapshot)
        (Engine.delete c "removing snapshot image" ("/images/" ++ job.names.snapshot)).run t := by
    refine upholds_removal .removeImage tame rfl shrunk trivial ?_
    intro u refused drifted
    refine drifted.free ⟨?_, idle⟩
    intro mem
    simp [Op.refusal?, Inventory.knows_of_mem mem] at refused
  rw [Config.deleteSnapshot]
  refine guarded_ask sound.drifted.shrunk ?_
  intro seen t meets
  obtain ⟨drifted, stays⟩ := sound.task meets
  rcases seen with _ | (_ | f)
  · exact image drifted.shrunk (by simp [stays])
  · refine ⟨drifted.shrunk, ?_⟩
    intro f same missing
    cases same
    cases missing
  · have failed := stays (by simp)
    refine guarded_ask drifted.shrunk ?_
    intro r u meets
    obtain ⟨drifted', gone⟩ := drifted.sound.forget (by simp [failed]) meets
    exact image (drifted.trans drifted').shrunk (by simp [gone])

theorem Drifted.raised {own : Option Part} (drifted : Drifted c job s t) : Raised c job own s t :=
  ⟨drifted.sound, drifted.knows, fun p _ => drifted.created p⟩

theorem Raised.trans {own : Option Part} (first : Raised c job own s t) (next : Raised c job own t u) :
    Raised c job own s u :=
  ⟨next.sound, fun known => next.knows (first.knows known),
    fun p other => (next.created p other).trans (first.created p other)⟩

theorem Raised.widen {own : Option Part} (raised : Raised c job none s t) : Raised c job own s t :=
  ⟨raised.sound, raised.knows, fun p _ => raised.created p (by simp)⟩

/-- The container that an operation makes something else of. -/
def Op.part? : Op → Option Part
  | make p _ | start p | remove p => some p
  | _ => none

private theorem Op.leaves_elsewhere {op : Op} {p : Part} {before : Option Status} (other : op.part? ≠ some p) :
    op.leaves p before = before := by
  cases op with
  | make q image | start q | remove q => exact if_neg fun same => other (congrArg some same.symm)
  | _ => rfl

theorem Op.Result.raised {op : Op} {operation : String} {r : Except Failure Http.Response} {e : Inventory}
    (result : op.Result c job faults operation s.engine r e) (removes : op ≠ .removeImage)
    (drifted : Drifted c job { s with engine := e } t) : Raised c job op.part? s t := by
  cases result with
  | refused | failed => exact drifted.raised
  | done possible shown =>
    refine ⟨drifted.sound, fun known => drifted.knows (Op.knows_effect removes known), ?_⟩
    intro p other
    rw [drifted.created p, Site.status, Op.container_effect, Op.leaves_elsewhere other]

/-- What is left as created could be neither started nor removed. -/
theorem upholds_startOrDiscard {p : Part} {operation : String} (tame : faults.Tame) (sound : Sound c job s) :
    Upholds c job faults (Raised c job (some p) s)
      (fun t _ => Raised c job (some p) s t ∧ (t.status job p = some .created → Stuck c job faults p))
      (Engine.startOrDiscard c operation (p.name job)).run s := by
  rw [Engine.startOrDiscard]
  refine guarded_outcome (guarded_discard
    (upholds_send (.start p) tame sound sound.drifted.raised (by simp) trivial ?_))
  intro r e t result drifted
  have raised : Raised c job (some p) s t := result.raised (by simp) drifted
  -- A start that fails may have found no container, or one that stays created.
  have removal (hopeless : t.status job p = some .created → (Op.start p).MayFail c job faults) :
      Upholds c job faults (Raised c job (some p) s)
        (fun u _ => Raised c job (some p) s u ∧ (u.status job p = some .created → Stuck c job faults p))
        (Engine.discardUnstarted c (p.name job)).run t := by
    refine guarded_discard (guarded_bind (guarded_discard
      (upholds_send (.remove p) tame raised.sound raised (by simp) trivial ?_)))
    intro r e u result drifted'
    have raised' : Raised c job (some p) t u := result.raised (by simp) drifted'
    refine ⟨raised.trans raised', ?_⟩
    intro created
    rw [drifted'.created p] at created
    cases result with
    | done possible shown =>
      rw [Site.status, Op.container_effect] at created
      simp [Op.leaves] at created
    | refused refused =>
      rw [Site.status] at created
      simp [Op.refusal?, created] at refused
    | failed may inconclusive => exact ⟨hopeless created, may⟩
  have given {f : Failure} (hopeless : t.status job p = some .created → (Op.start p).MayFail c job faults) :
      Upholds c job faults (Raised c job (some p) s)
        (fun u _ => Raised c job (some p) s u ∧ (u.status job p = some .created → Stuck c job faults p))
        (Engine.discardUnstarted c (p.name job) >>= fun _ => throw f : Action Unit).run t := by
    refine guarded_bindExcept (guarded_mono ?_ (removal hopeless))
    intro u result h
    cases result <;> exact h
  cases result with
  | done possible shown =>
    refine ⟨raised, ?_⟩
    rw [drifted.created p, Site.status, Op.container_effect]
    simp [Op.leaves]
  | refused refused =>
    refine given ?_
    rw [drifted.created p, Site.status]
    intro created
    simp [Op.refusal?, created] at refused
  | failed may inconclusive => exact given fun _ => may

theorem upholds_createSnapshot (sound : Sound c job s) :
    Upholds c job faults (Raised c job none s) (fun t _ => Raised c job none s t)
      (c.createSnapshot job.names.snapshot job.snapshotSpec).run s := by
  rw [Config.createSnapshot]
  refine ⟨sound.drifted.raised, ?_⟩
  intro r t meets
  exact sound.start .commit rfl (by simp) meets

/-- A container that has been made is started. -/
theorem upholds_createVolume {spec : VolumeSpec} (tame : faults.Tame) (sound : Sound c job s) :
    Upholds c job faults (Raised c job (some .filler) s)
      (fun t _ => Raised c job (some .filler) s t ∧ (t.status job .filler = some .created →
        s.status job .filler = some .created ∨ Stuck c job faults .filler))
      (c.createVolume job.names.volume spec).run s := by
  rw [Config.createVolume]
  cases spec.source with
  | staged copy => exact ⟨sound.drifted.raised, .inl⟩
  | snapshot image =>
    refine guarded_bindExcept (guarded_discard
      (upholds_send .makeVolume tame sound sound.drifted.raised (by simp) trivial ?_))
    intro r e t result drifted
    have ready : Raised c job (some .filler) s t := (result.raised (by simp) drifted).widen
    have same : t.status job .filler = some .created → s.status job .filler = some .created := by
      rw [drifted.created .filler]
      cases result <;> exact id
    cases result with
    | refused | failed => exact ⟨ready, fun created => .inl (same created)⟩
    | done possible shown =>
      have volume : job.names.volume ∈ t.engine.volumes := drifted.volume.mpr (by simp [Op.effect])
      refine guarded_bindExcept (guarded_outcome (guarded_discard
        (upholds_send (.make .filler image.id) tame ready.sound ready (by simp) volume ?_)))
      intro r e u result drifted'
      have made : Raised c job (some .filler) s u := ready.trans (result.raised (by simp) drifted')
      have going : Upholds c job faults (Raised c job (some .filler) s)
          (fun v _ => Raised c job (some .filler) s v ∧ (v.status job .filler = some .created →
            s.status job .filler = some .created ∨ Stuck c job faults .filler))
          (Engine.startOrDiscard c "creating volume" (Part.filler.name job)).run u := by
        refine upholds_mono (fun v => made.trans) ?_ (upholds_startOrDiscard tame made.sound)
        exact fun v r h => ⟨made.trans h.1, fun created => .inr (h.2 created)⟩
      cases result with
      | done possible shown => exact going
      | refused | failed =>
        dsimp only [Except.map]
        split
        · exact going
        · exact ⟨made, fun created => .inl (same ((drifted'.created .filler).mp created))⟩

/-- The pull of an image that is not the snapshot. -/
theorem upholds_pull (sound : Sound c job s) (other : job.scanner.image ≠ job.names.snapshot) :
    Upholds c job faults (Raised c job none s) (fun t _ => Raised c job none s t)
      (c.pull job.scanner.image).run s := by
  rw [pull_run]
  refine ⟨sound.drifted.raised, ?_⟩
  intro seen t meets
  obtain ⟨drifted, stays⟩ := sound.task meets
  have start : Upholds c job faults (Raised c job none s) (fun u _ => Raised c job none s u)
      (.ask (.start (.pull job.scanner.image) (Task.pullRequest c job.scanner.image)) fun _ =>
        .done (.error (underWay job.scanner.image)) : Program host (Except Failure Unit)) t := by
    refine ⟨drifted.raised, ?_⟩
    intro r u meets
    exact drifted.raised.trans (drifted.sound.start .pull rfl (by simpa using other) meets)
  rcases seen with _ | (_ | f)
  · exact start
  · exact start
  · have failed := stays (by simp)
    refine ⟨drifted.raised, ?_⟩
    intro r u meets
    exact drifted.raised.trans (drifted.sound.forget (by simp [failed]) meets).1.raised

theorem upholds_createScanner {spec : ScannerSpec} (tame : faults.Tame) (sound : Sound c job s)
    (known : s.engine.knows job.names.snapshot = true)
    (own : Part.scanner.body job job.scanner.image = Body.scanner spec)
    (image : spec.image = job.scanner.image) :
    Upholds c job faults (Raised c job (some .scanner) s)
      (fun t _ => Raised c job (some .scanner) s t ∧ (t.status job .scanner = some .created →
        s.status job .scanner = some .created ∨ Stuck c job faults .scanner))
      (c.createScanner job.names.scanner spec).run s := by
  rw [Config.createScanner, ← own, image]
  refine guarded_outcome (guarded_discard
    (upholds_send (.make .scanner job.scanner.image) tame sound sound.drifted.raised (by simp) trivial ?_))
  intro r e t result drifted
  have made : Raised c job (some .scanner) s t := result.raised (by simp) drifted
  cases result with
  | done possible shown =>
    refine upholds_mono (fun v => made.trans) ?_ (upholds_startOrDiscard (p := .scanner) tame made.sound)
    exact fun u r h => ⟨made.trans h.1, fun created => .inr (h.2 created)⟩
  | @refused status body refused =>
    dsimp only [Except.map]
    rw [hasStatus_refusal]
    by_cases missing : status = 404
    · have other : job.scanner.image ≠ job.names.snapshot := by
        intro same
        rw [missing, same] at refused
        simp [Op.refusal?, known] at refused
      rw [if_pos (by simpa using missing)]
      refine upholds_mono (fun u pulled => made.trans pulled.widen) ?_ (upholds_pull made.sound other)
      intro u r pulled
      refine ⟨made.trans pulled.widen, fun created => .inl ?_⟩
      exact (drifted.created .scanner).mp ((pulled.created .scanner (by simp)).mp created)
    · rw [if_neg (by simpa using missing)]
      exact ⟨made, fun created => .inl ((drifted.created .scanner).mp created)⟩
  | failed may inconclusive =>
    dsimp only [Except.map]
    rw [if_neg (by simp [inconclusive.status])]
    exact ⟨made, fun created => .inl ((drifted.created .scanner).mp created)⟩

end

end ScanProvisioning.Docker
