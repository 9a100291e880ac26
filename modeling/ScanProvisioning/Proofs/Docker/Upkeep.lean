import ScanProvisioning.Proofs.Docker.Inventory
import ScanProvisioning.Proofs.Docker.Steps
import ScanProvisioning.Proofs.Pass.Steps

namespace ScanProvisioning.Docker

open Program Rehearsal

/-- The task that an operation is the request of. -/
def Op.task? (job : Job) : Op → Option Task
  | commit => some (.commit job.names.snapshot)
  | pull => some (.pull job.scanner.image)
  | _ => none

/-- Where the containers of a job stand. -/
abbrev Site.status (job : Job) (s : Site Inventory) (p : Part) : Option Status :=
  s.engine.containers.get? (p.name job)

structure Sound (c : Config) (job : Job) (s : Site Inventory) : Prop where
  balanced : s.background.Balanced
  /-- Tasks send nothing but the requests of the job. -/
  own : ∀ w ∈ s.background.waiting, ∀ request, w.step = .send (.ok request) →
    ∃ op : Op, op.draft c job = .ok request ∧ op.task? job = some w.task
  filled : s.status job .filler ≠ none → job.names.volume ∈ s.engine.volumes
  apart : s.background.tasks.get? (.pull job.names.snapshot) ≠ some .running

/-- There is no image of the snapshot, and none on its way. -/
def Free (job : Job) (s : Site Inventory) : Prop :=
  job.names.snapshot ∉ s.engine.images ∧
    s.background.tasks.get? (.commit job.names.snapshot) ≠ some .running

/-- What the tasks and containers of a job may make of a site by themselves. -/
structure Drifted (c : Config) (job : Job) (s t : Site Inventory) : Prop where
  sound : Sound c job t
  absent : ∀ p, t.status job p = none ↔ s.status job p = none
  created : ∀ p, t.status job p = some .created ↔ s.status job p = some .created
  volume : job.names.volume ∈ t.engine.volumes ↔ job.names.volume ∈ s.engine.volumes
  knows : s.engine.knows job.names.snapshot = true → t.engine.knows job.names.snapshot = true
  free : Free job s → Free job t

section

variable {c : Config} {job : Job} {faults : Faults} {s t u : Site Inventory} {ends : List Ending}

/-- Before anything is done about a job, an engine has no filler without its volume. -/
theorem sound_fresh {e : Inventory}
    (filled : e.containers.get? (Part.filler.name job) ≠ none → job.names.volume ∈ e.volumes) :
    Sound c job ⟨e, {}⟩ where
  balanced := Background.balanced_empty
  own := by simp
  filled := filled
  apart := by simp [Registry.get?_empty]

theorem Sound.drifted (sound : Sound c job s) : Drifted c job s s :=
  ⟨sound, by simp, by simp, .rfl, id, id⟩

theorem Drifted.trans (first : Drifted c job s t) (next : Drifted c job t u) : Drifted c job s u where
  sound := next.sound
  absent p := (next.absent p).trans (first.absent p)
  created p := (next.created p).trans (first.created p)
  volume := next.volume.trans first.volume
  knows known := next.knows (first.knows known)
  free none := next.free (first.free none)

/-- Of a task that ends nothing is left but what is recorded of it. -/
theorem Sound.finish {w : Waiting} {others : List Waiting} {r : Except Http.Failure Http.Response}
    (sound : Sound c job s) (first : s.background.waiting.Perm (w :: others)) :
    Drifted c job s { s with background := { s.background with waiting := others }.finish w.task r } := by
  have idle {k : Task} (idle : s.background.tasks.get? k ≠ some .running) :
      ({ s.background with waiting := others }.finish w.task r).tasks.get? k = s.background.tasks.get? k := by
    have other : k ≠ w.task := by
      intro same
      exact idle (same ▸ sound.balanced.running_of_waiting first)
    rw [Background.get?_finish, if_neg other]
  refine ⟨⟨sound.balanced.finish first, ?_, sound.filled, ?_⟩, by simp, by simp, .rfl, id, ?_⟩
  · intro v mem
    rw [Background.waiting_finish] at mem
    exact sound.own v (first.mem_iff.mpr (.tail _ mem))
  · rw [idle sound.apart]
    exact sound.apart
  · intro none
    refine ⟨none.1, ?_⟩
    rw [idle none.2]
    exact none.2

/-- A task makes the image that it is named for, or nothing. -/
theorem Sound.send {w : Waiting} {others : List Waiting} {request : Http.Request} {ready : Instant}
    {reply : Except Http.Failure Http.Response} {e : Inventory} (sound : Sound c job s)
    (first : s.background.waiting.Perm (w :: others)) (sends : w.step = .send (.ok request))
    (served : (engine c job faults).serves s.engine request reply e) :
    Drifted c job s ⟨e, { s.background with
      waiting := others ++ [{ ready, task := w.task, step := .hear reply }] }⟩ := by
  have running := sound.balanced.running_of_waiting first
  have balanced := sound.balanced.send (v := { ready, task := w.task, step := .hear reply }) first rfl
  have own : ∀ v ∈ others ++ [{ ready, task := w.task, step := .hear reply }], ∀ request,
      v.step = .send (.ok request) →
        ∃ op : Op, op.draft c job = .ok request ∧ op.task? job = some v.task := by
    intro v mem request sends
    rcases List.mem_append.mp mem with mem | mem
    · exact sound.own v (first.mem_iff.mpr (.tail _ mem)) request sends
    · cases List.mem_singleton.mp mem
      cases sends
  obtain ⟨op, asked, task⟩ := sound.own w (first.mem_iff.mpr (.head _)) request sends
  rcases served.1 op asked with served | ⟨-, rfl⟩
  · cases served with
    | refused refused => exact ⟨⟨balanced, own, sound.filled, sound.apart⟩, by simp, by simp, .rfl, id, id⟩
    | done possible fine shown =>
      cases op with
      | commit =>
        refine ⟨⟨balanced, own, sound.filled, sound.apart⟩, by simp [Site.status, Op.effect],
          by simp [Site.status, Op.effect], .rfl, Op.knows_effect (show Op.commit ≠ .removeImage by simp), ?_⟩
        intro none
        rw [← Option.some.inj task] at running
        exact absurd running none.2
      | pull =>
        refine ⟨⟨balanced, own, sound.filled, sound.apart⟩, by simp [Site.status, Op.effect],
          by simp [Site.status, Op.effect], .rfl, Op.knows_effect (show Op.pull ≠ .removeImage by simp), ?_⟩
        intro none
        refine ⟨?_, none.2⟩
        rw [Op.image_effect]
        intro there
        rcases there with ⟨⟨⟩⟩ | ⟨-, same⟩ | ⟨-, there⟩
        · rw [← Option.some.inj task, same] at running
          exact sound.apart running
        · exact none.1 there
      | _ => cases task
  · exact ⟨⟨balanced, own, sound.filled, sound.apart⟩, by simp, by simp, .rfl, id, id⟩

theorem Sound.go (sound : Sound c job s) (goes : (engine c job faults).Goes s ends t) :
    Drifted c job s t := by
  cases goes with
  | turn turned =>
    obtain ⟨p, code, runs, rfl⟩ := turned
    have others (q : Part) : (s.engine.containers.set (p.name job) (.exited code)).get? (q.name job) =
        if q = p then some (.exited code) else s.status job q := by
      simp [Site.status, Registry.get?_set, Part.name_inj]
    have absent (q : Part) : (s.engine.containers.set (p.name job) (.exited code)).get? (q.name job) = none ↔
        s.status job q = none := by
      rw [others]
      by_cases same : q = p
      · simp [same, Site.status, runs]
      · rw [if_neg same]
    refine ⟨⟨sound.balanced, sound.own, ?_, sound.apart⟩, absent, ?_, .rfl, id, id⟩
    · intro there
      exact sound.filled fun none => there ((absent .filler).mpr none)
    · intro q
      rw [Site.status, others]
      by_cases same : q = p
      · simp [same, Site.status, runs]
      · rw [if_neg same]
  | send first sends served => exact sound.send first sends served
  | hear first hears => exact sound.finish first
  | give first unbuilt => exact sound.finish first

theorem Sound.drift (sound : Sound c job s) (drifts : (engine c job faults).Drifts s ends t) :
    Drifted c job s t := by
  induction drifts with
  | rest s => exact sound.drifted
  | go goes others ih =>
    have first := sound.go goes
    exact first.trans (ih first.sound)

end

/-- A failure that does not say that an object is missing. -/
structure Inconclusive (f : Failure) : Prop where
  status : Failure.hasStatus 404 f = false
  verdict : f.verdict ≠ .missing

theorem hasStatus_refusal {operation body : String} {status code : UInt16} :
    Failure.hasStatus code (refusal operation status body) = decide (status = code) := rfl

theorem verdict_refusal_eq_missing_iff {operation body : String} {status : UInt16} :
    (refusal operation status body).verdict = .missing ↔ status = 404 := by
  unfold refusal Failure.refusal
  rw [Failure.verdict_refused_eq_missing_iff]
  split <;> simp [fatalCodes, missingCodes]

private theorem inconclusive_unreachable {operation message : String} {timedOut : Bool} :
    Inconclusive (.unreachable operation message timedOut) :=
  ⟨rfl, by simp [Failure.verdict]⟩

private theorem inconclusive_refusal {operation body : String} {status : UInt16} (other : status ≠ 404) :
    Inconclusive (refusal operation status body) :=
  ⟨by simp [hasStatus_refusal, other], mt verdict_refusal_eq_missing_iff.mp other⟩

/-- An operation may fail where the engine could do it. -/
def Op.MayFail (c : Config) (job : Job) (faults : Faults) (op : Op) : Prop :=
  (∃ f, op.draft c job = .error f) ∨ ∃ reply, faults op reply

/-- What a call makes of the answer to a request, and what the engine has afterwards. -/
inductive Op.Result (c : Config) (job : Job) (faults : Faults) (operation : String) (op : Op)
    (e : Inventory) : Except Failure Http.Response → Inventory → Prop
  | done {r : Http.Response} (possible : op.refusal? job e = none)
      (shown : op.inspects = true → ∃ v, r.json = .ok v ∧ op.ShownBy job e v) :
      Result c job faults operation op e (.ok r) (op.effect job e)
  | refused {status : UInt16} {body : String} (refused : op.refusal? job e = some status) :
      Result c job faults operation op e (.error (refusal operation status body)) e
  | failed {f : Failure} (may : op.MayFail c job faults) (inconclusive : Inconclusive f) :
      Result c job faults operation op e (.error f) e

/-- No failure looks like a success or like a missing object. -/
def Faults.Tame (faults : Faults) : Prop := ∀ op reply, faults op reply → faulty op reply

theorem faulty_tame : faulty.Tame := fun _ _ may => may

theorem calm_tame : calm.Tame := fun _ _ may => may.elim

/-- What an operation must not be asked for: a filler without its volume, or the removal of a volume
under its filler. -/
def Op.Careful (job : Job) (s : Site Inventory) : Op → Prop
  | make .filler _ => job.names.volume ∈ s.engine.volumes
  | removeVolume => s.status job .filler = none
  | _ => True

section

variable {c : Config} {job : Job} {faults : Faults} {s t : Site Inventory} {op : Op} {operation : String}

theorem Op.refusal?_ne_accepted {status : UInt16} {e : Inventory} (refused : op.refusal? job e = some status) :
    status = 404 ∨ status = 409 := by
  cases op with
  | commit | pull | makeVolume => cases refused
  | make p image =>
    simp only [refusal?] at refused
    split at refused
    · exact .inl (Option.some.inj refused).symm
    · split at refused
      · cases refused
      · exact .inr (Option.some.inj refused).symm
  | _ =>
    simp only [refusal?] at refused
    split at refused
    all_goals simp_all

theorem Op.result {reply : Except Http.Failure Http.Response} {e after : Inventory} (tame : faults.Tame)
    (other : op ≠ .pull) (served : op.Served job e reply after ∨ faults op reply ∧ after = e) :
    op.Result c job faults operation e (accepted operation reply) after := by
  rcases served with served | ⟨fails, rfl⟩
  · cases served with
    | done possible fine shown =>
      rw [accepted_eq_ok_iff.mpr ⟨rfl, fine⟩]
      exact .done possible shown
    | @refused r refused =>
      have unlucky : ¬ (r.isSuccess = true ∨ r.status = 304) := by
        rcases Op.refusal?_ne_accepted refused with status | status <;>
          simp [Http.Response.isSuccess, status]
      rw [accepted, if_neg unlucky]
      exact .refused refused
  · have may : op.MayFail c job faults := .inr ⟨reply, fails⟩
    cases reply with
    | error f => exact .failed may inconclusive_unreachable
    | ok r =>
      rcases tame op _ fails with ⟨success, done, missing⟩ | pulls
      · have unlucky : ¬ (r.isSuccess = true ∨ r.status = 304) := by simp [success, done]
        rw [accepted, if_neg unlucky]
        exact .failed may (inconclusive_refusal missing)
      · exact absurd pulls other

/-- What is asked with care keeps a site sound. -/
theorem Sound.effect (sound : Sound c job s) (possible : op.refusal? job s.engine = none)
    (careful : op.Careful job s) : Sound c job { s with engine := op.effect job s.engine } := by
  refine ⟨sound.balanced, sound.own, ?_, sound.apart⟩
  rw [Site.status, Op.container_effect, Op.volume_effect]
  intro there
  cases op with
  | makeVolume => exact .inl rfl
  | removeVolume => exact absurd careful there
  | make p image =>
    refine .inr ⟨by simp, ?_⟩
    cases p with
    | filler => exact careful
    | scanner => exact sound.filled there
  | start p =>
    refine .inr ⟨by simp, sound.filled ?_⟩
    cases p with
    | filler =>
      intro none
      simp [Op.refusal?, none] at possible
    | scanner => exact there
  | remove p =>
    refine .inr ⟨by simp, sound.filled ?_⟩
    cases p with
    | filler => exact absurd rfl there
    | scanner => exact there
  | _ => exact .inr ⟨by simp, sound.filled there⟩

theorem Op.Result.sound {r : Except Failure Http.Response} {e : Inventory}
    (result : op.Result c job faults operation s.engine r e) (sound : Sound c job s)
    (careful : op.Careful job s) : Sound c job { s with engine := e } := by
  cases result with
  | done possible shown => exact sound.effect possible careful
  | refused | failed => exact sound

/-- Whatever the engine answers, the site stands so wherever a program asks it something, and it ends in
the right value. -/
abbrev Upholds {α : Type} (c : Config) (job : Job) (faults : Faults) (stands : Site Inventory → Prop)
    (post : Site Inventory → α → Prop) (p : Program host α) (s : Site Inventory) : Prop :=
  Guarded (engine c job faults).Meets (fun t _ => stands t) post p s

theorem upholds_mono {α : Type} {stands wider : Site Inventory → Prop}
    {post right : Site Inventory → α → Prop} {p : Program host α} (law : ∀ t, stands t → wider t)
    (weaken : ∀ t a, post t a → right t a)
    (upholds : Upholds c job faults stands post p s) : Upholds c job faults wider right p s :=
  guarded_mono_law (fun t _ => law t) (guarded_mono weaken upholds)

/-- A request of a call: what comes of it, and a drift. -/
theorem upholds_send (op : Op) {stands : Site Inventory → Prop}
    {post : Site Inventory → Except Failure Http.Response → Prop} (tame : faults.Tame)
    (sound : Sound c job s) (here : stands s) (other : op ≠ .pull) (careful : op.Careful job s)
    (next : ∀ r e t, op.Result c job faults operation s.engine r e →
      Drifted c job { s with engine := e } t → post t r) :
    Upholds c job faults stands post (Engine.send operation (op.draft c job)).run s := by
  refine guarded_send ?_ (fun _ _ => here) ?_
  · intro f unbuilt
    exact next _ _ s (.failed (.inl ⟨f, unbuilt⟩) inconclusive_unreachable) sound.drifted
  · intro request reply t built meets
    obtain ⟨v, ends, answer, drifts⟩ := meets
    cases answer with
    | exchange served =>
      have result : op.Result c job faults operation s.engine (accepted operation reply) _ :=
        Op.result tame other (served.1 op built)
      exact next _ _ t result ((result.sound sound careful).drift drifts)

end

end ScanProvisioning.Docker
