import ScanProvisioning.Proofs.Docker.Steps
import ScanProvisioning.Proofs.Pass.Dependency
import ScanProvisioning.Rehearsal.Cloud

namespace ScanProvisioning.Docker

open Program

def status? (v : Json) : Option String := v.stringAt? ["State", "Status"]

def exitCode? (v : Json) : Option Int := (v.at? ["State", "ExitCode"]).bind Json.asInt64?

/-- A container has exited, and its code says that it succeeded. -/
def Filled (v : Json) : Prop := status? v = some "exited" ∧ exitCode? v = some 0

/-- A container runs, or has exited and nothing says how. -/
def Unfinished (v : Json) : Prop :=
  status? v = some "running" ∨ status? v = some "exited" ∧ exitCode? v = none

theorem Filled.finished {v : Json} (filled : Filled v) : ¬ Unfinished v := by
  obtain ⟨exited, code⟩ := filled
  intro unfinished
  rcases unfinished with running | ⟨-, unknown⟩
  · simp [running] at exited
  · cases code.symm.trans unknown

/-- A container counts as ready when it has succeeded, and while it is unfinished. -/
theorem containerState_eq_ready_iff {v : Json} :
    (containerState v).1 = .ready ↔ Filled v ∨ Unfinished v := by
  have code : (v.at? ["State", "ExitCode"]).bind Json.asInt64? = exitCode? v := rfl
  rw [containerState, Filled, Unfinished, code, ← status?]
  cases status? v with
  | none => simp
  | some status =>
    simp only [Option.getD_some, Option.some.injEq]
    split
    · simp
    · cases exitCode? v <;> simp
    · simp
    · next running exited _ =>
      refine ⟨by simp, ?_⟩
      intro h
      rcases h with ⟨same, -⟩ | same | ⟨same, -⟩
      · exact (exited same).elim
      · exact (running same).elim
      · exact (exited same).elim

section

variable {c : Config} {before : List (Event host)}

/-- A response that a description can be read from. -/
def Describes (r : Http.Response) (v : Json) : Prop :=
  (r.isSuccess = true ∨ r.status = 304) ∧ r.json = .ok v

/-- A path was inspected and described. -/
def Inspected (c : Config) (js : List (Event host)) (path : String) (v : Json) : Prop :=
  ∃ request r, c.draft .get path = .ok request ∧
    (⟨.exchange request, .ok r⟩ : Event host) ∈ js ∧ Describes r v

theorem Inspected.mono {js part : List (Event host)} {path : String} {v : Json} (sub : part ⊆ js)
    (inspected : Inspected c part path v) : Inspected c js path v := by
  obtain ⟨request, r, built, mem, describes⟩ := inspected
  exact ⟨request, r, built, sub mem, describes⟩

theorem accepted_eq_ok_iff {operation : String} {reply : Except Http.Failure Http.Response}
    {r : Http.Response} :
    accepted operation reply = .ok r ↔ reply = .ok r ∧ (r.isSuccess = true ∨ r.status = 304) := by
  cases reply with
  | error f => simp [accepted]
  | ok r' =>
    simp only [accepted, Except.ok.injEq]
    split
    · next fine =>
      constructor
      · intro same
        cases same
        exact ⟨rfl, fine⟩
      · intro h
        obtain ⟨rfl, -⟩ := h
        rfl
    · next refused =>
      constructor
      · intro same
        cases same
      · intro h
        obtain ⟨rfl, fine⟩ := h
        exact absurd fine refused

private theorem send_answers {operation : String} {d : Http.Draft} :
    Guarded recording anything (fun es result => ∀ r, result = .ok r → ∃ request, d = .ok request ∧
        (⟨.exchange request, .ok r⟩ : Event host) ∈ es ∧ (r.isSuccess = true ∨ r.status = 304))
      (Engine.send operation d).run before := by
  cases d with
  | error f => exact guarded_throw (by simp)
  | ok request =>
    refine ⟨trivial, ?_⟩
    intro reply after recorded r accepted
    subst recorded
    obtain ⟨rfl, fine⟩ := accepted_eq_ok_iff.mp accepted
    exact ⟨request, rfl, by simp, fine⟩

/-- A description comes from an answer to its inspection. -/
theorem getJson_inspects {operation path : String} :
    Guarded recording anything (fun es result => ∀ v, result = .ok v → Inspected c es path v)
      (Engine.getJson c operation path).run before := by
  rw [Engine.getJson]
  refine guarded_bindExcept ?_
  refine guarded_mono ?_ send_answers
  intro after result answers
  cases result with
  | error f =>
    intro v same
    cases same
  | ok r =>
    obtain ⟨request, built, mem, fine⟩ := answers r rfl
    dsimp only
    cases read : r.json with
    | error f => exact guarded_throw (by simp)
    | ok v =>
      intro v' same
      cases same
      exact ⟨request, r, built, mem, fine, read⟩

/-- The container that fills a volume. -/
def fillerPath (name : String) : String := "/containers/" ++ fillerName name ++ "/json"

/-- A volume counts as ready only when its filler was described as ready. -/
theorem observeVolume_inspects {name : String} :
    Guarded recording anything (fun es result => ∀ seen, result = .ok seen → seen.state = .ready →
        (∃ v, Inspected c es ("/volumes/" ++ name) v) ∧
          ∃ v, Inspected c es (fillerPath name) v ∧ (containerState v).1 = .ready)
      (c.observeVolume name).run before := by
  rw [Config.observeVolume]
  refine guarded_bindExcept ?_
  refine guarded_mapExcept ?_
  refine guarded_mono ?_ getJson_inspects
  intro after result volume
  cases result with
  | error f =>
    intro seen same
    cases same
  | ok v =>
    refine guarded_outcome ?_
    refine guarded_mono ?_ (guarded_extends getJson_inspects)
    intro later result inspects
    obtain ⟨filler, sub⟩ := inspects
    cases result with
    | error f =>
      dsimp only
      cases Failure.hasStatus 404 f with
      | false => exact guarded_throw (by simp)
      | true =>
        intro seen same same'
        cases same
        cases same'
    | ok v' =>
      intro seen same ready
      cases same
      exact ⟨⟨v, (volume v rfl).mono sub⟩, v', filler v' rfl, ready⟩

/-- What happens is an exchange that gets a certain response. -/
def Gets (r : Http.Response) (ev : Event host) : Prop := ∃ request, ev = ⟨.exchange request, .ok r⟩

private theorem canEnd_send {operation : String} {d : Http.Draft} {request : Http.Request} {r : Http.Response}
    (built : d = .ok request) (fine : r.isSuccess = true ∨ r.status = 304) :
    CanEnd (Gets r) (Engine.send operation d).run (.ok r) := by
  subst built
  have ending : CanEnd (Gets r) (Program.done (accepted operation (.ok r)) : Program host _) (.ok r) := by
    rw [accepted_eq_ok_iff.mpr ⟨rfl, fine⟩]
    exact canEnd_done _
  exact canEnd_ask (I := host) (c := .exchange request) (.ok r) ⟨request, rfl⟩ ending

private theorem canEnd_getJson {operation path : String} {request : Http.Request} {r : Http.Response} {v : Json}
    (built : c.draft .get path = .ok request) (describes : Describes r v) :
    CanEnd (Gets r) (Engine.getJson c operation path).run (.ok v) := by
  rw [Engine.getJson]
  refine canEnd_bindExcept (canEnd_send built describes.1) ?_
  rw [describes.2]
  exact canEnd_done _

private theorem canEnd_outcome {allowed : Event host → Prop} {x : Action α} {result : Except Failure α}
    (can : CanEnd allowed x.run result) : CanEnd allowed (Action.outcome x).run (.ok result) :=
  canEnd_bind can (canEnd_done _)

/-- The requests of a look at a volume can be built. -/
def Inspectable (c : Config) (name : String) : Prop :=
  (∃ request, c.draft .get ("/volumes/" ++ name) = .ok request) ∧
    ∃ request, c.draft .get (fillerPath name) = .ok request

/-- Any description of a filler as ready may make its volume count as ready. -/
theorem exists_ready_look {name : String} {r : Http.Response} {v : Json} (inspectable : Inspectable c name)
    (describes : Describes r v) (ready : (containerState v).1 = .ready) :
    ∃ seen : Observation, seen.state = .ready ∧ CanEnd (Gets r) (c.observeVolume name).run (.ok seen) := by
  obtain ⟨⟨ofVolume, volume⟩, ofFiller, filler⟩ := inspectable
  refine ⟨{ handle := { name, id := name }, state := (containerState v).1,
            status := "populate " ++ (containerState v).2 }, ready, ?_⟩
  rw [Config.observeVolume]
  refine canEnd_bindExcept (canEnd_mapExcept (canEnd_getJson volume describes)) ?_
  refine canEnd_bindExcept (canEnd_outcome (canEnd_getJson filler describes)) ?_
  exact canEnd_done _

end

/-- As far as the descriptions of fillers are such as an engine may give, a volume counts as ready only
when it is filled, and a run pass comes to create a scanner only once its volume is filled. -/
structure FilledFirst (c : Config) (job : Job) (admits : Json → Prop) : Prop where
  look : ∀ name js seen, Trace (c.observe .volume name).run js (some (.ok seen)) →
    (∀ v, Inspected c js (fillerPath name) v → admits v) → seen.state = .ready →
    ∃ v, Inspected c js (fillerPath name) v ∧ Filled v
  pass : ∀ es js name spec r,
    Trace (provider.pass .run job).run (es ++ [⟨.create name (.scanner spec), r⟩]) none →
    Answered c.answer es js →
    (∀ v, Inspected c js (fillerPath job.names.volume) v → admits v) →
    ∃ v, Inspected c js (fillerPath job.names.volume) v ∧ Filled v

/-- A run pass comes to create a scanner only once the volume has been seen ready. -/
theorem volume_ready_of_create {job : Job} {es : List (Event clients)} {name : String} {spec : ScannerSpec}
    {r : Except Failure Unit}
    (run : Trace (provider.pass .run job).run (es ++ [⟨.create name (.scanner spec), r⟩]) none) :
    ∃ volume, Pass.SeenReady es .volume job.names.volume volume := by
  unfold Provider.pass at run
  cases accepted : provider.kind.accept .run job with
  | error e =>
    rw [accepted] at run
    obtain ⟨none, -⟩ := trace_throw_iff.mp run
    simp at none
  | ok u =>
    rw [accepted] at run
    obtain ⟨asked, -⟩ := Trace.lawful run Pass.build_lawful
    obtain ⟨-, snapshot, volume, -, -, seen, -⟩ := (asked es _ [] rfl).scanner name spec rfl
    exact ⟨volume, seen⟩

/-- Volumes are filled before they count as ready exactly where no description of a filler is that of an
unfinished container. -/
theorem filledFirst_iff (c : Config) (job : Job) (admits : Json → Prop) :
    FilledFirst c job admits ↔
      ((∃ name, Inspectable c name) → ∀ v, (∃ r, Describes r v) → admits v → ¬ Unfinished v) := by
  constructor
  · intro first named v described admitted unfinished
    obtain ⟨name, inspectable⟩ := named
    obtain ⟨r, describes⟩ := described
    obtain ⟨seen, ready, js, run, only⟩ := exists_ready_look inspectable describes
      (containerState_eq_ready_iff.mpr (.inr unfinished))
    -- One response serves both requests, so the description that counts as ready is the only one.
    have same (v' : Json) (inspected : Inspected c js (fillerPath name) v') : v' = v := by
      obtain ⟨request, r', -, mem, describes'⟩ := inspected
      obtain ⟨request', event⟩ := only _ mem
      cases event
      exact Except.ok.inj (describes'.2.symm.trans describes.2)
    obtain ⟨v', inspected, filled⟩ := first.look name js seen run
      (fun v' inspected => (same v' inspected).symm ▸ admitted) ready
    rw [same v' inspected] at filled
    exact filled.finished unfinished
  · intro clear
    have look (name : String) (js : List (Event host)) (seen : Observation)
        (run : Trace (c.observe .volume name).run js (some (.ok seen)))
        (admitted : ∀ v, Inspected c js (fillerPath name) v → admits v) (ready : seen.state = .ready) :
        ∃ v, Inspected c js (fillerPath name) v ∧ Filled v := by
      obtain ⟨⟨_, ofVolume, _, volume, -, -⟩, v, inspected, state⟩ :=
        (run.lawful observeVolume_inspects).2 _ rfl seen rfl ready
      refine ⟨v, inspected, (containerState_eq_ready_iff.mp state).resolve_right ?_⟩
      obtain ⟨ofFiller, r, filler, -, describes⟩ := id inspected
      exact clear ⟨name, ⟨ofVolume, volume⟩, ofFiller, filler⟩ v ⟨r, describes⟩ (admitted v inspected)
    refine ⟨look, ?_⟩
    intro es js name spec r run answered admitted
    obtain ⟨volume, status, mem⟩ := volume_ready_of_create run
    obtain ⟨part, sub, answer⟩ := answered.mem mem
    obtain ⟨v, inspected, filled⟩ := look job.names.volume part _ answer
      (fun v inspected => admitted v (inspected.mono sub)) rfl
    exact ⟨v, inspected.mono sub, filled⟩

def sampleConfig : Config := { endpoint := "http://engine:2375", location := "local" }

def runningContainer : Http.Response where
  status := 200
  headers := []
  body := .ok "\x7b\"State\":\x7b\"Status\":\"running\"\x7d\x7d"

/-- A volume counts as ready while its filler still runs. -/
theorem not_filledFirst_running : ¬ FilledFirst sampleConfig (Rehearsal.sampleJob false) fun _ => True := by
  intro first
  have running : runningContainer.json.toOption.bind status? = some "running" := by decide +kernel
  cases read : runningContainer.json with
  | error f =>
    rw [read] at running
    cases running
  | ok v =>
    rw [read] at running
    have describes : Describes runningContainer v := ⟨.inl (by decide), read⟩
    have inspectable : Inspectable sampleConfig "volume" :=
      ⟨exists_ok_of_isOk (by decide +kernel), exists_ok_of_isOk (by decide +kernel)⟩
    obtain ⟨seen, ready, js, run, only⟩ := exists_ready_look inspectable describes
      (containerState_eq_ready_iff.mpr (.inr (.inl running)))
    obtain ⟨v', ⟨request, r, -, mem, describes'⟩, filled⟩ :=
      first.look "volume" js seen run (fun _ _ => trivial) ready
    obtain ⟨request', event⟩ := only _ mem
    cases event
    cases read.symm.trans describes'.2
    exact filled.finished (.inl running)

end ScanProvisioning.Docker
