import ScanProvisioning.Proofs.Docker.Passes
import ScanProvisioning.Proofs.Printed
import Mathlib.Data.List.Nodup

namespace ScanProvisioning.Docker

open Program Rehearsal

namespace Op

/-- An operation without the image that it names. -/
def bare : Op → Op
  | make p _ => make p ""
  | op => op

def all : List Op := [inspectImage, commit, removeImage, pull, inspectVolume, makeVolume, removeVolume,
  inspect .filler, make .filler "", start .filler, remove .filler,
  inspect .scanner, make .scanner "", start .scanner, remove .scanner]

theorem bare_mem_all (op : Op) : op.bare ∈ all := by
  cases op with
  | inspect p | make p | start p | remove p => cases p <;> simp [bare, all]
  | _ => simp [bare, all]

variable {c : Config} {job : Job} {op : Op} {request : Http.Request}

/-- Method and address of the request that asks for it. -/
def goal (c : Config) (job : Job) (op : Op) : Option (Http.Method × Http.Url) :=
  (op.address c job).toOption.map fun r => (r.method, r.url)

theorem goal_bare (op : Op) : op.bare.goal c job = op.goal c job := by
  cases op <;> rfl

end Op

/-- A request with a body goes where it goes without one. -/
theorem json_eq_ok_iff {v : Json} {d : Http.Draft} {request : Http.Request} :
    Http.Draft.json v d = .ok request ↔ ∃ r, d = .ok r ∧ request =
      { r with body := some v.printed, headers := r.headers ++ [("content-type", "application/json")] } := by
  have printable : Http.isHeaderValue "application/json" = true := by decide +kernel
  cases d with
  | error f =>
    have failed : Http.Draft.json v (.error f) = .error f := rfl
    simp [failed]
  | ok r =>
    have made : Http.Draft.json v (.ok r) = .ok { r with
        body := some v.printed, headers := r.headers ++ [("content-type", "application/json")] } := by
      simp only [Http.Draft.json, Http.Draft.body, Http.Draft.header, printable]
      rfl
    rw [made]
    constructor
    · intro same
      exact ⟨r, rfl, (Except.ok.inj same).symm⟩
    · intro h
      obtain ⟨r', same, rfl⟩ := h
      cases same
      rfl

namespace Op

variable {c : Config} {job : Job} {op : Op} {request : Http.Request}

private theorem goal_of_draft (built : op.draft c job = .ok request) :
    op.goal c job = some (request.method, request.url) := by
  have plain {r : Http.Request} (asks : op.address c job = .ok r) :
      op.goal c job = some (r.method, r.url) := by
    rw [goal, asks]
    rfl
  cases op with
  | makeVolume | make =>
    obtain ⟨r, asks, rfl⟩ := json_eq_ok_iff.mp built
    exact @plain r asks
  | _ => exact plain built

private theorem exists_draft (there : (op.goal c job).isSome = true) :
    ∃ request, op.draft c job = .ok request := by
  cases asks : op.address c job with
  | error f =>
    rw [goal, asks] at there
    cases there
  | ok r =>
    cases op with
    | makeVolume | make => exact ⟨_, json_eq_ok_iff.mpr ⟨r, asks, rfl⟩⟩
    | _ => exact ⟨r, asks⟩

/-- The image of a container stands in its description. -/
theorem body_around (job : Job) (p : Part) : ∃ before after, ∀ image,
    (p.body job image).printed = before ++ Json.printedString image ++ after := by
  have ordered : ∃ members others, ∀ image,
      p.body job image = .obj (members ++ ("Image", .str image) :: others) := by
    cases p with
    | filler =>
      obtain ⟨members, others, around⟩ := Json.object_around "Image" [
        ("User", .str "0"), ("Entrypoint", .strings ["/bin/sh", "-c"]), ("Cmd", .strings [Body.fillScript]),
        ("Labels", .object [(Body.kindLabel, .str "volume-populate")]),
        ("HostConfig", .object [("Binds", .strings [job.names.volume ++ ":" ++ Body.fillFolder])])] (by simp)
      exact ⟨members, others, fun image => around (.str image)⟩
    | scanner =>
      obtain ⟨members, others, around⟩ := Json.object_around "Image" [
        ("Env", .strings (Body.environment (job.scannerSpec ⟨job.names.volume, job.names.volume⟩ none))),
        ("Labels", .object [(Body.kindLabel, .str "scanner"), ("asset-scan.id", .str job.scanId.text)]),
        ("HostConfig", .object [("Binds",
          .strings [job.names.volume ++ ":" ++ Body.scanFolder ++ ":ro"])])] (by simp)
      exact ⟨members, others, fun image => around (.str image)⟩
  obtain ⟨members, others, same⟩ := ordered
  obtain ⟨before, after, around⟩ := Json.printed_around "Image" members others
  exact ⟨before, after, fun image => same image ▸ around image⟩

/-- Containers of different images are asked for in different words. -/
theorem make_inj {p : Part} {image other : String} (first : (make p image).draft c job = .ok request)
    (second : (make p other).draft c job = .ok request) : image = other := by
  obtain ⟨r, asks, rfl⟩ := json_eq_ok_iff.mp first
  obtain ⟨r', asks', same⟩ := json_eq_ok_iff.mp second
  obtain ⟨before, after, around⟩ := body_around job p
  have texts : (p.body job image).printed = (p.body job other).printed :=
    Option.some.inj (congrArg Http.Request.body same)
  rw [around, around] at texts
  exact Json.printedString_inj texts

end Op

/-- A job that its engine can be asked for. -/
structure Workable (c : Config) (job : Job) : Prop where
  takenOn : ∀ phase, provider.kind.accept phase job = .ok ()
  built : ∀ op : Op, ∃ request, op.draft c job = .ok request
  distinct : ∀ (op other : Op) request, op.draft c job = .ok request → other.draft c job = .ok request →
    op = other

/-- Where all requests go somewhere, each somewhere else, they can be told apart. -/
theorem workable_of_goals {c : Config} {job : Job} (takenOn : ∀ phase, provider.kind.accept phase job = .ok ())
    (apart : (none :: Op.all.map (Op.goal c job)).Nodup) : Workable c job where
  takenOn := takenOn
  built op := by
    refine Op.exists_draft ?_
    rw [Option.isSome_iff_ne_none, ← op.goal_bare]
    intro nowhere
    exact (List.nodup_cons.mp apart).1 (nowhere ▸ List.mem_map_of_mem op.bare_mem_all)
  distinct op other request asks asks' := by
    have goals : op.bare.goal c job = other.bare.goal c job := by
      rw [op.goal_bare, other.goal_bare, Op.goal_of_draft asks, Op.goal_of_draft asks']
    have bare : op.bare = other.bare :=
      List.inj_on_of_nodup_map (List.nodup_cons.mp apart).2 op.bare_mem_all other.bare_mem_all goals
    cases op with
    | make p image =>
      cases other with
      | make q image' =>
        cases bare
        rw [Op.make_inj asks asks']
      | _ => cases bare
    | _ =>
      cases other with
      | make => cases bare
      | _ => exact bare

/-- A job that scans a container. -/
def sampleContainerJob : Job := { sampleJob false with
  target := { kind := .container, id := "abc123", volume := "abc123" } }

theorem workable_sample : Workable sampleConfig sampleContainerJob := by
  refine workable_of_goals ?_ (by decide +kernel)
  intro phase
  cases phase <;> decide +kernel

theorem exists_of_json {α : Type} {r : Http.Response} {f : Json → α} {a : α}
    (reads : r.json.toOption.map f = some a) : ∃ v, r.json = .ok v ∧ f v = a := by
  cases read : r.json with
  | error e =>
    rw [read] at reads
    cases reads
  | ok v =>
    rw [read] at reads
    exact ⟨v, rfl, Option.some.inj reads⟩

/-- A description of the image of the sample job. -/
def sampleImage : Http.Response where
  status := 200
  headers := []
  body := .ok "\x7b\"Id\":\"sha256:asset-scan-snapshot-scan-0001\"\x7d"

theorem sampleImage_described :
    ∃ v, Describes sampleImage v ∧ v.string? "Id" = some (imageId sampleContainerJob.names.snapshot) := by
  have reads : sampleImage.json.toOption.map (·.string? "Id") =
      some (some (imageId sampleContainerJob.names.snapshot)) := by decide +kernel
  obtain ⟨v, read, shown⟩ := exists_of_json reads
  exact ⟨v, ⟨.inl (by decide), read⟩, shown⟩

/-- A response without a body. -/
def plainResponse (status : UInt16) : Http.Response := { status, headers := [], body := .ok "" }

section

variable {c : Config} {job : Job} {faults : Faults} {s : Site Inventory} {op : Op} {operation : String}
  {e : Inventory} {reply : Except Http.Failure Http.Response}

private theorem Op.served_plain (possible : op.refusal? job e = none) (other : op.inspects = false) :
    op.Served job e (.ok (plainResponse 200)) (op.effect job e) :=
  .done possible (.inl (by decide)) (by simp [other])

/-- A request may be served on its own. -/
theorem Workable.serves {request : Http.Request} (workable : Workable c job)
    (asks : op.draft c job = .ok request)
    (served : op.Served job s.engine reply e ∨ faults op reply ∧ e = s.engine) :
    (engine c job faults).serves s.engine request reply e := by
  refine ⟨?_, fun unknown => absurd asks (unknown op)⟩
  intro other asks'
  cases workable.distinct op other request asks asks'
  exact served

theorem Workable.leads_send (workable : Workable c job)
    (served : op.Served job s.engine reply e ∨ faults op reply ∧ e = s.engine) :
    Leads (engine c job faults).Meets (Engine.send operation (op.draft c job)).run s
      (accepted operation reply) { s with engine := e } := by
  obtain ⟨request, asks⟩ := workable.built op
  rw [asks]
  exact leads_ask (I := host) (c := .exchange request)
    ⟨_, [], .exchange (workable.serves asks served), .rest _⟩ (leads_done _ _)

/-- What is refused, or fails, with a status. -/
theorem Workable.leads_refused {status : UInt16} (workable : Workable c job)
    (refused : op.refusal? job s.engine = some status ∨ faults op (.ok (plainResponse status)))
    (bad : accepted operation (.ok (plainResponse status)) = .error (refusal operation status "")) :
    Leads (engine c job faults).Meets (Engine.send operation (op.draft c job)).run s
      (.error (refusal operation status "")) s := by
  rw [← bad]
  refine workable.leads_send (e := s.engine) ?_
  rcases refused with refused | fails
  · exact .inl (.refused refused)
  · exact .inr ⟨fails, rfl⟩

/-- What an engine does, with nothing to be said of it. -/
theorem Workable.leads_plain (workable : Workable c job) (possible : op.refusal? job s.engine = none)
    (other : op.inspects = false) :
    Leads (engine c job faults).Meets (discard (Engine.send operation (op.draft c job))).run s (.ok ())
      { s with engine := op.effect job s.engine } :=
  leads_mapExcept (workable.leads_send (.inl (Op.served_plain possible other)))

theorem Workable.leads_missing {path : String} (workable : Workable c job)
    (asks : op.draft c job = c.draft .get path) (missing : op.refusal? job s.engine = some 404) :
    Leads (engine c job faults).Meets (Engine.getJson c operation path).run s
      (.error (refusal operation 404 "")) s := by
  rw [Engine.getJson, ← asks]
  exact leads_bindExcept_error (workable.leads_refused (.inl missing) rfl)

theorem Workable.leads_shown {path : String} {r : Http.Response} {v : Json} (workable : Workable c job)
    (asks : op.draft c job = c.draft .get path) (there : op.refusal? job s.engine = none)
    (inspects : op.inspects = true) (describes : Describes r v) (shown : op.ShownBy job s.engine v) :
    Leads (engine c job faults).Meets (Engine.getJson c operation path).run s (.ok v) s := by
  have served : op.Served job s.engine (.ok r) s.engine := by
    have done := Op.Served.done there describes.1 fun _ => ⟨v, describes.2, shown⟩
    rwa [Op.effect_of_inspects inspects] at done
  have fine : accepted operation (.ok r) = .ok r := accepted_eq_ok_iff.mpr ⟨rfl, describes.1⟩
  have sent : Leads (engine c job faults).Meets (Engine.send operation (op.draft c job)).run s (.ok r) s :=
    fine ▸ workable.leads_send (.inl served)
  rw [Engine.getJson, ← asks]
  refine leads_bindExcept sent ?_
  rw [describes.2]
  exact leads_done _ s

/-- A look at a task of which nothing is known. -/
theorem leads_idle {α : Type} {k : Task} {f : Option TaskState → Program host α} {a : α} {t : Site Inventory}
    (idle : s.background.tasks.get? k = none) (rest : Leads (engine c job faults).Meets (f none) s a t) :
    Leads (engine c job faults).Meets (.ask (I := host) (.task k) f) s a t :=
  leads_ask ⟨s, [], idle ▸ .task s k, .rest s⟩ rest

/-- Nothing of a kind is there, nor anything known of it. -/
def Lacks (job : Job) (s : Site Inventory) : ResourceKind → Prop
  | .snapshot => s.background.tasks.get? (.commit job.names.snapshot) = none ∧
      s.engine.knows job.names.snapshot = false
  | .volume => job.names.volume ∉ s.engine.volumes
  | .scanner => s.status job .scanner = none
  | _ => False

variable (faults) in
theorem Workable.misses {kind : ResourceKind} (workable : Workable c job) (lacks : Lacks job s kind) :
    ∃ f : Failure, f.verdict = .missing ∧
      (engine c job faults).Treats c s (.observe kind (job.names.of kind)) (.error f) s := by
  have refused (operation : String) : (refusal operation 404 "").verdict = .missing :=
    verdict_refusal_eq_missing_iff.mpr rfl
  cases kind with
  | snapshot =>
    have missing : Op.inspectImage.refusal? job s.engine = some 404 := by simp [Op.refusal?, lacks.2]
    refine ⟨_, refused "inspecting snapshot image", ?_⟩
    exact leads_idle lacks.1 (leads_bindExcept_error (workable.leads_missing rfl missing))
  | volume =>
    have missing : Op.inspectVolume.refusal? job s.engine = some 404 := if_neg lacks
    refine ⟨_, refused "inspecting volume", ?_⟩
    exact leads_bindExcept_error (leads_mapExcept (workable.leads_missing rfl missing))
  | scanner =>
    have missing : (Op.inspect .scanner).refusal? job s.engine = some 404 := if_pos lacks
    refine ⟨_, refused "inspecting scanner container", ?_⟩
    exact leads_bindExcept_error (workable.leads_missing rfl missing)
  | stagedCopy | networkInterface => cases lacks

variable (faults) in
theorem Workable.finds_snapshot {r : Http.Response} {v : Json} (workable : Workable c job)
    (describes : Describes r v) (shown : v.string? "Id" = some (imageId job.names.snapshot))
    (idle : s.background.tasks.get? (.commit job.names.snapshot) = none)
    (known : s.engine.knows job.names.snapshot = true) :
    (engine c job faults).Treats c s (.observe .snapshot job.names.snapshot)
      (.ok ⟨⟨job.names.snapshot, imageId job.names.snapshot⟩, .ready, "committed"⟩) s := by
  have there : Op.inspectImage.refusal? job s.engine = none := if_pos known
  have settled : requiredText "inspecting snapshot image" "Id" v = .ok (imageId job.names.snapshot) := by
    rw [requiredText, shown]
  refine leads_idle idle (leads_bindExcept (workable.leads_shown rfl there rfl describes shown) ?_)
  rw [settled]
  exact leads_done _ s

variable (faults) in
theorem Workable.finds_filler {r : Http.Response} {v : Json} {status : Status} (workable : Workable c job)
    (describes : Describes r v) (named : ∃ id, v.string? "Id" = some id) (shown : status.ShownBy v)
    (there : job.names.volume ∈ s.engine.volumes) (stands : s.status job .filler = some status) :
    (engine c job faults).Treats c s (.observe .volume job.names.volume)
      (.ok ⟨⟨job.names.volume, job.names.volume⟩, status.shown.1, "populate " ++ status.shown.2⟩) s := by
  have volume : Op.inspectVolume.refusal? job s.engine = none := if_pos there
  have filler : (Op.inspect .filler).refusal? job s.engine = none := if_neg (by simp [stands])
  change Leads _ (c.observeVolume job.names.volume).run _ _ _
  rw [Config.observeVolume]
  refine leads_bindExcept (leads_mapExcept (workable.leads_shown rfl volume rfl describes trivial)) ?_
  refine leads_bindExcept (leads_outcome (workable.leads_shown rfl filler rfl describes
    ⟨named, status, stands, shown⟩)) ?_
  dsimp only
  rw [containerState_of_shownBy shown]
  exact leads_done _ _

theorem Workable.removes_snapshot (workable : Workable c job)
    (idle : s.background.tasks.get? (.commit job.names.snapshot) = none)
    (known : s.engine.knows job.names.snapshot = true) :
    (engine c job faults).Treats c s (.delete .snapshot job.names.snapshot) (.ok ())
      { s with engine := Op.removeImage.effect job s.engine } := by
  have there : Op.removeImage.refusal? job s.engine = none := if_pos known
  exact leads_idle idle (workable.leads_plain there rfl)

private theorem starts_commit :
    (engine c job faults).Treats c s (.create job.names.snapshot (.snapshot job.snapshotSpec)) (.ok ())
      { s with background := s.background.start (.commit job.names.snapshot) (Op.commit.draft c job) 0 } :=
  leads_ask (I := host) (c := .start _ _) ⟨_, [], .start s _ _ 0, .rest _⟩ (leads_done _ _)

variable (faults) in
/-- The commit that a run has started ends in the image. -/
theorem Workable.commits (workable : Workable c job) : ∃ ends t,
    (engine c job faults).Drifts
      ⟨{}, ({} : Background).start (.commit job.names.snapshot) (Op.commit.draft c job) 0⟩ ends t ∧
      t.engine = { images := [job.names.snapshot] } ∧
      t.background.tasks.get? (.commit job.names.snapshot) = none := by
  obtain ⟨request, asks⟩ := workable.built .commit
  rw [asks]
  let sending : Background := ({} : Background).start (.commit job.names.snapshot) (.ok request) 0
  let hearing : Background := { sending with
    waiting := [{ ready := 0, task := .commit job.names.snapshot, step := .hear (.ok (plainResponse 200)) }] }
  let made : Inventory := { images := [job.names.snapshot] }
  have served : (engine c job faults).serves {} request (.ok (plainResponse 200)) made :=
    workable.serves (s := ⟨{}, {}⟩) asks (.inl (Op.served_plain rfl rfl))
  have sends : (engine c job faults).Goes ⟨{}, sending⟩ [] ⟨made, hearing⟩ :=
    @Peer.Goes.send _ _ ⟨{}, sending⟩ _ [] request (.ok (plainResponse 200)) made 0
      (List.Perm.refl sending.waiting) rfl served
  have hears := @Peer.Goes.hear _ (engine c job faults) ⟨made, hearing⟩ _ [] _
    (List.Perm.refl hearing.waiting) rfl
  refine ⟨_, _, .go sends (.go hears (.rest _)), rfl, ?_⟩
  rw [Background.get?_finish, if_pos rfl]
  rfl

variable {t u : Site Inventory}

/-- A run that does not get past the snapshot. -/
theorem Workable.leads_run_snapshot {e : Setback} (workable : Workable c job)
    (stops : Leads ((engine c job faults).Treats c) (Pass.ensureSnapshot provider.timing job).run s
      (.error e) t) :
    Leads ((engine c job faults).Treats c) (provider.pass .run job).run s (.error e) t := by
  rw [pass_run_eq (workable.takenOn .run), runSteps]
  exact leads_bindExcept_error stops

/-- A run that gets past the snapshot, and no further than the volume. -/
theorem Workable.trace_run_volume {snapshot : Handle} {e : Setback} {es js : List (Event clients)}
    (workable : Workable c job)
    (first : Trace (Pass.ensureSnapshot provider.timing job).run es (some (.ok snapshot)))
    (stops : Trace (Pass.ensureVolume provider.timing job (pure (.snapshot snapshot))).run js
      (some (.error e))) :
    Trace (provider.pass .run job).run (es ++ js) (some (.error e)) := by
  rw [pass_run_eq (workable.takenOn .run), runSteps]
  refine trace_bindExcept_iff.mpr (.inr (.inr ⟨snapshot, es, js, rfl, first, ?_⟩))
  exact trace_bindExcept_iff.mpr (.inr (.inl ⟨e, rfl, stops⟩))

theorem Workable.leads_run_volume {snapshot : Handle} {e : Setback} (workable : Workable c job)
    (first : Leads ((engine c job faults).Treats c) (Pass.ensureSnapshot provider.timing job).run s
      (.ok snapshot) t)
    (stops : Leads ((engine c job faults).Treats c)
      (Pass.ensureVolume provider.timing job (pure (.snapshot snapshot))).run t (.error e) u) :
    Leads ((engine c job faults).Treats c) (provider.pass .run job).run s (.error e) u := by
  obtain ⟨es, run, replies⟩ := first
  obtain ⟨js, run', replies'⟩ := stops
  exact ⟨es ++ js, workable.trace_run_volume run run', replies.append replies'⟩

variable (faults) in
/-- A run makes the snapshot of a job of which there is nothing yet. -/
theorem Workable.takes_snapshot (admits : Phase → Prop) (workable : Workable c job) (runs : admits .run) :
    ∃ t, (engine c job faults).Life c admits job ⟨{}, {}⟩ t ∧
      t.engine = { images := [job.names.snapshot] } ∧
      t.background.tasks.get? (.commit job.names.snapshot) = none := by
  have lacks : Lacks job ⟨{}, {}⟩ .snapshot := ⟨rfl, rfl⟩
  obtain ⟨f, missing, look⟩ := workable.misses faults lacks
  obtain ⟨ends, t, drifts, made, idle⟩ := workable.commits faults
  obtain ⟨es, run, replies⟩ := workable.leads_run_snapshot
    (Pass.leads_ensure_missing missing rfl look starts_commit)
  exact ⟨t, .drift (.pass (.rest _) runs (.whole run replies)) drifts, made, idle⟩

end

end ScanProvisioning.Docker
