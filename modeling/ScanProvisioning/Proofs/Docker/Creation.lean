import ScanProvisioning.Proofs.Docker.Steps

namespace ScanProvisioning.Docker

open Program

/-- What the creation of a scanner ends in while its image is being pulled. -/
def underWay (image : String) : Failure :=
  .refused Task.pulling 409 (some "ImagePullInProgress") ("image " ++ image ++ " is being pulled")
    (some pullHint)

def creating : String := "creating scanner container"

def scannerDraft (c : Config) (name : String) (spec : ScannerSpec) : Http.Draft :=
  Http.Draft.json (Body.scanner spec) (Http.Draft.query [("name", name)] (c.draft .post "/containers/create"))

/-- The engine does not know the image of a container that is to be created. -/
def FindsNoImage (es : List (Event host)) : Prop :=
  ∃ request response rest, es = (⟨.exchange request, .ok response⟩ : Event host) :: rest ∧
    response.status = 404

section

variable {c : Config} {name : String} {spec : ScannerSpec} {es : List (Event host)} {r : Except Failure Unit}

private theorem accepted_of_missing (operation : String) {response : Http.Response}
    (missing : response.status = 404) :
    ∃ f, accepted operation (.ok response) = .error f ∧ Failure.hasStatus 404 f = true := by
  refine ⟨refusal operation response.status (response.text.toOption.getD ""), ?_, ?_⟩
  · simp [accepted, Http.Response.isSuccess, missing]
  · simp [refusal, Failure.refusal, Failure.hasStatus, missing]

theorem pull_run (image : String) : (c.pull image).run =
    Program.ask (I := host) (.task (.pull image)) fun seen =>
      match seen with
      | some (.failed f) => .ask (.forget (.pull image)) fun _ => .done (.error f)
      | _ => .ask (.start (.pull image) (Task.pullRequest c image)) fun _ =>
        .done (.error (underWay image)) := by
  rw [Config.pull, Action.ask]
  refine congrArg (Program.ask (I := host) (.task (.pull image))) ?_
  funext seen
  rcases seen with _ | (_ | f) <;> rfl

/-- The creation of a container, as far as the engine's answer to it. -/
theorem createScanner_run : (c.createScanner name spec).run =
    match scannerDraft c name spec with
    | .error f => .done (.error (.unreachable creating f.message f.timedOut))
    | .ok request => Program.ask (I := host) (.exchange request) fun reply =>
      match accepted creating reply with
      | .ok _ => (Engine.startOrDiscard c creating name).run
      | .error f => if Failure.hasStatus 404 f then (c.pull spec.image).run else .done (.error f) := by
  have made : Engine.createContainer c creating name (Body.scanner spec) =
      discard (Engine.send creating (scannerDraft c name spec)) := rfl
  rw [Config.createScanner, ← creating, outcome_bind_run, made, discard_send_run]
  cases scannerDraft c name spec with
  | error f => rfl
  | ok request =>
    refine congrArg (Program.ask (I := host) (.exchange request)) ?_
    funext reply
    change Program.bind (Program.done ((accepted creating reply).map fun _ => ())) _ = _
    cases accepted creating reply with
    | ok response => rfl
    | error f =>
      change ExceptT.run (if Failure.hasStatus 404 f = true then c.pull spec.image else throw f) = _
      dsimp only
      cases Failure.hasStatus 404 f <;> rfl

/-- A creation that misses the image looks at its pull, and ends in the failure that it sees, or else in
asking to come back. -/
theorem trace_createScanner_missing (run : Trace (c.createScanner name spec).run es (some r))
    (missing : FindsNoImage es) : ∃ request reply seen last,
      es = [⟨.exchange request, reply⟩, ⟨.task (.pull spec.image), seen⟩, last] ∧
      ((∃ f, seen = some (.failed f) ∧ r = .error f ∧ last = ⟨.forget (.pull spec.image), ()⟩) ∨
        (∀ f, seen ≠ some (.failed f)) ∧ r = .error (underWay spec.image) ∧
          last = ⟨.start (.pull spec.image) (Task.pullRequest c spec.image), ()⟩) := by
  obtain ⟨request, response, rest, rfl, unknown⟩ := missing
  obtain ⟨f, refused, status⟩ := accepted_of_missing creating unknown
  rw [createScanner_run] at run
  cases draft : scannerDraft c name spec with
  | error f =>
    rw [draft] at run
    cases run
  | ok built =>
    rw [draft] at run
    cases run with
    | ask reply run =>
      dsimp only at run
      rw [refused] at run
      dsimp only at run
      rw [if_pos status, pull_run] at run
      cases run with
      | ask seen run =>
        refine ⟨request, .ok response, seen, ?_⟩
        rcases seen with _ | (_ | f)
        · cases run with
          | ask u run =>
            cases run
            exact ⟨_, rfl, .inr ⟨by simp, rfl, rfl⟩⟩
        · cases run with
          | ask u run =>
            cases run
            exact ⟨_, rfl, .inr ⟨by simp, rfl, rfl⟩⟩
        · cases run with
          | ask u run =>
            cases run
            exact ⟨_, rfl, .inl ⟨f, rfl, rfl, rfl⟩⟩

theorem trace_createScanner_start {request : Http.Request} {response : Http.Response}
    {seen : Option TaskState} (built : scannerDraft c name spec = .ok request)
    (unknown : response.status = 404) (other : ∀ f, seen ≠ some (.failed f)) :
    Trace (c.createScanner name spec).run [⟨.exchange request, .ok response⟩,
      ⟨.task (.pull spec.image), seen⟩, ⟨.start (.pull spec.image) (Task.pullRequest c spec.image), ()⟩]
      (some (.error (underWay spec.image))) := by
  obtain ⟨f, refused, status⟩ := accepted_of_missing creating unknown
  rw [createScanner_run, built]
  refine .ask _ ?_
  rw [refused]
  dsimp only
  rw [if_pos status, pull_run]
  refine Trace.ask (I := host) (c := .task (.pull spec.image)) seen ?_
  rcases seen with _ | (_ | g)
  · exact Trace.ask (I := host) (c := .start _ _) () (.done _)
  · exact Trace.ask (I := host) (c := .start _ _) () (.done _)
  · exact absurd rfl (other g)

private theorem operation_of_accepted {operation : String} {reply : Except Http.Failure Http.Response}
    {f : Failure}
    (refused : accepted operation reply = .error f) : f.operation = operation := by
  cases reply with
  | error g =>
    cases refused
    rfl
  | ok response =>
    simp only [accepted] at refused
    split at refused
    · cases refused
    · cases refused
      rfl

private theorem missing_of_accepted {operation : String} {reply : Except Http.Failure Http.Response}
    {f : Failure}
    (refused : accepted operation reply = .error f) (missing : Failure.hasStatus 404 f = true) :
    ∃ response, reply = .ok response ∧ response.status = 404 := by
  cases reply with
  | error g =>
    cases refused
    cases missing
  | ok response =>
    simp only [accepted] at refused
    split at refused
    · cases refused
    · cases refused
      exact ⟨response, rfl, by simpa [refusal, Failure.refusal, Failure.hasStatus] using missing⟩

/-- A container that does not start is removed as far as possible, and the failure to start it stays. -/
theorem startOrDiscard_operation {operation : String} {before : List (Event host)} :
    Guarded recording anything (fun _ result => ∀ f, result = .error f → f.operation = operation)
      (Engine.startOrDiscard c operation name).run before := by
  have started : Guarded recording anything (fun _ result => ∀ f, result = .error f → f.operation = operation)
      (Engine.startContainer c operation name).run before := by
    refine guarded_discard (guarded_send ?_ (fun _ _ => trivial) ?_)
    · intro f _ g same
      cases same
      rfl
    · intro request reply t _ _ g same
      cases refused : accepted operation reply with
      | ok response =>
        rw [refused] at same
        cases same
      | error f =>
        rw [refused] at same
        cases same
        exact operation_of_accepted refused
  have removed (after : List (Event host)) : Guarded recording anything (fun _ result => result = .ok ())
      (Engine.discardUnstarted c name).run after :=
    guarded_discard (guarded_bind (guarded_mono (fun _ _ _ => rfl) (guarded_anything _ after)))
  rw [Engine.startOrDiscard]
  refine guarded_outcome (guarded_mono ?_ started)
  intro after result names
  cases result with
  | ok u => exact fun f same => nomatch same
  | error f =>
    refine guarded_bindExcept (guarded_mono ?_ (removed after))
    intro later result same
    subst same
    intro g same
    cases same
    exact names f rfl

/-- Only a creation that misses the image ends in what concerns its pull. -/
theorem findsNoImage_of_pulling {f : Failure} (run : Trace (c.createScanner name spec).run es (some (.error f)))
    (concerns : f.operation = Task.pulling) : FindsNoImage es := by
  have apart : creating ≠ Task.pulling := by decide
  rw [createScanner_run] at run
  cases draft : scannerDraft c name spec with
  | error g =>
    rw [draft] at run
    cases run
    exact absurd concerns apart
  | ok request =>
    rw [draft] at run
    cases run with
    | ask reply run =>
      dsimp only at run
      cases refused : accepted creating reply with
      | ok response =>
        rw [refused] at run
        have names := (run.lawful startOrDiscard_operation).2 _ rfl f rfl
        exact absurd (names.symm.trans concerns) apart
      | error g =>
        rw [refused] at run
        dsimp only at run
        cases missing : Failure.hasStatus 404 g with
        | true =>
          obtain ⟨response, rfl, unknown⟩ := missing_of_accepted refused missing
          exact ⟨request, response, _, rfl, unknown⟩
        | false =>
          rw [missing, if_neg (by simp)] at run
          cases run
          exact absurd ((operation_of_accepted refused).symm.trans concerns) apart

end

end ScanProvisioning.Docker
