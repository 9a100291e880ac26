import ScanProvisioning.Proofs.Docker.Filling
import ScanProvisioning.Proofs.Weathering

namespace ScanProvisioning.Docker

open Program

/-- Exchanges that fail on the way. -/
def hazard (admits : Http.Response → Prop) : Hazard host where
  strikes
    | .exchange request, reply => Http.Broken admits request reply
    | _, _ => False
  instead
    | .exchange _, reply, other => Http.Instead reply other
    | _, _, _ => False

variable {α β : Type} {admits : Http.Response → Prop} {operation name : String}

theorem weathered_ask {call : Call} {f : call.Reply → Action α} (silent : ∀ request, call ≠ .exchange request)
    (rest : ∀ r, Weathered (hazard admits) (f r)) : Weathered (hazard admits) (Action.ask call >>= f) := by
  refine weathers_ask ?_ rest
  intro r strikes
  cases call with
  | exchange request => exact silent request rfl
  | _ => exact strikes

/-- What goes on with an outcome has to pass on that nobody was reached. -/
theorem weathered_outcome {x : Action α} {f : Except Failure α → Action β} (first : Weathered (hazard admits) x)
    (rest : ∀ result, Weathered (hazard admits) (f result))
    (passes : ∀ result, Unreached result → Doomed Unreached (f result).run) :
    Weathered (hazard admits) (Action.outcome x >>= f) := by
  rw [Weathered, outcome_bind_run]
  exact weathers_bind first rest passes

theorem weathered_send {d : Http.Draft} {f : Http.Response → Action α}
    (rest : ∀ r, Weathered (hazard admits) (f r))
    (unread : ∀ request r, d = .ok request → Http.Broken admits request (.ok r) →
      Doomed Unreached (f r).run ∨ ∀ body, f { r with body } = f r) :
    Weathered (hazard admits) (Engine.send operation d >>= f) := by
  cases d with
  | error f => trivial
  | ok request =>
    have passed (r : Http.Response) (fine : r.isSuccess = true ∨ r.status = 304) :
        (Action.settle (accepted operation (.ok r)) >>= f) = f r := by
      rw [accepted_eq_ok_iff.mpr ⟨rfl, fine⟩]
      rfl
    rintro (lost | r)
    · exact ⟨trivial, fun _ => .inl doomed_throw⟩
    · refine ⟨?_, ?_⟩
      · change Weathered (hazard admits) (Action.settle (accepted operation (.ok r)) >>= f)
        by_cases fine : r.isSuccess = true ∨ r.status = 304
        · rw [passed r fine]
          exact rest r
        · rw [accepted, if_neg fine]
          trivial
      · intro broken
        have fine : r.isSuccess = true ∨ r.status = 304 := .inl broken.1
        refine (unread request r rfl broken).imp ?_ ?_
        · intro doomed
          change Doomed Unreached (Action.settle (accepted operation (.ok r)) >>= f).run
          rw [passed r fine]
          exact doomed
        · rintro same _ ⟨body, rfl⟩
          have again := (passed { r with body } fine).trans ((same body).trans (passed r fine).symm)
          exact congrArg ExceptT.run again

/-- A request whose response is not read beyond its headers. -/
theorem weathered_discard {d : Http.Draft} : Weathered (hazard admits) (discard (Engine.send operation d)) := by
  rw [discard_eq_bind]
  exact weathered_send (fun _ => trivial) fun _ _ _ _ => .inr fun _ => rfl

private theorem ignored_run (x : Action α) (f : Unit → Action β) :
    (discard (Action.outcome x) >>= f).run = x.run >>= fun _ => (f ()).run := by
  rw [discard_eq_bind, LawfulMonad.bind_assoc, outcome_bind_run]
  rfl

/-- A request whose outcome does not matter. -/
theorem weathered_ignored {d : Http.Draft} {f : Unit → Action α} (rest : Weathered (hazard admits) (f ())) :
    Weathered (hazard admits) (discard (Action.outcome (discard (Engine.send operation d))) >>= f) := by
  rw [Weathered, ignored_run, discard_send_run]
  cases d with
  | error lost => exact rest
  | ok request => exact fun reply => ⟨rest, fun _ => .inr fun _ _ => rfl⟩

section

variable (c : Config)

theorem tolerate_weathered {status : UInt16} {x : Action Unit} (first : Weathered (hazard admits) x) :
    Weathered (hazard admits) (Config.tolerate status x) := by
  refine weathered_outcome first ?_ ?_
  · rintro (f | u)
    · dsimp only
      split <;> trivial
    · trivial
  · rintro _ ⟨operation, message, timedOut, rfl⟩
    exact doomed_throw

/-- The container that did not start is discarded, and the failure stands whatever comes of that. -/
theorem startOrDiscard_weathered : Weathered (hazard admits) (Engine.startOrDiscard c operation name) := by
  refine weathered_outcome weathered_discard ?_ ?_
  · rintro (f | u)
    · exact weathered_ignored trivial
    · trivial
  · rintro _ ⟨operation, message, timedOut, rfl⟩
    dsimp only
    rw [Engine.discardUnstarted, ignored_run]
    exact doomed_bind (fun _ _ _ => trivial) fun _ _ => doomed_throw

theorem getJson_weathered {path : String} (arrives : Http.Arrives admits) :
    Weathered (hazard admits) (Engine.getJson c operation path) := by
  refine weathered_send ?_ ?_
  · intro r
    cases r.json <;> trivial
  · intro request r built broken
    exact absurd broken (arrives.not_broken (Http.draft_method built))

variable (arrives : Http.Arrives admits)

include arrives

theorem observeSnapshot_weathered : Weathered (hazard admits) (c.observeSnapshot name) := by
  refine weathered_ask (by simp) fun state => ?_
  cases state with
  | none => exact (getJson_weathered c arrives).bind fun _ => Weathered.bind trivial fun _ => trivial
  | some state => cases state <;> trivial

theorem observeVolume_weathered : Weathered (hazard admits) (c.observeVolume name) := by
  refine (getJson_weathered c arrives).discard.bind fun _ => ?_
  refine weathered_outcome (getJson_weathered c arrives) ?_ ?_
  · rintro (f | v)
    · dsimp only
      split <;> trivial
    · trivial
  · rintro _ ⟨operation, message, timedOut, rfl⟩
    exact doomed_throw

theorem observeScanner_weathered : Weathered (hazard admits) (c.observeScanner name) :=
  (getJson_weathered c arrives).bind fun _ => Weathered.bind trivial fun _ => trivial

theorem observe_weathered (kind : ResourceKind) : Weathered (hazard admits) (c.observe kind name) := by
  cases kind with
  | snapshot => exact observeSnapshot_weathered c arrives
  | volume => exact observeVolume_weathered c arrives
  | scanner => exact observeScanner_weathered c arrives
  | networkInterface | stagedCopy => trivial

theorem listAssets_weathered : Weathered (hazard admits) c.listAssets := by
  refine (getJson_weathered c arrives).bind fun v => ?_
  cases v.asArray? <;> trivial

omit arrives

theorem pull_weathered {image : String} : Weathered (hazard admits) (c.pull image) := by
  refine weathered_ask (by simp) fun state => ?_
  rcases state with _ | (_ | f)
  all_goals exact weathered_ask (by simp) fun _ => trivial

theorem createScanner_weathered (spec : ScannerSpec) :
    Weathered (hazard admits) (c.createScanner name spec) := by
  refine weathered_outcome weathered_discard ?_ ?_
  · rintro (f | u)
    · dsimp only
      split
      · exact pull_weathered c
      · trivial
    · exact startOrDiscard_weathered c
  · rintro _ ⟨operation, message, timedOut, rfl⟩
    exact doomed_throw

theorem createVolume_weathered (spec : VolumeSpec) :
    Weathered (hazard admits) (c.createVolume name spec) := by
  rw [Config.createVolume]
  cases spec.source with
  | staged copy => trivial
  | snapshot image =>
    refine weathered_discard.bind fun _ => ?_
    exact (tolerate_weathered weathered_discard).bind fun _ => startOrDiscard_weathered c

theorem create_weathered (spec : ResourceSpec) : Weathered (hazard admits) (c.create name spec) := by
  cases spec with
  | snapshot spec => exact weathered_ask (by simp) fun _ => trivial
  | volume spec => exact createVolume_weathered c spec
  | scanner spec => exact createScanner_weathered c spec
  | networkInterface spec => trivial

theorem deleteSnapshot_weathered : Weathered (hazard admits) (c.deleteSnapshot name) := by
  refine weathered_ask (by simp) fun state => ?_
  rcases state with _ | (_ | f)
  · exact weathered_discard
  · trivial
  · exact weathered_ask (by simp) fun _ => weathered_discard

theorem delete_weathered (kind : ResourceKind) : Weathered (hazard admits) (c.delete kind name) := by
  cases kind with
  | snapshot => exact deleteSnapshot_weathered c
  | volume => exact (tolerate_weathered weathered_discard).bind fun _ => weathered_discard
  | scanner => exact weathered_discard
  | networkInterface | stagedCopy => trivial

/-- Every call to an engine weathers what fails on the way. -/
theorem answer_weathers (arrives : Http.Arrives admits) :
    (call : ClientCall) → Weathers (hazard admits) (Retried call) (c.answer call)
  | .observe kind _ => weathers_mono (fun _ => Unreached.retried) (observe_weathered c arrives kind)
  | .create _ spec => weathers_mono (fun _ => Unreached.retried) (create_weathered c spec)
  | .delete kind _ => weathers_mono (fun _ => Unreached.retried) (delete_weathered c kind)
  | .grantAccess .. => trivial
  | .revokeAccess _ => trivial
  | .copyStatus _ => trivial
  | .startCopy .. => trivial
  | .deleteCopy _ => trivial
  | .listAssets => weathers_mono (fun _ => Unreached.retried) (listAssets_weathered c arrives)

end

/-- A task whose request fails on the way has reached nobody, or has read nothing of what was lost. -/
theorem Task.weathers {t : Task} {request : Http.Request} {reply : Except Http.Failure Http.Response}
    (broken : Http.Broken admits request reply) :
    Unreached (t.result reply) ∨ ∀ other, Http.Instead reply other → t.result other = t.result reply := by
  cases reply with
  | error f =>
    left
    cases t <;> exact ⟨_, _, _, rfl⟩
  | ok r =>
    obtain ⟨success, ⟨f, lost⟩, -⟩ := broken
    have passed {operation : String} (body : Except Http.Failure String) :
        accepted operation (.ok { r with body }) = .ok { r with body } :=
      accepted_eq_ok_iff.mpr ⟨rfl, .inl success⟩
    cases t with
    | commit image =>
      right
      rintro _ ⟨body, rfl⟩
      simp only [Task.result, passed]
      rfl
    | pull image =>
      left
      have here : accepted Task.pulling (.ok r) = .ok r := passed r.body
      have text : r.text = .error f := by
        rw [Http.Response.text, lost]
        rfl
      rw [Task.result, Task.pullResult, here]
      dsimp only
      rw [text]
      exact ⟨_, _, _, rfl⟩

end ScanProvisioning.Docker
