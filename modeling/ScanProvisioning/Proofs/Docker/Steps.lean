import ScanProvisioning.Docker.Clients
import ScanProvisioning.Proofs.Guarded

namespace ScanProvisioning.Docker

open Program

variable {α β σ : Type}

theorem outcome_bind_run (x : Action α) (f : Except Failure α → Action β) :
    (Action.outcome x >>= f).run = x.run >>= fun result => (f result).run := by
  have unfolded : (Action.outcome x >>= f).run =
      (x.run >>= fun result => Program.done (.ok result)) >>= ExceptT.bindCont f := rfl
  rw [unfolded, Program.bind_assoc]
  rfl

/-- A request that cannot be built is not sent. -/
theorem discard_send_run (operation : String) (d : Http.Draft) :
    (discard (Engine.send operation d)).run = match d with
      | .error f => .done (.error (.unreachable operation f.message f.timedOut))
      | .ok request => Program.ask (I := host) (.exchange request) fun reply =>
        .done ((accepted operation reply).map fun _ => ()) := by
  cases d with
  | error f => rfl
  | ok request =>
    refine congrArg (Program.ask (I := host) (.exchange request)) ?_
    funext reply
    change Program.bind (Program.done (accepted operation reply)) _ = _
    cases accepted operation reply <;> rfl

section

variable {answers : σ → (c : Call) → c.Reply → σ → Prop} {law : σ → Call → Prop} {s : σ}

theorem guarded_ask {call : Call} {f : call.Reply → Action β} {post : σ → Except Failure β → Prop}
    (lawful : law s call) (rest : ∀ r t, answers s call r t → Guarded answers law post (f r).run t) :
    Guarded answers law post (Action.ask call >>= f).run s :=
  ⟨lawful, rest⟩

theorem guarded_outcome {x : Action α} {f : Except Failure α → Action β}
    {post : σ → Except Failure β → Prop}
    (guarded : Guarded answers law (fun t result => Guarded answers law post (f result).run t) x.run s) :
    Guarded answers law post (Action.outcome x >>= f).run s := by
  refine guarded_bind ?_
  refine guarded_bind ?_
  exact guarded

theorem leads_outcome {x : Action α} {result : Except Failure α} {t : σ}
    (first : Leads answers x.run s result t) : Leads answers (Action.outcome x).run s (.ok result) t :=
  leads_bind first (leads_done _ t)

theorem guarded_discard {x : Action α} {post : σ → Except Failure Unit → Prop}
    (guarded : Guarded answers law (fun t result => post t (result.map fun _ => ())) x.run s) :
    Guarded answers law post (discard x).run s :=
  guarded_mapExcept guarded

/-- A request that cannot be built is not sent. -/
theorem guarded_send {operation : String} {d : Http.Draft} {post : σ → Except Failure Http.Response → Prop}
    (unbuilt : ∀ f, d = .error f → post s (.error (.unreachable operation f.message f.timedOut)))
    (lawful : ∀ request, d = .ok request → law s (.exchange request))
    (sent : ∀ request reply t, d = .ok request → answers s (.exchange request) reply t →
      post t (accepted operation reply)) :
    Guarded answers law post (Engine.send operation d).run s := by
  cases d with
  | error f => exact unbuilt f rfl
  | ok request => exact ⟨lawful request rfl, fun reply t answer => sent request reply t rfl answer⟩

end

/-- Every question of a program is a request, whatever it is answered. -/
def OnlyExchanges (p : Program host α) : Prop :=
  Guarded (fun _ _ _ _ => True) (fun _ call => ∃ request, call = Call.exchange request) (fun _ _ => True)
    p ()

theorem OnlyExchanges.bind {x : Action α} {f : α → Action β} (first : OnlyExchanges x.run)
    (rest : ∀ a, OnlyExchanges (f a).run) : OnlyExchanges (x >>= f).run := by
  refine guarded_bindExcept (guarded_mono ?_ first)
  intro _ result _
  cases result with
  | error f => trivial
  | ok a => exact rest a

theorem OnlyExchanges.outcome {x : Action α} {f : Except Failure α → Action β}
    (first : OnlyExchanges x.run) (rest : ∀ result, OnlyExchanges (f result).run) :
    OnlyExchanges (Action.outcome x >>= f).run :=
  guarded_outcome (guarded_mono (fun _ result _ => rest result) first)

private theorem onlyExchanges_send (operation : String) (d : Http.Draft) :
    OnlyExchanges (Engine.send operation d).run :=
  guarded_send (fun _ _ => trivial) (fun request _ => ⟨request, rfl⟩) fun _ _ _ _ _ => trivial

/-- What every exchange keeps is kept by a program that only exchanges requests. -/
theorem OnlyExchanges.guarded {answers : σ → (c : Call) → c.Reply → σ → Prop} {law : σ → Call → Prop}
    {kept : σ → Prop} {p : Program host α} {s : σ} (only : OnlyExchanges p)
    (lawful : ∀ s request, kept s → law s (.exchange request))
    (keeps : ∀ s request reply t, kept s → answers s (.exchange request) reply t → kept t)
    (holds : kept s) : Guarded answers law (fun t _ => kept t) p s := by
  induction p generalizing s with
  | done a => exact holds
  | ask call k ih =>
    obtain ⟨⟨request, rfl⟩, rest⟩ := only
    refine ⟨lawful s request holds, ?_⟩
    intro reply t answer
    exact ih reply (rest reply () trivial) (keeps s request reply t holds answer)

section

variable (c : Config)

theorem onlyExchanges_discard (operation : String) (d : Http.Draft) :
    OnlyExchanges (discard (Engine.send operation d)).run :=
  guarded_discard (guarded_mono (fun _ _ _ => trivial) (onlyExchanges_send operation d))

theorem onlyExchanges_getJson (operation path : String) :
    OnlyExchanges (Engine.getJson c operation path).run := by
  refine OnlyExchanges.bind (onlyExchanges_send _ _) ?_
  intro r
  cases r.json with
  | ok v => trivial
  | error f => trivial

theorem onlyExchanges_startOrDiscard (operation name : String) :
    OnlyExchanges (Engine.startOrDiscard c operation name).run := by
  refine OnlyExchanges.outcome (onlyExchanges_discard _ _) ?_
  intro result
  cases result with
  | ok u => trivial
  | error f =>
    refine OnlyExchanges.bind ?_ fun _ => trivial
    exact guarded_discard (guarded_bind (guarded_mono (fun _ _ _ => trivial) (onlyExchanges_discard _ _)))

private theorem onlyExchanges_tolerate {status : UInt16} {x : Action Unit} (only : OnlyExchanges x.run) :
    OnlyExchanges (Config.tolerate status x).run := by
  refine OnlyExchanges.outcome only ?_
  intro result
  cases result with
  | ok u => trivial
  | error f =>
    dsimp only
    split <;> trivial

theorem onlyExchanges_observeVolume (name : String) : OnlyExchanges (c.observeVolume name).run := by
  have volume := onlyExchanges_getJson c "inspecting volume" ("/volumes/" ++ name)
  have filler := onlyExchanges_getJson c "inspecting volume" ("/containers/" ++ fillerName name ++ "/json")
  refine OnlyExchanges.bind (guarded_discard (guarded_mono (fun _ _ _ => trivial) volume)) fun _ => ?_
  refine OnlyExchanges.outcome filler ?_
  intro result
  cases result with
  | ok v => trivial
  | error f =>
    dsimp only
    split <;> trivial

theorem onlyExchanges_createVolume (name : String) (spec : VolumeSpec) :
    OnlyExchanges (c.createVolume name spec).run := by
  rw [Config.createVolume]
  cases spec.source with
  | staged copy => trivial
  | snapshot image =>
    refine OnlyExchanges.bind (onlyExchanges_discard _ _) fun _ => ?_
    refine OnlyExchanges.bind (onlyExchanges_tolerate (onlyExchanges_discard _ _)) fun _ => ?_
    exact onlyExchanges_startOrDiscard c _ _

theorem onlyExchanges_deleteVolume (name : String) : OnlyExchanges (c.deleteVolume name).run := by
  refine OnlyExchanges.bind (onlyExchanges_tolerate (onlyExchanges_discard _ _)) fun _ => ?_
  exact onlyExchanges_discard _ _

theorem onlyExchanges_observeScanner (name : String) : OnlyExchanges (c.observeScanner name).run := by
  refine OnlyExchanges.bind (onlyExchanges_getJson _ _ _) fun container => ?_
  exact OnlyExchanges.bind trivial fun _ => trivial

theorem onlyExchanges_listAssets : OnlyExchanges c.listAssets.run := by
  refine OnlyExchanges.bind (onlyExchanges_getJson _ _ _) ?_
  intro body
  cases body.asArray? with
  | none => trivial
  | some containers => trivial

end

end ScanProvisioning.Docker
