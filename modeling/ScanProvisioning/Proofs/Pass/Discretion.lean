import ScanProvisioning.Proofs.Pass.Reporting
import ScanProvisioning.Rehearsal.Cloud

namespace ScanProvisioning

/-- Stands for an address that is not looked at. -/
def AccessUrl.withheld : AccessUrl := ⟨""⟩

/-- A call without the address that it hands on. -/
def ClientCall.redacted : ClientCall → ClientCall
  | startCopy name _ => startCopy name .withheld
  | c => c

/-- Only the address to copy from is left out. -/
theorem ClientCall.eq_of_redacted {c d : ClientCall} (alike : c.redacted = d.redacted) :
    c = d ∨ ∃ name source source', c = startCopy name source ∧ d = startCopy name source' := by
  cases c <;> cases d <;> cases alike
  case startCopy.startCopy name source source' => exact .inr ⟨name, source, source', rfl, rfl⟩
  all_goals exact .inl rfl

/-- A call and its answer, without the address in either. -/
def Event.redacted : Event clients → Event clients
  | ⟨.startCopy name _, r⟩ => ⟨.startCopy name .withheld, r⟩
  | ⟨.grantAccess snapshot ttl, r⟩ => ⟨.grantAccess snapshot ttl, r.map fun _ => .withheld⟩
  | ev => ev

theorem Event.call_redacted (ev : Event clients) : ev.redacted.call = ev.call.redacted := by
  obtain ⟨c, r⟩ := ev
  cases c <;> rfl

/-- Whether an answer to a call can hold an address. -/
def ClientCall.grants : ClientCall → Bool
  | grantAccess .. => true
  | _ => false

/-- Where no address is granted, nothing of the answer is withheld. -/
theorem Event.reply_eq_of_redacted {c : ClientCall} (plain : c.grants = false) {r s : c.Reply}
    (alike : (⟨c, r⟩ : Event clients).redacted = (⟨c, s⟩ : Event clients).redacted) : r = s := by
  cases c with
  | grantAccess => cases plain
  | _ =>
    cases alike
    rfl

/-- The clients of a provider: what they answer to a call after all that they were asked before. -/
abbrev Clients := List (Event clients) → (c : ClientCall) → c.Reply

namespace Clients

/-- Answer a call and remember it. -/
def answer (a : Clients) (c : ClientCall) : StateM (List (Event clients)) c.Reply :=
  fun past => (a past c, past ++ [⟨c, a past c⟩])

/-- After histories that differ in addresses only, calls that differ in the address to copy from only get
answers that differ in a granted address only. -/
def Alike (a b : Clients) : Prop :=
  ∀ past past' : List (Event clients), past.map Event.redacted = past'.map Event.redacted →
    ∀ c d : ClientCall, c.redacted = d.redacted →
      (⟨c, a past c⟩ : Event clients).redacted = (⟨d, b past' d⟩ : Event clients).redacted

end Clients

namespace Program

variable {α β ε : Type}

/-- Two programs are indifferent to addresses: as long as their calls get answers that differ in granted
addresses only, they make calls that differ in the address to copy from only, and end in the same value. -/
inductive Indifferent : Program clients α → Program clients α → Prop
  | done (a : α) : Indifferent (done a) (done a)
  | ask {c d : ClientCall} {k : c.Reply → Program clients α} {l : d.Reply → Program clients α}
      (calls : c.redacted = d.redacted)
      (rest : ∀ r s, (⟨c, r⟩ : Event clients).redacted = (⟨d, s⟩ : Event clients).redacted →
        Indifferent (k r) (l s)) :
      Indifferent (Program.ask (I := clients) c k) (Program.ask (I := clients) d l)

namespace Indifferent

variable {p q : Program clients α}

theorem bind {f g : α → Program clients β} (first : Indifferent p q)
    (rest : ∀ a, Indifferent (f a) (g a)) : Indifferent (p >>= f) (q >>= g) := by
  induction first with
  | done a => exact rest a
  | ask calls _ ih => exact .ask calls ih

theorem bindExcept {x y : ExceptT ε (Program clients) α} {f g : α → ExceptT ε (Program clients) β}
    (first : Indifferent x.run y.run) (rest : ∀ a, Indifferent (f a).run (g a).run) :
    Indifferent (x >>= f).run (y >>= g).run := by
  refine bind first ?_
  rintro (e | a)
  · exact .done _
  · exact rest a

/-- Such programs, one each with clients that answer alike: the histories stay alike, and the ends are the
same. -/
theorem run_alike {a b : Clients} (alike : a.Alike b) (same : Indifferent p q) :
    ∀ {past past' : List (Event clients)}, past.map Event.redacted = past'.map Event.redacted →
      (p.log a.answer past).map Event.redacted = (q.log b.answer past').map Event.redacted ∧
        (p.run (m := StateM _) a.answer past).1 = (q.run (m := StateM _) b.answer past').1 := by
  induction same with
  | done value => exact fun _ => ⟨rfl, rfl⟩
  | @ask c d k l calls rest ih =>
    intro past past' histories
    have answers := alike past past' histories c d calls
    have later : (past ++ [(⟨c, a past c⟩ : Event clients)]).map Event.redacted =
        (past' ++ [(⟨d, b past' d⟩ : Event clients)]).map Event.redacted := by
      rw [List.map_append, List.map_append, histories, List.map_singleton, List.map_singleton, answers]
    obtain ⟨logs, ends⟩ := ih _ _ answers later
    refine ⟨?_, ends⟩
    simp only [log, Clients.answer, List.map_cons, answers]
    exact congrArg _ logs

end Indifferent

end Program

namespace Pass

open Program

variable {α β : Type} {facilities : Facilities} {timing : Timing} {job : Job}

theorem indifferent_ask {c : ClientCall} (plain : c.grants = false) {f : c.Reply → Pass β}
    (rest : ∀ r, Indifferent (f r).run (f r).run) :
    Indifferent (Pass.ask c >>= f).run (Pass.ask c >>= f).run := by
  refine .ask rfl ?_
  intro r s alike
  obtain rfl := Event.reply_eq_of_redacted plain alike
  exact rest r

/-- A step that is a single question. -/
theorem indifferent_step {c : ClientCall} {x : Pass α} {g : c.Reply → Except Setback α}
    (step : x.run = Program.ask (I := clients) c fun r => .done (g r)) (plain : c.grants = false) :
    Indifferent x.run x.run := by
  rw [step]
  refine .ask rfl ?_
  intro r s alike
  obtain rfl := Event.reply_eq_of_redacted plain alike
  exact .done _

/-- The address goes from the grant into the call that starts the copy, and nowhere else. -/
theorem startCopy_indifferent (snapshot name : String) :
    Indifferent (startCopy timing snapshot name).run (startCopy timing snapshot name).run := by
  refine .ask rfl ?_
  rintro (f | url) (f' | url') alike
  · cases alike
    exact .done _
  · cases alike
  · cases alike
  · refine .ask rfl ?_
    rintro r s answers
    obtain rfl : r = s := by
      cases answers
      rfl
    rcases r with f | ⟨⟩
    · exact indifferent_ask rfl fun _ => .done _
    · exact .done _

theorem ensureStagedCopy_indifferent (store : StagingStore) (snapshot : Handle) :
    Indifferent (ensureStagedCopy store timing job snapshot).run
      (ensureStagedCopy store timing job snapshot).run := by
  have closing : Indifferent (revokeGrants snapshot.name).run (revokeGrants snapshot.name).run :=
    indifferent_step (revokeGrants_run _) rfl
  have restarting (status : CopyStatus) :
      Indifferent (restartCopy timing snapshot.name job.names.stagedCopy status).run
        (restartCopy timing snapshot.name job.names.stagedCopy status).run :=
    closing.bindExcept fun _ =>
      (indifferent_step (deleteCopy_run _) rfl).bindExcept fun _ => .done _
  refine (indifferent_step (copyProgress_run _) rfl).bindExcept ?_
  rintro (_ | ⟨status, copied, total⟩)
  · exact startCopy_indifferent _ _
  · cases status with
    | pending => exact .done _
    | success => exact closing.bindExcept fun _ => .done _
    | failed => exact restarting .failed
    | aborted => exact restarting .aborted

theorem ensure_indifferent (kind : ResourceKind) (name : String) (estimate : Duration)
    {spec : Pass ResourceSpec} (resolves : Indifferent spec.run spec.run) :
    Indifferent (ensure kind name estimate spec).run (ensure kind name estimate spec).run := by
  refine (indifferent_step (observe_run kind name) rfl).bindExcept ?_
  rintro (_ | seen)
  · refine resolves.bindExcept fun made => indifferent_ask rfl ?_
    rintro (f | ⟨⟩) <;> exact .done _
  · exact .done _

theorem build_indifferent :
    Indifferent (build facilities timing job).run (build facilities timing job).run := by
  have staging : Indifferent (stagingFor facilities job).run (stagingFor facilities job).run := by
    rw [stagingFor]
    split
    · split <;> exact .done _
    · exact .done _
  refine staging.bindExcept fun store => ?_
  refine (ensure_indifferent _ _ _ (.done _)).bindExcept fun snapshot => ?_
  have source : Indifferent (volumeSource store timing job snapshot).run
      (volumeSource store timing job snapshot).run := by
    cases store with
    | none => exact .done _
    | some store => exact (ensureStagedCopy_indifferent store snapshot).bindExcept fun _ => .done _
  refine (ensure_indifferent _ _ _ (source.bindExcept fun _ => .done _)).bindExcept fun volume => ?_
  have scanner (networkInterface : Option Handle) :
      Indifferent (discard (ensureScanner timing job volume networkInterface)).run
        (discard (ensureScanner timing job volume networkInterface)).run :=
    (ensure_indifferent _ _ _ (.done _)).bindExcept fun _ => .done _
  cases facilities.hasNetwork with
  | true =>
    refine Indifferent.bindExcept ?_ scanner
    exact (ensure_indifferent _ _ _ (.done _)).bindExcept fun _ => .done _
  | false => exact scanner none

theorem removeKind_indifferent (kind : ResourceKind) :
    Indifferent (removeKind timing job kind).run (removeKind timing job kind).run := by
  have absent (kind : ResourceKind) (name : String) :
      Indifferent (ensureAbsent kind name timing.deletion).run
        (ensureAbsent kind name timing.deletion).run := by
    refine (indifferent_step (isPresent_run kind name) rfl).bindExcept ?_
    rintro (_ | _)
    · exact .done _
    · refine indifferent_ask rfl ?_
      rintro (f | ⟨⟩)
      · dsimp only
        cases f.verdict <;> exact .done _
      · refine (indifferent_step (isPresent_run kind name) rfl).bindExcept ?_
        rintro (_ | _) <;> exact .done _
  cases kind with
  | stagedCopy =>
    have looking : Indifferent (copyProgress job.names.stagedCopy).run
        (copyProgress job.names.stagedCopy).run :=
      indifferent_step (copyProgress_run _) rfl
    refine looking.bindExcept ?_
    rintro (_ | _)
    · exact .done _
    · refine (indifferent_step (revokeGrants_run _) rfl).bindExcept fun _ => ?_
      refine (indifferent_step (deleteCopy_run _) rfl).bindExcept fun _ => looking.bindExcept ?_
      rintro (_ | _) <;> exact .done _
  | snapshot => exact absent .snapshot _
  | volume => exact absent .volume _
  | networkInterface => exact absent .networkInterface _
  | scanner => exact absent .scanner _

theorem removeAll_indifferent (kinds : List ResourceKind) :
    Indifferent (removeAll timing job kinds).run (removeAll timing job kinds).run := by
  induction kinds with
  | nil => exact .done _
  | cons kind kinds ih => exact (removeKind_indifferent kind).bindExcept fun _ => ih

theorem ofPhase_indifferent (phase : Phase) :
    Indifferent (ofPhase facilities timing phase job).run (ofPhase facilities timing phase job).run := by
  cases phase with
  | run => exact build_indifferent
  | remove =>
    rw [ofPhase, teardown_eq_removeAll]
    exact removeAll_indifferent _

/-- A pass as its clients and its caller see it: the calls with their answers, and how it ended. -/
structure Visit where
  events : List (Event clients)
  result : Except Setback Unit

/-- A pass without the addresses that it was granted; what it says of its end is left in full. -/
def Visit.redacted (v : Visit) : Visit := { v with events := v.events.map Event.redacted }

/-- Passes one after the other, with clients that have been asked `past` before. -/
def visits (facilities : Facilities) (timing : Timing) (a : Clients) :
    List (Event clients) → List (Phase × Job) → List Visit
  | _, [] => []
  | past, (phase, job) :: steps =>
    let pass := (ofPhase facilities timing phase job).run
    let events := pass.log a.answer past
    ⟨events, (pass.run (m := StateM _) a.answer past).1⟩ :: visits facilities timing a (past ++ events) steps

theorem visits_redacted {a b : Clients} (alike : a.Alike b) (steps : List (Phase × Job)) :
    ∀ {past past' : List (Event clients)}, past.map Event.redacted = past'.map Event.redacted →
      (visits facilities timing a past steps).map Visit.redacted =
        (visits facilities timing b past' steps).map Visit.redacted := by
  induction steps with
  | nil => exact fun _ => rfl
  | cons step steps ih =>
    obtain ⟨phase, job⟩ := step
    intro past past' histories
    have same : Indifferent (ofPhase facilities timing phase job).run
        (ofPhase facilities timing phase job).run :=
      ofPhase_indifferent phase
    obtain ⟨logs, ends⟩ := same.run_alike alike histories
    have later : (past ++ (ofPhase facilities timing phase job).run.log a.answer past).map Event.redacted =
        (past' ++ (ofPhase facilities timing phase job).run.log b.answer past').map Event.redacted := by
      rw [List.map_append, List.map_append, histories, logs]
    simp only [visits, List.map_cons, Visit.redacted, logs, ends]
    exact congrArg _ (ih later)

/-- What a pass has created, from which specs. -/
def Visit.created (v : Visit) : List (String × ResourceSpec) :=
  v.events.filterMap fun ev =>
    match ev.call with
    | .create name spec => some (name, spec)
    | _ => none

theorem Visit.created_redacted (v : Visit) : v.redacted.created = v.created := by
  simp only [created, redacted, List.filterMap_map]
  congr 1
  funext ev
  simp only [Function.comp, Event.call_redacted]
  cases ev.call <;> rfl

/-- Two sets of clients that answer alike but for the addresses they grant. Over any passes for any jobs,
one after the other, each pass makes the same calls with both but for the address that it starts a copy
from, gets the same answers but for the address that it is granted, creates the same resources from the
same specs, and ends in the same result with the same reason. -/
theorem addresses_stay_secret (facilities : Facilities) (timing : Timing) {a b : Clients}
    (alike : a.Alike b) (steps : List (Phase × Job)) :
    (visits facilities timing a [] steps).map Visit.redacted =
        (visits facilities timing b [] steps).map Visit.redacted ∧
      (visits facilities timing a [] steps).map Visit.created =
        (visits facilities timing b [] steps).map Visit.created := by
  have same : (visits facilities timing a [] steps).map Visit.redacted =
      (visits facilities timing b [] steps).map Visit.redacted := visits_redacted alike steps rfl
  refine ⟨same, ?_⟩
  have made := congrArg (List.map Visit.created) same
  simpa only [List.map_map, Function.comp_def, Visit.created_redacted] using made

section

open Rehearsal

/-- Clients that grant the given address and have the copy ready as soon as it has been started. -/
def granting (address : String) : Clients := fun past c =>
  match c with
  | .observe .snapshot name => .ok ⟨⟨name, name⟩, .ready, "Succeeded"⟩
  | .observe .. => .error (.missing "looking up")
  | .grantAccess .. => .ok ⟨address⟩
  | .copyStatus _ =>
    if past.any fun ev => ev.redacted.call.startsCopy then .ok ⟨.success, none, none⟩
    else .error (.missing "looking up")
  | .listAssets => .ok []
  | .create .. | .delete .. | .revokeAccess _ | .startCopy .. | .deleteCopy _ => .ok ()

private theorem granting_alike (address other : String) : (granting address).Alike (granting other) := by
  intro past past' histories c d calls
  have copies := congrArg (List.any · fun ev => ev.call.startsCopy) histories
  simp only [List.any_map, Function.comp_def] at copies
  obtain rfl | ⟨name, source, source', rfl, rfl⟩ := ClientCall.eq_of_redacted calls
  · cases c with
    | observe kind name => cases kind <;> rfl
    | copyStatus name => simp only [granting, copies]
    | _ => rfl
  · rfl

/-- Two passes that copy a snapshot into another region, and one that removes the copy. -/
def relocation : List (Phase × Job) :=
  [(.run, sampleJob true), (.run, sampleJob true), (.remove, sampleJob true)]

theorem addresses_stay_secret_relocation :
    (visits (Cloud.facilities true) .cloud (granting "https://md.example/abcd?sig=first") [] relocation).map
        (fun v => v.events.map (·.call)) ≠
      (visits (Cloud.facilities true) .cloud (granting "https://md.example/abcd?sig=second") [] relocation).map
        (fun v => v.events.map (·.call)) ∧
    (visits (Cloud.facilities true) .cloud (granting "https://md.example/abcd?sig=first") [] relocation).map
        Visit.redacted =
      (visits (Cloud.facilities true) .cloud (granting "https://md.example/abcd?sig=second") [] relocation).map
        Visit.redacted :=
  ⟨by decide +kernel, (addresses_stay_secret _ _ (granting_alike _ _) relocation).1⟩

end

end Pass

end ScanProvisioning
