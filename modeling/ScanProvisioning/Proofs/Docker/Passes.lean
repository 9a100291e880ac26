import ScanProvisioning.Proofs.Docker.Visits
import ScanProvisioning.Proofs.Pass.Teardown

namespace ScanProvisioning.Docker

open Program Rehearsal

namespace Peer

variable {E : Type} (peer : Peer E) (c : Config)

/-- A call is made and answered. -/
def Treats (s : Site E) (call : ClientCall) (r : call.Reply) (t : Site E) : Prop :=
  Leads peer.Meets (c.answer call) s r t

/-- A pass of a job is made, with its calls so far. It may be cut off, also within a call. -/
inductive Makes (phase : Phase) (job : Job) :
    Site E → List (Event clients) → Option (Except Setback Unit) → Site E → Prop
  | whole {s u : Site E} {es : List (Event clients)} {e : Option (Except Setback Unit)}
      (run : Trace (provider.pass phase job).run es e) (replies : Exchanged (peer.Treats c) s es u) :
      Makes phase job s es e u
  | within {s t u : Site E} {es : List (Event clients)} {call : ClientCall} {r : call.Reply}
      {js : List (Event host)} (asks : Trace (provider.pass phase job).run (es ++ [⟨call, r⟩]) none)
      (replies : Exchanged (peer.Treats c) s es t) (pending : Trace (c.answer call) js none)
      (meanwhile : Exchanged peer.Meets t js u) : Makes phase job s es none u

/-- What may become of a site while passes of a job are made, one at a time. -/
inductive Life (admits : Phase → Prop) (job : Job) : Site E → Site E → Prop
  | rest (s : Site E) : Life admits job s s
  | drift {s t u : Site E} {ends : List Ending} (before : Life admits job s t)
      (drifts : peer.Drifts t ends u) : Life admits job s u
  | pass {s t u : Site E} {phase : Phase} {es : List (Event clients)} {e : Option (Except Setback Unit)}
      (before : Life admits job s t) (admitted : admits phase) (makes : peer.Makes c phase job t es e u) :
      Life admits job s u

variable {peer c}

theorem Treats.right {s t : Site E} {call : ClientCall} {r : call.Reply} {law : Site E → Call → Prop}
    {post : Site E → call.Reply → Prop} (treats : peer.Treats c s call r t)
    (guarded : Guarded peer.Meets law post (c.answer call) s) : post t r :=
  Leads.right treats guarded

private theorem exchanged_split {s u : Site E} {settled pending : List (Event host)} {es : List (Event clients)}
    (answered : Answered c.answer es settled) (replies : Exchanged peer.Meets s (settled ++ pending) u) :
    ∃ t, Exchanged (peer.Treats c) s es t ∧ Exchanged peer.Meets t pending u := by
  induction answered generalizing s with
  | nil => exact ⟨s, .nil s, replies⟩
  | cons answer others ih =>
    rw [List.append_assoc] at replies
    obtain ⟨v, first, rest⟩ := exchanged_append replies
    obtain ⟨t, calls, last⟩ := ih rest
    exact ⟨t, .cons ⟨_, answer, first⟩ calls, last⟩

/-- A run of a pass whose calls are answered by the programs of the clients. -/
theorem makes_of_interpret {phase : Phase} {job : Job} {s u : Site E} {js : List (Event host)}
    {e : Option (Except Setback Unit)}
    (run : Trace ((provider.pass phase job).run.interpret c.answer) js e)
    (replies : Exchanged peer.Meets s js u) : ∃ es, peer.Makes c phase job s es e u := by
  obtain ⟨es, settled, answered, ⟨rfl, run⟩ | ⟨call, pending, rfl, rfl, inner, asks⟩⟩ := trace_interpret run
  · rw [← List.append_nil js] at replies
    obtain ⟨t, calls, last⟩ := exchanged_split answered replies
    cases last
    exact ⟨es, .whole run calls⟩
  · obtain ⟨t, calls, last⟩ := exchanged_split answered replies
    have reply : Nonempty call.Reply := by
      cases call <;> exact ⟨.error (.unsupported "" "")⟩
    obtain ⟨r⟩ := reply
    exact ⟨es, .within (asks r) calls inner last⟩

end Peer

/-- The calls that a pass makes, where it makes them. -/
inductive Sensible (job : Job) : Phase → Site Inventory → ClientCall → Prop
  | look (phase : Phase) (s : Site Inventory) (kind : ResourceKind) :
      Sensible job phase s (.observe kind (job.names.of kind))
  | removal (s : Site Inventory) (kind : ResourceKind) :
      Sensible job .remove s (.delete kind (job.names.of kind))
  | snapshot (s : Site Inventory) :
      Sensible job .run s (.create job.names.snapshot (.snapshot job.snapshotSpec))
  | volume {s : Site Inventory} {spec : VolumeSpec} (none : s.status job .filler = none) :
      Sensible job .run s (.create job.names.volume (.volume spec))
  | scanner {s : Site Inventory} {spec : ScannerSpec} (none : s.status job .scanner = none)
      (known : s.engine.knows job.names.snapshot = true)
      (own : Part.scanner.body job job.scanner.image = Body.scanner spec)
      (image : spec.image = job.scanner.image) :
      Sensible job .run s (.create job.names.scanner (.scanner spec))

/-- What a pass keeps of a site, also where it is cut off. -/
structure Standing (c : Config) (job : Job) (phase : Phase) (s t : Site Inventory) : Prop where
  sound : Sound c job t
  knows : phase = .run → s.engine.knows job.names.snapshot = true → t.engine.knows job.names.snapshot = true
  /-- A container that has not been started is left as it is found. -/
  stays : phase = .run → ∀ p, s.status job p = some .created → t.status job p = some .created

/-- What a pass keeps of a site between its calls. -/
structure Kept (c : Config) (job : Job) (faults : Faults) (phase : Phase) (s t : Site Inventory) : Prop
    extends Standing c job phase s t where
  /-- A container is left unstarted only where it can be neither started nor removed. -/
  arises : phase = .run → ∀ p, t.status job p = some .created →
    s.status job p = some .created ∨ Stuck c job faults p

section

variable {c : Config} {job : Job} {faults : Faults} {phase : Phase} {s t u : Site Inventory}

theorem Standing.trans (first : Standing c job phase s t) (next : Standing c job phase t u) :
    Standing c job phase s u where
  sound := next.sound
  knows run known := next.knows run (first.knows run known)
  stays run p created := next.stays run p (first.stays run p created)

theorem Kept.trans (first : Kept c job faults phase s t) (next : Kept c job faults phase t u) :
    Kept c job faults phase s u where
  toStanding := first.toStanding.trans next.toStanding
  arises run p created := by
    rcases next.arises run p created with before | stuck
    · exact first.arises run p before
    · exact .inr stuck

theorem Drifted.standing (drifted : Drifted c job s t) : Standing c job phase s t where
  sound := drifted.sound
  knows _ := drifted.knows
  stays _ p := (drifted.created p).mpr

theorem Drifted.kept (drifted : Drifted c job s t) : Kept c job faults phase s t where
  toStanding := drifted.standing
  arises _ p created := .inl ((drifted.created p).mp created)

theorem Shrunk.standing (shrunk : Shrunk c job s t) : Standing c job .remove s t where
  sound := shrunk.sound
  knows run := nomatch run
  stays run := nomatch run

theorem Shrunk.kept (shrunk : Shrunk c job s t) : Kept c job faults .remove s t where
  toStanding := shrunk.standing
  arises run := nomatch run

theorem Raised.standing {own : Option Part} (raised : Raised c job own s t)
    (none : ∀ p ∈ own, s.status job p = none) : Standing c job phase s t where
  sound := raised.sound
  knows _ := raised.knows
  stays _ p created := by
    refine (raised.created p ?_).mpr created
    intro same
    rw [none p same] at created
    cases created

theorem Raised.kept {own : Option Part} (raised : Raised c job own s t)
    (none : ∀ p ∈ own, s.status job p = none)
    (left : ∀ p ∈ own, t.status job p = some .created →
      s.status job p = some .created ∨ Stuck c job faults p) : Kept c job faults phase s t where
  toStanding := raised.standing none
  arises _ p created := by
    by_cases same : own = some p
    · exact left p same created
    · exact .inl ((raised.created p same).mp created)

/-- What each call of a pass keeps of a sound site. -/
theorem upholds_answer {call : ClientCall} (tame : faults.Tame) (sound : Sound c job s)
    (sensible : Sensible job phase s call) :
    Upholds c job faults (Standing c job phase s) (fun t _ => Kept c job faults phase s t)
      (c.answer call) s := by
  cases sensible with
  | look phase s kind =>
    cases kind with
    | snapshot =>
      exact upholds_mono (fun _ => Drifted.standing) (fun _ _ h => h.1.kept)
        (upholds_observeSnapshot tame sound)
    | volume =>
      exact upholds_mono (fun _ => Drifted.standing) (fun _ _ h => h.drifted.kept)
        (upholds_observeVolume tame sound)
    | scanner =>
      exact upholds_mono (fun _ => Drifted.standing) (fun _ _ h => h.drifted.kept)
        (upholds_observeScanner tame sound)
    | stagedCopy | networkInterface => exact sound.drifted.kept
  | removal s kind =>
    cases kind with
    | snapshot =>
      exact upholds_mono (fun _ => Shrunk.standing) (fun _ _ h => h.1.kept) (upholds_deleteSnapshot tame sound)
    | volume =>
      exact upholds_mono (fun _ => Shrunk.standing) (fun _ _ h => h.1.kept) (upholds_deleteVolume tame sound)
    | scanner =>
      exact upholds_mono (fun _ => Shrunk.standing) (fun _ _ h => h.1.kept) (upholds_deleteScanner tame sound)
    | stagedCopy | networkInterface => exact sound.drifted.kept
  | snapshot s =>
    refine upholds_mono (fun t raised => raised.standing nofun) ?_ (upholds_createSnapshot sound)
    exact fun t _ raised => raised.kept nofun nofun
  | volume absent =>
    have none : ∀ p ∈ some Part.filler, s.status job p = none := by simpa using absent
    refine upholds_mono (fun t raised => raised.standing none) ?_ (upholds_createVolume tame sound)
    exact fun t r h => h.1.kept none (by simpa using h.2)
  | scanner absent known own image =>
    have none : ∀ p ∈ some Part.scanner, s.status job p = none := by simpa using absent
    refine upholds_mono (fun t raised => raised.standing none) ?_
      (upholds_createScanner tame sound known own image)
    exact fun t r h => h.1.kept none (by simpa using h.2)

theorem Peer.Treats.kept {call : ClientCall} {r : call.Reply} (tame : faults.Tame) (sound : Sound c job s)
    (treats : (engine c job faults).Treats c s call r t) (sensible : Sensible job phase s call) :
    Kept c job faults phase s t :=
  treats.right (upholds_answer tame sound sensible)

/-- A look at what a container belongs to. -/
theorem Peer.Treats.observed {p : Part} {r : Except Failure Observation} (tame : faults.Tame)
    (sound : Sound c job s)
    (treats : (engine c job faults).Treats c s (.observe p.kind (job.names.of p.kind)) r t) :
    Observed c job faults p s r t := by
  cases p with
  | filler => exact treats.right (upholds_observeVolume tame sound)
  | scanner => exact treats.right (upholds_observeScanner tame sound)

/-- A look makes nothing, and misses only what is gone. -/
theorem Peer.Treats.looked {kind : ResourceKind} {r : Except Failure Observation} (tame : faults.Tame)
    (sound : Sound c job s)
    (treats : (engine c job faults).Treats c s (.observe kind (job.names.of kind)) r t) :
    Shrunk c job s t ∧ ∀ f, r = .error f → f.verdict = .missing → Gone job t kind := by
  cases kind with
  | snapshot =>
    have h := treats.right (upholds_observeSnapshot tame sound)
    exact ⟨h.1.shrunk, h.2.1⟩
  | volume =>
    have h := treats.right (upholds_observeVolume tame sound)
    exact ⟨h.drifted.shrunk, h.missing⟩
  | scanner =>
    have h := treats.right (upholds_observeScanner tame sound)
    exact ⟨h.drifted.shrunk, h.missing⟩
  | stagedCopy | networkInterface =>
    obtain ⟨js, run, replies⟩ := treats
    cases run
    cases replies
    exact ⟨sound.drifted.shrunk, fun _ _ _ => trivial⟩

/-- A removal makes nothing, and misses only what is gone. -/
theorem Peer.Treats.deleted {kind : ResourceKind} {r : Except Failure Unit} (tame : faults.Tame)
    (sound : Sound c job s)
    (treats : (engine c job faults).Treats c s (.delete kind (job.names.of kind)) r t) :
    Shrunk c job s t ∧ ∀ f, r = .error f → f.verdict = .missing → Gone job t kind := by
  cases kind with
  | snapshot => exact treats.right (upholds_deleteSnapshot tame sound)
  | volume => exact treats.right (upholds_deleteVolume tame sound)
  | scanner => exact treats.right (upholds_deleteScanner tame sound)
  | stagedCopy | networkInterface =>
    obtain ⟨js, run, replies⟩ := treats
    cases run
    cases replies
    exact ⟨sound.drifted.shrunk, fun _ _ _ => trivial⟩

/-- Whatever the engine answers, a pass makes only calls that keep what is to be kept of a site. -/
abbrev Steady {α : Type} (c : Config) (job : Job) (faults : Faults) (phase : Phase)
    (post : Site Inventory → α → Prop) (p : Program clients α) (s : Site Inventory) : Prop :=
  Guarded ((engine c job faults).Treats c)
    (fun t call => Kept c job faults phase s t ∧ Sensible job phase t call) post p s

/-- What follows calls that keep what is to be kept. -/
theorem Steady.after {α : Type} {post right : Site Inventory → α → Prop} {p : Program clients α}
    (kept : Kept c job faults phase s t) (weaken : ∀ u a, post u a → right u a)
    (steady : Steady c job faults phase post p t) :
    Guarded ((engine c job faults).Treats c)
      (fun u call => Kept c job faults phase s u ∧ Sensible job phase u call) right p t :=
  guarded_mono_law (fun _ _ law => ⟨kept.trans law.1, law.2⟩) (guarded_mono weaken steady)

theorem ensureAbsent_steady {kind : ResourceKind} {estimate : Duration} (tame : faults.Tame)
    (sound : Sound c job s) :
    Steady c job faults .remove (fun t result => Shrunk c job s t ∧ (result = .ok () → Gone job t kind))
      (Pass.ensureAbsent kind (job.names.of kind) estimate).run s := by
  refine Pass.ensureAbsent_guarded (fun t shrunk => ⟨shrunk.kept, .look .remove t kind⟩)
    (fun t shrunk => ⟨shrunk.kept, .removal t kind⟩) ?_ ?_ sound.drifted.shrunk
  · intro t r u shrunk treats
    obtain ⟨next, missing⟩ := treats.looked tame shrunk.sound
    exact ⟨shrunk.trans next, missing⟩
  · intro t r u shrunk treats
    obtain ⟨next, missing⟩ := treats.deleted tame shrunk.sound
    exact ⟨shrunk.trans next, missing⟩

/-- What is gone stays gone while the rest is removed. -/
theorem removeAll_steady {timing : Timing} {order : List ResourceKind} (tame : faults.Tame)
    (unstaged : ResourceKind.stagedCopy ∉ order) (sound : Sound c job s) :
    Steady c job faults .remove
      (fun t result => Shrunk c job s t ∧ (result = .ok () → ∀ kind ∈ order, Gone job t kind))
      (Pass.removeAll timing job order).run s := by
  induction order generalizing s with
  | nil => exact ⟨sound.drifted.shrunk, by simp⟩
  | cons kind kinds ih =>
    have single : Pass.removeKind timing job kind =
        Pass.ensureAbsent kind (job.names.of kind) timing.deletion := by
      cases kind with
      | stagedCopy => exact absurd (.head _) unstaged
      | _ => rfl
    rw [Pass.removeAll, single]
    refine guarded_bindExcept (guarded_mono ?_ (ensureAbsent_steady tame sound))
    intro t result h
    obtain ⟨shrunk, gone⟩ := h
    cases result with
    | error e => exact ⟨shrunk, by simp⟩
    | ok done =>
      refine Steady.after shrunk.kept ?_ (ih (List.not_mem_of_not_mem_cons unstaged) shrunk.sound)
      intro u result h
      refine ⟨shrunk.trans h.1, ?_⟩
      intro all kind' mem
      rcases List.mem_cons.mp mem with rfl | mem
      · exact h.1.gone (gone rfl)
      · exact h.2 all kind' mem

theorem docker_removalOrder (job : Job) :
    Pass.removalOrder provider.facilities job = [.scanner, .volume, .snapshot] := by
  simp [Pass.removalOrder, Pass.takesPart, provider, List.filter_cons]

/-- A removal that succeeds leaves nothing. -/
theorem teardown_steady (tame : faults.Tame) (sound : Sound c job s) :
    Steady c job faults .remove
      (fun t result => Shrunk c job s t ∧ (result = .ok () → ∀ kind, Gone job t kind))
      (provider.pass .remove job).run s := by
  rw [Provider.pass]
  cases provider.kind.accept .remove job with
  | error e => exact guarded_throw ⟨sound.drifted.shrunk, by simp⟩
  | ok accepted =>
    dsimp only [Pass.ofPhase]
    rw [Pass.teardown_eq_removeAll, docker_removalOrder]
    refine guarded_mono ?_ (removeAll_steady tame (by simp) sound)
    intro t result h
    refine ⟨h.1, ?_⟩
    intro all kind
    cases kind with
    | stagedCopy | networkInterface => trivial
    | _ => exact h.2 all _ (by simp)

/-- A resource is created only where a look has found none. -/
theorem ensure_steady (kind : ResourceKind) (right : Site Inventory → Handle → Prop) {estimate : Duration}
    {spec : Pass ResourceSpec} {made : ResourceSpec} (tame : faults.Tame) (sound : Sound c job s)
    (settled : spec.run = .done (.ok made))
    (may : ∀ r t, (engine c job faults).Treats c s (.observe kind (job.names.of kind)) r t →
      Pass.LooksAbsent r → Sensible job .run t (.create (job.names.of kind) made))
    (ready : ∀ h status t, (engine c job faults).Treats c s (.observe kind (job.names.of kind))
      (.ok ⟨h, .ready, status⟩) t → right t h) :
    Steady c job faults .run
      (fun t result => Kept c job faults .run s t ∧ ∀ h, result = .ok h → right t h)
      (Pass.ensure kind (job.names.of kind) estimate spec).run s := by
  have look {r : Except Failure Observation} {t : Site Inventory}
      (treats : (engine c job faults).Treats c s (.observe kind (job.names.of kind)) r t) :
      Kept c job faults .run s t := treats.kept tame sound (.look .run s kind)
  refine Pass.ensure_guarded ⟨sound.drifted.kept, .look .run s kind⟩ ?_ ?_ ?_
  · intro h status t treats
    refine ⟨look treats, ?_⟩
    intro h' same
    cases same
    exact ready h status t treats
  · exact fun r t e treats _ => ⟨look treats, by simp⟩
  · intro r t treats absent
    rw [settled]
    have sensible := may r t treats absent
    refine ⟨⟨look treats, sensible⟩, ?_⟩
    intro r u e treats'
    exact ⟨(look treats).trans (treats'.kept tame (look treats).sound sensible), by simp⟩

/-- The steps of a run for a job that is taken on: nothing is staged, and there is no network. -/
def runSteps (job : Job) : Pass Unit := do
  let snapshot ← Pass.ensureSnapshot provider.timing job
  let volume ← Pass.ensureVolume provider.timing job (pure (.snapshot snapshot))
  discard (Pass.ensureScanner provider.timing job volume none)

theorem pass_run_eq {u : Unit} (accepted : provider.kind.accept .run job = .ok u) :
    provider.pass .run job = runSteps job := by
  have direct : job.crossesRegions = false := by
    cases crosses : job.crossesRegions with
    | false => rfl
    | true =>
      rw [provider] at accepted
      simp only [ProviderKind.accept, crosses] at accepted
      cases kind : ProviderKind.requireKind .docker .container job with
      | error e =>
        rw [kind] at accepted
        cases accepted
      | ok u =>
        rw [kind] at accepted
        cases accepted
  rw [Provider.pass, accepted]
  dsimp only [Pass.ofPhase]
  rw [Pass.build, Pass.stagingFor, direct]
  rfl

/-- A run creates a container only where it has seen none, and the scanner only while the snapshot is
there. -/
theorem run_steady (tame : faults.Tame) (sound : Sound c job s) :
    Steady c job faults .run (fun t _ => Kept c job faults .run s t) (provider.pass .run job).run s := by
  cases accepted : provider.kind.accept .run job with
  | error e =>
    rw [Provider.pass, accepted]
    exact guarded_throw sound.drifted.kept
  | ok u =>
    rw [pass_run_eq accepted, runSteps]
    refine guarded_bindExcept (guarded_mono ?_ (ensure_steady .snapshot
      (fun t _ => t.engine.knows job.names.snapshot = true) tame sound rfl (fun r t _ _ => .snapshot t) ?_))
    · intro t result h
      obtain ⟨kept, known⟩ := h
      cases result with
      | error e => exact kept
      | ok snapshot =>
        refine guarded_bindExcept (Steady.after kept ?_ (ensure_steady .volume
          (fun _ volume => volume = ⟨job.names.volume, job.names.volume⟩) tame kept.sound rfl ?_ ?_))
        · intro u result h
          obtain ⟨kept', own⟩ := h
          have both := kept.trans kept'
          cases result with
          | error e => exact both
          | ok volume =>
            cases own volume rfl
            refine guarded_mapExcept (Steady.after both ?_ (ensure_steady .scanner (fun _ _ => True) tame
              both.sound rfl ?_ (fun _ _ _ _ => trivial)))
            · exact fun v _ h => both.trans h.1
            · intro r v treats absent
              have observed := treats.observed (p := .scanner) tame both.sound
              exact .scanner ((observed.drifted.absent .scanner).mpr (observed.absent absent))
                (observed.drifted.knows (kept'.knows rfl (known _ rfl))) rfl rfl
        · intro r u treats absent
          have observed := treats.observed (p := .filler) tame kept.sound
          exact .volume ((observed.drifted.absent .filler).mpr (observed.absent absent))
        · intro volume status u treats
          exact (treats.observed (p := .filler) tame kept.sound).handle _ rfl rfl
    · intro snapshot status t treats
      exact (treats.right (upholds_observeSnapshot tame sound)).2.2 _ rfl rfl

theorem pass_steady (tame : faults.Tame) (sound : Sound c job s) :
    Steady c job faults phase (fun t _ => Kept c job faults phase s t) (provider.pass phase job).run s := by
  cases phase with
  | run => exact run_steady tame sound
  | remove => exact guarded_mono (fun t result h => h.1.kept) (teardown_steady tame sound)

variable {es : List (Event clients)} {e : Option (Except Setback Unit)} {admits : Phase → Prop}

theorem replies_kept (tame : faults.Tame) (sound : Sound c job s)
    (run : Trace (provider.pass phase job).run es e)
    (replies : Exchanged ((engine c job faults).Treats c) s es t) : Kept c job faults phase s t := by
  obtain ⟨-, -, ⟨call, kept, -⟩ | ⟨a, kept⟩⟩ := run.guarded replies (pass_steady tame sound)
  · exact kept
  · exact kept

/-- A pass leaves a site standing wherever it is cut off. -/
theorem Peer.Makes.standing (tame : faults.Tame) (sound : Sound c job s)
    (makes : (engine c job faults).Makes c phase job s es e t) : Standing c job phase s t := by
  cases makes with
  | whole run replies => exact (replies_kept tame sound run replies).toStanding
  | within asks replies pending meanwhile =>
    obtain ⟨kept, sensible⟩ := asks.asks replies (pass_steady tame sound)
    refine kept.toStanding.trans ?_
    obtain ⟨-, -, ⟨call, stands⟩ | ⟨a, kept'⟩⟩ :=
      pending.guarded meanwhile (upholds_answer tame kept.sound sensible)
    · exact stands
    · exact kept'.toStanding

theorem Peer.Makes.kept {result : Except Setback Unit} (tame : faults.Tame) (sound : Sound c job s)
    (makes : (engine c job faults).Makes c phase job s es (some result) t) : Kept c job faults phase s t := by
  cases makes with
  | whole run replies => exact replies_kept tame sound run replies

theorem Peer.Life.sound (tame : faults.Tame) (sound : Sound c job s)
    (life : (engine c job faults).Life c admits job s t) : Sound c job t := by
  induction life with
  | rest => exact sound
  | drift before drifts ih => exact (ih.drift drifts).sound
  | pass before admitted makes ih => exact (makes.standing tame ih).sound

/-- Passes of one phase keep over all of them what each of them keeps. -/
theorem Peer.Life.standing (tame : faults.Tame) (sound : Sound c job s)
    (life : (engine c job faults).Life c (· = phase) job s t) : Standing c job phase s t := by
  induction life with
  | rest => exact sound.drifted.standing
  | drift before drifts ih =>
    exact ih.trans (ih.sound.drift drifts).standing
  | pass before admitted makes ih =>
    subst admitted
    exact ih.trans (makes.standing tame ih.sound)

end

end ScanProvisioning.Docker
