import ScanProvisioning.Pass.Scan
import ScanProvisioning.Proofs.Guarded

namespace ScanProvisioning

/-- Only status and code decide whether a refusal reads as missing. -/
theorem Failure.verdict_refused_eq_missing_iff {operation message : String} {status : UInt16}
    {code : Option String} {retryAfter : Option Duration} :
    (refused operation status code message retryAfter).verdict = .missing ↔
      fatalCodes.contains (code.getD "") = false ∧
        (status = 404 ∨ missingCodes.contains (code.getD "") = true) := by
  simp only [verdict]
  cases fatalCodes.contains (code.getD "") with
  | true => simp
  | false =>
    by_cases missing : status = 404 ∨ missingCodes.contains (code.getD "") = true
    · rw [if_neg (by simp), if_pos missing]
      exact ⟨fun _ => ⟨rfl, missing⟩, fun _ => rfl⟩
    · rw [if_neg (by simp), if_neg missing]
      simp only [missing, and_false, iff_false]
      split
      · intro same
        cases same
      · split <;> rintro ⟨⟩

def Names.of (names : Names) : ResourceKind → String
  | .snapshot => names.snapshot
  | .stagedCopy => names.stagedCopy
  | .volume => names.volume
  | .networkInterface => names.networkInterface
  | .scanner => names.scanner

namespace Pass

open Program

variable {α β : Type}

/-- What a pass makes of an answer in which missing is no failure. -/
def unlessMissing (activity : String) (found : α → β) (gone : β) : Except Failure α → Except Setback β
  | .ok a => .ok (found a)
  | .error f =>
    match f.verdict with
    | .missing => .ok gone
    | _ => .error (f.setback.during activity)

/-- An answer that settles a question: success, or a failure that says missing. -/
def Settles : Except Failure α → Prop
  | .ok _ => True
  | .error f => f.verdict = .missing

theorem unlessMissing_missing {activity : String} {found : α → β} {gone : β} {f : Failure}
    (missing : f.verdict = .missing) : unlessMissing activity found gone (.error f) = .ok gone := by
  simp only [unlessMissing, missing]

theorem unlessMissing_failure {activity : String} {found : α → β} {gone : β} {f : Failure}
    (failure : f.verdict ≠ .missing) :
    unlessMissing activity found gone (.error f) = .error (f.setback.during activity) := by
  cases h : f.verdict with
  | missing => exact absurd h failure
  | retry delay reason => simp only [unlessMissing, h]
  | fatal reason => simp only [unlessMissing, h]

theorem unlessMissing_eq_ok {activity : String} {found : α → β} {gone b : β} {r : Except Failure α}
    (h : unlessMissing activity found gone r = .ok b) :
    (∃ a, r = .ok a ∧ found a = b) ∨ ∃ f, r = .error f ∧ f.verdict = .missing ∧ gone = b := by
  cases r with
  | ok a =>
    cases h
    exact .inl ⟨a, rfl, rfl⟩
  | error f =>
    by_cases missing : f.verdict = .missing
    · rw [unlessMissing_missing missing] at h
      cases h
      exact .inr ⟨f, rfl, missing, rfl⟩
    · rw [unlessMissing_failure missing] at h
      cases h

theorem unlessMissing_eq_error {activity : String} {found : α → β} {gone : β} {e : Setback}
    {r : Except Failure α} (h : unlessMissing activity found gone r = .error e) :
    ∃ f : Failure, r = .error f ∧ f.verdict ≠ .missing := by
  cases r with
  | ok a => cases h
  | error f =>
    refine ⟨f, rfl, ?_⟩
    intro missing
    rw [unlessMissing_missing missing] at h
    cases h

/-- Where nothing that is found looks like what is missing, only missing is taken for it. -/
theorem missing_of_eq_gone {activity : String} {found : α → β} {gone : β} {r : Except Failure α}
    (apart : ∀ a, found a ≠ gone) (h : unlessMissing activity found gone r = .ok gone) :
    ∃ f : Failure, f.verdict = .missing ∧ r = .error f := by
  obtain ⟨a, -, same⟩ | ⟨f, rfl, missing, -⟩ := unlessMissing_eq_ok h
  · exact absurd same (apart a)
  · exact ⟨f, missing, rfl⟩

theorem settles_of_unlessMissing {activity : String} {found : α → β} {gone b : β}
    {r : Except Failure α} (h : unlessMissing activity found gone r = .ok b) : Settles r := by
  obtain ⟨a, rfl, -⟩ | ⟨f, rfl, missing, -⟩ := unlessMissing_eq_ok h
  · trivial
  · exact missing

theorem run_ask_bind (c : ClientCall) (f : c.Reply → Pass α) :
    (Pass.ask c >>= f).run = Program.ask (I := clients) c fun r => (f r).run := rfl

theorem run_ask_unlessMissing (c : ClientCall) (read : c.Reply → Pass β)
    (g : c.Reply → Except Setback β) (h : ∀ r, (read r).run = Program.done (g r)) :
    (Pass.ask c >>= read).run = Program.ask (I := clients) c fun r => Program.done (g r) := by
  rw [run_ask_bind]
  congr 1
  funext r
  exact h r

theorem observe_run (kind : ResourceKind) (name : String) :
    (observe kind name).run = Program.ask (I := clients) (.observe kind name) fun r =>
      .done (unlessMissing ("looking up " ++ label kind name)
        (fun seen => if seen.state = .absent then none else some seen) none r) := by
  apply run_ask_unlessMissing
  intro r
  rcases r with f | seen
  · simp only [unlessMissing]
    cases f.verdict <;> rfl
  · rfl

theorem isPresent_run (kind : ResourceKind) (name : String) :
    (isPresent kind name).run = Program.ask (I := clients) (.observe kind name) fun r =>
      .done (unlessMissing ("looking up " ++ label kind name) (fun _ => true) false r) := by
  apply run_ask_unlessMissing
  intro r
  rcases r with f | seen
  · simp only [unlessMissing]
    cases f.verdict <;> rfl
  · rfl

theorem revokeGrants_run (snapshot : String) :
    (revokeGrants snapshot).run = Program.ask (I := clients) (.revokeAccess snapshot) fun r =>
      .done (unlessMissing ("revoking access to " ++ snapshot) id () r) := by
  apply run_ask_unlessMissing
  intro r
  rcases r with f | ⟨⟩
  · simp only [unlessMissing]
    cases f.verdict <;> rfl
  · rfl

theorem deleteCopy_run (name : String) :
    (deleteCopy name).run = Program.ask (I := clients) (.deleteCopy name) fun r =>
      .done (unlessMissing ("deleting staged copy " ++ name) id () r) := by
  apply run_ask_unlessMissing
  intro r
  rcases r with f | ⟨⟩
  · simp only [unlessMissing]
    cases f.verdict <;> rfl
  · rfl

theorem copyProgress_run (name : String) :
    (copyProgress name).run = Program.ask (I := clients) (.copyStatus name) fun r =>
      .done (unlessMissing ("looking up staged copy " ++ name) some none r) := by
  apply run_ask_unlessMissing
  intro r
  rcases r with f | progress
  · simp only [unlessMissing]
    cases f.verdict <;> rfl
  · rfl

/-- A step that is a single question can end as its answer says. -/
theorem canEnd_step {c : ClientCall} {x : Pass α} {g : c.Reply → Except Setback α} {r : c.Reply} {a : α}
    {allowed : Event clients → Prop}
    (step : x.run = Program.ask (I := clients) c fun r => .done (g r)) (may : allowed ⟨c, r⟩)
    (settled : g r = .ok a) : CanEnd allowed x.run (.ok a) := by
  rw [step]
  refine canEnd_ask r may ?_
  rw [settled]
  exact canEnd_done _

/-- What is not repeated after any of its occurrences occurs once at most. -/
theorem countP_le_one {p : Event clients → Bool} {es : List (Event clients)}
    (once : ∀ before ev after, es = before ++ ev :: after → p ev = true → ∀ x ∈ before, p x = false) :
    es.countP p ≤ 1 := by
  induction es with
  | nil => simp
  | cons first rest ih =>
    cases here : p first with
    | false =>
      rw [List.countP_cons_of_neg (by simp [here])]
      apply ih
      intro before ev after recorded holds x mem
      subst recorded
      exact once (first :: before) ev after rfl holds x (.tail _ mem)
    | true =>
      have none : rest.countP p = 0 := by
        rw [List.countP_eq_zero]
        intro x mem holds
        obtain ⟨before, after, rfl⟩ := List.append_of_mem mem
        have unlike := once (first :: before) x after rfl holds first (.head _)
        rw [here] at unlike
        cases unlike
      rw [List.countP_cons_of_pos here]
      omega

/-- What becomes of a copy that has ended short of success. -/
def restartCopy (timing : Timing) (snapshot name : String) (status : CopyStatus) : Pass StagedCopy := do
  revokeGrants snapshot
  deleteCopy name
  throw (.retry timing.copy ("staged copy " ++ name ++ " ended " ++ status.name ++ ", restarting"))

/-- The look finds nothing that could be used, so the resource has to be created. -/
def LooksAbsent : Except Failure Observation → Prop
  | .ok seen => seen.state = .absent
  | .error f => f.verdict = .missing

section

variable {σ : Type} {answers : σ → (c : ClientCall) → c.Reply → σ → Prop} {law : σ → ClientCall → Prop}
  {s : σ}

theorem guarded_ask {c : ClientCall} {f : c.Reply → Pass β} {post : σ → Except Setback β → Prop}
    (lawful : law s c) (rest : ∀ r t, answers s c r t → Guarded answers law post (f r).run t) :
    Guarded answers law post (Pass.ask c >>= f).run s :=
  ⟨lawful, rest⟩

theorem guarded_giveUp {activity : String} {f : Failure} {post : σ → Except Setback β → Prop}
    (short : ∀ e, post s (.error e)) : Guarded answers law post (giveUp activity f : Pass β).run s :=
  short _

/-- A step that is a single question, and what follows it. -/
theorem guarded_step {c : ClientCall} {x : Pass α} {g : c.Reply → Except Setback α} {f : α → Pass β}
    {post : σ → Except Setback β → Prop} (step : x.run = Program.ask (I := clients) c fun r => .done (g r))
    (lawful : law s c)
    (failed : ∀ r t e, answers s c r t → g r = .error e → post t (.error e))
    (rest : ∀ r t a, answers s c r t → g r = .ok a → Guarded answers law post (f a).run t) :
    Guarded answers law post (x >>= f).run s := by
  refine guarded_bindExcept ?_
  rw [step]
  refine ⟨lawful, ?_⟩
  intro r t answer
  simp only [Guarded]
  cases h : g r with
  | error e => exact failed r t e answer h
  | ok a => exact rest r t a answer h

/-- Making sure of a resource: a look, and where it finds nothing a creation after its spec; it succeeds
only on a look that finds the resource ready. -/
theorem ensure_guarded {kind : ResourceKind} {name : String} {estimate : Duration}
    {spec : Pass ResourceSpec} {post : σ → Except Setback Handle → Prop}
    (look : law s (.observe kind name))
    (ready : ∀ h status t, answers s (.observe kind name) (.ok ⟨h, .ready, status⟩) t → post t (.ok h))
    (unready : ∀ r t e, answers s (.observe kind name) r t →
      (∀ h status, r ≠ .ok ⟨h, .ready, status⟩) → post t (.error e))
    (absent : ∀ r t, answers s (.observe kind name) r t → LooksAbsent r →
      Guarded answers law (fun u result => match result with
        | .error e => post u (.error e)
        | .ok spec => law u (.create name spec) ∧
          ∀ r v e, answers u (.create name spec) r v → post v (.error e)) spec.run t) :
    Guarded answers law post (ensure kind name estimate spec).run s := by
  rw [ensure]
  refine guarded_step (observe_run kind name) look ?_ ?_
  · intro r t e answer failed
    refine unready r t e answer ?_
    intro h status recorded
    subst recorded
    simp [unlessMissing] at failed
  · intro r t found answer looked
    cases found with
    | some seen =>
      obtain ⟨seen', rfl, same⟩ | ⟨f, -, -, none⟩ := unlessMissing_eq_ok looked
      · have same : seen' = seen := by
          split at same
          · cases same
          · exact Option.some.inj same
        subst same
        obtain ⟨handle, state, status⟩ := seen'
        cases state with
        | ready => exact ready handle status t answer
        | absent => exact unready _ t _ answer (by simp)
        | provisioning => exact unready _ t _ answer (by simp)
        | failed => exact unready _ t _ answer (by simp)
      · cases none
    | none =>
      have looksAbsent : LooksAbsent r := by
        obtain ⟨seen, rfl, none⟩ | ⟨f, rfl, missing, -⟩ := unlessMissing_eq_ok looked
        · split at none
          · assumption
          · cases none
        · exact missing
      refine guarded_bindExcept ?_
      refine guarded_mono ?_ (absent r t answer looksAbsent)
      intro u result h
      cases result with
      | error e => exact h
      | ok spec =>
        refine guarded_ask h.1 ?_
        rintro (f | ⟨⟩) v answer
        · exact h.2 _ v _ answer
        · exact h.2 _ v _ answer

/-- Making sure that a resource is gone: looks and a deletion, of which one that says missing ends it. -/
theorem ensureAbsent_guarded {kind : ResourceKind} {name : String} {estimate : Duration}
    {kept gone : σ → Prop}
    (look : ∀ s, kept s → law s (.observe kind name)) (deletion : ∀ s, kept s → law s (.delete kind name))
    (looked : ∀ s r t, kept s → answers s (.observe kind name) r t →
      kept t ∧ ∀ f : Failure, r = .error f → f.verdict = .missing → gone t)
    (deleted : ∀ s r t, kept s → answers s (.delete kind name) r t →
      kept t ∧ ∀ f : Failure, r = .error f → f.verdict = .missing → gone t)
    (holds : kept s) : Guarded answers law (fun t result => kept t ∧ (result = .ok () → gone t))
      (ensureAbsent kind name estimate).run s := by
  rw [ensureAbsent]
  refine guarded_step (isPresent_run kind name) (look s holds) ?_ ?_
  · intro r t e answer _
    exact ⟨(looked s r t holds answer).1, by simp⟩
  · intro r t present answer found
    obtain ⟨keeps, missing⟩ := looked s r t holds answer
    cases present with
    | false =>
      obtain ⟨f, verdict, rfl⟩ := missing_of_eq_gone (by simp) found
      exact ⟨keeps, fun _ => missing f rfl verdict⟩
    | true =>
      refine guarded_ask (deletion t keeps) ?_
      intro r u answer
      obtain ⟨keeps, missing⟩ := deleted t r u keeps answer
      cases r with
      | error f =>
        dsimp only
        cases verdict : f.verdict with
        | missing => exact ⟨keeps, fun _ => missing f rfl verdict⟩
        | retry delay reason => exact guarded_giveUp fun e => ⟨keeps, by simp⟩
        | fatal reason => exact guarded_giveUp fun e => ⟨keeps, by simp⟩
      | ok done =>
        refine guarded_step (isPresent_run kind name) (look u keeps) ?_ ?_
        · intro r v e answer _
          exact ⟨(looked u r v keeps answer).1, by simp⟩
        · intro r v present answer found
          obtain ⟨keeps, missing⟩ := looked u r v keeps answer
          cases present with
          | false =>
            obtain ⟨f, verdict, rfl⟩ := missing_of_eq_gone (by simp) found
            exact ⟨keeps, fun _ => missing f rfl verdict⟩
          | true => exact guarded_throw ⟨keeps, by simp⟩

/-- A run that begins with a step that is a single question: the step settles it, or fails there. -/
theorem trace_step {c : ClientCall} {x : Pass α} {g : c.Reply → Except Setback α} {f : α → Pass β}
    {es : List (Event clients)} {result : Except Setback β}
    (step : x.run = Program.ask (I := clients) c fun r => .done (g r))
    (run : Trace (x >>= f).run es (some result)) :
    ∃ r rest, es = ⟨c, r⟩ :: rest ∧ ((∃ e, g r = .error e ∧ rest = [] ∧ result = .error e) ∨
      ∃ a, g r = .ok a ∧ Trace (f a).run rest (some result)) := by
  obtain ⟨⟨⟩, -⟩ | ⟨e, same, first⟩ | ⟨a, before, rest, rfl, first, later⟩ := trace_bindExcept_iff.mp run
  · rw [step] at first
    cases same
    cases first with
    | ask r ended =>
      dsimp only at ended
      cases settled : g r
      all_goals rw [settled] at ended; cases ended
      exact ⟨r, [], rfl, .inl ⟨e, settled, rfl, rfl⟩⟩
  · rw [step] at first
    cases first with
    | ask r ended =>
      dsimp only at ended
      cases settled : g r
      all_goals rw [settled] at ended; cases ended
      exact ⟨r, rest, rfl, .inr ⟨a, settled, later⟩⟩

/-- A resource that is found is judged by its state. -/
theorem trace_ensure_found {kind : ResourceKind} {name : String} {estimate : Duration}
    {spec : Pass ResourceSpec} {seen : Observation} (there : seen.state ≠ .absent) :
    Trace (ensure kind name estimate spec).run [⟨.observe kind name, .ok seen⟩]
      (some (requireReady kind name estimate seen)) := by
  have found : Trace (observe kind name).run [⟨.observe kind name, .ok seen⟩] (some (.ok (some seen))) := by
    rw [observe_run]
    refine Trace.ask (I := clients) (c := .observe kind name) (.ok seen) ?_
    simp only [unlessMissing, if_neg there]
    exact .done _
  exact trace_bindExcept_iff.mpr (.inr (.inr ⟨some seen, _, [], rfl, found, .done _⟩))

theorem leads_ensure_found {kind : ResourceKind} {name : String} {estimate : Duration}
    {spec : Pass ResourceSpec} {seen : Observation} {t : σ} (there : seen.state ≠ .absent)
    (look : answers s (.observe kind name) (.ok seen) t) :
    Leads answers (ensure kind name estimate spec).run s (requireReady kind name estimate seen) t :=
  ⟨_, trace_ensure_found there, .cons look (.nil t)⟩

/-- What becomes of a creation. -/
def creationEnds (kind : ResourceKind) (name : String) (estimate : Duration) :
    Except Failure Unit → Except Setback Handle
  | .ok () => .error (.retry estimate (label kind name ++ " creation started"))
  | .error f => .error (f.setback.during ("creating " ++ label kind name))

/-- A resource that is missing is created. -/
theorem leads_ensure_missing {kind : ResourceKind} {name : String} {estimate : Duration}
    {spec : Pass ResourceSpec} {made : ResourceSpec} {f : Failure} {r : Except Failure Unit} {t u : σ}
    (missing : f.verdict = .missing) (settled : spec.run = .done (.ok made))
    (look : answers s (.observe kind name) (.error f) t) (creates : answers t (.create name made) r u) :
    Leads answers (ensure kind name estimate spec).run s (creationEnds kind name estimate r) u := by
  have none : Leads answers (observe kind name).run s (.ok none) t := by
    rw [observe_run]
    refine leads_ask look ?_
    rw [unlessMissing_missing missing]
    exact leads_done _ t
  refine leads_bindExcept none (leads_bindExcept (t := t) (a := made) ?_ ?_)
  · rw [settled]
    exact leads_done _ t
  · refine leads_ask creates ?_
    rcases r with f | ⟨⟩
    · exact leads_done _ u
    · exact leads_done _ u

private theorem leads_isPresent_missing {kind : ResourceKind} {name : String} {f : Failure} {t : σ}
    (missing : f.verdict = .missing) (look : answers s (.observe kind name) (.error f) t) :
    Leads answers (isPresent kind name).run s (.ok false) t := by
  rw [isPresent_run]
  refine leads_ask look ?_
  rw [unlessMissing_missing missing]
  exact leads_done _ t

theorem leads_ensureAbsent_missing {kind : ResourceKind} {name : String} {estimate : Duration}
    {f : Failure} {t : σ} (missing : f.verdict = .missing)
    (look : answers s (.observe kind name) (.error f) t) :
    Leads answers (ensureAbsent kind name estimate).run s (.ok ()) t :=
  leads_bindExcept (leads_isPresent_missing missing look) (leads_done _ t)

theorem leads_ensureAbsent_deleted {kind : ResourceKind} {name : String} {estimate : Duration}
    {seen : Observation} {f : Failure} {t u v : σ} (missing : f.verdict = .missing)
    (look : answers s (.observe kind name) (.ok seen) t) (deletes : answers t (.delete kind name) (.ok ()) u)
    (again : answers u (.observe kind name) (.error f) v) :
    Leads answers (ensureAbsent kind name estimate).run s (.ok ()) v := by
  have found : Leads answers (isPresent kind name).run s (.ok true) t := by
    rw [isPresent_run]
    exact leads_ask look (leads_done _ t)
  refine leads_bindExcept found (leads_ask deletes ?_)
  exact leads_bindExcept (leads_isPresent_missing missing again) (leads_done _ v)

end

end Pass

end ScanProvisioning
