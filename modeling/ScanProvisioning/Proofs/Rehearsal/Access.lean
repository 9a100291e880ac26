import ScanProvisioning.Proofs.Pass.Steps
import ScanProvisioning.Rehearsal.Cloud

namespace ScanProvisioning.Rehearsal

open Program Pass

/-- Failures that are ordered for the calls to come. -/
structure Orders where
  startFailure : Option Failure := none
  revokeFailure : Option Failure := none
  failNextCopy : Bool := false

namespace Cloud

def order (c : Cloud) (o : Orders) : Cloud :=
  { c with staging := { c.staging with
      startFailure := o.startFailure
      revokeFailure := o.revokeFailure
      failNextCopy := o.failNextCopy } }

/-- The account's answer to a call before which any failures may have been ordered. -/
def Answers (c : Cloud) (call : ClientCall) (r : call.Reply) (after : Cloud) : Prop :=
  ∃ orders, Cloud.answer call (c.order orders) = (r, after)

/-- The answers while the same failures are ordered before every call. -/
def answerUnder (o : Orders) (call : ClientCall) : StateM Cloud call.Reply :=
  fun c => Cloud.answer call (c.order o)

def runUnder {α : Type} (o : Orders) (p : Program clients α) (c : Cloud) : α × Cloud :=
  p.run (m := StateM Cloud) (answerUnder o) c

private theorem exchanged_under {α : Type} (o : Orders) (p : Program clients α) (c : Cloud) :
    Exchanged Answers c (p.log (answerUnder o) c) (runUnder o p c).2 :=
  (exchanged_log (answerUnder o) p c).mono fun _ _ _ _ same => ⟨o, same⟩

/-- Whether an object is there under a name. -/
def Holds (c : Cloud) (name : String) : Prop := c.staging.objects.get? name ≠ none

end Cloud

/-- What has become of the latest access that was opened. -/
inductive Access
  | closed
  /-- It is open, and no copy was started from it. -/
  | unused
  /-- It is open for a copy that was started from it. -/
  | serving
  /-- It is open, but its revocation was answered as if there were nothing to revoke. -/
  | mistaken
  deriving DecidableEq

namespace Access

/-- What a call and its answer make of the access. -/
def next (a : Access) : Event clients → Access
  | ⟨.grantAccess .., .ok _⟩ => unused
  | ⟨.revokeAccess _, .ok _⟩ => closed
  | ⟨.revokeAccess _, .error f⟩ => if a = serving ∧ f.verdict = .missing then mistaken else a
  | ⟨.startCopy .., .ok _⟩ => if a = unused then serving else a
  | _ => a

/-- What some events make of an access that was closed before. -/
def of (es : List (Event clients)) : Access := es.foldl next closed

/-- An answer that opens access. -/
def opens : Event clients → Bool
  | ⟨.grantAccess .., .ok _⟩ => true
  | _ => false

/-- An answer that takes up access, by a copy that is started from it or by its revocation. -/
def takesUp : Event clients → Bool
  | ⟨.revokeAccess _, .ok _⟩ => true
  | ⟨.startCopy .., .ok _⟩ => true
  | _ => false

theorem next_eq_unused_iff {a : Access} {ev : Event clients} :
    a.next ev = unused ↔ opens ev = true ∨ a = unused ∧ takesUp ev = false := by
  obtain ⟨call, r⟩ := ev
  cases call with
  | grantAccess snapshot ttl => cases r <;> simp [next, opens, takesUp]
  | revokeAccess snapshot =>
    cases r with
    | ok u => simp [next, opens, takesUp]
    | error f =>
      simp only [next, opens, takesUp]
      split
      · next taken => simp [taken.1]
      · simp
  | startCopy object source =>
    cases r with
    | error f => simp [next, opens, takesUp]
    | ok u => by_cases fresh : a = unused <;> simp [next, opens, takesUp, fresh]
  | observe | create | delete | copyStatus | deleteCopy | listAssets => simp [next, opens, takesUp]

theorem foldl_eq_unused_iff {a : Access} {es : List (Event clients)} :
    es.foldl next a = unused ↔
      (∃ before ev after, es = before ++ ev :: after ∧ opens ev = true ∧
        ∀ x ∈ after, takesUp x = false) ∨
      a = unused ∧ ∀ x ∈ es, takesUp x = false := by
  induction es generalizing a with
  | nil => simp
  | cons first rest ih =>
    rw [List.foldl_cons, ih, next_eq_unused_iff, List.forall_mem_cons]
    constructor
    · intro h
      rcases h with ⟨before, ev, after, rfl, opened, idle⟩ | ⟨opened | ⟨fresh, idle⟩, others⟩
      · exact .inl ⟨first :: before, ev, after, rfl, opened, idle⟩
      · exact .inl ⟨[], first, rest, rfl, opened, others⟩
      · exact .inr ⟨fresh, idle, others⟩
    · intro h
      rcases h with ⟨before, ev, after, split, opened, idle⟩ | ⟨fresh, idle, others⟩
      · cases before with
        | nil =>
          cases split
          exact .inr ⟨.inl opened, idle⟩
        | cons _ before =>
          cases split
          exact .inl ⟨before, ev, after, rfl, opened, idle⟩
      · exact .inr ⟨.inr ⟨fresh, idle⟩, others⟩

/-- Access is unused while nothing has taken it up since it was opened. -/
theorem of_eq_unused_iff {es : List (Event clients)} :
    Access.of es = unused ↔ ∃ before ev after, es = before ++ ev :: after ∧ opens ev = true ∧
      ∀ x ∈ after, takesUp x = false := by
  rw [Access.of, foldl_eq_unused_iff]
  simp

/-- How the account stands while the access is in a state. -/
def Matches (name : String) (c : Cloud) : Access → Prop
  | closed => c.staging.activeGrants = 0
  | unused => 0 < c.staging.activeGrants ∧ ¬ c.Holds name
  | serving => 0 < c.staging.activeGrants ∧ c.Holds name
  | mistaken => 0 < c.staging.activeGrants

/-- What a pass may ask: it opens access only while the object is missing, starts a copy only from
access that no copy uses, and deletes the object only once it takes the access for closed. -/
def Permits (name : String) (c : Cloud) (a : Access) : ClientCall → Prop
  | .grantAccess .. => ¬ c.Holds name
  | .revokeAccess _ => True
  | .copyStatus object => object = name
  | .startCopy object _ => object = name ∧ a = unused
  | .deleteCopy object => object = name ∧ (a = closed ∨ a = mistaken)
  | _ => False

/-- Looks at the object and failed calls leave the grants and the object's presence as they are. -/
theorem Matches.congr {name : String} {c d : Cloud} {a : Access} (fits : a.Matches name c)
    (grants : d.staging.activeGrants = c.staging.activeGrants) (objects : d.Holds name ↔ c.Holds name) :
    a.Matches name d := by
  cases a with
  | closed => exact grants.trans fits
  | unused => exact ⟨grants ▸ fits.1, fun held => fits.2 (objects.mp held)⟩
  | serving => exact ⟨grants ▸ fits.1, objects.mpr fits.2⟩
  | mistaken => exact Nat.lt_of_lt_of_eq fits grants.symm

end Access

namespace Cloud

variable {c c' : Cloud} {name : String}

private theorem answers_grantAccess {snapshot : String} {ttl : Duration} {r : Except Failure AccessUrl}
    (answer : c.Answers (.grantAccess snapshot ttl) r c') :
    (∃ access, r = .ok access) ∧ 0 < c'.staging.activeGrants ∧
      c'.staging.objects = c.staging.objects := by
  obtain ⟨orders, same⟩ := answer
  cases same
  exact ⟨⟨_, rfl⟩, Nat.succ_pos _, rfl⟩

private theorem answers_revokeAccess {snapshot : String} {r : Except Failure Unit}
    (answer : c.Answers (.revokeAccess snapshot) r c') :
    c'.staging.objects = c.staging.objects ∧
      (r = .ok () ∧ c'.staging.activeGrants = 0 ∨
        ∃ f, r = .error f ∧ c'.staging.activeGrants = c.staging.activeGrants) := by
  obtain ⟨⟨startFailure, revokeFailure, failNextCopy⟩, same⟩ := answer
  cases revokeFailure with
  | none =>
    cases same
    exact ⟨rfl, .inl ⟨rfl, rfl⟩⟩
  | some f =>
    cases same
    exact ⟨rfl, .inr ⟨f, rfl, rfl⟩⟩

theorem answers_copyStatus {r : Except Failure CopyProgress}
    (answer : c.Answers (.copyStatus name) r c') :
    c'.staging.activeGrants = c.staging.activeGrants ∧ (c'.Holds name ↔ c.Holds name) ∧
      ((∃ progress, r = .ok progress) ↔ c.Holds name) := by
  obtain ⟨orders, same⟩ := answer
  simp only [Cloud.answer, Cloud.onStaging, Staging.copyStatus, Cloud.order] at same
  cases found : c.staging.objects.get? name with
  | none =>
    rw [found] at same
    cases same
    simp [Holds, found]
  | some copying =>
    rw [found] at same
    cases same
    simp [Holds, found, Registry.get?_set]

private theorem answers_startCopy {source : AccessUrl} {r : Except Failure Unit}
    (answer : c.Answers (.startCopy name source) r c') :
    c'.staging.activeGrants = c.staging.activeGrants ∧
      (r = .ok () ∧ c'.Holds name ∨ ∃ f, r = .error f ∧ (c'.Holds name ↔ c.Holds name)) := by
  obtain ⟨⟨startFailure, revokeFailure, failNextCopy⟩, same⟩ := answer
  cases startFailure with
  | none =>
    cases same
    refine ⟨rfl, .inl ⟨rfl, ?_⟩⟩
    simp [Holds, Registry.get?_set]
  | some f =>
    cases same
    exact ⟨rfl, .inr ⟨f, rfl, Iff.rfl⟩⟩

private theorem answers_deleteCopy {r : Except Failure Unit} (answer : c.Answers (.deleteCopy name) r c') :
    c'.staging.activeGrants = c.staging.activeGrants := by
  obtain ⟨orders, same⟩ := answer
  simp only [Cloud.answer, Cloud.onStaging, Staging.deleteCopy, Cloud.order] at same
  cases found : c.staging.objects.get? name with
  | none =>
    rw [found] at same
    cases same
    rfl
  | some copying =>
    rw [found] at same
    cases same
    rfl

end Cloud

namespace Access

/-- A permitted call keeps the account and the access in step. -/
theorem Matches.next {name : String} {c c' : Cloud} {a : Access} {call : ClientCall} {r : call.Reply}
    (fits : a.Matches name c) (permitted : a.Permits name c call) (answer : c.Answers call r c') :
    (a.next ⟨call, r⟩).Matches name c' := by
  cases call with
  | grantAccess snapshot ttl =>
    obtain ⟨⟨access, rfl⟩, opened, objects⟩ := Cloud.answers_grantAccess answer
    refine ⟨opened, ?_⟩
    rw [Cloud.Holds, objects]
    exact permitted
  | revokeAccess snapshot =>
    obtain ⟨objects, ⟨rfl, closed⟩ | ⟨f, rfl, grants⟩⟩ := Cloud.answers_revokeAccess answer
    · exact closed
    -- A failed revocation changes nothing, but a pass may take it for one that had nothing to do.
    · have still : a.Matches name c' := fits.congr grants (by rw [Cloud.Holds, objects, Cloud.Holds])
      simp only [Access.next]
      split
      · next taken =>
        rw [taken.1] at still
        exact still.1
      · exact still
  | copyStatus object =>
    obtain rfl := permitted
    obtain ⟨grants, held, -⟩ := Cloud.answers_copyStatus answer
    exact fits.congr grants held
  | startCopy object source =>
    obtain ⟨rfl, rfl⟩ := permitted
    obtain ⟨grants, ⟨rfl, held⟩ | ⟨f, rfl, held⟩⟩ := Cloud.answers_startCopy answer
    · exact ⟨grants ▸ fits.1, held⟩
    · exact fits.congr grants held
  | deleteCopy object =>
    obtain ⟨rfl, rfl | rfl⟩ := permitted
    · exact (Cloud.answers_deleteCopy answer).trans fits
    · exact Nat.lt_of_lt_of_eq fits (Cloud.answers_deleteCopy answer).symm
  | observe | create | delete | listAssets => exact permitted.elim

def Moves (s : Cloud × Access) (call : ClientCall) (r : call.Reply) (t : Cloud × Access) : Prop :=
  s.1.Answers call r t.1 ∧ t.2 = s.2.next ⟨call, r⟩

private theorem exchanged_moves {c c' : Cloud} {es : List (Event clients)} (a : Access)
    (replies : Exchanged Cloud.Answers c es c') :
    Exchanged Moves (c, a) es (c', es.foldl Access.next a) := by
  induction replies generalizing a with
  | nil c => exact .nil _
  | cons answer others ih => exact .cons ⟨answer, rfl⟩ (ih _)

/-- What holds at every call of a pass: account and access are in step, and the call is permitted. -/
def Law (name : String) (s : Cloud × Access) (call : ClientCall) : Prop :=
  s.2.Matches name s.1 ∧ s.2.Permits name s.1 call

section

variable {α β : Type} {name : String} {c : Cloud} {a : Access}
  {post : Cloud × Access → Except Setback β → Prop}

theorem law_step {call : ClientCall} {x : Pass α} {g : call.Reply → Except Setback α} {f : α → Pass β}
    (step : x.run = Program.ask (I := clients) call fun r => .done (g r)) (fits : a.Matches name c)
    (permitted : a.Permits name c call)
    (failed : ∀ r c' e, c.Answers call r c' → (a.next ⟨call, r⟩).Matches name c' → g r = .error e →
      post (c', a.next ⟨call, r⟩) (.error e))
    (rest : ∀ r c' x, c.Answers call r c' → (a.next ⟨call, r⟩).Matches name c' → g r = .ok x →
      Guarded Moves (Law name) post (f x).run (c', a.next ⟨call, r⟩)) :
    Guarded Moves (Law name) post (x >>= f).run (c, a) := by
  refine guarded_step step ⟨fits, permitted⟩ ?_ ?_
  · intro r t e moved failure
    obtain ⟨c', a'⟩ := t
    obtain ⟨answer, rfl⟩ := moved
    exact failed r c' e answer (fits.next permitted answer) failure
  · intro r t x moved success
    obtain ⟨c', a'⟩ := t
    obtain ⟨answer, rfl⟩ := moved
    exact rest r c' x answer (fits.next permitted answer) success

/-- Revoking is what passes do while the object is there; they go on only with access that is closed, or
that they take for closed. -/
theorem law_revokeGrants {snapshot : String} {f : Unit → Pass β} (fits : a.Matches name c)
    (held : c.Holds name)
    (failed : ∀ c' a' e, a'.Matches name c' → post (c', a') (.error e))
    (rest : ∀ c' a', a'.Matches name c' → a' = .closed ∨ a' = .mistaken →
      Guarded Moves (Law name) post (f ()).run (c', a')) :
    Guarded Moves (Law name) post (revokeGrants snapshot >>= f).run (c, a) := by
  refine law_step (revokeGrants_run snapshot) fits trivial ?_ ?_
  · intro r c' e _ fits' _
    exact failed c' _ e fits'
  · intro r c' same _ fits' settled
    cases same
    refine rest c' _ fits' ?_
    obtain ⟨⟨⟩, rfl, -⟩ | ⟨f, rfl, missing, -⟩ := unlessMissing_eq_ok settled
    · exact .inl rfl
    · cases a with
      | closed => exact .inl (by simp [Access.next])
      | unused => exact absurd held fits.2
      | serving => exact .inr (by simp [Access.next, missing])
      | mistaken => exact .inr (by simp [Access.next])

theorem law_ask {call : ClientCall} {f : call.Reply → Pass β} (fits : a.Matches name c)
    (permitted : a.Permits name c call)
    (rest : ∀ r c', c.Answers call r c' → (a.next ⟨call, r⟩).Matches name c' →
      Guarded Moves (Law name) post (f r).run (c', a.next ⟨call, r⟩)) :
    Guarded Moves (Law name) post (Pass.ask call >>= f).run (c, a) := by
  refine guarded_ask ⟨fits, permitted⟩ ?_
  intro r t moved
  obtain ⟨c', a'⟩ := t
  obtain ⟨answer, rfl⟩ := moved
  exact rest r c' answer (fits.next permitted answer)

end

/-- How every pass leaves account and access. -/
def InStep {α : Type} (name : String) (s : Cloud × Access) (_ : α) : Prop := s.2.Matches name s.1

variable {timing : Timing} {job : Job} {c : Cloud} {a : Access}

theorem startCopy_inStep {snapshot name : String} (fits : a.Matches name c) (missing : ¬ c.Holds name) :
    Guarded Moves (Law name) (InStep name) (startCopy timing snapshot name).run (c, a) := by
  rw [startCopy]
  refine law_ask fits missing ?_
  rintro (f | access) c' _ granted
  · exact granted
  · refine law_ask granted ⟨rfl, rfl⟩ ?_
    rintro (f | ⟨⟩) c'' _ started
    · exact law_ask started trivial fun r c _ revoked => revoked
    · exact started

theorem restartCopy_inStep {snapshot name : String} (status : CopyStatus) (fits : a.Matches name c)
    (held : c.Holds name) :
    Guarded Moves (Law name) (InStep name) (restartCopy timing snapshot name status).run (c, a) := by
  refine law_revokeGrants fits held (fun c a e fits => fits) ?_
  intro c' a' fits' revoked
  exact law_step (deleteCopy_run _) fits' ⟨rfl, revoked⟩ (fun r c e _ fits _ => fits)
    (fun r c x _ fits _ => fits)

theorem ensureStagedCopy_inStep {store : StagingStore} {snapshot : Handle}
    (fits : a.Matches job.names.stagedCopy c) :
    Guarded Moves (Law job.names.stagedCopy) (InStep job.names.stagedCopy)
      (ensureStagedCopy store timing job snapshot).run (c, a) := by
  rw [ensureStagedCopy]
  refine law_step (copyProgress_run _) fits rfl ?_ ?_
  · intro r c' e _ fits' _
    exact fits'
  · intro r c' found answer fits' looked
    obtain ⟨-, held, present⟩ := Cloud.answers_copyStatus answer
    obtain ⟨progress, rfl, rfl⟩ | ⟨f, rfl, -, rfl⟩ := unlessMissing_eq_ok looked
    · have there : c'.Holds job.names.stagedCopy := held.mpr (present.mp ⟨progress, rfl⟩)
      obtain ⟨status, copied, total⟩ := progress
      cases status with
      | pending => exact fits'
      | success =>
        exact law_revokeGrants fits' there (fun c a e fits => fits) fun c a fits _ => fits
      | failed => exact restartCopy_inStep .failed fits' there
      | aborted => exact restartCopy_inStep .aborted fits' there
    · refine startCopy_inStep fits' fun there => ?_
      obtain ⟨progress, same⟩ := present.mpr (held.mp there)
      cases same

/-- Removing a copy succeeds only once no access that served it is open, as far as the pass can tell. -/
theorem removeStagedCopy_inStep (fits : a.Matches job.names.stagedCopy c) :
    Guarded Moves (Law job.names.stagedCopy)
      (fun s result => InStep job.names.stagedCopy s result ∧ (result = .ok () → s.2 ≠ .serving))
      (removeStagedCopy timing job).run (c, a) := by
  rw [removeStagedCopy]
  refine law_step (copyProgress_run _) fits rfl ?_ ?_
  · intro r c' e _ fits' _
    exact ⟨fits', by simp⟩
  · intro r c' found answer fits' looked
    obtain ⟨-, held, present⟩ := Cloud.answers_copyStatus answer
    obtain ⟨progress, rfl, rfl⟩ | ⟨f, rfl, -, rfl⟩ := unlessMissing_eq_ok looked
    · have there : c'.Holds job.names.stagedCopy := held.mpr (present.mp ⟨progress, rfl⟩)
      refine law_revokeGrants fits' there (fun c a e fits => ⟨fits, by simp⟩) ?_
      intro c' a' fits' revoked
      refine law_step (deleteCopy_run _) fits' ⟨rfl, revoked⟩
        (fun r c e _ fits _ => ⟨fits, by simp⟩) ?_
      intro r c' _ _ fits' _
      refine law_step (copyProgress_run _) fits' rfl (fun r c e _ fits _ => ⟨fits, by simp⟩) ?_
      intro r c' found _ fits' _
      cases found with
      | none =>
        refine ⟨fits', fun _ serving => ?_⟩
        rcases revoked with rfl | rfl <;> cases serving
      | some progress => exact ⟨fits', by simp⟩
    · refine ⟨fits', fun _ serving => ?_⟩
      have serves : a = .serving := serving
      subst serves
      obtain ⟨progress, same⟩ := present.mpr (held.mp fits'.2)
      cases same

end Access

/-- Everything that passes for one job have asked of an account that was empty, and the account they
leave: passes that stage a copy or remove it in any order, each of which may have been cut off. -/
inductive History (polls : Nat) (store : StagingStore) (timing : Timing) (job : Job) (snapshot : Handle) :
    List (Event clients) → Cloud → Prop
  | empty : History polls store timing job snapshot [] (Cloud.empty polls)
  | stage {es pass : List (Event clients)} {c c' : Cloud} {e : Option (Except Setback StagedCopy)}
      (earlier : History polls store timing job snapshot es c)
      (run : Trace (ensureStagedCopy store timing job snapshot).run pass e)
      (replies : Exchanged Cloud.Answers c pass c') :
      History polls store timing job snapshot (es ++ pass) c'
  | remove {es pass : List (Event clients)} {c c' : Cloud} {e : Option (Except Setback Unit)}
      (earlier : History polls store timing job snapshot es c)
      (run : Trace (removeStagedCopy timing job).run pass e)
      (replies : Exchanged Cloud.Answers c pass c') :
      History polls store timing job snapshot (es ++ pass) c'

section

variable {polls : Nat} {store : StagingStore} {timing : Timing} {job : Job} {snapshot : Handle}
  {es rs : List (Event clients)} {c c' : Cloud}

/-- Account and access stay in step over every pass, also where it is cut off. -/
theorem Access.inStep_of_run {α : Type} {name : String} {p : Program clients α} {a : Access}
    {e : Option α} {post : Cloud × Access → α → Prop} (run : Trace p es e)
    (replies : Exchanged Cloud.Answers c es c')
    (guarded : Guarded Access.Moves (Access.Law name) post p (c, a))
    (inStep : ∀ s x, post s x → Access.InStep name s x) :
    (es.foldl Access.next a).Matches name c' := by
  obtain ⟨-, -, ⟨call, law⟩ | ⟨x, ending⟩⟩ := run.guarded (Access.exchanged_moves a replies) guarded
  · exact law.1
  · exact inStep _ x ending

theorem History.inStep (history : History polls store timing job snapshot es c) :
    (Access.of es).Matches job.names.stagedCopy c := by
  induction history with
  | empty => rfl
  | stage earlier run replies ih =>
    rw [Access.of, List.foldl_append]
    exact Access.inStep_of_run run replies (Access.ensureStagedCopy_inStep ih) fun s x inStep => inStep
  | remove earlier run replies ih =>
    rw [Access.of, List.foldl_append]
    exact Access.inStep_of_run run replies (Access.removeStagedCopy_inStep ih) fun s x ending => ending.1

/-- Where a copy has been removed, no access is left open unless no copy had come to use it, or its
revocation was answered as if nothing had been open. -/
theorem activeGrants_removed (history : History polls store timing job snapshot es c)
    (run : Trace (removeStagedCopy timing job).run rs (some (.ok ())))
    (replies : Exchanged Cloud.Answers c rs c') :
    c'.staging.activeGrants = 0 ↔ Access.of (es ++ rs) ≠ .unused ∧ Access.of (es ++ rs) ≠ .mistaken := by
  have after : (Access.of (es ++ rs)).Matches job.names.stagedCopy c' :=
    (History.remove history run replies).inStep
  -- While access serves a copy, the object is there, and the pass revokes before it succeeds.
  have served : Access.of (es ++ rs) ≠ .serving := by
    obtain ⟨-, ending, -⟩ := run.guarded (Access.exchanged_moves (Access.of es) replies)
      (Access.removeStagedCopy_inStep history.inStep)
    rw [Access.of, List.foldl_append]
    exact (ending _ rfl).2 rfl
  cases access : Access.of (es ++ rs) with
  | closed =>
    rw [access] at after
    exact ⟨fun _ => ⟨by decide, by decide⟩, fun _ => after⟩
  | unused =>
    rw [access] at after
    exact ⟨fun none => absurd none (Nat.ne_of_gt after.1), fun h => absurd rfl h.1⟩
  | serving => exact absurd access served
  | mistaken =>
    rw [access] at after
    exact ⟨fun none => absurd none (Nat.ne_of_gt after), fun h => absurd rfl h.2⟩

end

section

def sampleSnapshot : Handle :=
  { name := "asset-scan-snapshot-scan-0001", id := "sim://snapshot/asset-scan-snapshot-scan-0001" }

/-- A pass that stages a copy, and one that removes it. -/
def staging : Program clients (Except Setback StagedCopy) :=
  (ensureStagedCopy Cloud.store .cloud (sampleJob true) sampleSnapshot).run

def removal : Program clients (Except Setback Unit) := (removeStagedCopy .cloud (sampleJob true)).run

/-- The account after a pass that stages a copy in an empty one. -/
def staged (o : Orders) : Cloud := (Cloud.runUnder o staging (Cloud.empty 0)).2

def removed (o : Orders) : Except Setback Unit × Cloud := Cloud.runUnder {} removal (staged o)

/-- A removal after a pass under orders, as a history and a run. -/
theorem removal_after (o : Orders) (done : (removed o).1.isOk = true) :
    ∃ es rs, es = staging.log (Cloud.answerUnder o) (Cloud.empty 0) ∧
      rs = removal.log (Cloud.answerUnder {}) (staged o) ∧
      History 0 Cloud.store .cloud (sampleJob true) sampleSnapshot es (staged o) ∧
      Trace (removeStagedCopy .cloud (sampleJob true)).run rs (some (.ok ())) ∧
      Exchanged Cloud.Answers (staged o) rs (removed o).2 := by
  have first := trace_log (I := clients) (Cloud.answerUnder o) staging (Cloud.empty 0)
  have last := trace_log (I := clients) (Cloud.answerUnder {}) removal (staged o)
  refine ⟨_, _, rfl, rfl, .stage .empty first (Cloud.exchanged_under o staging _), ?_,
    Cloud.exchanged_under {} removal _⟩
  obtain ⟨⟨⟩, ending⟩ := exists_ok_of_isOk done
  rw [← ending]
  exact last

/-- Access that was opened for a started copy is closed when the copy is removed. -/
theorem activeGrants_removed_started :
    0 < (staged {}).staging.activeGrants ∧ (removed {}).2.staging.activeGrants = 0 := by
  obtain ⟨es, rs, rfl, rfl, history, run, replies⟩ := removal_after {} (by decide +kernel)
  refine ⟨by decide +kernel, ?_⟩
  rw [activeGrants_removed history run replies]
  decide +kernel

/-- Neither the start of the copy nor the revocation after it gets through. -/
def refusing : Orders where
  startFailure := some (.unreachable "starting copy" "connection reset" false)
  revokeFailure := some (.unreachable "revoking access" "connection reset" false)

/-- Access that no copy came to use outlives the removal. -/
theorem activeGrants_removed_refused : ¬ ∀ es c rs c',
    History 0 Cloud.store .cloud (sampleJob true) sampleSnapshot es c →
    Trace (removeStagedCopy .cloud (sampleJob true)).run rs (some (.ok ())) →
    Exchanged Cloud.Answers c rs c' → c'.staging.activeGrants = 0 := by
  intro closed
  obtain ⟨es, rs, -, -, history, run, replies⟩ := removal_after refusing (by decide +kernel)
  have open_ : (removed refusing).2.staging.activeGrants = 1 := by decide +kernel
  rw [closed es _ rs _ history run replies] at open_
  cases open_

end

end ScanProvisioning.Rehearsal
