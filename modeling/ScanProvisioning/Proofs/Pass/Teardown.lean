import ScanProvisioning.Proofs.Pass.Removal
import ScanProvisioning.Rehearsal.Cloud

namespace ScanProvisioning

namespace ClientCall

/-- The resource that a call is about, by kind and name. Access to a snapshot is no resource. -/
def about : ClientCall → Option (ResourceKind × String)
  | observe kind name => some (kind, name)
  | create name spec => some (spec.kind, name)
  | delete kind name => some (kind, name)
  | copyStatus name => some (.stagedCopy, name)
  | startCopy name _ => some (.stagedCopy, name)
  | deleteCopy name => some (.stagedCopy, name)
  | grantAccess .. => none
  | revokeAccess _ => none
  | listAssets => none

def looks : ClientCall → Bool
  | observe .. => true
  | copyStatus _ => true
  | _ => false

def deletes : ClientCall → Bool
  | delete .. => true
  | deleteCopy _ => true
  | _ => false

end ClientCall

/-- The failure that a call was answered with. -/
def Event.failure? : Event clients → Option Failure
  | ⟨.observe .., r⟩ => refusal r
  | ⟨.create .., r⟩ => refusal r
  | ⟨.delete .., r⟩ => refusal r
  | ⟨.grantAccess .., r⟩ => refusal r
  | ⟨.revokeAccess _, r⟩ => refusal r
  | ⟨.copyStatus _, r⟩ => refusal r
  | ⟨.startCopy .., r⟩ => refusal r
  | ⟨.deleteCopy _, r⟩ => refusal r
  | ⟨.listAssets, r⟩ => refusal r
where
  refusal {α : Type} : Except Failure α → Option Failure
    | .ok _ => none
    | .error f => some f

attribute [simp] Event.failure? Event.failure?.refusal

/-- A resource of a job, by kind and name. -/
def Job.resource (job : Job) (kind : ResourceKind) : ResourceKind × String := (kind, job.names.of kind)

namespace Pass

open Program

/-- The last answer about a resource, with its question. -/
def lastAbout (es : List (Event clients)) (resource : ResourceKind × String) : Option (Event clients) :=
  (es.filter fun ev => ev.call.about = some resource).getLast?

/-- The last answer about a resource says missing. -/
def EndsMissing (es : List (Event clients)) (resource : ResourceKind × String) : Prop :=
  ∃ ev f, lastAbout es resource = some ev ∧ ev.failure? = some f ∧ f.verdict = .missing

/-- The last answer about a resource is that of a look that found something, in whatever state. -/
def EndsFound (es : List (Event clients)) (resource : ResourceKind × String) : Prop :=
  ∃ ev, lastAbout es resource = some ev ∧ ev.call.looks = true ∧ ev.failure? = none

variable {facilities : Facilities} {timing : Timing} {job : Job} {kind : ResourceKind}
  {es more : List (Event clients)} {resource : ResourceKind × String} {ev : Event clients}

theorem lastAbout_append (es more : List (Event clients)) (resource : ResourceKind × String) :
    lastAbout (es ++ more) resource = (lastAbout more resource).or (lastAbout es resource) := by
  simp only [lastAbout, List.filter_append, List.getLast?_append]

theorem lastAbout_snoc (own : ev.call.about = some resource) :
    lastAbout (es ++ [ev]) resource = some ev := by
  rw [lastAbout_append]
  simp [lastAbout, own]

private theorem lastAbout_other (other : ev.call.about ≠ some resource) :
    lastAbout (es ++ [ev]) resource = lastAbout es resource := by
  rw [lastAbout_append]
  simp [lastAbout, other]

theorem endsMissing_snoc (own : ev.call.about = some resource) :
    EndsMissing (es ++ [ev]) resource ↔ ∃ f, ev.failure? = some f ∧ f.verdict = .missing := by
  simp [EndsMissing, lastAbout_snoc own]

theorem EndsFound.not_missing (found : EndsFound es resource) : ¬ EndsMissing es resource := by
  intro missing
  obtain ⟨ev, last, -, fine⟩ := found
  obtain ⟨ev', f, last', failed, -⟩ := missing
  cases last.symm.trans last'
  cases fine.symm.trans failed

theorem endsFound_snoc (own : ev.call.about = some resource) (look : ev.call.looks = true)
    (fine : ev.failure? = none) : EndsFound (es ++ [ev]) resource :=
  ⟨ev, lastAbout_snoc own, look, fine⟩

theorem EndsFound.other (found : EndsFound es resource) (other : ev.call.about ≠ some resource) :
    EndsFound (es ++ [ev]) resource := by
  rw [EndsFound, lastAbout_other other]
  exact found

/-- What the removal of one resource may ask after some events. -/
structure MayClear (job : Job) (kind : ResourceKind) (before : List (Event clients)) (c : ClientCall) :
    Prop where
  own : c.about = some (job.resource kind) ∨ c.about = none ∧ c.deletes = false
  found : c.deletes = true → EndsFound before (job.resource kind)
  once : c.deletes = true → ∀ ev ∈ before, ev.call.deletes = false
  revoked : c.deletes = true → kind = .stagedCopy →
    ∃ r, (⟨.revokeAccess job.names.snapshot, r⟩ : Event clients) ∈ before ∧ Settles r

/-- The removal of one resource succeeds exactly when the last answer says that it is missing. -/
def MayClose (job : Job) (kind : ResourceKind) (es : List (Event clients)) (result : Except Setback Unit) :
    Prop :=
  result = .ok () ↔ EndsMissing es (job.resource kind)

theorem mayClose_error {e : Setback} (left : ¬ EndsMissing es (job.resource kind)) :
    MayClose job kind es (.error e) :=
  ⟨by simp, fun missing => absurd missing left⟩

theorem mayClose_missing {f : Failure} (own : ev.call.about = some (job.resource kind))
    (failed : ev.failure? = some f) (missing : f.verdict = .missing) :
    MayClose job kind (es ++ [ev]) (.ok ()) := by
  have last : EndsMissing (es ++ [ev]) (job.resource kind) :=
    (endsMissing_snoc own).mpr ⟨f, failed, missing⟩
  exact ⟨fun _ => last, fun _ => rfl⟩

/-- A question about the resource that the pass gives up on. -/
theorem mayClose_failed {α β : Type} {answer : Except Failure α} {activity : String} {found : α → β}
    {gone : β} {e : Setback} (own : ev.call.about = some (job.resource kind))
    (reads : ev.failure? = Event.failure?.refusal answer)
    (failed : unlessMissing activity found gone answer = .error e) :
    MayClose job kind (es ++ [ev]) (.error e) := by
  obtain ⟨f, rfl, other⟩ := unlessMissing_eq_error failed
  apply mayClose_error
  rw [endsMissing_snoc own, reads]
  intro h
  obtain ⟨f', same, missing⟩ := h
  cases same
  exact other missing

/-- A question that asks for no deletion. -/
theorem mayClear_of_keeps {c : ClientCall} (own : c.about = some (job.resource kind) ∨ c.about = none)
    (keeps : c.deletes = false) : MayClear job kind es c := by
  have never {P : Prop} : c.deletes = true → P := by
    intro deletes
    rw [keeps] at deletes
    cases deletes
  exact ⟨own.imp_right fun aside => ⟨aside, keeps⟩, never, never, never⟩

/-- A look that settles the removal of a resource, unless it finds something. -/
theorem isPresent_closes {estimate : Duration} {reason : String} :
    Guarded recording (MayClear job kind) (MayClose job kind)
      (isPresent kind (job.names.of kind) >>= fun present =>
        if present then throw (.retry estimate reason) else pure ()).run es := by
  refine guarded_step (isPresent_run kind _) (mayClear_of_keeps (.inl rfl) rfl) ?_ ?_
  · intro r t e recorded failed
    rw [recorded]
    exact mayClose_failed rfl rfl failed
  · intro r t present recorded looked
    subst recorded
    obtain ⟨seen, rfl, rfl⟩ | ⟨f, rfl, missing, rfl⟩ := unlessMissing_eq_ok looked
    · exact mayClose_error (endsFound_snoc rfl rfl rfl).not_missing
    · exact mayClose_missing rfl rfl missing

theorem ensureAbsent_lawful {estimate : Duration} (real : kind ≠ .stagedCopy) :
    Guarded recording (MayClear job kind) (MayClose job kind)
      (ensureAbsent kind (job.names.of kind) estimate).run [] := by
  rw [ensureAbsent]
  refine guarded_step (isPresent_run kind _) (mayClear_of_keeps (.inl rfl) rfl) ?_ ?_
  · intro r t e recorded failed
    rw [recorded]
    exact mayClose_failed rfl rfl failed
  · intro r t present recorded looked
    subst recorded
    obtain ⟨seen, rfl, rfl⟩ | ⟨f, rfl, missing, rfl⟩ := unlessMissing_eq_ok looked
    · refine guarded_ask ?_ ?_
      · constructor
        case own => exact .inl rfl
        case found => exact fun _ => endsFound_snoc rfl rfl rfl
        case once => simp [ClientCall.deletes]
        case revoked => exact fun _ staged => absurd staged real
      · rintro (f | ⟨⟩) t rfl
        · have failed := @unlessMissing_failure Unit Unit
            ("deleting " ++ label kind (job.names.of kind)) id () f
          dsimp only
          cases verdict : f.verdict with
          | missing => exact mayClose_missing rfl rfl verdict
          | retry delay reason => exact mayClose_failed rfl rfl (failed (by simp [verdict]))
          | fatal reason => exact mayClose_failed rfl rfl (failed (by simp [verdict]))
        · exact isPresent_closes
    · exact mayClose_missing rfl rfl missing

theorem removeStagedCopy_lawful :
    Guarded recording (MayClear job .stagedCopy) (MayClose job .stagedCopy)
      (removeStagedCopy timing job).run [] := by
  rw [removeStagedCopy]
  refine guarded_step (copyProgress_run _) (mayClear_of_keeps (.inl rfl) rfl) ?_ ?_
  · intro r t e recorded failed
    rw [recorded]
    exact mayClose_failed rfl rfl failed
  · intro r t found recorded looked
    subst recorded
    obtain ⟨progress, rfl, rfl⟩ | ⟨f, rfl, missing, rfl⟩ := unlessMissing_eq_ok looked
    · have present : EndsFound ([] ++ [⟨.copyStatus job.names.stagedCopy, .ok progress⟩])
          (job.resource .stagedCopy) := endsFound_snoc rfl rfl rfl
      refine guarded_step (revokeGrants_run _) (mayClear_of_keeps (.inr rfl) rfl) ?_ ?_
      · intro r t e recorded failed
        rw [recorded]
        exact mayClose_error (present.other (by simp [ClientCall.about])).not_missing
      · intro revoked t _ recorded settled
        subst recorded
        refine guarded_step (deleteCopy_run _) ?_ ?_ ?_
        · constructor
          case own => exact .inl rfl
          case found => exact fun _ => present.other (by simp [ClientCall.about])
          case once => simp [ClientCall.deletes]
          case revoked => exact fun _ _ => ⟨revoked, by simp, settles_of_unlessMissing settled⟩
        · intro r t e recorded failed
          rw [recorded]
          exact mayClose_failed rfl rfl failed
        · intro deleted t _ recorded settled
          subst recorded
          refine guarded_step (copyProgress_run _) (mayClear_of_keeps (.inl rfl) rfl) ?_ ?_
          · intro r t e recorded failed
            rw [recorded]
            exact mayClose_failed rfl rfl failed
          · intro r t found recorded looked
            subst recorded
            obtain ⟨progress, rfl, rfl⟩ | ⟨f, rfl, missing, rfl⟩ := unlessMissing_eq_ok looked
            · exact mayClose_error (endsFound_snoc rfl rfl rfl).not_missing
            · exact mayClose_missing rfl rfl missing
    · exact mayClose_missing rfl rfl missing

/-- Make sure that one resource of a job is gone. -/
def removeKind (timing : Timing) (job : Job) : ResourceKind → Pass Unit
  | .stagedCopy => removeStagedCopy timing job
  | kind => ensureAbsent kind (job.names.of kind) timing.deletion

/-- Make sure that resources are gone, one after the other, as far as it gets. -/
def removeAll (timing : Timing) (job : Job) : List ResourceKind → Pass Unit
  | [] => pure ()
  | kind :: kinds => removeKind timing job kind >>= fun _ => removeAll timing job kinds

/-- Whether a job has a resource of a kind to remove. -/
def takesPart (facilities : Facilities) (job : Job) : ResourceKind → Bool
  | .networkInterface => facilities.hasNetwork
  | .stagedCopy => job.crossesRegions && facilities.store.isSome
  | _ => true

/-- The resources of a job in the order in which they are removed. -/
def removalOrder (facilities : Facilities) (job : Job) : List ResourceKind :=
  [.scanner, .networkInterface, .volume, .stagedCopy, .snapshot].filter (takesPart facilities job)

theorem teardown_eq_removeAll (facilities : Facilities) (timing : Timing) (job : Job) :
    teardown facilities timing job = removeAll timing job (removalOrder facilities job) := by
  have last (x : Pass Unit) : (x >>= fun _ => pure ()) = x := bind_pure_unit
  rw [teardown_eq]
  unfold removalOrder
  cases network : facilities.hasNetwork <;> cases staged : job.crossesRegions && facilities.store.isSome <;>
    simp [takesPart, network, staged, removeAll, removeKind, Names.of, onlyIf, List.filter_cons, last]

/-- The order that the events of a pass which removes resources one after the other keep. -/
structure Backwards (job : Job) (order : List ResourceKind) (es : List (Event clients))
    (e : Option (Except Setback Unit)) : Prop where
  /-- Nothing but the resources and the access to the snapshot is touched. -/
  own : ∀ ev ∈ es, (∃ kind ∈ order, ev.call.about = some (job.resource kind)) ∨
    ev.call.about = none ∧ ev.call.deletes = false
  /-- A deletion waits for all resources before it to be missing, and for a look that finds its own;
  that of the staged copy also for the access to the snapshot to be closed. -/
  deletion : ∀ before ev after, es = before ++ ev :: after → ev.call.deletes = true →
    ∃ kind ∈ order, ev.call.about = some (job.resource kind) ∧
      (∀ earlier ∈ order.takeWhile (· ≠ kind), EndsMissing before (job.resource earlier)) ∧
      EndsFound before (job.resource kind) ∧
      (kind = .stagedCopy →
        ∃ r, (⟨.revokeAccess job.names.snapshot, r⟩ : Event clients) ∈ before ∧ Settles r)
  /-- No resource is deleted twice. -/
  once : ∀ resource, es.countP (fun ev => ev.call.deletes && ev.call.about = some resource) ≤ 1
  success : ∀ result, e = some result →
    (result = .ok () ↔ ∀ kind ∈ order, EndsMissing es (job.resource kind))

theorem removeKind_lawful : Guarded recording (MayClear job kind) (MayClose job kind)
    (removeKind timing job kind).run [] := by
  cases kind with
  | stagedCopy => exact removeStagedCopy_lawful
  | snapshot | volume | networkInterface | scanner => exact ensureAbsent_lawful (by decide)

variable {e : Option (Except Setback Unit)}

theorem removeKind_backwards (run : Trace (removeKind timing job kind).run es e) :
    Backwards job [kind] es e := by
  obtain ⟨asked, ended⟩ := run.lawful removeKind_lawful
  constructor
  case own =>
    intro ev mem
    obtain ⟨before, after, split⟩ := List.append_of_mem mem
    rcases (asked before ev after split).own with own | aside
    · exact .inl ⟨kind, List.mem_singleton_self kind, own⟩
    · exact .inr aside
  case deletion =>
    intro before ev after split deletes
    have may := asked before ev after split
    have own : ev.call.about = some (job.resource kind) := by
      rcases may.own with own | ⟨-, keeps⟩
      · exact own
      · cases keeps.symm.trans deletes
    exact ⟨kind, List.mem_singleton_self kind, own, by simp, may.found deletes, may.revoked deletes⟩
  case once =>
    intro resource
    apply countP_le_one
    intro before ev after split deletion x mem
    rw [Bool.and_eq_true] at deletion
    rw [(asked before ev after split).once deletion.1 x mem, Bool.false_and]
  case success =>
    intro result same
    rw [List.forall_mem_singleton]
    exact ended result same

/-- A pass that does not get past its first resource. -/
theorem Backwards.stopped {kinds : List ResourceKind} (first : Backwards job [kind] es e)
    (short : e ≠ some (.ok ())) : Backwards job (kind :: kinds) es e := by
  constructor
  case own =>
    intro ev mem
    rcases first.own ev mem with ⟨k, member, own⟩ | aside
    · rw [List.mem_singleton] at member
      exact .inl ⟨k, member ▸ .head kinds, own⟩
    · exact .inr aside
  case deletion =>
    intro before ev after split deletes
    obtain ⟨k, member, own, -, found, revoked⟩ := first.deletion before ev after split deletes
    rw [List.mem_singleton] at member
    subst member
    exact ⟨k, .head kinds, own, by simp, found, revoked⟩
  case once => exact first.once
  case success =>
    intro result same
    have left : ¬ EndsMissing es (job.resource kind) := by
      intro missing
      have done := (first.success result same).mpr (List.forall_mem_singleton.mpr missing)
      rw [done] at same
      exact short same
    constructor
    · intro done
      rw [done] at same
      exact absurd same short
    · intro all
      exact absurd (all kind (.head kinds)) left

theorem Job.resource_inj {k l : ResourceKind} : job.resource k = job.resource l ↔ k = l := by
  constructor
  · intro same
    exact congrArg Prod.fst same
  · intro same
    rw [same]

private theorem lastAbout_eq_none (elsewhere : ∀ ev ∈ es, ev.call.about ≠ some resource) :
    lastAbout es resource = none := by
  rw [lastAbout, List.getLast?_eq_none_iff, List.filter_eq_nil_iff]
  intro ev mem
  simpa using elsewhere ev mem

/-- What is said last about a resource settles both that it is missing and that it is found. -/
theorem endsMissing_congr (same : lastAbout es resource = lastAbout more resource) :
    EndsMissing es resource ↔ EndsMissing more resource := by
  rw [EndsMissing, EndsMissing, same]

theorem Backwards.elsewhere {order : List ResourceKind} (kept : Backwards job order es e)
    (absent : kind ∉ order) : ∀ ev ∈ es, ev.call.about ≠ some (job.resource kind) := by
  intro ev mem same
  rcases kept.own ev mem with ⟨k, member, own⟩ | ⟨none, -⟩
  · rw [own, Option.some.injEq, Job.resource_inj] at same
    subst same
    exact absent member
  · cases none.symm.trans same

/-- A pass that gets past its first resource and goes on with the others. -/
theorem Backwards.after {kinds : List ResourceKind} (first : Backwards job [kind] es (some (.ok ())))
    (rest : Backwards job kinds more e) (fresh : kind ∉ kinds) :
    Backwards job (kind :: kinds) (es ++ more) e := by
  have gone : EndsMissing es (job.resource kind) := by
    have all := (first.success _ rfl).mp rfl
    exact all kind (List.mem_singleton_self kind)
  have early (k : ResourceKind) (member : k ∈ kinds) (part : List (Event clients)) :
      lastAbout (es ++ part) (job.resource k) = lastAbout part (job.resource k) := by
    have distinct : k ∉ [kind] := by
      intro same
      rw [List.mem_singleton] at same
      exact fresh (same ▸ member)
    rw [lastAbout_append, lastAbout_eq_none (first.elsewhere distinct), Option.or_none]
  have late (part : List (Event clients)) (sub : part ⊆ more) :
      lastAbout (es ++ part) (job.resource kind) = lastAbout es (job.resource kind) := by
    rw [lastAbout_append, lastAbout_eq_none fun ev mem => rest.elsewhere fresh ev (sub mem),
      Option.none_or]
  constructor
  case own =>
    intro ev mem
    rcases List.mem_append.mp mem with mem | mem
    · rcases first.own ev mem with ⟨k, member, own⟩ | aside
      · rw [List.mem_singleton] at member
        exact .inl ⟨k, member ▸ .head kinds, own⟩
      · exact .inr aside
    · rcases rest.own ev mem with ⟨k, member, own⟩ | aside
      · exact .inl ⟨k, .tail kind member, own⟩
      · exact .inr aside
  case deletion =>
    intro before ev after split deletes
    have place : (∃ part, es = before ++ ev :: part) ∨
        ∃ part, before = es ++ part ∧ more = part ++ ev :: after := by
      rcases List.append_eq_append_iff.mp split with ⟨part, early, late⟩ | ⟨part, early, late⟩
      · exact .inr ⟨part, early, late⟩
      · cases part with
        | nil => exact .inr ⟨[], by simpa using early.symm, late.symm⟩
        | cons ev' part =>
          rw [List.cons_append, List.cons.injEq] at late
          exact .inl ⟨part, by rw [early, late.1]⟩
    rcases place with ⟨part, rfl⟩ | ⟨part, rfl, rfl⟩
    · obtain ⟨k, member, own, -, found, revoked⟩ := first.deletion before ev part rfl deletes
      rw [List.mem_singleton] at member
      subst member
      exact ⟨k, .head kinds, own, by simp, found, revoked⟩
    · obtain ⟨k, member, own, order, found, revoked⟩ := rest.deletion part ev after rfl deletes
      have distinct : kind ≠ k := fun same => fresh (same ▸ member)
      refine ⟨k, .tail kind member, own, ?_, ?_, ?_⟩
      · rw [List.takeWhile_cons_of_pos (by simpa using distinct)]
        intro earlier mem
        rcases List.mem_cons.mp mem with rfl | mem
        · exact (endsMissing_congr (late part (List.subset_append_left _ _))).mpr gone
        · have member' : earlier ∈ kinds := (List.takeWhile_sublist _).subset mem
          exact (endsMissing_congr (early earlier member' part)).mpr (order earlier mem)
      · rw [EndsFound, early k member part]
        exact found
      · intro staged
        obtain ⟨r, mem, settles⟩ := revoked staged
        exact ⟨r, List.mem_append_right _ mem, settles⟩
  case once =>
    intro resource
    have once := first.once resource
    have once' := rest.once resource
    rw [List.countP_append]
    by_cases own : resource = job.resource kind
    · have none : more.countP (fun ev => ev.call.deletes && ev.call.about = some resource) = 0 := by
        rw [List.countP_eq_zero]
        intro ev mem
        simp [own, rest.elsewhere fresh ev mem]
      omega
    · have none : es.countP (fun ev => ev.call.deletes && ev.call.about = some resource) = 0 := by
        rw [List.countP_eq_zero]
        intro ev mem
        rcases first.own ev mem with ⟨k, member, about⟩ | ⟨about, -⟩
        · rw [List.mem_singleton] at member
          simp [about, member, Ne.symm own]
        · simp [about]
      omega
  case success =>
    intro result same
    rw [List.forall_mem_cons, endsMissing_congr (late more (List.Subset.refl more)), rest.success result same]
    constructor
    · intro all
      refine ⟨gone, ?_⟩
      intro k member
      exact (endsMissing_congr (early k member more)).mpr (all k member)
    · intro all k member
      exact (endsMissing_congr (early k member more)).mp (all.2 k member)

theorem removeAll_backwards {order : List ResourceKind} (distinct : order.Nodup)
    (run : Trace (removeAll timing job order).run es e) : Backwards job order es e := by
  induction order generalizing es with
  | nil =>
    obtain ⟨rfl, ended⟩ := trace_done_iff.mp run
    refine ⟨by simp, by simp, by simp, ?_⟩
    intro result same
    rcases ended with rfl | rfl
    · cases same
    · cases same
      simp
  | cons kind kinds ih =>
    rw [List.nodup_cons] at distinct
    rw [removeAll, trace_bindExcept_iff] at run
    rcases run with ⟨rfl, first⟩ | ⟨s, rfl, first⟩ | ⟨⟨⟩, before, after, rfl, first, rest⟩
    · exact (removeKind_backwards first).stopped (by simp)
    · exact (removeKind_backwards first).stopped (by simp)
    · exact (removeKind_backwards first).after (ih distinct.2 rest) distinct.1

theorem removalOrder_nodup (facilities : Facilities) (job : Job) : (removalOrder facilities job).Nodup :=
  List.Pairwise.filter _ (by decide)

/-- Every teardown pass keeps the reverse order, whatever the clients answer. -/
theorem teardown_backwards (run : Trace (teardown facilities timing job).run es e) :
    Backwards job (removalOrder facilities job) es e := by
  rw [teardown_eq_removeAll] at run
  exact removeAll_backwards (removalOrder_nodup facilities job) run

section

open Rehearsal

/-- A scanner that was never finished, a volume, and a staged copy whose access is still open. -/
def leftover : Cloud :=
  let c := Cloud.empty 0
  { c with
    scanners := c.scanners.place "asset-scan-scanner-scan-0001" .partly
    volumes := c.volumes.place "asset-scan-volume-scan-0001" .ready
    staging := { c.staging with
      objects := ⟨[("scan-0001.vhd", { left := 2, fails := false })]⟩
      activeGrants := 1 } }

def dismantling : Program clients (Except Setback Unit) :=
  (teardown (Cloud.facilities true) .cloud (sampleJob true)).run

theorem teardown_backwards_leftover :
    (dismantling.log Cloud.answer leftover).map (·.call) = [
      .observe .scanner "asset-scan-scanner-scan-0001",
      .delete .scanner "asset-scan-scanner-scan-0001",
      .observe .scanner "asset-scan-scanner-scan-0001",
      .observe .networkInterface "asset-scan-nic-scan-0001",
      .observe .volume "asset-scan-volume-scan-0001",
      .delete .volume "asset-scan-volume-scan-0001",
      .observe .volume "asset-scan-volume-scan-0001",
      .copyStatus "scan-0001.vhd",
      .revokeAccess "asset-scan-snapshot-scan-0001",
      .deleteCopy "scan-0001.vhd",
      .copyStatus "scan-0001.vhd",
      .observe .snapshot "asset-scan-snapshot-scan-0001"] ∧
    Backwards (sampleJob true) (removalOrder (Cloud.facilities true) (sampleJob true))
      (dismantling.log Cloud.answer leftover) (some (Cloud.run dismantling leftover).1) := by
  have run := trace_log (I := clients) Cloud.answer dismantling leftover
  exact ⟨by decide +kernel, teardown_backwards run⟩

end

end Pass

end ScanProvisioning
