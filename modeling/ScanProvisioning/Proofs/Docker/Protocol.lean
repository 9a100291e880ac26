import ScanProvisioning.Proofs.Docker.Chronicle
import ScanProvisioning.Proofs.Docker.Filling

namespace ScanProvisioning.Docker

open Program Rehearsal

/-- The tasks as they stand now, or stood when a question was asked. -/
def Chronicle.Passed {E : Type} (s : Chronicle E) (b : Background) : Prop :=
  b = s.site.background ∨ ∃ during ev, .asked during b ev ∈ s.moments

/-- How calls and the tasks that they start go together, where tasks end between calls and at the questions
that let them. -/
structure Protocol {E : Type} (peer : Peer E) (lets : Call → Prop) (c : Config) (s : Chronicle E) : Prop where
  /-- A task is under way once where it is recorded as running, and otherwise not at all. -/
  once : ∀ b, s.Passed b → ∀ k, b.underway k = if b.tasks.get? k = some .running then 1 else 0
  /-- A task is started and forgotten only by the calls it belongs to. -/
  renewed : ∀ during b ev k, .asked during b ev ∈ s.moments → ev.call.renews k →
    k.startedBy during ∨ k.forgottenBy during
  failedCommit : ∀ name f, LastHeard s.moments (.commit name) f →
    ∀ es r u, peer.Runs lets c (.observe .snapshot name) s es (some r) u →
      r = .ok { handle := { name, id := name }, state := .failed, status := "commit failed: " ++ f.text }
  removal : ∀ name b request reply,
    .asked (.delete .snapshot name) b ⟨.exchange request, reply⟩ ∈ s.moments →
      b.underway (.commit name) = 0
  /-- A creation that misses its image looks at the pull. How that has failed, before the creation or while it
  waited, and has not been looked at since, is what it ends in, and is reported no more. -/
  failedPull : AtOnce lets → ∀ name spec es r u,
    peer.Runs lets c (.create name (.scanner spec)) s es (some r) u → FindsNoImage es →
      ∃ looked b seen rest, s.moments <+: looked ∧ u.moments = looked ++
          .asked (.create name (.scanner spec)) b ⟨.task (.pull spec.image), seen⟩ :: rest ∧
        ∀ f, Unheard s.moments (.pull spec.image) f ∨ Unheard looked (.pull spec.image) f →
          r = .error f ∧ ∀ g, ¬ Unheard u.moments (.pull spec.image) g
  /-- Wherever tasks may end, that holds of a pull that was not started anew since it has failed. -/
  recordedPull : ∀ name spec f, LastHeard s.moments (.pull spec.image) f →
    ∀ es r u, peer.Runs lets c (.create name (.scanner spec)) s es (some r) u → FindsNoImage es →
      r = .error f ∧ ∀ g, ¬ LastHeard u.moments (.pull spec.image) g
  /-- Nothing else about a pull is reported, but that it is under way. -/
  reported : ∀ name spec f es u, peer.Runs lets c (.create name (.scanner spec)) s es (some (.error f)) u →
    f.operation = Task.pulling → f = underWay spec.image ∨
      ∃ looked b rest, LastHeard looked (.pull spec.image) f ∧ u.moments = looked ++
        .asked (.create name (.scanner spec)) b ⟨.task (.pull spec.image), some (.failed f)⟩ :: rest

section

variable {E : Type} {peer : Peer E} {lets : Call → Prop} {c : Config} {s u : Chronicle E} {name : String}
  {spec : ScannerSpec} {es : List (Event host)} {r : Except Failure Unit}

private theorem Coherent.unrecorded {k : Task} (coherent : Coherent lets u)
    (gone : u.site.background.tasks.get? k = none) (f : Failure) : ¬ LastHeard u.moments k f := by
  intro heard
  have recorded := (coherent.recorded k f).mpr heard
  simp [gone] at recorded

/-- The run of a creation that misses the image: how it comes to look at the pull, and what it makes of
what it sees. -/
theorem Coherent.looked (coherent : Coherent lets s)
    (run : peer.Runs lets c (.create name (.scanner spec)) s es (some r) u) (missing : FindsNoImage es) :
    ∃ (t : Chronicle E) (seen : Option TaskState) (rest : List Moment), Coherent lets t ∧
      (∃ more, t.moments = s.moments ++ more ∧ ∀ m ∈ more, ¬ m.Asks (·.looksAt (.pull spec.image))) ∧
      seen = t.site.background.tasks.get? (.pull spec.image) ∧
      (s.site.background.tasks.get? (.pull spec.image) ≠ some .running →
        seen = s.site.background.tasks.get? (.pull spec.image)) ∧
      u.moments = t.moments ++ .asked (.create name (.scanner spec)) t.site.background
        ⟨.task (.pull spec.image), seen⟩ :: rest ∧
      ((∃ f, seen = some (.failed f) ∧ r = .error f ∧
          u.site.background.tasks.get? (.pull spec.image) = none) ∨
        (∀ f, seen ≠ some (.failed f)) ∧ r = .error (underWay spec.image)) := by
  obtain ⟨trace, replies⟩ := run
  obtain ⟨request, reply, seen, last, rfl, outcome⟩ := trace_createScanner_missing trace missing
  cases replies with
  | @cons _ t _ _ _ _ makes replies =>
  cases replies with
  | @cons _ v _ _ _ _ looks replies =>
  cases replies with
  | cons ends replies =>
  cases replies
  obtain ⟨before, grown⟩ := makes.grows
  obtain ⟨earlier, grownLook⟩ := looks.grows
  obtain ⟨later, grownEnd⟩ := ends.grows
  have there := (coherent.exchange (by simp)).records makes
  have after := (there.look _).records looks
  obtain ⟨same, stays⟩ := looks.task there
  rw [grownLook, List.append_assoc] at grownEnd
  refine ⟨t, seen, _, there, ⟨_, grown, ?_⟩, same, ?_, grownEnd, ?_⟩
  · exact List.forall_mem_cons.mpr ⟨id, not_asks_ended⟩
  · intro idle
    rw [same, makes.get?_exchange coherent idle]
  · rcases outcome with ⟨f, failed, ended, forgets⟩ | ⟨other, ended, -⟩
    · cases forgets
      have idle : v.site.background.tasks.get? (.pull spec.image) ≠ some .running := by
        rw [stays (by simp [failed]), failed]
        simp
      exact .inl ⟨f, failed, ended, ends.forget after idle⟩
    · exact .inr ⟨other, ended⟩

theorem Coherent.recordedPull {f : Failure} (coherent : Coherent lets s)
    (run : peer.Runs lets c (.create name (.scanner spec)) s es (some r) u) (missing : FindsNoImage es)
    (heard : LastHeard s.moments (.pull spec.image) f) :
    r = .error f ∧ ∀ g, ¬ LastHeard u.moments (.pull spec.image) g := by
  have failed := (coherent.recorded (.pull spec.image) f).mpr heard
  obtain ⟨t, seen, rest, -, -, -, stays, -, outcome⟩ := coherent.looked run missing
  have same : seen = some (.failed f) := (stays (by simp [failed])).trans failed
  rcases outcome with ⟨g, failed', ended, gone⟩ | ⟨other, -⟩
  · cases same.symm.trans failed'
    exact ⟨ended, (run.coherent coherent).unrecorded gone⟩
  · exact absurd same (other f)

theorem Coherent.failedPull (coherent : Coherent lets s) (atOnce : AtOnce lets)
    (run : peer.Runs lets c (.create name (.scanner spec)) s es (some r) u) (missing : FindsNoImage es) :
    ∃ looked b seen rest, s.moments <+: looked ∧ u.moments = looked ++
        .asked (.create name (.scanner spec)) b ⟨.task (.pull spec.image), seen⟩ :: rest ∧
      ∀ f, Unheard s.moments (.pull spec.image) f ∨ Unheard looked (.pull spec.image) f →
        r = .error f ∧ ∀ g, ¬ Unheard u.moments (.pull spec.image) g := by
  obtain ⟨t, seen, rest, there, ⟨more, grown, quiet⟩, same, -, noted, outcome⟩ := coherent.looked run missing
  refine ⟨t.moments, _, seen, rest, ⟨more, grown.symm⟩, noted, ?_⟩
  intro f unheard
  have still : Unheard t.moments (.pull spec.image) f := by
    rcases unheard with before | meanwhile
    · rw [grown]
      exact before.append quiet
    · exact meanwhile
  have failed : seen = some (.failed f) :=
    same.trans ((there.recorded _ _).mpr (there.kept atOnce _ f still))
  rcases outcome with ⟨g, failed', ended, gone⟩ | ⟨other, -⟩
  · cases failed.symm.trans failed'
    have after := run.coherent coherent
    exact ⟨ended, fun g unheard => after.unrecorded gone g (after.kept atOnce _ g unheard)⟩
  · exact absurd failed (other f)

/-- Every site that calls and tasks lead to keeps the protocol. -/
theorem Coherent.protocol (coherent : Coherent lets s) : Protocol peer lets c s := by
  constructor
  case once =>
    intro b passed
    rcases passed with rfl | ⟨during, ev, mem⟩
    · exact coherent.balanced
    · exact (coherent.lawful during b ev mem).1
  case renewed =>
    intro during b ev k mem renews
    have permitted := (coherent.lawful during b ev mem).2
    obtain ⟨call, reply⟩ := ev
    cases call with
    | start k' request =>
      cases renews
      exact .inl (permitted.start _ _ rfl)
    | forget k' =>
      cases renews
      exact .inr (permitted.forget _ rfl).1
    | exchange | task => cases renews
  case failedCommit =>
    intro name f heard es r u run
    have failed := (coherent.recorded (.commit name) f).mpr heard
    obtain ⟨trace, replies⟩ := run
    change Trace (Program.ask (I := host) (.task (.commit name)) _) es (some r) at trace
    cases trace with
    | ask seen rest =>
    cases replies with
    | cons look others =>
    obtain ⟨same, -⟩ := look.task coherent
    rw [failed] at same
    subst same
    change Trace (Program.done _) _ (some r) at rest
    cases rest
    rfl
  case removal =>
    intro name b request reply mem
    exact (coherent.lawful _ _ _ mem).2.exchange request name rfl rfl
  case failedPull =>
    intro atOnce name spec es r u run missing
    exact coherent.failedPull atOnce run missing
  case recordedPull =>
    intro name spec f heard es r u run missing
    exact coherent.recordedPull run missing heard
  case reported =>
    intro name spec f es u run concerns
    have missing := findsNoImage_of_pulling run.1 concerns
    obtain ⟨t, seen, rest, there, -, same, -, noted, outcome⟩ := coherent.looked run missing
    rcases outcome with ⟨g, failed, ended, -⟩ | ⟨-, ended⟩
    · cases ended
      subst failed
      exact .inr ⟨t.moments, _, rest, (there.recorded _ _).mp same.symm, noted⟩
    · cases ended
      exact .inl rfl

end

def unknownImage : Http.Response where
  status := 404
  headers := []
  body := .ok "\x7b\"message\":\"No such image\"\x7d"

def connectionLost : Http.Failure := { message := "connection closed", timedOut := false }

/-- An engine that has no images and loses its connection with every pull. -/
def emptyEngine : Peer Unit where
  serves _ request reply _ := reply =
    if request.url.path = "/v1.43/images/create" then .error connectionLost else .ok unknownImage
  turns _ _ := False

def sampleScanner : ScannerSpec :=
  (sampleJob false).scannerSpec ⟨"asset-scan-volume-scan-0001", "asset-scan-volume-scan-0001"⟩ none

private theorem sampleScanner_drafts :
    (∃ request, scannerDraft sampleConfig "scanner" sampleScanner = .ok request ∧
      request.url.path ≠ "/v1.43/images/create") ∧
    ∃ request, Task.pullRequest sampleConfig sampleScanner.image = .ok request ∧
      request.url.path = "/v1.43/images/create" := by
  have path (d : Http.Draft) (p : String) (shown : d.toOption.map (·.url.path) = some p) :
      ∃ request, d = .ok request ∧ request.url.path = p := by
    cases d with
    | error f => cases shown
    | ok request => exact ⟨request, rfl, Option.some.inj shown⟩
  obtain ⟨request, built, made⟩ := path (scannerDraft sampleConfig "scanner" sampleScanner)
    "/v1.43/containers/create" (by decide +kernel)
  refine ⟨⟨request, built, ?_⟩, path _ _ (by decide +kernel)⟩
  rw [made]
  decide

/-- The pull of the sample image. -/
def samplePull : Task := .pull sampleScanner.image

/-- A pull that has not sent its request yet. -/
def pulling : Background where
  tasks := ⟨[(samplePull, .running)]⟩
  waiting := [⟨0, samplePull, .send (Task.pullRequest sampleConfig sampleScanner.image)⟩]

/-- A pull whose request has come to nothing. -/
def hearing : Background where
  tasks := ⟨[(samplePull, .running)]⟩
  waiting := [⟨0, samplePull, .hear (.error connectionLost)⟩]

def pullFailure : Failure := .unreachable Task.pulling connectionLost.message false

/-- A pull that has failed. -/
def pullLost : Background where
  tasks := ⟨[(samplePull, .failed pullFailure)]⟩

private theorem start_pulling : ({} : Background).start samplePull
    (Task.pullRequest sampleConfig sampleScanner.image) 0 = pulling := rfl

private theorem start_pullLost : pullLost.start samplePull
    (Task.pullRequest sampleConfig sampleScanner.image) 0 = pulling := rfl

private theorem drifts_pullLost :
    emptyEngine.Drifts ⟨(), pulling⟩ [(samplePull, .error connectionLost)] ⟨(), pullLost⟩ := by
  obtain ⟨request, built, path⟩ := sampleScanner_drafts.2
  have served : emptyEngine.serves () request (.error connectionLost) () := by simp [emptyEngine, path]
  have only : pulling.waiting.Perm (⟨0, samplePull, .send (.ok request)⟩ :: []) := by simp [pulling, built]
  have sends : emptyEngine.Goes ⟨(), pulling⟩ [] ⟨(), hearing⟩ :=
    @Peer.Goes.send _ _ ⟨(), pulling⟩ _ [] _ _ _ 0 only rfl served
  have hears : emptyEngine.Goes ⟨(), hearing⟩ [(samplePull, .error connectionLost)] ⟨(), pullLost⟩ :=
    @Peer.Goes.hear _ _ ⟨(), hearing⟩ _ [] _ (List.Perm.refl hearing.waiting) rfl
  exact .go sends (.go hears (.rest _))

/-- A creation of the sample scanner that sees no failure of the pull, and what is left of it. -/
theorem exists_run {lets : Call → Prop} {s : Chronicle Unit} {b : Background} {ends : List Ending}
    (other : ∀ f, s.site.background.tasks.get? samplePull ≠ some (.failed f))
    (drifts : emptyEngine.Drifts s.site ends ⟨(), b⟩) (held : lets (.task samplePull) ∨ ends = []) :
    ∃ es u before, emptyEngine.Runs lets sampleConfig (.create "scanner" (.scanner sampleScanner)) s es
        (some (.error (underWay sampleScanner.image))) u ∧ FindsNoImage es ∧
      u.site = ⟨(), b.start samplePull (Task.pullRequest sampleConfig sampleScanner.image) 0⟩ ∧
      u.moments = before ++ ends.map .ended ++ [.asked (.create "scanner" (.scanner sampleScanner)) b
        ⟨.start samplePull (Task.pullRequest sampleConfig sampleScanner.image), ()⟩] := by
  obtain ⟨request, built, path⟩ := sampleScanner_drafts.1
  have served : emptyEngine.serves () request (.ok unknownImage) () := by simp [emptyEngine, path]
  have trace := trace_createScanner_start built (show unknownImage.status = 404 from rfl) other
  let during : ClientCall := .create "scanner" (.scanner sampleScanner)
  let start : Call := .start samplePull (Task.pullRequest sampleConfig sampleScanner.image)
  let made : Chronicle Unit :=
    ⟨s.moments ++ [.asked during s.site.background ⟨.exchange request, .ok unknownImage⟩], s.site⟩
  let looked : Chronicle Unit := ⟨made.moments ++ .asked during s.site.background
    ⟨.task samplePull, s.site.background.tasks.get? samplePull⟩ :: ends.map .ended, ⟨(), b⟩⟩
  let last : Chronicle Unit := ⟨looked.moments ++ [.asked during b ⟨start, ()⟩],
    ⟨(), b.start samplePull (Task.pullRequest sampleConfig sampleScanner.image) 0⟩⟩
  have makes : emptyEngine.Records lets during s (.exchange request) (.ok unknownImage) made :=
    ⟨s.site, [], .exchange served, .rest _, .inr rfl, rfl⟩
  have looks : emptyEngine.Records lets during made (.task samplePull)
      (s.site.background.tasks.get? samplePull) looked := ⟨s.site, ends, .task _ _, drifts, held, rfl⟩
  have starts : emptyEngine.Records lets during looked start () last :=
    ⟨last.site, [], .start _ _ _ 0, .rest _, .inr rfl, rfl⟩
  refine ⟨_, last, made.moments ++ [.asked during s.site.background
    ⟨.task samplePull, s.site.background.tasks.get? samplePull⟩], ⟨trace, ?_⟩, ?_, rfl, ?_⟩
  · exact .cons makes (.cons looks (.cons starts (.nil _)))
  · exact ⟨request, unknownImage, _, rfl, rfl⟩
  · simp [last, looked, start, during]

/-- How a pull has failed since anybody looked at it is what the next creation that misses its image ends
in. -/
def ReportsPulls {E : Type} (peer : Peer E) (lets : Call → Prop) (c : Config) (e : E) : Prop :=
  ∀ s, peer.Course lets c ⟨[], ⟨e, {}⟩⟩ s → ∀ name spec f, Unheard s.moments (.pull spec.image) f →
    ∀ es r u, peer.Runs lets c (.create name (.scanner spec)) s es (some r) u → FindsNoImage es → r = .error f

/-- Where tasks may end at any question, a pull may fail after a creation has looked at it and before that
creation starts it, and how it failed is lost: the next creation that misses the image does not end in it. -/
theorem not_reportsPulls : ¬ ReportsPulls emptyEngine (fun _ => True) sampleConfig () := by
  intro reports
  obtain ⟨es₁, s₁, _, first, -, site₁, -⟩ := @exists_run (fun _ => True) ⟨[], ⟨(), {}⟩⟩ {} []
    (by simp [Registry.get?_empty]) (.rest _) (.inr rfl)
  rw [start_pulling] at site₁
  have running : pulling.tasks.get? samplePull = some .running := by decide +kernel
  obtain ⟨es₂, s₂, before, second, -, site₂, noted⟩ := @exists_run (fun _ => True) s₁ _ _
    (by simp [site₁, running]) (site₁ ▸ drifts_pullLost) (.inl trivial)
  rw [start_pullLost] at site₂
  obtain ⟨es₃, s₃, _, third, missing, -⟩ := @exists_run (fun _ => True) s₂ pulling []
    (by simp [site₂, running]) (site₂ ▸ .rest _) (.inr rfl)
  have course := Peer.Course.call (.call (.rest _) first) second
  have unheard : Unheard s₂.moments samplePull pullFailure := by
    rw [List.append_assoc] at noted
    refine ⟨before, .error connectionLost, _, noted, rfl, ?_⟩
    simp [Moment.Asks, Call.looksAt]
  have told := reports s₂ course "scanner" sampleScanner _ unheard es₃ _ s₃ third missing
  cases told

end ScanProvisioning.Docker
