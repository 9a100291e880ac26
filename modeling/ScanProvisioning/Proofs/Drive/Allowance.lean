import ScanProvisioning.Proofs.Drive.Itinerary

namespace ScanProvisioning

/-- A policy allows no less than another one, and cuts off and waits like it. -/
structure RetryPolicy.Exceeds (larger policy : RetryPolicy) : Prop where
  maxAttempts : policy.maxAttempts ≤ larger.maxAttempts
  maxElapsed : policy.maxElapsed ≤ larger.maxElapsed
  callTimeout : larger.callTimeout = policy.callTimeout
  timeoutDelay : larger.timeoutDelay = policy.timeoutDelay

namespace Drive

/-- An operation has ended for a reason of its own: it has succeeded or failed for good. -/
def Settled : Ending (Except Failed Success) → Prop
  | .value (.ok _) => True
  | .value (.error (.fatal ..)) => True
  | _ => False

instance (ending : Ending (Except Failed Success)) : Decidable (Settled ending) :=
  match ending with
  | .value (.ok _) => .isTrue trivial
  | .value (.error (.fatal ..)) => .isTrue trivial
  | .value (.error (.exhausted ..)) => .isFalse id
  | .cut | .overflow | .unending => .isFalse id

variable {σ : Type} {w : Setting σ} {policy larger : RetryPolicy} {phase : Phase} {scanId : String}
  {start : Instant} {attempt left : Nat} {s s' : σ} {reason : String}

theorem loop_fatal (called : invoke w policy phase s = (.value (.error (.fatal reason)), s')) :
    run w policy phase start (loop policy phase scanId attempt left) s =
      (.value (.error (.fatal phase scanId attempt reason)), s') := by
  rw [loop, run, called]
  rfl

/-- A retry on which a sum is formed that leaves the range of spans. -/
theorem loop_overflow {delay : Duration}
    (called : invoke w policy phase s = (.value (.error (.retry delay reason)), s'))
    (sum : (Duration.ofNanos (w.now s' - start)).add? delay = none) :
    run w policy phase start (loop policy phase scanId attempt (left + 1)) s = (.overflow, s') := by
  rw [loop, run, called]
  simp only [run, sum]

/-- A call that comes to no outcome ends the operation as it ended itself. -/
theorem loop_without {ending : Ending (Except Failed Success)}
    (called : invoke w policy phase s = (.overflow, s') ∧ ending = .overflow ∨
      invoke w policy phase s = (.unending, s') ∧ ending = .unending) :
    run w policy phase start (loop policy phase scanId attempt left) s = (ending, s') := by
  obtain ⟨called, rfl⟩ | ⟨called, rfl⟩ := called <;> rw [loop, run, called]

/-- A call that is cut off has missed its deadline. -/
theorem invoke_ne_cut : (invoke w policy phase s).1 ≠ .cut := by
  rw [invoke]
  split
  · intro cut
    cases cut
  · next other =>
    intro cut
    exact other _ (Prod.ext cut rfl)

/-- What calls and waits leave behind stands in a relation to what was there before. -/
structure Setting.Advances (w : Setting σ) (later : σ → σ → Prop) : Prop where
  refl : ∀ s, later s s
  trans : ∀ {s t u}, later s t → later t u → later s u
  call : ∀ deadline s, later s (w.call deadline s).2
  sleep : ∀ wake s, later s (w.sleepUntil wake s)

section

variable {later : σ → σ → Prop} (advances : w.Advances later)

include advances

theorem invoke_advances : later s (invoke w policy phase s).2 := by
  have called := advances.call (Instant.endOfWait (w.now s) policy.callTimeout) s
  rw [invoke]
  split
  · next s' cut =>
    rw [cut] at called
    exact called
  · exact called

/-- Whatever a program asks in the course of a drive, the surroundings only go forward. -/
theorem run_advances {α : Type} (p : Program driving α) : later s (run w policy phase start p s).2 := by
  induction p generalizing s with
  | done a => exact advances.refl s
  | ask c k ih =>
    cases c with
    | invoke =>
      have called : later s (invoke w policy phase s).2 := invoke_advances advances
      rw [run]
      cases ended : invoke w policy phase s with
      | mk ending s' =>
        rw [ended] at called
        cases ending with
        | value r => exact advances.trans called (ih r)
        | cut | overflow | unending => exact called
    | elapsed => exact ih _
    | sleep d => exact advances.trans (advances.sleep _ s) (ih ())
    | overflow => exact advances.refl s

/-- Whatever follows a call, it comes after it. -/
theorem loop_advances (called : (invoke w policy phase s).2 = s') :
    later s' (run w policy phase start (loop policy phase scanId attempt left) s).2 := by
  rw [loop, run]
  cases ended : invoke w policy phase s with
  | mk ending s'' =>
    rw [ended] at called
    subst called
    cases ending with
    | value r => exact run_advances advances _
    | cut | overflow | unending => exact advances.refl s''

end

section

variable (exceeds : larger.Exceeds policy)

include exceeds

theorem invoke_of_exceeds : invoke w larger phase s = invoke w policy phase s := by
  have missed : deadlineMissed larger phase = deadlineMissed policy phase := by
    rw [deadlineMissed, deadlineMissed, exceeds.callTimeout, exceeds.timeoutDelay]
  rw [invoke, invoke, exceeds.callTimeout, missed]

/-- A call that does not ask to be repeated ends the operation, and no allowance matters. -/
theorem loop_of_settled {more : Nat} (settled : ∀ delay reason s', invoke w policy phase s ≠
      (.value (.error (.retry delay reason)), s')) :
    run w larger phase start (loop larger phase scanId attempt more) s =
      run w policy phase start (loop policy phase scanId attempt left) s := by
  have same : invoke w larger phase s = invoke w policy phase s := invoke_of_exceeds exceeds
  cases called : invoke w policy phase s with
  | mk ending s' =>
    rw [called] at same settled
    cases ending with
    | value outcome =>
      cases outcome with
      | ok =>
        rw [loop_ok called, loop_ok same]
      | error setback =>
        cases setback with
        | retry delay reason => exact absurd rfl (settled delay reason s')
        | fatal reason => rw [loop_fatal called, loop_fatal same]
    | cut => exact absurd (congrArg Prod.fst called) invoke_ne_cut
    | overflow => rw [loop_without (.inl ⟨called, rfl⟩), loop_without (.inl ⟨same, rfl⟩)]
    | unending => rw [loop_without (.inr ⟨called, rfl⟩), loop_without (.inr ⟨same, rfl⟩)]

/-- From one call on, an operation ends alike under both policies, or it is given up under the smaller
allowance, and whatever it comes to under the larger one comes after that. -/
theorem loop_of_exceeds {later : σ → σ → Prop} (advances : w.Advances later) {more : Nat}
    (fewer : left ≤ more) :
    run w larger phase start (loop larger phase scanId attempt more) s =
        run w policy phase start (loop policy phase scanId attempt left) s ∨
      (∃ n elapsed reason, (run w policy phase start (loop policy phase scanId attempt left) s).1 =
        .value (.error (.exhausted phase scanId n elapsed reason))) ∧
      later (run w policy phase start (loop policy phase scanId attempt left) s).2
        (run w larger phase start (loop larger phase scanId attempt more) s).2 := by
  induction left generalizing more attempt s with
  | zero =>
    have same : invoke w larger phase s = invoke w policy phase s := invoke_of_exceeds exceeds
    by_cases retried : ∃ delay reason s', invoke w policy phase s = (.value (.error (.retry delay reason)), s')
    · obtain ⟨delay, reason, s', called⟩ := retried
      right
      rw [loop_last called]
      refine ⟨⟨_, _, _, rfl⟩, loop_advances advances ?_⟩
      rw [same, called]
    · left
      refine loop_of_settled exceeds ?_
      intro delay reason s' called
      exact retried ⟨delay, reason, s', called⟩
  | succ left ih =>
    have same : invoke w larger phase s = invoke w policy phase s := invoke_of_exceeds exceeds
    obtain ⟨more, rfl⟩ : ∃ less, more = less + 1 := Nat.exists_eq_add_one.mpr (by omega)
    by_cases retried : ∃ delay reason s', invoke w policy phase s = (.value (.error (.retry delay reason)), s')
    · obtain ⟨delay, reason, s', called⟩ := retried
      have also : invoke w larger phase s = (.value (.error (.retry delay reason)), s') := same.trans called
      cases sum : (Duration.ofNanos (w.now s' - start)).add? delay with
      | none =>
        left
        rw [loop_overflow called sum, loop_overflow also sum]
      | some total =>
        by_cases spent : policy.maxElapsed < total
        · right
          rw [loop_spent called sum spent]
          refine ⟨⟨_, _, _, rfl⟩, loop_advances advances ?_⟩
          rw [also]
        · -- What is waited under the smaller allowance is waited under the larger one too.
          have early : ¬ larger.maxElapsed < total := by
            have allowed : total.nanos ≤ policy.maxElapsed.nanos := Nat.not_lt.mp spent
            exact Nat.not_lt.mpr (Nat.le_trans allowed exceeds.maxElapsed)
          rw [loop_next called sum spent, loop_next also sum early]
          exact ih (Nat.le_of_succ_le_succ fewer)
    · left
      refine loop_of_settled exceeds ?_
      intro delay reason s' called
      exact retried ⟨delay, reason, s', called⟩

end

end Drive

namespace Rehearsal

private theorem Operation.starts_call (deadline : Instant) (o : Operation) :
    (Operation.call deadline o).2.starts = o.now :: o.starts := by
  rw [Operation.call]
  dsimp only
  split <;> split <;> rfl

/-- The calls that have been made stay the first ones. -/
theorem Operation.advances : Operation.setting.Advances fun before after => before.starts <:+ after.starts where
  refl o := List.suffix_refl o.starts
  trans earlier later := earlier.trans later
  call deadline o := by
    change o.starts <:+ (Operation.call deadline o).2.starts
    rw [Operation.starts_call]
    exact List.suffix_cons _ _
  sleep _ o := List.suffix_refl o.starts

namespace Schedule

/-- The same operation under another policy. -/
def under (s : Schedule) (policy : RetryPolicy) : Schedule := { s with policy }

variable {s : Schedule} {larger : RetryPolicy}

/-- Under a larger allowance an operation makes the calls that it makes under the smaller one, each at its
time, before any others; and where it succeeds or fails for good under the smaller one, it does so after the
same calls and at the same time under the larger one. A script whose last call repeats stands for any answers
by index, as no policy allows for more than 2^32 calls. -/
theorem driven_of_exceeds (exceeds : larger.Exceeds s.policy) :
    s.driven.2.starts.reverse <+: (s.under larger).driven.2.starts.reverse ∧
    (Drive.Settled s.driven.1 → (s.under larger).driven = s.driven) := by
  have fewer : s.policy.maxAttempts.toNat - 1 ≤ larger.maxAttempts.toNat - 1 :=
    Nat.sub_le_sub_right exceeds.maxAttempts 1
  have compared : (s.under larger).driven = s.driven ∨
      (∃ n elapsed reason, s.driven.1 = .value (.error (.exhausted s.phase s.scanId n elapsed reason))) ∧
      s.driven.2.starts <:+ (s.under larger).driven.2.starts :=
    Drive.loop_of_exceeds exceeds Operation.advances fewer
  rcases compared with same | ⟨⟨n, elapsed, reason, exhausted⟩, longer⟩
  · rw [same]
    exact ⟨List.prefix_refl _, fun _ => rfl⟩
  · refine ⟨List.reverse_prefix.mpr longer, ?_⟩
    intro settled
    rw [exhausted] at settled
    exact settled.elim

/-- A call that is not ready, one that hangs, and one that succeeds. -/
def faltering (maxAttempts : UInt32) : Schedule where
  policy := { RetryPolicy.standard with maxAttempts, maxElapsed := .ofSeconds 200 }
  phase := .run
  scanId := "scan-0001"
  script := [
    { takes := none, result := .error (.retry (.ofSeconds 30) "not ready") },
    { takes := some (.ofSeconds 200), result := .ok () },
    { takes := some (.ofSeconds 10), result := .ok () }]

/-- With two attempts the operation is given up after the call that hangs, with four it succeeds. -/
theorem driven_of_exceeds_faltering :
    RetryPolicy.standard.Exceeds (faltering 2).policy ∧ RetryPolicy.standard.Exceeds (faltering 4).policy ∧
    (faltering 2).driven.2.starts.reverse = [0, 30000000000] ∧
    (faltering 2).driven.2.starts.reverse <+: ((faltering 2).under .standard).driven.2.starts.reverse ∧
    Drive.Settled (faltering 4).driven.1 ∧ ((faltering 4).under .standard).driven = (faltering 4).driven := by
  have shorter : Duration.ofSeconds 200 ≤ RetryPolicy.standard.maxElapsed := by decide
  have exceeds (attempts : UInt32) (fewer : attempts ≤ RetryPolicy.standard.maxAttempts) :
      RetryPolicy.standard.Exceeds (faltering attempts).policy := ⟨fewer, shorter, rfl, rfl⟩
  have two := exceeds 2 (by decide)
  have four := exceeds 4 (by decide)
  have settled : Drive.Settled (faltering 4).driven.1 := by decide +kernel
  exact ⟨two, four, by decide +kernel, (driven_of_exceeds two).1, settled, (driven_of_exceeds four).2 settled⟩

end Schedule

end Rehearsal

end ScanProvisioning
