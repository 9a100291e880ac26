import ScanProvisioning.CommandLine
import ScanProvisioning.Proofs.Drive.Allowance

namespace ScanProvisioning.Drive

/-- The number of the attempt with which an operation ended. -/
def attemptsOf : Except Failed Success → Nat
  | .ok success => success.attempts
  | .error (.fatal _ _ attempts _) => attempts
  | .error (.exhausted _ _ attempts _ _) => attempts

/-- An operation to be driven in some surroundings. -/
structure Undertaking (σ : Type) where
  setting : Setting σ
  policy : RetryPolicy
  phase : Phase
  scanId : String
  opening : σ

namespace Undertaking

variable {σ : Type} (u : Undertaking σ)

def start : Instant := u.setting.now u.opening

def run {α : Type} (p : Program driving α) (s : σ) : Ending α × σ :=
  Drive.run u.setting u.policy u.phase u.start p s

def driven : Ending (Except Failed Success) × σ :=
  u.run (operation u.policy u.phase u.scanId) u.opening

def call (s : σ) : Ending (Except Setback Unit) × σ := invoke u.setting u.policy u.phase s

/-- The surroundings once the delay has been waited that a call suggests. -/
def resumed : Ending (Except Setback Unit) × σ → σ
  | (.value (.error (.retry delay _)), s) =>
    u.setting.sleepUntil (Instant.endOfWait (u.setting.now s) delay) s
  | (_, s) => s

/-- The surroundings as the call at an index is made. -/
def begun : Nat → σ
  | 0 => u.opening
  | i + 1 => u.resumed (u.call (begun i))

def outcome (i : Nat) : Ending (Except Setback Unit) := (u.call (u.begun i)).1

/-- The surroundings as that call is over. -/
def after (i : Nat) : σ := (u.call (u.begun i)).2

def elapsed (i : Nat) : Duration := .ofNanos (u.setting.now (u.after i) - u.start)

/-- The call at an index suggests a delay, and there is an attempt left for another call after it. -/
def Suggests (i : Nat) (delay : Duration) : Prop :=
  (∃ reason, u.outcome i = .value (.error (.retry delay reason))) ∧ i + 1 < u.policy.maxAttempts.toNat

/-- Another call follows: a delay is suggested, and it is over before the time allowed is. -/
def GoesOn (i : Nat) : Prop :=
  ∃ delay, u.Suggests i delay ∧ (u.elapsed i).nanos + delay.nanos ≤ u.policy.maxElapsed.nanos

/-- A delay is suggested that, with the time elapsed, is no span of time. -/
def Overruns (i : Nat) : Prop :=
  ∃ delay, u.Suggests i delay ∧ Duration.limit ≤ (u.elapsed i).nanos + delay.nanos

/-- The call at an index is made. -/
def Reached (i : Nat) : Prop := ∀ j < i, u.GoesOn j

/-- Every call that is made comes to an outcome. -/
def Answered : Prop := ∀ i, u.Reached i → ∃ result, u.outcome i = .value result

/-- How an operation ends with the call at an index: with a result, unless a sum leaves the range of spans. -/
structure ComesTo (n : Nat) (ending : Ending (Except Failed Success)) : Prop where
  overflow : u.Overruns n → ending = .overflow
  concluded : ¬ u.Overruns n → ∃ result, ending = .value result ∧ attemptsOf result = n + 1

variable {u : Undertaking σ} {i n left : Nat}

private theorem call_begun : u.call (u.begun i) = (u.outcome i, u.after i) := rfl

theorem reached_succ (reached : u.Reached i) (goes : u.GoesOn i) : u.Reached (i + 1) := by
  intro j early
  rcases Nat.lt_succ_iff_lt_or_eq.mp early with early | rfl
  · exact reached j early
  · exact goes

/-- No call is made after the one with which the operation ends. -/
theorem le_of_reached (last : ¬ u.GoesOn n) (reached : u.Reached i) : i ≤ n :=
  Nat.le_of_not_lt fun late => last (reached n late)

/-- A sum that is within the time allowed is a span of time. -/
theorem not_overruns_of_goesOn (goes : u.GoesOn i) : ¬ u.Overruns i := by
  obtain ⟨delay, ⟨⟨reason, came⟩, -⟩, early⟩ := goes
  rintro ⟨other, ⟨⟨reason', came'⟩, -⟩, beyond⟩
  cases came.symm.trans came'
  have inRange := u.policy.maxElapsed.inRange
  omega

section

variable {delay : Duration} {reason : String} (came : u.outcome i = .value (.error (.retry delay reason)))

include came

theorem overruns_iff (more : i + 1 < u.policy.maxAttempts.toNat) :
    u.Overruns i ↔ (u.elapsed i).add? delay = none := by
  rw [Duration.add?_eq_none_iff]
  constructor
  · rintro ⟨other, ⟨⟨reason', came'⟩, -⟩, beyond⟩
    cases came.symm.trans came'
    exact beyond
  · exact fun beyond => ⟨delay, ⟨⟨reason, came⟩, more⟩, beyond⟩

theorem goesOn_iff (more : i + 1 < u.policy.maxAttempts.toNat) {total : Duration}
    (sum : (u.elapsed i).add? delay = some total) : u.GoesOn i ↔ ¬ u.policy.maxElapsed < total := by
  have nanos : total.nanos = (u.elapsed i).nanos + delay.nanos := by
    rw [Duration.add?, Duration.ofNanos?] at sum
    split at sum
    · cases sum
      rfl
    · cases sum
  have early : ¬ u.policy.maxElapsed < total ↔
      (u.elapsed i).nanos + delay.nanos ≤ u.policy.maxElapsed.nanos := by
    rw [← nanos]
    exact Nat.not_lt
  rw [early]
  constructor
  · rintro ⟨other, ⟨⟨reason', came'⟩, -⟩, within⟩
    cases came.symm.trans came'
    exact within
  · exact fun within => ⟨delay, ⟨⟨reason, came⟩, more⟩, within⟩

/-- A delay that is waited leads to the next call. -/
theorem begun_succ : u.begun (i + 1) =
    u.setting.sleepUntil (Instant.endOfWait (u.setting.now (u.after i)) delay) (u.after i) := by
  have called : u.call (u.begun i) = (.value (.error (.retry delay reason)), u.after i) := by
    rw [call_begun, came]
  rw [begun, called]
  rfl

end

theorem stops_of_not_suggests (silent : ∀ delay, ¬ u.Suggests i delay) : ¬ u.GoesOn i ∧ ¬ u.Overruns i :=
  ⟨fun ⟨delay, suggested, _⟩ => silent delay suggested, fun ⟨delay, suggested, _⟩ => silent delay suggested⟩

theorem comesTo_of_not_overruns {result : Except Failed Success} (fits : ¬ u.Overruns i)
    (attempts : attemptsOf result = i + 1) : u.ComesTo i (.value result) :=
  ⟨fun overruns => absurd overruns fits, fun _ => ⟨result, rfl, attempts⟩⟩

/-- The call at an index ends the operation, or its delay is waited and the next one is made. -/
theorem run_turn (answered : u.Answered) (reached : u.Reached i)
    (allowed : i + 1 + left = max 1 u.policy.maxAttempts.toNat) :
    ¬ u.GoesOn i ∧ u.ComesTo i (u.run (loop u.policy u.phase u.scanId (i + 1) left) (u.begun i)).1 ∨
    u.GoesOn i ∧ ∃ less, left = less + 1 ∧
      u.run (loop u.policy u.phase u.scanId (i + 1) left) (u.begun i) =
        u.run (loop u.policy u.phase u.scanId (i + 2) less) (u.begun (i + 1)) := by
  obtain ⟨result, came⟩ := answered i reached
  have called : u.call (u.begun i) = (.value result, u.after i) := by rw [call_begun, came]
  cases result with
  | ok =>
    left
    have ⟨stops, fits⟩ : ¬ u.GoesOn i ∧ ¬ u.Overruns i := by
      refine stops_of_not_suggests ?_
      rintro delay ⟨⟨reason, retry⟩, -⟩
      cases came.symm.trans retry
    rw [run, loop_ok called]
    exact ⟨stops, comesTo_of_not_overruns fits rfl⟩
  | error setback =>
    cases setback with
    | fatal reason =>
      left
      have ⟨stops, fits⟩ : ¬ u.GoesOn i ∧ ¬ u.Overruns i := by
        refine stops_of_not_suggests ?_
        rintro delay ⟨⟨reason', retry⟩, -⟩
        cases came.symm.trans retry
      rw [run, loop_fatal called]
      exact ⟨stops, comesTo_of_not_overruns fits rfl⟩
    | retry delay reason =>
      cases left with
      | zero =>
        left
        have ⟨stops, fits⟩ : ¬ u.GoesOn i ∧ ¬ u.Overruns i := by
          refine stops_of_not_suggests ?_
          rintro delay ⟨-, more⟩
          omega
        rw [run, loop_last called]
        exact ⟨stops, comesTo_of_not_overruns fits rfl⟩
      | succ less =>
        have more : i + 1 < u.policy.maxAttempts.toNat := by omega
        cases sum : (u.elapsed i).add? delay with
        | none =>
          left
          have overruns : u.Overruns i := (overruns_iff came more).mpr sum
          rw [run, loop_overflow called sum]
          exact ⟨fun goes => not_overruns_of_goesOn goes overruns, fun _ => rfl, absurd overruns⟩
        | some total =>
          by_cases spent : u.policy.maxElapsed < total
          · left
            have fits : ¬ u.Overruns i := by
              rw [overruns_iff came more, sum]
              exact Option.some_ne_none total
            rw [run, loop_spent called sum spent]
            exact ⟨fun goes => (goesOn_iff came more sum).mp goes spent, comesTo_of_not_overruns fits rfl⟩
          · right
            refine ⟨(goesOn_iff came more sum).mpr spent, less, rfl, ?_⟩
            rw [run, loop_next called sum spent, begun_succ came]
            rfl

/-- The loop from the call at an index on ends with the first call that no other follows. -/
theorem run_loop (answered : u.Answered) (reached : u.Reached i)
    (allowed : i + 1 + left = max 1 u.policy.maxAttempts.toNat) :
    ∃ n, n ≤ i + left ∧ u.Reached n ∧ ¬ u.GoesOn n ∧
      u.ComesTo n (u.run (loop u.policy u.phase u.scanId (i + 1) left) (u.begun i)).1 := by
  induction left generalizing i with
  | zero =>
    obtain ⟨stops, ended⟩ | ⟨-, less, impossible, -⟩ := run_turn answered reached allowed
    · exact ⟨i, Nat.le_refl _, reached, stops, ended⟩
    · cases impossible
  | succ left ih =>
    obtain ⟨stops, ended⟩ | ⟨goes, less, same, onward⟩ := run_turn answered reached allowed
    · exact ⟨i, Nat.le_add_right _ _, reached, stops, ended⟩
    · cases same
      rw [onward]
      obtain ⟨n, within, rest⟩ := ih (reached_succ reached goes) (by omega)
      exact ⟨n, by omega, rest⟩

/-- An operation whose calls all come to an outcome ends with the first call that no other follows. -/
theorem exists_comesTo (answered : u.Answered) :
    ∃ n, n + 1 ≤ max 1 u.policy.maxAttempts.toNat ∧ u.Reached n ∧ ¬ u.GoesOn n ∧ u.ComesTo n u.driven.1 := by
  have first : u.Reached 0 := nofun
  have allowed : 0 + 1 + (u.policy.maxAttempts.toNat - 1) = max 1 u.policy.maxAttempts.toNat := by omega
  obtain ⟨n, within, rest⟩ := run_loop answered first allowed
  exact ⟨n, by omega, rest⟩

/-- An operation succeeds, fails for good or is given up exactly where no call that is made suggests a delay
that is no span of time together with the time elapsed. The number of its attempts is a word of 32 bits, and so
is the number of every call that is made. -/
theorem concludes_iff (answered : u.Answered) :
    ((∃ result, u.driven.1 = .value result) ↔ ∀ i, u.Reached i → ¬ u.Overruns i) ∧
    (∀ i, u.Reached i → i + 1 < UInt32.size) ∧
    ∀ result, u.driven.1 = .value result → attemptsOf result < UInt32.size := by
  obtain ⟨n, attempts, reached, stops, ended⟩ := exists_comesTo answered
  have word : n + 1 < UInt32.size := by
    have bound := u.policy.maxAttempts.toNat_lt
    unfold UInt32.size
    omega
  refine ⟨⟨?_, ?_⟩, ?_, ?_⟩
  · rintro ⟨result, concluded⟩ i early overruns
    have later : i ≤ n := le_of_reached stops early
    obtain rfl : i = n :=
      Nat.le_antisymm later (Nat.le_of_not_lt fun sooner => not_overruns_of_goesOn (reached i sooner) overruns)
    cases (ended.overflow overruns).symm.trans concluded
  · intro fits
    obtain ⟨result, concluded, -⟩ := ended.concluded (fits n reached)
    exact ⟨result, concluded⟩
  · intro i early
    have later : i ≤ n := le_of_reached stops early
    omega
  · intro result concluded
    by_cases overruns : u.Overruns n
    · cases (ended.overflow overruns).symm.trans concluded
    · obtain ⟨result', concluded', count⟩ := ended.concluded overruns
      cases concluded.symm.trans concluded'
      omega

end Undertaking

end ScanProvisioning.Drive

namespace ScanProvisioning.Rehearsal

namespace Schedule

open Drive (Undertaking attemptsOf)

def undertaking (s : Schedule) : Undertaking Operation where
  setting := Operation.setting
  policy := s.policy
  phase := s.phase
  scanId := s.scanId
  opening := { now := s.origin, script := s.script }

variable (s : Schedule)

/-- A scripted call is over in time, or it is cut off. -/
theorem answered_undertaking : s.undertaking.Answered := by
  intro i _
  have called (deadline : Instant) (o : Operation) :
      (∃ result, (Operation.call deadline o).1 = .value result) ∨ (Operation.call deadline o).1 = .cut := by
    rw [Operation.call]
    dsimp only
    split
    all_goals split
    · exact .inl ⟨_, rfl⟩
    · exact .inr rfl
    · exact .inl ⟨_, rfl⟩
    · exact .inr rfl
  have invoked (o : Operation) :
      ∃ result, (Drive.invoke Operation.setting s.policy s.phase o).1 = .value result := by
    rw [Drive.invoke]
    split
    · exact ⟨_, rfl⟩
    · next other =>
      obtain value | cut := called (Instant.endOfWait (Operation.setting.now o) s.policy.callTimeout) o
      · exact value
      · exact (other _ (Prod.ext cut rfl)).elim
  exact invoked _

/-- A driven operation ends in success, in failure or by giving up exactly where no call that is made suggests
a delay that is no span of time together with the time elapsed. The number of its attempts, and of every call
that is made, is a word of 32 bits. -/
theorem driven_concludes_iff :
    ((∃ result, s.driven.1 = .value result) ↔ ∀ i, s.undertaking.Reached i → ¬ s.undertaking.Overruns i) ∧
    (∀ i, s.undertaking.Reached i → i + 1 < UInt32.size) ∧
    ∀ result, s.driven.1 = .value result → attemptsOf result < UInt32.size :=
  s.undertaking.concludes_iff (answered_undertaking s)

/-- A call that hangs, under a policy that waits as long as can be said after a missed deadline. -/
def overdue : Schedule where
  policy := { RetryPolicy.standard with timeoutDelay := .ofSeconds 18446744073709551615 }
  phase := .run
  scanId := "scan-0001"
  script := [{ takes := some (.ofSeconds 200), result := .ok () }]

/-- The policy can be asked for on the command line, and the operation comes to no result under it. -/
theorem overdue_not_concluded :
    (CommandLine.parse (fun _ => none)
      ["--timeout-delay", "18446744073709551615", "run", "--job", "job.json"]).toOption.map (·.policy) =
        some overdue.policy ∧
    ¬ ∃ result, overdue.driven.1 = .value result := by
  have overruns : overdue.undertaking.Overruns 0 :=
    ⟨.ofSeconds 18446744073709551615, ⟨⟨_, rfl⟩, by decide +kernel⟩, by decide +kernel⟩
  refine ⟨by decide +kernel, fun concluded => ?_⟩
  exact (overdue.undertaking.concludes_iff overdue.answered_undertaking).1.mp concluded 0 nofun overruns

end Schedule

end ScanProvisioning.Rehearsal
