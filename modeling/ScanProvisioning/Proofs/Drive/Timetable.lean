import ScanProvisioning.Rehearsal.Script

namespace ScanProvisioning.Rehearsal

/-- When a call that begins at an instant would be through. -/
def ScriptedCall.finish (e : ScriptedCall) (start : Nat) : Nat :=
  match e.takes with
  | none => start
  | some d => Instant.endOfWait start d

/-- How long a call takes that begins at an instant, where nothing cuts it off. -/
def ScriptedCall.lasts (e : ScriptedCall) (start : Nat) : Nat := e.finish start - start

/-- An operation to be driven through scripted calls, beginning at an instant. -/
structure Schedule where
  policy : RetryPolicy
  phase : Phase
  scanId : String
  script : List ScriptedCall
  origin : Nat := 0

namespace Schedule

variable (s : Schedule)

/-- The call at an index; the last one repeats. -/
def entry (i : Nat) : ScriptedCall :=
  (s.script[min i (s.script.length - 1)]?).getD { takes := none, result := .ok () }

/-- The delay that an outcome suggests. -/
def delayAfter : Except Setback Unit → Nat
  | .error (.retry delay _) => delay.nanos
  | _ => 0

/-- What a call comes to that takes some time, its deadline included. -/
def comesTo (e : ScriptedCall) (time : Nat) : Except Setback Unit :=
  if s.policy.callTimeout.nanos < time then .error (Drive.deadlineMissed s.policy s.phase) else e.result

/-- When the call at an index starts: once the call before is over and its delay has been waited. -/
def startOf : Nat → Nat
  | 0 => s.origin
  | i + 1 =>
    let time := (s.entry i).lasts (startOf i)
    startOf i + min time s.policy.callTimeout.nanos + delayAfter (s.comesTo (s.entry i) time)

/-- How long the call at an index takes. -/
def time (i : Nat) : Nat := (s.entry i).lasts (s.startOf i)

def outcome (i : Nat) : Except Setback Unit := s.comesTo (s.entry i) (s.time i)

def endOf (i : Nat) : Nat := s.startOf i + min (s.time i) s.policy.callTimeout.nanos

def elapsed (i : Nat) : Nat := s.endOf i - s.origin

/-- Another call follows: the outcome suggests one, and neither attempts nor time are used up. -/
def GoesOn (i : Nat) : Prop :=
  ∃ delay reason, s.outcome i = .error (.retry delay reason) ∧ i + 1 < s.policy.maxAttempts.toNat ∧
    s.elapsed i + delay.nanos ≤ s.policy.maxElapsed.nanos

def Reached (i : Nat) : Prop := ∀ j < i, s.GoesOn j

/-- No sum of spans that is formed leaves their range. -/
def SumsFit : Prop :=
  ∀ i, s.Reached i → ∀ delay reason, s.outcome i = .error (.retry delay reason) →
    i + 1 < s.policy.maxAttempts.toNat → s.elapsed i + delay.nanos < Duration.limit

/-- No wait that is begun, for a deadline or for a delay, reaches past the last instant of the clock. -/
def WaitsFit : Prop :=
  ∀ i, s.Reached i → Instant.after? (s.startOf i) s.policy.callTimeout ≠ none ∧
    ∀ delay reason, s.outcome i = .error (.retry delay reason) → s.GoesOn i →
      Instant.after? (s.endOf i) delay ≠ none

/-- What an operation comes to that ends with the call at an index. -/
def conclusion (n : Nat) (elapsed : Duration) : Except Drive.Failed Drive.Success :=
  match s.outcome n with
  | .ok () => .ok { phase := s.phase, attempts := n + 1, elapsed }
  | .error (.fatal reason) => .error (.fatal s.phase s.scanId (n + 1) reason)
  | .error (.retry _ reason) => .error (.exhausted s.phase s.scanId (n + 1) elapsed reason)

def run {α : Type} (p : Program Drive.driving α) (o : Operation) : Ending α × Operation :=
  Drive.run Operation.setting s.policy s.phase s.origin p o

/-- The operation driven to its end. -/
def driven : Ending (Except Drive.Failed Drive.Success) × Operation :=
  s.run (Drive.operation s.policy s.phase s.scanId) { now := s.origin, script := s.script }

/-- The operation ends with the call at an index, and all its calls start when they should. -/
structure EndsWith (n : Nat) : Prop where
  attempts : n + 1 ≤ max 1 s.policy.maxAttempts.toNat
  before : ∀ i < n, s.GoesOn i
  last : ¬ s.GoesOn n
  starts : s.driven.2.starts.reverse = (List.range (n + 1)).map s.startOf
  timely : ∀ i ≤ n, s.startOf i ≤ s.origin + s.policy.maxElapsed.nanos
  finish : s.driven.2.now = s.endOf n
  bounded : s.endOf n ≤ s.origin + s.policy.maxElapsed.nanos + s.policy.callTimeout.nanos
  concluded : ∃ elapsed, elapsed.nanos = s.elapsed n ∧ s.driven.1 = .value (s.conclusion n elapsed)

variable {s : Schedule} {i n : Nat}

theorem startOf_succ : s.startOf (i + 1) = s.endOf i + delayAfter (s.outcome i) := rfl

private theorem origin_le_startOf (i : Nat) : s.origin ≤ s.startOf i := by
  induction i with
  | zero => exact Nat.le_refl _
  | succ i ih =>
    rw [startOf_succ, endOf]
    omega

private theorem origin_le_endOf (i : Nat) : s.origin ≤ s.endOf i :=
  Nat.le_trans (origin_le_startOf i) (Nat.le_add_right _ _)

private theorem startOf_le (reached : s.Reached i) :
    s.startOf i ≤ s.origin + s.policy.maxElapsed.nanos := by
  cases i with
  | zero => exact Nat.le_add_right _ _
  | succ i =>
    obtain ⟨delay, reason, retry, -, early⟩ := reached i (Nat.lt_succ_self i)
    have later := origin_le_endOf (s := s) i
    rw [startOf_succ, retry, delayAfter]
    rw [elapsed] at early
    omega

private theorem endOf_le (reached : s.Reached i) :
    s.endOf i ≤ s.origin + s.policy.maxElapsed.nanos + s.policy.callTimeout.nanos :=
  Nat.add_le_add (startOf_le reached) (Nat.min_le_right _ _)

theorem reached_succ (reached : s.Reached i) (goes : s.GoesOn i) : s.Reached (i + 1) := by
  intro j early
  rcases Nat.lt_succ_iff_lt_or_eq.mp early with early | rfl
  · exact reached j early
  · exact goes

theorem endOfWait_of_fits {start : Nat} {d : Duration} (fits : Instant.after? start d ≠ none) :
    Instant.endOfWait start d = start + d.nanos := by
  cases found : Instant.after? start d with
  | none => exact absurd found fits
  | some t =>
    rw [Instant.endOfWait, found]
    rw [Instant.after?] at found
    split at found
    · exact (Option.some.inj found).symm
    · cases found

private theorem inRange_of_fits {start : Nat} {d : Duration} (fits : Instant.after? start d ≠ none) :
    start + d.nanos < Duration.limit := by
  by_cases early : (start + d.nanos) / 1000000000 < 9223372036854775808
  · unfold Duration.limit
    omega
  · exact absurd (if_neg early) fits

theorem ofNanos_nanos {n : Nat} (inRange : n < Duration.limit) : (Duration.ofNanos n).nanos = n := by
  rw [Duration.ofNanos, Duration.ofNanos?, dif_pos inRange]
  rfl

private theorem lasts_finish (e : ScriptedCall) (start : Nat) : e.finish start = start + e.lasts start := by
  have later : start ≤ e.finish start := by
    rw [ScriptedCall.finish]
    split
    · exact Nat.le_refl _
    · rw [Instant.endOfWait, Instant.after?]
      split
      · exact Nat.le_add_right _ _
      · exact Nat.le_add_right _ _
  rw [ScriptedCall.lasts]
  omega

/-- The script from an index on. -/
def remaining (s : Schedule) (i : Nat) : List ScriptedCall := s.script.drop (min i (s.script.length - 1))

private theorem nextEntry_remaining (i : Nat) : nextEntry (s.remaining i) =
    (s.script[min i (s.script.length - 1)]?, s.remaining (i + 1)) := by
  rw [remaining, remaining]
  by_cases empty : s.script = []
  · simp [empty, nextEntry]
  · have some : 0 < s.script.length := List.length_pos_iff.mpr empty
    have inside : min i (s.script.length - 1) < s.script.length := by omega
    rw [List.drop_eq_getElem_cons inside, List.getElem?_eq_getElem inside]
    -- The last call stays where it is, to be taken again.
    by_cases last : s.script.length ≤ i + 1
    · have still : min (i + 1) (s.script.length - 1) = min i (s.script.length - 1) := by omega
      rw [still, List.drop_eq_getElem_cons inside, List.drop_eq_nil_of_le (by omega)]
      rfl
    · have onward : min (i + 1) (s.script.length - 1) = min i (s.script.length - 1) + 1 := by omega
      have more : min i (s.script.length - 1) + 1 < s.script.length := by omega
      rw [onward, List.drop_eq_getElem_cons more]
      rfl

/-- The operation as the call at an index starts. -/
def before (s : Schedule) (i : Nat) : Operation where
  now := s.startOf i
  script := s.remaining i
  starts := ((List.range i).map s.startOf).reverse

/-- The operation as that call is over. -/
def after (s : Schedule) (i : Nat) : Operation where
  now := s.endOf i
  script := s.remaining (i + 1)
  starts := ((List.range (i + 1)).map s.startOf).reverse

private theorem call_at (i : Nat) : Operation.call (s.startOf i + s.policy.callTimeout.nanos) (s.before i) =
    if s.time i ≤ s.policy.callTimeout.nanos then (.value (s.entry i).result, s.after i)
    else (.cut, s.after i) := by
  have recorded : s.startOf i :: ((List.range i).map s.startOf).reverse =
      ((List.range (i + 1)).map s.startOf).reverse := by
    rw [List.range_succ, List.map_append, List.reverse_append]
    rfl
  have finish : (s.entry i).finish (s.startOf i) = s.startOf i + s.time i := lasts_finish _ _
  have called (deadline : Nat) : Operation.call deadline (s.before i) =
      if (s.entry i).finish (s.startOf i) ≤ deadline then
        (.value (s.entry i).result, { s.after i with now := (s.entry i).finish (s.startOf i) })
      else (.cut, { s.after i with now := deadline }) := by
    simp only [Operation.call, before, after, nextEntry_remaining, recorded]
    rfl
  rw [called, finish]
  by_cases inTime : s.time i ≤ s.policy.callTimeout.nanos
  · rw [if_pos inTime, if_pos (Nat.add_le_add_left inTime _), after, endOf, Nat.min_eq_left inTime]
  · rw [if_neg inTime, if_neg (by omega), after, endOf, Nat.min_eq_right (Nat.le_of_not_le inTime)]

private theorem invoke_at (fits : Instant.after? (s.startOf i) s.policy.callTimeout ≠ none) :
    Drive.invoke Operation.setting s.policy s.phase (s.before i) = (.value (s.outcome i), s.after i) := by
  have deadline : Instant.endOfWait (Operation.setting.now (s.before i)) s.policy.callTimeout =
      s.startOf i + s.policy.callTimeout.nanos := endOfWait_of_fits fits
  have calling : Operation.setting.call = Operation.call := rfl
  rw [Drive.invoke, deadline, calling, call_at, outcome, comesTo]
  by_cases inTime : s.time i ≤ s.policy.callTimeout.nanos
  · rw [if_pos inTime, if_neg (Nat.not_lt.mpr inTime)]
  · rw [if_neg inTime, if_pos (Nat.not_le.mp inTime)]

private theorem run_invoke {α : Type} (fits : Instant.after? (s.startOf i) s.policy.callTimeout ≠ none)
    (k : Except Setback Unit → Program Drive.driving α) :
    s.run (.ask .invoke k) (s.before i) = s.run (k (s.outcome i)) (s.after i) := by
  rw [run, Drive.run, invoke_at fits]
  rfl

private theorem run_elapsed {α : Type} (k : Duration → Program Drive.driving α) :
    s.run (.ask .elapsed k) (s.after i) = s.run (k (Duration.ofNanos (s.elapsed i))) (s.after i) := rfl

/-- A delay that is waited leads to the next call. -/
theorem run_sleep {α : Type} {delay : Duration} {reason : String} (k : Unit → Program Drive.driving α)
    (came : s.outcome i = .error (.retry delay reason))
    (fits : Instant.after? (s.endOf i) delay ≠ none) :
    s.run (.ask (.sleep delay) k) (s.after i) = s.run (k ()) (s.before (i + 1)) := by
  have woken : Operation.setting.sleepUntil (Instant.endOfWait (s.endOf i) delay) (s.after i) =
      s.before (i + 1) := by
    rw [endOfWait_of_fits fits, before, startOf_succ, came]
    rfl
  exact congrArg (s.run (k ())) woken

private theorem elapsed_nanos (fits : Instant.after? (s.startOf i) s.policy.callTimeout ≠ none) :
    (Duration.ofNanos (s.elapsed i)).nanos = s.elapsed i := by
  apply ofNanos_nanos
  have inRange := inRange_of_fits fits
  rw [elapsed, endOf]
  omega

theorem add?_of_fits {a b : Duration} (inRange : a.nanos + b.nanos < Duration.limit) :
    a.add? b = some ⟨a.nanos + b.nanos, inRange⟩ := dif_pos inRange

section

variable {left : Nat} (sums : s.SumsFit) (waits : s.WaitsFit) (reached : s.Reached i)

include sums waits reached

/-- The sum that is compared with the time allowed. -/
theorem total_of_retry {delay : Duration} {reason : String}
    (came : s.outcome i = .error (.retry delay reason)) (more : i + 1 < s.policy.maxAttempts.toNat) :
    ∃ total, (Duration.ofNanos (s.elapsed i)).add? delay = some total ∧
      total.nanos = s.elapsed i + delay.nanos := by
  have here := elapsed_nanos (waits i reached).1
  have inRange := sums i reached delay reason came more
  rw [← here] at inRange
  exact ⟨_, add?_of_fits inRange, congrArg (· + delay.nanos) here⟩

/-- A call that is not followed by another ends the loop. -/
theorem run_last (stops : ¬ s.GoesOn i) (allowed : i + 1 + left = max 1 s.policy.maxAttempts.toNat) :
    s.run (Drive.loop s.policy s.phase s.scanId (i + 1) left) (s.before i) =
      (.value (s.conclusion i (Duration.ofNanos (s.elapsed i))), s.after i) := by
  rw [Drive.loop, run_invoke (waits i reached).1, conclusion]
  cases came : s.outcome i with
  | ok => rfl
  | error setback =>
    cases setback with
    | fatal reason => rfl
    | retry delay reason =>
      cases left with
      | zero => rfl
      | succ left =>
        have more : i + 1 < s.policy.maxAttempts.toNat := by omega
        obtain ⟨total, sum, nanos⟩ := total_of_retry sums waits reached came more
        have spent : s.policy.maxElapsed < total := by
          refine Nat.lt_of_not_le fun early => stops ⟨delay, reason, came, more, ?_⟩
          rwa [nanos] at early
        dsimp only
        rw [run_elapsed]
        simp only [sum, if_pos spent]
        rfl

private theorem run_next (goes : s.GoesOn i) :
    s.run (Drive.loop s.policy s.phase s.scanId (i + 1) (left + 1)) (s.before i) =
      s.run (Drive.loop s.policy s.phase s.scanId (i + 2) left) (s.before (i + 1)) := by
  obtain ⟨delay, reason, came, more, early⟩ := id goes
  obtain ⟨fits, delays⟩ := waits i reached
  obtain ⟨total, sum, nanos⟩ := total_of_retry sums waits reached came more
  have under : ¬ s.policy.maxElapsed < total := by
    refine Nat.not_lt.mpr ?_
    rwa [nanos]
  rw [Drive.loop, run_invoke fits, came]
  dsimp only
  rw [run_elapsed]
  simp only [sum, if_neg under]
  exact run_sleep _ came (delays delay reason came goes)

end

/-- The loop from the call at an index on, with some more calls allowed after it. -/
theorem run_loop (sums : s.SumsFit) (waits : s.WaitsFit) (left : Nat) (reached : s.Reached i)
    (allowed : i + 1 + left = max 1 s.policy.maxAttempts.toNat) :
    ∃ n, n ≤ i + left ∧ s.Reached n ∧ ¬ s.GoesOn n ∧
      s.run (Drive.loop s.policy s.phase s.scanId (i + 1) left) (s.before i) =
        (.value (s.conclusion n (Duration.ofNanos (s.elapsed n))), s.after n) := by
  induction left generalizing i with
  | zero =>
    have stops : ¬ s.GoesOn i := by
      rintro ⟨-, -, -, more, -⟩
      omega
    exact ⟨i, Nat.le_refl _, reached, stops, run_last sums waits reached stops allowed⟩
  | succ left ih =>
    by_cases goes : s.GoesOn i
    · obtain ⟨n, late, rest⟩ := ih (reached_succ reached goes) (by omega)
      refine ⟨n, by omega, ?_⟩
      rw [run_next sums waits reached goes]
      exact rest
    · exact ⟨i, Nat.le_add_right _ _, reached, goes, run_last sums waits reached goes allowed⟩

/-- Driving an operation ends with the first call that no other follows, every call having started as soon
as the delay before it was over, and the whole within the time allowed and one deadline. -/
theorem driven_endsWith (sums : s.SumsFit) (waits : s.WaitsFit) : ∃ n, s.EndsWith n := by
  have reached : s.Reached 0 := nofun
  have opening : s.before 0 = { now := s.origin, script := s.script } := by
    rw [before, remaining, Nat.zero_min]
    rfl
  obtain ⟨n, within, reached, stops, ran⟩ :=
    run_loop sums waits (s.policy.maxAttempts.toNat - 1) reached (by omega)
  have ended : s.driven =
      (.value (s.conclusion n (Duration.ofNanos (s.elapsed n))), s.after n) := by
    rw [driven, ← opening]
    exact ran
  have whole : (s.after n).starts.reverse = (List.range (n + 1)).map s.startOf := List.reverse_reverse _
  refine ⟨n, ?_⟩
  constructor
  case attempts => omega
  case before => exact reached
  case last => exact stops
  case starts => rw [ended, whole]
  case timely =>
    intro i early
    exact startOf_le fun j before => reached j (Nat.lt_of_lt_of_le before early)
  case finish => rw [ended]; rfl
  case bounded => exact endOf_le reached
  case concluded => exact ⟨_, elapsed_nanos (waits n reached).1, congrArg Prod.fst ended⟩

theorem le_of_reached (stops : ¬ s.GoesOn n) (reached : s.Reached i) : i ≤ n :=
  Nat.le_of_not_lt fun late => stops (reached n late)

section

/-- A call that is not ready, one that misses its deadline, and one that is over right at it. -/
def hesitant : Schedule where
  policy := .standard
  phase := .run
  scanId := "scan-0001"
  script := [
    { takes := none, result := .error (.retry (.ofSeconds 30) "not ready") },
    { takes := some (.ofSeconds 200), result := .ok () },
    { takes := some (.ofSeconds 120), result := .ok () }]

theorem driven_endsWith_hesitant :
    hesitant.SumsFit ∧ hesitant.WaitsFit ∧ (∃ n, hesitant.EndsWith n) ∧
    hesitant.driven.2.starts.reverse = [0, 30000000000, 180000000000] ∧
    hesitant.driven.2.now = 300000000000 := by
  have first : hesitant.outcome 0 = .error (.retry (.ofSeconds 30) "not ready") := rfl
  have second : hesitant.outcome 1 = .error (Drive.deadlineMissed .standard .run) := rfl
  have third : hesitant.outcome 2 = .ok () := rfl
  have stops : ¬ hesitant.GoesOn 2 := by
    rintro ⟨delay, reason, retry, -⟩
    cases third.symm.trans retry
  have sums : hesitant.SumsFit := by
    intro i reached delay reason came _
    have early := le_of_reached stops reached
    obtain rfl | rfl | rfl : i = 0 ∨ i = 1 ∨ i = 2 := by omega
    · cases first.symm.trans came
      decide +kernel
    · cases second.symm.trans came
      decide +kernel
    · cases third.symm.trans came
  have waits : hesitant.WaitsFit := by
    intro i reached
    have early := le_of_reached stops reached
    obtain rfl | rfl | rfl : i = 0 ∨ i = 1 ∨ i = 2 := by omega
    · refine ⟨by decide +kernel, fun delay reason came _ => ?_⟩
      cases first.symm.trans came
      decide +kernel
    · refine ⟨by decide +kernel, fun delay reason came _ => ?_⟩
      cases second.symm.trans came
      decide +kernel
    · refine ⟨by decide +kernel, fun delay reason came _ => ?_⟩
      cases third.symm.trans came
  exact ⟨sums, waits, driven_endsWith sums waits, by decide +kernel, by decide +kernel⟩

/-- A delay that reaches past the last instant of the clock, though no sum of spans leaves its range. -/
def overlong : Schedule where
  policy := {
    maxAttempts := 2
    maxElapsed := .ofSeconds 9223372036854775808
    callTimeout := .ofSeconds 120
    timeoutDelay := .ofSeconds 30 }
  phase := .run
  scanId := "scan-0001"
  script := [
    { takes := none, result := .error (.retry (.ofSeconds 9223372036854775808) "later") },
    { takes := none, result := .ok () }]

/-- Such a delay is not waited in full: the second call starts after thirty years. -/
theorem overlong_not_endsWith :
    overlong.SumsFit ∧
    overlong.policy.maxElapsed.nanos + overlong.policy.callTimeout.nanos < Duration.limit ∧
    overlong.driven.2.starts.reverse = [0, 946080000000000000] ∧
    ¬ ∃ n, overlong.EndsWith n := by
  have first : overlong.outcome 0 =
      .error (.retry (.ofSeconds 9223372036854775808) "later") := rfl
  have early : overlong.driven.2.starts.reverse = [0, 946080000000000000] := by decide +kernel
  refine ⟨?_, by decide +kernel, early, ?_⟩
  · intro i _ delay reason came more
    have only : i + 1 < 2 := more
    obtain rfl : i = 0 := by omega
    cases first.symm.trans came
    decide +kernel
  · rintro ⟨n, ends⟩
    have starts := early.symm.trans ends.starts
    obtain rfl : n = 1 := by
      have count := congrArg List.length starts
      simp at count
      omega
    have late : overlong.startOf 1 = 9223372036854775808000000000 := by decide +kernel
    simp [List.range_succ, late] at starts

end

end Schedule

end ScanProvisioning.Rehearsal
