import ScanProvisioning.Proofs.Drive.Timetable

namespace ScanProvisioning.Drive

open Rehearsal.Schedule (ofNanos_nanos endOfWait_of_fits add?_of_fits)

/-- The time that it takes to wait delays one after the other. -/
def span : List Duration → Nat
  | [] => 0
  | delay :: delays => delay.nanos + span delays

theorem span_append (first second : List Duration) : span (first ++ second) = span first + span second := by
  induction first with
  | nil => simp [span]
  | cons delay first ih => simp [span, ih, Nat.add_assoc]

theorem span_replicate (n : Nat) (delay : Duration) : span (List.replicate n delay) = n * delay.nanos := by
  induction n with
  | zero => simp [span]
  | succ n ih => simp [List.replicate_succ, span, ih, Nat.succ_mul, Nat.add_comm]

/-- Delays to be waited one after the other, beginning at an instant. -/
structure Itinerary where
  policy : RetryPolicy
  delays : List Duration
  origin : Instant

namespace Itinerary

variable (t : Itinerary)

/-- The time that has been waited before the call at an index. -/
def waited (i : Nat) : Nat := span (t.delays.take i)

/-- Another call follows the one at an index: it suggests a delay, and neither attempts nor time are used
up. -/
def GoesOn (i : Nat) : Prop :=
  ∃ delay, t.delays[i]? = some delay ∧ i + 1 < t.policy.maxAttempts.toNat ∧
    t.waited i + delay.nanos ≤ t.policy.maxElapsed.nanos

def Reached (i : Nat) : Prop := ∀ j < i, t.GoesOn j

/-- No sum of spans that is formed leaves their range. -/
def SumsFit : Prop :=
  ∀ i, t.Reached i → ∀ delay, t.delays[i]? = some delay → i + 1 < t.policy.maxAttempts.toNat →
    t.waited i + delay.nanos < Duration.limit

/-- No delay that is waited reaches past the last instant of the clock. -/
def WaitsFit : Prop :=
  ∀ i, t.Reached i → ∀ delay, t.delays[i]? = some delay → t.GoesOn i →
    Instant.after? (t.origin + t.waited i) delay ≠ none

variable {t : Itinerary} {i : Nat}

theorem waited_succ {delay : Duration} (next : t.delays[i]? = some delay) :
    t.waited (i + 1) = t.waited i + delay.nanos := by
  simp [waited, List.take_add_one, next, span_append, span]

theorem waited_le (i : Nat) : t.waited i ≤ t.waited t.delays.length := by
  have whole : span (t.delays.take i) + span (t.delays.drop i) = span t.delays := by
    rw [← span_append, List.take_append_drop]
  rw [waited, waited, List.take_length]
  omega

theorem reached_succ (reached : t.Reached i) (goes : t.GoesOn i) : t.Reached (i + 1) := by
  intro j early
  rcases Nat.lt_succ_iff_lt_or_eq.mp early with early | rfl
  · exact reached j early
  · exact goes

/-- The time that has been waited is never more than is allowed. -/
theorem waited_of_reached (reached : t.Reached i) : t.waited i ≤ t.policy.maxElapsed.nanos := by
  cases i with
  | zero => exact Nat.zero_le _
  | succ i =>
    obtain ⟨delay, next, -, early⟩ := reached i (Nat.lt_succ_self i)
    rw [waited_succ next]
    exact early

private theorem elapsed_of_reached (reached : t.Reached i) :
    (Duration.ofNanos (t.waited i)).nanos = t.waited i := by
  apply ofNanos_nanos
  have allowed := waited_of_reached reached
  have inRange := t.policy.maxElapsed.inRange
  omega

private theorem length_of_reached (reached : t.Reached i) : i ≤ t.delays.length := by
  cases i with
  | zero => exact Nat.zero_le _
  | succ i =>
    obtain ⟨delay, next, -⟩ := reached i (Nat.lt_succ_self i)
    obtain ⟨inside, -⟩ := List.getElem?_eq_some_iff.mp next
    exact inside

/-- The call after all the delays is made exactly where attempts and time suffice for them together. -/
theorem reached_length_iff : t.Reached t.delays.length ↔
    t.delays.length + 1 ≤ max 1 t.policy.maxAttempts.toNat ∧
      t.waited t.delays.length ≤ t.policy.maxElapsed.nanos := by
  constructor
  · intro reached
    refine ⟨?_, waited_of_reached reached⟩
    cases count : t.delays.length with
    | zero => omega
    | succ i =>
      obtain ⟨delay, -, more, -⟩ := reached i (by omega)
      omega
  · rintro ⟨attempts, time⟩ i inside
    have next : t.delays[i]? = some t.delays[i] := List.getElem?_eq_getElem inside
    have sooner := waited_le (t := t) (i + 1)
    refine ⟨t.delays[i], next, by omega, ?_⟩
    rw [← waited_succ next]
    omega

/-- The sum that is compared with the time allowed. -/
theorem total_of_reached {delay : Duration} (sums : t.SumsFit) (reached : t.Reached i)
    (next : t.delays[i]? = some delay) (more : i + 1 < t.policy.maxAttempts.toNat) :
    ∃ total, (Duration.ofNanos (t.waited i)).add? delay = some total ∧
      total.nanos = t.waited i + delay.nanos := by
  have here : (Duration.ofNanos (t.waited i)).nanos = t.waited i := elapsed_of_reached reached
  have inRange : (Duration.ofNanos (t.waited i)).nanos + delay.nanos < Duration.limit := by
    rw [here]
    exact sums i reached delay next more
  exact ⟨_, add?_of_fits inRange, congrArg (· + delay.nanos) here⟩

/-- Where the delays together are a span of time, no sum leaves the range. -/
theorem sumsFit_of_span (fits : span t.delays < Duration.limit) : t.SumsFit := by
  intro i _ delay next _
  have whole : t.waited t.delays.length = span t.delays := by rw [waited, List.take_length]
  have sooner : t.waited (i + 1) ≤ t.waited t.delays.length := waited_le (i + 1)
  rw [← waited_succ next]
  omega

/-- Where the clock goes on for all the delays together, every one of them is waited in full. -/
theorem waitsFit_of_span (fits : (t.origin + span t.delays) / 1000000000 < 9223372036854775808) :
    t.WaitsFit := by
  intro i _ delay next _
  have whole : t.waited t.delays.length = span t.delays := by rw [waited, List.take_length]
  have sooner : t.waited (i + 1) ≤ t.waited t.delays.length := waited_le (i + 1)
  have inside : (t.origin + t.waited i + delay.nanos) / 1000000000 < 9223372036854775808 := by
    rw [Nat.add_assoc, ← waited_succ next]
    have mono : (t.origin + t.waited (i + 1)) / 1000000000 ≤ (t.origin + span t.delays) / 1000000000 :=
      Nat.div_le_div_right (Nat.add_le_add_left (whole ▸ sooner) _)
    exact Nat.lt_of_le_of_lt mono fits
  rw [Instant.after?, if_pos inside]
  exact Option.some_ne_none _

end Itinerary

section

variable {σ : Type} {w : Setting σ} {policy : RetryPolicy} {phase : Phase} {scanId : String}
  {start : Instant} {attempt left : Nat} {s s' : σ} {delay : Duration} {reason : String}

theorem loop_ok (called : invoke w policy phase s = (.value (.ok ()), s')) :
    run w policy phase start (loop policy phase scanId attempt left) s =
      (.value (.ok { phase, attempts := attempt, elapsed := .ofNanos (w.now s' - start) }), s') := by
  rw [loop, run, called]
  rfl

section

variable (called : invoke w policy phase s = (.value (.error (.retry delay reason)), s'))

include called

/-- A retry on the last attempt. -/
theorem loop_last : run w policy phase start (loop policy phase scanId attempt 0) s =
    (.value (.error (.exhausted phase scanId attempt (.ofNanos (w.now s' - start)) reason)), s') := by
  rw [loop, run, called]
  rfl

variable {total : Duration} (sum : (Duration.ofNanos (w.now s' - start)).add? delay = some total)

include sum

/-- A retry that would cross the time allowed. -/
theorem loop_spent (spent : policy.maxElapsed < total) :
    run w policy phase start (loop policy phase scanId attempt (left + 1)) s =
      (.value (.error (.exhausted phase scanId attempt (.ofNanos (w.now s' - start)) reason)), s') := by
  rw [loop, run, called]
  simp only [run, sum, if_pos spent]

/-- A retry whose delay is waited. -/
theorem loop_next (early : ¬ policy.maxElapsed < total) :
    run w policy phase start (loop policy phase scanId attempt (left + 1)) s =
      run w policy phase start (loop policy phase scanId (attempt + 1) left)
        (w.sleepUntil (Instant.endOfWait (w.now s') delay) s') := by
  rw [loop, run, called]
  simp only [run, sum, if_neg early]

end

end

variable {σ : Type}

/-- Calls that take no time. While an agenda is not empty they suggest its first delay and leave the rest
of it; once it is empty they succeed. -/
structure Follows (w : Setting σ) (policy : RetryPolicy) (phase : Phase) (kept : σ → Prop)
    (agenda : σ → List Duration) : Prop where
  ends : ∀ s, kept s → agenda s = [] →
    ∃ s', invoke w policy phase s = (.value (.ok ()), s') ∧ w.now s' = w.now s
  waits : ∀ s delay rest, kept s → agenda s = delay :: rest → ∃ reason s',
    invoke w policy phase s = (.value (.error (.retry delay reason)), s') ∧ w.now s' = w.now s ∧
    ∀ wake, w.now (w.sleepUntil wake s') = wake ∧ kept (w.sleepUntil wake s') ∧
      agenda (w.sleepUntil wake s') = rest

namespace Itinerary

/-- The surroundings as the call at an index is made: the delays from there on are still ahead. -/
structure Here (t : Itinerary) (w : Setting σ) (kept : σ → Prop) (agenda : σ → List Duration) (i : Nat)
    (s : σ) : Prop where
  kept : kept s
  ahead : agenda s = t.delays.drop i
  time : w.now s = t.origin + t.waited i

/-- An operation ends with the call at an index: it succeeds after the last delay, and gives up before. -/
structure EndsWith (t : Itinerary) (phase : Phase) (scanId : String) (n : Nat)
    (result : Except Failed Success) : Prop where
  last : ¬ t.GoesOn n
  success : n = t.delays.length →
    result = .ok { phase, attempts := n + 1, elapsed := .ofNanos (t.waited n) }
  exhausted : n < t.delays.length → ∃ reason,
    result = .error (.exhausted phase scanId (n + 1) (.ofNanos (t.waited n)) reason)

section

variable {w : Setting σ} {t : Itinerary} {phase : Phase} {scanId : String} {kept : σ → Prop}
  {agenda : σ → List Duration} {i left : Nat} {s : σ}
  (follows : Follows w t.policy phase kept agenda) (sums : t.SumsFit) (waits : t.WaitsFit)
  (reached : t.Reached i) (here : t.Here w kept agenda i s)
  (allowed : i + 1 + left = max 1 t.policy.maxAttempts.toNat)

include follows here

/-- The call after the last delay ends the operation with success. -/
theorem turn_arrived (past : t.delays.length ≤ i) : ∃ result s', t.EndsWith phase scanId i result ∧
    run w t.policy phase t.origin (loop t.policy phase scanId (i + 1) left) s = (.value result, s') := by
  have nothing : agenda s = [] := by rw [here.ahead, List.drop_eq_nil_of_le past]
  obtain ⟨s', called, still⟩ := follows.ends s here.kept nothing
  have spent : w.now s' - t.origin = t.waited i := by rw [still, here.time, Nat.add_sub_cancel_left]
  have ran : run w t.policy phase t.origin (loop t.policy phase scanId (i + 1) left) s =
      (.value (.ok { phase, attempts := i + 1, elapsed := .ofNanos (w.now s' - t.origin) }), s') :=
    loop_ok called
  rw [spent] at ran
  refine ⟨_, s', ⟨?_, fun _ => rfl, fun early => absurd past (Nat.not_le.mpr early)⟩, ran⟩
  rintro ⟨delay, next, -⟩
  rw [List.getElem?_eq_none past] at next
  cases next

include sums waits reached allowed

/-- A call before that gives up, or its delay is waited and the next one is made. -/
theorem turn_delayed (inside : i < t.delays.length) :
    (∃ result s', t.EndsWith phase scanId i result ∧
      run w t.policy phase t.origin (loop t.policy phase scanId (i + 1) left) s = (.value result, s')) ∨
    ∃ less s', left = less + 1 ∧ t.GoesOn i ∧ t.Here w kept agenda (i + 1) s' ∧
      run w t.policy phase t.origin (loop t.policy phase scanId (i + 1) left) s =
        run w t.policy phase t.origin (loop t.policy phase scanId (i + 2) less) s' := by
  have next : t.delays[i]? = some t.delays[i] := List.getElem?_eq_getElem inside
  have ahead : agenda s = t.delays[i] :: t.delays.drop (i + 1) := by
    rw [here.ahead, List.drop_eq_getElem_cons inside]
  obtain ⟨reason, s', called, still, slept⟩ := follows.waits s _ _ here.kept ahead
  have now : w.now s' = t.origin + t.waited i := still.trans here.time
  have spent : w.now s' - t.origin = t.waited i := by rw [now, Nat.add_sub_cancel_left]
  have givesUp (stops : ¬ t.GoesOn i) : t.EndsWith phase scanId i
      (.error (.exhausted phase scanId (i + 1) (.ofNanos (w.now s' - t.origin)) reason)) := by
    rw [spent]
    exact ⟨stops, fun late => absurd late (Nat.ne_of_lt inside), fun _ => ⟨reason, rfl⟩⟩
  cases left with
  | zero =>
    left
    refine ⟨_, s', givesUp ?_, loop_last called⟩
    rintro ⟨delay, -, more, -⟩
    omega
  | succ left =>
    have more : i + 1 < t.policy.maxAttempts.toNat := by omega
    obtain ⟨total, sum, nanos⟩ := total_of_reached sums reached next more
    rw [← spent] at sum
    by_cases early : t.waited i + t.delays[i].nanos ≤ t.policy.maxElapsed.nanos
    · right
      have goes : t.GoesOn i := ⟨_, next, more, early⟩
      have under : ¬ t.policy.maxElapsed < total := by
        refine Nat.not_lt.mpr ?_
        rwa [nanos]
      have onward : run w t.policy phase t.origin (loop t.policy phase scanId (i + 1) (left + 1)) s =
          run w t.policy phase t.origin (loop t.policy phase scanId (i + 2) left)
            (w.sleepUntil (Instant.endOfWait (w.now s') t.delays[i]) s') := loop_next called sum under
      have wake : Instant.endOfWait (w.now s') t.delays[i] = t.origin + t.waited (i + 1) := by
        rw [now, endOfWait_of_fits (waits i reached _ next goes), waited_succ next, Nat.add_assoc]
      rw [wake] at onward
      obtain ⟨time, kept, rest⟩ := slept (t.origin + t.waited (i + 1))
      exact ⟨left, _, rfl, goes, ⟨kept, rest, time⟩, onward⟩
    · left
      have crossed : t.policy.maxElapsed < total := by
        refine Nat.not_le.mp ?_
        rwa [nanos]
      refine ⟨_, s', givesUp ?_, loop_spent called sum crossed⟩
      rintro ⟨delay, same, -, fine⟩
      cases next.symm.trans same
      exact early fine

/-- A call ends the operation, or another one follows. -/
theorem turn :
    (∃ result s', t.EndsWith phase scanId i result ∧
      run w t.policy phase t.origin (loop t.policy phase scanId (i + 1) left) s = (.value result, s')) ∨
    ∃ less s', left = less + 1 ∧ t.GoesOn i ∧ t.Here w kept agenda (i + 1) s' ∧
      run w t.policy phase t.origin (loop t.policy phase scanId (i + 1) left) s =
        run w t.policy phase t.origin (loop t.policy phase scanId (i + 2) less) s' := by
  rcases Nat.lt_or_ge i t.delays.length with inside | past
  · exact turn_delayed follows sums waits reached here allowed inside
  · exact .inl (turn_arrived follows here past)

variable (scanId left)

/-- The loop from the call at an index on, with some more calls allowed after it. -/
theorem run_follows : ∃ n result s', t.Reached n ∧ t.EndsWith phase scanId n result ∧
    run w t.policy phase t.origin (loop t.policy phase scanId (i + 1) left) s = (.value result, s') := by
  induction left generalizing i s with
  | zero =>
    obtain ⟨result, s', ends, ran⟩ | ⟨less, s', impossible, -⟩ := turn follows sums waits reached here allowed
    · exact ⟨i, result, s', reached, ends, ran⟩
    · cases impossible
  | succ left ih =>
    obtain ⟨result, s', ends, ran⟩ | ⟨less, s', same, goes, there, onward⟩ :=
      turn follows sums waits reached here allowed
    · exact ⟨i, result, s', reached, ends, ran⟩
    · cases same
      rw [onward]
      exact ih (reached_succ reached goes) there (by omega)

omit reached here allowed

/-- An operation succeeds exactly where attempts and time suffice for all the delays, and it takes just
these. Otherwise it gives up. -/
theorem operation_follows (opening : t.Here w kept agenda 0 s) : ∃ result s',
    run w t.policy phase t.origin (operation t.policy phase scanId) s = (.value result, s') ∧
    ((∃ success, result = .ok success) ↔ t.delays.length + 1 ≤ max 1 t.policy.maxAttempts.toNat ∧
      t.waited t.delays.length ≤ t.policy.maxElapsed.nanos) ∧
    (∀ success, result = .ok success → success.phase = phase ∧ success.attempts = t.delays.length + 1 ∧
      success.elapsed.nanos = t.waited t.delays.length) ∧
    ∀ failed, result = .error failed → ∃ attempts elapsed reason,
      failed = .exhausted phase scanId attempts elapsed reason := by
  have nothing : t.Reached 0 := fun j early => absurd early (Nat.not_lt_zero j)
  obtain ⟨n, result, s', reached, ends, ran⟩ := run_follows scanId
    (t.policy.maxAttempts.toNat - 1) follows sums waits nothing opening (by omega)
  refine ⟨result, s', ran, ?_⟩
  rw [← reached_length_iff]
  rcases Nat.lt_or_ge n t.delays.length with short | past
  · obtain ⟨reason, rfl⟩ := ends.exhausted short
    have unreached : ¬ t.Reached t.delays.length := fun all => ends.last (all n short)
    refine ⟨⟨?_, fun all => absurd all unreached⟩, ?_, ?_⟩
    · rintro ⟨success, ⟨⟩⟩
    · rintro success ⟨⟩
    · rintro failed ⟨⟩
      exact ⟨_, _, _, rfl⟩
  · obtain rfl : n = t.delays.length := Nat.le_antisymm (length_of_reached reached) past
    have arrived := ends.success rfl
    refine ⟨⟨fun _ => reached, fun _ => ⟨_, arrived⟩⟩, ?_, ?_⟩
    · intro success ok
      cases arrived.symm.trans ok
      exact ⟨rfl, rfl, elapsed_of_reached reached⟩
    · intro failed fails
      cases arrived.symm.trans fails

end

end Itinerary

end ScanProvisioning.Drive
