import ScanProvisioning.CopyProgress
import ScanProvisioning.Proofs.Text.Decimal
import Mathlib.Algebra.Order.Floor.Semiring
import Mathlib.Algebra.Order.Field.Rat
import Mathlib.Data.Rat.Floor

namespace ScanProvisioning

private theorem Duration.ofNanos_of_lt {n : Nat} (fits : n < limit) : ofNanos n = ⟨n, fits⟩ := by
  rw [ofNanos, ofNanos?, dif_pos fits, Option.getD_some]

private theorem Duration.nanos_clamp (d low high : Duration) (order : low ≤ high) :
    (d.clamp low high).nanos = max low.nanos (min high.nanos d.nanos) := by
  change low.nanos ≤ high.nanos at order
  rw [clamp]
  split
  · next less =>
    change d.nanos < low.nanos at less
    omega
  · next some =>
    change ¬ d.nanos < low.nanos at some
    split
    · next more =>
      change high.nanos < d.nanos at more
      omega
    · next within =>
      change ¬ high.nanos < d.nanos at within
      omega

/-- A quotient rounded up. -/
theorem ceil_div_eq (a : Nat) {b : Nat} (positive : 0 < b) : ⌈(a : ℚ) / b⌉₊ = (a + b - 1) / b := by
  refine eq_of_forall_ge_iff fun k => ?_
  have divisor : (0 : ℚ) < b := by exact_mod_cast positive
  have exact : ⌈(a : ℚ) / b⌉₊ ≤ k ↔ a ≤ k * b := by
    rw [Nat.ceil_le, div_le_iff₀ divisor]
    exact_mod_cast Iff.rfl
  have rounded : (a + b - 1) / b ≤ k ↔ a ≤ k * b := by
    rw [← Nat.lt_succ_iff, Nat.div_lt_iff_lt_mul positive, Nat.succ_mul]
    omega
  exact exact.trans rounded.symm

/-- A quotient is rounded up by one exactly where there is a remainder. -/
theorem add_pred_div (a : Nat) {b : Nat} (positive : 0 < b) :
    (a + b - 1) / b = if 0 < a % b then a / b + 1 else a / b := by
  have less : b - 1 < b := Nat.sub_lt positive Nat.one_pos
  rw [Nat.add_sub_assoc positive, Nat.add_div positive, Nat.div_eq_of_lt less, Nat.mod_eq_of_lt less,
    Nat.add_zero]
  by_cases left : 0 < a % b
  · rw [if_pos left, if_pos (by omega)]
  · rw [if_neg left, if_neg (by omega), Nat.add_zero]

namespace CopyProgress

open Text

/-- A sum that stays within 64 bits. -/
def sum? (a b : UInt64) : Option UInt64 := if a.toNat + b.toNat < UInt64.size then some (a + b) else none

/-- Quotient and remainder, unless the divisor is zero. -/
def divided? (a b : UInt64) : Option (UInt64 × UInt64) := if b = 0 then none else some (a / b, a % b)

/-- A quotient rounded up in 64 bits, unless a step of it cannot be done. -/
def roundedUp? (a b : UInt64) : Option UInt64 := do
  let (quotient, remainder) ← divided? a b
  if 0 < remainder then sum? quotient 1 else return quotient

/-- What of the copy is left, none where more was copied than there is. -/
def rest (copied total : UInt64) : UInt64 := if copied ≤ total then total - copied else 0

/-- The estimate as it is formed in 64 bits, unless a step of it cannot be done. -/
def delay? (p : CopyProgress) (throughput : UInt64) (otherwise : Duration) : Option Duration :=
  match p.copied, p.total with
  | some copied, some total =>
    if 0 < total ∧ 0 < throughput then do
      let seconds ← roundedUp? (rest copied total) throughput
      return (Duration.ofSeconds seconds).clamp shortestDelay longestDelay
    else some otherwise
  | _, _ => some otherwise

/-- The counts of a copy whose rest takes a time that can be told. -/
def Tells (p : CopyProgress) (throughput copied total : UInt64) : Prop :=
  p.copied = some copied ∧ p.total = some total ∧ 0 < total ∧ 0 < throughput

/-- Seconds that the rest takes, rounded up, and between 30 and 600. -/
def secondsLeft (copied total throughput : UInt64) : Nat :=
  max 30 (min 600 ⌈max ((total.toNat : ℚ) - copied.toNat) 0 / throughput.toNat⌉₊)

section

variable {p q : CopyProgress} {throughput faster copied total : UInt64} {otherwise : Duration}

private theorem toNat_rest (copied total : UInt64) :
    (rest copied total).toNat = total.toNat - copied.toNat := by
  rw [rest]
  split
  · next less => exact UInt64.toNat_sub_of_le _ _ less
  · next more =>
    rw [UInt64.le_iff_toNat_le] at more
    rw [UInt64.toNat_zero]
    omega

theorem pos_iff {n : UInt64} : 0 < n ↔ 0 < n.toNat := by
  rw [UInt64.lt_iff_toNat_lt, UInt64.toNat_zero]

/-- Rounding up cannot leave 64 bits: where there is a remainder, the divisor is more than one. -/
theorem roundedUp?_eq {a b : UInt64} (positive : 0 < b) :
    ∃ n, roundedUp? a b = some n ∧ n.toNat = (a.toNat + b.toNat - 1) / b.toNat := by
  have divisor : 0 < b.toNat := pos_iff.mp positive
  have nonzero : b ≠ 0 := by
    rintro rfl
    exact absurd divisor (by simp)
  have bound := a.toNat_lt
  have divided : divided? a b = some (a / b, a % b) := by rw [divided?, if_neg nonzero]
  rw [roundedUp?, divided, add_pred_div a.toNat divisor, ← UInt64.toNat_mod]
  dsimp only [Option.bind_eq_bind, Option.bind_some]
  by_cases left : 0 < a % b
  · have several : 2 ≤ b.toNat := by
      have small : a.toNat % b.toNat < b.toNat := Nat.mod_lt _ divisor
      rw [pos_iff, UInt64.toNat_mod] at left
      omega
    have half : a.toNat / b.toNat ≤ a.toNat / 2 := Nat.div_le_div_left several (by decide)
    have fits : (a / b).toNat + (1 : UInt64).toNat < UInt64.size := by
      rw [UInt64.toNat_div, UInt64.toNat_one, UInt64.size]
      omega
    refine ⟨a / b + 1, ?_, ?_⟩
    · rw [if_pos left, sum?, if_pos fits]
    · rw [if_pos (pos_iff.mp left), UInt64.toNat_add, Nat.mod_eq_of_lt fits, UInt64.toNat_div, UInt64.toNat_one]
  · refine ⟨a / b, ?_, ?_⟩
    · rw [if_neg left]
      rfl
    · rw [if_neg (mt pos_iff.mpr left), UInt64.toNat_div]

private theorem delay_of_tells (otherwise : Duration) (tells : p.Tells throughput copied total) : ∃ n : UInt64,
    n.toNat = (total.toNat - copied.toNat + throughput.toNat - 1) / throughput.toNat ∧
    roundedUp? (rest copied total) throughput = some n ∧
    p.delay throughput otherwise = (Duration.ofSeconds n).clamp shortestDelay longestDelay := by
  obtain ⟨known, whole, some, moving⟩ := tells
  obtain ⟨n, rounded, value⟩ := roundedUp?_eq (a := rest copied total) moving
  rw [toNat_rest] at value
  refine ⟨n, value, rounded, ?_⟩
  have bound := n.toNat_lt
  have fits : (total.toNat - copied.toNat + throughput.toNat - 1) / throughput.toNat * 1000000000 <
      Duration.limit := by
    rw [← value, Duration.limit]
    omega
  have same : Duration.ofSeconds n = ⟨_, fits⟩ := Duration.ext (congrArg (· * 1000000000) value)
  rw [delay, known, whole]
  dsimp only
  rw [if_pos ⟨some, moving⟩, Duration.ofNanos_of_lt fits, same]

/-- No step of the estimate overflows or divides by zero. -/
theorem delay?_eq (p : CopyProgress) (throughput : UInt64) (otherwise : Duration) :
    p.delay? throughput otherwise = some (p.delay throughput otherwise) := by
  obtain ⟨status, _ | copied, _ | total⟩ := p
  · rfl
  · rfl
  · rfl
  · by_cases moving : 0 < total ∧ 0 < throughput
    · have tells : Tells ⟨status, some copied, some total⟩ throughput copied total := ⟨rfl, rfl, moving⟩
      obtain ⟨n, -, rounded, same⟩ := delay_of_tells otherwise tells
      rw [same, delay?]
      change (if 0 < total ∧ 0 < throughput then _ else _) = _
      rw [if_pos moving, rounded]
      rfl
    · rw [delay?, delay]
      change (if 0 < total ∧ 0 < throughput then _ else _) = some (if 0 < total ∧ 0 < throughput then _ else _)
      rw [if_neg moving, if_neg moving]

private theorem delay_of_not_tells (untold : ¬ ∃ copied total, p.Tells throughput copied total) :
    p.delay throughput otherwise = otherwise := by
  obtain ⟨status, _ | copied, _ | total⟩ := p
  · rfl
  · rfl
  · rfl
  · have still : ¬ (0 < total ∧ 0 < throughput) := fun moving => untold ⟨copied, total, rfl, rfl, moving⟩
    exact if_neg still

theorem nanos_delay (tells : p.Tells throughput copied total) :
    (p.delay throughput otherwise).nanos = secondsLeft copied total throughput * 1000000000 := by
  obtain ⟨n, value, -, same⟩ := delay_of_tells otherwise tells
  have moving : 0 < throughput.toNat := pos_iff.mp tells.2.2.2
  have left : max ((total.toNat : ℚ) - copied.toNat) 0 = ((total.toNat - copied.toNat : Nat) : ℚ) := by
    rcases Nat.le_total copied.toNat total.toNat with less | more
    · have part : (copied.toNat : ℚ) ≤ total.toNat := by exact_mod_cast less
      rw [Nat.cast_sub less, max_eq_left (sub_nonneg.mpr part)]
    · have whole : (total.toNat : ℚ) ≤ copied.toNat := by exact_mod_cast more
      rw [Nat.sub_eq_zero_of_le more, Nat.cast_zero, max_eq_right (sub_nonpos.mpr whole)]
  have rounded : ⌈max ((total.toNat : ℚ) - copied.toNat) 0 / throughput.toNat⌉₊ = n.toNat := by
    rw [left, ceil_div_eq _ moving, value]
  rw [same, Duration.nanos_clamp _ _ _ (by decide), secondsLeft, rounded]
  change max 30000000000 (min 600000000000 (n.toNat * 1000000000)) = _
  omega

/-- The more is copied, the faster, and the less there is in all, the shorter. -/
theorem secondsLeft_anti {copied' total' : UInt64} (more : copied ≤ copied') (less : total' ≤ total)
    (faster' : throughput ≤ faster) (moving : 0 < throughput) :
    secondsLeft copied' total' faster ≤ secondsLeft copied total throughput := by
  rw [UInt64.le_iff_toNat_le] at more less faster'
  have divisor : (0 : ℚ) < throughput.toNat := by exact_mod_cast pos_iff.mp moving
  have left : max ((total'.toNat : ℚ) - copied'.toNat) 0 ≤ max ((total.toNat : ℚ) - copied.toNat) 0 := by
    have whole : (total'.toNat : ℚ) ≤ total.toNat := by exact_mod_cast less
    have part : (copied.toNat : ℚ) ≤ copied'.toNat := by exact_mod_cast more
    exact max_le_max (sub_le_sub whole part) le_rfl
  have speed : (throughput.toNat : ℚ) ≤ faster.toNat := by exact_mod_cast faster'
  have quotient : max ((total'.toNat : ℚ) - copied'.toNat) 0 / faster.toNat ≤
      max ((total.toNat : ℚ) - copied.toNat) 0 / throughput.toNat :=
    div_le_div₀ (le_max_right _ _) left divisor speed
  exact max_le_max le_rfl (min_le_min le_rfl (Nat.ceil_mono quotient))

end

section

variable {s : String} {a b : UInt64}

/-- Two counts are read exactly where a slash stands between texts of numbers. -/
theorem counts?_eq_some_iff : counts? s = some (a, b) ↔
    ∃ copied total, s = copied ++ "/" ++ total ∧ Spells copied a.toNat ∧ Spells total b.toNat := by
  have slash {t : String} {n : Nat} (spells : Spells t n) : '/' ∉ t.toList :=
    spells.notMem (by decide) (by decide) (by decide)
  constructor
  · intro read
    obtain ⟨⟨copied, total⟩, cut, read⟩ := Option.bind_eq_some_iff.mp read
    obtain ⟨a', first, read⟩ := Option.bind_eq_some_iff.mp read
    obtain ⟨b', second, read⟩ := Option.bind_eq_some_iff.mp read
    cases read
    obtain ⟨chars, -⟩ := splitOnce_eq_some_iff.mp cut
    refine ⟨copied, total, ?_, uint64?_trim_iff.mp first, uint64?_trim_iff.mp second⟩
    apply String.toList_injective
    simp [chars]
  · rintro ⟨copied, total, rfl, first, second⟩
    have cut : splitOnce '/' (copied ++ "/" ++ total) = some (copied, total) := by
      refine splitOnce_eq_some_iff.mpr ⟨?_, slash first⟩
      simp
    refine Option.bind_eq_some_iff.mpr ⟨(copied, total), cut, ?_⟩
    refine Option.bind_eq_some_iff.mpr ⟨a, uint64?_trim_iff.mpr first, ?_⟩
    exact Option.bind_eq_some_iff.mpr ⟨b, uint64?_trim_iff.mpr second, rfl⟩

end

/-- What is read off a report of the progress of a copy. -/
structure Read (status : CopyStatus) (report : Option String) : Prop where
  both : (ofReport status report).copied.isSome = (ofReport status report).total.isSome
  /-- Both counts stand in the report, or it tells neither. -/
  counts : ∀ a b, (ofReport status report).copied = some a ∧ (ofReport status report).total = some b ↔
    ∃ copied total, report = some (copied ++ "/" ++ total) ∧ Spells copied a.toNat ∧ Spells total b.toNat
  /-- The decimal texts of two counts, with any blanks around either. -/
  decimal : ∀ (a b : UInt64) (u v w x : String), (∀ t ∈ [u, v, w, x], ∀ c ∈ t.toList, isBlank c = true) →
    report = some (u ++ toString a.toNat ++ v ++ "/" ++ (w ++ toString b.toNat ++ x)) →
    (ofReport status report).copied = some a ∧ (ofReport status report).total = some b

/-- What the delay before another look at a copy is. -/
structure Estimated (p : CopyProgress) (throughput : UInt64) (otherwise : Duration) : Prop where
  /-- In 64 bits nothing overflows and nothing is divided by zero. -/
  safe : p.delay? throughput otherwise = some (p.delay throughput otherwise)
  told : ∀ copied total, p.Tells throughput copied total →
    (p.delay throughput otherwise).nanos = secondsLeft copied total throughput * 1000000000
  untold : (¬ ∃ copied total, p.Tells throughput copied total) → p.delay throughput otherwise = otherwise
  /-- A copy that has come further, of fewer bytes in all or at a higher speed, takes no longer. -/
  shorter : ∀ copied total, p.Tells throughput copied total →
    ∀ (q : CopyProgress) faster copied' total', q.Tells faster copied' total' →
      copied ≤ copied' → total' ≤ total → throughput ≤ faster → ∀ otherwise',
        q.delay faster otherwise' ≤ p.delay throughput otherwise

private theorem read_ofReport (status : CopyStatus) (report : Option String) : Read status report := by
  have known (a b : UInt64) : (ofReport status report).copied = some a ∧
      (ofReport status report).total = some b ↔ report.bind counts? = some (a, b) := by
    constructor
    · rintro ⟨part, whole⟩
      obtain ⟨⟨copied, total⟩, read, rfl⟩ := Option.map_eq_some_iff.mp part
      obtain ⟨pair, again, rfl⟩ := Option.map_eq_some_iff.mp whole
      cases read.symm.trans again
      exact read
    · intro read
      simp [ofReport, read]
  have counts (a b : UInt64) : report.bind counts? = some (a, b) ↔ ∃ copied total,
      report = some (copied ++ "/" ++ total) ∧ Spells copied a.toNat ∧ Spells total b.toNat := by
    rw [Option.bind_eq_some_iff]
    constructor
    · rintro ⟨s, rfl, read⟩
      obtain ⟨copied, total, rfl, spelled⟩ := counts?_eq_some_iff.mp read
      exact ⟨copied, total, rfl, spelled⟩
    · rintro ⟨copied, total, rfl, spelled⟩
      exact ⟨_, rfl, counts?_eq_some_iff.mpr ⟨copied, total, rfl, spelled⟩⟩
  constructor
  case both =>
    rw [ofReport, Option.isSome_map, Option.isSome_map]
  case counts =>
    exact fun a b => (known a b).trans (counts a b)
  case decimal =>
    rintro a b u v w x blank rfl
    refine (known a b).mpr ((counts a b).mpr ⟨_, _, rfl, ?_, ?_⟩)
    · exact spells_decimal _ (blank u (by simp)) (blank v (by simp))
    · exact spells_decimal _ (blank w (by simp)) (blank x (by simp))

private theorem estimated_delay (p : CopyProgress) (throughput : UInt64) (otherwise : Duration) :
    Estimated p throughput otherwise := by
  constructor
  case safe => exact delay?_eq p throughput otherwise
  case told => exact fun copied total tells => nanos_delay tells
  case untold => exact delay_of_not_tells
  case shorter =>
    intro copied total tells q faster copied' total' tells' more less quicker otherwise'
    change (q.delay faster otherwise').nanos ≤ (p.delay throughput otherwise).nanos
    rw [nanos_delay tells, nanos_delay tells']
    exact Nat.mul_le_mul_right _ (secondsLeft_anti more less quicker tells.2.2.2)

/-- The delay before another look is the time that the rest of a copy takes, as far as the report of its
progress tells that. -/
theorem progress_estimated : (∀ p throughput otherwise, Estimated p throughput otherwise) ∧
    ∀ status report, Read status report :=
  ⟨estimated_delay, read_ofReport⟩

end CopyProgress

end ScanProvisioning
