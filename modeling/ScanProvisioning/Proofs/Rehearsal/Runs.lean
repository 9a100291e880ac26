import ScanProvisioning.Proofs.Pass.Steps
import ScanProvisioning.Rehearsal.Cloud

namespace ScanProvisioning.Rehearsal

open Program Pass

namespace Cloud

variable {α β : Type} {x : Pass α} {f : α → Pass β} {c c' : Cloud}

theorem run_bind (p : Program clients α) (f : α → Program clients β) (c : Cloud) :
    run (p >>= f) c = run (f (run p c).1) (run p c).2 := by
  induction p generalizing c with
  | done a => rfl
  | ask call k ih => exact ih _ _

theorem run_bind_ok {a : α} (first : run x.run c = (.ok a, c')) :
    run (x >>= f).run c = run (f a).run c' := by
  have unfolded : (x >>= f).run = x.run >>= ExceptT.bindCont f := rfl
  rw [unfolded, run_bind, first]
  rfl

theorem run_bind_error {e : Setback} (first : run x.run c = (.error e, c')) :
    run (x >>= f).run c = (.error e, c') := by
  have unfolded : (x >>= f).run = x.run >>= ExceptT.bindCont f := rfl
  rw [unfolded, run_bind, first]
  rfl

theorem run_map (g : α → β) : run (g <$> x).run c = ((run x.run c).1.map g, (run x.run c).2) := by
  refine (run_bind x.run _ c).trans ?_
  cases (run x.run c).1 <;> rfl

/-- A step that is a single question ends as its answer says. -/
theorem run_step {call : ClientCall} {g : call.Reply → Except Setback α}
    (step : x.run = Program.ask (I := clients) call fun r => .done (g r)) (c : Cloud) :
    run x.run c = (g (answer call c).1, (answer call c).2) := by
  rw [step]
  rfl

theorem run_ask (call : ClientCall) (f : call.Reply → Pass β) (c : Cloud) :
    run (Pass.ask call >>= f).run c = run (f (answer call c).1).run (answer call c).2 := rfl

/-- The account after a program has been run a number of times. -/
def repeated (p : Program clients α) : Nat → Cloud → Cloud
  | 0, c => c
  | i + 1, c => (run p (repeated p i c)).2

/-- What counting down takes: while the measure is above zero a run ends in a retry and lowers it by
one, and at zero it succeeds and leaves it there. -/
structure Countdown (p : Program clients (Except Setback Unit)) (kept : Cloud → Prop)
    (left : Cloud → Nat) : Prop where
  keeps : ∀ c, kept c → kept (run p c).2
  waits : ∀ c, kept c → left c ≠ 0 →
    (∃ delay reason, (run p c).1 = .error (.retry delay reason)) ∧ left (run p c).2 + 1 = left c
  ends : ∀ c, kept c → left c = 0 → (run p c).1 = .ok () ∧ left (run p c).2 = 0

section

variable {p : Program clients (Except Setback Unit)} {kept : Cloud → Prop} {left : Cloud → Nat}

theorem Countdown.repeated (down : Countdown p kept left) (start : kept c) (i : Nat) :
    kept (repeated p i c) ∧ left (repeated p i c) = left c - i := by
  induction i with
  | zero => exact ⟨start, rfl⟩
  | succ i ih =>
    obtain ⟨here, count⟩ := ih
    refine ⟨down.keeps _ here, ?_⟩
    change left (run p (Cloud.repeated p i c)).2 = _
    by_cases spent : left (Cloud.repeated p i c) = 0
    · have still := (down.ends _ here spent).2
      omega
    · have lower := (down.waits _ here spent).2
      omega

/-- The number of retries is the measure at the start, and after them every run succeeds. -/
theorem Countdown.exact (down : Countdown p kept left) (start : kept c) (i : Nat) :
    (i < left c → ∃ delay reason, (run p (Cloud.repeated p i c)).1 = .error (.retry delay reason)) ∧
    (left c ≤ i → (run p (Cloud.repeated p i c)).1 = .ok ()) := by
  obtain ⟨here, count⟩ := down.repeated start i
  constructor
  · intro early
    exact (down.waits _ here (by omega)).1
  · intro late
    exact (down.ends _ here (by omega)).1

end

/-- The simulated resources of a kind. Staged copies are none. -/
def pool (c : Cloud) : ResourceKind → Pool
  | .snapshot => c.snapshots
  | .volume => c.volumes
  | .networkInterface => c.networks
  | .scanner => c.scanners
  | .stagedCopy => { kind := .stagedCopy, provisioningPolls := 0 }

def withPool (c : Cloud) (kind : ResourceKind) (p : Pool) : Cloud :=
  match kind with
  | .snapshot => { c with snapshots := p }
  | .volume => { c with volumes := p }
  | .networkInterface => { c with networks := p }
  | .scanner => { c with scanners := p }
  | .stagedCopy => c

def withStaging (c : Cloud) (s : Staging) : Cloud := { c with staging := s }

/-- The stage that a resource is in, if it is there. -/
def stage (c : Cloud) (kind : ResourceKind) (name : String) : Option Stage :=
  (c.pool kind).resources.get? name

/-- How many deletions of resources of a kind have been asked for. -/
def deletions (c : Cloud) : ResourceKind → Nat
  | .stagedCopy => c.staging.deletes
  | kind => (c.pool kind).deletes

section

variable {kind k : ResourceKind} {p q : Pool}

theorem pool_withPool (real : kind ≠ .stagedCopy) : (c.withPool kind p).pool kind = p := by
  cases kind <;> first | rfl | exact absurd rfl real

theorem pool_withPool_other (other : k ≠ kind) : (c.withPool kind p).pool k = c.pool k := by
  cases kind <;> cases k <;> first | rfl | exact absurd rfl other

/-- What holds of the pool that is put in and of all others holds of every pool afterwards. -/
theorem forall_withPool {P : ResourceKind → Pool → Prop} (real : kind ≠ .stagedCopy) (own : P kind q)
    (others : ∀ k, k ≠ kind → P k (c.pool k)) (k : ResourceKind) : P k ((c.withPool kind q).pool k) := by
  by_cases same : k = kind
  · rw [same, pool_withPool real]
    exact own
  · rw [pool_withPool_other same]
    exact others k same

@[simp] theorem staging_withPool : (c.withPool kind p).staging = c.staging := by
  cases kind <;> rfl

@[simp] theorem withPool_withPool : (c.withPool kind p).withPool kind q = c.withPool kind q := by
  cases kind <;> rfl

@[simp] theorem pool_withStaging (s : Staging) : (c.withStaging s).pool k = c.pool k := by
  cases k <;> rfl

@[simp] theorem staging_withStaging (s : Staging) : (c.withStaging s).staging = s := rfl

theorem deletions_congr (same : c'.pool kind = c.pool kind)
    (staging : kind = .stagedCopy → c'.staging = c.staging) : deletions c' kind = deletions c kind := by
  cases kind with
  | stagedCopy => exact congrArg Staging.deletes (staging rfl)
  | snapshot | volume | networkInterface | scanner => exact congrArg Pool.deletes same

variable (real : kind ≠ .stagedCopy)

include real

theorem deletions_eq (c : Cloud) : deletions c kind = (c.pool kind).deletes := by
  cases kind <;> first | rfl | exact absurd rfl real

theorem answer_observe (name : String) (c : Cloud) : answer (.observe kind name) c =
    (((c.pool kind).observe name).1, c.withPool kind ((c.pool kind).observe name).2) := by
  cases kind <;> first | rfl | exact absurd rfl real

theorem answer_delete (name : String) (c : Cloud) : answer (.delete kind name) c =
    (((c.pool kind).delete name).1, c.withPool kind ((c.pool kind).delete name).2) := by
  cases kind <;> first | rfl | exact absurd rfl real

end

theorem answer_create (name : String) (spec : ResourceSpec) (c : Cloud) : answer (.create name spec) c =
    (((c.pool spec.kind).create name spec).1,
      c.withPool spec.kind ((c.pool spec.kind).create name spec).2) := by
  cases spec <;> rfl

/-- A number of passes for each kind of resource, put together. -/
def sumOver (passes : ResourceKind → Nat) : List ResourceKind → Nat
  | [] => 0
  | kind :: kinds => passes kind + sumOver passes kinds

/-- What a pass over resources of an account is measured by: how many retries each of them still takes,
whether it is where the pass takes it, and what passes never break. The staging area is taken together
with the resources of one kind. -/
structure Course where
  area : ResourceKind
  left : Cloud → ResourceKind → Nat
  done : Cloud → ResourceKind → Prop
  kept : Cloud → Cloud → Prop
  kept_trans : ∀ {a b c}, kept a b → kept b c → kept a c
  left_of_done : ∀ {c kind}, done c kind → left c kind = 0
  local_left : ∀ {c c' kind}, c'.pool kind = c.pool kind → (kind = area → c'.staging = c.staging) →
    left c' kind = left c kind
  local_done : ∀ {c c' kind}, c'.pool kind = c.pool kind → (kind = area → c'.staging = c.staging) →
    done c kind → done c' kind

namespace Course

variable (course : Course)

def total (c : Cloud) (kinds : List ResourceKind) : Nat := sumOver (course.left c) kinds

/-- A pass over some kinds of resources either succeeds, once nothing is left to wait for, or ends in a
retry and leaves one less; it does not touch the other kinds. -/
structure Advances (kinds : List ResourceKind) (x : Pass α) (c : Cloud) : Prop where
  kept : course.kept c (run x.run c).2
  pools : ∀ k, k ∉ kinds → (run x.run c).2.pool k = c.pool k
  staging : course.area ∉ kinds → (run x.run c).2.staging = c.staging
  ends : course.total c kinds = 0 →
    (∃ a, (run x.run c).1 = .ok a) ∧ ∀ kind ∈ kinds, course.done (run x.run c).2 kind
  waits : course.total c kinds ≠ 0 →
    (∃ delay reason, (run x.run c).1 = .error (.retry delay reason)) ∧
    course.total (run x.run c).2 kinds + 1 = course.total c kinds

variable {course}

theorem total_singleton (course : Course) (c : Cloud) (kind : ResourceKind) :
    course.total c [kind] = course.left c kind := Nat.add_zero _

theorem total_cons (c : Cloud) (kind : ResourceKind) (kinds : List ResourceKind) :
    course.total c (kind :: kinds) = course.left c kind + course.total c kinds := rfl

theorem total_eq_zero_iff {kinds : List ResourceKind} :
    course.total c kinds = 0 ↔ ∀ kind ∈ kinds, course.left c kind = 0 := by
  induction kinds with
  | nil => simp [total, sumOver]
  | cons kind kinds ih => rw [total_cons, Nat.add_eq_zero_iff, ih, List.forall_mem_cons]

/-- What a pass does not touch takes as many retries as before. -/
theorem total_congr {kinds : List ResourceKind} (pools : ∀ kind ∈ kinds, c'.pool kind = c.pool kind)
    (staging : course.area ∈ kinds → c'.staging = c.staging) :
    course.total c' kinds = course.total c kinds := by
  induction kinds with
  | nil => rfl
  | cons kind kinds ih =>
    rw [List.forall_mem_cons] at pools
    have own := course.local_left pools.1 fun area => staging (area ▸ .head kinds)
    rw [total_cons, total_cons, own, ih pools.2 fun member => staging (.tail kind member)]

section

variable {kind : ResourceKind} (kept : course.kept c c') (pools : ∀ k, k ≠ kind → c'.pool k = c.pool k)
  (staging : kind ≠ course.area → c'.staging = c.staging)

include kept pools staging

/-- A pass over one kind of resource. -/
theorem advances_one {r : Except Setback α} (ran : run x.run c = (r, c'))
    (ends : course.left c kind = 0 → (∃ a, r = .ok a) ∧ course.done c' kind)
    (waits : course.left c kind ≠ 0 → (∃ delay reason, r = .error (.retry delay reason)) ∧
      course.left c' kind + 1 = course.left c kind) : course.Advances [kind] x c := by
  constructor
  case kept => exact ran ▸ kept
  case pools =>
    intro k other
    rw [ran]
    exact pools k fun same => other (List.mem_singleton.mpr same)
  case staging =>
    intro other
    rw [ran]
    exact staging fun same => other (List.mem_singleton.mpr same.symm)
  case ends =>
    rw [ran, total_singleton, List.forall_mem_singleton]
    exact ends
  case waits =>
    rw [ran, total_singleton, total_singleton]
    exact waits

theorem advances_done {a : α} (ran : run x.run c = (.ok a, c')) (spent : course.left c kind = 0)
    (done : course.done c' kind) : course.Advances [kind] x c := by
  apply advances_one kept pools staging ran
  · exact fun _ => ⟨⟨a, rfl⟩, done⟩
  · exact fun left => absurd spent left

theorem advances_retry {delay : Duration} {reason : String}
    (ran : run x.run c = (.error (.retry delay reason), c'))
    (count : course.left c' kind + 1 = course.left c kind) : course.Advances [kind] x c := by
  apply advances_one kept pools staging ran
  · intro none
    omega
  · exact fun _ => ⟨⟨delay, reason, rfl⟩, count⟩

end

theorem Advances.map {kinds : List ResourceKind} {g : α → β} (first : course.Advances kinds x c) :
    course.Advances kinds (g <$> x) c := by
  have mapped : run (g <$> x).run c = ((run x.run c).1.map g, (run x.run c).2) := run_map g
  constructor
  case kept => exact mapped ▸ first.kept
  case pools => exact mapped ▸ first.pools
  case staging => exact mapped ▸ first.staging
  case ends =>
    intro none
    obtain ⟨⟨a, ok⟩, all⟩ := first.ends none
    rw [mapped, ok]
    exact ⟨⟨g a, rfl⟩, all⟩
  case waits =>
    intro some
    obtain ⟨⟨delay, reason, retry⟩, count⟩ := first.waits some
    rw [mapped, retry]
    exact ⟨⟨delay, reason, rfl⟩, count⟩

/-- Passes over different kinds of resources one after the other. -/
theorem Advances.bind {kind : ResourceKind} {kinds : List ResourceKind}
    (first : course.Advances [kind] x c) (fresh : kind ∉ kinds)
    (rest : ∀ a c', course.kept c c' → course.Advances kinds (f a) c') :
    course.Advances (kind :: kinds) (x >>= f) c := by
  have apart {k : ResourceKind} (member : k ∈ kinds) : k ∉ [kind] := by
    intro same
    rw [List.mem_singleton] at same
    exact fresh (same ▸ member)
  have others : course.total (run x.run c).2 kinds = course.total c kinds :=
    total_congr (fun k member => first.pools k (apart member)) fun member => first.staging (apart member)
  have own := total_singleton course c kind
  by_cases spent : course.left c kind = 0
  · obtain ⟨⟨a, ok⟩, done⟩ := first.ends (own.trans spent)
    have there := done kind (List.mem_singleton_self kind)
    have goes : run (x >>= f).run c = run (f a).run (run x.run c).2 := run_bind_ok (Prod.ext ok rfl)
    have next := rest a _ first.kept
    have still : course.done (run (f a).run (run x.run c).2).2 kind :=
      course.local_done (next.pools kind fresh) (fun area => next.staging (area ▸ fresh)) there
    constructor
    case kept =>
      rw [goes]
      exact course.kept_trans first.kept next.kept
    case pools =>
      intro k other
      rw [goes, next.pools k fun member => other (.tail kind member)]
      exact first.pools k fun member => other (List.mem_singleton.mp member ▸ .head kinds)
    case staging =>
      intro other
      rw [goes, next.staging fun member => other (.tail kind member)]
      exact first.staging fun member => other (List.mem_singleton.mp member ▸ .head kinds)
    case ends =>
      rw [total_cons, spent, goes, List.forall_mem_cons]
      intro none
      obtain ⟨ok, all⟩ := next.ends (by omega)
      exact ⟨ok, still, all⟩
    case waits =>
      rw [total_cons, total_cons, spent, goes, course.left_of_done still]
      intro some
      obtain ⟨retry, count⟩ := next.waits (by omega)
      exact ⟨retry, by omega⟩
  · obtain ⟨⟨delay, reason, retry⟩, count⟩ := first.waits (by omega)
    have stops : run (x >>= f).run c = (.error (.retry delay reason), (run x.run c).2) :=
      run_bind_error (Prod.ext retry rfl)
    have own' := total_singleton course (run x.run c).2 kind
    constructor
    case kept => exact stops ▸ first.kept
    case pools =>
      intro k other
      rw [stops]
      exact first.pools k fun member => other (List.mem_singleton.mp member ▸ .head kinds)
    case staging =>
      intro other
      rw [stops]
      exact first.staging fun member => other (List.mem_singleton.mp member ▸ .head kinds)
    case ends =>
      rw [total_cons]
      intro none
      omega
    case waits =>
      rw [total_cons, total_cons, stops, others]
      intro _
      refine ⟨⟨delay, reason, rfl⟩, ?_⟩
      dsimp only
      omega

theorem countdown {kinds : List ResourceKind} {x : Pass Unit}
    (advances : ∀ c', course.kept c c' → course.Advances kinds x c') :
    Countdown x.run (course.kept c) (course.total · kinds) := by
  constructor
  · intro c' kept
    exact course.kept_trans kept (advances c' kept).kept
  · intro c' kept left
    exact (advances c' kept).waits left
  · intro c' kept spent
    obtain ⟨⟨⟨⟩, done⟩, all⟩ := (advances c' kept).ends spent
    exact ⟨done, total_eq_zero_iff.mpr fun kind member => course.left_of_done (all kind member)⟩

end Course

end Cloud

end ScanProvisioning.Rehearsal
