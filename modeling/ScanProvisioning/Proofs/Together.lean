import Mathlib.Logic.Function.Basic
import ScanProvisioning.Proofs.Trace

namespace ScanProvisioning.Program

variable {ι : Type} {I : ι → Interface} {α : Type}

/-- The questions of the programs in the order in which they were answered. -/
abbrev Steps (I : ι → Interface) := List ((i : ι) × Event (I i))

variable [DecidableEq ι]

/-- The runnings of programs side by side, until all of them have ended. -/
inductive Together : ((i : ι) → Program (I i) α) → Steps I → (ι → α) → Prop
  | done (ends : ι → α) : Together (fun i => .done (ends i)) [] ends
  | step {programs : (i : ι) → Program (I i) α} (i : ι) {c : (I i).Call} {k : (I i).Reply c → Program (I i) α}
      (asks : programs i = .ask c k) (r : (I i).Reply c) {steps : Steps I} {ends : ι → α}
      (rest : Together (Function.update programs i (k r)) steps ends) :
      Together programs (⟨i, c, r⟩ :: steps) ends

/-- The questions of one of the programs. -/
def own (i : ι) : Steps I → List (Event (I i))
  | [] => []
  | ⟨j, ev⟩ :: steps => if same : j = i then same ▸ ev :: own i steps else own i steps

private theorem own_cons_self (i : ι) (ev : Event (I i)) (steps : Steps I) :
    own i (⟨i, ev⟩ :: steps) = ev :: own i steps :=
  dif_pos rfl

private theorem own_cons_of_ne {i j : ι} (ne : j ≠ i) (ev : Event (I j)) (steps : Steps I) :
    own i (⟨j, ev⟩ :: steps) = own i steps :=
  dif_neg ne

variable {programs : (i : ι) → Program (I i) α} {steps : Steps I} {ends : ι → α}

theorem Together.apart (together : Together programs steps ends) (i : ι) :
    Trace (programs i) (own i steps) (some (ends i)) := by
  induction together with
  | done ends => exact .done (ends i)
  | @step programs j c k asks r steps ends rest ih =>
    by_cases same : j = i
    · subst same
      rw [Function.update_self] at ih
      rw [own_cons_self, asks]
      exact .ask r ih
    · rw [Function.update_of_ne (Ne.symm same)] at ih
      rw [own_cons_of_ne same]
      exact ih

private theorem together_of_apart (apart : ∀ i, Trace (programs i) (own i steps) (some (ends i))) :
    Together programs steps ends := by
  induction steps generalizing programs with
  | nil =>
    have ended : programs = fun i => .done (ends i) := by
      funext i
      have run := apart i
      generalize programs i = p at run
      cases run
      rfl
    rw [ended]
    exact .done ends
  | cons now steps ih =>
    obtain ⟨i, c, r⟩ := now
    have run := apart i
    rw [own_cons_self] at run
    obtain ⟨k, asks, rest⟩ : ∃ k, programs i = .ask c k ∧ Trace (k r) (own i steps) (some (ends i)) := by
      generalize programs i = p at run
      cases run with
      | ask r rest => exact ⟨_, rfl, rest⟩
    refine .step i asks r (ih fun j => ?_)
    by_cases same : j = i
    · subst same
      rw [Function.update_self]
      exact rest
    · rw [Function.update_of_ne same, ← own_cons_of_ne (Ne.symm same) ⟨c, r⟩]
      exact apart j

/-- Together is each on its own. -/
theorem together_iff :
    Together programs steps ends ↔ ∀ i, Trace (programs i) (own i steps) (some (ends i)) :=
  ⟨Together.apart, together_of_apart⟩

end ScanProvisioning.Program
