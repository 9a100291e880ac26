import Mathlib.Computability.Language
import Mathlib.Order.CompletePartialOrder
import ScanProvisioning.Proofs.ScanId

namespace ScanProvisioning.Docker

open Computability

/-- One small letter or digit. -/
def alphanumeric : Language Char := {cs | ∃ c, cs = [c] ∧ IsSmallAlphanumeric c}

def hyphen : Language Char := {['-']}

/-- One time or more. -/
def repeated (l : Language Char) : Language Char := l * l∗

/-- The form `[a-z0-9]+(-+[a-z0-9]+)*`. -/
def component : Language Char := repeated alphanumeric * (repeated hyphen * repeated alphanumeric)∗

/-- Small letters, digits and hyphens, with no hyphen at either end. -/
def wellEnded : Language Char :=
  {cs | cs ≠ [] ∧ (∀ c ∈ cs, IsSmallAlphanumeric c ∨ c = '-') ∧ cs.head? ≠ some '-' ∧
    cs.getLast? ≠ some '-'}

variable {l : Language Char} {c d : Char} {cs : List Char}

theorem mem_kstar_of_repeated (mem : cs ∈ repeated l) : cs ∈ l∗ :=
  (mul_kstar_le_kstar : l * l∗ ≤ l∗) mem

private theorem of_mem_group (mem : cs ∈ repeated alphanumeric) :
    cs ≠ [] ∧ ∀ c ∈ cs, IsSmallAlphanumeric c := by
  let groups : Language Char := {cs | cs ≠ [] ∧ ∀ c ∈ cs, IsSmallAlphanumeric c}
  have first : alphanumeric ≤ groups := by
    rintro _ ⟨c, rfl, small⟩
    exact ⟨by simp, by simpa using small⟩
  have more : groups * alphanumeric ≤ groups := by
    rintro _ ⟨cs, ⟨some, small⟩, _, ⟨c, rfl, last⟩, rfl⟩
    exact ⟨by simp, List.forall_mem_append.mpr ⟨small, by simpa using last⟩⟩
  exact mul_kstar_le first more mem

private theorem of_mem_hyphens (mem : cs ∈ repeated hyphen) : ∀ c ∈ cs, c = '-' := by
  let hyphens : Language Char := {cs | ∀ c ∈ cs, c = '-'}
  have first : hyphen ≤ hyphens := by
    rintro _ rfl
    simp [hyphens]
  have more : hyphens * hyphen ≤ hyphens := by
    rintro _ ⟨cs, only, _, rfl, rfl⟩
    exact List.forall_mem_append.mpr ⟨only, by simp⟩
  exact mul_kstar_le first more mem

private theorem head?_ne_hyphen (small : ∀ c ∈ cs, IsSmallAlphanumeric c) : cs.head? ≠ some '-' :=
  fun first => not_isSmallAlphanumeric_hyphen (small '-' (List.mem_of_head? first))

private theorem getLast?_ne_hyphen (small : ∀ c ∈ cs, IsSmallAlphanumeric c) : cs.getLast? ≠ some '-' :=
  fun last => not_isSmallAlphanumeric_hyphen (small '-' (List.mem_of_getLast? last))

private theorem component_le : component ≤ wellEnded := by
  have first : repeated alphanumeric ≤ wellEnded := by
    intro cs mem
    obtain ⟨some, small⟩ := of_mem_group mem
    exact ⟨some, fun c mem => .inl (small c mem), head?_ne_hyphen small, getLast?_ne_hyphen small⟩
  have more : wellEnded * (repeated hyphen * repeated alphanumeric) ≤ wellEnded := by
    rintro _ ⟨cs, ⟨some, allowed, starts, -⟩, _, ⟨hs, hyphens, ds, group, rfl⟩, rfl⟩
    have only := of_mem_hyphens hyphens
    obtain ⟨some', small⟩ := of_mem_group group
    refine ⟨by simp [some], ?_, ?_, ?_⟩
    · simp only [List.forall_mem_append]
      exact ⟨allowed, fun c mem => .inr (only c mem), fun c mem => .inl (small c mem)⟩
    · rwa [List.head?_append_of_ne_nil cs some]
    · dsimp only
      rw [← List.append_assoc, List.getLast?_append_of_ne_nil _ some']
      exact getLast?_ne_hyphen small
  exact mul_kstar_le first more

theorem getLast?_ne_of_cons (ends : (c :: cs).getLast? ≠ some d) : cs.getLast? ≠ some d := by
  intro last
  apply ends
  rw [List.getLast?_cons, last, Option.getD_some]

/-- What may follow a small letter or digit, and what may follow a hyphen. -/
theorem mem_rest (allowed : ∀ c ∈ cs, IsSmallAlphanumeric c ∨ c = '-') (ends : cs.getLast? ≠ some '-') :
    cs ∈ alphanumeric∗ * (repeated hyphen * repeated alphanumeric)∗ ∧
      (cs ≠ [] → cs ∈ hyphen∗ * component) := by
  induction cs with
  | nil =>
    refine ⟨⟨[], Language.nil_mem_kstar _, [], Language.nil_mem_kstar _, rfl⟩, ?_⟩
    intro some
    exact absurd rfl some
  | cons c cs ih =>
    obtain ⟨rest, after⟩ := ih (fun d mem => allowed d (.tail c mem)) (getLast?_ne_of_cons ends)
    rcases allowed c (.head cs) with small | rfl
    · obtain ⟨as, first, ds, groups, rfl⟩ := rest
      have more : c :: as ∈ repeated alphanumeric := ⟨[c], ⟨c, rfl, small⟩, as, first, rfl⟩
      refine ⟨⟨c :: as, mem_kstar_of_repeated more, ds, groups, rfl⟩, ?_⟩
      intro _
      exact ⟨[], Language.nil_mem_kstar _, _, ⟨c :: as, more, ds, groups, rfl⟩, rfl⟩
    · have some : cs ≠ [] := by
        rintro rfl
        exact ends rfl
      obtain ⟨hs, hyphens, _, ⟨as, group, ds, groups, rfl⟩, rfl⟩ := after some
      have more : '-' :: hs ∈ repeated hyphen := ⟨['-'], rfl, hs, hyphens, rfl⟩
      refine ⟨⟨[], Language.nil_mem_kstar _, _, ?_, rfl⟩, ?_⟩
      · have next : '-' :: hs ++ as ∈ repeated hyphen * repeated alphanumeric := ⟨_, more, as, group, rfl⟩
        exact mem_kstar_of_repeated ⟨_, next, ds, groups, by simp⟩
      · intro _
        exact ⟨'-' :: hs, mem_kstar_of_repeated more, _, ⟨as, group, ds, groups, rfl⟩, rfl⟩

/-- The form, by its characters alone. -/
theorem component_eq : component = wellEnded := by
  refine le_antisymm component_le ?_
  rintro cs ⟨some, allowed, starts, ends⟩
  cases cs with
  | nil => exact absurd rfl some
  | cons c cs =>
    obtain ⟨⟨as, first, ds, groups, rfl⟩, -⟩ :=
      mem_rest (fun d mem => allowed d (.tail c mem)) (getLast?_ne_of_cons ends)
    rcases allowed c (.head _) with small | rfl
    · exact ⟨c :: as, ⟨[c], ⟨c, rfl, small⟩, as, first, rfl⟩, ds, groups, rfl⟩
    · exact absurd rfl starts

end ScanProvisioning.Docker
