import ScanProvisioning.ScanId

namespace ScanProvisioning

/-- A small letter or a digit. -/
def IsSmallAlphanumeric (c : Char) : Prop := ('a' ≤ c ∧ c ≤ 'z') ∨ ('0' ≤ c ∧ c ≤ '9')

instance : DecidablePred IsSmallAlphanumeric := fun _ => inferInstanceAs (Decidable (_ ∨ _))

theorem not_isSmallAlphanumeric_hyphen : ¬ IsSmallAlphanumeric '-' := by decide

namespace ScanId

/-- One to forty bytes of small letters, digits and hyphens, with no hyphen at either end. -/
structure Grammatical (text : String) : Prop where
  nonempty : 1 ≤ text.utf8ByteSize
  short : text.utf8ByteSize ≤ 40
  characters : ∀ c ∈ text.toList, IsSmallAlphanumeric c ∨ c = '-'
  starts : text.toList.head? ≠ some '-'
  ends : text.toList.getLast? ≠ some '-'

variable {c : Char} {raw : String} {id : ScanId}

theorem isAllowed_iff : isAllowed c = true ↔ IsSmallAlphanumeric c ∨ c = '-' := by
  rw [isAllowed, Bool.or_eq_true, Bool.or_eq_true, beq_iff_eq, IsSmallAlphanumeric]
  delta Char.isLower Char.isDigit
  rw [Bool.and_eq_true, Bool.and_eq_true, decide_eq_true_eq, decide_eq_true_eq, decide_eq_true_eq,
    decide_eq_true_eq]
  rfl

theorem parse_text (id : ScanId) : parse id.text = .ok id := by
  have allowed : id.text.toList.find? (fun c => !isAllowed c) = none := by simpa using id.allowed
  unfold parse
  rw [dif_neg id.nonempty, dif_neg (Nat.not_lt.mpr id.short)]
  split
  · next c found => cases allowed.symm.trans found
  · rw [dif_neg (not_or.mpr id.bounded)]

theorem text_of_parse (parsed : parse raw = .ok id) : id.text = raw := by
  unfold parse at parsed
  split at parsed
  · cases parsed
  · split at parsed
    · cases parsed
    · split at parsed
      · cases parsed
      · split at parsed
        · cases parsed
        · cases parsed
          rfl

theorem grammatical (id : ScanId) : Grammatical id.text where
  nonempty := Nat.pos_of_ne_zero fun none => id.nonempty (String.utf8ByteSize_eq_zero_iff.mp none)
  short := id.short
  characters := fun c mem => isAllowed_iff.mp (id.allowed c mem)
  starts := id.bounded.1
  ends := id.bounded.2

/-- The rules together are the grammar. -/
theorem exists_parse_iff : (∃ id, parse raw = .ok id) ↔ Grammatical raw := by
  constructor
  · rintro ⟨id, parsed⟩
    obtain rfl := text_of_parse parsed
    exact id.grammatical
  · intro grammatical
    have nonempty : raw ≠ "" := by
      rintro rfl
      exact absurd grammatical.nonempty (by decide)
    let id : ScanId := {
      text := raw
      nonempty := nonempty
      short := grammatical.short
      allowed := fun c mem => isAllowed_iff.mpr (grammatical.characters c mem)
      bounded := ⟨grammatical.starts, grammatical.ends⟩ }
    exact ⟨id, id.parse_text⟩

end ScanId

end ScanProvisioning
