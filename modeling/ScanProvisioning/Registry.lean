namespace ScanProvisioning

/-- Entries by key, each key at most once. -/
structure Registry (κ α : Type) where
  entries : List (κ × α) := []

namespace Registry

variable {κ α : Type} [DecidableEq κ]

def get? (r : Registry κ α) (k : κ) : Option α := (r.entries.find? (·.1 = k)).map Prod.snd

def erase (r : Registry κ α) (k : κ) : Registry κ α := ⟨r.entries.filter (·.1 ≠ k)⟩

def set (r : Registry κ α) (k : κ) (a : α) : Registry κ α := ⟨(r.erase k).entries ++ [(k, a)]⟩

def size (r : Registry κ α) : Nat := r.entries.length

theorem get?_empty (k : κ) : (⟨[]⟩ : Registry κ α).get? k = none := rfl

theorem get?_erase (r : Registry κ α) (k j : κ) :
    (r.erase k).get? j = if j = k then none else r.get? j := by
  simp only [get?, erase, List.find?_filter]
  split
  · next h => subst h; simp
  · next h =>
    congr 2
    funext e
    by_cases he : e.1 = j
    · simp [he, h]
    · simp [he]

theorem get?_set (r : Registry κ α) (k j : κ) (a : α) :
    (r.set k a).get? j = if j = k then some a else r.get? j := by
  have h := get?_erase r k j
  simp only [get?] at h ⊢
  simp only [set, List.find?_append, Option.map_or, h]
  by_cases hj : j = k
  · simp [hj]
  · simp [hj, Ne.symm hj]

end Registry

end ScanProvisioning
