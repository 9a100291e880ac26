import ScanProvisioning.Proofs.Json.Steady

namespace ScanProvisioning.Json

open Document (values)

variable {ms : List (String × Json)} {name : String}

theorem toDocumentMembers_eq_map : toDocumentMembers ms = ms.map fun m => (.str m.1, m.2.toDocument) := by
  induction ms with
  | nil => rfl
  | cons m ms ih => rw [toDocumentMembers, ih, List.map_cons]

theorem toDocumentMembers_perm {ms' : List (String × Json)} (perm : ms.Perm ms') :
    (toDocumentMembers ms).Perm (toDocumentMembers ms') := by
  rw [toDocumentMembers_eq_map, toDocumentMembers_eq_map]
  exact perm.map _

theorem insert_perm {v : Json} (new : name ∉ ms.map Prod.fst) : (insert name v ms).Perm ((name, v) :: ms) := by
  induction ms with
  | nil => exact .refl _
  | cons m ms ih =>
    rw [List.map_cons, List.mem_cons, not_or] at new
    rw [insert]
    split
    · exact .refl _
    rw [if_neg new.1]
    exact ((ih new.2).cons m).trans (.swap _ _ _)

theorem foldl_insert_perm {earlier : List (String × Json)} (distinct : ((ms ++ earlier).map Prod.fst).Nodup) :
    (ms.foldl (fun ms m => insert m.1 m.2 ms) earlier).Perm (ms ++ earlier) := by
  induction ms generalizing earlier with
  | nil => exact .refl _
  | cons m ms ih =>
    have apart : m.1 ∉ earlier.map Prod.fst := by
      intro mem
      rw [List.cons_append, List.map_cons, List.map_append] at distinct
      exact (List.nodup_cons.mp distinct).1 (List.mem_append_right _ mem)
    have moved : (ms ++ insert m.1 m.2 earlier).Perm (m :: ms ++ earlier) :=
      ((insert_perm apart).append_left ms).trans List.perm_middle
    exact (ih ((moved.map Prod.fst).nodup_iff.mpr distinct)).trans moved

theorem object_perm (distinct : (ms.map Prod.fst).Nodup) :
    ∃ sorted, object ms = .obj sorted ∧ sorted.Perm ms := by
  refine ⟨_, rfl, ?_⟩
  have perm : (ms.foldl (fun ms m => insert m.1 m.2 ms) []).Perm (ms ++ []) :=
    foldl_insert_perm (by rwa [List.append_nil])
  rwa [List.append_nil] at perm

/-- To put the members of an object in order is a change of words. -/
theorem object_edit {s : Shape} (distinct : (ms.map Prod.fst).Nodup) :
    Edit s (.obj (toDocumentMembers ms) none) (object ms).toDocument := by
  obtain ⟨sorted, written, perm⟩ := object_perm distinct
  rw [written, toDocument]
  exact .permuted (toDocumentMembers_perm perm.symm)

theorem values_eq_nil (absent : name ∉ ms.map Prod.fst) : values name (toDocumentMembers ms) = [] := by
  induction ms with
  | nil => rfl
  | cons m ms ih =>
    rw [List.map_cons, List.mem_cons, not_or] at absent
    rw [toDocumentMembers, Document.values_str, if_neg (Ne.symm absent.1), ih absent.2]

private theorem values_toDocumentMembers (distinct : (ms.map Prod.fst).Nodup) {m : String × Json}
    (mem : m ∈ ms) :
    values m.1 (toDocumentMembers ms) = [m.2.toDocument] := by
  induction ms with
  | nil => cases mem
  | cons own ms ih =>
    obtain ⟨apart, distinct⟩ := List.nodup_cons.mp distinct
    rw [toDocumentMembers, Document.values_str]
    obtain rfl | mem := List.mem_cons.mp mem
    · rw [if_pos rfl, values_eq_nil apart]
    · have other : own.1 ≠ m.1 := fun same => apart (same ▸ List.mem_map_of_mem mem)
      rw [if_neg other, ih distinct mem]

namespace Decoder

variable {α : Type} {dec : Decoder α} {a : α} {s : Shape} {fields : List Field} {expected : String}

theorem check_optionalField_iff {d : Document} :
    (optionalField name dec).check d = .ok () ↔ ∃ a, dec d = .ok a :=
  (check_field_iff : (field name dec).check d = .ok () ↔ _)

theorem required_given {found : Found} {d : Document} (given : found.lookup name = some d) :
    required found name dec = dec d := by
  rw [required, given]

theorem withDefault_given {found : Found} {d : Document} {default : α} (given : found.lookup name = some d) :
    withDefault found name dec default = dec d := by
  rw [withDefault, given]

/-- An object is read as what its members are read as in the order they were given. -/
theorem decode_object (steady : Steady s dec) (distinct : (ms.map Prod.fst).Nodup)
    (read : dec (.obj (toDocumentMembers ms) none) = .ok a) : decode dec (object ms) = .ok a :=
  steady _ _ (object_edit distinct) a read

theorem find_of_checks (distinct : (ms.map Prod.fst).Nodup)
    (checks : List.Forall₂ (fun m f => m.1 = f.name ∧ f.check m.2.toDocument = .ok ()) ms fields) :
    ∀ m ∈ ms, ∃ f, fields.find? (·.name == m.1) = some f ∧ f.check m.2.toDocument = .ok () := by
  induction checks with
  | nil => exact List.forall_mem_nil _
  | @cons m f ms fields own _ ih =>
    obtain ⟨apart, distinct⟩ := List.nodup_cons.mp distinct
    refine List.forall_mem_cons.mpr ⟨⟨f, ?_, own.2⟩, fun other mem => ?_⟩
    · rw [List.find?_cons, beq_iff_eq.mpr own.1.symm]
    · have different : f.name ≠ other.1 := fun same => apart (own.1.trans same ▸ List.mem_map_of_mem mem)
      rw [List.find?_cons, beq_eq_false_iff_ne.mpr different]
      exact ih distinct other mem

/-- A record is read from an object that has just its fields, and then has what the object has. -/
theorem exists_record_of_fields (distinct : (ms.map Prod.fst).Nodup)
    (checks : List.Forall₂ (fun m f => m.1 = f.name ∧ f.check m.2.toDocument = .ok ()) ms fields) :
    ∃ found, record expected fields (.obj (toDocumentMembers ms) none) = .ok found ∧
      ∀ m ∈ ms, found.lookup m.1 = some m.2.toDocument := by
  have known := find_of_checks distinct checks
  have names : ms.map Prod.fst = fields.map Field.name := by
    rw [← List.forall₂_eq_eq_eq, List.forall₂_map_left_iff, List.forall₂_map_right_iff]
    exact checks.imp fun _ _ own => own.1
  have fits : ∀ m ∈ toDocumentMembers ms, Fits fields m := by
    rw [toDocumentMembers_eq_map, List.forall_mem_map]
    intro m mem
    obtain ⟨f, own, checked⟩ := known m mem
    refine ⟨m.1, rfl, ?_⟩
    rw [own]
    exact checked
  have once : ∀ f ∈ fields, (values f.name (toDocumentMembers ms)).length ≤ 1 := by
    intro f own
    obtain ⟨m, mem, same⟩ := List.mem_map.mp (names ▸ List.mem_map_of_mem own)
    rw [← same, values_toDocumentMembers distinct mem]
    exact Nat.le_refl 1
  obtain ⟨found, read⟩ := record_obj_iff.mpr ⟨rfl, fits, once⟩
  refine ⟨found, read, fun m mem => ?_⟩
  obtain ⟨f, own, -⟩ := known m mem
  have same : f.name = m.1 := by simpa using List.find?_some own
  have kept := lookup_record read (List.mem_of_find?_eq_some own)
  rw [same, values_toDocumentMembers distinct mem] at kept
  exact Option.toList_eq_singleton_iff.mp kept

/-- What is made of the fields of a record is read from an object that has just these. -/
theorem decode_record {make : Found → Except Refusal α}
    (steady : Steady s fun d => record expected fields d >>= make) (distinct : (ms.map Prod.fst).Nodup)
    (checks : List.Forall₂ (fun m f => m.1 = f.name ∧ f.check m.2.toDocument = .ok ()) ms fields)
    (made : ∀ found : Found, (∀ m ∈ ms, found.lookup m.1 = some m.2.toDocument) → make found = .ok a) :
    decode (fun d => record expected fields d >>= make) (object ms) = .ok a := by
  obtain ⟨found, read, given⟩ := exists_record_of_fields distinct checks
  exact decode_object steady distinct (bind_eq_ok_iff.mpr ⟨found, read, made found given⟩)

end Decoder

end ScanProvisioning.Json
