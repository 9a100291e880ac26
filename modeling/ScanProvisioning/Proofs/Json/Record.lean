import ScanProvisioning.Proofs.Json.Document

namespace ScanProvisioning.Json.Decoder

open Document (values)

variable {α : Type} {fields : List Field} {f : Field} {found result : Found} {name expected s : String}
  {members : List (Document × Document)} {ending : Option Fault} {k v d : Document} {dec : Decoder α}
  {a default : α}

/-- A member of an object that is to be a record. -/
def Fits (fields : List Field) (m : Document × Document) : Prop :=
  ∃ name, m.1 = .str name ∧ match fields.find? (·.name == name) with
    | none => m.2.passed = .ok ()
    | some f => f.check m.2 = .ok ()

theorem whenFault_eq_ok_iff {x : Except Fault α} : whenFault x = .ok a ↔ x = .ok a := by
  cases x <;> simp [whenFault]

theorem fromMembers_nil : fromMembers fields found [] ending = .ok result ↔ ending = none ∧ result = found := by
  cases ending with
  | none => simp [fromMembers, eq_comm]
  | some f => simp [fromMembers]

/-- A field is checked and read on from unless it stood in the record before. -/
theorem first_eq_ok_iff {β : Type} {r : Refusal} {check : Except Refusal Unit} {rest : Except Refusal β}
    {b : β} :
    (if (found.lookup name).isSome then .error r else check >>= fun _ => rest) = .ok b ↔
      found.lookup name = none ∧ check = .ok () ∧ rest = .ok b := by
  cases found.lookup name with
  | some w => exact ⟨nofun, nofun⟩
  | none =>
    constructor
    · intro read
      obtain ⟨⟨⟩, checked, rest⟩ := bind_eq_ok_iff.mp read
      exact ⟨rfl, checked, rest⟩
    · rintro ⟨-, checked, rest⟩
      exact bind_eq_ok_iff.mpr ⟨(), checked, rest⟩

/-- A member that is no field is passed over. -/
theorem fromMembers_unknown (unknown : fields.find? (·.name == name) = none) :
    fromMembers fields found ((.str name, v) :: members) ending = .ok result ↔
      v.passed = .ok () ∧ fromMembers fields found members ending = .ok result := by
  have step : fromMembers fields found ((.str name, v) :: members) ending =
      whenFault v.passed >>= fun _ => fromMembers fields found members ending := by
    rw [fromMembers]
    dsimp only [Document.nameOf, whenFault, Bind.bind, Except.bind]
    rw [unknown]
  rw [step]
  constructor
  · intro read
    obtain ⟨⟨⟩, passed, rest⟩ := bind_eq_ok_iff.mp read
    exact ⟨whenFault_eq_ok_iff.mp passed, rest⟩
  · rintro ⟨passed, rest⟩
    exact bind_eq_ok_iff.mpr ⟨(), whenFault_eq_ok_iff.mpr passed, rest⟩

/-- A field that stands in the record for the first time is checked and kept. -/
theorem fromMembers_known (known : fields.find? (·.name == name) = some f) :
    fromMembers fields found ((.str name, v) :: members) ending = .ok result ↔
      found.lookup name = none ∧ f.check v = .ok () ∧
        fromMembers fields ((name, v) :: found) members ending = .ok result := by
  have step : fromMembers fields found ((.str name, v) :: members) ending =
      if (found.lookup name).isSome then .error (.mismatch (.duplicateField name))
      else f.check v >>= fun _ => fromMembers fields ((name, v) :: found) members ending := by
    rw [fromMembers]
    dsimp only [Document.nameOf, whenFault, Bind.bind, Except.bind]
    rw [known]
    rfl
  rw [step, first_eq_ok_iff]

theorem fromMembers_unnamed (read : fromMembers fields found ((k, v) :: members) ending = .ok result) :
    ∃ name, k = .str name := by
  rw [fromMembers] at read
  obtain ⟨name, named, -⟩ := bind_eq_ok_iff.mp read
  exact ⟨name, Document.nameOf_eq_ok_iff.mp (whenFault_eq_ok_iff.mp named)⟩

/-- What a record keeps under the name of a field that a member gives. -/
theorem lookup_known (new : found.lookup name = none) (g : Field) :
    (((name, v) :: found).lookup g.name).toList ++ values g.name members =
      (found.lookup g.name).toList ++ values g.name ((.str name, v) :: members) := by
  rw [lookup_cons_ite, Document.values_str]
  by_cases own : name = g.name
  · rw [if_pos own, if_pos own, ← own, new]
    rfl
  · rw [if_neg own, if_neg own]

private theorem values_unknown (unknown : fields.find? (·.name == name) = none) {g : Field} (mem : g ∈ fields) :
    values g.name ((.str name, v) :: members) = values g.name members := by
  have apart : ¬ name = g.name := by
    rintro rfl
    exact absurd (beq_self_eq_true g.name) (List.find?_eq_none.mp unknown g mem)
  rw [Document.values_str, if_neg apart]

/-- A record that was read from members: all of them fit, and it has what they give its fields. -/
theorem fromMembers_ok (read : fromMembers fields found members ending = .ok result) :
    ending = none ∧ (∀ m ∈ members, Fits fields m) ∧
      ∀ f ∈ fields, (result.lookup f.name).toList = (found.lookup f.name).toList ++ values f.name members := by
  induction members generalizing found with
  | nil =>
    obtain ⟨rfl, rfl⟩ := fromMembers_nil.mp read
    exact ⟨rfl, List.forall_mem_nil _, fun f _ => (List.append_nil _).symm⟩
  | cons m members ih =>
    obtain ⟨k, v⟩ := m
    obtain ⟨name, rfl⟩ := fromMembers_unnamed read
    cases own : fields.find? (·.name == name) with
    | none =>
      obtain ⟨passed, rest⟩ := (fromMembers_unknown own).mp read
      obtain ⟨whole, fits, kept⟩ := ih rest
      refine ⟨whole, List.forall_mem_cons.mpr ⟨⟨name, rfl, ?_⟩, fits⟩, fun g mem => ?_⟩
      · simp only [own]
        exact passed
      · rw [kept g mem, values_unknown own mem]
    | some f =>
      obtain ⟨new, checked, rest⟩ := (fromMembers_known own).mp read
      obtain ⟨whole, fits, kept⟩ := ih rest
      refine ⟨whole, List.forall_mem_cons.mpr ⟨⟨name, rfl, ?_⟩, fits⟩, fun g mem => ?_⟩
      · simp only [own]
        exact checked
      · rw [kept g mem, lookup_known new]

/-- Members that fit make a record, if no field stands among them twice. -/
theorem exists_fromMembers (fits : ∀ m ∈ members, Fits fields m)
    (once : ∀ f ∈ fields, ((found.lookup f.name).toList ++ values f.name members).length ≤ 1) :
    ∃ result, fromMembers fields found members none = .ok result := by
  induction members generalizing found with
  | nil => exact ⟨found, fromMembers_nil.mpr ⟨rfl, rfl⟩⟩
  | cons m members ih =>
    obtain ⟨k, v⟩ := m
    obtain ⟨⟨name, rfl, fit⟩, others⟩ := List.forall_mem_cons.mp fits
    dsimp only at fit
    cases own : fields.find? (·.name == name) with
    | none =>
      rw [own] at fit
      have single : ∀ g ∈ fields, ((found.lookup g.name).toList ++ values g.name members).length ≤ 1 := by
        intro g mem
        rw [← values_unknown (v := v) own mem]
        exact once g mem
      obtain ⟨result, rest⟩ := ih others single
      exact ⟨result, (fromMembers_unknown own).mpr ⟨fit, rest⟩⟩
    | some f =>
      rw [own] at fit
      have mem : f ∈ fields := List.mem_of_find?_eq_some own
      have same : f.name = name := by simpa using List.find?_some own
      have new : found.lookup name = none := by
        have single := once f mem
        rw [same, Document.values_str, if_pos rfl] at single
        cases earlier : found.lookup name with
        | none => rfl
        | some w => simp [earlier] at single
      have still : ∀ g ∈ fields,
          ((((name, v) :: found).lookup g.name).toList ++ values g.name members).length ≤ 1 := by
        intro g mem
        rw [lookup_known new]
        exact once g mem
      obtain ⟨result, rest⟩ := ih others still
      exact ⟨result, (fromMembers_known own).mpr ⟨new, fit, rest⟩⟩

theorem record_obj_iff : (∃ found, record expected fields (.obj members ending) = .ok found) ↔
    ending = none ∧ (∀ m ∈ members, Fits fields m) ∧ ∀ f ∈ fields, (values f.name members).length ≤ 1 := by
  constructor
  · rintro ⟨found, read⟩
    obtain ⟨whole, fits, kept⟩ := fromMembers_ok read
    refine ⟨whole, fits, fun f mem => ?_⟩
    have single : (found.lookup f.name).toList.length ≤ 1 := by cases found.lookup f.name <;> simp
    rw [kept f mem] at single
    exact single
  · rintro ⟨rfl, fits, once⟩
    exact exists_fromMembers fits once

/-- Of members that hold no fault it is only the fields that may not be as they should. -/
theorem exists_record (sound : ∀ m ∈ members, m.2.passed = .ok ()) (named : ∀ m ∈ members, ∃ n, m.1 = .str n)
    (each : ∀ f ∈ fields, values f.name members = [] ∨ ∃ v, values f.name members = [v] ∧ f.check v = .ok ()) :
    ∃ found, record expected fields (.obj members none) = .ok found := by
  refine record_obj_iff.mpr ⟨rfl, fun m mem => ?_, fun f own => ?_⟩
  · obtain ⟨name, spelt⟩ := named m mem
    refine ⟨name, spelt, ?_⟩
    cases own : fields.find? (·.name == name) with
    | none => exact sound m mem
    | some f =>
      have same : f.name = name := by simpa using List.find?_some own
      have given : m.2 ∈ values f.name members := by
        rw [Document.mem_values_iff, same, ← spelt]
        exact mem
      obtain none | ⟨v, single, checked⟩ := each f (List.mem_of_find?_eq_some own)
      · rw [none] at given
        cases given
      · rw [single, List.mem_singleton] at given
        rw [given]
        exact checked
  · obtain none | ⟨v, single, -⟩ := each f own
    · rw [none]
      exact Nat.zero_le 1
    · rw [single]
      exact Nat.le_refl 1

section

variable (read : record expected fields (.obj members ending) = .ok found) (own : f ∈ fields)

include read own

theorem lookup_record : (found.lookup f.name).toList = values f.name members :=
  ((fromMembers_ok read).2.2 f own).trans (List.nil_append _)

theorem required_eq_ok_iff :
    required found f.name dec = .ok a ↔ ∃ v, values f.name members = [v] ∧ dec v = .ok a := by
  rw [← lookup_record read own, required]
  cases found.lookup f.name with
  | none => simp
  | some v => simp

theorem withDefault_eq_ok_iff : withDefault found f.name dec default = .ok a ↔
    values f.name members = [] ∧ a = default ∨ ∃ v, values f.name members = [v] ∧ dec v = .ok a := by
  rw [← lookup_record read own, withDefault]
  cases found.lookup f.name with
  | none => simp [eq_comm]
  | some v => simp

end

theorem string_eq_ok_iff : string d = .ok s ↔ d = .str s := by
  constructor
  · intro read
    cases d with
    | str t => rw [Except.ok.inj read]
    | _ => cases read
  · rintro rfl
    rfl

theorem check_field_iff : (field name dec).check d = .ok () ↔ ∃ a, dec d = .ok a := by
  cases read : dec d with
  | ok a => simp [field, read, Except.map]
  | error r => simp [field, read, Except.map]

/-- Of a text that ends with its value nothing but the value counts. -/
theorem ofText_whole (whole : Document.ofText s = (d, false)) : ofText dec s = dec d := by
  unfold ofText
  rw [whole]
  change (dec d >>= fun a => _) = dec d
  generalize dec d = read
  cases read <;> rfl

end ScanProvisioning.Json.Decoder
