import ScanProvisioning.Proofs.Json.Record
import ScanProvisioning.Proofs.Json.Restated

namespace ScanProvisioning.Json.Decoder

open Document (values)

variable {α β : Type}

/-- Where the first succeeds the second has the same result. -/
def Follows (x y : Except Refusal α) : Prop := ∀ a, x = .ok a → y = .ok a

/-- A decoder that reads the same from a document in other words. -/
def Steady (s : Shape) (dec : Decoder α) : Prop := ∀ d d', Edit s d d' → Follows (dec d) (dec d')

theorem Follows.refl (x : Except Refusal α) : Follows x x := fun _ => id

theorem Follows.bind {x y : Except Refusal α} {f g : α → Except Refusal β} (first : Follows x y)
    (rest : ∀ a, Follows (f a) (g a)) : Follows (x >>= f) (y >>= g) := by
  intro b read
  obtain ⟨a, ok, read⟩ := bind_eq_ok_iff.mp read
  exact bind_eq_ok_iff.mpr ⟨a, first a ok, rest a b read⟩

theorem Follows.map {x y : Except Refusal α} (f : α → β) (first : Follows x y) :
    Follows (x.map f) (y.map f) := by
  intro b read
  cases x with
  | error r => cases read
  | ok a =>
    rw [first a rfl]
    exact read

variable {s : Shape} {dec : Decoder α} {d d' : Document}

theorem Steady.restated (steady : Steady s dec) (restated : Restated s d d') : Follows (dec d) (dec d') := by
  induction restated with
  | refl => exact .refl _
  | tail _ edit ih => exact fun a read => steady _ _ edit a (ih a read)

/-- What is read from neither arrays nor objects is read from nothing that can be put in other words. -/
theorem steady_of_scalar (arr : ∀ items a, dec (.arr items none) ≠ .ok a)
    (obj : ∀ members a, dec (.obj members none) ≠ .ok a) : Steady s dec := by
  intro d d' edit a read
  obtain ⟨items, rfl⟩ | ⟨members, rfl⟩ := edit.nested
  · exact (arr items a read).elim
  · exact (obj members a read).elim

theorem string_steady : Steady s string := steady_of_scalar (fun _ _ => nofun) (fun _ _ => nofun)

theorem boolean_steady : Steady s boolean := steady_of_scalar (fun _ _ => nofun) (fun _ _ => nofun)

theorem uint32_steady : Steady s uint32 := steady_of_scalar (fun _ _ => nofun) (fun _ _ => nofun)

theorem Steady.field {name : String} (steady : Steady s dec) : Steady s (field name dec).check :=
  fun d d' edit => (steady d d' edit).map _

theorem Steady.optionalField {name : String} (steady : Steady s dec) :
    Steady s (optionalField name dec).check :=
  fun d d' edit => (steady d d' edit).map _

private theorem choice_obj {choices : List (String × α)} {members : List (Document × Document)} {a : α}
    (read : choice choices (.obj members none) = .ok a) : ∃ k, members = [(k, .null)] := by
  match members with
  | [] => cases read
  | (k, v) :: rest =>
    cases k with
    | str name =>
      rw [choice] at read
      obtain ⟨_, _, read⟩ := bind_eq_ok_iff.mp read
      obtain ⟨_, empty, read⟩ := bind_eq_ok_iff.mp read
      cases rest with
      | cons => cases read
      | nil =>
        cases v with
        | null => exact ⟨.str name, rfl⟩
        | _ => cases empty
    | _ => cases read

/-- The object that makes a choice has one member and nothing in it. -/
theorem choice_steady {choices : List (String × α)} : Steady .value (choice choices) := by
  intro d d' edit a read
  cases edit with
  | permuted perm =>
    obtain ⟨k, rfl⟩ := choice_obj read
    rw [← List.singleton_perm.mp perm]
    exact read
  | member edit =>
    obtain ⟨k, single⟩ := choice_obj read
    obtain ⟨⟨-, rfl⟩, -⟩ := by simpa only [List.cons.injEq, Prod.mk.injEq] using single
    cases edit
  | item => cases read
  | added unknown => exact unknown.elim
  | dropped needless => exact (needless.elim id id).elim

/-- The fields of a record are the members that a shape knows, and each reads the same in other words. -/
def Suits (known : List (String × Shape)) (fields : List Field) : Prop :=
  List.Forall₂ (fun m f => m.1 = f.name ∧ Steady m.2 f.check) known fields

variable {known : List (String × Shape)} {idle : List (String × Document)} {admits : Document → Prop}
  {fields : List Field} {members members' : List (Document × Document)} {found found' : Found}
  {name expected : String} {default : α}

theorem Suits.find (suits : Suits known fields) (name : String) :
    known.lookup name = none ∧ fields.find? (·.name == name) = none ∨
      ∃ t f, known.lookup name = some t ∧ fields.find? (·.name == name) = some f ∧ Steady t f.check := by
  induction suits with
  | nil => exact .inl ⟨rfl, rfl⟩
  | @cons m f known fields own _ ih =>
    obtain ⟨n, t⟩ := m
    obtain ⟨rfl, steady⟩ := own
    rw [lookup_cons_ite, List.find?_cons]
    by_cases same : f.name = name
    · rw [if_pos same, beq_iff_eq.mpr same]
      exact .inr ⟨t, f, rfl, rfl, steady⟩
    · rw [if_neg same, beq_eq_false_iff_ne.mpr same]
      exact ih

private theorem Suits.lookup_ne_none (suits : Suits known fields) {f : Field} (own : f ∈ fields) :
    known.lookup f.name ≠ none := by
  obtain ⟨-, missing⟩ | ⟨t, _, there, -⟩ := suits.find f.name
  · exact absurd (beq_self_eq_true f.name) (List.find?_eq_none.mp missing f own)
  · rw [there]
    exact nofun

/-- A member still fits when what it holds is put in other words. -/
theorem Fits.edited (suits : Suits known fields) {k v v' : Document}
    (fits : Fits fields (k, v)) (edit : Edit ((Shape.record known idle admits).inner k) v v') :
    Fits fields (k, v') := by
  obtain ⟨name, rfl, fit⟩ := fits
  refine ⟨name, rfl, ?_⟩
  dsimp only [Shape.inner] at edit fit ⊢
  obtain ⟨unknown, missing⟩ | ⟨t, f, there, given, steady⟩ := suits.find name
  · rw [unknown] at edit
    rw [missing] at fit ⊢
    exact edit.passed fit
  · rw [there] at edit
    rw [given] at fit ⊢
    exact steady v v' edit () fit

/-- A record read from an object is read from its other words too, with the same fields or their other words. -/
theorem record_edited (suits : Suits known fields) (pass : ∀ v, admits v → v.passed = .ok ())
    (edited : Edited (.record known idle admits) members members')
    (read : record expected fields (.obj members none) = .ok found) :
    ∃ found', record expected fields (.obj members' none) = .ok found' ∧ ∀ f ∈ fields,
      Kept (.record known idle admits) f.name (found.lookup f.name).toList (found'.lookup f.name).toList := by
  obtain ⟨-, fits, once⟩ := record_obj_iff.mp ⟨found, read⟩
  have kept : ∀ f ∈ fields,
      Kept (.record known idle admits) f.name (values f.name members) (values f.name members') :=
    fun f own => edited.kept f.name (suits.lookup_ne_none own) (once f own)
  have fits' : ∀ m ∈ members', Fits fields m := by
    rintro ⟨k, v'⟩ mem
    obtain same | ⟨v, mem, edit⟩ | ⟨name, rfl, unknown, admitted⟩ := edited.origin _ mem
    · exact fits _ same
    · exact (fits _ mem).edited suits edit
    · refine ⟨name, rfl, ?_⟩
      obtain ⟨-, missing⟩ | ⟨t, f, there, -⟩ := suits.find name
      · rw [missing]
        exact pass v' admitted
      · cases there.symm.trans unknown
  have once' : ∀ f ∈ fields, (values f.name members').length ≤ 1 := by
    intro f own
    exact (kept f own).length_le (once f own)
  obtain ⟨found', read'⟩ := record_obj_iff.mpr ⟨rfl, fits', once'⟩
  refine ⟨found', read', fun f own => ?_⟩
  rw [lookup_record read own, lookup_record read' own]
  exact kept f own

theorem fromItems_cons_iff {index : Nat} {f : Field} {v : Document} {items : List Document}
    {ending : Option Fault} :
    fromItems expected ending index (f :: fields) (v :: items) = .ok found ↔
      f.check v = .ok () ∧ ∃ rest, fromItems expected ending (index + 1) fields items = .ok rest ∧
        found = (f.name, v) :: rest := by
  rw [fromItems]
  constructor
  · intro read
    obtain ⟨⟨⟩, checked, read⟩ := bind_eq_ok_iff.mp read
    obtain ⟨rest, others, read⟩ := bind_eq_ok_iff.mp read
    exact ⟨checked, rest, others, (Except.ok.inj read).symm⟩
  · rintro ⟨checked, rest, others, rfl⟩
    exact bind_eq_ok_iff.mpr ⟨(), checked, bind_eq_ok_iff.mpr ⟨rest, others, rfl⟩⟩

/-- A record read from an array is read from it with an item in other words too. -/
theorem fromItems_edited {s : Shape} {index : Nat} {v v' : Document} {before after : List Document}
    {ending : Option Fault} (suits : Suits known fields) (edit : Edit .value v v')
    (read : fromItems expected ending index fields (before ++ v :: after) = .ok found) :
    ∃ found', fromItems expected ending index fields (before ++ v' :: after) = .ok found' ∧
      ∀ name, Kept s name (found.lookup name).toList (found'.lookup name).toList := by
  induction suits generalizing index before found with
  | nil => cases before <;> cases read
  | @cons m f known fields own _ ih =>
    cases before with
    | nil =>
      obtain ⟨checked, rest, others, rfl⟩ := fromItems_cons_iff.mp read
      have checked' : f.check v' = .ok () := own.2 v v' edit.anywhere () checked
      refine ⟨_, fromItems_cons_iff.mpr ⟨checked', rest, others, rfl⟩, fun name => ?_⟩
      rw [lookup_cons_ite, lookup_cons_ite]
      split
      · exact .edited edit.anywhere
      · exact .same _
    | cons w before =>
      obtain ⟨checked, rest, others, rfl⟩ := fromItems_cons_iff.mp read
      obtain ⟨rest', others', kept⟩ := ih others
      refine ⟨_, fromItems_cons_iff.mpr ⟨checked, rest', others', rfl⟩, fun name => ?_⟩
      rw [lookup_cons_ite, lookup_cons_ite]
      split
      · exact .same _
      · exact kept name

/-- What is made of the fields of a record is the same in other words if each part of it is. -/
theorem steady_record {make : Found → Except Refusal α} (suits : Suits known fields)
    (pass : ∀ v, admits v → v.passed = .ok ())
    (reads : ∀ found found', (∀ f ∈ fields, Kept (.record known idle admits) f.name (found.lookup f.name).toList
      (found'.lookup f.name).toList) → Follows (make found) (make found')) :
    Steady (.record known idle admits) fun d => record expected fields d >>= make := by
  intro d d' edit a read
  obtain ⟨found, fields, made⟩ := bind_eq_ok_iff.mp read
  obtain ⟨items, rfl⟩ | ⟨members, rfl⟩ := edit.nested
  · cases edit with
    | item edit =>
      obtain ⟨found', fields', kept⟩ := fromItems_edited suits edit fields
      exact bind_eq_ok_iff.mpr ⟨found', fields', reads found found' (fun f _ => kept f.name) a made⟩
  · obtain ⟨-, members', rfl, edited⟩ := edit.obj
    obtain ⟨found', fields', kept⟩ := record_edited suits pass edited fields
    exact bind_eq_ok_iff.mpr ⟨found', fields', reads found found' kept a made⟩

section

variable {s : Shape} (kept : Kept s name (found.lookup name).toList (found'.lookup name).toList)
  (steady : Steady (s.inner (.str name)) dec)

include kept steady

theorem required_follows (busy : ∀ v, ¬ s.Idle name v) :
    Follows (required found name dec) (required found' name dec) := by
  unfold required
  generalize found.lookup name = v, found'.lookup name = v' at kept
  cases v with
  | none => exact fun _ => nofun
  | some v =>
    cases v' with
    | none =>
      cases kept with
      | dropped idle => exact (busy v idle).elim
    | some v' =>
      cases kept with
      | same => exact .refl _
      | edited edit => exact steady v v' edit

theorem withDefault_follows (idle : ∀ v, s.Idle name v → dec v = .ok default) :
    Follows (withDefault found name dec default) (withDefault found' name dec default) := by
  unfold withDefault
  generalize found.lookup name = v, found'.lookup name = v' at kept
  cases v with
  | none =>
    cases v' with
    | none => exact .refl _
    | some v' => cases kept
  | some v =>
    cases v' with
    | none =>
      cases kept with
      | dropped same =>
        intro a read
        exact (idle v same).symm.trans read
    | some v' =>
      cases kept with
      | same => exact .refl _
      | edited edit => exact steady v v' edit

end

end ScanProvisioning.Json.Decoder
