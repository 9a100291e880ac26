import ScanProvisioning.Proofs.Json.Document
import Mathlib.Logic.Relation

namespace ScanProvisioning.Json

open Document (values)

/-- What stands in a place of a document. -/
inductive Shape
  | value
  /--
  A record: what stands under the names it knows, the members that say as much as none, and the values that a
  member it does not know may have.
  -/
  | record (known : List (String × Shape)) (idle : List (String × Document)) (admits : Document → Prop)

namespace Shape

/-- What stands under a name. -/
def inner : Shape → Document → Shape
  | record known _ _, .str name => (known.lookup name).getD value
  | _, _ => value

def Unknown (name : String) : Shape → Prop
  | value => False
  | record known _ _ => known.lookup name = none

def Idle (name : String) (v : Document) : Shape → Prop
  | value => False
  | record _ idle _ => idle.lookup name = some v

def Admits (v : Document) : Shape → Prop
  | value => False
  | record _ _ admits => admits v

/-- A record that passes over the members it does not know. -/
def passing (known : List (String × Shape)) (idle : List (String × Document)) : Shape :=
  record known idle fun v => v.passed = .ok ()

end Shape

/-- One change to how a document is put, at any depth. -/
inductive Edit : Shape → Document → Document → Prop
  | permuted {s : Shape} {members members' : List (Document × Document)} (perm : members.Perm members') :
    Edit s (.obj members none) (.obj members' none)
  /-- A change inside a member, which is the first because members may change places. -/
  | member {s : Shape} {k v v' : Document} {members : List (Document × Document)}
    (edit : Edit (s.inner k) v v') :
    Edit s (.obj ((k, v) :: members) none) (.obj ((k, v') :: members) none)
  | item {s : Shape} {v v' : Document} {before after : List Document} (edit : Edit .value v v') :
    Edit s (.arr (before ++ v :: after) none) (.arr (before ++ v' :: after) none)
  | added {s : Shape} {name : String} {v : Document} {members : List (Document × Document)}
    (unknown : s.Unknown name) (admitted : s.Admits v) :
    Edit s (.obj members none) (.obj ((.str name, v) :: members) none)
  | dropped {s : Shape} {name : String} {v : Document} {members : List (Document × Document)}
    (needless : s.Unknown name ∨ s.Idle name v) :
    Edit s (.obj ((.str name, v) :: members) none) (.obj members none)

/-- A document put in other words. -/
def Restated (s : Shape) : Document → Document → Prop := Relation.ReflTransGen (Edit s)

/-- What becomes of the values under a name that stands in a record no more than once. -/
inductive Kept (s : Shape) (name : String) : List Document → List Document → Prop
  | same (vs : List Document) : Kept s name vs vs
  | edited {v v' : Document} (edit : Edit (s.inner (.str name)) v v') : Kept s name [v] [v']
  | dropped {v : Document} (idle : s.Idle name v) : Kept s name [v] []

/-- All that a change to an object can do to its members. -/
structure Edited (s : Shape) (members members' : List (Document × Document)) : Prop where
  origin : ∀ m' ∈ members', m' ∈ members ∨
    (∃ v, (m'.1, v) ∈ members ∧ Edit (s.inner m'.1) v m'.2) ∨
    (∃ name, m'.1 = .str name ∧ s.Unknown name ∧ s.Admits m'.2)
  kept : ∀ name, ¬ s.Unknown name → (values name members).length ≤ 1 →
    Kept s name (values name members) (values name members')

variable {s : Shape} {name : String} {k v d d' : Document} {members members' : List (Document × Document)}
  {ending : Option Fault}

theorem Kept.length_le {vs vs' : List Document} (kept : Kept s name vs vs') (single : vs.length ≤ 1) :
    vs'.length ≤ 1 := by
  cases kept with
  | same => exact single
  | edited => exact single
  | dropped => exact Nat.zero_le 1

theorem values_perm (perm : members.Perm members') : (values name members).Perm (values name members') := by
  induction perm with
  | nil => exact .nil
  | cons m perm ih =>
    rw [values, values]
    split
    · exact ih.cons _
    · exact ih
  | swap m m' members =>
    simp only [values]
    split <;> split
    · exact .swap _ _ _
    · exact .refl _
    · exact .refl _
    · exact .refl _
  | trans _ _ ih ih' => exact ih.trans ih'

private theorem perm_eq_of_length_le_one {α : Type} {as bs : List α} (perm : as.Perm bs)
    (short : as.length ≤ 1) :
    as = bs := by
  match as, short with
  | [], _ => exact (List.nil_perm.mp perm).symm
  | [a], _ => exact (List.singleton_perm.mp perm)

private theorem nil_of_cons_short {α : Type} {a : α} {as : List α} (short : (a :: as).length ≤ 1) : as = [] :=
  List.eq_nil_of_length_eq_zero (Nat.le_zero.mp (Nat.le_of_succ_le_succ short))

/-- The one place where changes to an object are told apart. -/
theorem Edit.obj (edit : Edit s (.obj members ending) d) :
    ending = none ∧ ∃ members', d = .obj members' none ∧ Edited s members members' := by
  cases edit with
  | permuted perm =>
    refine ⟨rfl, _, rfl, fun m mem => .inl (perm.mem_iff.mpr mem), fun name _ single => ?_⟩
    rw [perm_eq_of_length_le_one (values_perm perm) single]
    exact .same _
  | @member _ k v v' rest edit =>
    refine ⟨rfl, _, rfl, fun m mem => ?_, fun name _ single => ?_⟩
    · obtain rfl | mem := List.mem_cons.mp mem
      · exact .inr (.inl ⟨v, List.mem_cons_self, edit⟩)
      · exact .inl (List.mem_cons_of_mem _ mem)
    · rw [values] at single ⊢
      rw [values]
      by_cases own : k.text? = some name
      · rw [if_pos own] at single ⊢
        rw [if_pos own]
        rw [nil_of_cons_short single]
        rw [Document.text?_eq_some_iff.mp own] at edit
        exact .edited edit
      · rw [if_neg own, if_neg own]
        exact .same _
  | @added _ name v _ unknown admitted =>
    refine ⟨rfl, _, rfl, fun m mem => ?_, fun other known _ => ?_⟩
    · obtain rfl | mem := List.mem_cons.mp mem
      · exact .inr (.inr ⟨name, rfl, unknown, admitted⟩)
      · exact .inl mem
    · have apart : ¬ name = other := fun same => known (same ▸ unknown)
      rw [Document.values_str, if_neg apart]
      exact .same _
  | @dropped _ name v rest needless =>
    refine ⟨rfl, _, rfl, fun m mem => .inl (List.mem_cons_of_mem _ mem), fun other known single => ?_⟩
    rw [Document.values_str] at single ⊢
    by_cases own : name = other
    · subst own
      rw [if_pos rfl] at single ⊢
      rw [nil_of_cons_short single]
      exact .dropped (needless.resolve_left known)
    · rw [if_neg own]
      exact .same _

/-- Only arrays and objects can be put in other words. -/
theorem Edit.nested (edit : Edit s d d') :
    (∃ items, d = .arr items none) ∨ ∃ members, d = .obj members none := by
  cases edit with
  | item => exact .inl ⟨_, rfl⟩
  | permuted | member | added | dropped => exact .inr ⟨_, rfl⟩

/-- In a value that is no record members and items only change places or change inside. -/
theorem Edit.value_induction {motive : ∀ d d', Edit .value d d' → Prop}
    (permuted : ∀ {members members'} (perm : List.Perm members members'), motive _ _ (.permuted perm))
    (member : ∀ {k v v' members} (edit : Edit .value v v'), motive _ _ edit →
      motive (.obj ((k, v) :: members) none) (.obj ((k, v') :: members) none) (.member edit))
    (item : ∀ {v v' before after} (edit : Edit .value v v'), motive _ _ edit →
      motive (.arr (before ++ v :: after) none) (.arr (before ++ v' :: after) none) (.item edit))
    (edit : Edit .value d d') : motive _ _ edit := by
  have every {s : Shape} {d d' : Document} (edit : Edit s d d') (plain : s = .value) :
      motive d d' (plain ▸ edit) := by
    induction edit with
    | permuted perm =>
      subst plain
      exact permuted perm
    | member edit ih =>
      subst plain
      exact member edit (ih rfl)
    | item edit ih =>
      subst plain
      exact item edit (ih rfl)
    | added unknown =>
      subst plain
      exact unknown.elim
    | dropped needless =>
      subst plain
      exact (needless.elim id id).elim
  exact every edit rfl

/-- What may change in any value may change in a record. -/
theorem Edit.anywhere (edit : Edit .value d d') : Edit s d d' := by
  induction edit using Edit.value_induction generalizing s with
  | permuted perm => exact .permuted perm
  | member _ ih => exact .member ih
  | item edit => exact .item edit

section

variable {depth : Nat} {items : List Document}

/-- A document has a value, nested less than `depth` deep. -/
def HasValue (depth : Nat) (d : Document) : Prop := ∃ v, d.toJson depth = .ok v

theorem exists_toItems_iff :
    (∃ vs, Document.toItems depth items = .ok vs) ↔ ∀ v ∈ items, HasValue depth v := by
  induction items with
  | nil => exact ⟨fun _ => List.forall_mem_nil _, fun _ => ⟨[], rfl⟩⟩
  | cons v items ih =>
    rw [List.forall_mem_cons, ← ih]
    constructor
    · rintro ⟨vs, read⟩
      obtain ⟨w, ws, first, rest, -⟩ := Document.toItems_cons read
      exact ⟨⟨w, first⟩, ws, rest⟩
    · rintro ⟨⟨w, first⟩, ws, rest⟩
      refine ⟨w :: ws, ?_⟩
      rw [Document.toItems, first, rest]
      rfl

theorem exists_toMembers_iff : (∃ ms, Document.toMembers depth members = .ok ms) ↔
    ∀ m ∈ members, (∃ n, m.1 = .str n) ∧ HasValue depth m.2 := by
  induction members with
  | nil => exact ⟨fun _ => List.forall_mem_nil _, fun _ => ⟨[], rfl⟩⟩
  | cons m members ih =>
    obtain ⟨k, v⟩ := m
    rw [List.forall_mem_cons, ← ih]
    constructor
    · rintro ⟨ms, read⟩
      obtain ⟨n, w, ws, named, first, rest, -⟩ := Document.toMembers_cons read
      exact ⟨⟨⟨n, named⟩, w, first⟩, ws, rest⟩
    · rintro ⟨⟨⟨n, named⟩, w, first⟩, ws, rest⟩
      dsimp only at named first
      subst named
      refine ⟨(n, w) :: ws, ?_⟩
      rw [Document.toMembers, first, rest]
      rfl

theorem hasValue_arr_iff : HasValue (depth + 1) (.arr items none) ↔ ∀ v ∈ items, HasValue depth v := by
  rw [← exists_toItems_iff]
  constructor
  · rintro ⟨v, read⟩
    obtain ⟨vs, inside, -⟩ := bind_eq_ok_iff.mp read
    exact ⟨vs, inside⟩
  · rintro ⟨vs, inside⟩
    exact ⟨.arr vs, bind_eq_ok_iff.mpr ⟨vs, inside, rfl⟩⟩

theorem hasValue_obj_iff : HasValue (depth + 1) (.obj members none) ↔
    ∀ m ∈ members, (∃ n, m.1 = .str n) ∧ HasValue depth m.2 := by
  rw [← exists_toMembers_iff]
  constructor
  · rintro ⟨v, read⟩
    obtain ⟨ms, inside, -⟩ := bind_eq_ok_iff.mp read
    exact ⟨ms, inside⟩
  · rintro ⟨ms, inside⟩
    exact ⟨.object ms, bind_eq_ok_iff.mpr ⟨ms, inside, rfl⟩⟩

theorem passed_arr_iff : (Document.arr items none).passed = .ok () ↔ ∀ v ∈ items, v.passed = .ok () := by
  rw [Document.passed]
  induction items with
  | nil => simp [Document.passedItems]
  | cons v items ih =>
    rw [Document.passedItems, List.forall_mem_cons]
    cases v.passed with
    | error f => simp
    | ok => simpa using ih

/-- A value stays a value in other words, and as deep. -/
theorem Edit.hasValue (edit : Edit .value d d') (valued : HasValue depth d) : HasValue depth d' := by
  induction edit using Edit.value_induction generalizing depth with
  | permuted perm =>
    cases depth with
    | zero => exact valued.elim nofun
    | succ depth =>
      have each := hasValue_obj_iff.mp valued
      exact hasValue_obj_iff.mpr fun m mem => each m (perm.mem_iff.mpr mem)
  | member _ ih =>
    cases depth with
    | zero => exact valued.elim nofun
    | succ depth =>
      obtain ⟨⟨named, first⟩, rest⟩ := List.forall_mem_cons.mp (hasValue_obj_iff.mp valued)
      exact hasValue_obj_iff.mpr (List.forall_mem_cons.mpr ⟨⟨named, ih first⟩, rest⟩)
  | item _ ih =>
    cases depth with
    | zero => exact valued.elim nofun
    | succ depth =>
      have each := hasValue_arr_iff.mp valued
      rw [List.forall_mem_append, List.forall_mem_cons] at each
      obtain ⟨ahead, own, behind⟩ := each
      refine hasValue_arr_iff.mpr ?_
      rw [List.forall_mem_append, List.forall_mem_cons]
      exact ⟨ahead, ih own, behind⟩

/-- What can be passed over can be passed over in other words. -/
theorem Edit.passed (edit : Edit .value d d') (passed : d.passed = .ok ()) : d'.passed = .ok () := by
  induction edit using Edit.value_induction with
  | permuted perm =>
    obtain ⟨-, each⟩ := Document.passed_obj_iff.mp passed
    exact Document.passed_obj_iff.mpr ⟨rfl, fun m mem => each m (perm.mem_iff.mpr mem)⟩
  | member _ ih =>
    obtain ⟨-, each⟩ := Document.passed_obj_iff.mp passed
    obtain ⟨⟨named, first⟩, rest⟩ := List.forall_mem_cons.mp each
    exact Document.passed_obj_iff.mpr ⟨rfl, List.forall_mem_cons.mpr ⟨⟨named, ih first⟩, rest⟩⟩
  | item _ ih =>
    have each := passed_arr_iff.mp passed
    rw [List.forall_mem_append, List.forall_mem_cons] at each
    obtain ⟨ahead, own, behind⟩ := each
    refine passed_arr_iff.mpr ?_
    rw [List.forall_mem_append, List.forall_mem_cons]
    exact ⟨ahead, ih own, behind⟩

end

/-- A change to an object leads from its members to members that still have what each change keeps. -/
theorem Restated.obj {P : List (Document × Document) → Prop}
    (step : ∀ {members members'}, Edited s members members' → P members → P members')
    (restated : Restated s (.obj members none) d) (start : P members) :
    ∃ members', d = .obj members' none ∧ P members' := by
  induction restated with
  | refl => exact ⟨members, rfl, start⟩
  | tail _ edit ih =>
    obtain ⟨members', rfl, kept⟩ := ih
    obtain ⟨-, members'', rfl, edited⟩ := edit.obj
    exact ⟨members'', rfl, step edited kept⟩

/-- The members of other names. -/
def apart (own : List String) (members : List (Document × Document)) : List (Document × Document) :=
  members.filter fun m => m.1.text? ∉ own.map some

section

variable {names : List String}

theorem text?_mem_iff : (Document.str name).text? ∈ names.map some ↔ name ∈ names := by
  simp [Document.text?]

theorem apart_cons_own (mem : name ∈ names) : apart names ((.str name, v) :: members) = apart names members :=
  List.filter_cons_of_neg (by simpa [Document.text?] using mem)

theorem apart_cons_other (other : name ∉ names) :
    apart names ((.str name, v) :: members) = (.str name, v) :: apart names members :=
  List.filter_cons_of_pos (by simpa [Document.text?] using other)

theorem mem_apart_iff {m : Document × Document} :
    m ∈ apart names members ↔ m ∈ members ∧ m.1.text? ∉ names.map some := by
  rw [apart, List.mem_filter, decide_eq_true_iff]

theorem values_apart :
    values name (apart names members) = if name ∈ names then [] else values name members := by
  induction members with
  | nil => exact (ite_self _).symm
  | cons m members ih =>
    obtain ⟨k, v⟩ := m
    by_cases own : k.text? = some name
    · obtain rfl := Document.text?_eq_some_iff.mp own
      by_cases mem : name ∈ names
      · rw [apart_cons_own mem, ih, if_pos mem, if_pos mem]
      · rw [apart_cons_other mem, Document.values_str, if_pos rfl, ih, if_neg mem, if_neg mem,
          Document.values_str,
          if_pos rfl]
    · have skipped : values name (apart names ((k, v) :: members)) = values name (apart names members) := by
        rw [apart, List.filter_cons]
        split
        · rw [values, if_neg own]
          rfl
        · rfl
      rw [skipped, ih, values, if_neg own]

theorem Edited.apart (edited : Edited s members members') :
    Edited s (apart names members) (apart names members') where
  origin m mem := by
    obtain ⟨mem, other⟩ := mem_apart_iff.mp mem
    obtain same | ⟨v, mem, edit⟩ | added := edited.origin m mem
    · exact .inl (mem_apart_iff.mpr ⟨same, other⟩)
    · exact .inr (.inl ⟨v, mem_apart_iff.mpr ⟨mem, other⟩, edit⟩)
    · exact .inr (.inr added)
  kept name known single := by
    rw [values_apart] at single
    rw [values_apart, values_apart]
    by_cases own : name ∈ names
    · rw [if_pos own, if_pos own]
      exact .same _
    · rw [if_neg own] at single
      rw [if_neg own, if_neg own]
      exact edited.kept name known single

end

section

variable {known known' : List (String × Shape)} {idle : List (String × Document)} {admits : Document → Prop}

theorem inner_of_flat (flat : ∀ m ∈ known, m.2 = .value) :
    (Shape.record known idle admits).inner k = .value := by
  cases k with
  | str name =>
    rw [Shape.inner]
    cases there : known.lookup name with
    | none => rfl
    | some t =>
      obtain ⟨before, after, rfl, -⟩ := List.lookup_eq_some_iff.mp there
      exact flat (name, t) (List.mem_append_right _ List.mem_cons_self)
  | _ => rfl

/-- In a record of values it is no change of another kind to know fewer names. -/
theorem Edited.narrow (flat : ∀ m ∈ known, m.2 = .value) (flat' : ∀ m ∈ known', m.2 = .value)
    (fewer : ∀ name, known.lookup name = none → known'.lookup name = none)
    (edited : Edited (.record known idle admits) members members') :
    Edited (.record known' idle admits) members members' where
  origin m mem := by
    obtain same | ⟨v, mem, edit⟩ | ⟨name, named, unknown, admitted⟩ := edited.origin m mem
    · exact .inl same
    · rw [inner_of_flat flat] at edit
      exact .inr (.inl ⟨v, mem, (inner_of_flat flat').symm ▸ edit⟩)
    · exact .inr (.inr ⟨name, named, fewer name unknown, admitted⟩)
  kept name own single := by
    have kept := edited.kept name (fun unknown => own (fewer name unknown)) single
    generalize values name members = vs, values name members' = vs' at kept
    cases kept with
    | same => exact .same _
    | edited edit =>
      rw [inner_of_flat flat] at edit
      exact .edited ((inner_of_flat flat').symm ▸ edit)
    | dropped idle => exact .dropped idle

end

end ScanProvisioning.Json
