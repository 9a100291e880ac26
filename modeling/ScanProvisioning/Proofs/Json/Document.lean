import ScanProvisioning.Json.Decoder
import Mathlib.Data.List.Forall2

namespace ScanProvisioning.Json

theorem bind_eq_ok_iff {ε α β : Type} {x : Except ε α} {f : α → Except ε β} {b : β} :
    x >>= f = .ok b ↔ ∃ a, x = .ok a ∧ f a = .ok b := by
  cases x with
  | error e => exact ⟨nofun, nofun⟩
  | ok a =>
    constructor
    · exact fun same => ⟨a, rfl, same⟩
    · rintro ⟨_, ⟨⟩, same⟩
      exact same

namespace Document

/-- The text that a document is. -/
def text? : Document → Option String
  | str s => some s
  | _ => none

/-- The values that members give a name, in their order. -/
def values (name : String) : List (Document × Document) → List Document
  | [] => []
  | (k, v) :: rest => if k.text? = some name then v :: values name rest else values name rest

/-- What an object has under a name; of two members with the same name the later counts. -/
def last? (name : String) : Document → Option Document
  | obj members _ => (values name members).getLast?
  | _ => none

theorem text?_eq_some_iff {d : Document} {s : String} : d.text? = some s ↔ d = .str s := by
  constructor
  · intro text
    cases d with
    | str t => rw [Option.some.inj text]
    | _ => cases text
  · rintro rfl
    rfl

section

variable {name n : String} {k v : Document} {members : List (Document × Document)} {ending : Option Fault}

theorem values_str : values name ((.str n, v) :: members) =
    if n = name then v :: values name members else values name members := by
  simp only [values, text?, Option.some.injEq]

theorem mem_values_iff : v ∈ values name members ↔ (.str name, v) ∈ members := by
  induction members with
  | nil => simp [values]
  | cons m members ih =>
    obtain ⟨k, w⟩ := m
    rw [values, List.mem_cons, ← ih, Prod.mk.injEq]
    by_cases own : k.text? = some name
    · rw [if_pos own, List.mem_cons, text?_eq_some_iff.mp own]
      simp
    · have apart : .str name ≠ k := fun same => own (text?_eq_some_iff.mpr same.symm)
      simp [own, apart]

theorem nameOf_eq_ok_iff : nameOf k = .ok n ↔ k = .str n := by
  constructor
  · intro read
    cases k with
    | str s => rw [Except.ok.inj read]
    | _ => cases read
  · rintro rfl
    rfl

theorem passed_obj_iff : (obj members ending).passed = .ok () ↔
    ending = none ∧ ∀ m ∈ members, m.1.passedName = .ok () ∧ m.2.passed = .ok () := by
  rw [passed]
  induction members with
  | nil => cases ending <;> simp [passedMembers]
  | cons m members ih =>
    obtain ⟨k, v⟩ := m
    rw [passedMembers, List.forall_mem_cons]
    cases k.passedName with
    | error f => simp
    | ok =>
      cases v.passed with
      | error f => simp
      | ok => simpa using ih

end

section

variable {depth : Nat}

theorem toJson_arr {items : List Document} {ending : Option Fault} {v : Json}
    (read : (arr items ending).toJson depth = .ok v) :
    ∃ inner vs, toItems inner items = .ok vs ∧ ending = none ∧ v = .arr vs := by
  cases depth with
  | zero => cases read
  | succ depth =>
    obtain ⟨vs, inner, last⟩ := bind_eq_ok_iff.mp read
    cases ending with
    | some f => cases last
    | none => exact ⟨depth, vs, inner, rfl, (Except.ok.inj last).symm⟩

theorem toJson_obj {members : List (Document × Document)} {ending : Option Fault} {v : Json}
    (read : (obj members ending).toJson depth = .ok v) :
    ∃ inner ms, toMembers inner members = .ok ms ∧ ending = none ∧ v = .object ms := by
  cases depth with
  | zero => cases read
  | succ depth =>
    obtain ⟨ms, inner, last⟩ := bind_eq_ok_iff.mp read
    cases ending with
    | some f => cases last
    | none => exact ⟨depth, ms, inner, rfl, (Except.ok.inj last).symm⟩

theorem toItems_cons {d : Document} {items : List Document} {vs : List Json}
    (read : toItems depth (d :: items) = .ok vs) :
    ∃ w ws, d.toJson depth = .ok w ∧ toItems depth items = .ok ws ∧ vs = w :: ws := by
  rw [toItems] at read
  obtain ⟨w, first, read⟩ := bind_eq_ok_iff.mp read
  obtain ⟨ws, rest, read⟩ := bind_eq_ok_iff.mp read
  exact ⟨w, ws, first, rest, (Except.ok.inj read).symm⟩

theorem toMembers_cons {k d : Document} {members : List (Document × Document)} {ms : List (String × Json)}
    (read : toMembers depth ((k, d) :: members) = .ok ms) :
    ∃ n w ws, k = .str n ∧ d.toJson depth = .ok w ∧ toMembers depth members = .ok ws ∧ ms = (n, w) :: ws := by
  rw [toMembers] at read
  obtain ⟨n, name, read⟩ := bind_eq_ok_iff.mp read
  obtain ⟨w, first, read⟩ := bind_eq_ok_iff.mp read
  obtain ⟨ws, rest, read⟩ := bind_eq_ok_iff.mp read
  exact ⟨n, w, ws, nameOf_eq_ok_iff.mp name, first, rest, (Except.ok.inj read).symm⟩

end

mutual

/-- A document that has a value holds no fault. -/
theorem passed_of_toJson {depth : Nat} {d : Document} {v : Json} (read : d.toJson depth = .ok v) :
    d.passed = .ok () := by
  cases d with
  | null | bool | int | float | str => rfl
  | flawedText f p | flawedScalar f p => cases depth <;> cases read
  | nothing f => cases depth <;> cases read
  | arr items ending =>
    obtain ⟨inner, vs, inside, rfl, -⟩ := toJson_arr read
    exact passedItems_of_toItems inside
  | obj members ending =>
    obtain ⟨inner, ms, inside, rfl, -⟩ := toJson_obj read
    exact passedMembers_of_toMembers inside

private theorem passedItems_of_toItems {depth : Nat} {items : List Document} {vs : List Json}
    (read : toItems depth items = .ok vs) : passedItems items none = .ok () := by
  cases items with
  | nil => rfl
  | cons d items =>
    obtain ⟨w, ws, first, rest, -⟩ := toItems_cons read
    rw [passedItems, passed_of_toJson first]
    exact passedItems_of_toItems rest

private theorem passedMembers_of_toMembers {depth : Nat} {members : List (Document × Document)}
    {ms : List (String × Json)} (read : toMembers depth members = .ok ms) :
    passedMembers members none = .ok () := by
  cases members with
  | nil => rfl
  | cons m members =>
    obtain ⟨k, d⟩ := m
    obtain ⟨n, w, ws, rfl, first, rest, -⟩ := toMembers_cons read
    rw [passedMembers, passedName, passed_of_toJson first]
    exact passedMembers_of_toMembers rest

end

end Document

section

variable {name : String}

theorem lookup_cons_ite {α : Type} (n : String) (a : α) (ms : List (String × α)) :
    ((n, a) :: ms).lookup name = if n = name then some a else ms.lookup name := by
  rw [List.lookup_cons]
  by_cases own : n = name
  · rw [own, beq_self_eq_true, if_pos rfl]
  · rw [beq_eq_false_iff_ne.mpr (Ne.symm own), if_neg own]

private theorem lookup_insert (n : String) (w : Json) (ms : List (String × Json)) :
    (insert n w ms).lookup name = if n = name then some w else ms.lookup name := by
  induction ms with
  | nil => rw [insert, lookup_cons_ite]
  | cons m ms ih =>
    obtain ⟨k, u⟩ := m
    rw [insert]
    split
    · rw [lookup_cons_ite]
    split
    · next same =>
      subst same
      rw [lookup_cons_ite, lookup_cons_ite]
      split <;> rfl
    · next apart =>
      rw [lookup_cons_ite, ih, lookup_cons_ite]
      split
      · next first => rw [if_neg (first ▸ apart)]
      · rfl

/-- The members of that name, in their order. -/
def valuesOf (name : String) (ms : List (String × Json)) : List Json :=
  (ms.filter fun m => m.1 = name).map Prod.snd

private theorem lookup_foldl_insert (ms earlier : List (String × Json)) :
    (ms.foldl (fun ms m => insert m.1 m.2 ms) earlier).lookup name =
      (valuesOf name ms).getLast?.or (earlier.lookup name) := by
  induction ms generalizing earlier with
  | nil => rfl
  | cons m ms ih =>
    rw [List.foldl_cons, ih, lookup_insert, valuesOf, valuesOf, List.filter_cons]
    by_cases own : m.1 = name
    · simp [own, List.getLast?_cons]
    · simp [own]

private theorem getLast?_rel {α β : Type} {R : α → β → Prop} {as : List α} {bs : List β}
    (rel : List.Forall₂ R as bs) :
    Option.Rel R as.getLast? bs.getLast? := by
  induction rel with
  | nil => exact .none
  | @cons a b as bs first rest ih =>
    rw [List.getLast?_cons, List.getLast?_cons]
    generalize as.getLast? = last, bs.getLast? = last' at ih
    cases ih with
    | none => exact .some first
    | some last => exact .some last

private theorem get?_object (ms : List (String × Json)) :
    (object ms).get? name = (valuesOf name ms).getLast? := by
  rw [object, get?, lookup_foldl_insert, List.lookup_nil, Option.or_none]

/-- A document reads as a value. -/
def Reads (d : Document) (v : Json) : Prop := ∃ depth, d.toJson depth = .ok v

theorem values_reads {depth : Nat} {members : List (Document × Document)} {ms : List (String × Json)}
    (read : Document.toMembers depth members = .ok ms) :
    List.Forall₂ Reads (Document.values name members) (valuesOf name ms) := by
  induction members generalizing ms with
  | nil =>
    cases read
    exact .nil
  | cons m members ih =>
    obtain ⟨k, d⟩ := m
    obtain ⟨n, w, ws, rfl, first, rest, rfl⟩ := Document.toMembers_cons read
    rw [Document.values_str, valuesOf, List.filter_cons]
    by_cases own : n = name
    · simp only [own, if_true, decide_true, List.map_cons]
      exact .cons ⟨depth, first⟩ (ih rest)
    · simp only [own, if_false, decide_false, Bool.false_eq_true]
      exact ih rest

/-- Under a name a document has what its value has there. -/
theorem Reads.get? {d : Document} {v : Json} (reads : Reads d v) :
    Option.Rel Reads (d.last? name) (v.get? name) := by
  obtain ⟨depth, read⟩ := reads
  cases d with
  | obj members ending =>
    obtain ⟨inner, ms, inside, rfl, rfl⟩ := Document.toJson_obj read
    rw [get?_object, Document.last?]
    exact getLast?_rel (values_reads inside)
  | arr items ending =>
    obtain ⟨inner, vs, inside, rfl, rfl⟩ := Document.toJson_arr read
    exact .none
  | flawedText | flawedScalar | nothing => cases depth <;> cases read
  | null | bool | int | float | str =>
    cases depth <;> cases read <;> exact .none

theorem Reads.text? {d : Document} {v : Json} (reads : Reads d v) : d.text? = v.asString? := by
  obtain ⟨depth, read⟩ := reads
  cases d with
  | obj members ending =>
    obtain ⟨inner, ms, inside, rfl, rfl⟩ := Document.toJson_obj read
    rfl
  | arr items ending =>
    obtain ⟨inner, vs, inside, rfl, rfl⟩ := Document.toJson_arr read
    rfl
  | flawedText | flawedScalar | nothing => cases depth <;> cases read
  | null | bool | int | float | str =>
    cases depth <;> cases read <;> rfl

end

end ScanProvisioning.Json
