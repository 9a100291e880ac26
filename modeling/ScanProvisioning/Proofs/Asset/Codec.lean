import ScanProvisioning.Proofs.Job.Codec
import ScanProvisioning.Asset.Codec

namespace ScanProvisioning

open Json Json.Decoder
open Document (values)

namespace Asset

/-- The members of other names have values. -/
def Whole (own : List String) (members : List (Document × Document)) : Prop :=
  ∀ m ∈ members, m.1.text? ∉ own.map some → whole m.2 = .ok ()

/-- What stands under the names of an asset beside its kind. -/
def known (kind : AssetKind) : List (String × Shape) := (fieldsOf kind).map fun f => (f.name, .value)

/-- A virtual machine without a root volume need not say so. -/
def idle : AssetKind → List (String × Document)
  | .virtualMachine => [("root_volume_id", .null)]
  | .container => []

/-- An asset among members of other names, all of which have values. -/
def shapeWith (own : List (String × Shape)) (kind : AssetKind) : Shape :=
  .record (own ++ known kind) (idle kind) fun v => whole v = .ok ()

def shape : AssetKind → Shape := shapeWith [("type", .value)]

variable {own : List String} {members members' : List (Document × Document)} {k v d d' : Document}
  {name : String}
  {tag : Decoder AssetKind} {kind : AssetKind} {kind? : Option AssetKind} {found : Found}
  {ending : Option Fault}
  {others : List (Document × Document)} {asset : Asset}

theorem whole_iff : whole d = .ok () ↔ HasValue (maxDepth - 1) d := by
  rw [whole, whenFault_eq_ok_iff, HasValue]
  cases d.toJson (maxDepth - 1) with
  | error f => exact ⟨nofun, nofun⟩
  | ok v => exact ⟨fun _ => ⟨v, rfl⟩, fun _ => rfl⟩

theorem passed_of_whole (valued : whole d = .ok ()) : d.passed = .ok () := by
  obtain ⟨v, read⟩ := whole_iff.mp valued
  exact Document.passed_of_toJson read

private theorem whole_cons_own (mem : name ∈ own) : Whole own ((.str name, v) :: members) ↔ Whole own members :=
  List.forall_mem_cons.trans (and_iff_right fun other => (other (text?_mem_iff.mpr mem)).elim)

private theorem whole_cons_other (other : name ∉ own) :
    Whole own ((.str name, v) :: members) ↔ whole v = .ok () ∧ Whole own members := by
  rw [Whole, List.forall_mem_cons, text?_mem_iff, imp_iff_right other]
  rfl

private theorem splitKind_type : splitKind tag kind? ((.str "type", v) :: members) ending = .ok (kind, others) ↔
    kind? = none ∧ ∃ told, tag v = .ok told ∧
      splitKind tag (some told) members ending = .ok (kind, others) := by
  have step : splitKind tag kind? ((.str "type", v) :: members) ending =
      if kind?.isSome then .error (.mismatch (.duplicateField "type"))
      else tag v >>= fun told => splitKind tag (some told) members ending := by
    rw [splitKind]
    rfl
  rw [step]
  cases kind? with
  | some earlier => exact ⟨nofun, nofun⟩
  | none =>
    constructor
    · intro read
      obtain ⟨told, kindRead, rest⟩ := bind_eq_ok_iff.mp read
      exact ⟨rfl, told, kindRead, rest⟩
    · rintro ⟨-, told, kindRead, rest⟩
      exact bind_eq_ok_iff.mpr ⟨told, kindRead, rest⟩

/-- A member is left among the others if it has a value. -/
private theorem left_eq_ok_iff {α : Type} {m : Document × Document} {a : α}
    {split : Except Refusal (α × List (Document × Document))} :
    (whole v >>= fun _ => split >>= fun rest => .ok (rest.1, m :: rest.2)) = .ok (a, others) ↔
      whole v = .ok () ∧ ∃ rest, split = .ok (a, rest) ∧ others = m :: rest := by
  constructor
  · intro read
    obtain ⟨⟨⟩, valued, read⟩ := bind_eq_ok_iff.mp read
    obtain ⟨⟨_, rest⟩, split, read⟩ := bind_eq_ok_iff.mp read
    cases read
    exact ⟨valued, rest, split, rfl⟩
  · rintro ⟨valued, rest, split, rfl⟩
    exact bind_eq_ok_iff.mpr ⟨(), valued, bind_eq_ok_iff.mpr ⟨_, split, rfl⟩⟩

private theorem splitKind_other (other : name ≠ "type") :
    splitKind tag kind? ((.str name, v) :: members) ending = .ok (kind, others) ↔
      whole v = .ok () ∧ ∃ rest, splitKind tag kind? members ending = .ok (kind, rest) ∧
        others = (.str name, v) :: rest := by
  have step : splitKind tag kind? ((.str name, v) :: members) ending =
      whole v >>= fun _ => splitKind tag kind? members ending >>= fun split =>
        .ok (split.1, (.str name, v) :: split.2) := by
    rw [splitKind]
    dsimp only [Document.nameOf, whenFault, Bind.bind, Except.bind]
    rw [if_neg other]
    rfl
  rw [step, left_eq_ok_iff]

private theorem splitKind_unnamed {split : AssetKind × List (Document × Document)}
    (read : splitKind tag kind? ((k, v) :: members) ending = .ok split) : ∃ name, k = .str name := by
  rw [splitKind] at read
  obtain ⟨name, named, -⟩ := bind_eq_ok_iff.mp read
  exact ⟨name, Document.nameOf_eq_ok_iff.mp (whenFault_eq_ok_iff.mp named)⟩

theorem splitKind_nil : splitKind tag kind? [] ending = .ok (kind, others) ↔
    ending = none ∧ kind? = some kind ∧ others = [] := by
  cases kind? <;> cases ending <;> simp [splitKind, eq_comm]

/-- The kind is told by what a record of it alone has, and every other member has a value. -/
theorem splitKind_iff (told : (found.lookup "type").map tag = kind?.map .ok) :
    splitKind tag kind? members ending = .ok (kind, others) ↔
      ∃ result, fromMembers [field "type" tag] found members ending = .ok result ∧
        required result "type" tag = .ok kind ∧ Whole ["type"] members ∧ others = apart ["type"] members := by
  -- `told` is what both readers carry along: one keeps the kind, the other the member that tells it.
  induction members generalizing kind? found others with
  | nil =>
    have given : required found "type" tag = .ok kind ↔ kind? = some kind := by
      unfold required
      generalize found.lookup "type" = own at told
      cases own <;> cases kind? <;> simp at told ⊢
      rw [told, Except.ok.injEq]
    rw [splitKind_nil, ← given]
    constructor
    · rintro ⟨rfl, read, rfl⟩
      exact ⟨found, fromMembers_nil.mpr ⟨rfl, rfl⟩, read, List.forall_mem_nil _, rfl⟩
    · rintro ⟨result, read, kindRead, -, rfl⟩
      obtain ⟨rfl, rfl⟩ := fromMembers_nil.mp read
      exact ⟨rfl, kindRead, rfl⟩
  | cons m members ih =>
    obtain ⟨k, v⟩ := m
    by_cases named : ∃ name, k = .str name
    · obtain ⟨name, rfl⟩ := named
      by_cases own : name = "type"
      · subst own
        have known : [field "type" tag].find? (·.name == "type") = some (field "type" tag) := rfl
        rw [splitKind_type, apart_cons_own (List.mem_singleton.mpr rfl)]
        simp only [fromMembers_known known, whole_cons_own (List.mem_singleton.mpr rfl)]
        constructor
        · rintro ⟨rfl, t, kindRead, rest⟩
          have new : found.lookup "type" = none := Option.map_eq_none_iff.mp told
          have next : (((("type", v) :: found).lookup "type").map tag) = (some t).map .ok :=
            congrArg some kindRead
          obtain ⟨result, read, sifted⟩ := (ih next).mp rest
          exact ⟨result, ⟨new, check_field_iff.mpr ⟨t, kindRead⟩, read⟩, sifted⟩
        · rintro ⟨result, ⟨new, checked, read⟩, sifted⟩
          obtain ⟨t, kindRead⟩ := check_field_iff.mp checked
          have next : (((("type", v) :: found).lookup "type").map tag) = (some t).map .ok :=
            congrArg some kindRead
          rw [new] at told
          exact ⟨Option.map_eq_none_iff.mp told.symm, t, kindRead, (ih next).mpr ⟨result, read, sifted⟩⟩
      · have unknown : [field "type" tag].find? (·.name == name) = none := by simpa [field] using Ne.symm own
        have other : name ∉ ["type"] := List.mem_singleton.not.mpr own
        rw [splitKind_other own, apart_cons_other other]
        simp only [fromMembers_unknown unknown, whole_cons_other other, ih told]
        constructor
        · rintro ⟨valued, rest, ⟨result, read, kindRead, whole, rfl⟩, rfl⟩
          exact ⟨result, ⟨passed_of_whole valued, read⟩, kindRead, ⟨valued, whole⟩, rfl⟩
        · rintro ⟨result, ⟨-, read⟩, kindRead, ⟨valued, whole⟩, rfl⟩
          exact ⟨valued, _, ⟨result, read, kindRead, whole, rfl⟩, rfl⟩
    · constructor
      · exact fun read => (named (splitKind_unnamed read)).elim
      · rintro ⟨result, read, -⟩
        exact (named (fromMembers_unnamed read)).elim

theorem splitKind_none_iff : splitKind tag none members ending = .ok (kind, others) ↔
    ∃ found, record "AssetInfo" [field "type" tag] (.obj members ending) = .ok found ∧
      required found "type" tag = .ok kind ∧ Whole ["type"] members ∧ others = apart ["type"] members :=
  splitKind_iff rfl

theorem ofMembers_iff : ofMembers tag members ending = .ok asset ↔
    ∃ kind found inner, record "AssetInfo" [field "type" tag] (.obj members ending) = .ok found ∧
      required found "type" tag = .ok kind ∧ Whole ["type"] members ∧
      record "AssetInfo" (fieldsOf kind) (.obj (apart ["type"] members) none) = .ok inner ∧
      ofFound kind inner = .ok asset := by
  constructor
  · intro read
    obtain ⟨⟨kind, others⟩, split, read⟩ := bind_eq_ok_iff.mp read
    obtain ⟨inner, fields, made⟩ := bind_eq_ok_iff.mp read
    obtain ⟨found, told, kindRead, whole, rfl⟩ := splitKind_none_iff.mp split
    exact ⟨kind, found, inner, told, kindRead, whole, fields, made⟩
  · rintro ⟨kind, found, inner, told, kindRead, whole, fields, made⟩
    exact bind_eq_ok_iff.mpr ⟨(kind, _), splitKind_none_iff.mpr ⟨found, told, kindRead, whole, rfl⟩,
      bind_eq_ok_iff.mpr ⟨inner, fields, made⟩⟩

section

variable {sort : AssetKind} {own' : List (String × Shape)}

theorem lookup_append_eq_none {ms ms' : List (String × Shape)} :
    (ms ++ ms').lookup name = none ↔ ms.lookup name = none ∧ ms'.lookup name = none := by
  rw [List.lookup_append, Option.or_eq_none_iff]

theorem idle_lookup_ne_some (spoken : name ≠ "root_volume_id") (v : Document) :
    (idle kind).lookup name ≠ some v := by
  cases kind with
  | virtualMachine =>
    rw [idle, lookup_cons_ite, if_neg (Ne.symm spoken)]
    exact nofun
  | container => exact nofun

theorem flat_append (flat : ∀ m ∈ own', m.2 = .value) : ∀ m ∈ own' ++ known sort, m.2 = .value := by
  rw [List.forall_mem_append]
  refine ⟨flat, ?_⟩
  rw [known, List.forall_mem_map]
  exact fun _ _ => rfl

/-- What had values has values in other words. -/
theorem Whole.edited (flat : ∀ m ∈ own', m.2 = .value) (edited : Edited (shapeWith own' sort) members members')
    (valued : Whole own members) : Whole own members' := by
  intro m mem other
  obtain same | ⟨v, mem, edit⟩ | ⟨_, _, _, admitted⟩ := edited.origin m mem
  · exact valued m same other
  · rw [shapeWith, inner_of_flat (flat_append flat)] at edit
    exact whole_iff.mpr (edit.hasValue (whole_iff.mp (valued _ mem other)))
  · exact admitted

private theorem suits_known (kind : AssetKind) : Suits (known kind) (fieldsOf kind) := by
  cases kind with
  | virtualMachine =>
    exact .cons ⟨rfl, string_steady.field⟩ <| .cons ⟨rfl, string_steady.field⟩ <|
      .cons ⟨rfl, string_steady.field⟩ <| .cons ⟨rfl, ScannerSettings.text_steady.field⟩ .nil
  | container =>
    exact .cons ⟨rfl, string_steady.field⟩ <| .cons ⟨rfl, string_steady.field⟩ <|
      .cons ⟨rfl, string_steady.field⟩ <| .cons ⟨rfl, string_steady.field⟩ .nil

private theorem ofFound_kind (made : ofFound kind found = .ok asset) : asset.kind = kind := by
  cases kind with
  | virtualMachine | container =>
    simp only [ofFound, bind_eq_ok_iff] at made
    obtain ⟨_, _, _, _, _, _, _, _, ⟨⟩⟩ := made
    rfl

private theorem ofFound_follows {found' : Found} (kept : ∀ f ∈ fieldsOf kind,
    Kept (shapeWith [] kind) f.name (found.lookup f.name).toList (found'.lookup f.name).toList) :
    Follows (ofFound kind found) (ofFound kind found') := by
  cases kind with
  | virtualMachine =>
    simp only [fieldsOf, List.forall_mem_cons] at kept
    obtain ⟨instanceId, name, location, rootVolume, -⟩ := kept
    exact .bind (required_follows instanceId string_steady fun _ => nofun) fun _ =>
      .bind (required_follows name string_steady fun _ => nofun) fun _ =>
      .bind (required_follows location string_steady fun _ => nofun) fun _ =>
      .bind (withDefault_follows rootVolume ScannerSettings.text_steady (by rintro _ ⟨⟩; rfl)) fun _ => .refl _
  | container =>
    simp only [fieldsOf, List.forall_mem_cons] at kept
    obtain ⟨containerId, name, image, location, -⟩ := kept
    exact .bind (required_follows containerId string_steady fun _ => nofun) fun _ =>
      .bind (required_follows name string_steady fun _ => nofun) fun _ =>
      .bind (required_follows image string_steady fun _ => nofun) fun _ =>
      .bind (required_follows location string_steady fun _ => nofun) fun _ => .refl _

/-- An asset is read the same from members in other words. -/
theorem ofMembers_edited (steady : ∀ s, Steady s tag) (edited : Edited (shape asset.kind) members members')
    (read : ofMembers tag members none = .ok asset) : ofMembers tag members' none = .ok asset := by
  obtain ⟨kind, found, inner, told, kindRead, valued, fields, made⟩ := ofMembers_iff.mp read
  obtain rfl := ofFound_kind made
  have flat : ∀ m ∈ [("type", Shape.value)], m.2 = .value := by simp
  -- The same change, seen once by the reader of the kind and once by the reader of what is beside it.
  have one : Edited (.record [("type", .value)] (idle asset.kind) fun v => whole v = .ok ()) members members' :=
    edited.narrow (flat_append flat) flat fun name absent => (lookup_append_eq_none.mp absent).1
  have rest : Edited (shapeWith [] asset.kind) (apart ["type"] members) (apart ["type"] members') :=
    (edited.narrow (flat_append flat) (flat_append (List.forall_mem_nil _)) fun name absent =>
      (lookup_append_eq_none.mp absent).2).apart
  obtain ⟨found', told', keptKind⟩ :=
    record_edited (.cons ⟨rfl, (steady _).field⟩ .nil) (fun _ => passed_of_whole) one told
  obtain ⟨inner', fields', kept⟩ :=
    record_edited (suits_known asset.kind) (fun _ => passed_of_whole) rest fields
  have kindRead' : required found' "type" tag = .ok asset.kind :=
    required_follows (keptKind _ List.mem_cons_self) (steady _) (idle_lookup_ne_some (by simp [field])) _
      kindRead
  exact ofMembers_iff.mpr ⟨_, found', inner', told', kindRead', valued.edited flat edited, fields',
    ofFound_follows kept asset made⟩

end

theorem kindTag_steady {s : Shape} : Steady s kindTag := steady_of_scalar (fun _ _ => nofun) (fun _ _ => nofun)

theorem kindTagOrIndex_steady {s : Shape} : Steady s kindTagOrIndex :=
  steady_of_scalar (fun _ _ => nofun) (fun _ _ => nofun)

private theorem ofMembers_members (asset : Asset) (either : tag = kindTag ∨ tag = kindTagOrIndex) :
    ofMembers tag (toDocumentMembers asset.members) none = .ok asset := by
  cases asset with
  | virtualMachine _ _ _ rootVolume => obtain rfl | rfl := either <;> cases rootVolume <;> rfl
  | container => obtain rfl | rfl := either <;> rfl

theorem decode_toJson (asset : Asset) : decode decoder asset.toJson = .ok asset := by
  have distinct : (asset.members.map Prod.fst).Nodup := by cases asset <;> simp [members]
  obtain ⟨-, sorted, written, edited⟩ := (object_edit distinct).obj
  rw [decode, toJson, written]
  exact ofMembers_edited (fun _ => kindTag_steady) edited (asset.ofMembers_members (.inl rfl))

end Asset

namespace DiscoveredAsset

def ownFields : List Field := [field "provider" ProviderKind.decoder, field "discovered_at" Timestamp.decoder]

def own : List (String × Shape) := [("provider", .value), ("discovered_at", .value)]

def shape (kind : AssetKind) : Shape := Asset.shapeWith (own ++ [("type", .value)]) kind

variable {own' result : Found} {members members' others : List (Document × Document)} {ending : Option Fault}
  {name : String} {k v : Document} {discovered : DiscoveredAsset}

theorem splitOwn_own {f : Field} (known : ownFields.find? (·.name == name) = some f) :
    splitOwn own' ((.str name, v) :: members) ending = .ok (result, others) ↔
      own'.lookup name = none ∧ f.check v = .ok () ∧
        splitOwn ((name, v) :: own') members ending = .ok (result, others) := by
  have step : splitOwn own' ((.str name, v) :: members) ending =
      if (own'.lookup name).isSome then .error (.mismatch (.duplicateField name))
      else f.check v >>= fun _ => splitOwn ((name, v) :: own') members ending := by
    have same : f.name = name := by simpa using List.find?_some known
    obtain rfl | rfl : f = _ ∨ f = _ := by simpa [ownFields] using List.mem_of_find?_eq_some known
    · obtain rfl : "provider" = name := same
      rw [splitOwn]
      rfl
    · obtain rfl : "discovered_at" = name := same
      rw [splitOwn]
      rfl
  rw [step, first_eq_ok_iff]

private theorem splitOwn_other (other : name ∉ own.map Prod.fst) :
    splitOwn own' ((.str name, v) :: members) ending = .ok (result, others) ↔
      Asset.whole v = .ok () ∧ ∃ rest, splitOwn own' members ending = .ok (result, rest) ∧
        others = (.str name, v) :: rest := by
  have apart : ¬ (name = "provider" ∨ name = "discovered_at") := by simpa [own] using other
  have step : splitOwn own' ((.str name, v) :: members) ending =
      Asset.whole v >>= fun _ => splitOwn own' members ending >>= fun split =>
        .ok (split.1, (.str name, v) :: split.2) := by
    rw [splitOwn]
    dsimp only [Document.nameOf, whenFault, Bind.bind, Except.bind]
    rw [if_neg apart]
    rfl
  rw [step, Asset.left_eq_ok_iff]

private theorem splitOwn_unnamed {split : Found × List (Document × Document)}
    (read : splitOwn own' ((k, v) :: members) ending = .ok split) : ∃ name, k = .str name := by
  rw [splitOwn] at read
  obtain ⟨name, named, -⟩ := bind_eq_ok_iff.mp read
  exact ⟨name, Document.nameOf_eq_ok_iff.mp (whenFault_eq_ok_iff.mp named)⟩

/-- What is a discovered asset's own is what a record of it alone has, and every other member has a value. -/
theorem splitOwn_iff : splitOwn own' members ending = .ok (result, others) ↔
    fromMembers ownFields own' members ending = .ok result ∧ Asset.Whole (own.map Prod.fst) members ∧
      others = apart (own.map Prod.fst) members := by
  induction members generalizing own' others with
  | nil =>
    rw [fromMembers_nil]
    cases ending with
    | none => simp [splitOwn, apart, Asset.Whole, eq_comm]
    | some f => simp [splitOwn]
  | cons m members ih =>
    obtain ⟨k, v⟩ := m
    by_cases named : ∃ name, k = .str name
    · obtain ⟨name, rfl⟩ := named
      by_cases mem : name ∈ own.map Prod.fst
      · obtain ⟨f, known⟩ : ∃ f, ownFields.find? (·.name == name) = some f := by
          obtain rfl | rfl : name = "provider" ∨ name = "discovered_at" := by simpa [own] using mem
          · exact ⟨_, rfl⟩
          · exact ⟨_, rfl⟩
        rw [splitOwn_own known, fromMembers_known known, apart_cons_own mem, Asset.whole_cons_own mem, ih,
          and_assoc, and_assoc]
      · have unknown : ownFields.find? (·.name == name) = none := by
          have other : name ≠ "provider" ∧ name ≠ "discovered_at" := by simpa [own] using mem
          simpa [ownFields, field] using ⟨other.1.symm, other.2.symm⟩
        rw [splitOwn_other mem, fromMembers_unknown unknown, apart_cons_other mem, Asset.whole_cons_other mem]
        simp only [ih]
        constructor
        · rintro ⟨valued, rest, ⟨read, whole, rfl⟩, rfl⟩
          exact ⟨⟨Asset.passed_of_whole valued, read⟩, ⟨valued, whole⟩, rfl⟩
        · rintro ⟨⟨-, read⟩, ⟨valued, whole⟩, rfl⟩
          exact ⟨valued, _, ⟨read, whole, rfl⟩, rfl⟩
    · constructor
      · exact fun read => (named (splitOwn_unnamed read)).elim
      · exact fun read => (named (fromMembers_unnamed read.1)).elim

theorem decoder_iff : decoder (.obj members ending) = .ok discovered ↔
    ∃ found, record "DiscoveredAsset" ownFields (.obj members ending) = .ok found ∧
      Asset.Whole (own.map Prod.fst) members ∧
      required found "provider" ProviderKind.decoder = .ok discovered.provider ∧
      required found "discovered_at" Timestamp.decoder = .ok discovered.discoveredAt ∧
      Asset.ofMembers Asset.kindTagOrIndex (apart (own.map Prod.fst) members) none = .ok discovered.asset := by
  rw [decoder]
  constructor
  · intro read
    obtain ⟨⟨found, others⟩, split, read⟩ := bind_eq_ok_iff.mp read
    obtain ⟨provider, providerRead, read⟩ := bind_eq_ok_iff.mp read
    obtain ⟨time, timeRead, read⟩ := bind_eq_ok_iff.mp read
    obtain ⟨asset, assetRead, read⟩ := bind_eq_ok_iff.mp read
    cases read
    obtain ⟨ownRead, whole, rfl⟩ := splitOwn_iff.mp split
    exact ⟨found, ownRead, whole, providerRead, timeRead, assetRead⟩
  · rintro ⟨found, ownRead, whole, providerRead, timeRead, assetRead⟩
    refine bind_eq_ok_iff.mpr ⟨(found, _), splitOwn_iff.mpr ⟨ownRead, whole, rfl⟩, ?_⟩
    refine bind_eq_ok_iff.mpr ⟨_, providerRead, bind_eq_ok_iff.mpr ⟨_, timeRead, ?_⟩⟩
    exact bind_eq_ok_iff.mpr ⟨_, assetRead, rfl⟩

theorem time_steady {s : Shape} : Steady s Timestamp.decoder :=
  steady_of_scalar (fun _ _ => nofun) (fun _ _ => nofun)

/-- A discovered asset is read the same from members in other words. -/
theorem decoder_edited (edited : Edited (shape discovered.asset.kind) members members')
    (read : decoder (.obj members none) = .ok discovered) : decoder (.obj members' none) = .ok discovered := by
  obtain ⟨found, ownRead, valued, providerRead, timeRead, assetRead⟩ := decoder_iff.mp read
  have flat : ∀ m ∈ own, m.2 = .value := by simp [own]
  have flat' : ∀ m ∈ own ++ [("type", .value)], m.2 = .value := by simp [own]
  have mine : Edited (.record own (Asset.idle discovered.asset.kind) fun v => Asset.whole v = .ok ())
      members members' :=
    edited.narrow (Asset.flat_append flat') flat fun name absent =>
      (Asset.lookup_append_eq_none.mp (Asset.lookup_append_eq_none.mp absent).1).1
  have rest : Edited (Asset.shape discovered.asset.kind) (apart (own.map Prod.fst) members)
      (apart (own.map Prod.fst) members') :=
    (edited.narrow (Asset.flat_append flat') (Asset.flat_append (by simp)) fun name absent => by
      rw [List.append_assoc] at absent
      exact (Asset.lookup_append_eq_none.mp absent).2).apart
  -- A record of two fields, with the whole asset among the members that it does not know.
  have suits : Suits own ownFields := .cons ⟨rfl, choice_steady.field⟩ (.cons ⟨rfl, time_steady.field⟩ .nil)
  obtain ⟨found', ownRead', kept⟩ := record_edited suits (fun _ => Asset.passed_of_whole) mine ownRead
  simp only [ownFields, List.forall_mem_cons] at kept
  obtain ⟨provider, time, -⟩ := kept
  exact decoder_iff.mpr ⟨found', ownRead', valued.edited flat' edited,
    required_follows provider choice_steady (Asset.idle_lookup_ne_some (by decide)) _ providerRead,
    required_follows time time_steady (Asset.idle_lookup_ne_some (by decide)) _ timeRead,
    Asset.ofMembers_edited (fun _ => Asset.kindTagOrIndex_steady) rest assetRead⟩

private theorem provider_name (provider : ProviderKind) :
    ProviderKind.decoder (.str provider.name) = .ok provider := by
  cases provider <;> rfl

private theorem time_text {time : Timestamp} (readable : Timestamp.ofText time.text = .ok time) :
    Timestamp.decoder (.str time.text) = .ok time := by
  rw [Timestamp.decoder, readable]

private theorem decoder_members
    (readable : Timestamp.ofText discovered.discoveredAt.text = .ok discovered.discoveredAt) :
    decoder (.obj (toDocumentMembers (("provider", .str discovered.provider.name) ::
      ("discovered_at", .str discovered.discoveredAt.text) :: discovered.asset.members)) none) =
        .ok discovered := by
  have providerRead := provider_name discovered.provider
  have timeRead := time_text readable
  have others : splitOwn [("discovered_at", .str discovered.discoveredAt.text),
      ("provider", .str discovered.provider.name)] (toDocumentMembers discovered.asset.members) none =
        .ok ([("discovered_at", .str discovered.discoveredAt.text),
          ("provider", .str discovered.provider.name)],
          toDocumentMembers discovered.asset.members) := by
    cases discovered.asset with
    | virtualMachine _ _ _ rootVolume => cases rootVolume <;> rfl
    | container => rfl
  have split := (splitOwn_own rfl).mpr ⟨rfl, check_field_iff.mpr ⟨_, providerRead⟩,
    (splitOwn_own rfl).mpr ⟨rfl, check_field_iff.mpr ⟨_, timeRead⟩, others⟩⟩
  rw [decoder]
  refine bind_eq_ok_iff.mpr ⟨_, split, bind_eq_ok_iff.mpr ⟨_, (required_given rfl).trans providerRead, ?_⟩⟩
  refine bind_eq_ok_iff.mpr ⟨_, (required_given rfl).trans timeRead, ?_⟩
  exact bind_eq_ok_iff.mpr ⟨_, discovered.asset.ofMembers_members (.inr rfl), rfl⟩

theorem decode_toJson (readable : Timestamp.ofText discovered.discoveredAt.text = .ok discovered.discoveredAt) :
    decode decoder discovered.toJson = .ok discovered := by
  have distinct : ((("provider", Json.str discovered.provider.name) :: discovered.asset.members ++
      [("discovered_at", Json.str discovered.discoveredAt.text)]).map Prod.fst).Nodup := by
    cases discovered.asset <;> simp [Asset.members]
  obtain ⟨-, sorted, written, edited⟩ := (object_edit distinct).obj
  have listed := (List.perm_append_singleton ("discovered_at", Json.str discovered.discoveredAt.text)
    discovered.asset.members).cons ("provider", Json.str discovered.provider.name)
  obtain ⟨-, _, ⟨⟩, moved⟩ := (Edit.permuted (toDocumentMembers_perm listed.symm)).obj
  rw [decode, toJson, written]
  exact decoder_edited edited (decoder_edited moved (decoder_members readable))

end DiscoveredAsset

end ScanProvisioning
