import Mathlib.Data.List.DropRight
import ScanProvisioning.Azure.Clients
import ScanProvisioning.Docker.Clients
import ScanProvisioning.Proofs.Pass.Steps
import ScanProvisioning.Rehearsal.Cloud

namespace ScanProvisioning

section

variable {c : Char} {id : ScanId}

private theorem ScanId.not_isUpper_of_isAllowed (allowed : ScanId.isAllowed c) : c.isUpper = false := by
  simp only [ScanId.isAllowed, Bool.or_eq_true, beq_iff_eq] at allowed
  rcases allowed with (lower | digit) | rfl
  · delta Char.isLower at lower
    delta Char.isUpper
    simp [UInt32.le_iff_toNat_le] at lower ⊢
    omega
  · delta Char.isDigit at digit
    delta Char.isUpper
    simp [UInt32.le_iff_toNat_le] at digit ⊢
    omega
  · rfl

private theorem ScanId.dot_notMem_text : '.' ∉ id.text.toList := by
  intro mem
  have allowed := id.allowed '.' mem
  exact absurd allowed (by decide)

private theorem toLower_eq_of_not_isUpper (small : c.isUpper = false) : c.toLower = c := by
  delta Char.isUpper at small
  delta Char.toLower
  exact dif_neg (by simpa using small)

private theorem toLowerAscii_eq_self {s : String} (small : ∀ c ∈ s.toList, c.isUpper = false) :
    Text.toLowerAscii s = s := by
  apply String.toList_inj.mp
  rw [Text.toLowerAscii, String.toList_map]
  have unchanged : s.toList.map Char.toLower = s.toList.map fun c => c := by
    apply List.map_congr_left
    intro c mem
    exact toLower_eq_of_not_isUpper (small c mem)
  rw [unchanged, List.map_id']

end

namespace Names

/-- What stands before the id in the names of a kind. -/
def stem : ResourceKind → String
  | .snapshot => snapshotStem
  | .volume => volumeStem
  | .stagedCopy => ""
  | .networkInterface => networkInterfaceStem
  | .scanner => scannerStem

/-- What stands after the id in the names of a kind. -/
def ending : ResourceKind → String
  | .stagedCopy => stagedCopyEnding
  | _ => ""

/-- A name as it appears in a listing, behind any number of slashes. -/
def slashed (n : Nat) (name : String) : String := String.ofList (List.replicate n '/') ++ name

/-- The names under which a scan may turn up among the machines and containers of a provider. -/
def listed (id : ScanId) : List String :=
  [(ofScan id).snapshot, (ofScan id).volume, (ofScan id).networkInterface, (ofScan id).scanner,
    Docker.fillerName (ofScan id).volume]

variable {a b : ScanId} {k l : ResourceKind}

theorem of_eq : (ofScan a).of k = stem k ++ a.text ++ ending k := by
  cases k <;> simp [of, ofScan, stem, ending]

theorem toList_of : ((ofScan a).of k).toList = (stem k).toList ++ a.text.toList ++ (ending k).toList := by
  rw [of_eq, String.toList_append, String.toList_append]

private theorem not_isUpper_around : ∀ c ∈ (stem k).toList ++ (ending k).toList, c.isUpper = false := by
  have small : ((stem k).toList ++ (ending k).toList).all (fun c => !c.isUpper) = true := by
    cases k <;> decide
  intro c mem
  simpa using List.all_eq_true.mp small c mem

private theorem toLowerAscii_of : Text.toLowerAscii ((ofScan a).of k) = (ofScan a).of k := by
  apply toLowerAscii_eq_self
  intro c mem
  rw [toList_of, List.mem_append, List.mem_append] at mem
  rcases mem with (before | inside) | after
  · exact not_isUpper_around c (List.mem_append_left _ before)
  · exact ScanId.not_isUpper_of_isAllowed (a.allowed c inside)
  · exact not_isUpper_around c (List.mem_append_right _ after)

/-- The dot of a staged copy's name stands in no other name. -/
theorem dot_mem_iff : '.' ∈ ((ofScan a).of k).toList ↔ k = .stagedCopy := by
  have around : '.' ∈ (stem k).toList ++ (ending k).toList ↔ k = .stagedCopy := by
    cases k <;> decide
  rw [toList_of, List.mem_append, List.mem_append, or_iff_left ScanId.dot_notMem_text, ← List.mem_append,
    around]

/-- The first letters of a stem, up to the one that no other stem shares. -/
def mark (k : ResourceKind) : List Char := (stem k).toList.take 13

theorem mark_inj (kept : k ≠ .stagedCopy) (kept' : l ≠ .stagedCopy) (same : mark k = mark l) : k = l := by
  revert kept kept' same
  cases k <;> cases l <;> decide

theorem take_of (kept : k ≠ .stagedCopy) : ((ofScan a).of k).toList.take 13 = mark k := by
  have long : 13 ≤ (stem k).toList.length := by
    revert kept
    cases k <;> decide
  rw [toList_of, List.append_assoc, List.take_append_of_le_length long, mark]

/-- A name spells out its scan and its kind. -/
theorem of_inj : (ofScan a).of k = (ofScan b).of l ↔ a = b ∧ k = l := by
  constructor
  · intro same
    have dots : k = .stagedCopy ↔ l = .stagedCopy := by
      rw [← dot_mem_iff (a := a), same, dot_mem_iff]
    have kinds : k = l := by
      by_cases copy : k = .stagedCopy
      · rw [copy, dots.mp copy]
      · have other : l ≠ .stagedCopy := fun h => copy (dots.mpr h)
        apply mark_inj copy other
        rw [← take_of (a := a) copy, same, take_of other]
    subst kinds
    refine ⟨?_, rfl⟩
    have spelled := congrArg String.toList same
    rw [toList_of, toList_of, List.append_left_inj, List.append_right_inj] at spelled
    exact ScanId.ext (String.toList_inj.mp spelled)
  · intro h
    obtain ⟨rfl, rfl⟩ := h
    rfl

theorem fillerName_inj : Docker.fillerName (ofScan a).volume = Docker.fillerName (ofScan b).volume ↔ a = b := by
  have volumes := of_inj (a := a) (b := b) (k := .volume) (l := .volume)
  rw [Docker.fillerName, Docker.fillerName, String.append_left_inj]
  simpa [of] using volumes

private theorem toList_fillerName :
    (Docker.fillerName (ofScan a).volume).toList = ((ofScan a).of .volume).toList ++ "-populate".toList := by
  rw [Docker.fillerName, String.toList_append]
  rfl

/-- The container that fills a volume is never taken for a scanner. -/
theorem fillerName_ne_scanner : Docker.fillerName (ofScan a).volume ≠ (ofScan b).scanner := by
  intro same
  have long : 13 ≤ ((ofScan a).of .volume).toList.length := by
    rw [toList_of]
    have stems : 13 ≤ (stem .volume).toList.length := by decide
    simp only [List.length_append]
    omega
  have volume : (Docker.fillerName (ofScan a).volume).toList.take 13 = mark .volume := by
    rw [toList_fillerName, List.take_append_of_le_length long, take_of (by decide)]
  have scanner : (ofScan b).scanner.toList.take 13 = mark .scanner := take_of (k := .scanner) (by decide)
  rw [same, scanner] at volume
  exact absurd volume (by decide)

/-- What has a stem of a scan's resources belongs to a scan, behind any number of slashes. -/
theorem isScanResource_slashed {n : Nat} {name rest : String} (kept : k ≠ .stagedCopy)
    (begun : name = stem k ++ rest) : isScanResource (slashed n name) = true := by
  have bare : Text.dropLeading '/' (slashed n name) = name := by
    subst begun
    have first : (stem k).toList.head? = some 'a' := by
      revert kept
      cases k <;> decide
    obtain ⟨tail, spelled⟩ := List.head?_eq_some_iff.mp first
    apply String.toList_inj.mp
    simp [Text.dropLeading, slashed, spelled]
  have stems : stem k ∈ [snapshotStem, volumeStem, networkInterfaceStem, scannerStem] := by
    cases k with
    | stagedCopy => exact absurd rfl kept
    | _ => simp [stem]
  rw [isScanResource, bare]
  apply List.any_eq_true.mpr
  refine ⟨stem k, stems, ?_⟩
  rw [Text.beginsWith, begun, String.toList_append]
  simp

private theorem isScanResource_listed {n : Nat} {name : String} (own : name ∈ listed a) :
    isScanResource (slashed n name) = true := by
  simp only [listed, List.mem_cons, List.not_mem_nil, or_false] at own
  rcases own with rfl | rfl | rfl | rfl | rfl
  · exact isScanResource_slashed (k := .snapshot) (by decide) rfl
  · exact isScanResource_slashed (k := .volume) (by decide) rfl
  · exact isScanResource_slashed (k := .networkInterface) (by decide) rfl
  · exact isScanResource_slashed (k := .scanner) (by decide) rfl
  · exact isScanResource_slashed (k := .volume) (by decide) (String.append_assoc ..)

/-- The first name of a listed container. -/
def firstListed? (v : Json) : Option String :=
  ((v.get? "Names").bind Json.asArray?).bind fun names => names.head?.bind Json.asString?

private theorem isScanResource_dropLeading (name : String) :
    isScanResource (Text.dropLeading '/' name) = isScanResource name := by
  have again : Text.dropLeading '/' (Text.dropLeading '/' name) = Text.dropLeading '/' name := by
    simp only [Text.dropLeading, String.toList_ofList, List.dropWhile_idempotent]
  rw [isScanResource, isScanResource, again]

private theorem machine_passed_over {v : Json} {name : String} (named : v.string? "name" = some name)
    (own : isScanResource name = true) : Azure.asset? v = none := by
  simp [Azure.asset?, named, own]

private theorem container_passed_over {v : Json} {name location : String} (named : firstListed? v = some name)
    (own : isScanResource name = true) : Docker.asset? location v = none := by
  have bare : isScanResource (Text.dropLeading '/' name) = true := by
    rw [isScanResource_dropLeading, own]
  rw [firstListed?] at named
  simp [Docker.asset?, named, bare]

/-- Names are alike only where scan and kind are, in any case; a filler has a name of its own; and
whatever is listed under a name of a scan, behind any number of slashes, is passed over. -/
theorem names_tell_apart :
    (∀ (a b : ScanId) (k l : ResourceKind), (ofScan a).of k = (ofScan b).of l ↔ a = b ∧ k = l) ∧
    (∀ (a b : ScanId) (k l : ResourceKind),
      Text.toLowerAscii ((ofScan a).of k) = Text.toLowerAscii ((ofScan b).of l) ↔ a = b ∧ k = l) ∧
    (∀ a b : ScanId,
      Docker.fillerName (ofScan a).volume = Docker.fillerName (ofScan b).volume ↔ a = b) ∧
    (∀ a b : ScanId, Docker.fillerName (ofScan a).volume ≠ (ofScan b).scanner) ∧
    ∀ (a : ScanId) (name : String) (n : Nat), name ∈ listed a →
      isScanResource (slashed n name) = true ∧
      (∀ v : Json, v.string? "name" = some (slashed n name) → Azure.asset? v = none) ∧
      ∀ (v : Json) (location : String), firstListed? v = some (slashed n name) →
        Docker.asset? location v = none := by
  refine ⟨fun a b k l => of_inj, ?_, fun a b => fillerName_inj, fun a b => fillerName_ne_scanner, ?_⟩
  · intro a b k l
    rw [toLowerAscii_of, toLowerAscii_of, of_inj]
  · intro a name n own
    have marked := isScanResource_listed (n := n) own
    refine ⟨marked, ?_, ?_⟩
    · intro v named
      exact machine_passed_over named marked
    · intro v location named
      exact container_passed_over named marked

/-- A filler as an engine lists it. -/
def sampleListing : Json :=
  .object [("Id", .str "ghi"), ("Names", .strings ["/asset-scan-volume-scan-0001-populate"])]

theorem names_tell_apart_listing :
    "asset-scan-volume-scan-0001-populate" ∈ listed (Rehearsal.sampleJob false).scanId ∧
    firstListed? sampleListing = some (slashed 1 "asset-scan-volume-scan-0001-populate") ∧
    Docker.asset? "local" sampleListing = none := by
  have own : "asset-scan-volume-scan-0001-populate" ∈ listed (Rehearsal.sampleJob false).scanId := by
    decide
  have named : firstListed? sampleListing = some (slashed 1 "asset-scan-volume-scan-0001-populate") := by
    decide +kernel
  exact ⟨own, named, ((names_tell_apart.2.2.2.2 _ _ 1 own).2.2 sampleListing "local" named)⟩

end Names

end ScanProvisioning
