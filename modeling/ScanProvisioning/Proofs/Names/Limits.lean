import Mathlib.Data.String.Basic
import ScanProvisioning.Proofs.Docker.Component
import ScanProvisioning.Proofs.Names

namespace ScanProvisioning

private theorem length_le_utf8ByteSize (s : String) : s.length ≤ s.utf8ByteSize := by
  have counted (cs : List Char) : cs.length ≤ String.utf8Len cs := by
    induction cs with
    | nil => exact Nat.le_refl 0
    | cons c cs ih =>
      rw [List.length_cons, String.utf8Len_cons]
      exact Nat.add_le_add ih c.utf8Size_pos
  have whole := counted s.toList
  rwa [← String.utf8ByteSize_ofList, String.ofList_toList, String.length_toList] at whole

private theorem isUnreserved_of_isAllowed {c : Char} (allowed : ScanId.isAllowed c = true) :
    Text.isUnreserved c = true := by
  rw [ScanId.isAllowed, Bool.or_eq_true, Bool.or_eq_true, beq_iff_eq] at allowed
  rw [Text.isUnreserved]
  delta Char.isAlphanum Char.isAlpha
  rcases allowed with (lower | digit) | rfl
  · simp [lower]
  · simp [digit]
  · decide

namespace Azure.Account

/-- Where staged copies are kept. -/
def containerUrl (a : Account) : String :=
  "https://" ++ a.config.storageAccount ++ ".blob.core.windows.net/" ++ a.config.storageContainer

theorem objectUrl_eq (a : Account) (name : String) :
    a.objectUrl name = a.containerUrl ++ "/" ++ Text.pathPart name := rfl

end Azure.Account

namespace Names

variable {id : ScanId} {k : ResourceKind}

private theorem length_of_le : ((ofScan id).of k).length ≤ 64 := by
  have around : (stem k).length + (ending k).length ≤ 20 := by cases k <;> decide
  have inside : id.text.length ≤ 40 := (length_le_utf8ByteSize id.text).trans id.short
  rw [of_eq, String.length_append, String.length_append]
  omega

private theorem of_mem_component (kept : k ≠ .stagedCopy) : ((ofScan id).of k).toList ∈ Docker.component := by
  have stems : (stem k).toList.all ScanId.isAllowed = true ∧ (stem k).toList.head? = some 'a' ∧
      ending k = "" := by
    revert kept
    cases k <;> decide
  obtain ⟨before, first, nothing⟩ := stems
  have spelled : ((ofScan id).of k).toList = (stem k).toList ++ id.text.toList := by
    rw [toList_of, nothing]
    exact List.append_nil _
  have inside : id.text.toList ≠ [] := fun none => id.nonempty (String.toList_eq_nil_iff.mp none)
  rw [Docker.component_eq, spelled]
  refine ⟨by simp [inside], ?_, ?_, ?_⟩
  · intro c mem
    apply ScanId.isAllowed_iff.mp
    rcases List.mem_append.mp mem with mem | mem
    · exact List.all_eq_true.mp before c mem
    · exact id.allowed c mem
  · simp [List.head?_append, first]
  · rw [List.getLast?_append_of_ne_nil _ inside]
    exact id.bounded.2

private theorem pathPart_stagedCopy : Text.pathPart (ofScan id).stagedCopy = (ofScan id).stagedCopy := by
  apply Text.percentEncoded_of_all
  intro c mem
  have spelled : (ofScan id).stagedCopy.toList = id.text.toList ++ stagedCopyEnding.toList :=
    String.toList_append
  rw [spelled] at mem
  rcases List.mem_append.mp mem with mem | mem
  · exact isUnreserved_of_isAllowed (id.allowed c mem)
  · have each : stagedCopyEnding.toList.all Text.isUnreserved = true := by decide
    exact List.all_eq_true.mp each c mem

private theorem objectUrl_stagedCopy (a : Azure.Account) :
    a.objectUrl (ofScan id).stagedCopy = a.containerUrl ++ "/" ++ (ofScan id).stagedCopy := by
  rw [Azure.Account.objectUrl_eq, pathPart_stagedCopy]

theorem objectUrl_injective (a : Azure.Account) :
    Function.Injective fun id => a.objectUrl (ofScan id).stagedCopy := by
  intro id other same
  simp only [objectUrl_stagedCopy, String.append_right_inj] at same
  have copies : (ofScan id).of .stagedCopy = (ofScan other).of .stagedCopy := same
  exact (of_inj.mp copies).1

/-- A text is an id exactly if it has one to forty bytes, which are small letters, digits and hyphens with
no hyphen at either end, and the id keeps it as it is. All names of an id are at most 64 characters long;
those that begin with a stem are parts of a repository's name; and the address of its staged copy ends in
the copy's name as it stands, so that no other id has the same one. -/
theorem names_fit_providers :
    (∀ raw, (∃ id, ScanId.parse raw = .ok id) ↔ ScanId.Grammatical raw) ∧
    (∀ raw id, ScanId.parse raw = .ok id →
      id.text = raw ∧
      (∀ k, ((ofScan id).of k).length ≤ 64) ∧
      (∀ k, k ≠ .stagedCopy → ((ofScan id).of k).toList ∈ Docker.component) ∧
      Text.pathPart (ofScan id).stagedCopy = (ofScan id).stagedCopy ∧
      ∀ a : Azure.Account,
        a.objectUrl (ofScan id).stagedCopy = a.containerUrl ++ "/" ++ (ofScan id).stagedCopy) ∧
    ∀ a : Azure.Account, Function.Injective fun id => a.objectUrl (ofScan id).stagedCopy := by
  refine ⟨fun raw => ScanId.exists_parse_iff, ?_, objectUrl_injective⟩
  intro raw id parsed
  exact ⟨ScanId.text_of_parse parsed, fun k => length_of_le, fun k => of_mem_component, pathPart_stagedCopy,
    objectUrl_stagedCopy⟩

/-- An id of forty bytes, with two hyphens in a row. -/
def longestSample : String := "0123456789-abcdefghij--klmnopqrst-uvwxyz"

theorem names_fit_providers_longest :
    longestSample.utf8ByteSize = 40 ∧
    ∃ id, ScanId.parse longestSample = .ok id ∧ (ofScan id).snapshot = "asset-scan-snapshot-" ++ longestSample ∧
      (ofScan id).snapshot.length ≤ 64 ∧ (ofScan id).snapshot.toList ∈ Docker.component ∧
      ∀ a : Azure.Account,
        a.objectUrl (ofScan id).stagedCopy = a.containerUrl ++ "/" ++ (longestSample ++ ".vhd") := by
  obtain ⟨grammar, named, -⟩ := names_fit_providers
  have each : longestSample.toList.all (fun c => decide (IsSmallAlphanumeric c ∨ c = '-')) = true := by decide
  obtain ⟨id, parsed⟩ := (grammar longestSample).mpr {
    nonempty := by decide
    short := by decide
    characters := fun c mem => of_decide_eq_true (List.all_eq_true.mp each c mem)
    starts := by decide
    ends := by decide }
  obtain ⟨same, short, parts, -, addressed⟩ := named longestSample id parsed
  have snapshot : (ofScan id).snapshot = "asset-scan-snapshot-" ++ longestSample :=
    congrArg ("asset-scan-snapshot-" ++ ·) same
  have copy : (ofScan id).stagedCopy = longestSample ++ ".vhd" := congrArg (· ++ ".vhd") same
  refine ⟨by decide, id, parsed, snapshot, short .snapshot, parts .snapshot (by decide), ?_⟩
  intro a
  rw [addressed, copy]

end Names

end ScanProvisioning
