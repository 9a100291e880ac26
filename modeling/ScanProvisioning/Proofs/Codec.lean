import ScanProvisioning.Proofs.Asset.Codec
import ScanProvisioning.Rehearsal.Cloud

namespace ScanProvisioning

open Json Json.Decoder

/-- What is read from an object is read from its other words. -/
def ReadAlike {α : Type} (shape : α → Shape) (dec : Decoder α) : Prop :=
  ∀ a members d, dec (.obj members none) = .ok a → Restated (shape a) (.obj members none) d → dec d = .ok a

theorem Job.readAlike : ReadAlike (fun _ => shape) decoder :=
  fun job _ _ read restated => decoder_steady.restated restated job read

theorem Asset.readAlike : ReadAlike (fun asset => shape asset.kind) decoder := by
  intro asset members d read restated
  obtain ⟨members', rfl, read'⟩ :=
    restated.obj (P := fun members => ofMembers kindTag members none = .ok asset)
      (ofMembers_edited fun _ => kindTag_steady) read
  exact read'

theorem DiscoveredAsset.readAlike : ReadAlike (fun discovered => shape discovered.asset.kind) decoder := by
  intro discovered members d read restated
  obtain ⟨members', rfl, read'⟩ :=
    restated.obj (P := fun members => decoder (.obj members none) = .ok discovered) decoder_edited read
  exact read'

/-- Descriptions with a finite price, assets and discovered assets are read back, and read the same in other
words. -/
theorem codec_faithful :
    ((∀ job : Job, (∀ price ∈ job.sizing.maxSpotPrice, price.isFinite) →
      decode Job.decoder job.toJson = .ok job) ∧
      ReadAlike (fun _ => Job.shape) Job.decoder) ∧
    ((∀ asset : Asset, decode Asset.decoder asset.toJson = .ok asset) ∧
      ReadAlike (fun asset => Asset.shape asset.kind) Asset.decoder) ∧
    ((∀ discovered : DiscoveredAsset,
      Timestamp.ofText discovered.discoveredAt.text = .ok discovered.discoveredAt →
        decode DiscoveredAsset.decoder discovered.toJson = .ok discovered) ∧
      ReadAlike (fun discovered => DiscoveredAsset.shape discovered.asset.kind) DiscoveredAsset.decoder) :=
  ⟨⟨Job.decode_toJson, Job.readAlike⟩, ⟨Asset.decode_toJson, Asset.readAlike⟩,
    ⟨fun _ => DiscoveredAsset.decode_toJson, DiscoveredAsset.readAlike⟩⟩

def sampleAsset : Asset := .container "c-1" "web" "nginx" "local"

def sampleDiscovery : DiscoveredAsset where
  provider := .docker
  asset := sampleAsset
  discoveredAt := ⟨0, 0⟩

/-- The sample job with a price of one. -/
def pricedJob : Job :=
  let job := Rehearsal.sampleJob true
  { job with sizing := { job.sizing with maxSpotPrice := some ⟨0x3FF0000000000000⟩ } }

/-- A price, a time and members that nobody knows come back as they should. -/
theorem codec_faithful_samples :
    decode Job.decoder pricedJob.toJson = .ok pricedJob ∧
      decode DiscoveredAsset.decoder sampleDiscovery.toJson = .ok sampleDiscovery ∧
      Asset.decoder (.obj ((.str "note", .null) :: toDocumentMembers sampleAsset.members) none) =
        .ok sampleAsset :=
  ⟨codec_faithful.1.1 pricedJob (by rintro _ ⟨⟩; decide), codec_faithful.2.2.1 sampleDiscovery rfl,
    codec_faithful.2.1.2 sampleAsset _ _ rfl (.single (.added rfl rfl))⟩

/-- An asset is not read past a member that has no value. -/
theorem Asset.refused_of_not_whole {name : String} {v : Document} {members : List (Document × Document)}
    {ending : Option Fault} {r : Refusal} (other : name ≠ "type") (valueless : whole v = .error r) :
    decoder (.obj ((.str name, v) :: members) ending) = .error r := by
  rw [decoder, ofMembers, splitKind]
  dsimp only [Document.nameOf, whenFault, Bind.bind, Except.bind]
  rw [if_neg other, valueless]

/-- Arrays in one another, one more than `depth`. -/
def nested : (depth : Nat) → Document
  | 0 => .arr [] none
  | depth + 1 => .arr [nested depth] none

private theorem nested_passed (depth : Nat) : (nested depth).passed = .ok () := by
  induction depth with
  | zero => rfl
  | succ depth ih => exact passed_arr_iff.mpr (by simpa using ih)

private theorem nested_tooDeep (depth : Nat) : (nested depth).toJson depth = .error .tooDeep := by
  induction depth with
  | zero => rfl
  | succ depth ih =>
    rw [nested, Document.toJson, Document.toItems, ih]
    rfl

/-- A well-formed member that an asset does not know makes it unreadable by being nested too deep. -/
theorem asset_refused_for_depth :
    Asset.decoder (.obj (toDocumentMembers sampleAsset.members) none) = .ok sampleAsset ∧
      (Asset.shape sampleAsset.kind).Unknown "extra" ∧ (nested 126).passed = .ok () ∧
      Asset.decoder (.obj ((.str "extra", nested 126) :: toDocumentMembers sampleAsset.members) none) =
        .error (.fault .tooDeep) := by
  refine ⟨rfl, rfl, nested_passed 126, Asset.refused_of_not_whole (by decide) ?_⟩
  change whenFault (((nested 126).toJson 126).map fun _ => ()) = _
  rw [nested_tooDeep]
  rfl

end ScanProvisioning
