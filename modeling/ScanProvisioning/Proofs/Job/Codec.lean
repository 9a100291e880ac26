import ScanProvisioning.Proofs.Json.Encoded
import ScanProvisioning.Proofs.ScanId
import ScanProvisioning.Job.Codec

namespace ScanProvisioning

open Json Json.Decoder

namespace AssetKind

private theorem decoder_name (kind : AssetKind) : decoder (.str kind.name) = .ok kind := by
  cases kind <;> rfl

end AssetKind

namespace ScanId

theorem decoder_steady {s : Shape} : Steady s decoder := steady_of_scalar (fun _ _ => nofun) (fun _ _ => nofun)

private theorem decoder_text (id : ScanId) : decoder (.str id.text) = .ok id := by
  rw [decoder, string]
  dsimp only [Bind.bind, Except.bind]
  rw [parse_text]
  rfl

end ScanId

namespace Target

def shape : Shape := .passing [("kind", .value), ("id", .value), ("volume", .value)] []

theorem decoder_steady : Steady shape decoder := by
  refine steady_record (.cons ⟨rfl, choice_steady.field⟩ <| .cons ⟨rfl, string_steady.field⟩ <|
    .cons ⟨rfl, string_steady.field⟩ .nil) (fun _ passed => passed) fun found found' kept => ?_
  simp only [List.forall_mem_cons] at kept
  obtain ⟨kind, id, volume, -⟩ := kept
  exact .bind (required_follows kind choice_steady fun _ => nofun) fun _ =>
    .bind (required_follows id string_steady fun _ => nofun) fun _ =>
    .bind (required_follows volume string_steady fun _ => nofun) fun _ => .refl _

theorem decode_toJson (t : Target) : decode decoder t.toJson = .ok t := by
  have kindRead := AssetKind.decoder_name t.kind
  refine decode_record decoder_steady (by simp) (.cons ⟨rfl, check_field_iff.mpr ⟨_, kindRead⟩⟩ <|
    .cons ⟨rfl, rfl⟩ <| .cons ⟨rfl, rfl⟩ .nil) fun found given => ?_
  simp only [List.forall_mem_cons] at given
  obtain ⟨kind, id, volume, -⟩ := given
  rw [required_given kind, required_given id, required_given volume, toDocument, kindRead]
  rfl

end Target

namespace Sizing

/-- The scanner runs on regular capacity, at whatever price, where nothing else is said. -/
def shape : Shape :=
  .passing [("volume_storage_class", .value), ("compute_size", .value), ("os_disk_size_gb", .value),
    ("use_spot_instances", .value), ("max_spot_price", .value)]
    [("use_spot_instances", .bool false), ("max_spot_price", .null)]

theorem price_steady {s : Shape} : Steady s (orNull binary64) :=
  steady_of_scalar (fun _ _ => nofun) (fun _ _ => nofun)

theorem decoder_steady : Steady shape decoder := by
  refine steady_record (.cons ⟨rfl, string_steady.field⟩ <| .cons ⟨rfl, string_steady.field⟩ <|
    .cons ⟨rfl, uint32_steady.field⟩ <| .cons ⟨rfl, boolean_steady.optionalField⟩ <|
    .cons ⟨rfl, price_steady.optionalField⟩ .nil) (fun _ passed => passed) fun found found' kept => ?_
  simp only [List.forall_mem_cons] at kept
  obtain ⟨storageClass, computeSize, osDisk, useSpot, price, -⟩ := kept
  exact .bind (required_follows storageClass string_steady fun _ => nofun) fun _ =>
    .bind (required_follows computeSize string_steady fun _ => nofun) fun _ =>
    .bind (required_follows osDisk uint32_steady fun _ => nofun) fun _ =>
    .bind (withDefault_follows useSpot boolean_steady (by rintro _ ⟨⟩; rfl)) fun _ =>
    .bind (withDefault_follows price price_steady (by rintro _ ⟨⟩; rfl)) fun _ => .refl _

private theorem uint32_toNat (n : UInt32) : uint32 (Json.ofNat n.toNat).toDocument = .ok n := by
  have range : (0 : Int) ≤ n.toNat ∧ (n.toNat : Int) < UInt32.size :=
    ⟨Int.natCast_nonneg _, Int.ofNat_lt.mpr n.toNat_lt⟩
  have read : natural UInt32.size "u32" (.int n.toNat) = .ok n.toNat := by
    rw [natural, if_pos range, Int.toNat_natCast]
  rw [Json.ofNat, toDocument, uint32, read]
  exact congrArg Except.ok UInt32.ofNat_toNat

/-- A price is written as the number it is if that is finite. -/
theorem price_toJson {price : Option Binary64} (finite : ∀ x ∈ price, x.isFinite) :
    orNull binary64 ((price.map Json.ofBinary64).getD .null).toDocument = .ok price := by
  cases price with
  | none => rfl
  | some x =>
    change orNull binary64 (Json.ofBinary64 x).toDocument = _
    rw [Json.ofBinary64, if_pos (finite x rfl)]
    rfl

theorem decode_toJson (s : Sizing) (finite : ∀ x ∈ s.maxSpotPrice, x.isFinite) :
    decode decoder s.toJson = .ok s := by
  have price := price_toJson finite
  refine decode_record decoder_steady (by simp) (.cons ⟨rfl, rfl⟩ <| .cons ⟨rfl, rfl⟩ <|
    .cons ⟨rfl, check_field_iff.mpr ⟨_, uint32_toNat _⟩⟩ <| .cons ⟨rfl, rfl⟩ <|
    .cons ⟨rfl, check_optionalField_iff.mpr ⟨_, price⟩⟩ .nil) fun found given => ?_
  simp only [List.forall_mem_cons] at given
  obtain ⟨storageClass, computeSize, osDisk, useSpot, maxSpotPrice, -⟩ := given
  rw [required_given storageClass, required_given computeSize, required_given osDisk, withDefault_given useSpot,
    withDefault_given maxSpotPrice, price, uint32_toNat]
  rfl

end Sizing

namespace ScannerSettings

def shape : Shape :=
  .passing [("image", .value), ("cli_config", .value), ("server_address", .value)]
    [("cli_config", .null), ("server_address", .null)]

theorem text_steady {s : Shape} : Steady s (orNull string) :=
  steady_of_scalar (fun _ _ => nofun) (fun _ _ => nofun)

theorem decoder_steady : Steady shape decoder := by
  refine steady_record (.cons ⟨rfl, string_steady.field⟩ <| .cons ⟨rfl, text_steady.optionalField⟩ <|
    .cons ⟨rfl, text_steady.optionalField⟩ .nil) (fun _ passed => passed) fun found found' kept => ?_
  simp only [List.forall_mem_cons] at kept
  obtain ⟨image, config, server, -⟩ := kept
  exact .bind (required_follows image string_steady fun _ => nofun) fun _ =>
    .bind (withDefault_follows config text_steady (by rintro _ ⟨⟩; rfl)) fun _ =>
    .bind (withDefault_follows server text_steady (by rintro _ ⟨⟩; rfl)) fun _ => .refl _

theorem text_toJson (text : Option String) : orNull string (Json.ofString? text).toDocument = .ok text := by
  cases text <;> rfl

theorem decode_toJson (s : ScannerSettings) : decode decoder s.toJson = .ok s := by
  refine decode_record decoder_steady (by simp) (.cons ⟨rfl, rfl⟩ <|
    .cons ⟨rfl, check_optionalField_iff.mpr ⟨_, text_toJson s.config⟩⟩ <|
    .cons ⟨rfl, check_optionalField_iff.mpr ⟨_, text_toJson s.server⟩⟩ .nil) fun found given => ?_
  simp only [List.forall_mem_cons] at given
  obtain ⟨image, config, server, -⟩ := given
  rw [required_given image, withDefault_given config, withDefault_given server, text_toJson, text_toJson]
  rfl

end ScannerSettings

namespace Job

def shape : Shape :=
  .passing [("asset_scan_id", .value), ("asset", Target.shape), ("source_region", .value),
    ("destination_region", .value), ("resources", Sizing.shape), ("scanner", ScannerSettings.shape)] []

theorem decoder_steady : Steady shape decoder := by
  refine steady_record (.cons ⟨rfl, ScanId.decoder_steady.field⟩ <| .cons ⟨rfl, Target.decoder_steady.field⟩ <|
    .cons ⟨rfl, string_steady.field⟩ <| .cons ⟨rfl, string_steady.field⟩ <|
    .cons ⟨rfl, Sizing.decoder_steady.field⟩ <| .cons ⟨rfl, ScannerSettings.decoder_steady.field⟩ .nil)
    (fun _ passed => passed) fun found found' kept => ?_
  simp only [List.forall_mem_cons] at kept
  obtain ⟨scanId, target, source, destination, sizing, scanner, -⟩ := kept
  exact .bind (required_follows scanId ScanId.decoder_steady fun _ => nofun) fun _ =>
    .bind (required_follows target Target.decoder_steady fun _ => nofun) fun _ =>
    .bind (required_follows source string_steady fun _ => nofun) fun _ =>
    .bind (required_follows destination string_steady fun _ => nofun) fun _ =>
    .bind (required_follows sizing Sizing.decoder_steady fun _ => nofun) fun _ =>
    .bind (required_follows scanner ScannerSettings.decoder_steady fun _ => nofun) fun _ => .refl _

theorem decode_toJson (job : Job) (finite : ∀ x ∈ job.sizing.maxSpotPrice, x.isFinite) :
    decode decoder job.toJson = .ok job := by
  have scanIdRead := job.scanId.decoder_text
  have targetRead := job.target.decode_toJson
  have sizingRead := job.sizing.decode_toJson finite
  have scannerRead := job.scanner.decode_toJson
  rw [decode] at targetRead sizingRead scannerRead
  refine decode_record decoder_steady (by simp) (.cons ⟨rfl, check_field_iff.mpr ⟨_, scanIdRead⟩⟩ <|
    .cons ⟨rfl, check_field_iff.mpr ⟨_, targetRead⟩⟩ <| .cons ⟨rfl, rfl⟩ <| .cons ⟨rfl, rfl⟩ <|
    .cons ⟨rfl, check_field_iff.mpr ⟨_, sizingRead⟩⟩ <|
    .cons ⟨rfl, check_field_iff.mpr ⟨_, scannerRead⟩⟩ .nil) fun found given => ?_
  simp only [List.forall_mem_cons] at given
  obtain ⟨scanId, target, source, destination, sizing, scanner, -⟩ := given
  rw [required_given scanId, required_given target, required_given source, required_given destination,
    required_given sizing, required_given scanner, targetRead, sizingRead, scannerRead, toDocument, scanIdRead]
  rfl

end Job

end ScanProvisioning
