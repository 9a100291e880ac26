import ScanProvisioning.Asset
import ScanProvisioning.Job.Codec

namespace ScanProvisioning

open Json Json.Decoder

namespace Asset

def fieldsOf : AssetKind → List Field
  | .virtualMachine =>
    [field "instance_id" string, field "name" string, field "location" string,
      field "root_volume_id" (orNull string)]
  | .container =>
    [field "container_id" string, field "name" string, field "image" string,
      field "location" string]

def ofFound (kind : AssetKind) (found : Found) : Except Refusal Asset :=
  match kind with
  | .virtualMachine => do
    return .virtualMachine (← required found "instance_id" string) (← required found "name" string)
      (← required found "location" string)
      (← withDefault found "root_volume_id" (orNull string) none)
  | .container => do
    return .container (← required found "container_id" string) (← required found "name" string)
      (← required found "image" string) (← required found "location" string)

def variantName : AssetKind → String
  | .virtualMachine => "struct variant AssetInfo::VirtualMachine"
  | .container => "struct variant AssetInfo::Container"

def kindTag : Decoder AssetKind
  | .str s => named AssetKind.choices s
  | d => wrongType "variant identifier" d

/-- A kind by its name or its place in the list of kinds. -/
def kindTagOrIndex : Decoder AssetKind
  | .int 0 => .ok .virtualMachine
  | .int 1 => .ok .container
  | .int i =>
    if i < 0 then wrongType "variant identifier" (.int i)
    else .error (.mismatch (.invalidValue (integerShown i) "variant index 0 <= i < 2"))
  | d => kindTag d

def whole (d : Document) : Except Refusal Unit :=
  whenFault ((d.toJson (maxDepth - 1)).map fun _ => ())

/-- Split the members of an object into the kind and the others, checking them in their order. -/
def splitKind (tag : Decoder AssetKind) :
    (kind : Option AssetKind) → List (Document × Document) → Option Fault →
      Except Refusal (AssetKind × List (Document × Document))
  | none, [], none => .error (.mismatch (.missingField "type"))
  | some kind, [], none => .ok (kind, [])
  | _, [], some f => .error (.fault f)
  | kind, (k, v) :: rest, ending => do
    let name ← whenFault (Document.nameOf k)
    if name = "type" then
      if kind.isSome then throw (.mismatch (.duplicateField "type"))
      splitKind tag (some (← tag v)) rest ending
    else
      whole v
      let (kind, others) ← splitKind tag kind rest ending
      return (kind, (k, v) :: others)

def ofMembers (tag : Decoder AssetKind) (members : List (Document × Document))
    (ending : Option Fault) : Except Refusal Asset := do
  let (kind, others) ← splitKind tag none members ending
  ofFound kind (← fromMembers (fieldsOf kind) [] others none)

/-- An asset from the items of an array, the kind first. -/
def ofItems (items : List Document) (ending : Option Fault) : Except Refusal Asset := do
  match items, ending with
  | [], none => throw (.mismatch (.missingField "type"))
  | [], some f => throw (.fault f)
  | tag :: values, ending =>
    let kind ← kindTag tag
    for v in values do whole v
    if let some f := ending then throw (.fault f)
    let fields := fieldsOf kind
    let expected := variantName kind ++ " with " ++ elementCount fields.length
    let found ← fromItems expected none 0 fields (values.take fields.length)
    if fields.length < values.length then
      throw (.mismatch (.invalidLength values.length (elementCount fields.length ++ " in sequence")))
    ofFound kind found

def decoder : Decoder Asset
  | .obj members ending => ofMembers kindTag members ending
  | .arr items ending => ofItems items ending
  | d => wrongType "internally tagged enum AssetInfo" d

def members : Asset → List (String × Json)
  | virtualMachine instanceId name location rootVolume =>
    [("type", .str AssetKind.virtualMachine.name), ("instance_id", .str instanceId),
      ("name", .str name), ("location", .str location), ("root_volume_id", .ofString? rootVolume)]
  | container containerId name image location =>
    [("type", .str AssetKind.container.name), ("container_id", .str containerId),
      ("name", .str name), ("image", .str image), ("location", .str location)]

def toJson (a : Asset) : Json := .object a.members

end Asset

namespace ProviderKind

def choices : List (String × ProviderKind) := [(azure.name, azure), (docker.name, docker)]

def decoder : Decoder ProviderKind := choice choices

end ProviderKind

namespace Timestamp

def decoder : Decoder Timestamp
  | .str s =>
    match ofText s with
    | .ok t => .ok t
    | .error f => .error (.mismatch (.rejected f.message))
  | d => wrongType "an RFC 3339 formatted date and time string" d

end Timestamp

namespace DiscoveredAsset

/-- Split off the members that are not the asset's, checking all of them in their order. -/
def splitOwn :
    (own : Found) → List (Document × Document) → Option Fault →
      Except Refusal (Found × List (Document × Document))
  | own, [], none => .ok (own, [])
  | _, [], some f => .error (.fault f)
  | own, (k, v) :: rest, ending => do
    let name ← whenFault (Document.nameOf k)
    if name = "provider" ∨ name = "discovered_at" then
      if (own.lookup name).isSome then throw (.mismatch (.duplicateField name))
      if name = "provider" then discard (ProviderKind.decoder v) else discard (Timestamp.decoder v)
      splitOwn ((name, v) :: own) rest ending
    else
      Asset.whole v
      let (own, others) ← splitOwn own rest ending
      return (own, (k, v) :: others)

def decoder : Decoder DiscoveredAsset
  | .obj members ending => do
    let (own, others) ← splitOwn [] members ending
    let provider ← required own "provider" ProviderKind.decoder
    let discoveredAt ← required own "discovered_at" Timestamp.decoder
    let asset ← Asset.ofMembers Asset.kindTagOrIndex others none
    return { provider, asset, discoveredAt }
  | d => wrongType "struct DiscoveredAsset" d

def toJson (d : DiscoveredAsset) : Json :=
  .object (("provider", .str d.provider.name) :: d.asset.members ++
    [("discovered_at", .str d.discoveredAt.text)])

end DiscoveredAsset

end ScanProvisioning
