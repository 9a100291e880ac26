import ScanProvisioning.Json.Document
import ScanProvisioning.Binary64.Shortest
import ScanProvisioning.Text.Quoted

namespace ScanProvisioning.Json

/-- How a value fails to fit what is expected. -/
inductive Mismatch
  | invalidType (found expected : String)
  | invalidValue (found expected : String)
  | invalidLength (found : Nat) (expected : String)
  | missingField (name : String)
  | duplicateField (name : String)
  | unknownVariant (found : String) (known : List String)
  | rejected (reason : String)
  deriving DecidableEq

namespace Mismatch

def ticked (s : String) : String := "`" ++ s ++ "`"

def oneOf : List String → String
  | [] => "there are no variants"
  | [a] => "expected " ++ ticked a
  | [a, b] => "expected " ++ ticked a ++ " or " ++ ticked b
  | names => "expected one of " ++ ", ".intercalate (names.map ticked)

def message : Mismatch → String
  | invalidType found expected => "invalid type: " ++ found ++ ", expected " ++ expected
  | invalidValue found expected => "invalid value: " ++ found ++ ", expected " ++ expected
  | invalidLength found expected => "invalid length " ++ toString found ++ ", expected " ++ expected
  | missingField name => "missing field " ++ ticked name
  | duplicateField name => "duplicate field " ++ ticked name
  | unknownVariant found known => "unknown variant " ++ ticked found ++ ", " ++ oneOf known
  | rejected reason => reason

end Mismatch

/-- Why a document is not accepted. -/
inductive Refusal
  | fault (f : Fault)
  | mismatch (m : Mismatch)
  deriving DecidableEq

def Refusal.message : Refusal → String
  | fault f => f.message
  | mismatch m => m.message

abbrev Decoder (α : Type) := Document → Except Refusal α

namespace Decoder

variable {α : Type}

def whenFault {β : Type} : Except Fault β → Except Refusal β
  | .ok b => .ok b
  | .error f => .error (.fault f)

def integerShown (i : Int) : String := "integer " ++ Mismatch.ticked (toString i)

def shown : Document → Except Fault String
  | .null => .ok "null"
  | .bool b => .ok ("boolean " ++ Mismatch.ticked (toString b))
  | .int i => .ok (integerShown i)
  | .float x => .ok ("floating point " ++ Mismatch.ticked x.text)
  | .str s => .ok ("string " ++ Text.quoted s)
  | .arr _ _ => .ok "sequence"
  | .obj _ _ => .ok "map"
  | .flawedText f _ => .error f
  | .flawedScalar f _ => .error f
  | .nothing f => .error f

def wrongType (expected : String) (d : Document) : Except Refusal α :=
  match shown d with
  | .ok found => .error (.mismatch (.invalidType found expected))
  | .error f => .error (.fault f)

def string : Decoder String
  | .str s => .ok s
  | d => wrongType "a string" d

def boolean : Decoder Bool
  | .bool b => .ok b
  | d => wrongType "a boolean" d

/-- A whole number from 0 up to `limit`. -/
def natural (limit : Nat) (expected : String) : Decoder Nat
  | .int i =>
    if 0 ≤ i ∧ i < limit then .ok i.toNat
    else .error (.mismatch (.invalidValue (integerShown i) expected))
  | d => wrongType expected d

def uint32 : Decoder UInt32 := fun d => (natural UInt32.size "u32" d).map UInt32.ofNat

def uint64 : Decoder UInt64 := fun d => (natural UInt64.size "u64" d).map UInt64.ofNat

/-- A number; whole ones are rounded to the nearest floating point number. -/
def binary64 : Decoder Binary64
  | .float x => .ok x
  | .int i => .ok (if i < 0 then (Binary64.ofNat i.natAbs).negate else Binary64.ofNat i.natAbs)
  | d => wrongType "f64" d

def orNull (dec : Decoder α) : Decoder (Option α)
  | .null => .ok none
  | d => (dec d).map some

def named (choices : List (String × α)) (s : String) : Except Refusal α :=
  match choices.lookup s with
  | some a => .ok a
  | none => .error (.mismatch (.unknownVariant s (choices.map Prod.fst)))

def null : Decoder Unit
  | .null => .ok ()
  | d => wrongType "unit" d

/-- A choice by name, written as the name or as an object from the name to null. -/
def choice (choices : List (String × α)) : Decoder α
  | .str s => named choices s
  | .flawedText f _ => .error (.fault f)
  | .nothing f => .error (.fault f)
  | .obj [] (some .openObject) => .error (.fault .noValue)
  | .obj [] (some f) => .error (.fault f)
  | .obj ((k, v) :: rest) ending => do
    let a ← match k with
      | .str s => named choices s
      | k => wrongType "variant identifier" k
    null v
    match rest, ending with
    | [], none => return a
    | [], some f => throw (.fault f.behindMember)
    | _ :: _, _ => throw (.fault .expectedValue)
  | _ => .error (.fault .expectedValue)

/-- A field of a record: how its value is checked, and whether it may be missing at the end of an array. -/
structure Field where
  name : String
  check : Decoder Unit
  optional : Bool := false

/-- A field whose value is read by `dec`. -/
def field (name : String) (dec : Decoder α) : Field := { name, check := fun d => (dec d).map fun _ => () }

/-- A field that may be missing, with a value read by `dec`. -/
def optionalField (name : String) (dec : Decoder α) : Field :=
  { field name dec with optional := true }

abbrev Found := List (String × Document)

/-- Check the members of an object in their order and collect the known ones. -/
def fromMembers (fields : List Field) :
    (found : Found) → List (Document × Document) → Option Fault → Except Refusal Found
  | found, [], none => .ok found
  | _, [], some f => .error (.fault f)
  | found, (k, v) :: rest, ending => do
    let name ← whenFault (Document.nameOf k)
    match fields.find? (·.name == name) with
    | none =>
      whenFault v.passed
      fromMembers fields found rest ending
    | some f =>
      if (found.lookup name).isSome then throw (.mismatch (.duplicateField name))
      f.check v
      fromMembers fields ((name, v) :: found) rest ending

/-- Check the items of an array against the fields in their order. -/
def fromItems (expected : String) (ending : Option Fault) :
    (index : Nat) → List Field → List Document → Except Refusal Found
  | _, [], [] =>
    match ending with
    | none => .ok []
    | some f => .error (.fault f.behindItems)
  | _, [], _ :: _ => .error (.fault .trailing)
  | index, f :: fs, v :: vs => do
    f.check v
    let found ← fromItems expected ending (index + 1) fs vs
    return (f.name, v) :: found
  | index, f :: fs, [] =>
    match ending with
    | some g => .error (.fault g)
    | none =>
      if f.optional then fromItems expected ending (index + 1) fs []
      else .error (.mismatch (.invalidLength index expected))

def elementCount (n : Nat) : String := if n = 1 then "1 element" else toString n ++ " elements"

/-- The fields of a record, from an object or an array. -/
def record (name : String) (fields : List Field) : Decoder Found
  | .obj members ending => fromMembers fields [] members ending
  | .arr items ending =>
    fromItems ("struct " ++ name ++ " with " ++ elementCount fields.length) ending 0 fields items
  | d => wrongType ("struct " ++ name) d

def required (found : Found) (name : String) (dec : Decoder α) : Except Refusal α :=
  match found.lookup name with
  | some d => dec d
  | none => .error (.mismatch (.missingField name))

/-- The value of a field, or `default` where it is missing. -/
def withDefault (found : Found) (name : String) (dec : Decoder α) (default : α) : Except Refusal α :=
  match found.lookup name with
  | some d => dec d
  | none => .ok default

def ofText (dec : Decoder α) (s : String) : Except Refusal α := do
  let (d, more) := Document.ofText s
  let a ← dec d
  if more then throw (.fault .trailing)
  return a

end Decoder

mutual

def toDocument : Json → Document
  | .null => .null
  | .bool b => .bool b
  | .int i => .int i
  | .float x => .float x
  | .str s => .str s
  | .arr items => .arr (toDocuments items) none
  | .obj members => .obj (toDocumentMembers members) none

def toDocuments : List Json → List Document
  | [] => []
  | v :: rest => toDocument v :: toDocuments rest

def toDocumentMembers : List (String × Json) → List (Document × Document)
  | [] => []
  | (n, v) :: rest => (.str n, toDocument v) :: toDocumentMembers rest

end

def decode {α : Type} (dec : Decoder α) (v : Json) : Except Refusal α := dec v.toDocument

end ScanProvisioning.Json
