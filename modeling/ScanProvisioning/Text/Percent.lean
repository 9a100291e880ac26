namespace ScanProvisioning.Text

def hexDigit (n : Nat) : Char := if n < 10 then Char.ofNat (0x30 + n) else Char.ofNat (0x41 + (n - 10))

def percentByte (b : UInt8) : List Char := ['%', hexDigit (b.toNat / 16), hexDigit (b.toNat % 16)]

/-- Keep the characters of a class and encode all others. -/
def percentEncoded (keep : Char → Bool) (s : String) : String :=
  String.ofList (s.toList.flatMap fun c =>
    if keep c then [c] else (String.utf8EncodeChar c).flatMap percentByte)

/-- The characters that stand for themselves everywhere in an address. -/
def isUnreserved (c : Char) : Bool := c.isAlphanum || c = '-' || c = '_' || c = '.' || c = '~'

def pathPart (s : String) : String := percentEncoded isUnreserved s

def hexValue? (c : Char) : Option Nat :=
  if c.isDigit then some (c.toNat - '0'.toNat)
  else if 'a' ≤ c ∧ c ≤ 'f' then some (c.toNat - 'a'.toNat + 10)
  else if 'A' ≤ c ∧ c ≤ 'F' then some (c.toNat - 'A'.toNat + 10)
  else none

/-- The bytes that a text encodes; a percent sign without two digits stands for itself. -/
def percentDecodedBytes : List Char → List UInt8
  | '%' :: a :: b :: rest =>
    match hexValue? a, hexValue? b with
    | some x, some y => UInt8.ofNat (x * 16 + y) :: percentDecodedBytes rest
    | _, _ => '%'.toUInt8 :: percentDecodedBytes (a :: b :: rest)
  | c :: rest => String.utf8EncodeChar c ++ percentDecodedBytes rest
  | [] => []

/-- The text that a text encodes, if its bytes are UTF-8. -/
def percentDecoded? (s : String) : Option String :=
  String.fromUTF8? ⟨(percentDecodedBytes s.toList).toArray⟩

/-- The characters that stand for themselves in a form. -/
def isFormPlain (c : Char) : Bool := c.isAlphanum || c = '*' || c = '-' || c = '.' || c = '_'

/-- A name or a value of a form; a blank becomes a plus sign. -/
def formPart (s : String) : String :=
  String.ofList (s.toList.flatMap fun c =>
    if isFormPlain c then [c]
    else if c = ' ' then ['+']
    else (String.utf8EncodeChar c).flatMap percentByte)

def formLine (pairs : List (String × String)) : String :=
  "&".intercalate (pairs.map fun (name, value) => formPart name ++ "=" ++ formPart value)

theorem percentEncoded_of_all {keep : Char → Bool} {s : String} (h : ∀ c ∈ s.toList, keep c) :
    percentEncoded keep s = s := by
  have aux : ∀ cs : List Char, (∀ c ∈ cs, keep c) →
      cs.flatMap (fun c => if keep c then [c] else (String.utf8EncodeChar c).flatMap percentByte) = cs := by
    intro cs
    induction cs with
    | nil => intro _; rfl
    | cons c cs ih =>
      intro h
      rw [List.flatMap_cons, ih fun d hd => h d (List.mem_cons_of_mem _ hd), if_pos (h c List.mem_cons_self)]
      rfl
  rw [percentEncoded, aux _ h, String.ofList_toList]

end ScanProvisioning.Text
