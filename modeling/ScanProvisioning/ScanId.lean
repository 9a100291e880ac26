import ScanProvisioning.Text.Quoted

namespace ScanProvisioning

namespace ScanId

/-- Longest accepted id in bytes, so that every name made from it stays within 64 characters. -/
def maxBytes : Nat := 40

def isAllowed (c : Char) : Bool := c.isLower || c.isDigit || c == '-'

/-- Why a text is not a scan id. -/
inductive Rejection
  | empty
  | tooLong
  | invalidCharacter (c : Char)
  | invalidBoundary
  deriving DecidableEq

def Rejection.message : Rejection → String
  | empty => "asset scan id is empty"
  | tooLong => "asset scan id is longer than " ++ toString maxBytes ++ " characters"
  | invalidCharacter c => "asset scan id contains invalid character " ++ Text.quotedChar c
  | invalidBoundary => "asset scan id must start and end with a letter or digit"

end ScanId

/-- The id of one scan of one asset. -/
@[ext] structure ScanId where
  text : String
  nonempty : text ≠ ""
  short : text.utf8ByteSize ≤ ScanId.maxBytes
  allowed : ∀ c ∈ text.toList, ScanId.isAllowed c
  bounded : text.toList.head? ≠ some '-' ∧ text.toList.getLast? ≠ some '-'
  deriving DecidableEq

namespace ScanId

/-- The id a text spells, or the first rule that it breaks. -/
def parse (raw : String) : Except Rejection ScanId :=
  if h₁ : raw = "" then .error .empty
  else if h₂ : maxBytes < raw.utf8ByteSize then .error .tooLong
  else
    match h₃ : raw.toList.find? fun c => !isAllowed c with
    | some c => .error (.invalidCharacter c)
    | none =>
      if h₄ : raw.toList.head? = some '-' ∨ raw.toList.getLast? = some '-' then
        .error .invalidBoundary
      else .ok {
        text := raw
        nonempty := h₁
        short := Nat.le_of_not_lt h₂
        allowed := by simpa using h₃
        bounded := not_or.mp h₄ }

end ScanId

end ScanProvisioning
