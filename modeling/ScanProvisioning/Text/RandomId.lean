import ScanProvisioning.Text.Percent

namespace ScanProvisioning.Text

/-- The byte at a place of an identifier, with the bits that mark it as random. -/
def markedByte (place : Nat) (b : UInt8) : UInt8 :=
  if place = 6 then b % 16 + 0x40 else if place = 8 then b % 64 + 0x80 else b

def hexByte (b : UInt8) : List Char := (percentByte b).tail.map Char.toLower

def randomId (bytes : List UInt8) : String :=
  let digits := bytes.zipIdx.flatMap fun (b, place) => hexByte (markedByte place b)
  let group (start length : Nat) : String := String.ofList ((digits.drop start).take length)
  "-".intercalate [group 0 8, group 8 4, group 12 4, group 16 4, group 20 12]

end ScanProvisioning.Text
