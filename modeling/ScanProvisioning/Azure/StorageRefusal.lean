import ScanProvisioning.Failure
import ScanProvisioning.Xml

namespace ScanProvisioning.Azure

def storageReport? (body : String) : Option (String × String) := do
  let .element _ attributes content ← Xml.ofText? body | none
  if !Xml.areAttributes attributes ∨ !Xml.areTextsSound content then none
  let code ← Xml.plainText? (← ← Xml.only? "Code" content)
  let message ← Xml.plainText? ((← Xml.only? "Message" content).getD [])
  return (code, Text.trim message)

/-- The failure that a refused request to the object store comes to. -/
def storageRefusal (operation : String) (status : UInt16) (headerCode : Option String) (body : String) :
    Failure :=
  match storageReport? body with
  | some (code, message) => .refusal operation status (some code) message
  | none =>
    .refusal operation status headerCode
      (if Text.trim body = "" then "status " ++ toString status.toNat else body)

end ScanProvisioning.Azure
