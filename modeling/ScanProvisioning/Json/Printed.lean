import ScanProvisioning.Json.Basic
import ScanProvisioning.Binary64.Shortest

namespace ScanProvisioning.Json

def escapedChar (c : Char) : String :=
  if c = '"' then "\\\""
  else if c = '\\' then "\\\\"
  else if c = '\n' then "\\n"
  else if c = '\r' then "\\r"
  else if c = '\t' then "\\t"
  else if c.toNat = 8 then "\\b"
  else if c.toNat = 12 then "\\f"
  else if c.toNat < 32 then
    "\\u00" ++ String.ofList ((if c.toNat < 16 then ['0'] else []) ++ Nat.toDigits 16 c.toNat)
  else String.singleton c

def printedString (s : String) : String :=
  "\"" ++ String.join (s.toList.map escapedChar) ++ "\""

mutual

def printed : Json → String
  | null => "null"
  | bool b => if b then "true" else "false"
  | int i => toString i
  | float x => if x.isFinite then x.text else "null"
  | str s => printedString s
  | arr items => "[" ++ ",".intercalate (printedItems items) ++ "]"
  | obj members => "\x7b" ++ ",".intercalate (printedMembers members) ++ "\x7d"

def printedItems : List Json → List String
  | [] => []
  | v :: rest => printed v :: printedItems rest

def printedMembers : List (String × Json) → List String
  | [] => []
  | (n, v) :: rest => (printedString n ++ ":" ++ printed v) :: printedMembers rest

end

/-- The start of a line, `depth` levels deep. -/
def margin (depth : Nat) : String := "\n" ++ String.ofList (List.replicate (2 * depth) ' ')

mutual

/-- The text of a value with a line for every item and member. -/
def prettyAt (depth : Nat) : Json → String
  | arr (v :: rest) =>
    "[" ++ ",".intercalate (prettyItems (depth + 1) (v :: rest)) ++ margin depth ++ "]"
  | obj (m :: rest) =>
    "\x7b" ++ ",".intercalate (prettyMembers (depth + 1) (m :: rest)) ++ margin depth ++ "\x7d"
  | v => v.printed

def prettyItems (depth : Nat) : List Json → List String
  | [] => []
  | v :: rest => (margin depth ++ prettyAt depth v) :: prettyItems depth rest

def prettyMembers (depth : Nat) : List (String × Json) → List String
  | [] => []
  | (n, v) :: rest =>
    (margin depth ++ printedString n ++ ": " ++ prettyAt depth v) :: prettyMembers depth rest

end

/-- The text of a value with a line for every item and member. -/
def pretty (v : Json) : String := prettyAt 0 v

end ScanProvisioning.Json
