import ScanProvisioning.Binary64

namespace ScanProvisioning

/-- A JSON value. Whole numbers are exact and are kept apart from binary floating point numbers; the members of
an object stand in increasing order of their names, each name once. -/
inductive Json
  | null
  | bool (b : Bool)
  | int (i : Int)
  | float (x : Binary64)
  | str (s : String)
  | arr (items : List Json)
  | obj (members : List (String × Json))
  deriving Inhabited

namespace Json

/-- Put a member into an ordered list of members, in place of one of the same name. -/
def insert (name : String) (v : Json) : List (String × Json) → List (String × Json)
  | [] => [(name, v)]
  | (n, w) :: rest =>
    if name < n then (name, v) :: (n, w) :: rest
    else if name = n then (name, v) :: rest
    else (n, w) :: insert name v rest

/-- The object with these members; of two with the same name the later counts. -/
def object (members : List (String × Json)) : Json :=
  obj (members.foldl (fun ms m => insert m.1 m.2 ms) [])

def ofNat (n : Nat) : Json := int n

def strings (ss : List String) : Json := arr (ss.map str)

/-- A number, or null for one that is not finite. -/
def ofBinary64 (x : Binary64) : Json := if x.isFinite then float x else null

def ofString? : Option String → Json
  | none => null
  | some s => str s

/-- The member of that name, if the value is an object that has one. -/
def get? (name : String) : Json → Option Json
  | obj members => members.lookup name
  | _ => none

def at? : List String → Json → Option Json
  | [], v => some v
  | name :: path, v => (v.get? name).bind (at? path)

def asString? : Json → Option String
  | str s => some s
  | _ => none

def asArray? : Json → Option (List Json)
  | arr items => some items
  | _ => none

/-- A whole number in the range of a signed 64-bit word. -/
def asInt64? : Json → Option Int
  | int i => if -9223372036854775808 ≤ i ∧ i < 9223372036854775808 then some i else none
  | _ => none

def string? (name : String) (v : Json) : Option String := (v.get? name).bind asString?

def stringAt? (path : List String) (v : Json) : Option String := (v.at? path).bind asString?

end Json

end ScanProvisioning
