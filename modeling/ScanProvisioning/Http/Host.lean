import ScanProvisioning.Text.Percent

namespace ScanProvisioning.Http.Host

def parts (sep : Char) : List Char → List (List Char)
  | [] => [[]]
  | c :: cs =>
    if c = sep then [] :: parts sep cs
    else
      match parts sep cs with
      | [] => [[c]]
      | p :: ps => (c :: p) :: ps

/-- The value of digits in a base up to 16, continuing from `acc`. -/
def digits? (base acc : Nat) : List Char → Option Nat
  | [] => some acc
  | c :: cs => do
    let d ← Text.hexValue? c
    if d < base then digits? base (acc * base + d) cs else none

/-- A number in decimal, in octal after a zero, or in hexadecimal after `0x`. -/
def number? : List Char → Option Nat
  | [] => none
  | '0' :: 'x' :: cs => digits? 16 0 cs
  | '0' :: 'X' :: cs => digits? 16 0 cs
  | '0' :: c :: cs => digits? 8 0 (c :: cs)
  | cs => digits? 10 0 cs

/-- The labels of a host, the empty one after a last dot left out. -/
def labels (cs : List Char) : List (List Char) :=
  let ps := parts '.' cs
  if ps.getLast? = some [] ∧ 1 < ps.length then ps.dropLast else ps

/-- Whether a host has to be a numeric address. -/
def endsInNumber (cs : List Char) : Bool :=
  match (labels cs).getLast? with
  | none => false
  | some [] => false
  | some l => l.all Char.isDigit || (l.take 2 == ['0', 'x'] || l.take 2 == ['0', 'X']) && (number? l).isSome

/-- The four bytes of an address of up to four numbers; the last number fills the bytes left. -/
def fourBytes? (cs : List Char) : Option (List Nat) := do
  let ns ← (labels cs).mapM number?
  if 4 < ns.length then none
  let last ← ns.getLast?
  let init := ns.dropLast
  if init.any (255 < ·) ∨ Nat.pow 256 (4 - init.length) ≤ last then none
  let left := 4 - init.length
  return init ++ (List.range left).map fun i => last / Nat.pow 256 (left - 1 - i) % 256

def fourBytesText (ns : List Nat) : String := ".".intercalate (ns.map toString)

/-- The groups of one side of a long address; a last group may be an address of four bytes. -/
def groups? (lastSide : Bool) : List (List Char) → Option (List Nat)
  | [] => some []
  | [p] =>
    if lastSide ∧ p.contains '.' then
      if (parts '.' p).length ≠ 4 ∨ (parts '.' p).any (fun q => q.length ≠ 1 ∧ q.head? = some '0' ∨
          q.isEmpty ∨ !q.all Char.isDigit) then none
      else
        match fourBytes? p with
        | some [a, b, c, d] => some [a * 256 + b, c * 256 + d]
        | _ => none
    else if p.isEmpty ∨ 4 < p.length then none
    else (digits? 16 0 p).map ([·])
  | p :: ps => do
    if p.isEmpty ∨ 4 < p.length then none
    return (← digits? 16 0 p) :: (← groups? lastSide ps)

/-- The text before and after the first double colon, if there is one. -/
def splitDoubleColon : List Char → Option (List Char × List Char)
  | [] => none
  | ':' :: ':' :: cs => some ([], cs)
  | c :: cs => (splitDoubleColon cs).map fun (a, b) => (c :: a, b)

def sideGroups? (lastSide : Bool) (cs : List Char) : Option (List Nat) :=
  if cs.isEmpty then some [] else groups? lastSide (parts ':' cs)

def eightGroups? (cs : List Char) : Option (List Nat) :=
  match splitDoubleColon cs with
  | some (before, after) => do
    let before ← sideGroups? false before
    let after ← sideGroups? true after
    if 7 < before.length + after.length then none
    return before ++ List.replicate (8 - before.length - after.length) 0 ++ after
  | none => do
    let gs ← sideGroups? true cs
    if gs.length = 8 then return gs else none

def zeroRun (gs : List Nat) : Nat := (gs.takeWhile (· = 0)).length

/-- Start and length of the first longest run of zeros, if one is longer than one group. -/
def longestRun (gs : List Nat) : Option (Nat × Nat) :=
  (List.range gs.length).foldl (fun best i =>
    let n := zeroRun (gs.drop i)
    match best with
    | some (_, m) => if m < n then some (i, n) else best
    | none => if 1 < n then some (i, n) else none) none

def groupsText (gs : List Nat) : String :=
  let hex (n : Nat) : String := String.ofList (Nat.toDigits 16 n)
  let join (gs : List Nat) : String := ":".intercalate (gs.map hex)
  match longestRun gs with
  | some (i, n) => "[" ++ join (gs.take i) ++ "::" ++ join (gs.drop (i + n)) ++ "]"
  | none => "[" ++ join gs ++ "]"

def isForbidden (c : Char) : Bool :=
  c.toNat ≤ 0x20 || 0x7F ≤ c.toNat || "#/:<>?@[\\]^`\x7b|\x7d%".toList.contains c

def parse? (cs : List Char) : Option String :=
  match cs with
  | '[' :: rest =>
    if rest.getLast? = some ']' then (eightGroups? rest.dropLast).map groupsText else none
  | _ => do
    let name ← Text.percentDecoded? (String.ofList cs)
    let name := name.toList.map Char.toLower
    if name.isEmpty ∨ name.any isForbidden then none
    if endsInNumber name then (fourBytes? name).map fourBytesText
    else return String.ofList name

end ScanProvisioning.Http.Host
