import ScanProvisioning.Text.Blank

namespace ScanProvisioning

/-- Whole seconds since 1970 and nanoseconds; a leap second has 10^9 nanoseconds or more. -/
structure Timestamp where
  seconds : Int
  nanos : Nat
  deriving DecidableEq

namespace Timestamp

/-- Why a text is not a point in time. -/
inductive Fault
  | outOfRange
  | impossible
  | invalid
  | tooShort
  | tooLong
  deriving DecidableEq

def Fault.message : Fault → String
  | outOfRange => "input is out of range"
  | impossible => "no possible date and time matching input"
  | invalid => "input contains invalid characters"
  | tooShort => "premature end of input"
  | tooLong => "trailing input"

def isLeapYear (y : Int) : Bool := y % 4 = 0 && (y % 100 ≠ 0 || y % 400 = 0)

def daysInMonth (y : Int) (m : Nat) : Nat :=
  if m = 2 then (if isLeapYear y then 29 else 28)
  else if m = 4 ∨ m = 6 ∨ m = 9 ∨ m = 11 then 30
  else 31

/-- Days from 1970-01-01 to a date, counting years from March. -/
def daysOfDate (y : Int) (m d : Nat) : Int :=
  let y' : Int := if m ≤ 2 then y - 1 else y
  let m' : Int := if m ≤ 2 then m + 9 else m - 3
  365 * y' + y' / 4 - y' / 100 + y' / 400 + (153 * m' + 2) / 5 + d - 719469

/-- Year, month and day of a count of days from 1970-01-01. -/
def dateOfDays (days : Int) : Int × Nat × Nat :=
  let z := days + 719468
  let era := z / 146097
  let dayOfEra := z % 146097
  let yearOfEra := (dayOfEra - dayOfEra / 1460 + dayOfEra / 36524 - dayOfEra / 146096) / 365
  let dayOfYear := dayOfEra - (365 * yearOfEra + yearOfEra / 4 - yearOfEra / 100)
  let month := (5 * dayOfYear + 2) / 153
  let day := dayOfYear - (153 * month + 2) / 5 + 1
  let m := if month < 10 then month + 3 else month - 9
  (yearOfEra + era * 400 + (if m ≤ 2 then 1 else 0), m.toNat, day.toNat)

def firstYear : Int := -262143

def lastYear : Int := 262142

abbrev Reader (α : Type) := List Char → Except Fault (α × List Char)

def skipBlanks (cs : List Char) : List Char := cs.dropWhile Text.isBlank

/-- Between one and `most` digits. -/
def number (most : Nat) : Reader Nat := fun cs =>
  let digits := (cs.take most).takeWhile Char.isDigit
  if cs.isEmpty then .error .tooShort
  else if digits.isEmpty then .error .invalid
  else .ok (digits.foldl (fun n c => n * 10 + (c.toNat - '0'.toNat)) 0, cs.drop digits.length)

def part (low high : Nat) : Reader Nat := fun cs => do
  let (n, cs) ← number 2 (skipBlanks cs)
  if n < low ∨ high < n then throw .outOfRange
  return (n, cs)

/-- A year of up to four digits, or of any length after a sign. -/
def year : Reader Int := fun cs => do
  let (y, cs) ← match skipBlanks cs with
    | '-' :: cs => (number cs.length cs).map fun (n, cs) => (-(n : Int), cs)
    | '+' :: cs => (number cs.length cs).map fun (n, cs) => ((n : Int), cs)
    | cs => (number 4 cs).map fun (n, cs) => ((n : Int), cs)
  if y < -2147483648 ∨ 2147483648 ≤ y then throw .outOfRange
  return (y, cs)

def mark (c : Char) : Reader Unit := fun cs =>
  match skipBlanks cs with
  | [] => .error .tooShort
  | d :: cs => if d = c then .ok ((), cs) else .error .invalid

/-- Nanoseconds after a decimal point, if there is one; places beyond the ninth are dropped. -/
def fraction : Reader Nat
  | '.' :: cs => do
    let (n, rest) ← number 9 cs
    let places := cs.length - rest.length
    return (n * Nat.pow 10 (9 - places), rest.dropWhile Char.isDigit)
  | cs => .ok (0, cs)

def twoBytes (cs : List Char) : Bool := 2 ≤ (String.ofList cs).utf8ByteSize

/-- Two digits, the first of them at most `top`. -/
def offsetPart (top : Char) : Reader Nat := fun cs =>
  if !twoBytes cs then .error .tooShort
  else match cs with
    | a :: b :: cs =>
      if a.isDigit ∧ b.isDigit then
        if top < a then .error .outOfRange
        else .ok ((a.toNat - '0'.toNat) * 10 + (b.toNat - '0'.toNat), cs)
      else .error .invalid
    | _ => .error .invalid

/-- Seconds east of universal time. -/
def offset : Reader Int := fun cs =>
  match cs with
  | [] => .error .tooShort
  | c :: cs =>
    if c = 'Z' ∨ c = 'z' then .ok (0, cs)
    else if c = '+' ∨ c = '-' ∨ c = '−' then do
      let (hours, cs) ← offsetPart '9' cs
      let cs := cs.dropWhile fun c => c = ':' || Text.isBlank c
      let (minutes, cs) ← offsetPart '5' cs
      let east : Int := hours * 3600 + minutes * 60
      return (if c = '+' then east else -east, cs)
    else .error .invalid

def zone : Reader Int := fun cs =>
  match cs with
  | a :: b :: c :: rest =>
    if a.toUpper = 'U' ∧ b.toUpper = 'T' ∧ c.toUpper = 'C' then .ok (0, rest) else offset cs
  | cs => offset cs

def ofText (s : String) : Except Fault Timestamp := do
  let (y, cs) ← year s.toList
  let (_, cs) ← mark '-' cs
  let (mo, cs) ← part 1 12 cs
  let (_, cs) ← mark '-' cs
  let (d, cs) ← part 1 31 cs
  let cs ← match cs with
    | [] => throw .tooShort
    | c :: cs => if c = 't' ∨ c = 'T' ∨ c = ' ' then pure cs else throw .invalid
  let (h, cs) ← part 0 23 cs
  let (_, cs) ← mark ':' cs
  let (mi, cs) ← part 0 59 cs
  let (_, cs) ← mark ':' cs
  let (sec, cs) ← part 0 60 cs
  let (nanos, cs) ← fraction cs
  let (east, cs) ← zone (skipBlanks cs)
  if !(skipBlanks cs).isEmpty then throw .tooLong
  if y < firstYear ∨ lastYear < y ∨ daysInMonth y mo < d then throw .outOfRange
  if 86400 ≤ east.natAbs then throw .outOfRange
  let leap := sec = 60
  let seconds := daysOfDate y mo d * 86400 + (h * 3600 + mi * 60 + (if leap then 59 else sec) : Nat) - east
  let (utcYear, _) := dateOfDays (seconds / 86400)
  if utcYear < firstYear ∨ lastYear < utcYear then throw .impossible
  return { seconds, nanos := if leap then nanos + 1000000000 else nanos }

def padded (width n : Nat) : String :=
  let digits := toString n
  String.ofList (List.replicate (width - digits.length) '0') ++ digits

/-- The RFC 3339 text, with as many groups of three places as the nanoseconds need. -/
def text (t : Timestamp) : String :=
  let (y, m, d) := dateOfDays (t.seconds / 86400)
  let inDay := (t.seconds % 86400).toNat
  let leap := 1000000000 ≤ t.nanos
  let sec := inDay % 60 + (if leap then 1 else 0)
  let nanos := t.nanos % 1000000000
  let shownYear :=
    if 0 ≤ y ∧ y ≤ 9999 then padded 4 y.toNat
    else (if y < 0 then "-" else "+") ++ padded 4 y.natAbs
  let places :=
    if nanos = 0 then ""
    else if nanos % 1000000 = 0 then "." ++ padded 3 (nanos / 1000000)
    else if nanos % 1000 = 0 then "." ++ padded 6 (nanos / 1000)
    else "." ++ padded 9 nanos
  shownYear ++ "-" ++ padded 2 m ++ "-" ++ padded 2 d ++ "T" ++ padded 2 (inDay / 3600) ++ ":" ++
    padded 2 (inDay / 60 % 60) ++ ":" ++ padded 2 sec ++ places ++ "Z"

end Timestamp

end ScanProvisioning
