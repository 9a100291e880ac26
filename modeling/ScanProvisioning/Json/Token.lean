import ScanProvisioning.Binary64
import ScanProvisioning.Json.Fault

namespace ScanProvisioning.Json

/-- A number as written: a whole number, a floating point number, or one beyond the finite range. -/
inductive Numeral
  | int (i : Int)
  | float (x : Binary64)
  | beyond

namespace Token

def hexDigit? (c : Char) : Option Nat :=
  if c.isDigit then some (c.toNat - '0'.toNat)
  else if 'a' ≤ c ∧ c ≤ 'f' then some (c.toNat - 'a'.toNat + 10)
  else if 'A' ≤ c ∧ c ≤ 'F' then some (c.toNat - 'A'.toNat + 10)
  else none

def hex4 : List Char → Except Fault (Nat × List Char)
  | a :: b :: c :: d :: rest =>
    match hexDigit? a, hexDigit? b, hexDigit? c, hexDigit? d with
    | some w, some x, some y, some z => .ok (((w * 16 + x) * 16 + y) * 16 + z, rest)
    | _, _, _, _ => .error .invalidEscape
  | cs => .error (if (String.ofList cs).utf8ByteSize < 4 then .openText else .invalidEscape)

def shortEscape? (c : Char) : Option Char :=
  match c with
  | '"' => some '"'
  | '\\' => some '\\'
  | '/' => some '/'
  | 'b' => some (Char.ofNat 8)
  | 'f' => some (Char.ofNat 12)
  | 'n' => some '\n'
  | 'r' => some '\r'
  | 't' => some '\t'
  | _ => none

/-- The character of a `\u` escape, of two for a surrogate pair. -/
def unicodeEscape (cs : List Char) : Except Fault (Char × List Char) := do
  let (high, rest) ← hex4 cs
  if 0xDC00 ≤ high ∧ high ≤ 0xDFFF then throw .loneSurrogate
  if high < 0xD800 ∨ 0xDFFF < high then return (Char.ofNat high, rest)
  match rest with
  | [] => throw .openText
  | '\\' :: [] => throw .openText
  | '\\' :: 'u' :: rest =>
    let (low, rest) ← hex4 rest
    if low < 0xDC00 ∨ 0xDFFF < low then throw .loneSurrogate
    return (Char.ofNat (0x10000 + (high - 0xD800) * 0x400 + (low - 0xDC00)), rest)
  | _ => throw .unfinishedSurrogate

/-- The characters up to the closing quote, escapes resolved. -/
def readString : (fuel : Nat) → (acc : List Char) → List Char → Except Fault (String × List Char)
  | 0, _, _ => .error .openText
  | _, _, [] => .error .openText
  | fuel + 1, acc, c :: cs =>
    if c = '"' then .ok (String.ofList acc.reverse, cs)
    else if c = '\\' then
      match cs with
      | [] => .error .openText
      | 'u' :: rest => do
        let (x, rest) ← unicodeEscape rest
        readString fuel (x :: acc) rest
      | e :: rest =>
        match shortEscape? e with
        | some x => readString fuel (x :: acc) rest
        | none => .error .invalidEscape
    else if c.toNat < 32 then .error .controlCharacter
    else readString fuel (c :: acc) cs

/-- What follows the closing quote, escapes only checked for their form. -/
def passString : (fuel : Nat) → List Char → Except Fault (List Char)
  | 0, _ => .error .openText
  | _, [] => .error .openText
  | fuel + 1, c :: cs =>
    if c = '"' then .ok cs
    else if c = '\\' then
      match cs with
      | [] => .error .openText
      | 'u' :: rest => do
        let (_, rest) ← hex4 rest
        passString fuel rest
      | e :: rest => if (shortEscape? e).isSome then passString fuel rest else .error .invalidEscape
    else if c.toNat < 32 then .error .controlCharacter
    else passString fuel cs

def digit (c : Char) : Nat := c.toNat - '0'.toNat

/-- Append digits to a significand while it stays below 2^64; the digits left over. -/
def appendDigits (significand : Nat) : List Char → Nat × List Char
  | [] => (significand, [])
  | c :: cs =>
    if significand * 10 + digit c < UInt64.size then appendDigits (significand * 10 + digit c) cs
    else (significand, c :: cs)

def signed (negative : Bool) (x : Binary64) : Binary64 := if negative then x.negate else x

/-- The number with this significand and decimal exponent. -/
def scaled (negative : Bool) (significand : Nat) (exponent : Int) : Numeral :=
  match Binary64.ofDecimal? significand exponent with
  | some x => .float (signed negative x)
  | none => .beyond

/-- An exponent part, if there is one: its value and what follows. -/
def readExponent : List Char → Except Fault (Int × List Char)
  | c :: cs =>
    if c = 'e' ∨ c = 'E' then
      let (negative, cs) := match cs with
        | '+' :: rest => (false, rest)
        | '-' :: rest => (true, rest)
        | _ => (false, cs)
      match cs with
      | [] => .error .noValue
      | d :: _ =>
        if d.isDigit then
          let n : Int := (cs.takeWhile Char.isDigit).foldl (fun n d => n * 10 + digit d) 0
          .ok (if negative then -n else n, cs.dropWhile Char.isDigit)
        else .error .invalidNumber
    else .ok (0, c :: cs)
  | [] => .ok (0, [])

/--
A number without its minus sign. The significand holds the leading digits that fit into 64 bits;
further whole digits count into the exponent and further places are dropped.
-/
def readNumber (negative : Bool) (cs : List Char) : Except Fault (Numeral × List Char) :=
  let whole := cs.takeWhile Char.isDigit
  let rest := cs.dropWhile Char.isDigit
  match whole with
  | [] => .error (if rest.isEmpty then .noValue else .invalidNumber)
  | '0' :: _ :: _ => .error .invalidNumber
  | _ =>
    let (significand, surplus) := appendDigits 0 whole
    match rest with
    | '.' :: rest => do
      let places := rest.takeWhile Char.isDigit
      let rest := rest.dropWhile Char.isDigit
      if places.isEmpty then throw (if rest.isEmpty then .noValue else .invalidNumber)
      let (significand, dropped) := appendDigits significand places
      let (e, rest) ← readExponent rest
      return (scaled negative significand (surplus.length - (places.length - dropped.length : Nat) + e), rest)
    | _ =>
      if surplus.isEmpty ∧ (rest.head? ≠ some 'e' ∧ rest.head? ≠ some 'E') then
        if ¬ negative then .ok (.int significand, rest)
        else if significand = 0 ∨ 9223372036854775808 < significand then
          .ok (.float (Binary64.ofNat significand).negate, rest)
        else .ok (.int (-significand), rest)
      else do
        let (e, rest) ← readExponent rest
        return (scaled negative significand (surplus.length + e), rest)

/-- What follows a number without its minus sign, checked for its form. -/
def passNumber (cs : List Char) : Except Fault (List Char) :=
  let whole := cs.takeWhile Char.isDigit
  let rest := cs.dropWhile Char.isDigit
  match whole with
  | [] => .error .invalidNumber
  | '0' :: _ :: _ => .error .invalidNumber
  | _ =>
    let fraction : Except Fault (List Char) := match rest with
      | '.' :: rest =>
        if (rest.takeWhile Char.isDigit).isEmpty then .error .invalidNumber
        else .ok (rest.dropWhile Char.isDigit)
      | _ => .ok rest
    fraction.bind fun rest =>
      match readExponent rest with
      | .ok (_, rest) => .ok rest
      | .error _ => .error .invalidNumber

end Token

end ScanProvisioning.Json
