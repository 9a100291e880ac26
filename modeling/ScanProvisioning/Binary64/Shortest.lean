import ScanProvisioning.Binary64

namespace ScanProvisioning.Binary64

/-- Whether a decimal `d * 10 ^ k` (over `num / den`) rounds to `x`, by the two midpoints around `x`. -/
def readsBack (x : Binary64) (num den : Nat) : Bool :=
  let m := x.mantissa
  let unit := 1 <<< x.scale
  -- below a power of two the next number down is only half a unit away
  let lower := if m = leadingBit ∧ x.scale ≠ 0 then (4 * m - 1) * unit else (4 * m - 2) * unit
  let upper := (4 * m + 2) * unit
  let v := num <<< 1076
  if m % 2 = 0 then lower * den ≤ v && v ≤ upper * den else lower * den < v && v < upper * den

/-- `10 ^ k` as a ratio. -/
def tenPower (k : Int) : Nat × Nat :=
  if k < 0 then (1, Nat.pow 10 (-k).toNat) else (Nat.pow 10 k.toNat, 1)

/-- The exponent of the leading digit: the least `k` below 400 with `num / den < 10 ^ (k + 1)`. -/
def leadingExponent (num den : Nat) : Int :=
  let k := (List.range 800).find? fun (i : Nat) =>
    let (p, q) := tenPower ((i : Int) - 400 + 1)
    num * q < p * den
  (k.getD 0 : Int) - 400

/-- A decimal with `n` digits next to the absolute value of `x` that reads back, if there is one. -/
def decimalWith? (x : Binary64) (lead : Int) (n : Nat) : Option (Nat × Int) :=
  let k := lead - (n : Int) + 1
  let (p, q) := tenPower k
  let (num, den) := x.ratio
  let below := num * q / (den * p)
  let fits (d : Nat) : Bool := x.readsBack (d * p) q
  let nearerAbove := 2 * (num * q) > (2 * below + 1) * (den * p) ∨
    (2 * (num * q) = (2 * below + 1) * (den * p) ∧ below % 2 = 1)
  match fits below, fits (below + 1) with
  | true, true => some (if nearerAbove then below + 1 else below, k)
  | true, false => some (below, k)
  | false, true => some (below + 1, k)
  | false, false => none

/-- Digits and exponent of the shortest decimal, without trailing zeros. -/
def shortest (x : Binary64) : Nat × Int :=
  let (num, den) := x.ratio
  if num = 0 then (0, 0) else
  let lead := leadingExponent num den
  let found := (List.range 17).findSome? fun i => x.decimalWith? lead (i + 1)
  let (d, k) := found.getD (0, 0)
  if d % 10 = 0 then (d / 10, k + 1) else (d, k)

def text (x : Binary64) : String :=
  let (d, k) := x.shortest
  let digits := (toString d).toList
  let point : Int := digits.length + k
  let body :=
    if d = 0 then "0.0".toList
    else if 0 ≤ k ∧ point ≤ 16 then digits ++ List.replicate k.toNat '0' ++ ".0".toList
    else if 0 < point ∧ point ≤ 16 then
      digits.take point.toNat ++ '.' :: digits.drop point.toNat
    else if -5 < point ∧ point ≤ 0 then
      "0.".toList ++ List.replicate (-point).toNat '0' ++ digits
    else
      let exponent := point - 1
      let mark := if 0 ≤ exponent then "e+" else "e-"
      let fraction := if digits.length = 1 then [] else '.' :: digits.drop 1
      digits.take 1 ++ fraction ++ mark.toList ++ (toString exponent.natAbs).toList
  (if x.isNegative then "-" else "") ++ String.ofList body

end ScanProvisioning.Binary64
