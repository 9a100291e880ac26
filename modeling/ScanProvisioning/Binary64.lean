namespace ScanProvisioning

/-- A binary floating point number with 53 significant bits, as its bit pattern. Arithmetic is exact on natural
numbers, followed by one rounding to the nearest pattern, ties to even. -/
structure Binary64 where
  bits : UInt64
  deriving DecidableEq

namespace Binary64

def signBit : Nat := 1 <<< 63

/-- The bit that patterns of normal numbers leave out; patterns of one scale are this many. -/
def leadingBit : Nat := 1 <<< 52

def isNegative (x : Binary64) : Bool := signBit ≤ x.bits.toNat

/-- The pattern without its sign. -/
def magnitude (x : Binary64) : Nat := x.bits.toNat % signBit

/-- The pattern of infinity; smaller magnitudes are finite. -/
def infinity : Nat := 0x7FF0000000000000

def isFinite (x : Binary64) : Bool := x.magnitude < infinity

/-- The integer `m` of the absolute value `m * 2 ^ (e - 1074)`. -/
def mantissa (x : Binary64) : Nat :=
  let fraction := x.magnitude % leadingBit
  if x.magnitude < leadingBit then fraction else fraction + leadingBit

/-- The number `e` of the absolute value `m * 2 ^ (e - 1074)`. -/
def scale (x : Binary64) : Nat := x.magnitude / leadingBit - 1

def ratio (x : Binary64) : Nat × Nat := (x.mantissa <<< x.scale, 1 <<< 1074)

/-- The integer nearest to `num / den`, ties to even. -/
def roundDiv (num den : Nat) : Nat :=
  let q := num / den
  let r := num % den
  if den < 2 * r ∨ (2 * r = den ∧ q % 2 = 1) then q + 1 else q

/-- The scale at which `num / den` has 53 significant bits, or the least scale. -/
def scaleFor (num den : Nat) : Nat :=
  let shifted := num <<< 1074 / den
  shifted.log2 - 52

/-- The non-negative number nearest to `num / den`, unless that is beyond the finite range. -/
def ofRatio? (num den : Nat) : Option Binary64 :=
  let e := scaleFor num den
  let pattern := e * leadingBit + roundDiv (num <<< 1074) (den <<< e)
  if pattern < infinity then some ⟨UInt64.ofNat pattern⟩ else none

def negate (x : Binary64) : Binary64 := ⟨x.bits ^^^ 0x8000000000000000⟩

def zero : Binary64 := ⟨0⟩

/-- The non-negative number nearest to a natural number below 2^64. -/
def ofNat (n : Nat) : Binary64 := (ofRatio? n 1).getD zero

def minusOne : Binary64 := negate (ofNat 1)

/-- The power of ten nearest to `10 ^ n`, for `n` up to 308. -/
def powerOfTen (n : Nat) : Binary64 := (ofRatio? (Nat.pow 10 n) 1).getD zero

def mul? (x y : Binary64) : Option Binary64 :=
  ofRatio? (x.ratio.1 * y.ratio.1) (x.ratio.2 * y.ratio.2)

def div? (x y : Binary64) : Option Binary64 :=
  ofRatio? (x.ratio.1 * y.ratio.2) (x.ratio.2 * y.ratio.1)

/-- `x` divided by `10 ^ n`, in steps of at most 308 places with one rounding each. -/
def divPowerOfTen (x : Binary64) (n : Nat) : Binary64 :=
  if x.magnitude = 0 then x
  else if h : n ≤ 308 then (x.div? (powerOfTen n)).getD zero
  else divPowerOfTen ((x.div? (powerOfTen 308)).getD zero) (n - 308)
termination_by n

/--
The number written as `m * 10 ^ e`: `m` is rounded first, then the scaling by a rounded power of ten.
There is none beyond the finite range.
-/
def ofDecimal? (m : Nat) (e : Int) : Option Binary64 :=
  let x := ofNat m
  if e < 0 then some (x.divPowerOfTen (-e).toNat)
  else if e ≤ 308 then x.mul? (powerOfTen e.toNat)
  else if m = 0 then some x
  else none

end Binary64

end ScanProvisioning
