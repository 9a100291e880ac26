namespace ScanProvisioning.Text

/-- The value of a sequence of digits, continuing from `acc`; `none` if some character is no digit. -/
def digitsValue? (acc : Nat) : List Char → Option Nat
  | [] => some acc
  | c :: cs => if c.isDigit then digitsValue? (acc * 10 + (c.toNat - '0'.toNat)) cs else none

/-- The number written by one or more digits, after an optional plus sign. -/
def natural? (s : String) : Option Nat :=
  match s.toList with
  | [] => none
  | ['+'] => none
  | '+' :: cs => digitsValue? 0 cs
  | cs => digitsValue? 0 cs

/-- The whole number written by digits after an optional sign. -/
def integer? (s : String) : Option Int :=
  match s.toList with
  | ['-'] => none
  | '-' :: cs => (digitsValue? 0 cs).map fun n => -(n : Int)
  | _ => (natural? s).map Int.ofNat

def uint64? (s : String) : Option UInt64 :=
  (natural? s).bind fun n => if n < UInt64.size then some (UInt64.ofNat n) else none

end ScanProvisioning.Text
