namespace ScanProvisioning.Text

/-- Whether a character has the Unicode property `White_Space`. -/
def isBlank (c : Char) : Bool :=
  let n := c.toNat
  (9 ≤ n && n ≤ 13) || n = 0x20 || n = 0x85 || n = 0xA0 || n = 0x1680 ||
    (0x2000 ≤ n && n ≤ 0x200A) || n = 0x2028 || n = 0x2029 || n = 0x202F || n = 0x205F || n = 0x3000

def dropEndWhile (p : Char → Bool) (cs : List Char) : List Char :=
  ((cs.reverse).dropWhile p).reverse

def trimChars (cs : List Char) : List Char := dropEndWhile isBlank (cs.dropWhile isBlank)

def trim (s : String) : String := String.ofList (trimChars s.toList)

def dropLeading (c : Char) (s : String) : String := String.ofList (s.toList.dropWhile (· == c))

def dropTrailing (c : Char) (s : String) : String := String.ofList (dropEndWhile (· == c) s.toList)

/-- Whether the text begins with `start`. -/
def beginsWith (start s : String) : Bool := start.toList.isPrefixOf s.toList

/-- What follows `start`, if the text begins with it. -/
def after? (start s : String) : Option String :=
  if beginsWith start s then some (String.ofList (s.toList.drop start.length)) else none

/-- The parts before and after the first copy of `c`, if there is one. -/
def splitOnce (c : Char) (s : String) : Option (String × String) :=
  match s.toList.span (· != c) with
  | (_, []) => none
  | (before, _ :: rest) => some (String.ofList before, String.ofList rest)

def toLowerAscii (s : String) : String := s.map Char.toLower

end ScanProvisioning.Text
