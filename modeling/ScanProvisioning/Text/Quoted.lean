import ScanProvisioning.Text.Printable

namespace ScanProvisioning.Text

/-- `\u` with the code point in hexadecimal braces. -/
def codePointEscape (c : Char) : String :=
  "\\u\x7b" ++ String.ofList (Nat.toDigits 16 c.toNat) ++ "\x7d"

/-- How one character appears between quotes of the given kind. -/
def escaped (quote c : Char) : String :=
  if c = '\x00' then "\\0"
  else if c = '\t' then "\\t"
  else if c = '\r' then "\\r"
  else if c = '\n' then "\\n"
  else if c = '\\' then "\\\\"
  else if c = quote then String.ofList ['\\', quote]
  else if isExtending c || !isPrintable c then codePointEscape c
  else String.singleton c

def quotedChar (c : Char) : String := "'" ++ escaped '\'' c ++ "'"

def quoted (s : String) : String := "\"" ++ String.join (s.toList.map (escaped '"')) ++ "\""

end ScanProvisioning.Text
