import ScanProvisioning.Http.Host
import ScanProvisioning.Text.Blank

namespace ScanProvisioning.Http

/-- An address on the web, in the form in which it is sent. -/
structure Url where
  scheme : String
  user : String
  password : Option String
  host : String
  port : Option Nat
  /-- Begins with a slash. -/
  path : String
  query : Option String
  fragment : Option String
  deriving DecidableEq

namespace Url

/-- Why a text is not an address that can be asked. -/
inductive Fault
  | notAnAddress
  /-- An address that is not on the web. -/
  | offWeb (address : String)
  deriving DecidableEq

def isAlwaysEncoded (c : Char) : Bool :=
  c.toNat < 0x20 || 0x7F ≤ c.toNat || c = ' ' || c = '"' || c = '<' || c = '>'

def isFragmentPlain (c : Char) : Bool := !isAlwaysEncoded c && c ≠ '`'

def isQueryPlain (c : Char) : Bool := !isAlwaysEncoded c && c ≠ '#' && c ≠ '\''

def isPathPlain (c : Char) : Bool :=
  isFragmentPlain c && c ≠ '#' && c ≠ '?' && c ≠ '\x7b' && c ≠ '\x7d'

def isUserPlain (c : Char) : Bool := isPathPlain c && !"/:;=@[\\]^|".toList.contains c

def defaultPort (scheme : String) : Nat := if scheme = "https" then 443 else 80

def isSlash (c : Char) : Bool := c = '/' || c = '\\'

def isSingleDot (segment : String) : Bool := Text.percentDecoded? segment = some "."

def isDoubleDot (segment : String) : Bool := Text.percentDecoded? segment = some ".."

/-- Resolve dot segments against the segments before them, latest first. -/
def resolve : (before : List String) → List String → List String
  | before, [] => before.reverse
  | before, [s] =>
    if isDoubleDot s then ("" :: before.drop 1).reverse
    else if isSingleDot s then ("" :: before).reverse
    else (Text.percentEncoded isPathPlain s :: before).reverse
  | before, s :: rest =>
    if isDoubleDot s then resolve (before.drop 1) rest
    else if isSingleDot s then resolve before rest
    else resolve (Text.percentEncoded isPathPlain s :: before) rest

/-- The path that a text writes, slashes of both kinds between its segments. -/
def pathOf (cs : List Char) : String :=
  let cs := match cs with
    | [] => []
    | c :: rest => if isSlash c then rest else c :: rest
  let segments := (Host.parts '/' (cs.map fun c => if c = '\\' then '/' else c)).map String.ofList
  "/" ++ "/".intercalate (resolve [] segments)

/-- The text before and after the last copy of a character, if there is one. -/
def splitLast (sep : Char) (cs : List Char) : Option (List Char × List Char) :=
  match cs.reverse.span (· != sep) with
  | (_, []) => none
  | (after, _ :: before) => some (before.reverse, after.reverse)

def userOf (cs : List Char) : String × Option String :=
  let encoded (cs : List Char) : String := Text.percentEncoded isUserPlain (String.ofList cs)
  match cs.span (· != ':') with
  | (user, []) => (encoded user, none)
  | (user, [_]) => (encoded user, none)
  | (user, _ :: password) => (encoded user, some (encoded password))

/-- Host and port text; colons inside brackets belong to the host. -/
def splitPort (cs : List Char) : List Char × Option (List Char) :=
  let inside := match splitLast ']' cs with
    | some (before, _) => before.length + 1
    | none => 0
  match (cs.drop inside).span (· != ':') with
  | (_, []) => (cs, none)
  | (rest, _ :: port) => (cs.take inside ++ rest, some port)

/-- The port that a text writes, `none` for the one of the scheme. -/
def portOf? (scheme : String) (cs : List Char) : Option (Option Nat) :=
  if cs.isEmpty then some none
  else if !cs.all Char.isDigit then none
  else do
    let n ← Host.digits? 10 0 cs
    if 65535 < n then none
    return if n = defaultPort scheme then none else some n

/-- The scheme of a text in lower case, and what follows its colon. -/
def schemeOf? (cs : List Char) : Option (String × List Char) :=
  match cs with
  | [] => none
  | c :: _ =>
    let isPart (c : Char) : Bool := c.isAlphanum || c = '+' || c = '-' || c = '.'
    match cs.span isPart with
    | (name, ':' :: rest) =>
      if c.isAlpha then some (Text.toLowerAscii (String.ofList name), rest) else none
    | _ => none

/-- Blanks and controls at both ends, and line ends and tabs anywhere, do not count. -/
def significant (s : String) : List Char :=
  let isEdge (c : Char) : Bool := c.toNat ≤ 0x20
  let cs := ((s.toList.dropWhile isEdge).reverse.dropWhile isEdge).reverse
  cs.filter fun c => c ≠ '\t' && c ≠ '\n' && c ≠ '\r'

/-- What stands between the scheme and the path, the path, the query and the fragment. -/
def sections (cs : List Char) : List Char × List Char × Option (List Char) × Option (List Char) :=
  let (cs, fragment) := match cs.span (· != '#') with
    | (cs, []) => (cs, none)
    | (cs, _ :: fragment) => (cs, some fragment)
  let (cs, query) := match cs.span (· != '?') with
    | (cs, []) => (cs, none)
    | (cs, _ :: query) => (cs, some query)
  let (authority, path) := cs.span fun c => !isSlash c
  (authority, path, query, fragment)

@[irreducible] def parse (s : String) : Except Fault Url := do
  let some (scheme, rest) := schemeOf? (significant s) | throw .notAnAddress
  if scheme ≠ "http" ∧ scheme ≠ "https" then throw (.offWeb (String.ofList (significant s)))
  let (authority, path, query, fragment) := sections (rest.dropWhile isSlash)
  let ((user, password), hostAndPort) := match splitLast '@' authority with
    | some (user, rest) => (userOf user, rest)
    | none => (("", none), authority)
  let (host, port) := splitPort hostAndPort
  let some host := Host.parse? host | throw .notAnAddress
  let some port := portOf? scheme (port.getD []) | throw .notAnAddress
  return {
    scheme, user, password, host, port
    path := pathOf path
    query := query.map fun q => Text.percentEncoded isQueryPlain (String.ofList q)
    fragment := fragment.map fun f => Text.percentEncoded isFragmentPlain (String.ofList f) }

/-- The address of the resource alone, without query and fragment. -/
def resource (u : Url) : String :=
  let login := match u.password with
    | some p => u.user ++ ":" ++ p ++ "@"
    | none => if u.user = "" then "" else u.user ++ "@"
  let port := match u.port with
    | some p => ":" ++ toString p
    | none => ""
  u.scheme ++ "://" ++ login ++ u.host ++ port ++ u.path

def text (u : Url) : String :=
  u.resource ++ (match u.query with | some q => "?" ++ q | none => "") ++
    (match u.fragment with | some f => "#" ++ f | none => "")

def withQuery (pairs : List (String × String)) (u : Url) : Url :=
  let query := match u.query, pairs with
    | q, [] => q.getD ""
    | none, pairs => Text.formLine pairs
    | some "", pairs => Text.formLine pairs
    | some q, pairs => q ++ "&" ++ Text.formLine pairs
  { u with query := if query = "" then none else some query }

end Url

end ScanProvisioning.Http
