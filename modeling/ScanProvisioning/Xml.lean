import ScanProvisioning.Text.Blank
import ScanProvisioning.Text.Percent

namespace ScanProvisioning

/-- XML as far as short reports need it. References are resolved only where the text of an element is
asked for. -/
inductive Xml
  /-- Text as written, references unresolved. -/
  | text (raw : String)
  /-- Text in which nothing has a meaning. -/
  | verbatim (s : String)
  | element (name : String) (attributes : String) (content : List Xml)

namespace Xml

def isSpace (c : Char) : Bool := c = ' ' || c = '\t' || c = '\n' || c = '\r'

/-- The text before and after the first copy of `mark`, if there is one. -/
def splitAt? (mark : List Char) : List Char → Option (List Char × List Char)
  | [] => none
  | c :: cs =>
    if mark.isPrefixOf (c :: cs) then some ([], (c :: cs).drop mark.length)
    else (splitAt? mark cs).map fun (a, b) => (c :: a, b)

/-- What follows `start`, in any mixture of cases, if the text begins with it. -/
def after? (start : String) (cs : List Char) : Option (List Char) :=
  if (cs.take start.length).map Char.toLower = start.toList then some (cs.drop start.length) else none

/-- The inside of a tag and what follows it; brackets in quotes do not count. -/
def tag? : (quote : Option Char) → List Char → Option (List Char × List Char)
  | _, [] => none
  | none, c :: cs =>
    if c = '>' then some ([], cs)
    else
      (tag? (if c = '"' ∨ c = '\'' then some c else none) cs).map fun (a, b) => (c :: a, b)
  | some q, c :: cs => (tag? (if c = q then none else some q) cs).map fun (a, b) => (c :: a, b)

/-- What follows a document type, brackets nested `level` deep. -/
def afterDocumentType? : (level : Nat) → List Char → Option (List Char)
  | _, [] => none
  | level, '<' :: cs => afterDocumentType? (level + 1) cs
  | 0, '>' :: cs => some cs
  | level + 1, '>' :: cs => afterDocumentType? level cs
  | level, _ :: cs => afterDocumentType? level cs

/-- A piece of markup that holds no element. -/
inductive Aside
  | comment
  | verbatim (s : String)

/-- A comment, verbatim text, document type or instruction, and what follows it. -/
def aside? (cs : List Char) : Option (Aside × List Char) :=
  match after? "!--" cs, after? "![cdata[" cs, after? "!doctype" cs with
  | some cs, _, _ => (splitAt? "-->".toList cs).map fun (_, rest) => (.comment, rest)
  | _, some cs, _ =>
    (splitAt? "]]>".toList cs).map fun (s, rest) => (.verbatim (String.ofList s), rest)
  | _, _, some cs => do
    let rest ← afterDocumentType? 0 cs
    if (cs.dropWhile isSpace).head? = some '>' then none
    return (.comment, rest)
  | none, none, none =>
    match cs with
    | '?' :: cs =>
      let (inside, rest) := cs.span (· != '>')
      if 1 < inside.length ∧ inside.getLast? = some '?' then some (.comment, rest.drop 1) else none
    | _ => none

/-- Name and attributes of a tag, and whether it closes itself. -/
def tagParts (inside : List Char) : String × String × Bool :=
  let closes := inside.getLast? = some '/'
  let inside := if closes then inside.dropLast else inside
  let (name, attributes) := inside.span fun c => !isSpace c
  (String.ofList name, String.ofList attributes, closes)

mutual

/-- The content of an element up to its closing tag, and what follows that. -/
def content? : (fuel : Nat) → (name : String) → List Char → Option (List Xml × List Char)
  | 0, _, _ => none
  | _, _, [] => none
  | _ + 1, name, '<' :: '/' :: cs =>
    let (inside, rest) := cs.span (· != '>')
    if String.ofList (Text.dropEndWhile isSpace inside) = name then some ([], rest.drop 1) else none
  | fuel + 1, name, '<' :: cs =>
    match cs with
    | '!' :: _ => asideContent? fuel name cs
    | '?' :: _ => asideContent? fuel name cs
    | _ => do
      let (x, rest) ← element? fuel cs
      let (xs, rest) ← content? fuel name rest
      return (x :: xs, rest)
  | fuel + 1, name, c :: cs => do
    let (raw, rest) := (c :: cs).span (· != '<')
    let (xs, rest) ← content? fuel name rest
    return (.text (String.ofList raw) :: xs, rest)

/-- Content that begins with something that is no element. -/
def asideContent? : (fuel : Nat) → (name : String) → List Char → Option (List Xml × List Char)
  | 0, _, _ => none
  | fuel + 1, name, cs => do
    let (a, rest) ← aside? cs
    let (xs, rest) ← content? fuel name rest
    match a with
    | .comment => return (xs, rest)
    | .verbatim s => return (.verbatim s :: xs, rest)

/-- The element whose tag begins here, and what follows it. -/
def element? : (fuel : Nat) → List Char → Option (Xml × List Char)
  | 0, _ => none
  | fuel + 1, cs => do
    let (inside, rest) ← tag? none cs
    let (name, attributes, closes) := tagParts inside
    if closes then return (.element name attributes [], rest)
    let (xs, rest) ← content? fuel name rest
    return (.element name attributes xs, rest)

end

/-- The first element, if only blanks and asides stand before it. -/
def root? : (fuel : Nat) → List Char → Option Xml
  | 0, _ => none
  | fuel + 1, cs =>
    match cs.dropWhile isSpace with
    | '<' :: cs =>
      match cs with
      | [] => none
      | '!' :: _ => rootAfter? fuel cs
      | '?' :: _ => rootAfter? fuel cs
      | _ => (element? (3 * cs.length + 3) cs).map Prod.fst
    | _ => none
where
  rootAfter? (fuel : Nat) (cs : List Char) : Option Xml :=
    match aside? cs with
    | some (.comment, rest) => root? fuel rest
    | _ => none

def ofText? (s : String) : Option Xml :=
  let cs := ((Text.after? "\uFEFF" s).getD s).toList
  root? (cs.length + 1) cs

/-- The names of the attributes in a tag, if they are well formed. -/
def attributeNames? : (fuel : Nat) → List Char → Option (List String)
  | 0, _ => none
  | fuel + 1, cs =>
    match cs.dropWhile isSpace with
    | [] => some []
    | c :: cs => do
      let (name, rest) := cs.span fun c => c != '=' && !isSpace c
      let '=' :: rest := rest.dropWhile isSpace | none
      let quote :: rest := rest.dropWhile isSpace | none
      if quote ≠ '"' ∧ quote ≠ '\'' then none
      let (_, _ :: rest) := rest.span (· != quote) | none
      return String.ofList (c :: name) :: (← attributeNames? fuel rest)

/-- Whether the attributes in a tag are well formed and different from each other. -/
def areAttributes (s : String) : Bool :=
  match attributeNames? (s.length + 1) s.toList with
  | none => false
  | some names => names.eraseDups.length = names.length

def digits? (base : Nat) (cs : List Char) : Option Nat :=
  cs.foldlM (fun n c => do
    let d ← Text.hexValue? c
    if d < base then some (n * base + d) else none) 0

def referenced? (name : List Char) : Option Char :=
  let numbered (most base : Nat) (cs : List Char) : Option Char := do
    if most < cs.length then none
    let n ← digits? base cs
    if n = 0 ∨ ¬ n.isValidChar then none
    return Char.ofNat n
  match name with
  | '#' :: 'x' :: cs => numbered 6 16 cs
  | '#' :: cs => numbered 7 10 cs
  | _ => [("lt", '<'), ("gt", '>'), ("amp", '&'), ("apos", '\''), ("quot", '"')].lookup (String.ofList name)

def resolved? : (fuel : Nat) → List Char → Option (List Char)
  | 0, _ => none
  | _, [] => some []
  | fuel + 1, '&' :: cs => do
    let (name, ';' :: rest) := cs.span (fun c => c != ';' && c != '&') | none
    return (← referenced? name) :: (← resolved? fuel rest)
  | fuel + 1, c :: cs => (resolved? fuel cs).map (c :: ·)

/-- Drop blanks at the start up to the first text that has something else, and at the very end. -/
def trimmedRun : (fresh : Bool) → List Xml → List Xml
  | _, [] => []
  | fresh, .text raw :: rest =>
    let cs := if fresh then raw.toList.dropWhile isSpace else raw.toList
    if fresh ∧ cs.isEmpty then trimmedRun true rest
    else if rest.isEmpty then [.text (String.ofList (Text.dropEndWhile isSpace cs))]
    else .text (String.ofList cs) :: trimmedRun false rest
  | _, x :: rest => x :: trimmedRun false rest

def runText? : List Xml → Option String
  | [] => some ""
  | .text raw :: rest => do
    let cs ← resolved? (raw.length + 1) raw.toList
    return String.ofList cs ++ (← runText? rest)
  | .verbatim s :: rest => do return s ++ (← runText? rest)
  | .element .. :: _ => none

/-- The text of content that holds no element, blanks at both ends dropped. -/
def plainText? (content : List Xml) : Option String := runText? (trimmedRun true content)

def localName (name : String) : String := ((Text.splitOnce ':' name).map Prod.snd).getD name

/-- The content of the only element of that name; `none` inside where there is none. -/
def only? (name : String) (content : List Xml) : Option (Option (List Xml)) :=
  let found := content.filterMap fun
    | .element n _ inside => if localName n = name then some inside else none
    | _ => none
  match found with
  | [] => some none
  | [inside] => some (some inside)
  | _ => none

/-- Whether the texts between elements have only references that can be resolved. -/
def areTextsSound : List Xml → Bool
  | [] => true
  | .text raw :: rest => (resolved? (raw.length + 1) raw.toList).isSome && areTextsSound rest
  | _ :: rest => areTextsSound rest

end Xml

end ScanProvisioning
