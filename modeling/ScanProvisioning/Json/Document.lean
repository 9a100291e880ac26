import ScanProvisioning.Json.Basic
import ScanProvisioning.Json.Token

namespace ScanProvisioning.Json

/-- JSON text as far as it could be read. A document is read before anybody knows what is expected of it, so a
fault waits in it until a reader reaches it in document order. -/
inductive Document
  | null
  | bool (b : Bool)
  | int (i : Int)
  | float (x : Binary64)
  | str (s : String)
  /-- The items read, and the fault after the last of them. -/
  | arr (items : List Document) (ending : Option Fault)
  /-- The members read, names first, and the fault after the last of them. -/
  | obj (members : List (Document × Document)) (ending : Option Fault)
  /-- A text that has no value, and the fault of passing over it. -/
  | flawedText (read : Fault) (passed : Option Fault)
  /-- A number or a word that has no value, and the fault of passing over it. -/
  | flawedScalar (read : Fault) (passed : Option Fault)
  /-- No value starts here. -/
  | nothing (fault : Fault)

namespace Document

open Token

def isSpace (c : Char) : Bool := c = ' ' || c = '\n' || c = '\t' || c = '\r'

def skipSpaces (cs : List Char) : List Char := cs.dropWhile isSpace

/-- What is left of the text after a value, unless the text ends in it or goes wrong there. -/
abbrev Rest := Option (List Char)

def textValue (cs : List Char) : Document × Rest :=
  match readString (cs.length + 1) [] cs with
  | .ok (s, rest) => (.str s, some rest)
  | .error read =>
    match passString (cs.length + 1) cs with
    | .ok rest => (.flawedText read none, some rest)
    | .error passed => (.flawedText read (some passed), none)

def numberValue (negative : Bool) (cs : List Char) : Document × Rest :=
  match readNumber negative cs with
  | .ok (.int i, rest) => (.int i, some rest)
  | .ok (.float x, rest) => (.float x, some rest)
  | .ok (.beyond, rest) => (.flawedScalar .numberTooLarge none, some rest)
  | .error read =>
    match passNumber cs with
    | .ok rest => (.flawedScalar read none, some rest)
    | .error passed => (.flawedScalar read (some passed), none)

def wordValue (value : Document) : (word cs : List Char) → Document × Rest
  | [], cs => (value, some cs)
  | _ :: _, [] => (.flawedScalar .noValue (some .noValue), none)
  | w :: ws, c :: cs =>
    if w = c then wordValue value ws cs else (.flawedScalar .expectedWord (some .expectedWord), none)

mutual

def value : (fuel : Nat) → List Char → Document × Rest
  | 0, _ => (.nothing .tooDeep, none)
  | fuel + 1, cs =>
    match skipSpaces cs with
    | [] => (.nothing .noValue, none)
    | 'n' :: cs => wordValue .null "ull".toList cs
    | 't' :: cs => wordValue (.bool true) "rue".toList cs
    | 'f' :: cs => wordValue (.bool false) "alse".toList cs
    | '"' :: cs => textValue cs
    | '-' :: cs => numberValue true cs
    | '[' :: cs =>
      match skipSpaces cs with
      | [] => (.arr [] (some .openArray), none)
      | ']' :: cs => (.arr [] none, some cs)
      | cs =>
        let (items, ending, rest) := items fuel cs
        (.arr items ending, rest)
    | '\x7b' :: cs =>
      match skipSpaces cs with
      | [] => (.obj [] (some .openObject), none)
      | '\x7d' :: cs => (.obj [] none, some cs)
      | cs =>
        let (members, ending, rest) := members fuel cs
        (.obj members ending, rest)
    | c :: cs => if c.isDigit then numberValue false (c :: cs) else (.nothing .expectedValue, none)

def items : (fuel : Nat) → List Char → List Document × Option Fault × Rest
  | 0, _ => ([], some .tooDeep, none)
  | fuel + 1, cs =>
    match value fuel cs with
    | (v, none) => ([v], some .trailing, none)
    | (v, some cs) =>
      match skipSpaces cs with
      | [] => ([v], some .openArray, none)
      | ']' :: cs => ([v], none, some cs)
      | ',' :: cs =>
        match skipSpaces cs with
        | [] => ([v], some .noValue, none)
        | ']' :: _ => ([v], some .commaBeforeArrayEnd, none)
        | cs =>
          let (vs, ending, rest) := items fuel cs
          (v :: vs, ending, rest)
      | _ => ([v], some .expectedArrayEnd, none)

def members : (fuel : Nat) → List Char → List (Document × Document) × Option Fault × Rest
  | 0, _ => ([], some .tooDeep, none)
  | fuel + 1, cs =>
    match value fuel cs with
    | (k, none) => ([(k, .nothing .trailing)], some .trailing, none)
    | (k, some cs) =>
      match skipSpaces cs with
      | [] => ([(k, .nothing .openObject)], some .openObject, none)
      | ':' :: cs =>
        match value fuel cs with
        | (v, none) => ([(k, v)], some .trailing, none)
        | (v, some cs) =>
          match skipSpaces cs with
          | [] => ([(k, v)], some .openObject, none)
          | '\x7d' :: cs => ([(k, v)], none, some cs)
          | ',' :: cs =>
            match skipSpaces cs with
            | [] => ([(k, v)], some .openAfterComma, none)
            | '\x7d' :: _ => ([(k, v)], some .commaBeforeObjectEnd, none)
            | cs =>
              let (ms, ending, rest) := members fuel cs
              ((k, v) :: ms, ending, rest)
          | _ => ([(k, v)], some .expectedObjectEnd, none)
      | _ => ([(k, .nothing .expectedColon)], some .expectedColon, none)

end

/-- The document of a text, and whether anything but blanks follows its value. -/
def ofText (s : String) : Document × Bool :=
  let cs := s.toList
  let (v, rest) := value (2 * cs.length + 2) cs
  (v, match rest with
    | none => false
    | some cs => !(skipSpaces cs).isEmpty)

mutual

def passed : Document → Except Fault Unit
  | flawedText _ (some f) => .error f
  | flawedScalar _ (some f) => .error f
  | nothing f => .error f
  | arr items ending => passedItems items ending
  | obj members ending => passedMembers members ending
  | _ => .ok ()

def passedItems : List Document → Option Fault → Except Fault Unit
  | [], none => .ok ()
  | [], some f => .error f.whenPassed
  | v :: rest, ending =>
    match passed v with
    | .ok () => passedItems rest ending
    | .error f => .error f

def passedMembers : List (Document × Document) → Option Fault → Except Fault Unit
  | [], none => .ok ()
  | [], some f => .error f.whenPassed
  | (k, v) :: rest, ending =>
    match passedName k with
    | .error f => .error f
    | .ok () =>
      match passed v with
      | .ok () => passedMembers rest ending
      | .error f => .error f

/-- The fault met when a document stands in the place of a member's name. -/
def passedName : Document → Except Fault Unit
  | str _ => .ok ()
  | flawedText _ none => .ok ()
  | flawedText _ (some f) => .error f
  | _ => .error .nameNotText

end

mutual

/-- The value of a document whose arrays and objects are nested less than `depth` deep. -/
def toJson : (depth : Nat) → Document → Except Fault Json
  | _, null => .ok .null
  | _, bool b => .ok (.bool b)
  | _, int i => .ok (.int i)
  | _, float x => .ok (.float x)
  | _, str s => .ok (.str s)
  | _, flawedText f _ => .error f
  | _, flawedScalar f _ => .error f
  | _, nothing f => .error f
  | 0, arr _ _ => .error .tooDeep
  | 0, obj _ _ => .error .tooDeep
  | depth + 1, arr items ending => do
    let vs ← toItems depth items
    match ending with
    | none => return .arr vs
    | some f => throw f
  | depth + 1, obj members ending => do
    let ms ← toMembers depth members
    match ending with
    | none => return .object ms
    | some f => throw f

def toItems (depth : Nat) : List Document → Except Fault (List Json)
  | [] => .ok []
  | v :: rest => do
    let x ← toJson depth v
    let xs ← toItems depth rest
    return x :: xs

def toMembers (depth : Nat) : List (Document × Document) → Except Fault (List (String × Json))
  | [] => .ok []
  | (k, v) :: rest => do
    let name ← nameOf k
    let x ← toJson depth v
    let xs ← toMembers depth rest
    return (name, x) :: xs

/-- The name that a document in the place of one spells. -/
def nameOf : Document → Except Fault String
  | str s => .ok s
  | flawedText f _ => .error f
  | _ => .error .nameNotText

end

end Document

def maxDepth : Nat := 127

def ofText (s : String) : Except Fault Json := do
  let (d, more) := Document.ofText s
  let v ← d.toJson maxDepth
  if more then throw .trailing
  return v

end ScanProvisioning.Json
