namespace ScanProvisioning.Json

/-- Why a text cannot be read. -/
inductive Fault
  /-- The text ends where a value should stand. -/
  | noValue
  | openText
  | openArray
  | openObject
  /-- The text ends behind a comma between members. -/
  | openAfterComma
  | expectedValue
  | expectedWord
  | expectedColon
  | expectedArrayEnd
  | expectedObjectEnd
  | invalidEscape
  | invalidNumber
  | numberTooLarge
  | controlCharacter
  | loneSurrogate
  | unfinishedSurrogate
  | nameNotText
  /-- A comma before the end of an array. -/
  | commaBeforeArrayEnd
  /-- A comma before the end of an object. -/
  | commaBeforeObjectEnd
  | trailing
  | tooDeep
  deriving DecidableEq

namespace Fault

def isCut : Fault → Bool
  | noValue | openText | openArray | openObject | openAfterComma => true
  | _ => false

def message : Fault → String
  | noValue => "EOF while parsing a value"
  | openText => "EOF while parsing a string"
  | openArray => "EOF while parsing a list"
  | openObject => "EOF while parsing an object"
  | openAfterComma => "EOF while parsing a value"
  | expectedValue => "expected value"
  | expectedWord => "expected ident"
  | expectedColon => "expected `:`"
  | expectedArrayEnd => "expected `,` or `]`"
  | expectedObjectEnd => "expected `,` or `\x7d`"
  | invalidEscape => "invalid escape"
  | invalidNumber => "invalid number"
  | numberTooLarge => "number out of range"
  | controlCharacter => "control character (\\u0000-\\u001F) found while parsing a string"
  | loneSurrogate => "lone leading surrogate in hex escape"
  | unfinishedSurrogate => "unexpected end of hex escape"
  | nameNotText => "key must be a string"
  | commaBeforeArrayEnd => "trailing comma"
  | commaBeforeObjectEnd => "trailing comma"
  | trailing => "trailing characters"
  | tooDeep => "recursion limit exceeded"

/-- How a fault is named where the value around it is passed over. -/
def whenPassed : Fault → Fault
  | commaBeforeArrayEnd => expectedValue
  | commaBeforeObjectEnd => nameNotText
  | openAfterComma => openObject
  | f => f

/-- How the fault behind the last expected item of an array is named. -/
def behindItems : Fault → Fault
  | openArray => openArray
  | commaBeforeArrayEnd => commaBeforeArrayEnd
  | _ => trailing

/-- How the fault behind the one member of an object is named. -/
def behindMember : Fault → Fault
  | openObject => openObject
  | _ => expectedValue

end Fault

end ScanProvisioning.Json
