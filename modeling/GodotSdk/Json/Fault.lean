/-!
# Faults of JSON texts

What can be wrong with the text of a JSON document, and how it is reported.
-/

namespace GodotSdk.Json

/-- What is wrong with a JSON text at one place. -/
inductive Fault
  | valueEnd
  | objectEnd
  | listEnd
  | stringEnd
  | expectedValue
  | expectedColon
  | expectedObjectEnd
  | expectedListEnd
  | expectedIdent
  | keyNotString
  | trailingComma
  | trailingCharacters
  | invalidNumber
  | numberOutOfRange
  | invalidEscape
  | hexEscapeEnd
  | loneSurrogate
  | controlCharacter
  | tooDeep
deriving DecidableEq, Repr

namespace Fault

/-- Whether the text merely ends too early. -/
def isEnd : Fault → Bool
  | .valueEnd | .objectEnd | .listEnd | .stringEnd => true
  | _ => false

def message : Fault → String
  | .valueEnd => "EOF while parsing a value"
  | .objectEnd => "EOF while parsing an object"
  | .listEnd => "EOF while parsing a list"
  | .stringEnd => "EOF while parsing a string"
  | .expectedValue => "expected value"
  | .expectedColon => "expected `:`"
  | .expectedObjectEnd => "expected `,` or `\x7d`"
  | .expectedListEnd => "expected `,` or `]`"
  | .expectedIdent => "expected ident"
  | .keyNotString => "key must be a string"
  | .trailingComma => "trailing comma"
  | .trailingCharacters => "trailing characters"
  | .invalidNumber => "invalid number"
  | .numberOutOfRange => "number out of range"
  | .invalidEscape => "invalid escape"
  | .hexEscapeEnd => "unexpected end of hex escape"
  | .loneSurrogate => "lone leading surrogate in hex escape"
  | .controlCharacter =>
      "control character (\\u0000-\\u001F) found while parsing a string"
  | .tooDeep => "recursion limit exceeded"

end Fault

end GodotSdk.Json
