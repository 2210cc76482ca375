import GodotSdk.Json.Number
import GodotSdk.OrderedMap

/-!
# Drafts of JSON documents

A draft is as much of a JSON document as could be read, with its faults kept in place.
Reading a draft never fails: it stops where the text makes no further sense, and a
decoder that goes through the draft in order meets the faults where they are. A value
that nobody asks for is held to fewer rules than one that is decoded, so a fault may say
how it is reported in either case.
-/

namespace GodotSdk.Json

/-- A string: its text or what is wrong with it where it is wanted, and the fault at
which reading stopped. -/
structure TextDraft where
  typed : Except Fault String
  stopped : Option Fault

/-- How the items of an array end. -/
inductive ListTail
  | closed
  | comma
  | commaEnd
  | textEnd
  | other

/-- How the members of an object end. A member is incomplete if its key is faulty or its
colon missing. What stands in place of a key is kept as a draft. -/
inductive ObjectTail (draft : Type)
  | closed
  | stopped (typed skipped : Fault)
  | notKey (found : draft)
  | faultyKey (key : TextDraft)
  | noColon (key : TextDraft) (fault : Fault)

/-- A value. It is missing where the text ends before it. -/
inductive Draft
  | missing
  | null
  | bool (value : Bool)
  | number (value : Except Fault Number)
  | string (text : TextDraft)
  | array (items : List Draft) (tail : ListTail)
  | object (members : List (TextDraft × Draft)) (tail : ObjectTail Draft)
  | faulty (typed skipped : Fault)

/-- The fault of a list's end, where the list is decoded. -/
def ListTail.typed? : ListTail → Option Fault
  | .closed => none
  | .comma => some .trailingComma
  | .commaEnd => some .valueEnd
  | .textEnd => some .listEnd
  | .other => some .expectedListEnd

/-- The fault of a list's end, where the list is skipped. -/
def ListTail.skipped? : ListTail → Option Fault
  | .closed => none
  | .comma => some .expectedValue
  | .commaEnd => some .valueEnd
  | .textEnd => some .listEnd
  | .other => some .expectedListEnd

mutual
/-- The first fault of a draft that counts even where the value is skipped. -/
def Draft.skipped? : Draft → Option Fault
  | .missing => some .valueEnd
  | .null | .bool _ | .number _ => none
  | .string text => text.stopped
  | .array items tail => itemsSkipped? items tail
  | .object members tail => membersSkipped? members tail
  | .faulty _ skipped => some skipped

def itemsSkipped? (items : List Draft) (tail : ListTail) : Option Fault :=
  match items with
  | [] => tail.skipped?
  | item :: rest => item.skipped? <|> itemsSkipped? rest tail

def membersSkipped? (members : List (TextDraft × Draft)) (tail : ObjectTail Draft) :
    Option Fault :=
  match members with
  | [] =>
      match tail with
      | .closed => none
      | .stopped _ skipped => some skipped
      | .notKey _ => some .keyNotString
      | .faultyKey key => key.stopped
      | .noColon _ fault => some fault
  | (_, value) :: rest => value.skipped? <|> membersSkipped? rest tail
end

/-! ## Strings -/

/-- A string being read: its characters in reverse or its first fault, and the first
half of a surrogate pair. -/
structure TextState where
  reversed : Except Fault (List Char)
  high : Option Nat

namespace TextState

/-- Note a fault, unless there is an earlier one. -/
def fail (state : TextState) (fault : Fault) : TextState :=
  ⟨state.reversed.bind fun _ => .error fault, none⟩

/-- Give up waiting for the second half of a surrogate pair. -/
def settle (state : TextState) : TextState :=
  if state.high.isSome then state.fail .hexEscapeEnd else state

def push (state : TextState) (char : Char) : TextState :=
  ⟨state.settle.reversed.map (char :: ·), none⟩

/-- Add the code unit of a `\u` escape. -/
def pushUnit (state : TextState) (unit : Nat) : TextState :=
  let low := 0xDC00 ≤ unit && unit ≤ 0xDFFF
  match state.high with
  | some high =>
      if low then
        ⟨state.reversed.map
          (Char.ofNat (0x10000 + (high - 0xD800) * 0x400 + (unit - 0xDC00)) :: ·), none⟩
      else state.fail .loneSurrogate
  | none =>
      if low then state.fail .loneSurrogate
      else if 0xD800 ≤ unit && unit ≤ 0xDBFF then ⟨state.reversed, some unit⟩
      else ⟨state.reversed.map (Char.ofNat unit :: ·), none⟩

/-- The string, ended by its quote. -/
def close (state : TextState) : TextDraft :=
  ⟨state.settle.reversed.map fun reversed => String.ofList reversed.reverse, none⟩

/-- The string, stopped by a fault. -/
def stop (state : TextState) (fault : Fault) : TextDraft :=
  ⟨state.reversed.bind fun _ => .error fault, some fault⟩

end TextState

def hexValue? (char : Char) : Option Nat :=
  if '0' ≤ char && char ≤ '9' then some (char.toNat - '0'.toNat)
  else if 'a' ≤ char && char ≤ 'f' then some (char.toNat - 'a'.toNat + 10)
  else if 'A' ≤ char && char ≤ 'F' then some (char.toNat - 'A'.toNat + 10)
  else none

/-- The number that a list of hexadecimal digits denotes. -/
def hexNumber? (digits : List Char) : Option Nat :=
  digits.foldl (fun number digit =>
    do return (← number) * 16 + (← hexValue? digit)) (some 0)

/-- The character of an escape that is not a code unit. -/
def simpleEscape? : Char → Option Char
  | '"' => some '"'
  | '\\' => some '\\'
  | '/' => some '/'
  | 'b' => some '\x08'
  | 'f' => some '\x0c'
  | 'n' => some '\n'
  | 'r' => some '\r'
  | 't' => some '\t'
  | _ => none

/-- Read a string after its opening quote. -/
def readText (state : TextState) : List Char → TextDraft × List Char
  | [] => (state.stop .stringEnd, [])
  | '"' :: rest => (state.close, rest)
  | ['\\'] => (state.stop .stringEnd, [])
  | '\\' :: 'u' :: a :: b :: c :: d :: rest =>
      match hexNumber? [a, b, c, d] with
      | some unit => readText (state.pushUnit unit) rest
      | none => (state.stop .invalidEscape, [])
  | '\\' :: 'u' :: rest =>
      (state.stop (if (String.ofList rest).utf8ByteSize < 4 then .stringEnd
        else .invalidEscape), [])
  | '\\' :: char :: rest =>
      match simpleEscape? char with
      | some char => readText (state.push char) rest
      | none => (state.settle.stop .invalidEscape, [])
  | char :: rest =>
      if char < ' ' then (state.settle.stop .controlCharacter, [])
      else readText (state.push char) rest

/-! ## Values -/

/-- The text after leading JSON blanks. -/
def skipBlanks (text : List Char) : List Char :=
  text.dropWhile fun char => char == ' ' || char == '\n' || char == '\t' || char == '\r'

/-- Read one of the words `true`, `false` and `null`, given what follows its first
letter. -/
def readWord (rest word : List Char) (value : Draft) : Draft × Option (List Char) :=
  if word.isPrefixOf rest then (value, some (rest.drop word.length))
  else
    -- The text ends within the word, or it goes on differently.
    let fault := if rest.isPrefixOf word then Fault.valueEnd else .expectedIdent
    (.faulty fault fault, none)

/-- Read a number after its sign. -/
def readNumberDraft (negative : Bool) (text : List Char) : Draft × Option (List Char) :=
  match readNumber negative text with
  | .ok (number, rest) => (.number number.value, some rest)
  | .error (typed, skipped) => (.faulty typed skipped, none)

/-- Read what is neither an array nor an object. -/
def readScalar : List Char → Draft × Option (List Char)
  | [] => (.missing, none)
  | 'n' :: rest => readWord rest ['u', 'l', 'l'] .null
  | 't' :: rest => readWord rest ['r', 'u', 'e'] (.bool true)
  | 'f' :: rest => readWord rest ['a', 'l', 's', 'e'] (.bool false)
  | '-' :: rest => readNumberDraft true rest
  | '"' :: rest =>
      let (text, rest) := readText ⟨.ok [], none⟩ rest
      (.string text, if text.stopped.isSome then none else some rest)
  | char :: rest =>
      if char.isDigit then readNumberDraft false (char :: rest)
      else (.faulty .expectedValue .expectedValue, none)

mutual
/-- Read a value and give the text after it, unless reading stops. The first argument
bounds the number of steps; two for each character and one for the end are enough. -/
def readValue : Nat → List Char → Draft × Option (List Char)
  | 0, _ => (.missing, none)
  | steps + 1, text =>
      match skipBlanks text with
      | '[' :: rest =>
          let (items, tail, rest) := readItems steps true rest
          (.array items tail, rest)
      | '\x7b' :: rest =>
          let (members, tail, rest) := readMembers steps true rest
          (.object members tail, rest)
      | text => readScalar text

/-- Read the items of an array from the first one on, or from a comma on. -/
def readItems : Nat → Bool → List Char → List Draft × ListTail × Option (List Char)
  | 0, _, _ => ([], .textEnd, none)
  | steps + 1, first, text =>
      let next (text : List Char) : List Draft × ListTail × Option (List Char) :=
        match readValue steps text with
        | (item, none) => ([item], .closed, none)
        | (item, some rest) =>
            let (items, tail, rest) := readItems steps false rest
            (item :: items, tail, rest)
      match skipBlanks text with
      | [] => ([], .textEnd, none)
      | ']' :: rest => ([], .closed, some rest)
      | char :: rest =>
          if first then next (char :: rest)
          else if char = ',' then
            match skipBlanks rest with
            | [] => ([], .commaEnd, none)
            | ']' :: _ => ([], .comma, none)
            | rest => next rest
          else ([], .other, none)

/-- Read the members of an object from the first one on, or from a comma on. -/
def readMembers :
    Nat → Bool → List Char →
      List (TextDraft × Draft) × ObjectTail Draft × Option (List Char)
  | 0, _, _ => ([], .stopped .objectEnd .objectEnd, none)
  | steps + 1, first, text =>
      let next (text : List Char) :
          List (TextDraft × Draft) × ObjectTail Draft × Option (List Char) :=
        let (key, rest) := readText ⟨.ok [], none⟩ text
        if key.stopped.isSome then ([], .faultyKey key, none)
        else
          match skipBlanks rest with
          | ':' :: rest =>
              match readValue steps rest with
              | (value, none) => ([(key, value)], .closed, none)
              | (value, some rest) =>
                  let (members, tail, rest) := readMembers steps false rest
                  ((key, value) :: members, tail, rest)
          | [] => ([], .noColon key .objectEnd, none)
          | _ => ([], .noColon key .expectedColon, none)
      match skipBlanks text with
      | [] => ([], .stopped .objectEnd .objectEnd, none)
      | '\x7d' :: rest => ([], .closed, some rest)
      | char :: rest =>
          if first then
            if char = '"' then next rest
              else ([], .notKey (readValue steps (char :: rest)).1, none)
          else if char = ',' then
            match skipBlanks rest with
            | [] => ([], .stopped .valueEnd .objectEnd, none)
            | '"' :: rest => next rest
            | '\x7d' :: _ => ([], .stopped .trailingComma .keyNotString, none)
            | _ => ([], .stopped .keyNotString .keyNotString, none)
          else ([], .stopped .expectedObjectEnd .expectedObjectEnd, none)
end

/-- A document: its value, and whether anything but blanks follows it. -/
structure Document where
  root : Draft
  trailing : Bool

/-- Read a document. -/
def Document.ofText (text : String) : Document :=
  let chars := text.toList
  match readValue (2 * chars.length + 1) chars with
  | (root, some rest) => ⟨root, !(skipBlanks rest).isEmpty⟩
  | (root, none) => ⟨root, false⟩

mutual
/-- The value of a draft without faults, in which at most `depth` arrays and objects are
nested. A repeated key keeps its first place and takes the last value. -/
def Draft.value? (depth : Nat) : Draft → Option Value
  | .missing => none
  | .null => some .null
  | .bool value => some (.bool value)
  | .number value => value.toOption.map .number
  | .string text => text.typed.toOption.map .string
  | .array items tail =>
      match depth, tail with
      | depth + 1, .closed => (itemValues? depth items).map .array
      | _, _ => none
  | .object members tail =>
      match depth, tail with
      | depth + 1, .closed => (memberValues? depth [] members).map .object
      | _, _ => none
  | .faulty _ _ => none

def itemValues? (depth : Nat) : List Draft → Option (List Value)
  | [] => some []
  | item :: rest => do return (← item.value? depth) :: (← itemValues? depth rest)

def memberValues? (depth : Nat) (earlier : List (String × Value)) :
    List (TextDraft × Draft) → Option (List (String × Value))
  | [] => some earlier
  | (key, value) :: rest => do
      memberValues? depth
        (putEntry (← key.typed.toOption) (← value.value? depth) earlier) rest
end

/-- How many arrays and objects may be nested in a document. -/
def nestingLimit : Nat := 127

/-- The value of a JSON text, if it has no faults and is not nested too deeply. -/
def Value.ofText? (text : String) : Option Value :=
  let document := Document.ofText text
  if document.trailing then none else document.root.value? nestingLimit

end GodotSdk.Json
