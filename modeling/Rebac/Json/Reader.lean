import Rebac.Json
import Rebac.Number.Numeral
import Rebac.Text.Encoding

set_option autoImplicit false

/-!
# Reading JSON

A JSON document comes as bytes; these are decoded as text, and the text is read as data.
-/

/-!
## Documents as bytes

The text of a JSON document that comes as bytes. A byte order mark names the encoding and is no part
of the text. Without one, the zeros among the first bytes tell how wide the units are, because a
document begins with ASCII characters. In every encoding half of a pair on its own is read as the
replacement character.
-/

namespace Rebac.Json

open Text (DecodeFault)

/-- The text of a document without a byte order mark. -/
def decodeUnmarked (bytes : List UInt8) : Except DecodeFault (List Char) :=
  match bytes with
  | 0 :: b :: _ :: _ :: _ =>
      if b = 0 then Text.Wide.decode32 true 0 bytes else Text.Wide.decode16 true 0 bytes
  | _ :: 0 :: c :: d :: _ =>
      if c = 0 ∧ d = 0 then Text.Wide.decode32 false 0 bytes else Text.Wide.decode16 false 0 bytes
  | [0, _] => Text.Wide.decode16 true 0 bytes
  | [_, 0] => Text.Wide.decode16 false 0 bytes
  | _ => Text.Utf8.decodeHalves bytes

/-- The text of a document. -/
def decodeBytes (bytes : List UInt8) : Except DecodeFault (List Char) :=
  match bytes with
  -- The wider marks come first: one of the narrower ones is the beginning of one of them.
  | 0x00 :: 0x00 :: 0xFE :: 0xFF :: rest => Text.Wide.decode32 true 4 rest
  | 0xFF :: 0xFE :: 0x00 :: 0x00 :: rest => Text.Wide.decode32 false 4 rest
  | 0xFE :: 0xFF :: rest => Text.Wide.decode16 true 2 rest
  | 0xFF :: 0xFE :: rest => Text.Wide.decode16 false 2 rest
  | 0xEF :: 0xBB :: 0xBF :: rest => Text.Utf8.decodeHalves rest
  | _ => decodeUnmarked bytes

end Rebac.Json

/-!
## Reading JSON

A reader for JSON text that also takes the names of the infinities and of no number. A fault says
what was expected and where, by line, column and offset; an integer with too many digits is a fault,
too, and so is an array or an object within too many others. Of two fields with one name the later
one counts.
-/

namespace Rebac.Json

/-- What a reader stumbled over. -/
inductive Reason
  | value
  | name
  | colon
  | comma
  | unterminated
  | control
  | escape
  | unicodeEscape
  | trailing
  /-- An integer with too many digits. -/
  | tooLong (digits : Nat)
  /-- An array or an object within too many others. -/
  | tooDeep (isObject : Bool)
deriving DecidableEq

/-- What a reader stumbled over, and at which character. -/
structure ReadFault where
  reason : Reason
  position : Nat
deriving DecidableEq

namespace ReadFault

/-- What was expected, in words. -/
def reasonText : Reason → String
  | .value => "Expecting value"
  | .name => "Expecting property name enclosed in double quotes"
  | .colon => "Expecting ':' delimiter"
  | .comma => "Expecting ',' delimiter"
  | .unterminated => "Unterminated string starting at"
  | .control => "Invalid control character at"
  | .escape => "Invalid \\escape"
  | .unicodeEscape => "Invalid \\uXXXX escape"
  | .trailing => "Extra data"
  | .tooLong digits => Numeral.tooLongMessage digits
  | .tooDeep isObject =>
      "maximum recursion depth exceeded while decoding a JSON " ++
        (if isObject then "object" else "array") ++ " from a unicode string"

/-- The place of a fault in a document, in words. -/
def place (f : ReadFault) (document : List Char) : String :=
  let before := document.take f.position
  let line := before.count '\n' + 1
  let column := (before.reverse.takeWhile (· != '\n')).length + 1
  "line " ++ toString line ++ " column " ++ toString column ++ " (char " ++
    toString f.position ++ ")"

/-- The message of a fault in a document. -/
def message (f : ReadFault) (document : List Char) : String :=
  match f.reason with
  | .tooLong _ | .tooDeep _ => reasonText f.reason
  | _ => reasonText f.reason ++ ": " ++ f.place document

end ReadFault

/-- What is left to read, and how much has been read. -/
structure Cursor where
  rest : List Char
  position : Nat

namespace Cursor

/-- Moves past a number of characters. -/
def skip (c : Cursor) (n : Nat) : Cursor := ⟨c.rest.drop n, c.position + n⟩

/-- The white space of JSON. -/
def isSpace (c : Char) : Bool := c == ' ' || c == '\t' || c == '\n' || c == '\r'

/-- Moves past white space. -/
def skipSpace (c : Cursor) : Cursor :=
  let n := (c.rest.takeWhile isSpace).length
  c.skip n

/-- A fault where the cursor stands. -/
def fault {α : Type} (c : Cursor) (reason : Reason) : Except ReadFault α :=
  throw ⟨reason, c.position⟩

/-- Whether the text begins with a word. -/
def startsWith (c : Cursor) (word : List Char) : Bool := word.isPrefixOf c.rest

end Cursor

/-- The value of a digit in base 16. -/
def hexValue? (c : Char) : Option Nat :=
  if '0' ≤ c && c ≤ '9' then some (c.toNat - '0'.toNat)
  else if 'a' ≤ c && c ≤ 'f' then some (c.toNat - 'a'.toNat + 10)
  else if 'A' ≤ c && c ≤ 'F' then some (c.toNat - 'A'.toNat + 10)
  else none

/-- The number that four digits in base 16 denote. More text has to follow them. -/
def fourHex? (s : List Char) : Option Nat :=
  match s with
  | a :: b :: c :: d :: _ :: _ => do
      return (((← hexValue? a) * 16 + (← hexValue? b)) * 16 + (← hexValue? c)) * 16 +
        (← hexValue? d)
  | _ => none

/-- The character of a number, with the replacement character for half a surrogate pair. -/
def charOfCode (n : Nat) : Char := if Nat.isValidChar n then Char.ofNat n else '\uFFFD'

/-- The second half of a surrogate pair, written as an escape at the start of a text. -/
def lowSurrogate? (s : List Char) : Option Nat :=
  match s with
  | '\\' :: 'u' :: rest =>
      match fourHex? rest with
      | some n => if 0xDC00 ≤ n && n ≤ 0xDFFF then some n else none
      | none => none
  | _ => none

/-- The character that an escape with one letter stands for. -/
def shortEscape? (c : Char) : Option Char :=
  match c with
  | '\x22' => some '\x22'
  | '\\' => some '\\'
  | '/' => some '/'
  | 'b' => some '\x08'
  | 'f' => some '\x0c'
  | 'n' => some '\n'
  | 'r' => some '\r'
  | 't' => some '\t'
  | _ => none

/-- Reads a text up to its closing quote; `opened` is the offset of the opening quote. -/
def readText (opened : Nat) (position : Nat) : Nat → List Char → List Char →
    Except ReadFault (List Char × Cursor)
  | 0, _, _ => throw ⟨.unterminated, opened⟩
  | fuel + 1, acc, s =>
      match s with
      | [] => throw ⟨.unterminated, opened⟩
      | '\x22' :: rest => pure (acc.reverse, ⟨rest, position + 1⟩)
      | '\\' :: rest =>
          match rest with
          | [] => throw ⟨.unterminated, opened⟩
          | 'u' :: digits =>
              match fourHex? digits with
              | none => throw ⟨.unicodeEscape, position + 1⟩
              | some high =>
                  let after := digits.drop 4
                  -- Two escapes in a row may be the halves of one character.
                  match (if 0xD800 ≤ high && high ≤ 0xDBFF then lowSurrogate? after else none) with
                  | some low =>
                      let code := 0x10000 + (high - 0xD800) * 0x400 + (low - 0xDC00)
                      readText opened (position + 12) fuel (charOfCode code :: acc) (after.drop 6)
                  | none => readText opened (position + 6) fuel (charOfCode high :: acc) after
          | c :: more =>
              match shortEscape? c with
              | some d => readText opened (position + 2) fuel (d :: acc) more
              | none => throw ⟨.escape, position⟩
      | c :: rest =>
          if c.toNat ≤ 0x1F then throw ⟨.control, position⟩
          else readText opened (position + 1) fuel (c :: acc) rest

/-- The digits of an integer at the start of a text: a zero alone, or digits that start with no
zero. -/
def takeWhole (s : List Char) : List Char :=
  match s with
  | '0' :: _ => ['0']
  | _ => s.takeWhile Char.isDigit

/-- Reads a number. -/
def readNumber (c : Cursor) : Except ReadFault (Json × Cursor) :=
  let negative := c.rest.head? == some '-'
  let unsigned := if negative then c.rest.drop 1 else c.rest
  let whole := takeWhole unsigned
  if whole.isEmpty then c.fault .value
  else
    let behindWhole := unsigned.drop whole.length
    let fraction := Numeral.takeFraction behindWhole
    let (digits, behindFraction) := fraction.getD ([], behindWhole)
    let exponent := Numeral.takeExponent behindFraction
    let (power, rest) := exponent.getD (0, behindFraction)
    let next : Cursor := ⟨rest, c.position + (c.rest.length - rest.length)⟩
    if fraction.isNone && exponent.isNone then
      if Numeral.maxDigits < whole.length then c.fault (.tooLong whole.length)
      else pure (.int (Numeral.signed negative (Numeral.ofDigits whole)), next)
    else pure (.float (Numeral.decimal negative whole digits power), next)

/-- The words that denote values. -/
def words : List (List Char × Json) :=
  [("null".toList, .null), ("true".toList, .bool true), ("false".toList, .bool false),
    ("NaN".toList, .float .nan), ("Infinity".toList, .float (.infinite false)),
    ("-Infinity".toList, .float (.infinite true))]

/-- The greatest number of arrays and objects around a value. -/
def maxDepth : Nat := 970

mutual

/-- Reads a value within `depth` arrays and objects; `fuel` bounds the number of values and
items. -/
def readValue (depth : Nat) : Nat → Cursor → Except ReadFault (Json × Cursor)
  | 0, c => c.fault .value
  | fuel + 1, c =>
      match c.rest with
      | '\x22' :: rest => do
          let (s, c) ← readText c.position (c.position + 1) (rest.length + 1) [] rest
          return (.text (String.ofList s), c)
      | '[' :: _ => do
          if maxDepth ≤ depth then c.fault (.tooDeep false)
          let c := (c.skip 1).skipSpace
          if c.rest.head? = some ']' then return (.array [], c.skip 1)
          let (items, c) ← readItems (depth + 1) fuel c
          return (.array items, c)
      | '\x7b' :: _ => do
          if maxDepth ≤ depth then c.fault (.tooDeep true)
          let c := (c.skip 1).skipSpace
          if c.rest.head? = some '\x7d' then return (.object [], c.skip 1)
          let (fields, c) ← readFields (depth + 1) fuel c
          return (ofFields fields, c)
      | _ =>
          match words.find? (fun w => c.startsWith w.1) with
          | some (w, v) => pure (v, c.skip w.length)
          | none => readNumber c

/-- Reads the items of an array up to its closing bracket. -/
def readItems (depth : Nat) : Nat → Cursor → Except ReadFault (List Json × Cursor)
  | 0, c => c.fault .value
  | fuel + 1, c => do
      let (v, c) ← readValue depth fuel c
      let c := c.skipSpace
      match c.rest with
      | ']' :: _ => return ([v], c.skip 1)
      | ',' :: _ =>
          let (vs, c) ← readItems depth fuel (c.skip 1).skipSpace
          return (v :: vs, c)
      | _ => c.fault .comma

/-- Reads the fields of an object up to its closing brace. -/
def readFields (depth : Nat) :
    Nat → Cursor → Except ReadFault (List (String × Json) × Cursor)
  | 0, c => c.fault .value
  | fuel + 1, c => do
      match c.rest with
      | '\x22' :: rest =>
          let (name, c) ← readText c.position (c.position + 1) (rest.length + 1) [] rest
          let c := c.skipSpace
          if c.rest.head? ≠ some ':' then c.fault .colon
          else
            let (v, c) ← readValue depth fuel (c.skip 1).skipSpace
            let c := c.skipSpace
            match c.rest with
            | '\x7d' :: _ => return ([(String.ofList name, v)], c.skip 1)
            | ',' :: _ =>
                let (fs, c) ← readFields depth fuel (c.skip 1).skipSpace
                return ((String.ofList name, v) :: fs, c)
            | _ => c.fault .comma
      | _ => c.fault .name

end

/-- Reads a document. Every value and every item takes a character, so the length of the document
bounds the reading. -/
def read (document : List Char) : Except ReadFault Json := do
  let start : Cursor := ⟨document, 0⟩
  let (v, c) ← readValue 0 (2 * document.length + 2) start.skipSpace
  let c := c.skipSpace
  if c.rest.isEmpty then pure v else c.fault .trailing

end Rebac.Json
