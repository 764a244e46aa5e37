set_option autoImplicit false

/-!
# Texts and bytes

How texts stand as bytes: in UTF-8 and in wider units, as segments of paths, and how bytes stand as
texts in base 64.
-/

/-!
## Encodings of texts

The ways in which bytes can stand for a text, and what is reported about bytes that stand for none.
-/

namespace Rebac.Text

/-- An encoding: units of one, two or four bytes, the larger ones in either order of bytes. -/
inductive Encoding
  | utf8
  | utf16 (bigEndian : Bool)
  | utf32 (bigEndian : Bool)
deriving DecidableEq

/-- The name of an encoding. -/
def Encoding.name : Encoding → String
  | .utf8 => "utf-8"
  | .utf16 true => "utf-16-be"
  | .utf16 false => "utf-16-le"
  | .utf32 true => "utf-32-be"
  | .utf32 false => "utf-32-le"

/-- Why bytes are no text. -/
inductive DecodeReason
  /-- No character starts with this byte. -/
  | start
  /-- A byte that should continue a character does not. -/
  | continuation
  /-- The bytes end within a character. -/
  | unfinished
  /-- The bytes end within a unit. -/
  | truncated
  /-- A unit is no character at all. -/
  | outOfRange
deriving DecidableEq

/-- A reason in words. -/
def DecodeReason.text : DecodeReason → String
  | .start => "invalid start byte"
  | .continuation => "invalid continuation byte"
  | .unfinished => "unexpected end of data"
  | .truncated => "truncated data"
  | .outOfRange => "code point not in range(0x110000)"

/-- Where and why bytes are no text, and the first byte there. -/
structure DecodeFault where
  encoding : Encoding
  reason : DecodeReason
  position : Nat
  size : Nat
  byte : UInt8
deriving DecidableEq

/-- The message of a fault. -/
def DecodeFault.message (f : DecodeFault) : String :=
  let digit (n : Nat) : String := String.singleton (Nat.digitChar n)
  "'" ++ f.encoding.name ++ "' codec can't decode " ++
    (if f.size ≤ 1 then
      "byte 0x" ++ digit (f.byte.toNat / 16) ++ digit (f.byte.toNat % 16) ++ " in position " ++
        toString f.position
    else
      "bytes in position " ++ toString f.position ++ "-" ++ toString (f.position + f.size - 1)) ++
    ": " ++ f.reason.text

end Rebac.Text

/-!
## UTF-8

Texts as bytes and back. Decoding reads one character at a time; where no character starts, the
fault names the longest run of bytes that begins one (at least one byte), and lenient decoding puts
the replacement character in the place of that run.
-/

namespace Rebac.Text.Utf8

/-- The bytes of a text. -/
def encode (s : List Char) : List UInt8 := s.flatMap String.utf8EncodeChar

/-- What stands at the start of some bytes: a character and how many bytes it takes, or a run of
bytes that is none. -/
inductive Piece
  | char (c : Char) (size : Nat)
  | fault (reason : DecodeReason) (size : Nat)

/-- How many bytes follow a first byte, the bits it contributes, and the least and greatest value
of the byte after it. -/
def lead? (b : Nat) : Option (Nat × Nat × Nat × Nat) :=
  if 0xC2 ≤ b && b ≤ 0xDF then some (1, b - 0xC0, 0x80, 0xBF)
  -- The bounds of the second byte exclude overlong forms, surrogates and what is beyond Unicode.
  else if b = 0xE0 then some (2, 0, 0xA0, 0xBF)
  else if b = 0xED then some (2, 0xD, 0x80, 0x9F)
  else if 0xE1 ≤ b && b ≤ 0xEF then some (2, b - 0xE0, 0x80, 0xBF)
  else if b = 0xF0 then some (3, 0, 0x90, 0xBF)
  else if 0xF1 ≤ b && b ≤ 0xF3 then some (3, b - 0xF0, 0x80, 0xBF)
  else if b = 0xF4 then some (3, 4, 0x80, 0x8F)
  else none

/-- Reads the `missing` bytes that complete a character. -/
def continued : Nat → Nat → Nat → Nat → Nat → List UInt8 → Piece
  | 0, bits, _, _, size, _ => .char (Char.ofNat bits) size
  | _ + 1, _, _, _, size, [] => .fault .unfinished size
  | missing + 1, bits, low, high, size, b :: rest =>
      if low ≤ b.toNat && b.toNat ≤ high then
        continued missing (bits * 64 + (b.toNat - 0x80)) 0x80 0xBF (size + 1) rest
      else .fault .continuation size

/-- What stands at the start of the bytes `b :: rest`. -/
def piece (b : UInt8) (rest : List UInt8) : Piece :=
  if b.toNat < 0x80 then .char (Char.ofNat b.toNat) 1
  else
    match lead? b.toNat with
    | some (missing, bits, low, high) => continued missing bits low high 1 rest
    | none => .fault .start 1

/-- Whether the bytes `b :: rest` begin with half of a pair for units of two bytes, written as if it
were a character. -/
def isHalf (b : UInt8) (rest : List UInt8) : Bool :=
  match rest with
  | c :: d :: _ =>
      b.toNat == 0xED && 0xA0 ≤ c.toNat && c.toNat ≤ 0xBF && 0x80 ≤ d.toNat && d.toNat ≤ 0xBF
  | _ => false

/-- What stands at the start of the bytes `b :: rest`, where half of a pair may stand for the
replacement character. -/
def pieceWith (halves : Bool) (b : UInt8) (rest : List UInt8) : Piece :=
  if halves && isHalf b rest then .char '\uFFFD' 3 else piece b rest

/-- The text of some bytes, of which the first `skip` belong to what was read before. -/
def decodeFrom (halves : Bool) (skip position : Nat) :
    List UInt8 → Except DecodeFault (List Char)
  | [] => .ok []
  | b :: rest =>
      match skip with
      | n + 1 => decodeFrom halves n (position + 1) rest
      | 0 =>
          match pieceWith halves b rest with
          | .char c size => do return c :: (← decodeFrom halves (size - 1) (position + 1) rest)
          | .fault reason size => .error ⟨.utf8, reason, position, size, b⟩

/-- The text of some bytes. -/
def decode (bytes : List UInt8) : Except DecodeFault (List Char) := decodeFrom false 0 0 bytes

/-- The text of some bytes, with the replacement character for each half of a pair. -/
def decodeHalves (bytes : List UInt8) : Except DecodeFault (List Char) := decodeFrom true 0 0 bytes

/-- The text of some bytes, with the replacement character for every run that is no character, of
which the first `skip` bytes belong to what was read before. -/
def decodeLossyFrom (skip : Nat) : List UInt8 → List Char
  | [] => []
  | b :: rest =>
      match skip with
      | n + 1 => decodeLossyFrom n rest
      | 0 =>
          match piece b rest with
          | .char c size => c :: decodeLossyFrom (size - 1) rest
          | .fault _ size => '\uFFFD' :: decodeLossyFrom (size - 1) rest

/-- The text of some bytes, with the replacement character for every run that is no character. -/
def decodeLossy (bytes : List UInt8) : List Char := decodeLossyFrom 0 bytes

@[simp] theorem encode_nil : encode [] = [] := rfl

theorem encode_append (s t : List Char) : encode (s ++ t) = encode s ++ encode t :=
  List.flatMap_append

end Rebac.Text.Utf8

/-!
## Wide encodings

Texts in units of two or four bytes. In units of two bytes, two halves of a pair stand for one
character; half of a pair on its own is read as the replacement character.
-/

namespace Rebac.Text.Wide

/-- The number that bytes denote, most significant byte first. -/
def number (bytes : List UInt8) : Nat := bytes.foldl (fun n b => n * 256 + b.toNat) 0

/-- A unit of some bytes in either order. -/
def unit (bigEndian : Bool) (bytes : List UInt8) : Nat :=
  number (if bigEndian then bytes else bytes.reverse)

/-- Whether a unit is the first half of a pair. -/
def isHigh (u : Nat) : Bool := 0xD800 ≤ u && u < 0xDC00

/-- Whether a unit is the second half of a pair. -/
def isLow (u : Nat) : Bool := 0xDC00 ≤ u && u < 0xE000

/-- The character of a unit on its own. -/
def character (u : Nat) : Char := if isHigh u || isLow u then '\uFFFD' else Char.ofNat u

/-- The character of a pair. -/
def pair (high low : Nat) : Char :=
  Char.ofNat (0x10000 + (high - 0xD800) * 0x400 + (low - 0xDC00))

/-- The text of units of two bytes. -/
def joinPairs : List Nat → List Char
  | [] => []
  | [u] => [character u]
  | u :: v :: rest =>
      if isHigh u && isLow v then pair u v :: joinPairs rest
      else character u :: joinPairs (v :: rest)

/-- The units of two bytes from a position on. -/
def units16 (bigEndian : Bool) (position : Nat) : List UInt8 → Except DecodeFault (List Nat)
  | [] => pure []
  | [b] => throw ⟨.utf16 bigEndian, .truncated, position, 1, b⟩
  | a :: b :: rest => do
      return unit bigEndian [a, b] :: (← units16 bigEndian (position + 2) rest)

/-- The text of units of four bytes from a position on. -/
def decode32 (bigEndian : Bool) (position : Nat) : List UInt8 → Except DecodeFault (List Char)
  | [] => pure []
  | a :: b :: c :: d :: rest =>
      let u := unit bigEndian [a, b, c, d]
      if u < 0x110000 then do
        return character u :: (← decode32 bigEndian (position + 4) rest)
      else throw ⟨.utf32 bigEndian, .outOfRange, position, 4, a⟩
  | a :: rest => throw ⟨.utf32 bigEndian, .truncated, position, rest.length + 1, a⟩

/-- The text of units of two bytes from a position on. -/
def decode16 (bigEndian : Bool) (position : Nat) (bytes : List UInt8) :
    Except DecodeFault (List Char) := do
  return joinPairs (← units16 bigEndian position bytes)

end Rebac.Text.Wide

/-!
## Percent encoding

A text as one segment of a path: the bytes of its UTF-8 form, where letters, digits and four marks
of ASCII stand for themselves and every other byte is written as a percent sign and two digits in
base 16.
-/

namespace Rebac.Text.Percent

/-- The characters that stand for themselves in every part of an address. -/
def isUnreserved (c : Char) : Bool :=
  c.isAlphanum || c == '_' || c == '.' || c == '-' || c == '~'

/-- A digit in base 16, in upper case. -/
def hexDigit (n : Nat) : Char := (Nat.digitChar n).toUpper

/-- A byte as a percent sign and two digits. -/
def escapeByte (b : UInt8) : List Char := ['%', hexDigit (b.toNat / 16), hexDigit (b.toNat % 16)]

/-- A byte of a segment. -/
def encodeByte (b : UInt8) : List Char :=
  let c := Char.ofNat b.toNat
  if b.toNat < 0x80 && isUnreserved c then [c] else escapeByte b

/-- A text as a segment of a path. -/
def encode (s : List Char) : List Char := (Utf8.encode s).flatMap encodeByte

/-- The value of a digit in base 16. -/
def hexValue? (c : Char) : Option Nat :=
  if '0' ≤ c && c ≤ '9' then some (c.toNat - '0'.toNat)
  else if 'A' ≤ c && c ≤ 'F' then some (c.toNat - 'A'.toNat + 10)
  else if 'a' ≤ c && c ≤ 'f' then some (c.toNat - 'a'.toNat + 10)
  else none

/-- The bytes that a segment denotes. -/
def decodeBytes : List Char → Option (List UInt8)
  | [] => some []
  | '%' :: a :: b :: rest => do
      let byte := UInt8.ofNat ((← hexValue? a) * 16 + (← hexValue? b))
      return byte :: (← decodeBytes rest)
  | c :: rest =>
      if c.toNat < 0x80 && c != '%' then (decodeBytes rest).map (UInt8.ofNat c.toNat :: ·) else none

/-- The bytes that part of an address denotes. A percent sign without two digits stands for
itself. -/
def looseBytes : List Char → List UInt8
  | [] => []
  | '%' :: a :: b :: rest =>
      match hexValue? a, hexValue? b with
      | some x, some y => UInt8.ofNat (x * 16 + y) :: looseBytes rest
      | _, _ => Utf8.encode ['%'] ++ looseBytes (a :: b :: rest)
  | c :: rest => Utf8.encode [c] ++ looseBytes rest

/-- The text that a segment denotes. -/
def decode (s : List Char) : Option (List Char) := do (Utf8.decode (← decodeBytes s)).toOption

/-- The text that part of an address denotes. A percent sign that no byte follows stands for itself,
and bytes that are no text become the replacement character. -/
def decodeLossy (s : List Char) : List Char := Utf8.decodeLossy (looseBytes s)

theorem encode_append (s t : List Char) : encode (s ++ t) = encode s ++ encode t := by
  simp [encode, Utf8.encode_append, List.flatMap_append]

end Rebac.Text.Percent

/-!
## Base 64

Bytes as a text of letters, digits, plus signs and slashes: every three bytes are four characters,
and equals signs fill up the last four.
-/

namespace Rebac.Text.Base64

/-- The character for a number below 64. -/
def digit (n : Nat) : Char :=
  if n < 26 then Char.ofNat ('A'.toNat + n)
  else if n < 52 then Char.ofNat ('a'.toNat + (n - 26))
  else if n < 62 then Char.ofNat ('0'.toNat + (n - 52))
  else if n = 62 then '+'
  else '/'

/-- The text of bytes. -/
def encode : List UInt8 → List Char
  | [] => []
  | [a] => [digit (a.toNat / 4), digit (a.toNat % 4 * 16), '=', '=']
  | [a, b] =>
      [digit (a.toNat / 4), digit (a.toNat % 4 * 16 + b.toNat / 16), digit (b.toNat % 16 * 4), '=']
  | a :: b :: c :: rest =>
      digit (a.toNat / 4) :: digit (a.toNat % 4 * 16 + b.toNat / 16) ::
        digit (b.toNat % 16 * 4 + c.toNat / 64) :: digit (c.toNat % 64) :: encode rest

/-- Every three bytes, complete or not, are four characters. -/
theorem length_encode (bytes : List UInt8) :
    (encode bytes).length = (bytes.length + 2) / 3 * 4 := by
  fun_induction encode bytes with
  | case1 => simp
  | case2 => simp
  | case3 => simp
  | case4 a b c rest ih => simp only [List.length_cons, ih]; omega

end Rebac.Text.Base64
