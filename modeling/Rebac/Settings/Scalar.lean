import Rebac.Number.Numeral

set_option autoImplicit false

/-!
# Flags and numbers in settings

A flag is one of a few words in any case. A number is written in decimal digits, possibly in groups
joined by underscores, with an optional sign, zeros in front (which may have any underscores among
them), a fraction of zeros and blanks around it. Nothing else is a flag or a number.
-/

namespace Rebac.Settings

/-- The words for a flag that is set. -/
def setWords : List String := ["1", "on", "t", "true", "y", "yes"]

/-- The words for a flag that is not set. -/
def unsetWords : List String := ["0", "off", "f", "false", "n", "no"]

/-- A text with its ASCII letters in lower case. -/
def plainLower (s : List Char) : List Char := s.map Char.toLower

/-- The flag that a text denotes. -/
def flag? (s : String) : Option Bool :=
  let word := String.ofList (plainLower s.toList)
  if setWords.contains word then some true
  else if unsetWords.contains word then some false
  else none

/-- Blanks around a number: white space without the information separators. -/
def isMargin (c : Char) : Bool := Text.isBlank c && !(0x1C ≤ c.toNat && c.toNat ≤ 0x1F)

/-- The value of an ASCII digit. -/
def digit? (c : Char) : Option Nat := if c.isDigit then some (c.toNat - '0'.toNat) else none

/-- The number of digits in groups joined by single underscores, from a number of digits on. -/
def groupsFrom : Nat → List Char → Option Nat
  | n, [] => some n
  | n, '_' :: c :: rest => do groupsFrom (n * 10 + (← digit? c)) rest
  | n, c :: rest => do groupsFrom (n * 10 + (← digit? c)) rest

/-- The number of digits in groups joined by single underscores. -/
def groups? : List Char → Option Nat
  | [] => none
  | c :: rest => do groupsFrom (← digit? c) rest

/-- Drops a fraction of one or more zeros; any other fraction stays. -/
def dropZeroFraction (s : List Char) : List Char :=
  match s.dropWhile (· != '.') with
  | _ :: z :: zs => if (z :: zs).all (· == '0') then s.takeWhile (· != '.') else s
  | _ => s

/-- The text without the blanks around it. -/
def withoutMargin (s : List Char) : List Char :=
  ((s.dropWhile isMargin).reverse.dropWhile isMargin).reverse

/-- The number behind zeros in front of it and underscores among them, where `last` is the character
before. Of zeros that stand alone or in front of a fraction the last one stays. -/
def dropZerosBehind (last : Char) : List Char → List Char
  | [] => [last]
  | c :: rest =>
      if c = '0' ∨ c = '_' then dropZerosBehind c rest
      else if c = '.' then last :: c :: rest
      else c :: rest

/-- The number without zeros in front of it. -/
def dropZeros : List Char → List Char
  | '0' :: rest => dropZerosBehind '0' rest
  | s => s

/-- The number without a sign that a text denotes. Zeros in front do not count as digits of a number
that is too long. -/
def natural? (s : List Char) : Option Nat :=
  let digits := dropZeroFraction (dropZeros s)
  if Numeral.maxDigits < digits.countP (· != '_') then none else groups? digits

/-- The number that a text denotes. A sign stands directly in front of the number. -/
def integer? (s : String) : Option Int :=
  match withoutMargin s.toList with
  | '-' :: rest => (natural? rest).map (fun n => -(n : Int))
  | '+' :: rest => (natural? rest).map Int.ofNat
  | rest => (natural? rest).map Int.ofNat

end Rebac.Settings
