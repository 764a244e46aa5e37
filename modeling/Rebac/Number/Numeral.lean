import Rebac.Number.Binary64
import Rebac.Text

set_option autoImplicit false

/-!
# Numerals

The texts that denote numbers. An integer numeral has an optional sign and decimal digits of any
script, with single underscores between digits, and may stand between blanks. A decimal numeral has
digits, a fraction and an exponent.
-/

namespace Rebac.Numeral

/-- Digits with single underscores between them: the digits alone. -/
def dropSeparators : List Char → Option (List Char)
  | [] => none
  | [c] => if Text.isDecimal c then some [c] else none
  | c :: '_' :: rest => if Text.isDecimal c then (dropSeparators rest).map (c :: ·) else none
  | c :: rest => if Text.isDecimal c then (dropSeparators rest).map (c :: ·) else none

/-- The sign at the start of a numeral, and the rest. -/
def takeSign : List Char → Bool × List Char
  | '-' :: rest => (true, rest)
  | '+' :: rest => (false, rest)
  | rest => (false, rest)

/-- The number with a sign. -/
def signed (negative : Bool) (n : Nat) : Int := if negative then -(n : Int) else n

/-- The greatest number of digits of an integer that is read or written. -/
def maxDigits : Nat := 4300

/-- Whether an integer has too many digits to be written. -/
def isTooLong (i : Int) : Bool := maxDigits < (Nat.toDigits 10 i.natAbs).length

/-- What is said about an integer that has too many digits to be written. -/
def unwritableMessage : String :=
  "Exceeds the limit (" ++ toString maxDigits ++
    " digits) for integer string conversion; use sys.set_int_max_str_digits() to increase the limit"

/-- The integer that a text denotes, if it does not have too many digits. -/
def integer? (s : List Char) : Option Int := do
  let (negative, rest) := takeSign (Text.trim s)
  let ds ← dropSeparators rest
  if maxDigits < ds.length then none
  else
    let n ← Text.decimalNumber? ds
    return signed negative n

/-- What is said about an integer with too many digits. -/
def tooLongMessage (digits : Nat) : String :=
  "Exceeds the limit (" ++ toString maxDigits ++
    " digits) for integer string conversion: value has " ++ toString digits ++
    " digits; use sys.set_int_max_str_digits() to increase the limit"

/-- ASCII digits at the start of a text, and the rest. -/
def spanDigits (s : List Char) : List Char × List Char := s.span Char.isDigit

/-- The number that ASCII digits denote. -/
def ofDigits (ds : List Char) : Nat := ds.foldl (fun n c => n * 10 + (c.toNat - '0'.toNat)) 0

/-- The exponent at the start of a text: its value, and the rest. A mark without digits is no
exponent. -/
def takeExponent (s : List Char) : Option (Int × List Char) :=
  match s with
  | c :: rest =>
      if c = 'e' || c = 'E' then
        let (negative, rest) := takeSign rest
        let (ds, rest) := spanDigits rest
        if ds.isEmpty then none else some (signed negative (ofDigits ds), rest)
      else none
  | [] => none

/-- The fraction at the start of a text: its digits, and the rest. A point without digits behind it
is no fraction. -/
def takeFraction (s : List Char) : Option (List Char × List Char) :=
  match s with
  | '.' :: rest =>
      let (ds, rest) := spanDigits rest
      if ds.isEmpty then none else some (ds, rest)
  | _ => none

/-- The binary number that digits, a fraction and an exponent denote. -/
def decimal (negative : Bool) (whole fraction : List Char) (exponent : Int) : Binary64 :=
  Binary64.ofDecimal negative (ofDigits (whole ++ fraction)) (exponent - fraction.length)

/-- The binary number that a text denotes: a decimal numeral, or the name of an infinity or of no
number. -/
def binary64? (s : List Char) : Option Binary64 :=
  let (negative, rest) := takeSign s
  if rest = ['i', 'n', 'f'] then some (.infinite negative)
  else if rest = ['n', 'a', 'n'] then some .nan
  else
    let (whole, rest) := spanDigits rest
    if whole.isEmpty then none
    else
      let (fraction, rest) := (takeFraction rest).getD ([], rest)
      let (exponent, rest) := (takeExponent rest).getD (0, rest)
      if rest.isEmpty then some (decimal negative whole fraction exponent) else none

end Rebac.Numeral
