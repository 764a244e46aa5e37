set_option autoImplicit false

/-!
# Binary floating-point numbers

The numbers of the 64-bit binary interchange format, and the texts that show them.
-/

/-!
## Binary floating-point numbers

The numbers of the 64-bit binary interchange format, kept as an integer mantissa and a power of
two, so that reading, comparing and printing them is exact arithmetic on integers. A quotient of two
integers is rounded to the nearest number of the format, and halfway cases to the even mantissa.
-/

namespace Rebac

/-- A number of the 64-bit binary format: `mantissa * 2 ^ exponent` with a sign, an infinity, or no
number at all. A mantissa below `2 ^ 52` occurs only with the least exponent, `-1074`. -/
inductive Binary64
  | finite (negative : Bool) (mantissa : Nat) (exponent : Int)
  | infinite (negative : Bool)
  | nan
deriving DecidableEq, Inhabited

namespace Binary64

/-- The least exponent of the format. -/
def minExponent : Int := -1074

/-- The greatest exponent of the format. -/
def maxExponent : Int := 971

/-- The number of bits of a mantissa. -/
def precision : Nat := 53

/-- A power of two. -/
def pow2 (k : Nat) : Nat := Nat.pow 2 k

/-- A power of ten. -/
def pow10 (k : Nat) : Nat := Nat.pow 10 k

/-- Zero, with a sign. -/
def zero (negative : Bool) : Binary64 := .finite negative 0 minExponent

/-- The quotient rounded to the nearest integer, a half to the even neighbour. -/
def roundDiv (num den : Nat) : Nat :=
  let q := num / den
  let r := num % den
  if 2 * r < den then q
  else if den < 2 * r then q + 1
  else if q % 2 = 0 then q else q + 1

/-- The quotient `num / (den * 2 ^ e)` as a numerator and a denominator. -/
def scaled (num den : Nat) (e : Int) : Nat × Nat :=
  if 0 ≤ e then (num, den * pow2 e.toNat) else (num * pow2 (-e).toNat, den)

/-- The number of the format nearest to `num / den`. -/
def ofRatio (negative : Bool) (num den : Nat) : Binary64 :=
  if num = 0 then zero negative
  else
    let guess : Int := (Nat.log2 num : Int) - (Nat.log2 den : Int) - precision
    let (n, d) := scaled num den guess
    let exact := if n / d < pow2 precision then guess else guess + 1
    let e := max exact minExponent
    let (n, d) := scaled num den e
    let m := roundDiv n d
    let (m, e) := if m = pow2 precision then (pow2 (precision - 1), e + 1) else (m, e)
    if maxExponent < e then .infinite negative else .finite negative m e

/-- The number of the format nearest to `digits * 10 ^ power`. Powers far outside the range of the
format are settled without computing them. -/
def ofDecimal (negative : Bool) (digits : Nat) (power : Int) : Binary64 :=
  if digits = 0 then zero negative
  else
    let size : Int := (Nat.toDigits 10 digits).length + power
    if 310 < size then .infinite negative
    else if size < -330 then zero negative
    else if 0 ≤ power then ofRatio negative (digits * pow10 power.toNat) 1
    else ofRatio negative digits (pow10 (-power).toNat)

/-- The integer that a number equals, if it is one. -/
def toInt? : Binary64 → Option Int
  | .finite negative m e =>
      let sign : Int := if negative then -1 else 1
      if 0 ≤ e then some (sign * (m * pow2 e.toNat : Nat))
      else if m % pow2 (-e).toNat = 0 then some (sign * (m / pow2 (-e).toNat : Nat))
      else none
  | _ => none

/-- Zero of either sign. -/
def isZero : Binary64 → Bool
  | .finite _ m _ => m == 0
  | _ => false

/-- Numbers are finite, infinite or none. -/
def isFinite : Binary64 → Bool
  | .finite .. => true
  | _ => false

/-- Equality of numbers: zeros of both signs are equal, and no number equals nothing. -/
def same : Binary64 → Binary64 → Bool
  | .nan, _ => false
  | _, .nan => false
  | a, b => (a.isZero && b.isZero) || a == b

theorem isZero_zero (negative : Bool) : (zero negative).isZero = true := rfl

/-- An exact quotient is not rounded. -/
theorem roundDiv_mul (q : Nat) {d : Nat} (h : 0 < d) : roundDiv (q * d) d = q := by
  simp [roundDiv, Nat.mul_div_cancel q h, h]

/-- Rounding moves a quotient by half a unit at most. -/
theorem roundDiv_bounds (n : Nat) {d : Nat} (h : 0 < d) :
    2 * n ≤ 2 * (roundDiv n d * d) + d ∧ 2 * (roundDiv n d * d) ≤ 2 * n + d := by
  have hdiv := Nat.div_add_mod n d
  have hlt := Nat.mod_lt n h
  have hq : d * (n / d) = n / d * d := Nat.mul_comm _ _
  have hs : (n / d + 1) * d = n / d * d + d := Nat.succ_mul _ _
  simp only [roundDiv]
  split
  · omega
  · split
    · omega
    · split <;> omega

end Binary64

end Rebac

/-!
## The shortest decimal text of a number

A binary number is shown with the fewest decimal digits that read back as the same number; of two
texts of that length the one nearer to the number is taken. The search tries one digit, then two,
and so on up to seventeen: on each decimal grid only the two neighbours of the number can lie in the
interval of values that round to it.
-/

namespace Rebac

/-- A positive decimal number, `digits * 10 ^ power`. -/
structure Decimal where
  digits : Nat
  power : Int
deriving DecidableEq

namespace Binary64

/-- How many decimal digits a number has. -/
def digitCount (n : Nat) : Nat := (Nat.toDigits 10 n).length

/-- The least `k` with `m * 2 ^ e < 10 ^ k`, for a positive mantissa. -/
def decimalSize (m : Nat) (e : Int) : Int :=
  let num := if 0 ≤ e then m * pow2 e.toNat else m
  let den := if 0 ≤ e then 1 else pow2 (-e).toNat
  if den ≤ num then digitCount (num / den)
  else 1 - digitCount ((den + num - 1) / num - 1)

/-- The candidate with `n` digits, if one lies in the interval of reals that round to
`m * 2 ^ e`. The ends of the interval belong to it exactly when the mantissa is even. -/
def candidate? (m : Nat) (e : Int) (n : Nat) : Option Decimal :=
  let power := decimalSize m e - n
  let unit := e - 2
  let tens := pow10 power.toNat * pow2 (-unit).toNat
  let twos := pow2 unit.toNat * pow10 (-power).toNat
  -- Below a power of two the spacing of numbers halves, and so does that side of the interval.
  let low := (if m = pow2 (precision - 1) ∧ minExponent < e then 4 * m - 1 else 4 * m - 2) * twos
  let high := (4 * m + 2) * twos
  let value := 4 * m * twos
  let fits (c : Nat) : Bool :=
    if m % 2 = 0 then low ≤ c * tens && c * tens ≤ high
    else low < c * tens && c * tens < high
  let below := value / tens
  let above := below + 1
  match fits below, fits above with
  | true, true =>
      let toBelow := value - below * tens
      let toAbove := above * tens - value
      -- Both neighbours read back: the nearer one is taken, on a tie the even one.
      let best :=
        if toBelow < toAbove then below
        else if toAbove < toBelow then above
        else if below % 2 = 0 then below else above
      some ⟨best, power⟩
  | true, false => some ⟨below, power⟩
  | false, true => some ⟨above, power⟩
  | false, false => none

/-- The shortest decimal that reads back as `m * 2 ^ e`; seventeen digits always suffice. -/
def shortest (m : Nat) (e : Int) : Decimal :=
  ((List.range 17).findSome? (fun n => candidate? m e (n + 1))).getD ⟨m, 0⟩

/-- The digits of a decimal without the zeros at their end. -/
def significant (d : Decimal) : List Char :=
  ((Nat.toDigits 10 d.digits).reverse.dropWhile (· == '0')).reverse

/-- At least two digits of an exponent. -/
def exponentDigits (n : Nat) : List Char :=
  let ds := Nat.toDigits 10 n
  if ds.length < 2 then '0' :: ds else ds

/-- A positive decimal in positional notation between `10 ^ (-4)` and `10 ^ 16`, with at least one
digit behind the point, and with an exponent otherwise. -/
def decimalText (d : Decimal) : List Char :=
  let ds := significant d
  let point : Int := digitCount d.digits + d.power
  if -4 < point ∧ point ≤ 16 then
    if point ≤ 0 then '0' :: '.' :: List.replicate (-point).toNat '0' ++ ds
    else
      let whole := ds.take point.toNat
      let rest := ds.drop point.toNat
      whole ++ List.replicate (point.toNat - whole.length) '0' ++
        '.' :: (if rest.isEmpty then ['0'] else rest)
  else
    let e := point - 1
    ds.take 1 ++ (if ds.length ≤ 1 then [] else '.' :: ds.drop 1) ++
      'e' :: (if e < 0 then '-' else '+') :: exponentDigits e.natAbs

/-- The text of a number. -/
def text : Binary64 → String
  | .nan => "nan"
  | .infinite negative => if negative then "-inf" else "inf"
  | .finite negative m e =>
      let body := if m = 0 then ['0', '.', '0'] else decimalText (shortest m e)
      String.ofList (if negative then '-' :: body else body)

end Binary64

end Rebac
