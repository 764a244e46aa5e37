set_option autoImplicit false

/-!
# Punycode

A text in letters, digits and hyphens: first its ASCII characters, then, behind a hyphen, the other
ones in increasing order, each as the distance to the one before it. The distance counts the places
at which a character could have been inserted since; it is written in base 36 with digits whose
thresholds follow the distances seen so far. Reading it back inserts the characters one by one.
-/

namespace Rebac.Text.Punycode

/-- The number of digits. -/
def base : Nat := 36

/-- The least threshold of a digit. -/
def leastThreshold : Nat := 1

/-- The greatest threshold of a digit. -/
def greatestThreshold : Nat := 26

/-- The bias at the start. -/
def firstBias : Nat := 72

/-- The first character outside ASCII. -/
def firstCharacter : Nat := 0x80

/-- A digit: the letters stand for 0 to 25, the decimal digits for 26 to 35. -/
def digit (n : Nat) : Char := if n < 26 then Char.ofNat (0x61 + n) else Char.ofNat (0x30 + n - 26)

/-- The value of a digit. -/
def digitValue? (c : Char) : Option Nat :=
  let n := c.toNat
  if 0x61 ≤ n ∧ n ≤ 0x7A then some (n - 0x61)
  else if 0x41 ≤ n ∧ n ≤ 0x5A then some (n - 0x41)
  else if 0x30 ≤ n ∧ n ≤ 0x39 then some (n - 0x30 + 26)
  else none

/-- Reading a digit undoes writing it. -/
theorem digitValue?_digit {n : Nat} (h : n < base) : digitValue? (digit n) = some n := by
  have all : ∀ m ∈ List.range base, digitValue? (digit m) = some m := by decide
  exact all n (List.mem_range.2 h)

/-- The threshold of the digit at a position, which is a multiple of the base. -/
def threshold (position bias : Nat) : Nat :=
  if position ≤ bias + leastThreshold then leastThreshold
  else if bias + greatestThreshold ≤ position then greatestThreshold
  else position - bias

theorem threshold_pos (position bias : Nat) : 0 < threshold position bias := by
  unfold threshold leastThreshold greatestThreshold
  split
  · omega
  · split <;> omega

/-- The part of the bias for the size of a distance, and what is left of the distance. -/
def reduce (distance bias : Nat) : Nat × Nat :=
  if (base - leastThreshold) * greatestThreshold / 2 < distance then
    reduce (distance / (base - leastThreshold)) (bias + base)
  else (bias, distance)
termination_by distance
decreasing_by exact Nat.div_lt_self (by omega) (by decide)

/-- The bias behind a distance in a text of some characters. -/
def adapt (distance count : Nat) (first : Bool) : Nat :=
  let scaled := if first then distance / 700 else distance / 2
  let (bias, rest) := reduce (scaled + scaled / count) 0
  bias + base * rest / (rest + 38)

/-- The digits of a distance from a position on. -/
def digitsFrom (bias position distance : Nat) : List Char :=
  let t := threshold position bias
  if distance < t then [digit distance]
  else
    digit (t + (distance - t) % (base - t)) ::
      digitsFrom bias (position + base) ((distance - t) / (base - t))
termination_by distance
decreasing_by
  have ht := threshold_pos position bias
  have hd := Nat.div_le_self (distance - threshold position bias)
    (base - threshold position bias)
  omega

/-- Whether a character is one of ASCII. -/
def isBasic (c : Char) : Bool := c.toNat < firstCharacter

/-- The characters outside ASCII with their positions, in increasing order. -/
def extended (s : List Char) : List (Char × Nat) :=
  (s.zipIdx.filter (fun p => !isBasic p.1)).mergeSort (fun p q => p.1.toNat ≤ q.1.toNat)

/-- The digits of characters outside ASCII. `written` is the number of characters of the text that
are written, `last` the last one, `place` the first place behind it, and `first` tells whether it is
none of these. -/
def encodeFrom (s : List Char) (written last place bias : Nat) (first : Bool) :
    List (Char × Nat) → List Char
  | [] => []
  | (c, position) :: rest =>
      -- The place of a character counts the written ones on its left.
      let left := (s.take position).countP (fun d => d.toNat ≤ c.toNat)
      let distance := (c.toNat - last) * (written + 1) + left - place
      digitsFrom bias base distance ++
        encodeFrom s (written + 1) c.toNat (left + 1) (adapt distance (written + 1) first) false
          rest

/-- The Punycode of a text. -/
def encode (s : List Char) : List Char :=
  let basic := s.filter isBasic
  basic ++ (if basic.isEmpty then [] else ['-']) ++
    encodeFrom s basic.length firstCharacter 0 firstBias true (extended s)

/-- What reading has come to. -/
structure Progress where
  /-- The text so far. -/
  text : List Char
  /-- The character that was inserted last. -/
  last : Nat
  /-- The first place behind it. -/
  place : Nat
  bias : Nat
  first : Bool
  /-- The value of the digits of the next distance so far. -/
  distance : Nat := 0
  /-- The weight of its next digit. -/
  weight : Nat := 1
  /-- The position of its next digit. -/
  position : Nat := base

/-- The text behind an insertion; `none` if there is no such character. -/
def Progress.insert? (p : Progress) (distance : Nat) : Option Progress :=
  let count := p.text.length + 1
  let place := p.place + distance
  let code := p.last + place / count
  if h : code.isValidChar then
    some {
      text := p.text.take (place % count) ++ Char.ofNatAux code h :: p.text.drop (place % count)
      last := code
      place := place % count + 1
      bias := adapt distance count p.first
      first := false }
  else none

/-- Reads one more digit. -/
def Progress.read? (p : Progress) (c : Char) : Option Progress := do
  let value ← digitValue? c
  let t := threshold p.position p.bias
  let distance := p.distance + value * p.weight
  if value < t then p.insert? distance
  else
    return { p with
      distance := distance
      weight := p.weight * (base - t)
      position := p.position + base }

/-- The text of a Punycode; `none` if a digit or a character is none, or the last distance does not
end. -/
def decode? (s : List Char) : Option (List Char) := do
  let digits := (s.reverse.takeWhile (· != '-')).reverse
  let basic := s.take (s.length - digits.length - 1)
  let start : Progress := {
    text := basic, last := firstCharacter, place := 0, bias := firstBias, first := true }
  let p ← digits.foldlM Progress.read? start
  if p.position = base then return p.text else none

end Rebac.Text.Punycode
