import Rebac.Number.Numeral
import Rebac.Text.Encoding
import Rebac.Text

set_option autoImplicit false

/-!
# Numeric hosts

Hosts that are numbers. An IPv4 address has four decimal numbers with dots between them; an IPv6
address has eight groups of digits in base 16 with colons between them, of which a run of zeros may
be left out, and possibly a zone.
-/

namespace Rebac.Host

/-- Whether a text has the shape of an IPv4 address: four runs of digits with dots between them. -/
def isIpv4Shaped (s : List Char) : Bool :=
  let parts := Text.pieces (· == '.') s
  parts.length == 4 && parts.all (fun p => !p.isEmpty && p.all Char.isDigit)

/-- Whether a text is a number of an IPv4 address: at most 255, without leading zeros. -/
def isOctet (s : List Char) : Bool :=
  !s.isEmpty && s.all Char.isDigit && s.length ≤ 3 && (s.length == 1 || s.head? != some '0') &&
    Numeral.ofDigits s ≤ 255

/-- Whether a text is an IPv4 address. -/
def isIpv4 (s : List Char) : Bool :=
  let parts := Text.pieces (· == '.') s
  parts.length == 4 && parts.all isOctet

/-- Whether a text is a group of an IPv6 address. -/
def isGroup (s : List Char) : Bool :=
  !s.isEmpty && s.all (fun c => (Text.Percent.hexValue? c).isSome) && s.length ≤ 4

/-- The text of an IPv6 address without its zone; `none` if the zone is malformed. -/
def withoutZone (s : List Char) : Option (List Char) :=
  match Text.pieces (· == '%') s with
  | [a] => some a
  | [a, zone] => if zone.isEmpty then none else some a
  | _ => none

/-- Whether the parts of a text between its colons make up an IPv6 address. -/
def isIpv6Parts (parts : List (List Char)) : Bool :=
  let inner := (parts.drop 1).dropLast
  match inner.countP List.isEmpty with
  | 0 => parts.length == 8 && parts.all isGroup
  -- An empty part stands for the groups of zeros that are left out; there may be one only.
  | 1 =>
      let gap := (inner.takeWhile (fun p => !p.isEmpty)).length + 1
      let before := parts.take gap
      let behind := parts.drop (gap + 1)
      let before := if before.head? == some [] then before.drop 1 else before
      let behind := if behind.getLast? == some [] then behind.dropLast else behind
      (parts.head? != some [] || before.isEmpty) && (parts.getLast? != some [] || behind.isEmpty) &&
        before.length + behind.length < 8 && before.all isGroup && behind.all isGroup
  | _ => false

/-- Whether a text is an IPv6 address, possibly with an IPv4 address at its end and a zone. -/
def isIpv6 (s : List Char) : Bool :=
  match withoutZone s with
  | none => false
  | some s =>
      let parts := Text.pieces (· == ':') s
      match parts.getLast? with
      | none => false
      | some last =>
          -- An IPv4 address at the end takes the place of two groups.
          if last.contains '.' then
            3 ≤ parts.length && parts.length ≤ 8 && isIpv4 last &&
              isIpv6Parts (parts.dropLast ++ [['0'], ['0']])
          else 3 ≤ parts.length && parts.length ≤ 9 && isIpv6Parts parts

end Rebac.Host
