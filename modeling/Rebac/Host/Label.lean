import Rebac.Host.Letter
import Rebac.Text
import Rebac.Text.Case
import Rebac.Text.Mark
import Rebac.Text.Punycode

set_option autoImplicit false

/-!
# Labels of host names

The rules for whole labels of a host name, and the form in which a host name is sent.
-/

/-!
## Directions of writing

The directions in which the characters of host names are written, and the rule for labels with
characters that are written from right to left: such a label is of one direction and begins and ends
with a letter or a digit of that direction, so that labels keep their order when they are shown.
-/

namespace Rebac.Host

open Text

/-- The direction of a character. -/
inductive Direction
  | leftToRight
  | rightToLeft
  | europeanDigit
  | arabicDigit
  | mark
  | neutral
deriving DecidableEq

/-- The runs that hold the scripts written from right to left. -/
def rightToLeftRuns : List Run :=
  [
    ⟨0x5D0, 0x8C9, 1⟩, ⟨0xFE73, 0xFE73, 1⟩, ⟨0x10800, 0x10FF6, 1⟩, ⟨0x1E800, 0x1E959, 1⟩ ]

/-- The runs of letters and marks of host names without a direction, and the hyphen. -/
def neutralRuns : List Run :=
  [
    ⟨0x2D, 0x2D, 1⟩, ⟨0xB7, 0xB7, 1⟩, ⟨0x2B9, 0x2BA, 1⟩, ⟨0x2C6, 0x2CF, 1⟩, ⟨0x2EC, 0x2EC, 1⟩,
    ⟨0x375, 0x375, 1⟩, ⟨0x200C, 0x200D, 1⟩, ⟨0x2E2F, 0x2E2F, 1⟩, ⟨0x30FB, 0x30FB, 1⟩,
    ⟨0xA67F, 0xA67F, 1⟩, ⟨0xA717, 0xA71F, 1⟩, ⟨0xA788, 0xA788, 1⟩ ]

/-- The runs of nonspacing marks with the direction of letters. -/
def directedMarkRuns : List Run :=
  [
    ⟨0xCBF, 0xCBF, 1⟩, ⟨0xCC6, 0xCC6, 1⟩, ⟨0x11A07, 0x11A08, 1⟩, ⟨0x11C3F, 0x11C3F, 1⟩ ]

/-- The runs of digits that are written as in Arabic. -/
def arabicDigitRuns : List Run := [⟨0x660, 0x669, 1⟩, ⟨0x10D30, 0x10D39, 1⟩]

/-- The runs of digits that are written as in European languages. -/
def europeanDigitRuns : List Run := [⟨0x30, 0x39, 1⟩, ⟨0x6F0, 0x6F9, 1⟩]

/-- The direction of a character of a host name. -/
def direction (c : Char) : Direction :=
  if inRuns europeanDigitRuns c then .europeanDigit
  else if inRuns arabicDigitRuns c then .arabicDigit
  else if inRuns neutralRuns c then .neutral
  else if isNonspacing c && !inRuns directedMarkRuns c then .mark
  else if inRuns rightToLeftRuns c then .rightToLeft
  else .leftToRight

/-- Whether a direction makes a label one with characters from right to left. -/
def Direction.isBackward (d : Direction) : Bool := d == .rightToLeft || d == .arabicDigit

/-- The last direction of a label, marks aside. -/
def lastDirection? (ds : List Direction) : Option Direction := ds.reverse.find? (· != .mark)

/-- Whether the directions are those of a label from right to left: digits of one kind, and no
letters from left to right. -/
def isBackwardLabel (ds : List Direction) : Bool :=
  ds.all (· != .leftToRight) && !(ds.contains .europeanDigit && ds.contains .arabicDigit) &&
    (lastDirection? ds).any (fun d => d.isBackward || d == .europeanDigit)

/-- Whether the directions are those of a label from left to right. -/
def isForwardLabel (ds : List Direction) : Bool :=
  ds.all (fun d => !d.isBackward) &&
    (lastDirection? ds).any (fun d => d == .leftToRight || d == .europeanDigit)

/-- Whether a label keeps to the rule. A label without characters from right to left always does. -/
def keepsDirection (label : List Char) : Bool :=
  let ds := label.map direction
  !ds.any Direction.isBackward ||
    match ds.head? with
    | some .rightToLeft => isBackwardLabel ds
    | some .leftToRight => isForwardLabel ds
    | _ => false

end Rebac.Host

/-!
## International host names

A host name is made of labels with dots between them. A label with characters outside ASCII is sent
as a mark and its Punycode; the label itself has to be composed, in lower case and made of letters
of host names.
-/

namespace Rebac.Host

open Text

/-- What a label in Punycode begins with. -/
def asciiMark : List Char := ['x', 'n', '-', '-']

/-- The greatest length of a label. -/
def maxLabel : Nat := 63

/-- The greatest length of a name. -/
def maxName : Nat := 253

/-- Whether hyphens stand within a label only, and not at its third and fourth place. -/
def keepsHyphens (label : List Char) : Bool :=
  label.head? != some '-' && label.getLast? != some '-' && (label.drop 2).take 2 != ['-', '-']

/-- Whether a text is a label. -/
def isLabel (label : List Char) : Bool :=
  !label.isEmpty && keepsHyphens label && !label.head?.any isMark && isAllowed label &&
    isComposed label && keepsDirection label

/-- Whether an ASCII text is a label, or the mark and the Punycode of one. -/
def isAsciiLabel (label : List Char) : Bool :=
  if asciiMark.isPrefixOf label then
    let rest := label.drop asciiMark.length
    -- A hyphen at the end would separate nothing.
    !rest.isEmpty && rest.getLast? != some '-' && (Punycode.decode? rest).any isLabel
  else isLabel label

/-- The ASCII form of a label. -/
def encodeLabel? (label : List Char) : Option (List Char) :=
  -- The ASCII form has no fewer characters than the label.
  if maxLabel < label.length then none
  else if label.all Punycode.isBasic then if isAsciiLabel label then some label else none
  else
    let encoded := asciiMark ++ Punycode.encode label
    if isLabel label && encoded.length ≤ maxLabel then some encoded else none

/-- Whether a character is a dot between labels. -/
def isDot (c : Char) : Bool := ['.', '\u3002', '\uFF0E', '\uFF61'].contains c

/-- The ASCII form of a host name; the name may end with a dot. -/
def encodeName? (host : List Char) : Option (List Char) := do
  let labels := Text.pieces isDot (toLower host)
  let rooted := labels.getLast? == some []
  let encoded ← (if rooted then labels.dropLast else labels).mapM encodeLabel?
  let name := ['.'].intercalate encoded
  if encoded.isEmpty || maxName < name.length then none
  else return name ++ (if rooted then ['.'] else [])

end Rebac.Host
