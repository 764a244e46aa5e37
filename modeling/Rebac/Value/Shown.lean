import Rebac.Number.Numeral
import Rebac.Value.Access

set_option autoImplicit false

/-!
# Values without a text

Messages show values, and some values have no text: an integer with too many digits is not written,
data within too much other data is not followed, and the line of a relationship needs parts that may
be missing. `Value.quoted` and `Value.display` are the texts of values that have one. The checks
here go through a value in the order in which its text is made and end at the first part that cannot
be shown.
-/

namespace Rebac

/-- Why a value has no text. -/
inductive TextFault
  /-- An integer has too many digits. -/
  | tooLong
  /-- A value is within too many others. -/
  | tooDeep
  /-- A relationship lacks a part that its line shows. -/
  | noPart (cause : AccessFault)
deriving DecidableEq

namespace TextFault

/-- The class of a fault. -/
def className : TextFault → String
  | .tooLong => "ValueError"
  | .tooDeep => "RecursionError"
  | .noPart cause => cause.className

/-- What a fault says. -/
def message : TextFault → String
  | .tooLong => Numeral.unwritableMessage
  | .tooDeep => "maximum recursion depth exceeded while getting the repr of an object"
  | .noPart cause => cause.message

end TextFault

namespace Value

/-- How many levels the text of a value may have. The calls that are under way count, too, which
leaves a little less than a thousand. -/
def maxLevels : Nat := 970

/-- The levels that a value takes up. A set is listed before it is shown, and a record and a schema
are asked for their text by calls of their own. -/
def levels : Value → Nat
  | .set (_ :: _) => 2
  | .schema _ => 3
  | v => if v.fields?.isSome then 3 else 1

/-- The values that the text of a value shows inside, in order. -/
def shownParts : Value → List Value
  | .list xs | .tuple xs | .set xs => xs
  | .map es => es.flatMap fun e => [ofKey e.1, e.2]
  | .schema s => s.entities.keys.map ofKey
  | v => (v.fields?.map (·.2)).getD []

/-- Whether a value is an integer with too many digits. -/
def isTooLong : Value → Bool
  | .int i => Numeral.isTooLong i
  | _ => false

theorem levels_pos (v : Value) : 0 < v.levels := by
  unfold levels
  split
  · decide
  · decide
  · split
    · decide
    · decide

/-- Checks that a value has a text inside a larger text, with `room` levels left for it. -/
def checkQuoted (room : Nat) (v : Value) : Except TextFault Unit :=
  if room < v.levels then throw .tooDeep
  else if v.isTooLong then throw .tooLong
  else v.shownParts.forM fun w => checkQuoted (room - v.levels) w
termination_by room
decreasing_by
  have := v.levels_pos
  omega

/-- Checks that a value has a text on its own, with `room` levels left for it. The line of a
relationship begins with its entity, but the subject is shown first. -/
def checkText : Nat → Value → Except TextFault Unit
  | room + 2, .relationship entity relation subject => do
      let part (v : Value) (name : String) : Except TextFault Value :=
        (v.field name).mapError TextFault.noPart
      checkText room (← part subject "type")
      checkText room (← part subject "id")
      let subjectRelation ← part subject "relation"
      if subjectRelation.truthy then checkText room subjectRelation
      checkText room (← part entity "type")
      checkText room (← part entity "id")
      checkText room relation
  | room, v => checkQuoted room v

/-- Checks that a message can show a value inside a larger text. -/
def checkShownQuoted (v : Value) : Except TextFault Unit := v.checkQuoted maxLevels

/-- Checks that a message can show a value on its own. -/
def checkShown (v : Value) : Except TextFault Unit := v.checkText maxLevels

end Value

/-- Checks that a message can show a key on its own. -/
def Key.checkShown (k : Key) : Except TextFault Unit := (Value.ofKey k).checkShown

end Rebac
