import Rebac.Json
import Rebac.Number.Numeral
import Rebac.Value.Access

set_option autoImplicit false

/-!
# Values as JSON

The data of an answer as a value, and a value as the data of a request. Every JSON value is a value;
a value is sent only if it is plain data: no bytes, sets, records or infinities, and no integer with
too many digits.
-/

namespace Rebac

/-- Why a value cannot be sent. -/
inductive EncodeFault
  /-- A value that is no plain data. -/
  | unsupported (kind : String)
  /-- A key that cannot name a field. -/
  | unsupportedKey (kind : String)
  /-- An infinity or no number. -/
  | outOfRange
  /-- An integer with too many digits. -/
  | tooLong
deriving DecidableEq

namespace EncodeFault

/-- The message of a fault. -/
def message : EncodeFault → String
  | .unsupported kind => "Object of type " ++ kind ++ " is not JSON serializable"
  | .unsupportedKey kind => "keys must be str, int, float, bool or None, not " ++ kind
  | .outOfRange => "Out of range float values are not JSON compliant"
  | .tooLong => Numeral.unwritableMessage

end EncodeFault

namespace Value

mutual

/-- The value of some data. -/
def ofJson : Json → Value
  | .null => .none
  | .bool b => .bool b
  | .int i => .int i
  | .float x => .float x
  | .text s => .text s
  | .array items => .list (ofJsonItems items)
  | .object fields => .map (ofJsonFields fields)

/-- The values of items. -/
def ofJsonItems : List Json → List Value
  | [] => []
  | v :: rest => ofJson v :: ofJsonItems rest

/-- The entries of fields. -/
def ofJsonFields : List (String × Json) → List (Key × Value)
  | [] => []
  | (k, v) :: rest => (.text k, ofJson v) :: ofJsonFields rest

end

/-- The name of the field for a key. -/
def fieldName : Key → Except EncodeFault String
  | .atom .none => pure "null"
  | .atom (.bool b) => pure (if b then "true" else "false")
  | .atom (.int i) => if Numeral.isTooLong i then throw .tooLong else pure (toString i)
  | .atom (.float x) => if x.isFinite then pure x.text else throw .outOfRange
  | .text s => pure s
  | k => throw (.unsupportedKey (ofKey k).kind)

mutual

/-- The data of a value. -/
def toJson : Value → Except EncodeFault Json
  | .none => pure .null
  | .bool b => pure (.bool b)
  | .int i => if Numeral.isTooLong i then throw .tooLong else pure (.int i)
  | .float x => if x.isFinite then pure (.float x) else throw .outOfRange
  | .text s => pure (.text s)
  | .list xs => do return .array (← toJsonItems xs)
  | .tuple xs => do return .array (← toJsonItems xs)
  | .map es => do return Json.ofFields (← toJsonFields es)
  | v => throw (.unsupported v.kind)

/-- The data of items. -/
def toJsonItems : List Value → Except EncodeFault (List Json)
  | [] => pure []
  | v :: rest => do
      let x ← toJson v
      return x :: (← toJsonItems rest)

/-- The fields of entries. -/
def toJsonFields : List (Key × Value) → Except EncodeFault (List (String × Json))
  | [] => pure []
  | (k, v) :: rest => do
      let name ← fieldName k
      let x ← toJson v
      return (name, x) :: (← toJsonFields rest)

end

@[simp] theorem toJson_text (s : String) : (Value.text s).toJson = .ok (.text s) := by
  rw [toJson]; rfl

end Value

end Rebac
