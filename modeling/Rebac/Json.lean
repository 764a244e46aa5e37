import Rebac.Number.Binary64
import Rebac.Text.Quoted

set_option autoImplicit false

/-!
# JSON

Data as requests and answers carry it, and the text of such data.
-/

/-!
## JSON

Data as requests and answers carry it. Integers have any size and are told apart from numbers with a
fraction or an exponent; the fields of an object stand in order, no name twice.
-/

namespace Rebac

/-- A JSON value. -/
inductive Json
  | null
  | bool (b : Bool)
  | int (i : Int)
  | float (x : Binary64)
  | text (s : String)
  | array (items : List Json)
  | object (fields : List (String × Json))

namespace Json

instance : Inhabited Json := ⟨.null⟩

/-- Puts a field into an object; a field of that name is replaced in its place. -/
def putField (name : String) (v : Json) : List (String × Json) → List (String × Json)
  | [] => [(name, v)]
  | f :: rest => if f.1 = name then (name, v) :: rest else f :: putField name v rest

/-- The object with the given fields, a later one winning over an earlier one of the same name. -/
def ofFields (fields : List (String × Json)) : Json :=
  .object (fields.foldl (fun acc f => putField f.1 f.2 acc) [])

/-- The field of an object. -/
def field? (v : Json) (name : String) : Option Json :=
  match v with
  | .object fields => (fields.find? (fun f => f.1 == name)).map (·.2)
  | _ => none

theorem map_fst_putField (name : String) (v : Json) (fields : List (String × Json)) :
    (putField name v fields).map (·.1) =
      if name ∈ fields.map (·.1) then fields.map (·.1) else fields.map (·.1) ++ [name] := by
  induction fields with
  | nil => simp [putField]
  | cons f rest ih =>
      by_cases h : f.1 = name
      · simp [putField, h]
      · have h' : ¬ name = f.1 := fun c => h c.symm
        simp only [putField, if_neg h, List.map_cons, List.mem_cons, h', false_or, ih]
        split
        · rfl
        · rfl

end Json

end Rebac

/-!
## Writing JSON

The compact text of a JSON value. Characters outside ASCII stand for themselves.
-/

namespace Rebac.Json

/-- One character inside a quoted text. -/
def escapeChar (c : Char) : List Char :=
  if c = '\x22' then ['\\', '\x22']
  else if c = '\\' then ['\\', '\\']
  else if c = '\n' then ['\\', 'n']
  else if c = '\r' then ['\\', 'r']
  else if c = '\t' then ['\\', 't']
  else if c.toNat < 0x20 || c.toNat = 0x7F then '\\' :: 'u' :: Text.hexDigits 4 c.toNat
  else [c]

/-- A text in double quotes. -/
def quoteText (s : String) : String :=
  "\"" ++ String.ofList (s.toList.flatMap escapeChar) ++ "\""

/-- The text of a number, with the names of the infinities and of no number. -/
def floatText : Binary64 → String
  | .nan => "NaN"
  | .infinite negative => if negative then "-Infinity" else "Infinity"
  | x => x.text

mutual

/-- The text of a value. -/
def render : Json → String
  | .null => "null"
  | .bool b => if b then "true" else "false"
  | .int i => toString i
  | .float x => floatText x
  | .text s => quoteText s
  | .array items => "[" ++ ",".intercalate (renderItems items) ++ "]"
  | .object fields => "\x7b" ++ ",".intercalate (renderFields fields) ++ "\x7d"

/-- The texts of items. -/
def renderItems : List Json → List String
  | [] => []
  | v :: rest => render v :: renderItems rest

/-- The texts of fields. -/
def renderFields : List (String × Json) → List String
  | [] => []
  | (k, v) :: rest => (quoteText k ++ ":" ++ render v) :: renderFields rest

end

end Rebac.Json
