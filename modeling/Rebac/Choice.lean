import Rebac.Text.Case

set_option autoImplicit false

/-!
# Choices

What declarations, settings and answers choose from by name: types of attributes, results of checks,
modes of seeding, and levels and formats of the log.
-/

/-!
## Attribute types

The attributes of an entity are of a primitive type, or lists of one.
-/

namespace Rebac

/-- The primitive types of attributes. -/
inductive AttributeType
  | boolean
  | string
  | integer
  | double
  | booleanArray
  | stringArray
  | integerArray
  | doubleArray
deriving DecidableEq, Inhabited

namespace AttributeType

/-- Every attribute type, in the order in which messages list them. -/
def all : List AttributeType :=
  [.boolean, .string, .integer, .double, .booleanArray, .stringArray, .integerArray, .doubleArray]

/-- How a type is written in a schema. -/
def text : AttributeType → String
  | .boolean => "boolean"
  | .string => "string"
  | .integer => "integer"
  | .double => "double"
  | .booleanArray => "boolean[]"
  | .stringArray => "string[]"
  | .integerArray => "integer[]"
  | .doubleArray => "double[]"

/-- The name of a type. -/
def name : AttributeType → String
  | .boolean => "BOOLEAN"
  | .string => "STRING"
  | .integer => "INTEGER"
  | .double => "DOUBLE"
  | .booleanArray => "BOOLEAN_ARRAY"
  | .stringArray => "STRING_ARRAY"
  | .integerArray => "INTEGER_ARRAY"
  | .doubleArray => "DOUBLE_ARRAY"

/-- The type that a text denotes. -/
def ofText? (s : String) : Option AttributeType := all.find? (fun t => t.text == s)

theorem mem_all (t : AttributeType) : t ∈ all := by cases t <;> decide

theorem ofText?_text (t : AttributeType) : ofText? t.text = some t := by cases t <;> decide

end AttributeType

end Rebac

/-!
## Results of permission checks

A server answers a permission check with a name or with a number.
-/

namespace Rebac

/-- The result of a permission check. -/
inductive CheckResult
  | unspecified
  | allowed
  | denied
deriving DecidableEq, Inhabited

namespace CheckResult

/-- Every result, by number. -/
def all : List CheckResult := [.unspecified, .allowed, .denied]

/-- The name of a result. -/
def name : CheckResult → String
  | .unspecified => "UNSPECIFIED"
  | .allowed => "ALLOWED"
  | .denied => "DENIED"

/-- The number of a result. -/
def number : CheckResult → Int
  | .unspecified => 0
  | .allowed => 1
  | .denied => 2

/-- The result with a name. -/
def ofName? (s : String) : Option CheckResult := all.find? (fun r => r.name == s)

/-- The result with a number. -/
def ofNumber? (i : Int) : Option CheckResult := all.find? (fun r => r.number == i)

theorem ofName?_name (r : CheckResult) : ofName? r.name = some r := by cases r <;> decide

theorem ofNumber?_number (r : CheckResult) : ofNumber? r.number = some r := by cases r <;> decide

end CheckResult

end Rebac

/-!
## Seeding modes

How seeding a tenant treats the relationships that are already there.
-/

namespace Rebac

/-- Seeding adds to the existing relationships or replaces them. -/
inductive SeedingMode
  | append
  | replace
deriving DecidableEq, Inhabited

namespace SeedingMode

/-- Every mode, in the order in which messages list them. -/
def all : List SeedingMode := [.append, .replace]

/-- The text that denotes a mode. -/
def text : SeedingMode → String
  | .append => "append"
  | .replace => "replace"

/-- The name of a mode. -/
def name : SeedingMode → String
  | .append => "APPEND"
  | .replace => "REPLACE"

/-- The mode that a text denotes. -/
def ofText? (s : String) : Option SeedingMode := all.find? (fun m => m.text == s)

/-- The texts of all modes, for messages. -/
def choices : String := ", ".intercalate (all.map text)

theorem ofText?_text (m : SeedingMode) : ofText? m.text = some m := by cases m <;> decide

end SeedingMode

end Rebac

/-!
## Log levels

Which records are written to the log: those of a level at least as high as a chosen one. Levels are
named in any case, and two of them have two names.
-/

namespace Rebac

/-- The levels of the log. -/
inductive LogLevel
  | unset
  | debug
  | info
  | warning
  | error
  | critical
deriving DecidableEq, Inhabited

namespace LogLevel

/-- The number of a level. -/
def number : LogLevel → Nat
  | .unset => 0
  | .debug => 10
  | .info => 20
  | .warning => 30
  | .error => 40
  | .critical => 50

/-- The names of levels in upper case. -/
def names : List (String × LogLevel) :=
  [("CRITICAL", .critical), ("FATAL", .critical), ("ERROR", .error), ("WARN", .warning),
    ("WARNING", .warning), ("INFO", .info), ("DEBUG", .debug), ("NOTSET", .unset)]

/-- The level with a name in any case. -/
def ofName? (s : String) : Option LogLevel :=
  let upper := String.ofList (Text.toUpper s.toList)
  (names.find? (fun n => n.1 == upper)).map (·.2)

end LogLevel

end Rebac

/-!
## Log formats

How records of the log are written: as plain text or as JSON.
-/

namespace Rebac

/-- The formats of the log. -/
inductive LogFormat
  | text
  | json
deriving DecidableEq, Inhabited

namespace LogFormat

/-- Every format, in the order in which messages list them. -/
def all : List LogFormat := [.text, .json]

/-- The text that denotes a format. -/
def name : LogFormat → String
  | .text => "text"
  | .json => "json"

/-- The format that a text denotes. -/
def ofName? (s : String) : Option LogFormat := all.find? (fun f => f.name == s)

/-- The texts of all formats, for messages. -/
def choices : String := ", ".intercalate (all.map name)

theorem ofName?_name (f : LogFormat) : ofName? f.name = some f := by cases f <;> decide

end LogFormat

end Rebac
