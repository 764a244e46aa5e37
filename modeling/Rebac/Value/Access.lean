import Rebac.Value

set_option autoImplicit false

/-!
# Parts of values

Tuples and filters are read out of values by looking up keys and listing items. Either may fail
because the value has not the shape for it, and the faults say how.
-/

namespace Rebac

/-- Why a part of a value cannot be reached. -/
inductive AccessFault
  /-- A mapping has no entry under the key. -/
  | missingKey (key : String)
  /-- The items of the value are numbered, not keyed. -/
  | numbered (kind : String)
  /-- The value has no parts. -/
  | noParts (kind : String)
  /-- The value has no items to list. -/
  | noItems (kind : String)
  /-- The value has no field or method of that name. -/
  | noField (kind field : String)
deriving DecidableEq

namespace AccessFault

/-- The class of a fault. -/
def className : AccessFault → String
  | .missingKey _ => "KeyError"
  | .numbered _ | .noParts _ | .noItems _ => "TypeError"
  | .noField _ _ => "AttributeError"

/-- What a fault says, before a missing key is quoted. -/
def argument : AccessFault → String
  | .missingKey k => k
  | .numbered kind =>
      if kind == "str" then "string indices must be integers, not 'str'"
      else (if kind == "bytes" then "byte" else kind) ++
        " indices must be integers or slices, not str"
  | .noParts kind => "'" ++ kind ++ "' object is not subscriptable"
  | .noItems kind => "'" ++ kind ++ "' object is not iterable"
  | .noField kind a => "'" ++ kind ++ "' object has no attribute '" ++ a ++ "'"

/-- What a fault says; a missing key is quoted. -/
def message (f : AccessFault) : String :=
  match f with
  | .missingKey k => Text.quote k
  | _ => f.argument

/-- A fault with its class. -/
def quoted (f : AccessFault) : String := f.className ++ "(" ++ Text.quote f.argument ++ ")"

end AccessFault

namespace Value

/-- The name of the kind of a value. -/
def kind : Value → String
  | .none => "NoneType"
  | .bool _ => "bool"
  | .int _ => "int"
  | .float _ => "float"
  | .text _ => "str"
  | .bytes _ => "bytes"
  | .list _ => "list"
  | .tuple _ => "tuple"
  | .map _ => "dict"
  | .set _ => "set"
  | .attributeType _ => "AttributeType"
  | .seedingMode _ => "SeedingMode"
  | .checkResult _ => "CheckResult"
  | .schema _ => "SchemaHandle"
  | .handle kind _ => kind
  | .entityDef .. => RecordKind.entityDef.name
  | .relationDef _ => RecordKind.relationDef.name
  | .permissionDef _ => RecordKind.permissionDef.name
  | .attributeDef _ => RecordKind.attributeDef.name
  | .entityRef .. => RecordKind.entityRef.name
  | .subjectRef .. => RecordKind.subjectRef.name
  | .relationship .. => RecordKind.relationship.name
  | .entityFilter .. => RecordKind.entityFilter.name
  | .subjectFilter .. => RecordKind.subjectFilter.name
  | .relationshipFilter .. => RecordKind.relationshipFilter.name

/-- The part of a value under a key. -/
def item (v : Value) (key : String) : Except AccessFault Value :=
  match v with
  | .map es =>
      match Entries.get? es (.text key) with
      | some w => pure w
      | Option.none => throw (.missingKey key)
  | .text _ | .bytes _ | .list _ | .tuple _ => throw (.numbered v.kind)
  | _ => throw (.noParts v.kind)

/-- The part of a mapping under a key, or another value if there is no such entry. -/
def find (v : Value) (key : String) (default : Value) : Except AccessFault Value :=
  match v with
  | .map es => pure ((Entries.get? es (.text key)).getD default)
  | _ => throw (.noField v.kind "get")

/-- The field of a record. -/
def field (v : Value) (name : String) : Except AccessFault Value :=
  match v.fields? with
  | some (kind, fields) =>
      match (kind.fieldNames.zip fields).find? (fun f => f.1 == name) with
      | some f => pure f.2
      | Option.none => throw (.noField v.kind name)
  | Option.none => throw (.noField v.kind name)

/-- The items of a value: of a text its characters, of a mapping its keys. -/
def items (v : Value) : Except AccessFault (List Value) :=
  match v with
  | .text s => pure (s.toList.map (fun c => .text (String.singleton c)))
  | .bytes b => pure (b.map (fun x => .int x.toNat))
  | .list xs | .tuple xs | .set xs => pure xs
  | .map es => pure (es.map (fun e => ofKey e.1))
  | _ => throw (.noItems v.kind)

theorem item_of_get? {es : List (Key × Value)} {key : String} {w : Value}
    (h : Entries.get? es (.text key) = some w) : (Value.map es).item key = .ok w := by
  simp [item, h, pure, Except.pure]

end Value

end Rebac
