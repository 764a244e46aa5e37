import Rebac.Schema.Reference
import Rebac.Text.Similar
import Rebac.Value
import Rebac.Value.Mapping

set_option autoImplicit false

/-!
# Declarations

How a schema is made of what a caller declares, and the plain data that a schema is exported as.
-/

/-!
## Declarations of a schema

A caller declares a schema by a mapping from names to entities, and an entity by up to three
sections: relations, permissions and attributes. Each part has several spellings, a record of this
library or plain data. Reading a declaration yields the schema it denotes or the first malformed
part: entities in order, and in each entity the unknown keys, the sections, the relations, the
permissions and the attributes.

Reading does not resolve references; see `Rebac.Schema.Reference`.
-/

namespace Rebac

/-- Why a declaration is malformed. -/
inductive Malformed
  /-- The declaration as a whole is no mapping. -/
  | noMapping
  /-- An entity has a key that is no section; a section with a similar name is suggested. -/
  | unknownKey (entity key : Key) (suggestion : Option String)
  /-- An entity is neither a record nor a mapping. -/
  | noObject (entity : Key)
  /-- A section is no mapping. -/
  | sectionShape (sectionName : String) (entity : Key)
  /-- A relation has no targets, or one that is no entity name. -/
  | noTargets (entity relation : Key)
  /-- A permission has no expression. -/
  | noExpression (entity permission : Key)
  /-- An attribute has an unknown type. -/
  | invalidType (entity attr : Key) (type : Value)

namespace Malformed

/-- The entity that is malformed, unless it is the declaration as a whole. -/
def entity? : Malformed → Option Key
  | .noMapping => none
  | .unknownKey e _ _ | .noObject e | .sectionShape _ e | .noTargets e _ | .noExpression e _
  | .invalidType e _ _ => some e

/-- The message of a malformed declaration. -/
def message : Malformed → String
  | .noMapping => "Schema entities must be a mapping of entity name to definition"
  | .unknownKey e k suggestion =>
      "Unknown key \"" ++ k.display ++ "\" in definition for entity \"" ++ e.display ++ "\"" ++
        (match suggestion with
          | some s => ". Did you mean: [" ++ Text.quote s ++ "]?"
          | none => "")
  | .noObject e => "Entity definition for \"" ++ e.display ++ "\" must be an object"
  | .sectionShape s e =>
      "Section \"" ++ s ++ "\" of entity \"" ++ e.display ++ "\" must be an object"
  | .noTargets e r =>
      "Relation \"" ++ e.display ++ "." ++ r.display ++
        "\" must declare one or more target entity types"
  | .noExpression e p =>
      "Permission \"" ++ e.display ++ "." ++ p.display ++ "\" must be a non-empty expression string"
  | .invalidType e a t =>
      "Attribute \"" ++ e.display ++ "." ++ a.display ++ "\" has invalid type \"" ++ t.display ++
        "\". Valid: " ++ ", ".intercalate (AttributeType.all.map AttributeType.text)

end Malformed

/-- Why a declaration yields no schema: a part is malformed, or the targets of a relation are given
as a value without items. -/
inductive BuildFault
  | malformed (cause : Malformed)
  | access (cause : AccessFault)

namespace Declaration

/-- Declares an entity by its sections; a section that is not given is empty. -/
def entity (relations permissions attributes : Value) : Except MappingFault Value := do
  let part (v : Value) : Except MappingFault Value := do
    return .map (← (v.orElse (.map [])).toEntries)
  return .entityDef (← part relations) (← part permissions) (← part attributes)

/-- Declares a relation to one or more entity types. -/
def relation (targets : List Value) : Value := .relationDef (.tuple targets)

/-- Declares a permission by an expression. -/
def permission (expression : Value) : Value := .permissionDef expression

/-- Declares an attribute by a type or the text of one. -/
def attributeOf : Value → Value
  | .attributeType t => .attributeDef (.text t.text)
  | type => .attributeDef type

/-- Declares several relations to one entity type. -/
def relationsOf (target : Value) (names : List Key) : Value :=
  .map (Entries.dedupe (names.map (fun n => (n, relation [target]))))

/-- The sections of an entity, in the order in which they are read. -/
def sectionNames : List String := ["relations", "permissions", "attributes"]

/-- Whether a key names a section. -/
def isSection (k : Key) : Bool := sectionNames.any (fun s => k == .text s)

/-- The section with a name similar to a key. -/
def suggestion? (k : Key) : Option String :=
  (Text.closest? k.display.toList (sectionNames.map String.toList)).map String.ofList

/-- Either a section or an empty mapping in its place. -/
def sectionOf (es : List (Key × Value)) (name : String) : Value :=
  ((Entries.get? es (.text name)).getD .none).orElse (.map [])

/-- The sections of an entity declaration. -/
def sections (name : Key) : Value → Except BuildFault (List (String × Value))
  -- A record has the three sections and no other key.
  | .entityDef r p a => pure [("relations", r), ("permissions", p), ("attributes", a)]
  | .map es =>
      match es.find? (fun e => !isSection e.1) with
      | some e => throw (.malformed (.unknownKey name e.1 (suggestion? e.1)))
      | none => pure (sectionNames.map (fun s => (s, sectionOf es s)))
  | _ => throw (.malformed (.noObject name))

/-- The entries of a section. -/
def sectionEntries (name : Key) (s : String × Value) :
    Except BuildFault (List (Key × Value)) :=
  match s.2 with
  | .map es => pure es
  | _ => throw (.malformed (.sectionShape s.1 name))

/-- The values that the declaration of a relation gives as targets. -/
def targetValues (entity rel : Key) : Value → Except BuildFault Value
  | .relationDef targets => pure targets
  | .text s => pure (.tuple [.text s])
  | .map es =>
      match (Entries.get? es (.text "targets")).getD (.tuple []) with
      | .text s => pure (.tuple [.text s])
      | targets => pure targets
  | .list xs => pure (.list xs)
  | .tuple xs => pure (.tuple xs)
  | .bytes b => pure (.bytes b)
  | _ => throw (.malformed (.noTargets entity rel))

/-- The name of an entity type: a text that is not empty. -/
def entityName? : Value → Option String
  | .text s => if s.isEmpty then none else some s
  | _ => none

/-- The targets of a relation. -/
def targets (entity rel : Key) (decl : Value) : Except BuildFault (List String) := do
  let values ← targetValues entity rel decl
  match values.items with
  | .error f => throw (.access f)
  | .ok items =>
      match items.mapM entityName? with
      -- One item that is no name makes the whole list malformed.
      | some (t :: ts) => pure (t :: ts)
      | _ => throw (.malformed (.noTargets entity rel))

/-- The relation that a declaration denotes. -/
def readRelation (entity rel : Key) (decl : Value) : Except BuildFault Relation := do
  return { name := rel, targets := ← targets entity rel decl }

/-- The expression of a permission: a text that is not blank. -/
def readPermission (entity perm : Key) (decl : Value) : Except BuildFault Permission :=
  let expression := match decl with | .permissionDef e => e | v => v
  match expression with
  | .text s =>
      if Text.allBlank s.toList then throw (.malformed (.noExpression entity perm))
      else pure { name := perm, expression := s }
  | _ => throw (.malformed (.noExpression entity perm))

/-- The attribute type that a value denotes. -/
def attributeType? : Value → Option AttributeType
  | .attributeType t => some t
  | .text s => AttributeType.ofText? s
  | _ => none

/-- The attribute that a declaration denotes. -/
def readAttribute (entity attr : Key) (decl : Value) : Except BuildFault Attribute :=
  let type := match decl with | .attributeDef t => t | v => v
  match attributeType? type with
  | some t => pure { name := attr, type := t.text }
  | none => throw (.malformed (.invalidType entity attr type))

/-- Reads every entry of a section. -/
def readEntries {α : Type} (read : Key → Value → Except BuildFault α) (es : List (Key × Value)) :
    Except BuildFault (Dict α) := do
  return Dict.ofEntries (← es.mapM (fun e => do return (e.1, ← read e.1 e.2)))

/-- The entity that a declaration denotes. -/
def readEntity (name : Key) (decl : Value) : Except BuildFault Entity := do
  let parts ← (← sections name decl).mapM (sectionEntries name)
  let part (i : Nat) := parts.getD i []
  return {
    name := name
    relations := ← readEntries (readRelation name) (part 0)
    permissions := ← readEntries (readPermission name) (part 1)
    attributes := ← readEntries (readAttribute name) (part 2) }

end Declaration

namespace Schema

/-- The schema that declarations of entities denote, with references unresolved. -/
def build (declarations : List (Key × Value)) : Except BuildFault Schema := do
  return { entities := ← Declaration.readEntries Declaration.readEntity declarations }

end Schema

/-- Why a schema cannot be defined. -/
inductive DefineFault
  | build (cause : BuildFault)
  | dangling (cause : Dangling)

namespace Schema

/-- Builds a schema and resolves its references. -/
def define (declarations : Value) : Except DefineFault Schema :=
  match declarations with
  | .map es =>
      match build es with
      | .error f => throw (.build f)
      | .ok s =>
          match s.validate with
          | .error d => throw (.dangling d)
          | .ok _ => pure s
  | _ => throw (.build (.malformed .noMapping))

end Schema

/-- The attribute type with a given text, or a message that there is none. -/
def AttributeType.ofValue (v : Value) : Except String AttributeType :=
  match v with
  | .text s =>
      match AttributeType.ofText? s with
      | some t => pure t
      | none => throw ("Invalid attribute type: " ++ v.display)
  | _ => throw ("Invalid attribute type: " ++ v.display)

end Rebac

/-!
## Schemas as data

The plain data of a schema: a list of its entities, each with its name and its sections. The members
of a section are keyed by their names.
-/

namespace Rebac

namespace Entity

/-- The mapping from the names of members to their data. -/
def sectionValue {α : Type} (name : α → Key) (value : α → Value) (d : Dict α) : Value :=
  .map (Entries.dedupe (d.values.map (fun x => (name x, value x))))

/-- The relations of an entity as data. -/
def relationsValue (e : Entity) : Value :=
  sectionValue Relation.name (fun r => .list (r.targets.map Value.text)) e.relations

/-- The permissions of an entity as data. -/
def permissionsValue (e : Entity) : Value :=
  sectionValue Permission.name (fun p => .text p.expression) e.permissions

/-- The attributes of an entity as data. -/
def attributesValue (e : Entity) : Value :=
  sectionValue Attribute.name (fun a => .text a.type) e.attributes

/-- An entity as data. -/
def toValue (e : Entity) : Value :=
  .record [("name", .ofKey e.name), ("relations", e.relationsValue),
    ("permissions", e.permissionsValue), ("attributes", e.attributesValue)]

end Entity

namespace Schema

/-- A schema as data. -/
def toValue (s : Schema) : Value :=
  .record [("entities", .list (s.entities.values.map Entity.toValue))]

end Schema

end Rebac
