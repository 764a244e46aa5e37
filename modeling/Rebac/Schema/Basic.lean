import Rebac.Dict
import Rebac.Text

set_option autoImplicit false

/-!
# Schemas

What a schema is, how its permissions are named from outside, and the text that it is deployed as.
-/

/-!
## Schemas

A schema is an authorization model: entity types in order, each with relations to other entity
types, permissions that combine relations by an expression, and attributes of primitive types. A
schema keeps the order of declaration everywhere and the texts of expressions as written.

Schemas are compared by content: the order of entries does not matter.
-/

namespace Rebac

/-- A relation of an entity: the entity types that may stand in it. -/
structure Relation where
  name : Key
  targets : List String
deriving DecidableEq

/-- A permission of an entity, with its expression as written. -/
structure Permission where
  name : Key
  expression : String
deriving DecidableEq

/-- An attribute of an entity. -/
structure Attribute where
  name : Key
  type : String
deriving DecidableEq

/-- An entity type. -/
structure Entity where
  name : Key
  relations : Dict Relation := Dict.empty
  permissions : Dict Permission := Dict.empty
  attributes : Dict Attribute := Dict.empty

/-- An authorization model: the entity types in order of declaration. -/
structure Schema where
  entities : Dict Entity := Dict.empty

namespace Entity

/-- Whether an entity has a relation or a permission under a key. -/
def hasMember (e : Entity) (k : Key) : Bool := e.relations.contains k || e.permissions.contains k

/-- Entities are equal if names and contents are. -/
def sameAs (a b : Entity) : Bool :=
  a.name.same b.name &&
    a.relations.sameAs (fun r s => r.name.same s.name && r.targets == s.targets) b.relations &&
    a.permissions.sameAs (fun p q => p.name.same q.name && p.expression == q.expression)
      b.permissions &&
    a.attributes.sameAs (fun x y => x.name.same y.name && x.type == y.type) b.attributes

/-- What the hash of an entity depends on: its name. -/
def hashView (e : Entity) : Key := e.name.canonical

end Entity

namespace Schema

/-- The entity under a key. -/
def entity? (s : Schema) (k : Key) : Option Entity := s.entities.get? k

/-- Schemas are equal if they hold equal entities under the same keys. -/
def sameAs (a b : Schema) : Bool := a.entities.sameAs Entity.sameAs b.entities

/-- What the hash of a schema depends on: the keys of its entities, in order. -/
def hashView (s : Schema) : List Key := s.entities.keys.map Key.canonical

end Schema

end Rebac

/-!
## Permission keys

A caller names a permission of a schema by one text, the entity and the permission joined by a
colon. Only declared permissions have a key.
-/

namespace Rebac

/-- Why a permission has no key. -/
inductive UnknownPermission
  | entity (entity : String)
  | permission (entity permission : String)
deriving DecidableEq

namespace UnknownPermission

/-- The message for a permission without a key. -/
def message : UnknownPermission → String
  | .entity e => "Unknown entity \"" ++ e ++ "\""
  | .permission e p => "Unknown permission \"" ++ p ++ "\" on entity \"" ++ e ++ "\""

end UnknownPermission

namespace Schema

/-- The key of a permission of an entity. -/
def permissionText (entity permission : Key) : String :=
  entity.display ++ ":" ++ permission.display

/-- The keys of the permissions of one entity, in order. -/
def keysOf (entity : Key) (e : Entity) : List (Key × String) :=
  e.permissions.keys.map (fun p => (p, permissionText entity p))

/-- The keys of all permissions, by entity, in order. -/
def permissionTable (s : Schema) : List (Key × List (Key × String)) :=
  s.entities.entries.map (fun (name, e) => (name, keysOf name e))

/-- The key of a permission, if it is declared. -/
def permissionKey (s : Schema) (entity permission : String) : Except UnknownPermission String :=
  match s.permissionTable.find? (fun row => row.1.same (.text entity)) with
  | none => throw (.entity entity)
  | some row =>
      match row.2.find? (fun cell => cell.1.same (.text permission)) with
      | none => throw (.permission entity permission)
      | some cell => pure cell.2

/-- How a schema shows itself: by the names of its entities. -/
def summary (s : Schema) : String :=
  "SchemaHandle(entities=[" ++ ", ".intercalate (s.entities.keys.map Key.quoted) ++ "])"

end Schema

end Rebac

/-!
## The text of a schema

A schema is deployed as text: a block for each entity, with a header, one indented line for each
attribute, relation and permission, and a closing brace; an empty line stands between two blocks.
-/

namespace Rebac

namespace Entity

/-- Members of an entity are indented by four spaces. -/
def indent : String := "    "

/-- The line that opens the block of an entity. -/
def headerLine (e : Entity) : String := "entity " ++ e.name.display ++ " \x7b"

/-- The line of an attribute. -/
def attributeLine (a : Attribute) : String :=
  indent ++ "attribute " ++ a.name.display ++ " " ++ a.type

/-- The line of a relation, with its targets as alternatives. -/
def relationLine (r : Relation) : String :=
  indent ++ "relation " ++ r.name.display ++ " @" ++ " or ".intercalate r.targets

/-- The line of a permission. -/
def permissionLine (p : Permission) : String :=
  indent ++ "permission " ++ p.name.display ++ " = " ++ p.expression

/-- The lines of the block of an entity. -/
def lines (e : Entity) : List String :=
  e.headerLine :: e.attributes.values.map attributeLine ++ e.relations.values.map relationLine ++
    e.permissions.values.map permissionLine ++ ["\x7d"]

/-- The block of an entity. -/
def block (e : Entity) : String := "\n".intercalate e.lines

end Entity

namespace Schema

/-- The text of a schema, without white space at its end. -/
def compile (s : Schema) : String :=
  String.ofList (Text.trimEnd ("\n\n".intercalate (s.entities.values.map Entity.block)).toList)

end Schema

end Rebac
