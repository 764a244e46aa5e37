import Rebac.Schema.Basic
import Rebac.Text

set_option autoImplicit false

/-!
# Expressions and references

The identifiers of permission expressions, and the references of a schema to its own parts.
-/

/-!
## Permission expressions

An expression combines relations and permissions by the operators `and`, `or` and `not` and by
parentheses. Only the identifiers matter for resolving references: the words between blanks and
parentheses that are no operator. An identifier with one dot refers to a member of the entities that
a relation points to.
-/

namespace Rebac.Expression

/-- Blanks and parentheses separate words. -/
def isSeparator (c : Char) : Bool := Text.isBlank c || c == '(' || c == ')'

/-- The operators. -/
def operators : List String := ["and", "or", "not"]

/-- Whether a word is an identifier: not empty and no operator. -/
def isIdentifier (w : List Char) : Bool := !w.isEmpty && !operators.contains (String.ofList w)

/-- The identifiers of an expression, in order. -/
def identifierWords (s : List Char) : List (List Char) :=
  (Text.pieces isSeparator s).filter isIdentifier

/-- The identifiers of an expression as texts. -/
def identifiers (expression : String) : List String :=
  (identifierWords expression.toList).map String.ofList

/-- The parts of an identifier between its dots. -/
def parts (identifier : String) : List String :=
  (Text.pieces (· == '.') identifier.toList).map String.ofList

end Rebac.Expression

/-!
## References of a schema

A schema refers to its own parts by name: relations to entity types, expressions to relations and
permissions. A reference dangles if what it names does not exist. References are checked in the
order of declaration, in each entity the relation targets before the permissions, and the first one
that dangles is reported.
-/

namespace Rebac

/-- A reference that dangles, with the entity and the relation or permission that holds it. -/
inductive Dangling
  /-- A relation target that is no entity. -/
  | target (entity relation : Key) (target : String)
  /-- An identifier that is no relation or permission of its own entity. -/
  | member (entity permission : Key) (identifier : String)
  /-- An identifier with more than one dot. -/
  | malformed (entity permission : Key) (identifier : String)
  /-- A dotted identifier whose first part is no relation. -/
  | relation (entity permission : Key) (relation : String)
  /-- A dotted identifier whose second part is missing from an entity that the relation targets. -/
  | foreign (entity permission : Key) (target member : String)
deriving DecidableEq

namespace Dangling

/-- The entity that holds the reference. -/
def entity : Dangling → Key
  | .target e _ _ | .member e _ _ | .malformed e _ _ | .relation e _ _ | .foreign e _ _ _ => e

/-- The relation or permission that holds the reference. -/
def holder : Dangling → Key
  | .target _ m _ | .member _ m _ | .malformed _ m _ | .relation _ m _ | .foreign _ m _ _ => m

/-- The name that is not resolved. -/
def identifier : Dangling → String
  | .target _ _ i | .member _ _ i | .malformed _ _ i | .relation _ _ i | .foreign _ _ _ i => i

/-- The message of a dangling reference. -/
def message : Dangling → String
  | .target e r t =>
      "Entity \"" ++ t ++ "\" referenced in relation \"" ++ e.display ++ "." ++ r.display ++
        "\" does not exist"
  | .member e p i =>
      holderText e p ++ " references undefined relation or permission \"" ++ i ++ "\""
  | .malformed e p i => holderText e p ++ " references malformed identifier \"" ++ i ++ "\""
  | .relation e p r => holderText e p ++ " references undefined relation \"" ++ r ++ "\""
  | .foreign e p t m =>
      holderText e p ++ " references undefined permission or relation \"" ++ m ++
        "\" on entity \"" ++ t ++ "\""
where
  holderText (e p : Key) : String := "Permission \"" ++ e.display ++ "." ++ p.display ++ "\""

end Dangling

namespace Schema

/-- Checks that every target of a relation is an entity. -/
def checkTargets (s : Schema) (e : Entity) (r : Relation) : Except Dangling Unit :=
  r.targets.forM fun t =>
    if s.entities.contains (.text t) then pure () else throw (.target e.name r.name t)

/-- Checks that an entity type has a member. -/
def checkForeign (s : Schema) (e : Entity) (p : Permission) (member target : String) :
    Except Dangling Unit :=
  match s.entity? (.text target) with
  | some t =>
      if t.hasMember (.text member) then pure () else throw (.foreign e.name p.name target member)
  | none => throw (.foreign e.name p.name target member)

/-- Checks one identifier of a permission. -/
def checkIdentifier (s : Schema) (e : Entity) (p : Permission) (identifier : String) :
    Except Dangling Unit :=
  match Expression.parts identifier with
  | [relation, member] =>
      match e.relations.get? (.text relation) with
      | none => throw (.relation e.name p.name relation)
      -- The member has to exist on every entity that the relation may point to.
      | some r => r.targets.forM (s.checkForeign e p member)
  | _ :: _ :: _ => throw (.malformed e.name p.name identifier)
  | _ =>
      if e.hasMember (.text identifier) then pure ()
      else throw (.member e.name p.name identifier)

/-- Checks the expression of a permission. -/
def checkPermission (s : Schema) (e : Entity) (p : Permission) : Except Dangling Unit :=
  (Expression.identifiers p.expression).forM (s.checkIdentifier e p)

/-- Checks the references of an entity: relations first, then permissions. -/
def checkEntity (s : Schema) (e : Entity) : Except Dangling Unit := do
  e.relations.values.forM (s.checkTargets e)
  e.permissions.values.forM (s.checkPermission e)

/-- Checks every reference of a schema; the first that dangles is the error. -/
def validate (s : Schema) : Except Dangling Unit := s.entities.values.forM s.checkEntity

end Schema

end Rebac
