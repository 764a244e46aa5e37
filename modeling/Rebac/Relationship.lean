import Rebac.Value.Access

set_option autoImplicit false

/-!
# Relationships and filters

Relationship tuples, filters that select them, and the form in which both are sent.
-/

/-!
## Relationship tuples

A relationship says that a subject stands in a relation to an entity. The subject is an instance, or
the set of all instances in some relation to one. On the wire a relationship is a mapping with the
parts `entity`, `relation` and `subject`; a subject without a relation, or with an empty one, is
sent without that part.
-/

namespace Rebac

/-- An entity instance. -/
structure Instance where
  type : Value
  id : Value

/-- A subject, possibly the set of all subjects in a relation to an instance. -/
structure Subject where
  type : Value
  id : Value
  relation : Value := .none

/-- A relationship tuple. -/
structure Relationship where
  entity : Instance
  relation : Value
  subject : Subject

namespace Instance

/-- The wire form of an entity instance. -/
def toValue (e : Instance) : Value := .record [("type", e.type), ("id", e.id)]

/-- The record of an entity instance. -/
def toRecord (e : Instance) : Value := .entityRef e.type e.id

/-- The entity instance of a record. -/
def ofRecord? : Value → Option Instance
  | .entityRef type id => some ⟨type, id⟩
  | _ => none

end Instance

namespace Subject

/-- The wire form of a subject. -/
def toValue (s : Subject) : Value :=
  .record ([("type", s.type), ("id", s.id)] ++
    (if s.relation.truthy then [("relation", s.relation)] else []))

/-- The record of a subject. -/
def toRecord (s : Subject) : Value := .subjectRef s.type s.id s.relation

/-- The subject of a record. -/
def ofRecord? : Value → Option Subject
  | .subjectRef type id relation => some ⟨type, id, relation⟩
  | _ => none

end Subject

namespace Relationship

/-- The wire form of a relationship. -/
def toValue (r : Relationship) : Value :=
  .record [("entity", r.entity.toValue), ("relation", r.relation), ("subject", r.subject.toValue)]

/-- A relationship in one line: `type:id#relation@type:id#relation`. -/
def line (r : Relationship) : String :=
  Value.referenceText r.entity.type.display r.entity.id.display (some r.relation.display) ++ "@" ++
    Value.referenceText r.subject.type.display r.subject.id.display
      (if r.subject.relation.truthy then some r.subject.relation.display else none)

/-- Reads a relationship out of data. The entity and the subject are looked up first, then the parts
of the entity, the relation, and the parts of the subject. -/
def ofData (v : Value) : Except AccessFault Relationship := do
  let entity ← v.item "entity"
  let subject ← v.item "subject"
  let entityRef : Instance := ⟨← entity.item "type", ← entity.item "id"⟩
  let relation ← v.item "relation"
  let subjectRef : Subject :=
    ⟨← subject.item "type", ← subject.item "id", ← subject.find "relation" .none⟩
  return ⟨entityRef, relation, subjectRef⟩

/-- The message for data that is no relationship. -/
def faultMessage (data : Value) (f : AccessFault) : String :=
  "Invalid relationship tuple " ++ data.quoted ++ ": missing " ++ f.message

/-- The record of a relationship. -/
def toRecord (r : Relationship) : Value :=
  .relationship r.entity.toRecord r.relation r.subject.toRecord

/-- The line of a record of a relationship, whose parts may lack what the line shows. -/
def lineOf (record : Value) : Except AccessFault String := do
  let subject ← record.field "subject"
  let subjectType ← subject.field "type"
  let subjectId ← subject.field "id"
  let subjectRelation ← subject.field "relation"
  let entity ← record.field "entity"
  let type ← entity.field "type"
  let id ← entity.field "id"
  let relation ← record.field "relation"
  return Value.referenceText type.display id.display (some relation.display) ++ "@" ++
    Value.referenceText subjectType.display subjectId.display
      (if subjectRelation.truthy then some subjectRelation.display else none)

@[simp] theorem lineOf_toRecord (r : Relationship) : lineOf r.toRecord = .ok r.line := rfl

end Relationship

end Rebac

/-!
## Filters of relationship tuples

A filter selects relationships by the type and the identifiers of the entity, by the relation, and
by the type, the identifiers and the relation of the subject. A part that is absent or empty does
not restrict the selection; the filter without parts selects every relationship of a tenant.
-/

namespace Rebac

/-- Selects entities of a type, and of these the given identifiers only, if there are any. -/
structure InstanceFilter where
  type : Value
  ids : Value := .tuple []

/-- Selects subjects of a type, identifiers and relation. -/
structure SubjectFilter where
  type : Value
  ids : Value := .tuple []
  relation : Value := .none

/-- Selects relationships by their parts. -/
structure Filter where
  entity : Option InstanceFilter := none
  relation : Value := .none
  subject : Option SubjectFilter := none

namespace Filter

/-- The filter that selects every relationship. -/
def all : Filter := {}

/-- The identifiers of a part of a filter, as a tuple. -/
def readIds (part : Value) : Except AccessFault Value := do
  return .tuple (← ((← part.find "ids" .none).orElse (.tuple [])).items)

/-- Reads the entity part of a filter. -/
def readEntity (part : Value) : Except AccessFault (Option InstanceFilter) := do
  -- An empty part is no part, whatever its kind.
  if part.truthy then return some ⟨← part.item "type", ← readIds part⟩
  else return none

/-- Reads the subject part of a filter. -/
def readSubject (part : Value) : Except AccessFault (Option SubjectFilter) := do
  if part.truthy then
    return some ⟨← part.item "type", ← readIds part, ← part.find "relation" .none⟩
  else return none

/-- Reads a filter out of data. -/
def ofData (v : Value) : Except AccessFault Filter := do
  let entity ← v.find "entity" .none
  let subject ← v.find "subject" .none
  let entityFilter ← readEntity entity
  let relation ← v.find "relation" .none
  let subjectFilter ← readSubject subject
  return ⟨entityFilter, relation.orElse .none, subjectFilter⟩

/-- The entity part of a record; nothing, or anything empty, is no part. -/
def recordEntity (part : Value) : Except AccessFault (Option InstanceFilter) := do
  if part.truthy then return some ⟨← part.field "type", ← part.field "ids"⟩
  else return none

/-- The subject part of a record; nothing, or anything empty, is no part. -/
def recordSubject (part : Value) : Except AccessFault (Option SubjectFilter) := do
  if part.truthy then
    return some ⟨← part.field "type", ← part.field "ids", ← part.field "relation"⟩
  else return none

/-- The filter of a record whose parts have the fields of such parts. -/
def ofRecord (record : Value) : Except AccessFault Filter := do
  let entity ← recordEntity (← record.field "entity")
  let relation ← record.field "relation"
  let subject ← recordSubject (← record.field "subject")
  return ⟨entity, relation, subject⟩

/-- The identifiers of a part of a record, as a list. -/
def listIds (part : Value) : Except AccessFault Value := do
  return .list (← (← part.field "ids").items)

/-- The relation of a filter in wire form, if there is one. -/
def wireRelation (relation : Value) : List (String × Value) :=
  if relation.truthy then [("relation", relation)] else []

/-- The entity part of a record in wire form: type and identifiers. -/
def wireEntity (part : Value) : Except AccessFault (List (String × Value)) := do
  if part.truthy then
    let type ← part.field "type"
    let ids ← listIds part
    return [("entity", .record [("type", type), ("ids", ids)])]
  else return []

/-- The subject part of a record in wire form: type, identifiers and, if there is one, the
relation. -/
def wireSubject (part : Value) : Except AccessFault (List (String × Value)) := do
  if part.truthy then
    let type ← part.field "type"
    let ids ← listIds part
    let relation ← part.field "relation"
    return [("subject", .record ([("type", type), ("ids", ids)] ++ wireRelation relation))]
  else return []

/-- The wire form of the parts of a record. A part without the fields it needs, or identifiers that
cannot be listed, make it impossible. -/
def wire (entity relation subject : Value) : Except AccessFault Value := do
  let entityPart ← wireEntity entity
  let subjectPart ← wireSubject subject
  return .record (entityPart ++ wireRelation relation ++ subjectPart)

/-- The record of the entity part. -/
def entityRecord (f : Filter) : Value :=
  match f.entity with
  | some e => .entityFilter e.type e.ids
  | none => .none

/-- The record of the subject part. -/
def subjectRecord (f : Filter) : Value :=
  match f.subject with
  | some s => .subjectFilter s.type s.ids s.relation
  | none => .none

/-- The record of a filter. -/
def toRecord (f : Filter) : Value :=
  .relationshipFilter f.entityRecord f.relation f.subjectRecord

/-- The wire form of a filter. -/
def toValue (f : Filter) : Except AccessFault Value :=
  wire f.entityRecord f.relation f.subjectRecord

/-- A filter is the filter of its record. -/
theorem ofRecord_toRecord (f : Filter) : ofRecord f.toRecord = .ok f := by
  rcases f with ⟨entity, relation, subject⟩
  cases entity <;> cases subject <;> rfl

/-- The message for data that is no filter. -/
def faultMessage (data : Value) (f : AccessFault) : String :=
  "Invalid relationship filter " ++ data.quoted ++ ": " ++ f.quoted

theorem toValue_all : all.toValue = .ok (.map []) := rfl

end Filter

end Rebac

/-!
## Wire forms of records

References, relationships and filters have a wire form; no other value has one. The parts of a
record are brought into wire form when the record is, so a record with an unsuitable part is found
out no earlier.
-/

namespace Rebac

namespace Value

/-- The wire form of a record. -/
def wire : Value → Except AccessFault Value
  | .entityRef type id => pure (Instance.toValue ⟨type, id⟩)
  | .subjectRef type id relation => pure (Subject.toValue ⟨type, id, relation⟩)
  | .relationship entity relation subject => do
      let e ← wire entity
      let s ← wire subject
      return .record [("entity", e), ("relation", relation), ("subject", s)]
  | .relationshipFilter entity relation subject => Filter.wire entity relation subject
  | v => throw (.noField v.kind "to_dict")

end Value

/-- The wire form of the record of a relationship is that of the relationship. -/
@[simp] theorem Relationship.wire_toRecord (r : Relationship) :
    r.toRecord.wire = .ok r.toValue := by
  simp [toRecord, Instance.toRecord, Subject.toRecord, Value.wire, toValue, pure, Except.pure, bind,
    Except.bind]

/-- The wire form of the record of a filter is that of the filter. -/
theorem Filter.wire_toRecord (f : Filter) : f.toRecord.wire = f.toValue := by
  rw [toRecord, Value.wire, toValue]

end Rebac
