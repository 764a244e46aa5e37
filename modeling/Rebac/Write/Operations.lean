import Rebac.Failure
import Rebac.Relationship
import Rebac.Schema.Basic
import Rebac.Text
import Rebac.Value.Choice
import Rebac.Write.Workflow

set_option autoImplicit false

/-!
# Writes

What is written to a tenant: its schema and its relationships. Relationships are also deleted, and
seeding is made of deletions and writes.
-/

/-!
## Writing a schema

A schema is written as text: either the layout of a schema of this library, or a text that the
caller has. A blank text is no schema.
-/

namespace Rebac

/-- The result of writing a schema: the text that was sent, the version that the server gave it, and
how the tenant was found. -/
structure SchemaWritten where
  text : String
  version : Value
  status : TenantResolution

namespace Schema

/-- The text of a schema or of anything given in its place. -/
def sourceText (v : Value) : Except ParameterFault String :=
  match v with
  | .schema s => nonBlank s.compile
  | .text s => nonBlank s
  | _ => throw .noSchema
where
  /-- A text that is not blank. -/
  nonBlank (s : String) : Except ParameterFault String :=
    if Text.allBlank s.toList then throw .noSchema else pure s

end Schema

namespace Target

variable {Req Ans : Type}

/-- Writes a schema to a target. -/
def writeSchema (t : Target Req Ans) (schema : Value) : Dialogue Req Ans SchemaWritten :=
  t.executeWith ((Schema.sourceText schema).mapError Failure.parameter) fun text => do
    let outcome ← t.execute (fun c tenant => c.ask (.writeSchema tenant (.text text)))
    Dialogue.log .info .schemaWriter
      ("Wrote schema to tenant " ++ t.tenant.display ++ " (version " ++
        (outcome.result.orElse (.text "unknown")).display ++ ")")
    return ⟨text, outcome.result.orElse (.text ""), outcome.status⟩

end Target

end Rebac

/-!
## Payloads of relationship writes

A caller gives relationships and filters as records or as data. All data is read before anything is
sent: the first item that is malformed is a fault of the parameter. Records are taken as they are,
and their parts are looked at when they are brought into wire form.
-/

namespace Rebac

namespace Relationship

/-- The record of a relationship that a value stands for. -/
def recordOf (v : Value) : Except Failure Value :=
  match v with
  | .relationship _ _ _ => pure v
  | _ =>
      match ofData v with
      | .ok r => pure r.toRecord
      | .error f => throw (.parameter (.invalidTuple v f))

/-- The records of relationships that the items of a value stand for. -/
def recordsOf (v : Value) : Except Failure (List Value) :=
  match v.items with
  | .ok xs => xs.mapM recordOf
  | .error f => throw (.access f)

@[simp] theorem recordOf_toRecord (r : Relationship) : recordOf r.toRecord = .ok r.toRecord := rfl

end Relationship

namespace Filter

/-- The record of a filter that a value stands for. -/
def recordOf (v : Value) : Except Failure Value :=
  match v with
  | .relationshipFilter _ _ _ => pure v
  | _ =>
      match ofData v with
      | .ok f => pure f.toRecord
      | .error f => throw (.parameter (.invalidFilter v f))

@[simp] theorem recordOf_toRecord (f : Filter) : recordOf f.toRecord = .ok f.toRecord := rfl

end Filter

end Rebac

/-!
## Writing and deleting relationships

Relationships are written in one request, in the order in which they were given. Deleting takes a
filter; the filter without parts deletes every relationship of the tenant. Payloads are read and
brought into wire form in full before the first request.
-/

namespace Rebac

/-- The result of writing relationships. -/
structure RelationshipsWritten where
  success : Bool := true
  count : Nat
  token : Value := .text ""
  status : Option TenantResolution := none
  replaced : Bool := false

/-- The result of deleting relationships. -/
structure RelationshipsDeleted where
  success : Bool := true
  token : Value
  status : TenantResolution

namespace Relationship

/-- The wire form of records of relationships. -/
def payload (records : List Value) : Except Failure Value :=
  match records.mapM Value.wire with
  | .ok tuples => pure (.list tuples)
  | .error f => throw (.access f)

/-- The records of the relationships to write: at least one. -/
def required (tuples : Value) : Except Failure (List Value) :=
  match tuples with
  | .none => throw (.parameter .noTuples)
  | v => do
      match ← recordsOf v with
      | [] => throw (.parameter .noTuples)
      | records => pure records

end Relationship

namespace Filter

/-- The wire form of the filter of a deletion. -/
def required (filter : Value) : Except Failure Value :=
  match filter with
  | .none => throw (.parameter .noFilter)
  | v => do (← recordOf v).wire.mapError Failure.access

end Filter

namespace Target

variable {Req Ans : Type}

/-- Sends the relationships of records to a target. -/
def sendRelationships (t : Target Req Ans) (records : List Value) (schemaVersion : Value) :
    Dialogue Req Ans RelationshipsWritten := do
  -- Records that have no wire form are found out before the first request.
  let tuples ← Dialogue.ofExcept (Relationship.payload records)
  let outcome ← t.execute (fun c tenant =>
    c.ask (.writeRelationships tenant tuples schemaVersion))
  Dialogue.log .info .relationships
    ("Wrote " ++ toString records.length ++ " relationship(s) to tenant " ++ t.tenant.display)
  return {
    count := records.length
    token := outcome.result.orElse (.text "")
    status := some outcome.status }

/-- Writes relationships to a target, for a version of the schema or, without one, for the
latest. -/
def writeRelationships (t : Target Req Ans) (tuples : Value) (schemaVersion : Value := .text "") :
    Dialogue Req Ans RelationshipsWritten :=
  t.executeWith (Relationship.required tuples)
    (fun records => t.sendRelationships records schemaVersion)

/-- Deletes the relationships of a target that a filter selects. -/
def deleteRelationships (t : Target Req Ans) (filter : Value) :
    Dialogue Req Ans RelationshipsDeleted :=
  t.executeWith (Filter.required filter) fun wire => do
    let outcome ← t.execute (fun c tenant => c.ask (.deleteRelationships tenant wire))
    Dialogue.log .info .relationships
      ("Deleted relationships from tenant " ++ t.tenant.display ++ " (filter=" ++
        (wire.orElse (.text "all")).display ++ ")")
    return {
      token := outcome.result.orElse (.text "")
      status := outcome.status }

end Target

end Rebac

/-!
## Seeding a tenant

Seeding writes a list of relationships, in addition to those that are there or in place of them.
Replacing deletes every relationship of the tenant first, and for that the tenant has to exist: it
is never created before the deletion. An empty list leaves the tenant as it is. Seeding is made of
whole deletions and writes, each of which checks its parameters for itself.
-/

namespace Rebac

namespace SeedingMode

/-- The mode that the caller chose. -/
def required (mode : Value) : Except Failure SeedingMode :=
  match ofValue? mode with
  | some m => pure m
  | none => throw (.parameter (.invalidMode mode))

end SeedingMode

/-- What to seed: a mode and records of relationships, of which there may be none. -/
def seedPayload (tuples mode : Value) : Except Failure (SeedingMode × List Value) := do
  let m ← SeedingMode.required mode
  return (m, ← Relationship.recordsOf (tuples.orElse (.tuple [])))

namespace Target

variable {Req Ans : Type}

/-- Deletes every relationship of a tenant that exists. -/
def clear (t : Target Req Ans) : Dialogue Req Ans Unit := do
  Dialogue.log .info .relationships
    ("Replacing all relationships for tenant " ++ t.tenant.display)
  -- A tenant that does not exist holds nothing to delete, so it is a failure here.
  let _ ← { t with create := false }.deleteRelationships (.relationshipFilter .none .none .none)
  return ()

/-- Seeds a target with the relationships of records. -/
def seedRecords (t : Target Req Ans) (mode : SeedingMode) (records : List Value) :
    Dialogue Req Ans RelationshipsWritten :=
  match records with
  | [] => do
      Dialogue.log .info .relationships
        ("No relationships to seed for tenant " ++ t.tenant.display)
      return { count := 0 }
  | records => do
      -- The deletion comes first: relationships written before it would be lost.
      if mode = .replace then t.clear
      let written ← t.writeRelationships (.list records)
      return { written with replaced := mode == .replace }

/-- Seeds a target with relationships. -/
def seedRelationships (t : Target Req Ans) (tuples : Value)
    (mode : Value := .seedingMode .append) : Dialogue Req Ans RelationshipsWritten :=
  t.executeWith (seedPayload tuples mode) fun (m, records) => t.seedRecords m records

/-- Relationships that are added are written, and nothing is replaced. -/
theorem seedRecords_append (t : Target Req Ans) {records : List Value} (h : records ≠ []) :
    t.seedRecords .append records = do
      let written ← t.writeRelationships (.list records)
      return { written with replaced := false } := by
  cases records with
  | nil => exact absurd rfl h
  | cons record records => rfl

/-- Relationships are replaced by a deletion and a write. -/
theorem seedRecords_replace (t : Target Req Ans) {records : List Value} (h : records ≠ []) :
    t.seedRecords .replace records = do
      t.clear
      let written ← t.writeRelationships (.list records)
      return { written with replaced := true } := by
  cases records with
  | nil => exact absurd rfl h
  | cons record records => rfl

end Target

end Rebac
