import Rebac.Client.Call
import Rebac.Relationship
import Rebac.Value.Mapping

set_option autoImplicit false

/-!
# Checking a permission

The server decides whether a subject has a permission on an entity. Only an answer that denotes
`allowed` grants it; an answer that denotes no result is a failure.
-/

namespace Rebac

/-- The depth to which a server follows relations, unless the caller sets another. -/
def defaultCheckDepth : Value := .int 20

/-- A question to the server: whether a subject has a permission on an entity. -/
structure PermissionQuery where
  entity : Value
  permission : Value
  subject : Value
  metadata : Value := .none
  context : Value := .none

/-- A question in wire form. -/
structure CheckRequest where
  metadata : Value
  entity : Value
  permission : Value
  subject : Value
  context : Option Value

/-- The body of a check request. -/
def CheckRequest.toValue (r : CheckRequest) : Value :=
  .record ([("metadata", r.metadata), ("entity", r.entity), ("permission", r.permission),
    ("subject", r.subject)] ++ r.context.toList.map (fun c => ("context", c)))

namespace PermissionQuery

/-- A value as a mapping. -/
def mapping (v : Value) : Except Failure Value :=
  match v.toEntries with
  | .ok es => pure (.map es)
  | .error f => throw (.mapping f)

/-- The metadata of a question: the depth, and what the caller adds or sets differently. -/
def metadataOf (v : Value) : Except Failure Value :=
  match v.orElse (.map []) with
  | .map es =>
      pure (.map (es.foldl (fun acc e => Entries.put e.1 e.2 acc)
        [(.text "depth", defaultCheckDepth)]))
  | w => throw (.mapping (.noItems w.kind))

/-- The entity of a question in wire form. -/
def entityOf (v : Value) : Except Failure Value :=
  match Instance.ofRecord? v with
  | some e => pure e.toValue
  | none => mapping v

/-- The subject of a question in wire form. -/
def subjectOf (v : Value) : Except Failure Value :=
  match Subject.ofRecord? v with
  | some s => pure s.toValue
  | none => mapping v

/-- A question in wire form; an empty context is left out. -/
def toRequest (q : PermissionQuery) : Except Failure CheckRequest := do
  let metadata ← metadataOf q.metadata
  let entity ← entityOf q.entity
  let subject ← subjectOf q.subject
  let context ← if q.context.truthy then some <$> mapping q.context else pure none
  return ⟨metadata, entity, q.permission, subject, context⟩

end PermissionQuery

/-- The result in the data of an answer; an answer that says nothing is unspecified. -/
def CheckResult.ofAnswer (data : Value) : Except Failure CheckResult := do
  let can ← (data.find "can" (.checkResult .unspecified)).mapError Failure.access
  (CheckResult.parse can).mapError Failure.result

namespace Client

variable {Req Ans : Type}

/-- Asks whether a subject has a permission on an entity of a tenant. -/
def checkPermission (c : Client Req Ans) (tenant : Value) (q : PermissionQuery) :
    Dialogue Req Ans Bool :=
  -- A question that cannot be asked fails before anything is sent.
  if !tenant.truthy then Dialogue.fail (.parameter .noTenant)
  else if !q.permission.truthy then Dialogue.fail (.parameter .noPermission)
  else do
    let request ← Dialogue.ofExcept q.toRequest
    let data ← c.ask (.checkPermission tenant request.toValue)
    let result ← Dialogue.ofExcept (CheckResult.ofAnswer data)
    Dialogue.log .debug .permissions
      ("Check " ++ request.entity.display ++ " " ++ q.permission.display ++ " for " ++
        request.subject.display ++ " in tenant " ++ tenant.display ++ ": " ++ result.name)
    return result == .allowed

end Client

end Rebac
