import Rebac.Dialogue

set_option autoImplicit false

/-!
# Clients

The calls that a server answers, and what a client is: a way to make these calls.
-/

/-!
## Calls of a server

What can be asked of a server: listing, creating and deleting tenants, writing a schema, writing and
deleting relationships, and checking a permission. A client turns each call into a request of its
own kind and each answer into a result; everything else in this library works with any client.
-/

namespace Rebac

/-- A tenant as a server lists it. -/
structure Tenant where
  id : Value
  name : Value := .text ""
  createdAt : Value := .none

/-- A page of tenants, and the token for the next page; an empty token marks the last page. -/
structure TenantPage where
  tenants : List Tenant
  token : Value := .text ""

/-- The number of tenants on a page, unless the caller asks for another. -/
def defaultPageSize : Value := .int 20

/-- A call of a server, by the kind of its result. -/
inductive Call : Type → Type
  | listTenants (pageSize token : Value) : Call TenantPage
  | createTenant (tenant name : Value) : Call Value
  | deleteTenant (tenant : Value) : Call Value
  | writeSchema (tenant schema : Value) : Call Value
  | writeRelationships (tenant tuples schemaVersion : Value) : Call Value
  | deleteRelationships (tenant filter : Value) : Call Value
  | checkPermission (tenant request : Value) : Call Value

/-- A call by its name, its arguments and its named arguments. -/
structure CallText where
  name : String
  arguments : List Value
  named : List (String × Value)

namespace Call

/-- How a call is written. -/
def text {α : Type} : Call α → CallText
  | .listTenants size token =>
      ⟨"list_tenants", [], [("page_size", size), ("continuous_token", token)]⟩
  | .createTenant tenant name => ⟨"create_tenant", [tenant, name], []⟩
  | .deleteTenant tenant => ⟨"delete_tenant", [tenant], []⟩
  | .writeSchema tenant schema => ⟨"write_schema", [tenant, schema], []⟩
  | .writeRelationships tenant tuples version =>
      ⟨"write_relationships", [tenant, tuples], [("schema_version", version)]⟩
  | .deleteRelationships tenant filter => ⟨"delete_relationships", [tenant, filter], []⟩
  | .checkPermission tenant request => ⟨"check_permission", [tenant, request], []⟩

/-- The tenant that a call is about, if it is about one. -/
def tenant? {α : Type} : Call α → Option Value
  | .listTenants _ _ => none
  | .createTenant t _ | .deleteTenant t | .writeSchema t _ | .writeRelationships t _ _
  | .deleteRelationships t _ | .checkPermission t _ => some t

end Call

/-- A way to make calls: the request for a call, unless it cannot be made, and what an answer to
that request means, with the records that are written to the log. -/
structure Client (Req Ans : Type) where
  request : {α : Type} → Call α → Except Failure Req
  reply : {α : Type} → Call α → Ans → List LogRecord × Except Failure α

namespace Client

variable {Req Ans α : Type}

/-- Makes a call: sends its request, waits for the answer and reads it. -/
def ask (c : Client Req Ans) (call : Call α) : Dialogue Req Ans α := fun answers =>
  match c.request call with
  | .error f => ⟨[], .failed f, answers⟩
  | .ok r =>
      match answers with
      | [] => ⟨[.sent r], .waiting, []⟩
      | a :: rest =>
          ⟨.sent r :: (c.reply call a).1.map .logged, .ofExcept (c.reply call a).2, rest⟩

theorem ask_of_error {c : Client Req Ans} {call : Call α} {f : Failure}
    (h : c.request call = .error f) (answers : List Ans) :
    c.ask call answers = ⟨[], .failed f, answers⟩ := by
  simp [ask, h]

theorem ask_cons {c : Client Req Ans} {call : Call α} {r : Req} (h : c.request call = .ok r)
    (a : Ans) (rest : List Ans) :
    c.ask call (a :: rest) =
      ⟨.sent r :: (c.reply call a).1.map .logged, .ofExcept (c.reply call a).2, rest⟩ := by
  simp [ask, h]

end Client

end Rebac

/-!
## A scripted client

A client whose answers are given beforehand. Its requests are the calls themselves.
-/

namespace Rebac

/-- An answer of a script: a failure, a page of tenants, or a result. What is not given is empty. -/
structure ScriptedAnswer where
  failure : Option Failure := none
  page : Option TenantPage := none
  result : Option Value := none

namespace Client

/-- What an answer of a script means to a call. -/
def scriptedReply {α : Type} (call : Call α) (a : ScriptedAnswer) : Except Failure α :=
  match a.failure with
  | some f => throw f
  | none =>
      match call with
      | .listTenants _ _ => pure (a.page.getD { tenants := [] })
      | .checkPermission _ _ => pure (a.result.getD (.map []))
      | .createTenant _ _ | .deleteTenant _ | .writeSchema _ _ | .writeRelationships _ _ _
      | .deleteRelationships _ _ => pure (a.result.getD .none)

/-- The client that answers from a script. -/
def scripted : Client CallText ScriptedAnswer where
  request call := pure call.text
  reply call a := ([], scriptedReply call a)

end Client

end Rebac
