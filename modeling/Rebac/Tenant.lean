import Rebac.Client.Call
import Rebac.Text

set_option autoImplicit false

/-!
# Tenants

How a tenant is looked for among those of a server, and how the tenant of a write is resolved.
-/

/-!
## Looking for a tenant

A server lists its tenants page by page. A search asks for one page after the other until a page
holds the tenant or the pages end. The search is a recursion on the answers: each page takes one.
-/

namespace Rebac

/-- Whether a page lists a tenant. -/
def TenantPage.lists (page : TenantPage) (tenant : Value) : Bool :=
  page.tenants.any (fun t => t.id.same tenant)

namespace Client

variable {Req Ans : Type}

/-- The record of a tenant that was found. -/
def foundRecord (tenant : Value) (page : Nat) : LogRecord :=
  ⟨.debug, .tenancy, "Found tenant " ++ tenant.display ++ " on page " ++ toString page⟩

/-- The record of a tenant that is on no page. -/
def missingRecord (tenant : Value) (pages : Nat) : LogRecord :=
  ⟨.debug, .tenancy,
    "Tenant " ++ tenant.display ++ " not found after " ++ toString pages ++ " page(s)"⟩

/-- Looks for a tenant from the page of a token on, after a number of other pages. -/
def searchFrom (c : Client Req Ans) (tenant pageSize : Value) :
    Value → Nat → Dialogue Req Ans Bool
  | token, _, [] =>
      match c.request (.listTenants pageSize token) with
      | .error f => ⟨[], .failed f, []⟩
      | .ok r => ⟨[.sent r], .waiting, []⟩
  | token, pages, a :: rest =>
      match c.request (.listTenants pageSize token) with
      | .error f => ⟨[], .failed f, a :: rest⟩
      | .ok r =>
          let answer := c.reply (.listTenants pageSize token) a
          let events := .sent r :: answer.1.map .logged
          match answer.2 with
          | .error f => ⟨events, .failed f, rest⟩
          | .ok page =>
              -- A page that lists the tenant ends the search even if its token is empty.
              if page.lists tenant then
                ⟨events ++ [.logged (foundRecord tenant (pages + 1))], .returned true, rest⟩
              else if page.token.truthy then
                (searchFrom c tenant pageSize page.token (pages + 1) rest).prepend events
              else
                ⟨events ++ [.logged (missingRecord tenant (pages + 1))], .returned false, rest⟩

/-- Whether a tenant is among those that the server lists. -/
def hasTenant (c : Client Req Ans) (tenant pageSize : Value) : Dialogue Req Ans Bool :=
  searchFrom c tenant pageSize (.text "") 0

/-- A search asks for a page, and then it has found the tenant, goes on with the next page, or is at
the end. -/
theorem searchFrom_eq (c : Client Req Ans) (tenant pageSize token : Value) (pages : Nat) :
    searchFrom c tenant pageSize token pages = (do
      let page ← c.ask (.listTenants pageSize token)
      if page.lists tenant then
        Dialogue.write (foundRecord tenant (pages + 1))
        return true
      else if page.token.truthy then
        searchFrom c tenant pageSize page.token (pages + 1)
      else
        Dialogue.write (missingRecord tenant (pages + 1))
        return false) := by
  funext answers
  rw [Dialogue.bind_apply]
  cases answers with
  | nil =>
      rw [searchFrom, ask]
      cases c.request (.listTenants pageSize token) <;> rfl
  | cons a rest =>
      rw [searchFrom, ask]
      cases c.request (.listTenants pageSize token) with
      | error f => rfl
      | ok r =>
          dsimp only
          cases (c.reply (.listTenants pageSize token) a).2 with
          | error f => rfl
          | ok page =>
              dsimp only [Ending.ofExcept]
              split
              · rfl
              · split <;> rfl

end Client

end Rebac

/-!
## Resolving the tenant of a write

Before a write, its tenant is created or looked for. Creating a tenant that exists already is no
failure: servers report it by a code, by a status, or only in words, and each of these is
recognised. A tenant that is only looked for has to exist.
-/

namespace Rebac

/-- How a tenant was found before a write. -/
inductive TenantResolution
  | created
  | existing
deriving DecidableEq

namespace TenantResolution

/-- Whether the tenant was created by this call. -/
def isCreated (s : TenantResolution) : Bool := s == .created

/-- Whether the tenant existed before this call. -/
def alreadyExisted (s : TenantResolution) : Bool := s == .existing

/-- Either a call created the tenant or the tenant existed before it. -/
theorem alreadyExisted_eq_not_isCreated (s : TenantResolution) :
    s.alreadyExisted = !s.isCreated := by
  cases s <;> rfl

end TenantResolution

namespace Failure

/-- The code in the body of an answer that rejects a duplicate. -/
def duplicateCode : Int := 6

/-- The status of an answer that rejects a duplicate. -/
def duplicateStatus : Int := 409

/-- The name of the status of a remote procedure call that rejects a duplicate. -/
def duplicateName : String := "ALREADY_EXISTS"

/-- Words by which servers report a duplicate. -/
def duplicateWords : List String := ["already exists", "ERROR_CODE_UNIQUE_CONSTRAINT"]

/-- Whether a failure is marked as a duplicate by a code or a status. -/
def isMarkedDuplicate : Failure → Bool
  | .rejected _ status code => code.same (.int duplicateCode) || status.same (.int duplicateStatus)
  | .rpc _ (.named n) => n == duplicateName
  | _ => false

/-- Whether a failure to create something says that it exists already. -/
def isDuplicate (f : Failure) : Bool :=
  f.isMarkedDuplicate || duplicateWords.any (fun w => Text.occursIn w.toList f.text.toList)

end Failure

namespace Client

variable {Req Ans : Type}

/-- Creates a tenant that may exist already, and names it by its identifier. -/
def createTenant (c : Client Req Ans) (tenant : Value) : Dialogue Req Ans TenantResolution := do
  match ← (c.ask (.createTenant tenant tenant)).attempt with
  | .ok _ =>
      Dialogue.log .info .tenancy ("Created tenant " ++ tenant.display)
      return .created
  | .error f =>
      -- A cancellation is passed on even if its text looks like a duplicate.
      if f.isOrdinary && f.isDuplicate then
        Dialogue.log .debug .tenancy ("Tenant " ++ tenant.display ++ " already exists")
        return .existing
      else Dialogue.fail f

/-- Makes sure that a tenant exists: creates it, or looks for it. -/
def resolveTenant (c : Client Req Ans) (tenant : Value) (create : Bool) :
    Dialogue Req Ans TenantResolution := do
  if create then c.createTenant tenant
  else if ← c.hasTenant tenant defaultPageSize then return .existing
  else Dialogue.fail (.tenantNotFound tenant)

end Client

end Rebac
