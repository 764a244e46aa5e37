import Rebac.Proofs.Runs
import Rebac.Tenant

set_option autoImplicit false

/-!
# Runs of the resolution of a tenant

A tenant is resolved by one request that creates it, or by a search. The search asks for at least
one page (`requests_hasTenant`). Resolution reports that the tenant was created exactly if it was to
be created and the creation returned (`resolveTenant_created_iff`); a creation that fails, whatever
the failure says, never counts as one.
-/

namespace Rebac

namespace Client

variable {Req Ans : Type}

/-- What a search sends: a request for the page of each of these tokens, as far as it can be
made. -/
def pagesSent (c : Client Req Ans) (pageSize : Value) (tokens : List Value) : List Req :=
  tokens.flatMap fun token => c.sent (.listTenants pageSize token)

theorem exists_token_of_mem_pagesSent {c : Client Req Ans} {pageSize : Value} {tokens : List Value}
    {r : Req} (h : r ∈ c.pagesSent pageSize tokens) :
    ∃ token, c.request (.listTenants pageSize token) = .ok r := by
  rw [pagesSent, List.mem_flatMap] at h
  obtain ⟨token, -, hsent⟩ := h
  exact ⟨token, mem_sent_iff.1 hsent⟩

/-- A search asks for the page of its token first, and then for others. -/
theorem requests_searchFrom (c : Client Req Ans) (tenant pageSize : Value) (answers : List Ans) :
    ∀ (token : Value) (pages : Nat), ∃ tokens,
      (searchFrom c tenant pageSize token pages answers).requests =
        c.pagesSent pageSize (token :: tokens) := by
  -- Each page but the last uses one answer, and the next page depends on what it says.
  induction answers with
  | nil =>
      intro token pages
      refine ⟨[], ?_⟩
      rw [searchFrom]
      cases h : c.request (.listTenants pageSize token) with
      | error f => simp [pagesSent, sent, h, Run.requests]
      | ok r => simp [pagesSent, sent, h, Run.requests, Event.request?]
  | cons a rest ih =>
      intro token pages
      rw [searchFrom]
      cases h : c.request (.listTenants pageSize token) with
      | error f => exact ⟨[], by simp [pagesSent, sent, h, Run.requests]⟩
      | ok r =>
          dsimp only
          cases (c.reply (.listTenants pageSize token) a).2 with
          | error f =>
              exact ⟨[], by simp [pagesSent, sent, h, Run.requests, Event.request?]⟩
          | ok page =>
              dsimp only
              by_cases hl : page.lists tenant = true
              · rw [if_pos hl]
                exact ⟨[], by simp [pagesSent, sent, h, Run.requests, Event.request?]⟩
              · rw [if_neg hl]
                by_cases ht : page.token.truthy = true
                · rw [if_pos ht]
                  obtain ⟨tokens, htokens⟩ := ih page.token (pages + 1)
                  refine ⟨page.token :: tokens, ?_⟩
                  rw [Dialogue.requests_prepend, htokens]
                  simp [pagesSent, sent, h, Event.request?]
                · rw [if_neg ht]
                  exact ⟨[], by simp [pagesSent, sent, h, Run.requests, Event.request?]⟩

/-- A search for a tenant asks for the first page, and then for others. -/
theorem requests_hasTenant (c : Client Req Ans) (tenant pageSize : Value) (answers : List Ans) :
    ∃ tokens, (c.hasTenant tenant pageSize answers).requests =
      c.pagesSent pageSize (.text "" :: tokens) :=
  requests_searchFrom c tenant pageSize answers (.text "") 0

end Client

namespace Ending

variable {α : Type}

/-- How a tenant is resolved, by the ending of the call that creates it. -/
def ofCreation : Ending α → Ending TenantResolution
  | .returned _ => .returned .created
  | .failed f => if f.isOrdinary && f.isDuplicate then .returned .existing else .failed f
  | .waiting => .waiting

/-- How a tenant is resolved, by the ending of the search for it. -/
def ofSearch (tenant : Value) : Ending Bool → Ending TenantResolution
  | .returned true => .returned .existing
  | .returned false => .failed (.tenantNotFound tenant)
  | .failed f => .failed f
  | .waiting => .waiting

theorem ofCreation_eq_created_iff {e : Ending α} :
    e.ofCreation = .returned .created ↔ ∃ a, e = .returned a := by
  cases e with
  | returned a => simp [ofCreation]
  | failed f =>
      simp only [ofCreation]
      split <;> simp
  | waiting => simp [ofCreation]

/-- A tenant is resolved by a search exactly if the search finds it. -/
theorem ofSearch_eq_returned_iff {tenant : Value} {e : Ending Bool} {status : TenantResolution} :
    e.ofSearch tenant = .returned status ↔ e = .returned true ∧ status = .existing := by
  cases e with
  | returned found => cases found <;> simp [ofSearch, eq_comm]
  | failed f => simp [ofSearch]
  | waiting => simp [ofSearch]

theorem ofSearch_ne_created (tenant : Value) (e : Ending Bool) :
    e.ofSearch tenant ≠ .returned .created := by
  simp [ofSearch_eq_returned_iff]

end Ending

namespace Client

variable {Req Ans : Type}

/-- A run of the creation of a tenant is a run of its call. -/
theorem runs_createTenant (c : Client Req Ans) (tenant : Value) (answers : List Ans) :
    Runs (c.createTenant tenant) answers (c.sent (.createTenant tenant tenant))
      (c.ask (.createTenant tenant tenant) answers).ending.ofCreation
      (c.ask (.createTenant tenant tenant) answers).rest := by
  rw [← List.append_nil (c.sent (.createTenant tenant tenant))]
  cases he : (c.ask (.createTenant tenant tenant) answers).ending with
  | returned v =>
      exact (runs_ask he).attempt_returned.bind ((Runs.log _ _ _ _).bind (Runs.pure _ _))
  | waiting =>
      rw [List.append_nil]
      exact (runs_ask he).attempt_waiting.bind_waiting
  | failed f =>
      refine (runs_ask he).attempt_failed.bind ?_
      dsimp only [Ending.ofCreation]
      split
      · exact (Runs.log _ _ _ _).bind (Runs.pure _ _)
      · exact Runs.fail _ _

/-- A run of the resolution of a tenant that is only looked for is a run of the search. -/
theorem runs_resolveTenant_search (c : Client Req Ans) (tenant : Value) (answers : List Ans) :
    Runs (c.resolveTenant tenant false) answers
      (c.hasTenant tenant defaultPageSize answers).requests
      ((c.hasTenant tenant defaultPageSize answers).ending.ofSearch tenant)
      (c.hasTenant tenant defaultPageSize answers).rest := by
  rw [← List.append_nil (c.hasTenant tenant defaultPageSize answers).requests]
  cases he : (c.hasTenant tenant defaultPageSize answers).ending with
  | returned found =>
      have hsearch := Runs.of_ending he
      cases found with
      | true => exact hsearch.bind (Runs.pure _ _)
      | false => exact hsearch.bind (Runs.fail _ _)
  | failed f =>
      rw [List.append_nil]
      exact (Runs.of_ending he).bind_failed
  | waiting =>
      rw [List.append_nil]
      exact (Runs.of_ending he).bind_waiting

theorem runs_resolveTenant_create (c : Client Req Ans) (tenant : Value) (answers : List Ans) :
    Runs (c.resolveTenant tenant true) answers (c.sent (.createTenant tenant tenant))
      (c.ask (.createTenant tenant tenant) answers).ending.ofCreation
      (c.ask (.createTenant tenant tenant) answers).rest :=
  c.runs_createTenant tenant answers

/-- A resolution asks for the creation of its tenant or for pages of tenants, and for nothing
else. -/
theorem cases_of_mem_resolveTenant {c : Client Req Ans} {tenant : Value} {create : Bool}
    {answers : List Ans} {r : Req} (h : r ∈ (c.resolveTenant tenant create answers).requests) :
    c.request (.createTenant tenant tenant) = .ok r ∨
      ∃ token, c.request (.listTenants defaultPageSize token) = .ok r := by
  cases create with
  | true =>
      rw [(c.runs_resolveTenant_create tenant answers).requests_eq, mem_sent_iff] at h
      exact Or.inl h
  | false =>
      obtain ⟨tokens, htokens⟩ := c.requests_hasTenant tenant defaultPageSize answers
      rw [(c.runs_resolveTenant_search tenant answers).requests_eq, htokens] at h
      exact Or.inr (exists_token_of_mem_pagesSent h)

/-- **A resolution reports a created tenant exactly if its creation returned.** -/
theorem resolveTenant_created_iff (c : Client Req Ans) (tenant : Value) (create : Bool)
    (answers : List Ans) :
    (c.resolveTenant tenant create answers).ending = .returned .created ↔
      create = true ∧ ∃ v, (c.ask (.createTenant tenant tenant) answers).ending = .returned v := by
  cases create with
  | true =>
      rw [(c.runs_resolveTenant_create tenant answers).ending_eq, Ending.ofCreation_eq_created_iff]
      simp
  | false =>
      rw [(c.runs_resolveTenant_search tenant answers).ending_eq]
      simp [Ending.ofSearch_ne_created]

end Client

end Rebac
