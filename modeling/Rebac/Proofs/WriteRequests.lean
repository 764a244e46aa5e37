import Rebac.Proofs.Compensation
import Rebac.Proofs.HttpRequests
import Rebac.Proofs.WriteKind

set_option autoImplicit false

/-!
# The requests of a write

The requests of a write come in three parts: those that resolve its tenant, those of its operation
and the deletion of its tenant. Resolution is one creation or a search of at least one page. The
deletion is sent exactly if, in the same call, the creation returned, the operation then failed or
was cancelled, and the client can make the request (`WriteRequests.Allowed`). Nothing is tried
again, and every creation, operation and deletion is about the tenant of the call
(`requests_of_writes`).

A client that cannot make a request sends nothing in its place. Addresses have a greatest length, so
the tenant of an overlong name is created, but no deletion of it can be sent
(`overlong_tenant_not_deleted`).
-/

namespace Rebac

open Write

/-- The requests of a write, by what they are for. -/
structure WriteRequests (Req : Type) where
  resolving : List Req
  writing : List Req
  deleting : List Req

/-- All requests of a write, in the order in which they are sent. -/
def WriteRequests.all {Req : Type} (w : WriteRequests Req) : List Req :=
  w.resolving ++ (w.writing ++ w.deleting)

section Requests

variable {Req Ans α : Type} (c : Client Req Ans) (tenant : Value) (create : Bool)
variable (operation : WriteOperation Req Ans α) (answers : List Ans)

/-- In this call, the creation of the tenant returned. -/
def Write.Creates : Prop :=
  create = true ∧ ∃ v, (c.ask (.createTenant tenant tenant) answers).ending = .returned v

/-- The tenant of this call is resolved. -/
def Write.Resolves : Prop :=
  ∃ status, (c.resolveTenant tenant create answers).ending = .returned status

/-- The operation of this call raised an ordinary failure or was cancelled. -/
def Write.OperationFails : Prop :=
  ∃ f, (operationRun c tenant create operation answers).ending = .failed f ∧
    (f.isOrdinary = true ∨ f.isCancellation = true)

/-- What a write may send: a creation or a search, then its operation, then a deletion. -/
structure WriteRequests.Allowed (w : WriteRequests Req) : Prop where
  /-- A tenant that is to be created is resolved by the one request that creates it. -/
  creation : create = true → w.resolving = c.sent (.createTenant tenant tenant)
  /-- A tenant that is not to be created is looked for on the first page, and then on others. -/
  search : create = false →
    ∃ tokens, w.resolving = c.pagesSent defaultPageSize (.text "" :: tokens)
  /-- The operation sends its requests after the tenant is resolved, and only then. -/
  written : Resolves c tenant create answers →
    w.writing = (operationRun c tenant create operation answers).requests
  not_written : ¬ Resolves c tenant create answers → w.writing = []
  /-- Nothing is sent before the first request of the resolution, unless the refusal to make that
  request reads as if the tenant existed. -/
  first : w.resolving = [] → w.writing = [] ∨
    create = true ∧
      ∃ f, c.request (.createTenant tenant tenant) = .error f ∧ f.isDuplicate = true
  /-- At most one deletion is sent, and it is that of the tenant. -/
  deletion : w.deleting = [] ∨ ∃ d, c.request (.deleteTenant tenant) = .ok d ∧ w.deleting = [d]
  /-- When the deletion is sent. -/
  deletion_iff : w.deleting ≠ [] ↔
    Creates c tenant create answers ∧ OperationFails c tenant create operation answers ∧
      ∃ d, c.request (.deleteTenant tenant) = .ok d

end Requests

namespace Write

variable {Req Ans α : Type} {c : Client Req Ans} {tenant : Value} {create : Bool}
variable {operation : WriteOperation Req Ans α} {answers : List Ans}

theorem creates_iff : Creates c tenant create answers ↔
    (c.resolveTenant tenant create answers).ending = .returned .created :=
  (c.resolveTenant_created_iff tenant create answers).symm

/-- A tenant is resolved without a request only by a refusal that reads as if it existed. -/
theorem refusal_of_resolves (hres : Resolves c tenant create answers)
    (hnone : (c.resolveTenant tenant create answers).requests = []) :
    create = true ∧
      ∃ f, c.request (.createTenant tenant tenant) = .error f ∧ f.isDuplicate = true := by
  obtain ⟨status, hres⟩ := hres
  cases create with
  | true =>
      have hrun := c.runs_resolveTenant_create tenant answers
      rw [hrun.requests_eq] at hnone
      rw [hrun.ending_eq] at hres
      cases hr : c.request (.createTenant tenant tenant) with
      | ok r => simp [c.sent_of_ok hr] at hnone
      | error f =>
          -- A refused creation resolves the tenant only if it reads like a duplicate.
          rw [Client.ask_of_error hr] at hres
          simp only [Ending.ofCreation] at hres
          split at hres
          · rename_i hdup
            exact ⟨rfl, f, rfl, (Bool.and_eq_true_iff.1 hdup).2⟩
          · cases hres
  | false =>
      have hrun := c.runs_resolveTenant_search tenant answers
      rw [hrun.requests_eq] at hnone
      rw [hrun.ending_eq] at hres
      cases hr : c.request (.listTenants defaultPageSize (.text "")) with
      | ok r =>
          obtain ⟨tokens, htokens⟩ := c.requests_hasTenant tenant defaultPageSize answers
          rw [htokens] at hnone
          simp [Client.pagesSent, c.sent_of_ok hr] at hnone
      | error f =>
          rw [Client.hasTenant, Client.searchFrom_eq, Dialogue.bind_apply,
            Client.ask_of_error hr] at hres
          cases hres

/-- What a write may send, apart from its deletion, which is to be justified. -/
theorem allowed_of_parts {writing deleting : List Req}
    (hwritten : Resolves c tenant create answers →
      writing = (operationRun c tenant create operation answers).requests)
    (hnot : ¬ Resolves c tenant create answers → writing = [])
    (hdeletion : deleting = [] ∨ ∃ d, c.request (.deleteTenant tenant) = .ok d ∧ deleting = [d])
    (hiff : deleting ≠ [] ↔
      Creates c tenant create answers ∧ OperationFails c tenant create operation answers ∧
        ∃ d, c.request (.deleteTenant tenant) = .ok d) :
    WriteRequests.Allowed c tenant create operation answers
      ⟨(c.resolveTenant tenant create answers).requests, writing, deleting⟩ where
  creation := by
    rintro rfl
    exact (c.runs_resolveTenant_create tenant answers).requests_eq
  search := by
    rintro rfl
    rw [(c.runs_resolveTenant_search tenant answers).requests_eq]
    exact c.requests_hasTenant tenant defaultPageSize answers
  written := hwritten
  not_written := hnot
  first := by
    intro hnone
    by_cases hres : Resolves c tenant create answers
    · exact Or.inr (refusal_of_resolves hres hnone)
    · exact Or.inl (hnot hres)
  deletion := hdeletion
  deletion_iff := hiff

/-- A write whose tenant is not resolved sends nothing else. -/
theorem allowed_of_not_resolved (hnot : ¬ Resolves c tenant create answers) :
    WriteRequests.Allowed c tenant create operation answers
      ⟨(c.resolveTenant tenant create answers).requests, [], []⟩ := by
  refine allowed_of_parts (fun hres => absurd hres hnot) (fun _ => rfl) (Or.inl rfl) ?_
  constructor
  · intro hsent
    exact absurd rfl hsent
  · rintro ⟨hcreates, -⟩
    exact absurd ⟨_, creates_iff.1 hcreates⟩ hnot

/-- A write deletes nothing if its operation does not fail after a creation. -/
theorem allowed_of_kept (hres : Resolves c tenant create answers)
    (hkept : Creates c tenant create answers →
      ¬ OperationFails c tenant create operation answers) :
    WriteRequests.Allowed c tenant create operation answers
      ⟨(c.resolveTenant tenant create answers).requests,
        (operationRun c tenant create operation answers).requests, []⟩ := by
  refine allowed_of_parts (fun _ => rfl) (fun hnot => absurd hres hnot) (Or.inl rfl) ?_
  constructor
  · intro hsent
    exact absurd rfl hsent
  · rintro ⟨hcreates, hfails, -⟩
    exact absurd hfails (hkept hcreates)

/-- A write deletes its tenant if its operation fails after the creation. -/
theorem allowed_of_deleted {f : Failure}
    (hres : (c.resolveTenant tenant create answers).ending = .returned .created)
    (hop : (operationRun c tenant create operation answers).ending = .failed f)
    (hundo : f.isCompensable = true) :
    WriteRequests.Allowed c tenant create operation answers
      ⟨(c.resolveTenant tenant create answers).requests,
        (operationRun c tenant create operation answers).requests,
        c.sent (.deleteTenant tenant)⟩ := by
  refine allowed_of_parts (fun _ => rfl) (fun hnot => absurd ⟨_, hres⟩ hnot)
    (c.sent_eq_nil_or (.deleteTenant tenant)) ?_
  rw [Client.sent_ne_nil_iff]
  constructor
  · intro hd
    exact ⟨creates_iff.2 hres, ⟨f, hop, f.isCompensable_iff.1 hundo⟩, hd⟩
  · rintro ⟨-, -, hd⟩
    exact hd

theorem not_resolves_of_failed {f : Failure}
    (hres : (c.resolveTenant tenant create answers).ending = .failed f) :
    ¬ Resolves c tenant create answers := by
  rintro ⟨status, h⟩
  rw [hres] at h
  cases h

theorem not_resolves_of_waiting
    (hres : (c.resolveTenant tenant create answers).ending = .waiting) :
    ¬ Resolves c tenant create answers := by
  rintro ⟨status, h⟩
  rw [hres] at h
  cases h

/-- **Whatever course a write takes, it sends what is allowed.** -/
theorem exists_allowed_of_course {requests : List Req} {ending : Ending (Written α)}
    (h : WriteCourse c tenant create operation answers requests ending) :
    ∃ w, WriteRequests.Allowed c tenant create operation answers w ∧ requests = w.all := by
  cases h with
  | unresolved hres =>
      exact ⟨_, allowed_of_not_resolved (not_resolves_of_failed hres), by simp [WriteRequests.all]⟩
  | resolving hres =>
      exact ⟨_, allowed_of_not_resolved (not_resolves_of_waiting hres), by simp [WriteRequests.all]⟩
  | returned hres hop =>
      refine ⟨_, allowed_of_kept ⟨_, hres⟩ ?_, by simp [WriteRequests.all]⟩
      rintro - ⟨f, hf, -⟩
      rw [hop] at hf
      cases hf
  | writing hres hop =>
      refine ⟨_, allowed_of_kept ⟨_, hres⟩ ?_, by simp [WriteRequests.all]⟩
      rintro - ⟨f, hf, -⟩
      rw [hop] at hf
      cases hf
  | passedOn hres hop hkeep =>
      refine ⟨_, allowed_of_kept ⟨_, hres⟩ ?_, by simp [WriteRequests.all]⟩
      rintro hcreates ⟨g, hg, hcompensable⟩
      rw [hop] at hg
      cases hg
      rcases hkeep with rfl | hkeep
      · rw [creates_iff, hres] at hcreates
        cases hcreates
      · rw [(Failure.isCompensable_iff _).2 hcompensable] at hkeep
        cases hkeep
  | rolledBack hres hop hundo _ => exact ⟨_, allowed_of_deleted hres hop hundo, rfl⟩
  | rollbackFailed hres hop hundo _ _ => exact ⟨_, allowed_of_deleted hres hop hundo, rfl⟩
  | rollbackStopped hres hop hundo _ _ => exact ⟨_, allowed_of_deleted hres hop hundo, rfl⟩
  | rollingBack hres hop hundo _ => exact ⟨_, allowed_of_deleted hres hop hundo, rfl⟩

end Write

/-- An operation of one call sends at most the request of that call. -/
theorem WriteRequests.Allowed.writing_of_asking {Req Ans α : Type} {c : Client Req Ans}
    {tenant : Value} {create : Bool} {call : Value → Call α} {answers : List Ans}
    {w : WriteRequests Req} (hw : w.Allowed c tenant create (.asking call) answers) :
    w.writing = [] ∨ ∃ r, c.request (call tenant) = .ok r ∧ w.writing = [r] := by
  by_cases hres : Resolves c tenant create answers
  · have hsent : w.writing = c.sent (call tenant) := by
      rw [hw.written hres]
      exact c.requests_ask (call tenant) _
    rw [hsent]
    exact c.sent_eq_nil_or (call tenant)
  · exact Or.inl (hw.not_written hres)

/-- A tenant is resolved by its creation or by pages of tenants. -/
theorem WriteRequests.Allowed.cases_of_mem_resolving {Req Ans α : Type} {c : Client Req Ans}
    {tenant : Value} {create : Bool} {operation : WriteOperation Req Ans α} {answers : List Ans}
    {w : WriteRequests Req} {r : Req} (hw : w.Allowed c tenant create operation answers)
    (hr : r ∈ w.resolving) :
    c.request (.createTenant tenant tenant) = .ok r ∨
      ∃ token, c.request (.listTenants defaultPageSize token) = .ok r := by
  cases hcreate : create with
  | true =>
      rw [hw.creation hcreate, Client.mem_sent_iff] at hr
      exact Or.inl hr
  | false =>
      obtain ⟨tokens, htokens⟩ := hw.search hcreate
      rw [htokens] at hr
      exact Or.inr (Client.exists_token_of_mem_pagesSent hr)

/-- What a write sends is the creation of its tenant, a page of tenants, a request of its operation
or the deletion of its tenant. -/
theorem WriteRequests.Allowed.cases_of_mem {Req Ans α : Type} {c : Client Req Ans}
    {tenant : Value} {create : Bool} {operation : WriteOperation Req Ans α} {answers : List Ans}
    {w : WriteRequests Req} {r : Req} (hw : w.Allowed c tenant create operation answers)
    (hr : r ∈ w.all) :
    c.request (.createTenant tenant tenant) = .ok r ∨
      (∃ token, c.request (.listTenants defaultPageSize token) = .ok r) ∨
        r ∈ w.writing ∨ c.request (.deleteTenant tenant) = .ok r := by
  rcases List.mem_append.1 hr with hr | hr
  · exact (hw.cases_of_mem_resolving hr).imp_right Or.inl
  · rcases List.mem_append.1 hr with hr | hr
    · exact Or.inr (Or.inr (Or.inl hr))
    · rcases hw.deletion with hnone | ⟨d, hd, hone⟩
      · rw [hnone] at hr
        cases hr
      · rw [hone] at hr
        cases List.mem_singleton.1 hr
        exact Or.inr (Or.inr (Or.inr hd))

/-! ## Every write -/

/-- A write of a payload that can be made sends what is allowed for an operation of one call. -/
theorem WriteKind.exists_allowed_of_call {Req Ans : Type} {t : Target Req Ans} {c : Client Req Ans}
    {k : WriteKind} {call : Value → Call Value} (hcheck : t.check = .ok ())
    (hc : t.source.Gives c) (hcall : k.call = .ok call) (answers : List Ans) :
    ∃ w, WriteRequests.Allowed c t.tenant t.create (.asking call) answers w ∧
      (w.writing = [] ∨ ∃ r, c.request (call t.tenant) = .ok r ∧ w.writing = [r]) ∧
      (k.run t answers).requests = w.all := by
  obtain ⟨w, hw, hall⟩ :=
    exists_allowed_of_course (Target.course_execute hcheck hc (.asking call) answers)
  refine ⟨w, hw, hw.writing_of_asking, ?_⟩
  rw [(WriteKind.runs_run_of_call hcheck hcall answers).requests_eq, hall]

/-- A request of a write is the creation of its tenant, a page of tenants, its one call or the
deletion of its tenant. -/
theorem WriteKind.cases_of_mem_requests {Req Ans : Type} {t : Target Req Ans} {k : WriteKind}
    {answers : List Ans} {r : Req} (hr : r ∈ (k.run t answers).requests) :
    ∃ c call, t.source.Gives c ∧ k.call = .ok call ∧
      (c.request (.createTenant t.tenant t.tenant) = .ok r ∨
        (∃ token, c.request (.listTenants defaultPageSize token) = .ok r) ∨
          c.request (call t.tenant) = .ok r ∨ c.request (.deleteTenant t.tenant) = .ok r) := by
  obtain ⟨hcheck, call, hcall⟩ := WriteKind.exists_call_of_sent (List.ne_nil_of_mem hr)
  rcases t.source.gives_or_refuses with ⟨c, hc⟩ | ⟨f, hf⟩
  · obtain ⟨w, hw, hwriting, hall⟩ := WriteKind.exists_allowed_of_call hcheck hc hcall answers
    rw [hall] at hr
    refine ⟨c, call, hc, hcall, (hw.cases_of_mem hr).imp_right (Or.imp_right (Or.imp_left ?_))⟩
    intro hcalled
    rcases hwriting with hnone | ⟨q, hq, hone⟩
    · rw [hnone] at hcalled
      cases hcalled
    · rw [hone, List.mem_singleton] at hcalled
      rwa [hcalled]
  · have hrun := WriteKind.runs_run_of_call hcheck hcall answers
    rw [Target.execute_of_rejects (Or.inr ⟨hcheck, hf⟩)] at hrun
    rw [hrun.requests_eq] at hr
    cases hr

/-- **The requests of every write.** A write is rejected and sends nothing, or it sends what is
allowed for its client, its tenant and its operation. A schema, relationships and a deletion of
relationships are written by at most one request, which is about the tenant of the write. -/
theorem requests_of_writes {Req Ans : Type} (t : Target Req Ans) (answers : List Ans) :
    (∀ (α : Type) (operation : WriteOperation Req Ans α),
      (∃ f, t.Rejects f ∧ Runs (t.execute operation) answers [] (.failed f) answers) ∨
      ∃ c w, t.source.Gives c ∧
        WriteRequests.Allowed c t.tenant t.create operation answers w ∧
        (t.execute operation answers).requests = w.all) ∧
    ∀ k : WriteKind,
      (∃ f, (t.Rejects f ∨ k.call = .error f) ∧ Runs (k.run t) answers [] (.failed f) answers) ∨
      ∃ c w call, t.source.Gives c ∧ k.call = .ok call ∧
        (call t.tenant).tenant? = some t.tenant ∧
        (w.writing = [] ∨ ∃ r, c.request (call t.tenant) = .ok r ∧ w.writing = [r]) ∧
        WriteRequests.Allowed c t.tenant t.create (.asking call) answers w ∧
        (k.run t answers).requests = w.all := by
  rcases t.rejects_or_gives with ⟨f, hf⟩ | ⟨hcheck, c, hc⟩
  · refine ⟨fun α operation => Or.inl ⟨f, hf, ?_⟩, fun k => Or.inl ?_⟩
    · rw [Target.execute_of_rejects hf]
      exact Runs.fail f answers
    · exact WriteKind.exists_failure_of_rejects hf k answers
  · refine ⟨fun α operation => Or.inr ?_, fun k => ?_⟩
    · obtain ⟨w, hw, hall⟩ :=
        exists_allowed_of_course (Target.course_execute hcheck hc operation answers)
      exact ⟨c, w, hc, hw, hall⟩
    · -- The payload is made before any client is asked for.
      cases hcall : k.call with
      | error f =>
          refine Or.inl ⟨f, Or.inr rfl, ?_⟩
          rw [WriteKind.run_of_call_error hcheck hcall]
          exact Runs.fail f answers
      | ok call =>
          obtain ⟨w, hw, hwriting, hall⟩ := WriteKind.exists_allowed_of_call hcheck hc hcall answers
          exact Or.inr ⟨c, w, call, hc, rfl, WriteKind.tenant?_of_call hcall t.tenant, hwriting, hw,
            hall⟩

/-! ## A tenant of an overlong name -/

namespace Http

/-- The client of a server on this machine. -/
def localConnection : Connection where
  endpoint := "localhost:3476"
  base := { scheme := "http", host := "localhost".toList, port := some 3476, path := ['/'] }
  headers := []
  timeout := none

/-- A name that is longer than any address. -/
def overlongName : String := String.ofList (List.replicate (Address.maxLength + 1) 'a')

/-- A tenant of that name, which is to be created. -/
def overlongTarget : Target Request Answer where
  tenant := .text overlongName
  create := true
  source := .established (client localConnection)

theorem maxLength_lt_overlongName : Address.maxLength < overlongName.length := by
  rw [overlongName, String.length_ofList, List.length_replicate]
  exact Nat.lt_succ_self _

theorem overlongTarget_check : overlongTarget.check = .ok () := by
  refine (Target.check_eq_ok_iff overlongTarget).2 ⟨rfl, ?_⟩
  have hne : overlongName ≠ "" := by
    intro h
    have hlen := maxLength_lt_overlongName
    rw [h] at hlen
    exact absurd hlen (by decide)
  simp [overlongTarget, Value.truthy, hne]

/-- **A created tenant whose write fails need not be deleted.** The tenant of an overlong name is
created, and then neither its schema nor its deletion can be sent: the creation stays the only
request of the write. -/
theorem overlong_tenant_not_deleted :
    Creates (client localConnection) overlongTarget.tenant overlongTarget.create
        [.response 200 []] ∧
      (∃ call, (WriteKind.schema (.text "entity user {}")).call = .ok call ∧
        OperationFails (client localConnection) overlongTarget.tenant overlongTarget.create
          (.asking call) [.response 200 []]) ∧
      ∃ r, ((WriteKind.schema (.text "entity user {}")).run overlongTarget
          [.response 200 []]).requests = [r] ∧ r.method = .post := by
  obtain ⟨r, hr⟩ : ∃ r, request localConnection
      (.createTenant (.text overlongName) (.text overlongName)) = .ok r := by
    rw [exists_creation_iff, ← Address.exists_resolve_iff]
    exact ⟨_, rfl⟩
  have hcreates : Creates (client localConnection) overlongTarget.tenant overlongTarget.create
      [.response 200 []] := ⟨rfl, (creation_returned_iff hr rfl []).2 ⟨_, rfl⟩⟩
  have hcall : (WriteKind.schema (.text "entity user {}")).call =
      .ok fun tenant => .writeSchema tenant (.text "entity user {}") := rfl
  have hlong := maxLength_lt_overlongName
  -- Both addresses begin with the name, so neither the schema nor the deletion can be sent.
  have hwrite : (client localConnection).request
      (.writeSchema (.text overlongName) (.text "entity user {}")) =
      .error (addressFailure .tooLong) :=
    request_of_overlong rfl (Nat.lt_of_lt_of_le hlong (length_le_length_path _ _))
  have hdelete : (client localConnection).request (.deleteTenant (.text overlongName)) =
      .error (addressFailure .tooLong) :=
    request_of_overlong rfl (Nat.lt_of_lt_of_le hlong (length_le_length_path _ _))
  refine ⟨hcreates, ⟨_, hcall, addressFailure .tooLong, ?_, Or.inl rfl⟩, r, ?_, ?_⟩
  · rw [operationRun, WriteOperation.asking, overlongTarget, Client.ask_of_error hwrite]
  · obtain ⟨w, hw, hall⟩ := exists_allowed_of_course
      (Target.course_execute overlongTarget_check rfl (.asking _) [.response 200 []])
    rw [(WriteKind.runs_run_of_call overlongTarget_check hcall _).requests_eq, hall]
    have hresolving : w.resolving = [r] := by
      rw [hw.creation rfl]
      exact Client.sent_of_ok hr
    have hwriting : w.writing = [] := by
      rcases hw.writing_of_asking with h | ⟨q, hq, -⟩
      · exact h
      · exact absurd (hwrite.symm.trans hq) (by simp)
    have hdeleting : w.deleting = [] := by
      rcases hw.deletion with h | ⟨d, hd, -⟩
      · exact h
      · exact absurd (hdelete.symm.trans hd) (by simp)
    rw [WriteRequests.all, hresolving, hwriting, hdeleting]
    rfl
  · exact method_of_request hr

end Http

end Rebac
