import Rebac.Proofs.WriteRequests

set_option autoImplicit false

/-!
# Created tenants

A server that answers a creation with a status of success has created the tenant, whatever the body
of the answer says. If the write then fails, it deletes the tenant again exactly if it could read
that body, was not interrupted in its operation, and can address the tenant
(`deletes_created_iff`). A tenant whose creation is answered with a body that is no JSON is left
behind (`unread_tenant_not_deleted`).
-/

namespace Rebac

open Write

namespace Write

variable {Req Ans α : Type} {t : Target Req Ans} {c : Client Req Ans}
variable {operation : WriteOperation Req Ans α} {answers : List Ans}

/-- A write that fails after the creation of its tenant fails in its operation. -/
theorem operationFails_of_failed {f : Failure} (hcheck : t.check = .ok ()) (hc : t.source.Gives c)
    (hcreates : Creates c t.tenant t.create answers)
    (hfail : (t.execute operation answers).ending = .failed f)
    (hnot : ∀ m, (operationRun c t.tenant t.create operation answers).ending ≠
      .failed (.interrupted m)) :
    OperationFails c t.tenant t.create operation answers := by
  have hres := creates_iff.1 hcreates
  cases hop : (operationRun c t.tenant t.create operation answers).ending with
  | returned a =>
      obtain ⟨rest, hrun⟩ := Target.runs_execute_of_course hcheck hc (.returned hres hop)
      rw [hrun.ending_eq] at hfail
      cases hfail
  | waiting =>
      obtain ⟨rest, hrun⟩ := Target.runs_execute_of_course hcheck hc (.writing hres hop)
      rw [hrun.ending_eq] at hfail
      cases hfail
  | failed e =>
      refine ⟨e, hop, e.isCompensable_iff.1 ?_⟩
      cases e with
      | interrupted m => exact absurd hop (hnot m)
      | _ => rfl

end Write

namespace Http

variable {conn : Connection} {t : Target Request Answer} {k : WriteKind}

/-- The call of a write is interrupted, on the answers that the creation of its tenant leaves. -/
def Interrupted (conn : Connection) (t : Target Request Answer) (k : WriteKind)
    (rest : List Answer) : Prop :=
  ∃ call m, k.call = .ok call ∧
    ((client conn).ask (call t.tenant) rest).ending = .failed (.interrupted m)

/-- Every write asks the server to take something. -/
theorem method_of_call {call : Value → Call Value} (h : k.call = .ok call) (tenant : Value) :
    method (call tenant) = .post := by
  rcases WriteKind.payload_of_call h with
    ⟨_, _, -, -, rfl⟩ | ⟨_, _, _, _, -, -, -, rfl⟩ | ⟨_, _, -, -, rfl⟩
  · rfl
  · rfl
  · rfl

/-- The operation of a write gets the answers behind that to the creation of its tenant. -/
theorem operationRun_of_creation {r : Request} {call : Value → Call Value} {a : Answer}
    (hr : request conn (.createTenant t.tenant t.tenant) = .ok r) (rest : List Answer) :
    operationRun (client conn) t.tenant true (.asking call) (a :: rest) =
      (client conn).ask (call t.tenant) rest := by
  have hrest : ((client conn).resolveTenant t.tenant true (a :: rest)).rest = rest := by
    rw [((client conn).runs_resolveTenant_create t.tenant (a :: rest)).rest_eq,
      Client.ask_cons (c := client conn) hr]
  rw [operationRun, hrest]
  rfl

/-- A deletion that is sent after the creation is the deletion at the end of the write. -/
theorem deletion_sent_iff {r : Request} {call : Value → Call Value} {answers : List Answer}
    {w : WriteRequests Request} (hcall : k.call = .ok call)
    (hr : request conn (.createTenant t.tenant t.tenant) = .ok r)
    (hw : w.Allowed (client conn) t.tenant true (.asking call) answers) :
    (∃ d ∈ w.all.tail, request conn (.deleteTenant t.tenant) = .ok d) ↔ w.deleting ≠ [] := by
  have hresolving : w.resolving = [r] := by
    rw [hw.creation rfl]
    exact Client.sent_of_ok hr
  rw [WriteRequests.all, hresolving, List.singleton_append, List.tail_cons]
  constructor
  · rintro ⟨d, hmem, hd⟩ hnone
    rw [hnone, List.append_nil] at hmem
    rcases hw.writing_of_asking with hwriting | ⟨q, hq, hwriting⟩
    · rw [hwriting] at hmem
      cases hmem
    · -- A deletion differs from any other request in its method.
      rw [hwriting, List.mem_singleton] at hmem
      have hpost := (method_of_request hq).trans (method_of_call hcall t.tenant)
      rw [← hmem, method_of_request hd] at hpost
      cases hpost
  · intro hsent
    rcases hw.deletion with hnone | ⟨d, hd, hdeleting⟩
    · exact absurd hnone hsent
    · refine ⟨d, ?_, hd⟩
      rw [hdeleting]
      exact List.mem_append_right _ (List.mem_singleton.2 rfl)

/-- **When a created tenant is deleted again.** Let a server answer the creation of the tenant of a
write with a status of success, and let the write fail. Then the deletion is sent exactly if the
body of that answer could be read, the write was not interrupted, and the path of the tenant fits
into an address. -/
theorem deletes_created_iff {name : String} {r : Request} {status : Nat} {bytes : List UInt8}
    {rest : List Answer} {f : Failure} (hc : t.source.Gives (client conn))
    (htenant : t.tenant = .text name) (hcreate : t.create = true)
    (hr : request conn (.createTenant t.tenant t.tenant) = .ok r)
    (hsent : r ∈ (k.run t (.response status bytes :: rest)).requests)
    (hstatus : isSuccess status = true)
    (hfail : (k.run t (.response status bytes :: rest)).ending = .failed f) :
    (∃ d ∈ (k.run t (.response status bytes :: rest)).requests.tail,
        request conn (.deleteTenant t.tenant) = .ok d) ↔
      (∃ v, readResult bytes = .ok v) ∧ ¬ Interrupted conn t k rest ∧
        conn.base.Fits (deletionPath name) := by
  obtain ⟨hcheck, call, hcall⟩ := WriteKind.exists_call_of_sent (List.ne_nil_of_mem hsent)
  have hrun := WriteKind.runs_run_of_call hcheck hcall (.response status bytes :: rest)
  obtain ⟨w, hw, hall⟩ := exists_allowed_of_course
    (Target.course_execute hcheck hc (.asking call) (.response status bytes :: rest))
  have hcreates : Creates (client conn) t.tenant t.create (.response status bytes :: rest) ↔
      ∃ v, readResult bytes = .ok v := by
    rw [← creation_returned_iff hr hstatus rest]
    exact and_iff_right hcreate
  have hfits : (∃ d, request conn (.deleteTenant t.tenant) = .ok d) ↔
      conn.base.Fits (deletionPath name) := by
    rw [htenant]
    exact exists_deletion_iff hr name
  have hoperation : operationRun (client conn) t.tenant t.create (.asking call)
      (.response status bytes :: rest) = (client conn).ask (call t.tenant) rest := by
    rw [hcreate]
    exact operationRun_of_creation hr rest
  -- What is left is when a write deletes its tenant, with each part in terms of the server.
  rw [hrun.requests_eq, hall, deletion_sent_iff hcall hr (hcreate ▸ hw), hw.deletion_iff,
    hcreates]
  constructor
  · rintro ⟨hread, ⟨e, he, hcompensable⟩, hd⟩
    refine ⟨hread, ?_, hfits.1 hd⟩
    rintro ⟨call', m, hcall', hm⟩
    rw [hcall] at hcall'
    cases hcall'
    rw [hoperation, hm] at he
    cases he
    rcases hcompensable with h | h
    · cases h
    · cases h
  · rintro ⟨hread, hnot, hfit⟩
    rw [hrun.ending_eq] at hfail
    refine ⟨hread, ?_, hfits.2 hfit⟩
    have hexecute := Ending.eq_failed_of_void_eq hfail
    refine operationFails_of_failed hcheck hc (hcreates.2 hread) hexecute ?_
    intro m hm
    rw [hoperation] at hm
    exact hnot ⟨call, m, hcall, hm⟩

/-! ## Two creations -/

/-- A tenant that is to be created. -/
def createdTarget : Target Request Answer where
  tenant := .text "acme"
  create := true
  source := .established (client localConnection)

/-- A write of a schema. -/
def schemaWrite : WriteKind := .schema (.text "entity user {}")

/-- The schema of a created tenant is rejected, and the tenant is deleted. -/
theorem rejected_schema_deletes_created :
    createdTarget.source.Gives (client localConnection) ∧ isSuccess 200 = true ∧
      (∃ f, (schemaWrite.run createdTarget
        [.response 200 [], .response 500 [], .response 200 []]).ending = .failed f) ∧
      ∃ d ∈ (schemaWrite.run createdTarget
        [.response 200 [], .response 500 [], .response 200 []]).requests.tail,
          request localConnection (.deleteTenant createdTarget.tenant) = .ok d := by
  have hc : createdTarget.source.Gives (client localConnection) := rfl
  have hfail : ∃ f, (schemaWrite.run createdTarget
      [.response 200 [], .response 500 [], .response 200 []]).ending = .failed f := ⟨_, rfl⟩
  refine ⟨hc, rfl, hfail, ?_⟩
  obtain ⟨f, hfail⟩ := hfail
  refine (deletes_created_iff hc rfl rfl rfl (List.mem_cons_self) rfl hfail).2 ⟨⟨_, rfl⟩, ?_, ?_⟩
  · rintro ⟨call, m, hcall, hm⟩
    cases hcall
    cases hm
  · exact ⟨by decide, by decide, by decide⟩

/-- **A tenant whose creation is answered with something other than JSON is left behind.** The
status says that the tenant was created, the write fails on the body, and no deletion is sent. -/
theorem unread_tenant_not_deleted :
    isSuccess 200 = true ∧
      (∃ r, request localConnection (.createTenant createdTarget.tenant createdTarget.tenant) =
        .ok r ∧ (schemaWrite.run createdTarget [.response 200 [111, 107]]).requests = [r]) ∧
      (schemaWrite.run createdTarget [.response 200 [111, 107]]).ending =
        .failed (.unreadable ⟨.value, 0⟩ ['o', 'k']) ∧
      ¬ ∃ d ∈ (schemaWrite.run createdTarget [.response 200 [111, 107]]).requests.tail,
        request localConnection (.deleteTenant createdTarget.tenant) = .ok d := by
  refine ⟨rfl, ⟨_, rfl, rfl⟩, rfl, ?_⟩
  rintro ⟨d, hmem, -⟩
  exact List.not_mem_nil hmem

end Http

end Rebac
