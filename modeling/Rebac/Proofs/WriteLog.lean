import Rebac.Proofs.Exchanges
import Rebac.Proofs.WriteRequests

set_option autoImplicit false

/-!
# The exchanges of a write

A write exchanges what its resolution, its call and its deletion exchange, in this order. `WriteLog`
says which of the three there are and how the write ends: the tenant is not resolved, the call has
the last word, or the tenant was created, the call fails and the tenant is deleted again
(`log_execute`). Seeding is one write or two in a row (`log_seed`).
-/

namespace Rebac

open Dialogue Write

/-- How a write ends whose call failed, by the ending of the deletion of its tenant. -/
def Ending.ofDeletion (tenant : Value) (cause : Failure) : Ending Value → Ending Unit
  | .returned _ => .failed (cause.withCompensation (.rolledBack tenant cause))
  | .failed r =>
      if r.isOrdinary then .failed (cause.withCompensation (.rollbackFailed tenant cause r))
      else .failed r
  | .waiting => .waiting

/-- A write that rolls back does not return. -/
theorem Ending.ofDeletion_ne_returned (tenant : Value) (cause : Failure) (ending : Ending Value) :
    ending.ofDeletion tenant cause ≠ .returned () := by
  intro h
  cases ending with
  | returned v => cases h
  | failed r =>
      rw [Ending.ofDeletion] at h
      split at h
      · cases h
      · cases h
  | waiting => cases h

/-- What a write of one call exchanges, and how it ends. -/
inductive WriteLog {Req Ans α : Type} (c : Client Req Ans) (tenant : Value) (create : Bool)
    (call : Call α) (answers : List Ans) : List (Req × Ans) → Ending Unit → Prop
  /-- The tenant is not resolved. -/
  | unresolved (hres : ¬ Resolves c tenant create answers) :
      WriteLog c tenant create call answers ((c.resolveTenant tenant create).exchanges answers)
        (c.resolveTenant tenant create answers).ending.void
  /-- The call is the last thing that is done. -/
  | kept {status : TenantResolution} {writing : List (Req × Ans)} {ending : Ending α}
      (hres : (c.resolveTenant tenant create answers).ending = .returned status)
      (hcall : c.Asked call writing ending)
      (hkeep : status = .created → ∀ f, ending = .failed f → f.isCompensable = false) :
      WriteLog c tenant create call answers
        ((c.resolveTenant tenant create).exchanges answers ++ writing) ending.void
  /-- The call fails, and the tenant that was created for it is deleted again. -/
  | undone {f : Failure} {writing deleting : List (Req × Ans)} {ending : Ending Value}
      (hres : (c.resolveTenant tenant create answers).ending = .returned .created)
      (hcall : c.Asked call writing (.failed f))
      (hdelete : c.Asked (.deleteTenant tenant) deleting ending) :
      WriteLog c tenant create call answers
        ((c.resolveTenant tenant create).exchanges answers ++ (writing ++ deleting))
        (ending.ofDeletion tenant f)

/-- **A write returns with its call**, after its tenant has been resolved. -/
theorem WriteLog.of_returned {Req Ans α : Type} {c : Client Req Ans} {tenant : Value}
    {create : Bool} {call : Call α} {answers : List Ans} {log : List (Req × Ans)}
    {ending : Ending Unit} (h : WriteLog c tenant create call answers log ending)
    (hreturned : ending = .returned ()) :
    ∃ status writing v, (c.resolveTenant tenant create answers).ending = .returned status ∧
      c.Asked call writing (.returned v) ∧
        log = (c.resolveTenant tenant create).exchanges answers ++ writing := by
  cases h with
  | unresolved hres => exact absurd (Ending.exists_returned_of_void_eq hreturned) hres
  | kept hres hcall _ =>
      obtain ⟨v, rfl⟩ := Ending.exists_returned_of_void_eq hreturned
      exact ⟨_, _, v, hres, hcall, rfl⟩
  | undone _ _ _ => exact absurd hreturned (Ending.ofDeletion_ne_returned _ _ _)

section WriteLog

variable {Req Ans α : Type} {c : Client Req Ans} {tenant : Value} {create : Bool}
variable {call : Value → Call α} {answers : List Ans}

/-- What the call of a write exchanges, on the answers that the resolution leaves. -/
theorem asked_operation {ending : Ending α}
    (hop : (operationRun c tenant create (.asking call) answers).ending = ending) :
    c.Asked (call tenant) ((operationRun c tenant create (.asking call) answers).requests.zip
      (c.resolveTenant tenant create answers).rest) ending := by
  rw [← hop]
  exact c.asked (call tenant) _

/-- What the deletion at the end of a write exchanges, on the answers that the call leaves. -/
theorem asked_deletion {ending : Ending Value}
    (hdel : (deletionRun c tenant create (.asking call) answers).ending = ending) :
    c.Asked (.deleteTenant tenant) ((c.sent (.deleteTenant tenant)).zip
      (operationRun c tenant create (.asking call) answers).rest) ending := by
  rw [← hdel, ← c.requests_ask (.deleteTenant tenant)]
  exact c.asked (.deleteTenant tenant) _

/-- The requests of a write whose tenant is resolved, with their answers. -/
theorem zip_of_resolved {status : TenantResolution}
    (hres : (c.resolveTenant tenant create answers).ending = .returned status)
    (requests : List Req) :
    ((c.resolveTenant tenant create answers).requests ++ requests).zip answers =
      (c.resolveTenant tenant create).exchanges answers ++
        requests.zip (c.resolveTenant tenant create answers).rest :=
  (c.isOrderly_resolveTenant tenant create answers).zip_append (by simp [hres]) requests

/-- The requests behind a call that has ended, with their answers. -/
theorem zip_of_called
    (hop : (operationRun c tenant create (.asking call) answers).ending ≠ .waiting)
    (requests : List Req) :
    ((operationRun c tenant create (.asking call) answers).requests ++ requests).zip
        (c.resolveTenant tenant create answers).rest =
      (operationRun c tenant create (.asking call) answers).requests.zip
          (c.resolveTenant tenant create answers).rest ++
        requests.zip (operationRun c tenant create (.asking call) answers).rest :=
  (c.isOrderly_ask (call tenant) _).zip_append hop requests

/-- A write that rolls back ends as its deletion says. -/
theorem WriteLog.of_deletion {f : Failure} {ending : Ending Value}
    (hres : (c.resolveTenant tenant create answers).ending = .returned .created)
    (hop : (operationRun c tenant create (.asking call) answers).ending = .failed f)
    (hdel : (deletionRun c tenant create (.asking call) answers).ending = ending) :
    WriteLog c tenant create (call tenant) answers
      (((c.resolveTenant tenant create answers).requests ++
        ((operationRun c tenant create (.asking call) answers).requests ++
          c.sent (.deleteTenant tenant))).zip answers) (ending.ofDeletion tenant f) := by
  rw [zip_of_resolved hres, zip_of_called (by simp [hop])]
  exact .undone hres (asked_operation hop) (asked_deletion hdel)

/-- A write to a tenant that is only looked for ends without its call, or it sends its call last and
ends as that does. -/
theorem WriteCourse.of_search {requests : List Req} {ending : Ending (Written α)}
    (h : WriteCourse c tenant false (.asking call) answers requests ending) :
    ((c.hasTenant tenant defaultPageSize answers).ending ≠ .returned true ∧
      requests = (c.hasTenant tenant defaultPageSize answers).requests ∧
        ∀ w, ending ≠ .returned w) ∨
    ((c.hasTenant tenant defaultPageSize answers).ending = .returned true ∧
      requests =
        (c.hasTenant tenant defaultPageSize answers).requests ++ c.sent (call tenant) ∧
      ∃ called, c.Asked (call tenant) ((c.sent (call tenant)).zip
          (c.hasTenant tenant defaultPageSize answers).rest) called ∧
        ending.void = called.void) := by
  have hsearch := c.runs_resolveTenant_search tenant answers
  have hsent : (operationRun c tenant false (.asking call) answers).requests =
      c.sent (call tenant) := c.requests_ask _ _
  have hfound : ∀ {status}, (c.resolveTenant tenant false answers).ending = .returned status ↔
      (c.hasTenant tenant defaultPageSize answers).ending = .returned true ∧
        status = .existing := by
    rw [hsearch.ending_eq]
    exact Ending.ofSearch_eq_returned_iff
  have hlost (hnot : ∀ status, (c.resolveTenant tenant false answers).ending ≠ .returned status) :
      (c.hasTenant tenant defaultPageSize answers).ending ≠ .returned true :=
    fun htrue => hnot .existing (hfound.2 ⟨htrue, rfl⟩)
  rw [← hsent, ← hsearch.requests_eq, ← hsearch.rest_eq]
  cases h with
  | unresolved hres => exact Or.inl ⟨hlost (by simp [hres]), rfl, by simp⟩
  | resolving hres => exact Or.inl ⟨hlost (by simp [hres]), rfl, by simp⟩
  | returned hres hop => exact Or.inr ⟨(hfound.1 hres).1, rfl, _, asked_operation hop, rfl⟩
  | writing hres hop => exact Or.inr ⟨(hfound.1 hres).1, rfl, _, asked_operation hop, rfl⟩
  | passedOn hres hop _ => exact Or.inr ⟨(hfound.1 hres).1, rfl, _, asked_operation hop, rfl⟩
  | rolledBack hres _ _ _ => cases (hfound.1 hres).2
  | rollbackFailed hres _ _ _ _ => cases (hfound.1 hres).2
  | rollbackStopped hres _ _ _ _ => cases (hfound.1 hres).2
  | rollingBack hres _ _ _ => cases (hfound.1 hres).2

/-- **Every course of a write exchanges what its parts exchange.** -/
theorem WriteCourse.log {requests : List Req} {ending : Ending (Written α)}
    (h : WriteCourse c tenant create (.asking call) answers requests ending) :
    WriteLog c tenant create (call tenant) answers (requests.zip answers) ending.void := by
  cases h with
  | unresolved hres =>
      have hlog : WriteLog c tenant create (call tenant) answers _ _ :=
        .unresolved (not_resolves_of_failed hres)
      rw [hres] at hlog
      exact hlog
  | resolving hres =>
      have hlog : WriteLog c tenant create (call tenant) answers _ _ :=
        .unresolved (not_resolves_of_waiting hres)
      rw [hres] at hlog
      exact hlog
  | returned hres hop =>
      rw [zip_of_resolved hres]
      exact .kept hres (asked_operation hop) (by simp)
  | writing hres hop =>
      rw [zip_of_resolved hres]
      exact .kept hres (asked_operation hop) (by simp)
  | passedOn hres hop hkeep =>
      rw [zip_of_resolved hres]
      refine .kept hres (asked_operation hop) ?_
      rintro rfl g hg
      cases hg
      simpa using hkeep
  | rolledBack hres hop hundo hdel => exact .of_deletion hres hop hdel
  | rollbackFailed hres hop hundo hdel hordinary =>
      have hlog := WriteLog.of_deletion hres hop hdel
      rw [Ending.ofDeletion, if_pos hordinary] at hlog
      exact hlog
  | rollbackStopped hres hop hundo hdel hstop =>
      have hlog := WriteLog.of_deletion hres hop hdel
      rw [Ending.ofDeletion, if_neg (by simp [hstop])] at hlog
      exact hlog
  | rollingBack hres hop hundo hdel => exact .of_deletion hres hop hdel

end WriteLog

/-! ## Kinds of writes -/

/-- Whether a call writes data of a tenant. -/
def Call.isWrite {α : Type} : Call α → Bool
  | .writeSchema _ _ | .writeRelationships _ _ _ | .deleteRelationships _ _ => true
  | _ => false

namespace WriteKind

variable {Req Ans : Type}

theorem isWrite_of_call {k : WriteKind} {call : Value → Call Value} (h : k.call = .ok call)
    (tenant : Value) : (call tenant).isWrite = true := by
  rcases payload_of_call h with ⟨_, _, -, -, rfl⟩ | ⟨_, _, _, _, -, -, -, rfl⟩ | ⟨_, _, -, -, rfl⟩
  · rfl
  · rfl
  · rfl

/-- The operation of a write is started: its parameters are accepted, there is a client, and the
tenant is resolved. -/
def Starts (k : WriteKind) (t : Target Req Ans) (answers : List Ans) : Prop :=
  t.check = .ok () ∧ (∃ call, k.call = .ok call) ∧
    ∃ c, t.source.Gives c ∧ Resolves c t.tenant t.create answers

/-- **What every write exchanges.** A write is rejected and exchanges nothing, or it exchanges what
the workflow around its one call does. -/
theorem log_run (t : Target Req Ans) (k : WriteKind) (answers : List Ans) :
    (¬ k.Starts t answers ∧ ∃ g, Runs (k.run t) answers [] (.failed g) answers) ∨
      ∃ c call, t.check = .ok () ∧ t.source.Gives c ∧ k.call = .ok call ∧
        WriteLog c t.tenant t.create (call t.tenant) answers ((k.run t).exchanges answers)
          (k.run t answers).ending := by
  cases hcheck : t.check with
  | error p =>
      refine Or.inl ⟨?_, .parameter p, ?_⟩
      · rintro ⟨hok, -⟩
        rw [hcheck] at hok
        cases hok
      · rw [run_of_check_error hcheck]
        exact Runs.fail _ _
  | ok u =>
      cases hcall : k.call with
      | error g =>
          refine Or.inl ⟨?_, g, ?_⟩
          · rintro ⟨-, ⟨call, hok⟩, -⟩
            rw [hcall] at hok
            cases hok
          · rw [run_of_call_error hcheck hcall]
            exact Runs.fail _ _
      | ok call =>
          have hrun := runs_run_of_call hcheck hcall answers
          rcases t.source.gives_or_refuses with ⟨c, hc⟩ | ⟨f, hf⟩
          · refine Or.inr ⟨c, call, rfl, hc, rfl, ?_⟩
            rw [exchanges_of_runs hrun, hrun.ending_eq]
            exact (Target.course_execute hcheck hc (.asking call) answers).log
          · refine Or.inl ⟨?_, f, ?_⟩
            · rintro ⟨-, -, c, hc, -⟩
              exact t.source.not_gives_of_refuses hf c hc
            · rw [Target.execute_of_rejects (Or.inr ⟨hcheck, hf⟩)] at hrun
              exact hrun

end WriteKind

/-! ## Seeding -/

/-- What a write to this tenant exchanges with a client of this source; nothing, if it is
rejected. -/
def IsWriteLog {Req Ans : Type} (s : Source Req Ans) (tenant : Value) (log : List (Req × Ans)) :
    Prop :=
  log = [] ∨ ∃ c create answers ending, ∃ call : Call Value, s.Gives c ∧
    call.isWrite = true ∧ call.tenant? = some tenant ∧
      WriteLog c tenant create call answers log ending

namespace Target

variable {Req Ans : Type}

theorem isWriteLog_run (t : Target Req Ans) (k : WriteKind) (answers : List Ans) :
    IsWriteLog t.source t.tenant ((k.run t).exchanges answers) := by
  rcases k.log_run t answers with ⟨-, g, hrun⟩ | ⟨c, call, -, hc, hcall, hlog⟩
  · exact Or.inl (exchanges_of_runs hrun)
  · exact Or.inr ⟨c, _, _, _, _, hc, WriteKind.isWrite_of_call hcall _,
      WriteKind.tenant?_of_call hcall _, hlog⟩

/-- What any one call that writes exchanges, whatever is noted afterwards. -/
theorem isWriteLog_execute {β : Type} (t : Target Req Ans) (call : Value → Call Value)
    {k : Written Value → Dialogue Req Ans β} (hwrite : ∀ tenant, (call tenant).isWrite = true)
    (htenant : ∀ tenant, (call tenant).tenant? = some tenant)
    (hk : ∀ outcome answers, (k outcome).exchanges answers = []) (answers : List Ans) :
    IsWriteLog t.source t.tenant ((t.execute (.asking call) >>= k).exchanges answers) := by
  have horderly : (t.execute (.asking call)).IsOrderly :=
    t.isOrderly_execute fun c tenant => c.isOrderly_ask (call tenant)
  rw [exchanges_bind_of_quiet (horderly answers) hk]
  rcases t.rejects_or_gives with ⟨f, hf⟩ | ⟨hcheck, c, hc⟩
  · rw [execute_of_rejects hf]
    exact Or.inl rfl
  · exact Or.inr ⟨c, _, _, _, _, hc, hwrite _, htenant _,
      (course_execute hcheck hc (.asking call) answers).log⟩

theorem isWriteLog_sendRelationships {β : Type} (t : Target Req Ans) (records : List Value)
    (schemaVersion : Value) {k : RelationshipsWritten → Dialogue Req Ans β}
    (hk : ∀ outcome answers, (k outcome).exchanges answers = []) (answers : List Ans) :
    IsWriteLog t.source t.tenant
      ((t.sendRelationships records schemaVersion >>= k).exchanges answers) := by
  rw [sendRelationships, bind_assoc]
  cases Relationship.payload records with
  | error f => exact Or.inl rfl
  | ok tuples =>
      simp only [ofExcept_ok, pure_bind, bind_assoc]
      refine t.isWriteLog_execute (fun tenant => .writeRelationships tenant tuples schemaVersion)
        (fun _ => rfl) (fun _ => rfl) ?_ answers
      intro outcome rest
      exact hk _ rest

theorem isWriteLog_writeRelationships {β : Type} (t : Target Req Ans) (tuples version : Value)
    {k : RelationshipsWritten → Dialogue Req Ans β}
    (hk : ∀ outcome answers, (k outcome).exchanges answers = []) (answers : List Ans) :
    IsWriteLog t.source t.tenant
      ((t.writeRelationships tuples version >>= k).exchanges answers) := by
  unfold writeRelationships
  cases hcheck : t.check with
  | error p =>
      rw [executeWith_of_check_error hcheck]
      exact Or.inl rfl
  | ok u =>
      cases hrecords : Relationship.required tuples with
      | error f =>
          rw [executeWith_of_payload_error hcheck rfl]
          exact Or.inl rfl
      | ok records =>
          rw [executeWith_of_payload hcheck rfl]
          exact t.isWriteLog_sendRelationships records version hk answers

/-- Clearing a tenant is the deletion of all its relationships. -/
theorem isWriteLog_clear (t : Target Req Ans) (answers : List Ans) :
    IsWriteLog t.source t.tenant (t.clear.exchanges answers) :=
  { t with create := false }.isWriteLog_run (.deletion (.relationshipFilter .none .none .none))
    answers

theorem isOrderly_clear (t : Target Req Ans) : t.clear.IsOrderly :=
  (isOrderly_log _ _ _).bind fun _ =>
    ({ t with create := false }.isOrderly_deleteRelationships _).bind fun _ => isOrderly_pure _

/-- **What seeding exchanges.** Seeding is one write after another, or one of them, or none. -/
theorem log_seed (t : Target Req Ans) (tuples mode : Value) (answers : List Ans) :
    ∃ first second, (t.seedRelationships tuples mode).exchanges answers = first ++ second ∧
      IsWriteLog t.source t.tenant first ∧ IsWriteLog t.source t.tenant second := by
  unfold seedRelationships
  cases hcheck : t.check with
  | error p =>
      rw [executeWith_of_check_error hcheck]
      exact ⟨[], [], rfl, Or.inl rfl, Or.inl rfl⟩
  | ok u =>
      cases hpayload : seedPayload tuples mode with
      | error f =>
          rw [executeWith_of_payload_error hcheck rfl]
          exact ⟨[], [], rfl, Or.inl rfl, Or.inl rfl⟩
      | ok payload =>
          rw [executeWith_of_payload hcheck rfl]
          obtain ⟨m, records⟩ := payload
          cases records with
          | nil => exact ⟨[], [], rfl, Or.inl rfl, Or.inl rfl⟩
          | cons record records =>
              have hwrite : ∀ replaced answers, IsWriteLog t.source t.tenant
                  ((t.writeRelationships (.list (record :: records)) >>= fun w =>
                    pure { w with replaced := replaced }).exchanges answers) :=
                fun _ answers => t.isWriteLog_writeRelationships _ _ (fun _ _ => rfl) answers
              cases m with
              | append => exact ⟨[], _, rfl, Or.inl rfl, hwrite false answers⟩
              | replace =>
                  dsimp only
                  rw [t.seedRecords_replace (List.cons_ne_nil _ _)]
                  cases hend : (t.clear answers).ending with
                  | returned v =>
                      rw [exchanges_bind (t.isOrderly_clear answers) hend]
                      exact ⟨_, _, rfl, t.isWriteLog_clear answers, hwrite true _⟩
                  | failed f =>
                      rw [exchanges_bind_of_not_returned (by simp [hend])]
                      exact ⟨_, [], (List.append_nil _).symm, t.isWriteLog_clear answers,
                        Or.inl rfl⟩
                  | waiting =>
                      rw [exchanges_bind_of_not_returned (by simp [hend])]
                      exact ⟨_, [], (List.append_nil _).symm, t.isWriteLog_clear answers,
                        Or.inl rfl⟩

end Target

end Rebac
