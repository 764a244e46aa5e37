import Rebac.Client.Call
import Rebac.Proofs.Compensation
import Rebac.Proofs.WriteKind

set_option autoImplicit false

/-!
# The outcome of a write

Once its tenant is resolved, a write ends by how its operation ends and, if the tenant was created
for it, by how the deletion of the tenant ends (`outcome_of_execute`). The request of the deletion
is sent in the latter case only, and last. A deletion that returns or fails leads to a failure that
holds that of the operation. A deletion that is cancelled or interrupted ends the write with its own
failure, and the failure of the operation is lost (`carried_iff_of_execute`).
-/

namespace Rebac

open Write

section Outcome

variable {Req Ans α : Type}

/-- What a write sends and how it ends once its tenant is resolved, by the runs of its operation and
of the deletion of its tenant. The request of the deletion, if it can be made, is `undo`. -/
structure WriteOutcome (tenant : Value) (status : TenantResolution) (resolving undo : List Req)
    (operating : Run Req Ans α) (deleting : Run Req Ans Value)
    (write : Run Req Ans (Written α)) : Prop where
  /-- The operation returns. -/
  returned : ∀ a, operating.ending = .returned a →
    write.ending = .returned ⟨a, status⟩ ∧ write.requests = resolving ++ operating.requests
  /-- The operation fails or is cancelled, and the tenant existed before. -/
  kept : ∀ e, operating.ending = .failed e → status = .existing →
    write.ending = .failed e ∧ write.requests = resolving ++ operating.requests
  /-- The operation is cancelled, and the tenant existed before: the cancellation gets no cause. -/
  cancelledKept : ∀ m, operating.ending = .failed (.cancelled m) → status = .existing →
    ∃ f, write.ending = .failed f ∧ f = .cancelled m ∧ f.cause? = none
  /-- The operation fails, and the created tenant is deleted. -/
  rolledBack : ∀ e v, operating.ending = .failed e → e.isOrdinary = true → status = .created →
    deleting.ending = .returned v →
    write.ending = .failed (.rolledBack tenant e true) ∧
      write.requests = resolving ++ (operating.requests ++ undo)
  /-- The operation fails, and so does the deletion of the created tenant. -/
  rollbackFailed : ∀ e r, operating.ending = .failed e → e.isOrdinary = true →
    status = .created → deleting.ending = .failed r → r.isOrdinary = true →
    write.ending = .failed (.rollbackFailed tenant e r true) ∧
      write.requests = resolving ++ (operating.requests ++ undo)
  /-- The operation is cancelled, and the created tenant is deleted. -/
  cancelledRolledBack : ∀ e v, operating.ending = .failed e → e.isCancellation = true →
    status = .created → deleting.ending = .returned v →
    write.ending = .failed (.compensated e.text (.rolledBack tenant e false)) ∧
      write.requests = resolving ++ (operating.requests ++ undo)
  /-- The operation is cancelled, and the deletion of the created tenant fails. -/
  cancelledRollbackFailed : ∀ e r, operating.ending = .failed e → e.isCancellation = true →
    status = .created → deleting.ending = .failed r → r.isOrdinary = true →
    write.ending = .failed (.compensated e.text (.rollbackFailed tenant e r false)) ∧
      write.requests = resolving ++ (operating.requests ++ undo)

variable {t : Target Req Ans} {c : Client Req Ans} {operation : WriteOperation Req Ans α}
variable {answers : List Ans}

/-- The requests of a write that deletes its tenant again: those of its parts, one after another. -/
abbrev undoneRequests (t : Target Req Ans) (c : Client Req Ans)
    (operation : WriteOperation Req Ans α) (answers : List Ans) : List Req :=
  (c.resolveTenant t.tenant t.create answers).requests ++
    ((operationRun c t.tenant t.create operation answers).requests ++
      c.sent (.deleteTenant t.tenant))

/-- A write whose operation fails after its tenant was created, and whose deletion returns. -/
theorem run_of_rolledBack {e : Failure} {v : Value} (hcheck : t.check = .ok ())
    (hc : t.source.Gives c)
    (hres : (c.resolveTenant t.tenant t.create answers).ending = .returned .created)
    (hop : (operationRun c t.tenant t.create operation answers).ending = .failed e)
    (hundo : e.isCompensable = true)
    (hdel : (deletionRun c t.tenant t.create operation answers).ending = .returned v) :
    (t.execute operation answers).ending =
        .failed (e.withCompensation (.rolledBack t.tenant e)) ∧
      (t.execute operation answers).requests = undoneRequests t c operation answers := by
  obtain ⟨rest, hrun⟩ :=
    Target.runs_execute_of_course hcheck hc (.rolledBack hres hop hundo hdel)
  exact ⟨hrun.ending_eq, hrun.requests_eq⟩

/-- A write whose operation fails after its tenant was created, and whose deletion fails. -/
theorem run_of_rollbackFailed {e r : Failure} (hcheck : t.check = .ok ())
    (hc : t.source.Gives c)
    (hres : (c.resolveTenant t.tenant t.create answers).ending = .returned .created)
    (hop : (operationRun c t.tenant t.create operation answers).ending = .failed e)
    (hundo : e.isCompensable = true)
    (hdel : (deletionRun c t.tenant t.create operation answers).ending = .failed r)
    (hr : r.isOrdinary = true) :
    (t.execute operation answers).ending =
        .failed (e.withCompensation (.rollbackFailed t.tenant e r)) ∧
      (t.execute operation answers).requests = undoneRequests t c operation answers := by
  obtain ⟨rest, hrun⟩ :=
    Target.runs_execute_of_course hcheck hc (.rollbackFailed hres hop hundo hdel hr)
  exact ⟨hrun.ending_eq, hrun.requests_eq⟩

/-- A write whose operation fails after its tenant was created, and whose deletion is stopped. -/
theorem ending_of_rollbackStopped {e r : Failure} (hcheck : t.check = .ok ())
    (hc : t.source.Gives c)
    (hres : (c.resolveTenant t.tenant t.create answers).ending = .returned .created)
    (hop : (operationRun c t.tenant t.create operation answers).ending = .failed e)
    (hundo : e.isCompensable = true)
    (hdel : (deletionRun c t.tenant t.create operation answers).ending = .failed r)
    (hr : r.isOrdinary = false) :
    (t.execute operation answers).ending = .failed r := by
  obtain ⟨rest, hrun⟩ :=
    Target.runs_execute_of_course hcheck hc (.rollbackStopped hres hop hundo hdel hr)
  exact hrun.ending_eq

/-- **The outcome of every write whose tenant is resolved.** It is that of its operation if the
operation returns or the tenant existed before, and a compensation failure otherwise. The deletion
is asked for in the latter case, after everything else. Compensation failures show the tenant and
describe what they hold by its text, or else by its class. -/
theorem outcome_of_execute {status : TenantResolution} (hcheck : t.check = .ok ())
    (hc : t.source.Gives c)
    (hres : (c.resolveTenant t.tenant t.create answers).ending = .returned status) :
    WriteOutcome t.tenant status (c.resolveTenant t.tenant t.create answers).requests
        (c.sent (.deleteTenant t.tenant))
        (operationRun c t.tenant t.create operation answers)
        (deletionRun c t.tenant t.create operation answers) (t.execute operation answers) ∧
      (∀ e chained, (Failure.rolledBack t.tenant e chained).IsRolledBack t.tenant e
        (if chained then some e else none)) ∧
      (∀ e r chained, (Failure.rollbackFailed t.tenant e r chained).IsRollbackFailed t.tenant e r
        (if chained then some e else none)) ∧
      ∀ e : Failure, (e.text ≠ "" → e.describe = e.text) ∧ (e.text = "" → e.describe = e.kind) ∧
        (e.describe = "" → e = .raised "" "") := by
  refine ⟨?_, Failure.isRolledBack t.tenant, Failure.isRollbackFailed t.tenant, ?_⟩
  · constructor
    case returned =>
      intro a hop
      obtain ⟨rest, hrun⟩ := Target.runs_execute_of_course hcheck hc (.returned hres hop)
      exact ⟨hrun.ending_eq, hrun.requests_eq⟩
    case kept =>
      intro e hop hstatus
      obtain ⟨rest, hrun⟩ :=
        Target.runs_execute_of_course hcheck hc (.passedOn hres hop (Or.inl hstatus))
      exact ⟨hrun.ending_eq, hrun.requests_eq⟩
    case cancelledKept =>
      intro m hop hstatus
      obtain ⟨rest, hrun⟩ :=
        Target.runs_execute_of_course hcheck hc (.passedOn hres hop (Or.inl hstatus))
      exact ⟨_, hrun.ending_eq, rfl, rfl⟩
    case rolledBack =>
      rintro e v hop he rfl hdel
      have hundo := e.isCompensable_iff.2 (Or.inl he)
      obtain ⟨hend, hrequests⟩ := run_of_rolledBack hcheck hc hres hop hundo hdel
      rw [Failure.withCompensation_of_ordinary he] at hend
      exact ⟨hend, hrequests⟩
    case rollbackFailed =>
      rintro e r hop he rfl hdel hr
      have hundo := e.isCompensable_iff.2 (Or.inl he)
      obtain ⟨hend, hrequests⟩ := run_of_rollbackFailed hcheck hc hres hop hundo hdel hr
      rw [Failure.withCompensation_of_ordinary he] at hend
      exact ⟨hend, hrequests⟩
    case cancelledRolledBack =>
      rintro e v hop he rfl hdel
      have hundo := e.isCompensable_iff.2 (Or.inr he)
      obtain ⟨hend, hrequests⟩ := run_of_rolledBack hcheck hc hres hop hundo hdel
      rw [Failure.withCompensation_of_cancellation he] at hend
      exact ⟨hend, hrequests⟩
    case cancelledRollbackFailed =>
      rintro e r hop he rfl hdel hr
      have hundo := e.isCompensable_iff.2 (Or.inr he)
      obtain ⟨hend, hrequests⟩ := run_of_rollbackFailed hcheck hc hres hop hundo hdel hr
      rw [Failure.withCompensation_of_cancellation he] at hend
      exact ⟨hend, hrequests⟩
  · intro e
    exact ⟨Failure.describe_of_text, Failure.describe_of_no_text, Failure.eq_of_describe_eq_empty⟩

end Outcome

/-- A tenant that is to be created, with a scripted client. -/
def scriptedTarget : Target CallText ScriptedAnswer where
  tenant := .text "acme"
  create := true
  source := .established Client.scripted

/-- An operation that sends nothing and fails. -/
def rejectedWrite : WriteOperation CallText ScriptedAnswer Value :=
  fun _ _ => Dialogue.fail (.raised "RuntimeError" "write rejected")

/-- The operation fails, and the tenant that was created for it is deleted. -/
theorem outcome_of_rejected_write :
    scriptedTarget.check = .ok () ∧ scriptedTarget.source.Gives Client.scripted ∧
      (Client.scripted.resolveTenant scriptedTarget.tenant scriptedTarget.create
        [{}, {}]).ending = .returned .created ∧
      (scriptedTarget.execute rejectedWrite [{}, {}]).ending =
        .failed (.rolledBack (.text "acme") (.raised "RuntimeError" "write rejected") true) ∧
      (scriptedTarget.execute rejectedWrite [{}, {}]).requests =
        [(Call.createTenant (.text "acme") (.text "acme")).text,
          (Call.deleteTenant (.text "acme")).text] := by
  have hcheck : scriptedTarget.check = .ok () := rfl
  have hc : scriptedTarget.source.Gives Client.scripted := rfl
  have hres : (Client.scripted.resolveTenant scriptedTarget.tenant scriptedTarget.create
      [{}, {}]).ending = .returned .created := rfl
  exact ⟨hcheck, hc, hres, (outcome_of_execute hcheck hc hres).1.rolledBack _ .none rfl rfl rfl rfl⟩

/-! ## What becomes of the failure of the operation -/

section Carried

variable {Req Ans α : Type} {t : Target Req Ans} {c : Client Req Ans}
variable {operation : WriteOperation Req Ans α} {answers : List Ans}

/-- **When the failure of the operation survives the rollback.** Once the deletion of the tenant has
ended, the failure of the write carries that of the operation exactly if the deletion was not
stopped. A cancellation or an interruption of the deletion takes its place, and nothing of an
ordinary failure is left. -/
theorem carried_iff_of_execute {e : Failure} (hcheck : t.check = .ok ()) (hc : t.source.Gives c)
    (hres : (c.resolveTenant t.tenant t.create answers).ending = .returned .created)
    (hop : (operationRun c t.tenant t.create operation answers).ending = .failed e)
    (he : e.isOrdinary = true ∨ e.isCancellation = true)
    (hended : (deletionRun c t.tenant t.create operation answers).ending ≠ .waiting) :
    ((∃ f, (t.execute operation answers).ending = .failed f ∧ f.Carries e) ↔
        ∀ r, (deletionRun c t.tenant t.create operation answers).ending = .failed r →
          r.isOrdinary = false → r.Carries e) ∧
      (∀ r, (deletionRun c t.tenant t.create operation answers).ending = .failed r →
        r.isOrdinary = false → (t.execute operation answers).ending = .failed r) ∧
      ∀ m, (deletionRun c t.tenant t.create operation answers).ending = .failed (.cancelled m) →
        e.isOrdinary = true → ∀ f, (t.execute operation answers).ending = .failed f →
          ¬ f.Carries e := by
  have hundo := e.isCompensable_iff.2 he
  have hstopped : ∀ r, (deletionRun c t.tenant t.create operation answers).ending = .failed r →
      r.isOrdinary = false → (t.execute operation answers).ending = .failed r :=
    fun r hdel hr => ending_of_rollbackStopped hcheck hc hres hop hundo hdel hr
  refine ⟨⟨?_, ?_⟩, hstopped, ?_⟩
  · rintro ⟨f, hf, hcarries⟩ r hdel hr
    rw [hstopped r hdel hr] at hf
    cases hf
    exact hcarries
  · intro hcarries
    -- A deletion that returns or fails yields a compensation failure about the operation's.
    cases hdel : (deletionRun c t.tenant t.create operation answers).ending with
    | returned v =>
        exact ⟨_, (run_of_rolledBack hcheck hc hres hop hundo hdel).1,
          Failure.carries_withCompensation hundo fun _ => rfl⟩
    | waiting => exact absurd hdel hended
    | failed r =>
        cases hr : r.isOrdinary with
        | true =>
            exact ⟨_, (run_of_rollbackFailed hcheck hc hres hop hundo hdel hr).1,
              Failure.carries_withCompensation hundo fun _ => rfl⟩
        | false => exact ⟨r, hstopped r hdel hr, hcarries r hdel hr⟩
  · intro m hdel hordinary f hf
    rw [hstopped _ hdel rfl] at hf
    cases hf
    exact Failure.not_carries_of_cancelled hordinary m

end Carried

/-- A deletion that fails does not hide the failure of the operation. -/
theorem rejected_write_carried :
    scriptedTarget.check = .ok () ∧ scriptedTarget.source.Gives Client.scripted ∧
      (deletionRun Client.scripted scriptedTarget.tenant scriptedTarget.create rejectedWrite
        [{}, { failure := some .timeout }]).ending = .failed .timeout ∧
      ∃ f, (scriptedTarget.execute rejectedWrite [{}, { failure := some .timeout }]).ending =
        .failed f ∧ f.Carries (.raised "RuntimeError" "write rejected") := by
  have hcheck : scriptedTarget.check = .ok () := rfl
  have hc : scriptedTarget.source.Gives Client.scripted := rfl
  have hdel : (deletionRun Client.scripted scriptedTarget.tenant scriptedTarget.create rejectedWrite
      [{}, { failure := some .timeout }]).ending = .failed .timeout := rfl
  refine ⟨hcheck, hc, hdel, ?_⟩
  refine (carried_iff_of_execute hcheck hc rfl rfl (Or.inl rfl) (by simp [hdel])).1.2 ?_
  intro r hr hstop
  rw [hdel] at hr
  cases hr
  cases hstop

/-- **A cancelled deletion hides the failure of the operation.** The tenant is created, the
operation fails, and the write ends as if it had only been cancelled. -/
theorem rejected_write_lost :
    (Client.scripted.resolveTenant scriptedTarget.tenant scriptedTarget.create
        [{}, { failure := some (.cancelled "") }]).ending = .returned .created ∧
      (operationRun Client.scripted scriptedTarget.tenant scriptedTarget.create rejectedWrite
        [{}, { failure := some (.cancelled "") }]).ending =
          .failed (.raised "RuntimeError" "write rejected") ∧
      (scriptedTarget.execute rejectedWrite [{}, { failure := some (.cancelled "") }]).ending =
        .failed (.cancelled "") ∧
      ¬ (Failure.cancelled "").Carries (.raised "RuntimeError" "write rejected") :=
  ⟨rfl, rfl, rfl, Failure.not_carries_of_cancelled rfl ""⟩

end Rebac
