import Rebac.Proofs.TenantResolution
import Rebac.Write.Workflow

set_option autoImplicit false

/-!
# The courses of a write

A write resolves its tenant, runs its operation and, if the operation fails after the tenant was
created for it, deletes the tenant again. `WriteCourse` lists what can happen, with the requests and
the ending of each course: it stops while the tenant is resolved, it ends with its operation, or it
rolls back in one of four ways. Every write has a course, the workflow runs as its course says
(`WriteCourse.runs`), and so every run takes one of the courses (`WriteCourse.of_runWith`). What is
proved of writes elsewhere is proved by cases on the course.
-/

namespace Rebac

namespace Write

variable {Req Ans α : Type}

/-- The run of the operation of a write, on the answers that the resolution leaves. -/
def operationRun (c : Client Req Ans) (tenant : Value) (create : Bool)
    (operation : WriteOperation Req Ans α) (answers : List Ans) : Run Req Ans α :=
  operation c tenant (c.resolveTenant tenant create answers).rest

/-- The run of the deletion that undoes a creation, on the answers that the operation leaves. -/
def deletionRun (c : Client Req Ans) (tenant : Value) (create : Bool)
    (operation : WriteOperation Req Ans α) (answers : List Ans) : Run Req Ans Value :=
  c.ask (.deleteTenant tenant) (operationRun c tenant create operation answers).rest

end Write

open Write

/-- What can happen in a write, with the requests and the ending of it. -/
inductive WriteCourse {Req Ans α : Type} (c : Client Req Ans) (tenant : Value) (create : Bool)
    (operation : WriteOperation Req Ans α) (answers : List Ans) :
    List Req → Ending (Written α) → Prop
  /-- The tenant cannot be resolved. -/
  | unresolved {f : Failure}
      (hres : (c.resolveTenant tenant create answers).ending = .failed f) :
      WriteCourse c tenant create operation answers
        (c.resolveTenant tenant create answers).requests (.failed f)
  /-- The resolution waits for an answer. -/
  | resolving (hres : (c.resolveTenant tenant create answers).ending = .waiting) :
      WriteCourse c tenant create operation answers
        (c.resolveTenant tenant create answers).requests .waiting
  /-- The operation returns. -/
  | returned {status : TenantResolution} {a : α}
      (hres : (c.resolveTenant tenant create answers).ending = .returned status)
      (hop : (operationRun c tenant create operation answers).ending = .returned a) :
      WriteCourse c tenant create operation answers
        ((c.resolveTenant tenant create answers).requests ++
          (operationRun c tenant create operation answers).requests)
        (.returned ⟨a, status⟩)
  /-- The operation waits for an answer. -/
  | writing {status : TenantResolution}
      (hres : (c.resolveTenant tenant create answers).ending = .returned status)
      (hop : (operationRun c tenant create operation answers).ending = .waiting) :
      WriteCourse c tenant create operation answers
        ((c.resolveTenant tenant create answers).requests ++
          (operationRun c tenant create operation answers).requests)
        .waiting
  /-- The operation fails, and there is nothing to undo or the program is interrupted. -/
  | passedOn {status : TenantResolution} {f : Failure}
      (hres : (c.resolveTenant tenant create answers).ending = .returned status)
      (hop : (operationRun c tenant create operation answers).ending = .failed f)
      (hkeep : status = .existing ∨ f.isCompensable = false) :
      WriteCourse c tenant create operation answers
        ((c.resolveTenant tenant create answers).requests ++
          (operationRun c tenant create operation answers).requests)
        (.failed f)
  /-- The operation fails, and the tenant that was created for it is deleted again. -/
  | rolledBack {f : Failure} {v : Value}
      (hres : (c.resolveTenant tenant create answers).ending = .returned .created)
      (hop : (operationRun c tenant create operation answers).ending = .failed f)
      (hundo : f.isCompensable = true)
      (hdel : (deletionRun c tenant create operation answers).ending = .returned v) :
      WriteCourse c tenant create operation answers
        ((c.resolveTenant tenant create answers).requests ++
          ((operationRun c tenant create operation answers).requests ++
            c.sent (.deleteTenant tenant)))
        (.failed (f.withCompensation (.rolledBack tenant f)))
  /-- The operation fails, and the deletion of the tenant fails, too. -/
  | rollbackFailed {f r : Failure}
      (hres : (c.resolveTenant tenant create answers).ending = .returned .created)
      (hop : (operationRun c tenant create operation answers).ending = .failed f)
      (hundo : f.isCompensable = true)
      (hdel : (deletionRun c tenant create operation answers).ending = .failed r)
      (hordinary : r.isOrdinary = true) :
      WriteCourse c tenant create operation answers
        ((c.resolveTenant tenant create answers).requests ++
          ((operationRun c tenant create operation answers).requests ++
            c.sent (.deleteTenant tenant)))
        (.failed (f.withCompensation (.rollbackFailed tenant f r)))
  /-- The operation fails, and the deletion of the tenant is cancelled or interrupted. -/
  | rollbackStopped {f r : Failure}
      (hres : (c.resolveTenant tenant create answers).ending = .returned .created)
      (hop : (operationRun c tenant create operation answers).ending = .failed f)
      (hundo : f.isCompensable = true)
      (hdel : (deletionRun c tenant create operation answers).ending = .failed r)
      (hstop : r.isOrdinary = false) :
      WriteCourse c tenant create operation answers
        ((c.resolveTenant tenant create answers).requests ++
          ((operationRun c tenant create operation answers).requests ++
            c.sent (.deleteTenant tenant)))
        (.failed r)
  /-- The operation fails, and the deletion of the tenant waits for an answer. -/
  | rollingBack {f : Failure}
      (hres : (c.resolveTenant tenant create answers).ending = .returned .created)
      (hop : (operationRun c tenant create operation answers).ending = .failed f)
      (hundo : f.isCompensable = true)
      (hdel : (deletionRun c tenant create operation answers).ending = .waiting) :
      WriteCourse c tenant create operation answers
        ((c.resolveTenant tenant create answers).requests ++
          ((operationRun c tenant create operation answers).requests ++
            c.sent (.deleteTenant tenant)))
        .waiting

namespace Write

variable {Req Ans α : Type}

theorem runs_reach (tenant : Value) (stage : WriteStage) (answers : List Ans) :
    Runs (reach tenant stage : Dialogue Req Ans Unit) answers [] (.returned ()) answers :=
  Runs.log _ _ _ _

/-! ## Rolling back -/

section RollBack

variable {c : Client Req Ans} {tenant : Value} {answers : List Ans}

/-- A rollback announces itself and then asks for the deletion. -/
theorem runs_rollBack_of_deletion {cause : Failure} {requests : List Req}
    {ending : Ending Failure} {rest : List Ans}
    (h : Runs
      (do
        match ← (c.ask (.deleteTenant tenant)).attempt with
        | .ok _ =>
            reach tenant .rolledBack
            return cause.withCompensation (.rolledBack tenant cause)
        | .error f =>
            if f.isOrdinary then
              reach tenant .rollbackFailed
              Dialogue.log .warning .writer
                ("Rollback of tenant " ++ tenant.display ++
                  " failed, tenant may be inconsistent: " ++ f.text)
              return cause.withCompensation (.rollbackFailed tenant cause f)
            else Dialogue.fail f)
      answers requests ending rest) :
    Runs (rollBack c tenant cause) answers requests ending rest :=
  (runs_reach tenant .rollingBack answers).bind ((Runs.log _ _ _ _).bind h)

theorem runs_rollBack_of_returned (cause : Failure) {v : Value}
    (h : (c.ask (.deleteTenant tenant) answers).ending = .returned v) :
    Runs (rollBack c tenant cause) answers (c.sent (.deleteTenant tenant))
      (.returned (cause.withCompensation (.rolledBack tenant cause)))
      (c.ask (.deleteTenant tenant) answers).rest := by
  refine runs_rollBack_of_deletion ?_
  rw [← List.append_nil (c.sent (.deleteTenant tenant))]
  refine (Client.runs_ask h).attempt_returned.bind ?_
  exact (runs_reach tenant .rolledBack _).bind (Runs.pure _ _)

theorem runs_rollBack_of_ordinary (cause : Failure) {r : Failure}
    (h : (c.ask (.deleteTenant tenant) answers).ending = .failed r) (hr : r.isOrdinary = true) :
    Runs (rollBack c tenant cause) answers (c.sent (.deleteTenant tenant))
      (.returned (cause.withCompensation (.rollbackFailed tenant cause r)))
      (c.ask (.deleteTenant tenant) answers).rest := by
  refine runs_rollBack_of_deletion ?_
  rw [← List.append_nil (c.sent (.deleteTenant tenant))]
  refine (Client.runs_ask h).attempt_failed.bind ?_
  dsimp only
  rw [if_pos hr]
  exact (runs_reach tenant .rollbackFailed _).bind ((Runs.log _ _ _ _).bind (Runs.pure _ _))

theorem runs_rollBack_of_stopped (cause : Failure) {r : Failure}
    (h : (c.ask (.deleteTenant tenant) answers).ending = .failed r) (hr : r.isOrdinary = false) :
    Runs (rollBack c tenant cause) answers (c.sent (.deleteTenant tenant)) (.failed r)
      (c.ask (.deleteTenant tenant) answers).rest := by
  refine runs_rollBack_of_deletion ?_
  rw [← List.append_nil (c.sent (.deleteTenant tenant))]
  refine (Client.runs_ask h).attempt_failed.bind ?_
  dsimp only
  rw [if_neg (by simp [hr])]
  exact Runs.fail _ _

theorem runs_rollBack_of_waiting (cause : Failure)
    (h : (c.ask (.deleteTenant tenant) answers).ending = .waiting) :
    Runs (rollBack c tenant cause) answers (c.sent (.deleteTenant tenant)) .waiting
      (c.ask (.deleteTenant tenant) answers).rest :=
  runs_rollBack_of_deletion (Client.runs_ask h).attempt_waiting.bind_waiting

end RollBack

/-! ## The workflow -/

section RunWith

variable {c : Client Req Ans} {tenant : Value} {create : Bool}
variable {operation : WriteOperation Req Ans α} {answers : List Ans}

/-- The run of the operation of a write, with the ending that it is known to have. -/
theorem runs_operation {ending : Ending α}
    (hop : (operationRun c tenant create operation answers).ending = ending) :
    Runs (operation c tenant) (c.resolveTenant tenant create answers).rest
      (operationRun c tenant create operation answers).requests ending
      (operationRun c tenant create operation answers).rest :=
  Runs.of_ending hop

/-- A write whose tenant is resolved goes on with its operation. -/
theorem runs_runWith_of_resolved {status : TenantResolution} {requests : List Req}
    {ending : Ending (Written α)} {rest : List Ans}
    (hres : (c.resolveTenant tenant create answers).ending = .returned status)
    (hrun : Runs
      (do
        match ← (operation c tenant).attempt with
        | .ok result =>
            reach tenant .success
            return ⟨result, status⟩
        | .error f =>
            if status.isCreated && f.isCompensable then
              Dialogue.fail (← rollBack c tenant f)
            else Dialogue.fail f)
      (c.resolveTenant tenant create answers).rest requests ending rest) :
    Runs (runWith c tenant create operation) answers
      ((c.resolveTenant tenant create answers).requests ++ requests) ending rest := by
  -- Between its parts, a write only notes which stage it has reached.
  refine (runs_reach tenant .start answers).bind ((Runs.of_ending hres).bind ?_)
  exact (runs_reach tenant .tenantResolved _).bind ((runs_reach tenant .writeAttempted _).bind hrun)

/-- A write whose operation fails after its tenant was created goes on with the rollback. -/
theorem runs_runWith_of_rollBack {f : Failure} {requests : List Req}
    {ending : Ending (Written α)} {rest : List Ans}
    (hres : (c.resolveTenant tenant create answers).ending = .returned .created)
    (hop : (operationRun c tenant create operation answers).ending = .failed f)
    (hundo : f.isCompensable = true)
    (hroll : Runs (rollBack c tenant f >>= fun g => Dialogue.fail g)
      (operationRun c tenant create operation answers).rest requests ending rest) :
    Runs (runWith c tenant create operation) answers
      ((c.resolveTenant tenant create answers).requests ++
        ((operationRun c tenant create operation answers).requests ++ requests)) ending rest := by
  refine runs_runWith_of_resolved hres ((runs_operation hop).attempt_failed.bind ?_)
  dsimp only
  rw [if_pos (by simp [TenantResolution.isCreated, hundo])]
  exact hroll

/-- A write whose rollback yields a failure ends with it. -/
theorem runs_runWith_of_compensated {f g : Failure} {rest : List Ans}
    (hres : (c.resolveTenant tenant create answers).ending = .returned .created)
    (hop : (operationRun c tenant create operation answers).ending = .failed f)
    (hundo : f.isCompensable = true)
    (hroll : Runs (rollBack c tenant f) (operationRun c tenant create operation answers).rest
      (c.sent (.deleteTenant tenant)) (.returned g) rest) :
    Runs (runWith c tenant create operation) answers
      ((c.resolveTenant tenant create answers).requests ++
        ((operationRun c tenant create operation answers).requests ++
          c.sent (.deleteTenant tenant))) (.failed g) rest := by
  have hend := runs_runWith_of_rollBack hres hop hundo (hroll.bind (Runs.fail g rest))
  rw [List.append_nil] at hend
  exact hend

/-- A write whose operation fails, with nothing to undo, ends with that failure. -/
theorem runs_runWith_of_passedOn {status : TenantResolution} {f : Failure}
    (hres : (c.resolveTenant tenant create answers).ending = .returned status)
    (hop : (operationRun c tenant create operation answers).ending = .failed f)
    (hkeep : status = .existing ∨ f.isCompensable = false) :
    Runs (runWith c tenant create operation) answers
      ((c.resolveTenant tenant create answers).requests ++
        (operationRun c tenant create operation answers).requests) (.failed f)
      (operationRun c tenant create operation answers).rest := by
  rw [← List.append_nil (operationRun c tenant create operation answers).requests]
  refine runs_runWith_of_resolved hres ((runs_operation hop).attempt_failed.bind ?_)
  have hnot : ¬ (status.isCreated && f.isCompensable) = true := by
    rcases hkeep with rfl | hkeep
    · simp [TenantResolution.isCreated]
    · simp [hkeep]
  dsimp only
  rw [if_neg hnot]
  exact Runs.fail _ _

end RunWith

end Write

namespace WriteCourse

variable {Req Ans α : Type} {c : Client Req Ans} {tenant : Value} {create : Bool}
variable {operation : WriteOperation Req Ans α} {answers : List Ans}

/-- The workflow runs as each of its courses says. -/
theorem runs {requests : List Req} {ending : Ending (Written α)}
    (h : WriteCourse c tenant create operation answers requests ending) :
    ∃ rest, Runs (runWith c tenant create operation) answers requests ending rest := by
  cases h with
  | unresolved hres =>
      exact ⟨_, (runs_reach tenant .start answers).bind (Runs.of_ending hres).bind_failed⟩
  | resolving hres =>
      exact ⟨_, (runs_reach tenant .start answers).bind (Runs.of_ending hres).bind_waiting⟩
  | returned hres hop =>
      rw [← List.append_nil (operationRun c tenant create operation answers).requests]
      exact ⟨_, runs_runWith_of_resolved hres ((runs_operation hop).attempt_returned.bind
        ((runs_reach tenant .success _).bind (Runs.pure _ _)))⟩
  | writing hres hop =>
      exact ⟨_, runs_runWith_of_resolved hres (runs_operation hop).attempt_waiting.bind_waiting⟩
  | passedOn hres hop hkeep => exact ⟨_, runs_runWith_of_passedOn hres hop hkeep⟩
  | rolledBack hres hop hundo hdel =>
      exact ⟨_, runs_runWith_of_compensated hres hop hundo (runs_rollBack_of_returned _ hdel)⟩
  | rollbackFailed hres hop hundo hdel hordinary =>
      exact ⟨_, runs_runWith_of_compensated hres hop hundo
        (runs_rollBack_of_ordinary _ hdel hordinary)⟩
  | rollbackStopped hres hop hundo hdel hstop =>
      exact ⟨_, runs_runWith_of_rollBack hres hop hundo
        (runs_rollBack_of_stopped _ hdel hstop).bind_failed⟩
  | rollingBack hres hop hundo hdel =>
      exact ⟨_, runs_runWith_of_rollBack hres hop hundo
        (runs_rollBack_of_waiting _ hdel).bind_waiting⟩

/-- A write returns what its operation returns, once its tenant has been resolved. -/
theorem of_returned {requests : List Req} {w : Written α}
    (h : WriteCourse c tenant create operation answers requests (.returned w)) :
    (c.resolveTenant tenant create answers).ending = .returned w.status ∧
      (operationRun c tenant create operation answers).ending = .returned w.result ∧
        requests = (c.resolveTenant tenant create answers).requests ++
          (operationRun c tenant create operation answers).requests := by
  cases h with
  | returned hres hop => exact ⟨hres, hop, rfl⟩

variable (c tenant create operation answers)

/-- Every write has a course. -/
theorem exists_course : ∃ requests ending,
    WriteCourse c tenant create operation answers requests ending := by
  cases hres : (c.resolveTenant tenant create answers).ending with
  | failed f => exact ⟨_, _, .unresolved hres⟩
  | waiting => exact ⟨_, _, .resolving hres⟩
  | returned status =>
      cases hop : (operationRun c tenant create operation answers).ending with
      | returned a => exact ⟨_, _, .returned hres hop⟩
      | waiting => exact ⟨_, _, .writing hres hop⟩
      | failed f =>
          -- The deletion has a say in one case only: there is something to undo.
          by_cases hundo : status = .created ∧ f.isCompensable = true
          · obtain ⟨rfl, hundo⟩ := hundo
            cases hdel : (deletionRun c tenant create operation answers).ending with
            | returned v => exact ⟨_, _, .rolledBack hres hop hundo hdel⟩
            | waiting => exact ⟨_, _, .rollingBack hres hop hundo hdel⟩
            | failed r =>
                cases hr : r.isOrdinary with
                | true => exact ⟨_, _, .rollbackFailed hres hop hundo hdel hr⟩
                | false => exact ⟨_, _, .rollbackStopped hres hop hundo hdel hr⟩
          · refine ⟨_, _, .passedOn hres hop ?_⟩
            cases status with
            | existing => exact Or.inl rfl
            | created => exact Or.inr (by simpa using hundo)

/-- **Every run through the workflow takes one of the courses of a write.** -/
theorem of_runWith :
    WriteCourse c tenant create operation answers
      (runWith c tenant create operation answers).requests
      (runWith c tenant create operation answers).ending := by
  obtain ⟨requests, ending, hcourse⟩ := exists_course c tenant create operation answers
  obtain ⟨rest, hrun⟩ := hcourse.runs
  rw [hrun.requests_eq, hrun.ending_eq]
  exact hcourse

end WriteCourse

end Rebac
