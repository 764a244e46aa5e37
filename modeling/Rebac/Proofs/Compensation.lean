import Rebac.Write.Workflow

set_option autoImplicit false

/-!
# Compensation failures

A write that fails after its tenant was created ends in a compensation failure. Such a failure holds
the failure of the write, and it shows the tenant and a description of that failure, both in its
text and in its details (`isRolledBack`, `isRollbackFailed`). A failure is described by its text,
else by its class; only a failure without either has no description (`eq_of_describe_eq_empty`).
-/

namespace Rebac

namespace Failure

/-- The failure of the write that a compensation failure is about. -/
def originalError? : Failure → Option Failure
  | .rolledBack _ e _ | .rollbackFailed _ e _ _ => some e
  | _ => none

/-- The failure of the deletion that a compensation failure is about. -/
def rollbackError? : Failure → Option Failure
  | .rollbackFailed _ _ r _ => some r
  | _ => none

/-- The failure that a failure was raised from. -/
def cause? : Failure → Option Failure
  | .rolledBack _ e chained | .rollbackFailed _ e _ chained => if chained then some e else none
  | .compensated _ outcome => some outcome
  | _ => none

/-- A failure carries another one: it is that failure, a compensation failure about it, or a
cancellation that was raised from such a compensation failure. -/
def Carries (f e : Failure) : Prop :=
  f = e ∨ f.originalError? = some e ∨
    f.isCancellation = true ∧ ∃ g, f.cause? = some g ∧ g.originalError? = some e

/-- A failure tells that the tenant of a write was deleted again, itself or as the cause of a
cancellation. -/
def TellsRollback : Failure → Prop
  | .rolledBack _ _ _ | .compensated _ (.rolledBack _ _ _) => True
  | _ => False

/-- A failure shows a value in its text, and has it in its details under this name. -/
def Reports (f : Failure) (name : String) (v : Value) : Prop :=
  v.display.toList <:+: f.text.toList ∧
    ∃ report, f.report? = some report ∧ report.message = f.text ∧ (name, v) ∈ report.details

/-- The failure of a write whose tenant was deleted again. -/
structure IsRolledBack (f : Failure) (tenant : Value) (e : Failure) (cause : Option Failure) :
    Prop where
  kind : f.kind = "TenantRolledBackError"
  original : f.originalError? = some e
  cause : f.cause? = cause
  reportsTenant : f.Reports "tenant_id" tenant
  reportsOriginal : f.Reports "original_error" (.text e.describe)

/-- The failure of a write whose tenant could not be deleted again. -/
structure IsRollbackFailed (f : Failure) (tenant : Value) (e r : Failure)
    (cause : Option Failure) : Prop where
  kind : f.kind = "RollbackFailedError"
  original : f.originalError? = some e
  rollback : f.rollbackError? = some r
  cause : f.cause? = cause
  reportsTenant : f.Reports "tenant_id" tenant
  reportsOriginal : f.Reports "original_error" (.text e.describe)
  reportsRollback : f.Reports "rollback_error" (.text r.describe)

/-! ## Reports -/

/-- A text stands within every text that is made by putting it between two others. -/
theorem infix_between (before between after : String) :
    between.toList <:+: (before ++ between ++ after).toList := by
  rw [String.toList_append, String.toList_append]
  exact ⟨before.toList, after.toList, rfl⟩

theorem isRolledBack (tenant : Value) (e : Failure) (chained : Bool) :
    (Failure.rolledBack tenant e chained).IsRolledBack tenant e
      (if chained then some e else none) where
  kind := rfl
  original := rfl
  cause := rfl
  reportsTenant := by
    refine ⟨?_, _, rfl, rfl, by simp [Report.rolledBack]⟩
    exact infix_between ("Operation failed: " ++ e.describe ++ ". Tenant ") tenant.display
      " was rolled back (deleted)."
  reportsOriginal := by
    refine ⟨?_, _, rfl, rfl, by simp [Report.rolledBack]⟩
    have hwithin := infix_between "Operation failed: " e.describe
      (". Tenant " ++ tenant.display ++ " was rolled back (deleted).")
    simpa only [text, describe, Report.rolledBack, Value.display_text, String.append_assoc]
      using hwithin

theorem isRollbackFailed (tenant : Value) (e r : Failure) (chained : Bool) :
    (Failure.rollbackFailed tenant e r chained).IsRollbackFailed tenant e r
      (if chained then some e else none) where
  kind := rfl
  original := rfl
  rollback := rfl
  cause := rfl
  reportsTenant := by
    refine ⟨?_, _, rfl, rfl, by simp [Report.rollbackFailed]⟩
    exact infix_between
      ("Operation failed: " ++ e.describe ++ ". Rollback failed: " ++ r.describe ++ ". Tenant ")
      tenant.display " may be in an inconsistent state."
  reportsOriginal := by
    refine ⟨?_, _, rfl, rfl, by simp [Report.rollbackFailed]⟩
    have hwithin := infix_between "Operation failed: " e.describe
      (". Rollback failed: " ++ r.describe ++ ". Tenant " ++ tenant.display ++
        " may be in an inconsistent state.")
    simpa only [text, describe, Report.rollbackFailed, Value.display_text, String.append_assoc]
      using hwithin
  reportsRollback := by
    refine ⟨?_, _, rfl, rfl, by simp [Report.rollbackFailed]⟩
    have hwithin := infix_between ("Operation failed: " ++ e.describe ++ ". Rollback failed: ")
      r.describe (". Tenant " ++ tenant.display ++ " may be in an inconsistent state.")
    simpa only [text, describe, Report.rollbackFailed, Value.display_text, String.append_assoc]
      using hwithin

/-! ## Descriptions -/

theorem describe_of_text {f : Failure} (h : f.text ≠ "") : f.describe = f.text := by
  rw [describe, orKind, if_neg (by simpa using h)]

theorem describe_of_no_text {f : Failure} (h : f.text = "") : f.describe = f.kind := by
  rw [describe, orKind, if_pos (by simpa using h)]

/-- Every class has a name, unless it is that of a failure from outside the library. -/
theorem exists_raised_of_kind {f : Failure} (h : f.kind = "") : ∃ m, f = .raised "" m := by
  cases f with
  | raised kind message =>
      change kind = "" at h
      rw [h]
      exact ⟨message, rfl⟩
  | access f => cases f <;> exact absurd h (by simp [kind, AccessFault.className])
  | mapping f => cases f <;> exact absurd h (by simp [kind])
  | encode f => cases f <;> exact absurd h (by simp [kind])
  | noText f =>
      cases f with
      | noPart cause =>
          cases cause <;>
            exact absurd h (by simp [kind, TextFault.className, AccessFault.className])
      | _ => exact absurd h (by simp [kind, TextFault.className])
  | unreadable f document =>
      obtain ⟨reason, position⟩ := f
      cases reason <;> exact absurd h (by simp [kind])
  | _ => exact absurd h (by simp [kind])

/-- **Only a failure that says nothing, of a class without a name, has no description.** -/
theorem eq_of_describe_eq_empty {f : Failure} (h : f.describe = "") : f = .raised "" "" := by
  have htext : f.text = "" := by
    by_cases hne : f.text = ""
    · exact hne
    · exact (describe_of_text hne).symm.trans h
  obtain ⟨m, rfl⟩ := exists_raised_of_kind ((describe_of_no_text htext).symm.trans h)
  change m = "" at htext
  rw [htext]

/-! ## Compensated failures -/

/-- An ordinary failure is replaced by the compensation failure. -/
theorem withCompensation_of_ordinary {f : Failure} (h : f.isOrdinary = true)
    (outcome : Bool → Failure) : f.withCompensation outcome = outcome true := by
  cases f with
  | cancelled m => cases h
  | compensated m g => cases h
  | _ => rfl

/-- A cancellation is raised again from the compensation failure. -/
theorem withCompensation_of_cancellation {f : Failure} (h : f.isCancellation = true)
    (outcome : Bool → Failure) :
    f.withCompensation outcome = .compensated f.text (outcome false) := by
  cases f with
  | cancelled m => rfl
  | compensated m g => rfl
  | _ => cases h

/-- A failure is compensated for exactly if it is an ordinary one or a cancellation. -/
theorem isCompensable_iff (f : Failure) :
    f.isCompensable = true ↔ f.isOrdinary = true ∨ f.isCancellation = true := by
  cases f <;> simp [isCompensable, isOrdinary, isCancellation]

/-- Whatever a compensated failure turns into carries it, if the compensation failure is about
it. -/
theorem carries_withCompensation {e : Failure} {outcome : Bool → Failure}
    (hundo : e.isCompensable = true)
    (houtcome : ∀ chained, (outcome chained).originalError? = some e) :
    (e.withCompensation outcome).Carries e := by
  rcases e.isCompensable_iff.1 hundo with he | he
  · rw [withCompensation_of_ordinary he]
    exact Or.inr (Or.inl (houtcome true))
  · rw [withCompensation_of_cancellation he]
    exact Or.inr (Or.inr ⟨rfl, outcome false, rfl, houtcome false⟩)

/-- A mere cancellation carries no ordinary failure. -/
theorem not_carries_of_cancelled {e : Failure} (he : e.isOrdinary = true) (m : String) :
    ¬ (Failure.cancelled m).Carries e := by
  rintro (rfl | horiginal | ⟨-, g, hcause, -⟩)
  · cases he
  · cases horiginal
  · cases hcause

end Failure

end Rebac
