import Rebac.Client.Call
import Rebac.Client.Settings
import Rebac.Tenant

set_option autoImplicit false

/-!
# The workflow of a write

Where the client of a write comes from, and the stages that every write to a tenant goes through.
-/

/-!
## Where the client of a write comes from

A write uses a client that the caller has established, or establishes one of its own from an
endpoint, from connection settings, or from both. Its own client is closed when the write has ended.
-/

namespace Rebac

/-- The client of a write, or the settings to establish one. -/
inductive Source (Req Ans : Type)
  | established (client : Client Req Ans)
  | settings (connect : ConnectionSettings → Except Failure (Client Req Ans))
      (endpoint : Option String) (options : Option ConnectionSettings)

namespace Source

variable {Req Ans α : Type}

/-- Whether settings name an endpoint. -/
def namesEndpoint (endpoint : Option String) (options : Option ConnectionSettings) : Bool :=
  (ConnectionSettings.given? endpoint).isSome ||
    (options.bind (fun o => ConnectionSettings.given? o.endpoint)).isSome

/-- Whether a client can be had from a source. -/
def isUsable : Source Req Ans → Bool
  | .established _ => true
  | .settings _ endpoint options => namesEndpoint endpoint options

/-- Runs a dialogue with the client of a source. -/
def use (s : Source Req Ans) (d : Client Req Ans → Dialogue Req Ans α) : Dialogue Req Ans α :=
  match s with
  | .established client => d client
  | .settings connect endpoint options =>
      match connect (ConnectionSettings.effective endpoint options) with
      | .error f => Dialogue.fail f
      -- Only a client of the write's own is closed.
      | .ok client => (d client).closing

end Source

namespace ConnectionSettings

/-- Settings that name an endpoint keep naming one when they are merged. -/
theorem endpoint_effective {endpoint : Option String} {options : Option ConnectionSettings}
    (h : Source.namesEndpoint endpoint options = true) :
    (given? (effective endpoint options).endpoint).isSome = true := by
  unfold Source.namesEndpoint at h
  unfold effective
  cases he : given? endpoint with
  | some e =>
      obtain ⟨e', rfl⟩ : ∃ e', endpoint = some e' := by
        cases endpoint <;> simp_all [given?]
      simp only [given?, Option.filter_some] at he ⊢
      split at he <;> simp_all
  | none =>
      cases options with
      | none => simp [he] at h
      | some o => simpa [he] using h

end ConnectionSettings

end Rebac

/-!
## The workflow of a write

Every write to a tenant goes through the same stages. The tenant is resolved, then the operation
runs. If the operation fails or is cancelled and the tenant was created for it, the tenant is
deleted again, and the failure that is reported holds both the failure of the operation and how the
deletion ended. A tenant that existed before is never deleted, and nothing is tried twice.
-/

namespace Rebac

/-- The stages of a write. -/
inductive WriteStage
  | start
  | tenantResolved
  | writeAttempted
  | success
  | rollingBack
  | rolledBack
  | rollbackFailed
deriving DecidableEq

/-- The text of a stage in the log. -/
def WriteStage.text : WriteStage → String
  | .start => "start"
  | .tenantResolved => "tenant_resolved"
  | .writeAttempted => "write_attempted"
  | .success => "success"
  | .rollingBack => "rolling_back"
  | .rolledBack => "rolled_back"
  | .rollbackFailed => "rollback_failed"

/-- The result of an operation, and how its tenant was found. -/
structure Written (α : Type) where
  result : α
  status : TenantResolution

/-- A write to a tenant, whatever it writes: the tenant, whether to create it, and the client. -/
structure Target (Req Ans : Type) where
  tenant : Value
  create : Bool := false
  source : Source Req Ans

/-- What a write does once its tenant is resolved. -/
abbrev WriteOperation (Req Ans α : Type) := Client Req Ans → Value → Dialogue Req Ans α

namespace Failure

/-- The failure of an operation after its tenant has been dealt with: a cancellation stays one. -/
def withCompensation (cause : Failure) (outcome : Bool → Failure) : Failure :=
  match cause with
  -- Whoever cancelled an operation waits for a cancellation, not for another failure.
  | .cancelled m | .compensated m _ => .compensated m (outcome false)
  | _ => outcome true

/-- Whether a failed operation is compensated for: not if the program is interrupted. -/
def isCompensable : Failure → Bool
  | .interrupted _ => false
  | _ => true

end Failure

namespace Write

variable {Req Ans α : Type}

/-- Notes that a write has reached a stage. -/
def reach (tenant : Value) (stage : WriteStage) : Dialogue Req Ans Unit :=
  Dialogue.log .debug .writer ("Tenant " ++ tenant.display ++ " write: " ++ stage.text)

/-- Deletes a tenant that was created for a failed write, and returns the failure to report. A
deletion that is itself cancelled or interrupted ends the write. -/
def rollBack (c : Client Req Ans) (tenant : Value) (cause : Failure) :
    Dialogue Req Ans Failure := do
  reach tenant .rollingBack
  Dialogue.log .info .writer
    ("Write to new tenant " ++ tenant.display ++ " failed, deleting tenant: " ++ cause.text)
  match ← (c.ask (.deleteTenant tenant)).attempt with
  | .ok _ =>
      reach tenant .rolledBack
      return cause.withCompensation (.rolledBack tenant cause)
  | .error f =>
      if f.isOrdinary then
        reach tenant .rollbackFailed
        Dialogue.log .warning .writer
          ("Rollback of tenant " ++ tenant.display ++ " failed, tenant may be inconsistent: " ++
            f.text)
        return cause.withCompensation (.rollbackFailed tenant cause f)
      else Dialogue.fail f

/-- Resolves the tenant, runs the operation and compensates for its failure. -/
def runWith (c : Client Req Ans) (tenant : Value) (create : Bool)
    (operation : WriteOperation Req Ans α) : Dialogue Req Ans (Written α) := do
  reach tenant .start
  let status ← c.resolveTenant tenant create
  reach tenant .tenantResolved
  reach tenant .writeAttempted
  match ← (operation c tenant).attempt with
  | .ok result =>
      reach tenant .success
      return ⟨result, status⟩
  | .error f =>
      -- Only a tenant that this very write has created may be deleted again.
      if status.isCreated && f.isCompensable then
        Dialogue.fail (← rollBack c tenant f)
      else Dialogue.fail f

end Write

namespace Target

variable {Req Ans α : Type}

/-- What every write needs: a client and a tenant. -/
def check (t : Target Req Ans) : Except ParameterFault Unit :=
  if !t.source.isUsable then throw .noClient
  else if !t.tenant.truthy then throw .noTenant
  else pure ()

/-- Runs an operation on a target through the workflow. -/
def execute (t : Target Req Ans) (operation : WriteOperation Req Ans α) :
    Dialogue Req Ans (Written α) :=
  match t.check with
  | .error f => Dialogue.fail (.parameter f)
  | .ok _ => t.source.use (fun c => Write.runWith c t.tenant t.create operation)

/-- Runs an operation whose payload has to be made first; nothing is sent if it cannot be made. -/
def executeWith {β : Type} (t : Target Req Ans) (payload : Except Failure β)
    (k : β → Dialogue Req Ans α) : Dialogue Req Ans α :=
  match t.check with
  | .error f => Dialogue.fail (.parameter f)
  | .ok _ =>
      match payload with
      | .error f => Dialogue.fail f
      | .ok b => k b

theorem check_eq_ok_iff (t : Target Req Ans) :
    t.check = .ok () ↔ t.source.isUsable = true ∧ t.tenant.truthy = true := by
  unfold check
  split
  · simp_all [throw, throwThe, MonadExceptOf.throw]
  · split <;> simp_all [throw, throwThe, MonadExceptOf.throw, pure, Except.pure]

end Target

end Rebac
