import Rebac.Check
import Rebac.Proofs.AllOrNothing
import Rebac.Proofs.Guarantees
import Rebac.Proofs.Interleaving
import Rebac.Proofs.RelationshipRecords

set_option autoImplicit false

/-!
# Faults of parameters

Parameters are checked and payloads are read before anything is sent. So a call that fails by a
parameter has sent nothing, unless the transport itself raises such a failure (`ParameterFirst`):
before the client is at hand nothing can be sent, and afterwards nothing fails by a parameter
(`guarantees_execute` for the failures of `NoOwnParameter`).
-/

namespace Rebac

open Dialogue Write Http

/-! ## Failures after the checks -/

/-- A failure that is no fault of a parameter, unless the transport raises it. -/
def NoOwnParameter (answers : List Answer) (f : Failure) : Prop :=
  ∀ p, f = .parameter p → Answer.raised f ∈ answers

section Failures

variable {answers : List Answer} {f : Failure}

/-- A rollback is reported as a rollback, and never as a fault of a parameter. -/
theorem withCompensation_ne_parameter {outcome : Bool → Failure} {p : ParameterFault}
    (h : ∀ b, outcome b ≠ .parameter p) : f.withCompensation outcome ≠ .parameter p := by
  cases f with
  | cancelled m => exact nofun
  | compensated m o => exact nofun
  | _ => exact h true

theorem noOwnParameter_closed (answers : List Answer) :
    Failure.ClosedUnderWrites (NoOwnParameter answers) where
  tenantNotFound _ p h := by cases h
  rolledBack _ _ _ p h := absurd h (withCompensation_ne_parameter fun _ => nofun)
  rollbackFailed _ _ _ _ _ p h := absurd h (withCompensation_ne_parameter fun _ => nofun)

/-- A client fails by a parameter only if the transport does. -/
theorem failsWithin_noOwnParameter (conn : Connection) (answers : List Answer) :
    (client conn).FailsWithin (· ∈ answers) (NoOwnParameter answers) where
  request call f h p hp := by
    rw [hp] at h
    cases ofRequest_of_request h
  reply call a f ha h p hp := by
    rcases reply_error_cases h with ⟨m, address, rfl⟩ | hraised | hresponse
    · cases hp
    · rw [← hraised]
      exact ha
    · rw [hp] at hresponse
      cases hresponse

end Failures

/-! ## Dialogues that check first -/

section ParameterFirst

variable {α : Type} {d : Dialogue Request Answer α} {answers rest : List Answer}
variable {t : Target Request Answer} {conn : Connection} {f : Failure} {R : α → Prop}

/-- A run that fails by a parameter sends nothing, unless the transport raises the failure. -/
def ParameterFirst (d : Dialogue Request Answer α) (answers : List Answer) : Prop :=
  ∀ p, (d answers).ending = .failed (.parameter p) →
    (d answers).requests = [] ∨ Answer.raised (.parameter p) ∈ answers

theorem ParameterFirst.of_quiet {ending : Ending α} (h : Runs d answers [] ending rest) :
    ParameterFirst d answers :=
  fun _ _ => Or.inl h.requests_eq

theorem ParameterFirst.of_guarantees
    (h : d.Guarantees (· ∈ answers) (NoOwnParameter answers) R) : ParameterFirst d answers := by
  intro p hp
  have hend := (h answers fun a ha => ha).1
  rw [hp] at hend
  exact Or.inr (hend p rfl)

theorem parameterFirst_write (t : HttpTarget) (k : WriteKind) (answers : List Answer) :
    ParameterFirst (k.run t.toTarget) answers := by
  -- Without a client nothing is sent; with one, no failure is a fault of a parameter.
  rcases t.toTarget.rejects_or_gives with ⟨f, hf⟩ | ⟨hcheck, c, hc⟩
  · obtain ⟨g, -, hrun⟩ := WriteKind.exists_failure_of_rejects hf k answers
    exact .of_quiet hrun
  · cases t.isClient c hc
    cases hcall : k.call with
    | error f =>
        rw [WriteKind.run_of_call_error hcheck hcall]
        exact .of_quiet (Runs.fail f answers)
    | ok call =>
        exact .of_guarantees (WriteKind.guarantees_run hcheck hc hcall
          (failsWithin_noOwnParameter t.connection answers) (noOwnParameter_closed answers))

/-! ## Seeding -/

/-- The filter that is no data and selects every relationship. -/
def everyRelationship : Value := .relationshipFilter .none .none .none

/-- Replacing begins with a deletion of every relationship of a tenant that exists. -/
theorem clear_eq (t : Target Request Answer) :
    t.clear = (Dialogue.log .info .relationships
      ("Replacing all relationships for tenant " ++ t.tenant.display) >>= fun _ =>
        (WriteKind.deletion everyRelationship).run { t with create := false }) := rfl

/-- A run of this deletion is all that can be seen of it. -/
theorem runs_clear {requests : List Request} {ending : Ending Unit}
    (h : Runs ((WriteKind.deletion everyRelationship).run { t with create := false }) answers
      requests ending rest) : Runs t.clear answers requests ending rest := by
  rw [clear_eq]
  exact (Runs.log _ _ _ _).bind h

theorem eq_access_of_payload {records : List Value}
    (h : Relationship.payload records = .error f) : ∃ g, f = .access g := by
  unfold Relationship.payload at h
  split at h
  · cases h
  · cases h
    exact ⟨_, rfl⟩

/-- Without a client, no relationships are sent. -/
theorem exists_runs_sendRelationships (hf : t.Rejects f) (records : List Value) (version : Value)
    (answers : List Answer) :
    ∃ g, Runs (t.sendRelationships records version) answers [] (.failed g) answers := by
  cases hpayload : Relationship.payload records with
  | error g =>
      refine ⟨g, ?_⟩
      rw [Target.sendRelationships, hpayload]
      exact (Runs.fail g answers).bind_failed
  | ok tuples =>
      refine ⟨f, ?_⟩
      rw [Target.sendRelationships, hpayload]
      refine (Runs.ofExcept_ok tuples answers).bind ?_
      rw [Target.execute_of_rejects hf]
      exact (Runs.fail f answers).bind_failed

/-- Without a client, nothing is deleted. -/
theorem exists_runs_clear (hf : t.Rejects f) (answers : List Answer) :
    ∃ g, Runs t.clear answers [] (.failed g) answers := by
  have hf' : ({ t with create := false } : Target Request Answer).Rejects f := hf
  obtain ⟨g, -, hrun⟩ :=
    WriteKind.exists_failure_of_rejects hf' (.deletion everyRelationship) answers
  exact ⟨g, runs_clear hrun⟩

section Given

variable (hcheck : t.check = .ok ()) (hc : t.source.Gives (client conn))
include hcheck hc

theorem guarantees_sendRelationships (records : List Value) (version : Value)
    (answers : List Answer) :
    (t.sendRelationships records version).Guarantees (· ∈ answers) (NoOwnParameter answers)
      fun _ => True := by
  have hfails := failsWithin_noOwnParameter conn answers
  have hpayload : ∀ f, Relationship.payload records = .error f → NoOwnParameter answers f := by
    intro f hf p hp
    obtain ⟨g, rfl⟩ := eq_access_of_payload hf
    cases hp
  have hread : (ofExcept (Relationship.payload records) :
      Dialogue Request Answer Value).Guarantees (· ∈ answers) (NoOwnParameter answers)
        fun _ => True :=
    guarantees_ofExcept (fun _ _ => trivial) hpayload
  refine hread.bind fun tuples _ => ?_
  refine (Target.guarantees_execute hcheck hc hfails (noOwnParameter_closed answers)
    (hfails.ask _)).bind fun outcome _ => ?_
  exact (guarantees_log _ _ _).bind fun _ _ => guarantees_pure trivial

theorem guarantees_clear (answers : List Answer) :
    t.clear.Guarantees (· ∈ answers) (NoOwnParameter answers) fun _ => True := by
  have hcheck' : ({ t with create := false } : Target Request Answer).check = .ok () := hcheck
  have hcall : (WriteKind.deletion everyRelationship).call =
      .ok fun tenant => .deleteRelationships tenant (.map []) := rfl
  rw [clear_eq]
  exact (guarantees_log _ _ _).bind fun _ _ => WriteKind.guarantees_run hcheck' hc hcall
    (failsWithin_noOwnParameter conn answers) (noOwnParameter_closed answers)

end Given

/-- Records that have been read are seeded without a fault of a parameter. -/
theorem parameterFirst_seedRecords (t : HttpTarget) (hcheck : t.check = .ok ()) {tuples : Value}
    {records : List Value} (hread : Relationship.recordsOf tuples = .ok records) (m : SeedingMode)
    (answers : List Answer) : ParameterFirst (t.seedRecords m records) answers := by
  cases records with
  | nil => exact .of_quiet ((Runs.log _ _ _ answers).bind (Runs.pure _ _))
  | cons record records =>
      have hne := List.cons_ne_nil record records
      have hwrite := Target.writeRelationships_records hcheck hread hne (.text "")
      rcases t.toTarget.rejects_or_gives with ⟨f, hf⟩ | ⟨-, c, hc⟩
      · cases m with
        | append =>
            obtain ⟨g, hrun⟩ :=
              exists_runs_sendRelationships hf (record :: records) (.text "") answers
            rw [t.seedRecords_append hne, hwrite]
            exact .of_quiet hrun.bind_failed
        | replace =>
            obtain ⟨g, hrun⟩ := exists_runs_clear hf answers
            exact .of_quiet hrun.bind_failed
      · cases t.isClient c hc
        have hsend := guarantees_sendRelationships hcheck hc (record :: records) (.text "") answers
        cases m with
        | append =>
            rw [t.seedRecords_append hne, hwrite]
            exact .of_guarantees (R := fun _ => True)
              (hsend.bind fun _ _ => guarantees_pure trivial)
        | replace =>
            rw [t.seedRecords_replace hne, hwrite]
            exact .of_guarantees (R := fun _ => True) ((guarantees_clear hcheck hc answers).bind
              fun _ _ => hsend.bind fun _ _ => guarantees_pure trivial)

/-- Seeding fails by a parameter before anything is sent, also if relationships are replaced. -/
theorem parameterFirst_seed (t : HttpTarget) (tuples mode : Value) (answers : List Answer) :
    ParameterFirst (t.seedRelationships tuples mode) answers := by
  unfold Target.seedRelationships
  cases hcheck : t.check with
  | error p =>
      rw [Target.executeWith_of_check_error hcheck]
      exact .of_quiet (Runs.fail _ answers)
  | ok u =>
      cases hpayload : seedPayload tuples mode with
      | error f =>
          rw [Target.executeWith_of_payload_error hcheck rfl]
          exact .of_quiet (Runs.fail f answers)
      | ok payload =>
          rw [Target.executeWith_of_payload hcheck rfl]
          exact parameterFirst_seedRecords t hcheck (seedPayload_eq_ok_iff.1 hpayload).2 _ answers

/-! ## Checks -/

theorem exists_mapping_of_mapping {v : Value} (h : PermissionQuery.mapping v = .error f) :
    ∃ g, f = .mapping g := by
  unfold PermissionQuery.mapping at h
  split at h
  · cases h
  · cases h
    exact ⟨_, rfl⟩

/-- A question that has no wire form has a part that is no mapping. -/
theorem exists_mapping_of_toRequest {q : PermissionQuery} (h : q.toRequest = .error f) :
    ∃ g, f = .mapping g := by
  rcases error_or_ok_of_bind_eq_error h with hmetadata | ⟨metadata, -, h⟩
  · unfold PermissionQuery.metadataOf at hmetadata
    split at hmetadata
    · cases hmetadata
    · cases hmetadata
      exact ⟨_, rfl⟩
  · rcases error_or_ok_of_bind_eq_error h with hentity | ⟨entity, -, h⟩
    · unfold PermissionQuery.entityOf at hentity
      split at hentity
      · cases hentity
      · exact exists_mapping_of_mapping hentity
    · rcases error_or_ok_of_bind_eq_error h with hsubject | ⟨subject, -, h⟩
      · unfold PermissionQuery.subjectOf at hsubject
        split at hsubject
        · cases hsubject
        · exact exists_mapping_of_mapping hsubject
      · dsimp only at h
        split at h
        · have hcontext := eq_error_of_bind_pure h
          cases hmapping : PermissionQuery.mapping q.context with
          | error g =>
              rw [hmapping] at hcontext
              cases hcontext
              exact exists_mapping_of_mapping hmapping
          | ok v =>
              rw [hmapping] at hcontext
              cases hcontext
        · cases h

theorem result_or_access_of_ofAnswer {v : Value} (h : CheckResult.ofAnswer v = .error f) :
    (∃ g, f = .access g) ∨ ∃ g, f = .result g := by
  rcases error_or_ok_of_bind_eq_error h with h | ⟨can, -, h⟩
  · obtain ⟨g, -, rfl⟩ := exists_of_mapError_eq_error h
    exact Or.inl ⟨g, rfl⟩
  · obtain ⟨g, -, rfl⟩ := exists_of_mapError_eq_error h
    exact Or.inr ⟨g, rfl⟩

theorem parameterFirst_check (conn : Connection) (tenant : Value) (q : PermissionQuery)
    (answers : List Answer) :
    ParameterFirst ((client conn).checkPermission tenant q) answers := by
  have hfails := failsWithin_noOwnParameter conn answers
  have hrequest : ∀ f, q.toRequest = .error f → NoOwnParameter answers f := by
    intro f hf p hp
    obtain ⟨g, rfl⟩ := exists_mapping_of_toRequest hf
    cases hp
  have hanswer : ∀ v f, CheckResult.ofAnswer v = .error f → NoOwnParameter answers f := by
    intro v f hf p hp
    rcases result_or_access_of_ofAnswer hf with ⟨g, rfl⟩ | ⟨g, rfl⟩
    · cases hp
    · cases hp
  rw [Client.checkPermission]
  split
  · exact .of_quiet (Runs.fail _ answers)
  · split
    · exact .of_quiet (Runs.fail _ answers)
    · refine .of_guarantees (R := fun _ => True) ?_
      refine (guarantees_ofExcept (R := fun _ => True) (fun _ _ => trivial) hrequest).bind
        fun request _ => (hfails.ask _).bind fun data _ => ?_
      refine (guarantees_ofExcept (R := fun _ => True) (fun _ _ => trivial) (hanswer data)).bind
        fun result _ => ?_
      exact (guarantees_log _ _ _).bind fun _ _ => guarantees_pure trivial

end ParameterFirst

section Tasks

variable {t : Target Request Answer}

/-- A target without a tenant or without a client does not pass its checks. -/
theorem exists_check_error (h : t.tenant.truthy = false ∨ t.source.isUsable = false) :
    ∃ p, t.check = .error p := by
  cases hcheck : t.check with
  | error p => exact ⟨p, rfl⟩
  | ok u =>
      obtain ⟨husable, htenant⟩ := t.check_eq_ok_iff.1 hcheck
      rcases h with h | h
      · rw [htenant] at h
        cases h
      · rw [husable] at h
        cases h

theorem parameterFirst_task (t : HttpTarget) (task : Task) (answers : List Answer) :
    ParameterFirst (task.run t.toTarget) answers := by
  cases task with
  | write k => exact parameterFirst_write t k answers
  | seed tuples mode =>
      intro p hp
      have hrun := (Runs.self (t.seedRelationships tuples mode) answers).bind_quiet
        (k := fun _ => (pure () : Dialogue Request Answer Unit)) fun _ => Runs.pure () _
      rw [Task.run] at hp ⊢
      rw [hrun.requests_eq]
      rw [hrun.ending_eq] at hp
      exact parameterFirst_seed t tuples mode answers p (Ending.eq_failed_of_void_eq hp)

end Tasks

end Rebac
