import Rebac.Proofs.CheckAnswers
import Rebac.Proofs.Replacement
import Rebac.Told

set_option autoImplicit false

/-!
# Tasks that are malformed

A parameter that is missing or cannot be read is found out before anything is sent, wherever it
stands in a list and also if relationships are to be replaced (`exists_fault_of_unreadable`). The
same holds of a record without a wire form, with one exception: a replacement brings its records
into wire form only when it writes them, and by then it has deleted every relationship
(`requests_of_foundLate`). So of the tasks that are malformed exactly these send something before
they fail (`parameter_faults_first`).
-/

namespace Rebac

open Dialogue Write Http

/-! ## Malformed relationships, filters and tasks -/

/-- Data that is no relationship. -/
def Relationship.IsUnreadable (v : Value) : Prop :=
  (∀ e r s, v ≠ .relationship e r s) ∧ ∃ cause, ofData v = .error cause

/-- A record of a relationship with a part that has no wire form. -/
def Relationship.IsFormless (v : Value) : Prop :=
  (∃ e r s, v = .relationship e r s) ∧ ∃ cause, v.wire = .error cause

/-- A relationship is malformed if it cannot be read or has no wire form. -/
def Relationship.IsMalformed (v : Value) : Prop := IsUnreadable v ∨ IsFormless v

/-- Data that is no filter. -/
def Filter.IsUnreadable (v : Value) : Prop :=
  (∀ e r s, v ≠ .relationshipFilter e r s) ∧ ∃ cause, ofData v = .error cause

/-- A record of a filter with a part that has no wire form. -/
def Filter.IsFormless (v : Value) : Prop :=
  (∃ e r s, v = .relationshipFilter e r s) ∧ ∃ cause, v.wire = .error cause

/-- A filter is malformed if it cannot be read or has no wire form. -/
def Filter.IsMalformed (v : Value) : Prop := IsUnreadable v ∨ IsFormless v

/-- A task with a parameter that is missing or at fault, wherever it stands, given which
relationships and which filters are. -/
inductive Task.HasFault (tupleFault filterFault : Value → Prop) : Task → Prop
  | noSchema {v : Value} (htext : ∀ s, v ≠ .text s) (hschema : ∀ s, v ≠ .schema s) :
      HasFault tupleFault filterFault (.write (.schema v))
  | blankText {s : String} (h : Text.allBlank s.toList = true) :
      HasFault tupleFault filterFault (.write (.schema (.text s)))
  | blankSchema {s : Schema} (h : Text.allBlank s.compile.toList = true) :
      HasFault tupleFault filterFault (.write (.schema (.schema s)))
  | noTuples {version : Value} :
      HasFault tupleFault filterFault (.write (.relationships .none version))
  | emptyTuples {tuples version : Value} (h : tuples.items = .ok []) :
      HasFault tupleFault filterFault (.write (.relationships tuples version))
  | tuple {tuples version v : Value} {items : List Value} (hitems : tuples.items = .ok items)
      (hv : v ∈ items) (h : tupleFault v) :
      HasFault tupleFault filterFault (.write (.relationships tuples version))
  | filter {v : Value} (h : filterFault v) : HasFault tupleFault filterFault (.write (.deletion v))
  | mode {tuples mode : Value} (h : SeedingMode.ofValue? mode = none) :
      HasFault tupleFault filterFault (.seed tuples mode)
  | seedTuple {tuples mode v : Value} {items : List Value} (hitems : tuples.items = .ok items)
      (hv : v ∈ items) (h : tupleFault v) : HasFault tupleFault filterFault (.seed tuples mode)

/-- A task with a parameter that is missing or cannot be read. -/
abbrev Task.IsUnreadable : Task → Prop :=
  HasFault Relationship.IsUnreadable Filter.IsUnreadable

/-- A task with a parameter that is missing or malformed. -/
abbrev Task.IsMalformed : Task → Prop := HasFault Relationship.IsMalformed Filter.IsMalformed

/-- A replacement by relationships all of which can be read, though one has no wire form. -/
def Task.IsFoundLate (task : Task) : Prop :=
  ∃ tuples mode records f, task = .seed tuples mode ∧
    SeedingMode.ofValue? mode = some .replace ∧
    Relationship.recordsOf (tuples.orElse (.tuple [])) = .ok records ∧
    Relationship.payload records = .error f

/-! ## What is found out by reading -/

section Unreadable

variable {v tuples : Value} {items records : List Value} {f : Failure}

theorem exists_parameter_of_recordOf (h : Relationship.recordOf v = .error f) :
    ∃ p, f = .parameter p := by
  unfold Relationship.recordOf at h
  split at h
  · cases h
  · split at h
    · cases h
    · cases h
      exact ⟨_, rfl⟩

theorem Relationship.IsUnreadable.recordOf (h : IsUnreadable v) :
    ∃ p, Relationship.recordOf v = .error (.parameter p) := by
  obtain ⟨hnot, cause, hcause⟩ := h
  refine ⟨.invalidTuple v cause, ?_⟩
  rw [Relationship.recordOf, hcause]
  · rfl
  · exact hnot

/-- A list with data that cannot be read fails by a parameter, wherever the data stands. -/
theorem exists_parameter_of_mem (hitems : tuples.items = .ok items) (hv : v ∈ items)
    (h : Relationship.IsUnreadable v) :
    ∃ p, Relationship.recordsOf tuples = .error (.parameter p) := by
  obtain ⟨p, hp⟩ := h.recordOf
  rw [Relationship.recordsOf, hitems]
  change ∃ p, items.mapM Relationship.recordOf = _
  cases hmap : items.mapM Relationship.recordOf with
  | ok records =>
      obtain ⟨w, -, hw⟩ := exists_of_mem_of_mapM hmap hv
      rw [hp] at hw
      cases hw
  | error f =>
      -- The list may fail at an earlier item, and then by a parameter as well.
      obtain ⟨x, -, hx⟩ := mapM_eq_error_iff.1 hmap
      obtain ⟨p, rfl⟩ := exists_parameter_of_recordOf hx
      exact ⟨p, rfl⟩

theorem items_orElse (hitems : tuples.items = .ok items) :
    (tuples.orElse (.tuple [])).items = .ok items := by
  cases htruthy : tuples.truthy with
  | true =>
      rw [Value.orElse, if_pos htruthy]
      exact hitems
  | false =>
      have hnot : ¬ tuples.truthy = true := Bool.eq_false_iff.1 htruthy
      rw [Value.orElse, if_neg hnot, (Value.items_eq_nil_iff hitems).2 htruthy]
      rfl

theorem call_of_required_error {version : Value} (h : Relationship.required tuples = .error f) :
    (WriteKind.relationships tuples version).call = .error f := by
  rw [WriteKind.call, h]
  rfl

theorem call_of_sourceText_error {p : ParameterFault} (h : Schema.sourceText v = .error p) :
    (WriteKind.schema v).call = .error (.parameter p) := by
  rw [WriteKind.call, h]
  rfl

/-- A write that cannot be read has no call, by the fault of a parameter. -/
theorem exists_parameter_of_call {k : WriteKind} (h : Task.IsUnreadable (.write k)) :
    ∃ p, k.call = .error (.parameter p) := by
  cases h with
  | @noSchema v htext hschema =>
      refine ⟨.noSchema, call_of_sourceText_error ?_⟩
      cases v with
      | text s => exact absurd rfl (htext s)
      | schema s => exact absurd rfl (hschema s)
      | _ => rfl
  | blankText h | blankSchema h =>
      refine ⟨.noSchema, call_of_sourceText_error ?_⟩
      rw [Schema.sourceText, Schema.sourceText.nonBlank, if_pos h]
      rfl
  | noTuples => exact ⟨.noTuples, rfl⟩
  | emptyTuples hitems =>
      refine ⟨.noTuples, call_of_required_error ?_⟩
      rw [Relationship.required_of_items hitems, Relationship.recordsOf, hitems]
      rfl
  | tuple hitems hv h =>
      obtain ⟨p, hp⟩ := exists_parameter_of_mem hitems hv h
      refine ⟨p, call_of_required_error ?_⟩
      rw [Relationship.required_of_items hitems, hp]
      rfl
  | @filter v h =>
      obtain ⟨hnot, cause, hcause⟩ := h
      have hrecord : Filter.recordOf v = .error (.parameter (.invalidFilter v cause)) := by
        rw [Filter.recordOf, hcause]
        · rfl
        · exact hnot
      by_cases hv : v = .none
      · rw [hv]
        exact ⟨.noFilter, rfl⟩
      · refine ⟨.invalidFilter v cause, ?_⟩
        rw [WriteKind.call, Filter.required, hrecord]
        · rfl
        · exact hv

theorem exists_parameter_of_seedPayload {mode : Value} (h : Task.IsUnreadable (.seed tuples mode)) :
    ∃ p, seedPayload tuples mode = .error (.parameter p) := by
  cases hmode : SeedingMode.ofValue? mode with
  | none =>
      refine ⟨.invalidMode mode, ?_⟩
      rw [seedPayload, SeedingMode.required, hmode]
      rfl
  | some m =>
      cases h with
      | mode h =>
          rw [hmode] at h
          cases h
      | seedTuple hitems hv h =>
          obtain ⟨p, hp⟩ := exists_parameter_of_mem (items_orElse hitems) hv h
          refine ⟨p, ?_⟩
          rw [seedPayload, SeedingMode.required, hmode, hp]
          rfl

end Unreadable

section Tasks

variable {t : Target Request Answer} {task : Task}

/-- A task whose target does not pass its checks sends nothing. -/
theorem runs_task_of_check_error {p : ParameterFault} (hcheck : t.check = .error p) (task : Task)
    (answers : List Answer) : Runs (task.run t) answers [] (.failed (.parameter p)) answers := by
  cases task with
  | write k =>
      rw [Task.run, WriteKind.run_of_check_error hcheck]
      exact Runs.fail _ answers
  | seed tuples mode =>
      rw [Task.run, Target.seedRelationships, Target.executeWith_of_check_error hcheck]
      exact (Runs.fail _ answers).bind_failed

/-- **A task that cannot be read sends nothing and fails by a parameter.** -/
theorem exists_fault_of_unreadable (h : task.IsUnreadable) (t : Target Request Answer)
    (answers : List Answer) :
    ∃ p, Runs (task.run t) answers [] (.failed (.parameter p)) answers := by
  cases hcheck : t.check with
  | error p => exact ⟨p, runs_task_of_check_error hcheck task answers⟩
  | ok u =>
      cases task with
      | write k =>
          obtain ⟨p, hp⟩ := exists_parameter_of_call h
          refine ⟨p, ?_⟩
          rw [Task.run, WriteKind.run_of_call_error hcheck hp]
          exact Runs.fail _ answers
      | seed tuples mode =>
          obtain ⟨p, hp⟩ := exists_parameter_of_seedPayload h
          refine ⟨p, ?_⟩
          rw [Task.run, Target.seedRelationships, Target.executeWith_of_payload_error hcheck hp]
          exact (Runs.fail _ answers).bind_failed

end Tasks

/-! ## What is found out by bringing records into wire form -/

section Formless

variable {v tuples : Value} {items records : List Value} {f : Failure}

/-- Records without a wire form fail by the part that has none. -/
theorem Relationship.payload_of_formless (hv : v ∈ records) (h : IsFormless v) :
    ∃ f, payload records = .error f := by
  obtain ⟨-, cause, hcause⟩ := h
  cases hwire : records.mapM Value.wire with
  | ok forms =>
      obtain ⟨form, -, hform⟩ := exists_of_mem_of_mapM hwire hv
      rw [hcause] at hform
      cases hform
  | error g =>
      rw [payload, hwire]
      exact ⟨_, rfl⟩

/-- A malformed relationship is found out by reading or, later, by its wire form. -/
theorem Relationship.payload_of_malformed (hitems : tuples.items = .ok items) (hv : v ∈ items)
    (h : IsMalformed v) (hread : recordsOf tuples = .ok records) :
    ∃ f, payload records = .error f := by
  rcases h with hunreadable | hformless
  · obtain ⟨p, hp⟩ := exists_parameter_of_mem hitems hv hunreadable
    cases hread.symm.trans hp
  · rw [recordsOf_of_items hitems] at hread
    obtain ⟨record, hrecord, hof⟩ := exists_of_mem_of_mapM hread hv
    obtain ⟨⟨e, r, s, rfl⟩, -⟩ := id hformless
    cases hof
    exact payload_of_formless hrecord hformless

/-- Relationships that are read but have no wire form hold a record without one. -/
theorem Relationship.exists_formless_of_payload (hitems : tuples.items = .ok items)
    (hread : recordsOf tuples = .ok records) (h : payload records = .error f) :
    ∃ v ∈ items, IsFormless v := by
  rw [recordsOf_of_items hitems, mapM_eq_ok_iff] at hread
  unfold payload at h
  split at h
  · cases h
  · rename_i cause hcause
    obtain ⟨record, hreached, hrecord⟩ := mapM_eq_error_iff.1 hcause
    obtain ⟨before, after, rfl, -⟩ := hreached
    obtain ⟨v, hv, hof⟩ := exists_of_mem_right hread (List.mem_append_right _ List.mem_cons_self)
    refine ⟨v, hv, ?_⟩
    -- What is read out of data has a wire form, so the item is the record itself.
    unfold recordOf at hof
    split at hof
    · cases hof
      exact ⟨⟨_, _, _, rfl⟩, cause, hrecord⟩
    · split at hof
      · cases hof
        rw [wire_toRecord] at hrecord
        cases hrecord
      · cases hof

/-- A write that is malformed has no call. -/
theorem exists_failure_of_call {k : WriteKind} (h : Task.IsMalformed (.write k)) :
    ∃ f, k.call = .error f := by
  have hunreadable : Task.IsUnreadable (.write k) → ∃ f, k.call = .error f := by
    intro h
    obtain ⟨p, hp⟩ := exists_parameter_of_call h
    exact ⟨_, hp⟩
  cases h with
  | noSchema htext hschema => exact hunreadable (.noSchema htext hschema)
  | blankText h => exact hunreadable (.blankText h)
  | blankSchema h => exact hunreadable (.blankSchema h)
  | noTuples => exact hunreadable .noTuples
  | emptyTuples h => exact hunreadable (.emptyTuples h)
  | @tuple tuples version v items hitems hv h =>
      cases hrequired : Relationship.required tuples with
      | error f => exact ⟨f, call_of_required_error hrequired⟩
      | ok records =>
          obtain ⟨hread, -⟩ := Relationship.required_eq_ok_iff.1 hrequired
          obtain ⟨f, hf⟩ := Relationship.payload_of_malformed hitems hv h hread
          refine ⟨f, ?_⟩
          rw [WriteKind.call, hrequired]
          change Relationship.payload records >>= _ = _
          rw [hf]
          rfl
  | @filter v h =>
      rcases h with hdata | ⟨⟨e, r, s, rfl⟩, cause, hcause⟩
      · exact hunreadable (.filter hdata)
      · refine ⟨.access cause, ?_⟩
        have hrequired : Filter.required (.relationshipFilter e r s) =
            (Value.relationshipFilter e r s).wire.mapError Failure.access := rfl
        rw [WriteKind.call, hrequired, hcause]
        rfl

/-- Records that are sent to a target fail by their wire form, and nothing is sent. -/
theorem runs_sendRelationships_of_payload (t : Target Request Answer)
    (h : Relationship.payload records = .error f) (version : Value) (answers : List Answer) :
    Runs (t.sendRelationships records version) answers [] (.failed f) answers := by
  rw [Target.sendRelationships, h]
  exact (Runs.fail f answers).bind_failed

theorem records_ne_nil_of_payload (h : Relationship.payload records = .error f) : records ≠ [] := by
  rintro rfl
  cases h

variable {t : Target Request Answer} {task : Task}

/-- **A malformed task that is not found out late sends nothing.** -/
theorem exists_failure_of_malformed (h : task.IsMalformed) (hlate : ¬ task.IsFoundLate)
    (t : Target Request Answer) (answers : List Answer) :
    ∃ f, Runs (task.run t) answers [] (.failed f) answers := by
  cases hcheck : t.check with
  | error p => exact ⟨_, runs_task_of_check_error hcheck task answers⟩
  | ok u =>
      cases task with
      | write k =>
          obtain ⟨f, hf⟩ := exists_failure_of_call h
          refine ⟨f, ?_⟩
          rw [Task.run, WriteKind.run_of_call_error hcheck hf]
          exact Runs.fail f answers
      | seed tuples mode =>
          rcases t.seedRelationships_cases tuples mode with
            ⟨f, hfail⟩ | ⟨-, m, records, hmode, hread, hseed⟩
          · refine ⟨f, ?_⟩
            rw [Task.run, hfail]
            exact (Runs.fail f answers).bind_failed
          · obtain ⟨f, hpayload⟩ : ∃ f, Relationship.payload records = .error f := by
              cases h with
              | mode h =>
                  rw [h] at hmode
                  cases hmode
              | seedTuple hitems hv h =>
                  exact Relationship.payload_of_malformed (items_orElse hitems) hv h hread
            have hne := records_ne_nil_of_payload hpayload
            -- Only the wire form of a record is at fault, so the mode decides when it is found out.
            cases m with
            | replace => exact absurd ⟨tuples, mode, records, f, rfl, hmode, hread, hpayload⟩ hlate
            | append =>
                have hwrite := runs_sendRelationships_of_payload t hpayload (.text "") answers
                refine ⟨f, ?_⟩
                rw [Task.run, hseed, t.seedRecords_append hne,
                  Target.writeRelationships_records hcheck hread hne]
                exact hwrite.bind_failed.bind_failed

/-- What is found out late is malformed. -/
theorem Task.IsFoundLate.isMalformed (h : task.IsFoundLate) : task.IsMalformed := by
  obtain ⟨tuples, mode, records, f, rfl, -, hread, hpayload⟩ := h
  obtain ⟨items, hitems, hall⟩ := Relationship.recordsOf_eq_ok_iff.1 hread
  obtain ⟨v, hv, hformless⟩ := Relationship.exists_formless_of_payload hitems hread hpayload
  -- The relationships are those of the caller: in their place there would be none.
  have htruthy : tuples.truthy = true := by
    by_contra hnot
    rw [Value.orElse, if_neg hnot] at hitems
    cases hitems
    cases hv
  rw [Value.orElse, if_pos htruthy] at hitems
  exact .seedTuple hitems hv (Or.inr hformless)

/-- A replacement by records of which one has no wire form ends with the deletion or, after it, by
that record. -/
theorem seedRecords_of_payload (hcheck : t.check = .ok ())
    (hread : Relationship.recordsOf tuples = .ok records)
    (hpayload : Relationship.payload records = .error f) (answers : List Answer) :
    (t.seedRecords .replace records answers).requests = (t.clear answers).requests ∧
      (∀ w, (t.seedRecords .replace records answers).ending ≠ .returned w) ∧
      ((t.clear answers).ending = .returned () →
        (t.seedRecords .replace records answers).ending = .failed f) := by
  have hne := records_ne_nil_of_payload hpayload
  rw [t.seedRecords_replace hne, Target.writeRelationships_records hcheck hread hne]
  -- The write comes only after a deletion that has succeeded.
  by_cases hend : (t.clear answers).ending = .returned ()
  · have hwrite := runs_sendRelationships_of_payload t hpayload (.text "") (t.clear answers).rest
    have hrun : Runs (t.clear >>= fun _ => t.sendRelationships records (.text "") >>= fun w =>
        pure { w with replaced := true }) answers ((t.clear answers).requests ++ []) (.failed f)
          (t.clear answers).rest := (Runs.of_ending hend).bind hwrite.bind_failed
    rw [List.append_nil] at hrun
    exact ⟨hrun.requests_eq, fun w hw => (by cases hrun.ending_eq.symm.trans hw),
      fun _ => hrun.ending_eq⟩
  · obtain ⟨hrequests, hnot⟩ := Runs.bind_of_not_returned fun u : Unit => hend
    exact ⟨hrequests, hnot, fun h => absurd h hend⟩

/-- **What is found out late has deleted every relationship.** The task sends what the deletion
sends, does not return, and fails by the wire form of a record if the deletion has succeeded. -/
theorem requests_of_foundLate (h : task.IsFoundLate) (hcheck : t.check = .ok ())
    (answers : List Answer) :
    (task.run t answers).requests = (t.clear answers).requests ∧
      (∀ u, (task.run t answers).ending ≠ .returned u) ∧
      ((t.clear answers).ending = .returned () →
        ∃ cause, (task.run t answers).ending = .failed (.access cause)) := by
  obtain ⟨tuples, mode, records, f, rfl, hmode, hread, hpayload⟩ := h
  obtain ⟨cause, rfl⟩ := eq_access_of_payload hpayload
  obtain ⟨hrequests, hnot, hfails⟩ := seedRecords_of_payload hcheck hread hpayload answers
  have hrun := (Runs.self (t.seedRecords .replace records) answers).bind_quiet
    (k := fun _ => (pure () : Dialogue Request Answer Unit)) fun _ => Runs.pure () _
  rw [Task.run, Target.seedRelationships_of_recordsOf hcheck hmode hread, hrun.requests_eq,
    hrun.ending_eq]
  refine ⟨hrequests, fun u hu => ?_, fun hcleared => ⟨cause, ?_⟩⟩
  · obtain ⟨w, hw⟩ := Ending.exists_returned_of_void_eq hu
    exact hnot w hw
  · rw [hfails hcleared]
    rfl

end Formless

/-- Faults of parameters come first, for a task and for a check. -/
structure FaultsFirst (t : HttpTarget) (task : Task) (q : PermissionQuery)
    (answers : List Answer) : Prop where
  /-- A task of whose failure callers are told as a fault of a parameter has sent nothing, unless
  the transport raises that very failure. -/
  of_task : ∀ f p, (task.run t.toTarget answers).ending = .failed f → f.told = .parameter p →
    (task.run t.toTarget answers).requests = [] ∨ Answer.raised (.parameter p) ∈ answers
  /-- A check of whose failure callers are told as a fault of a parameter has sent nothing, unless
  the transport raises that very failure. -/
  of_check : ∀ f p, ((client t.connection).checkPermission t.tenant q answers).ending =
      .failed f → f.told = .parameter p →
    ((client t.connection).checkPermission t.tenant q answers).requests = [] ∨
      Answer.raised (.parameter p) ∈ answers
  /-- A task without a tenant, without a client or with a parameter that is missing or cannot be
  read fails by a parameter and sends nothing. Callers are told of it unless the message cannot show
  what is at fault. -/
  unreadable : t.tenant.truthy = false ∨ t.source.isUsable = false ∨ task.IsUnreadable →
    ∃ p, Runs (task.run t.toTarget) answers [] (.failed (.parameter p)) answers ∧
      ((Failure.parameter p).told = .parameter p ∨
        ∃ cause, p.checkMessage = .error cause ∧ (Failure.parameter p).told = .noText cause)
  /-- A check without a tenant or a permission fails by a parameter, of which callers are told, and
  sends nothing. -/
  unasked : t.tenant.truthy = false ∨ q.permission.truthy = false →
    ∃ p, Runs ((client t.connection).checkPermission t.tenant q) answers []
      (.failed (.parameter p)) answers ∧ (Failure.parameter p).told = .parameter p
  /-- A task that is malformed and not found out late fails and sends nothing. -/
  malformed : task.IsMalformed → ¬ task.IsFoundLate →
    ∃ f, Runs (task.run t.toTarget) answers [] (.failed f) answers
  /-- A task that is found out late is malformed. It sends all that the deletion of every
  relationship sends, does not return, and fails by the wire form of a record if the deletion has
  succeeded. -/
  late : task.IsFoundLate → task.IsMalformed ∧ (t.toTarget.check = .ok () →
    (task.run t.toTarget answers).requests = (t.clear answers).requests ∧
    (∀ u, (task.run t.toTarget answers).ending ≠ .returned u) ∧
    ((t.clear answers).ending = .returned () →
      ∃ cause, (task.run t.toTarget answers).ending = .failed (.access cause)))

/-- **Faults of parameters come before any request, except for records without a wire form.** A
write, a deletion, the seeding of relationships or a check that fails by a parameter has sent
nothing. A task that is malformed fails, and it sends nothing unless it is a replacement of which
only the wire form of a record is at fault; then the deletion of every relationship comes first. -/
theorem parameter_faults_first (t : HttpTarget) (task : Task) (q : PermissionQuery)
    (answers : List Answer) : FaultsFirst t task q answers where
  of_task f p hf htold := by
    rw [Failure.eq_parameter_of_told htold] at hf
    exact parameterFirst_task t task answers p hf
  of_check f p hf htold := by
    rw [Failure.eq_parameter_of_told htold] at hf
    exact parameterFirst_check t.connection t.tenant q answers p hf
  unreadable := by
    intro h
    obtain ⟨p, hp⟩ : ∃ p,
        Runs (task.run t.toTarget) answers [] (.failed (.parameter p)) answers := by
      rcases h with htenant | hclient | hunreadable
      · obtain ⟨p, hp⟩ := exists_check_error (Or.inl htenant)
        exact ⟨p, runs_task_of_check_error hp task answers⟩
      · obtain ⟨p, hp⟩ := exists_check_error (Or.inr hclient)
        exact ⟨p, runs_task_of_check_error hp task answers⟩
      · exact exists_fault_of_unreadable hunreadable t.toTarget answers
    refine ⟨p, hp, ?_⟩
    rcases Failure.told_cases (.parameter p) with ⟨-, htold⟩ | ⟨cause, hcause, htold⟩
    · exact Or.inl htold
    · exact Or.inr ⟨cause, hcause, htold⟩
  unasked := by
    intro h
    cases htenant : t.tenant.truthy with
    | false =>
        refine ⟨.noTenant, ?_, rfl⟩
        rw [Client.checkPermission, htenant]
        exact Runs.fail _ answers
    | true =>
        have hpermission : q.permission.truthy = false := by
          rcases h with h | h
          · rw [htenant] at h
            cases h
          · exact h
        refine ⟨.noPermission, ?_, rfl⟩
        rw [Client.checkPermission, htenant, hpermission]
        exact Runs.fail _ answers
  malformed := fun h hlate => exists_failure_of_malformed h hlate t.toTarget answers
  late := fun h => ⟨h.isMalformed, fun hcheck => requests_of_foundLate h hcheck answers⟩

/-- A replacement of relationships by two, the second of which is a bare text. -/
def replacementByText : Task :=
  .seed (.list [.relationship (.text "document") (.text "viewer") (.text "user"), .text "viewer"])
    (.seedingMode .replace)

/-- A replacement whose second relationship is malformed deletes nothing. -/
theorem replacementByText_sends_nothing :
    replacementByText.IsUnreadable ∧ replacementByText.IsMalformed ∧
      ¬ replacementByText.IsFoundLate ∧
      ∃ p, Runs (replacementByText.run createdHttpTarget.toTarget) [.response 200 []] []
        (.failed (.parameter p)) [.response 200 []] := by
  have hunreadable : Relationship.IsUnreadable (.text "viewer") := ⟨nofun, _, rfl⟩
  have hmem : Value.text "viewer" ∈
      [.relationship (.text "document") (.text "viewer") (.text "user"), .text "viewer"] :=
    List.mem_cons_of_mem _ List.mem_cons_self
  have htask : replacementByText.IsUnreadable := .seedTuple rfl hmem hunreadable
  obtain ⟨p, hrun, -⟩ := (parameter_faults_first createdHttpTarget replacementByText viewQuery
    [.response 200 []]).unreadable (Or.inr (Or.inr htask))
  refine ⟨htask, .seedTuple rfl hmem (Or.inl hunreadable), ?_, p, hrun⟩
  rintro ⟨tuples, mode, records, f, htask, -, hread, -⟩
  cases htask
  cases hread

/-- A relationship whose subject is data and not a reference. -/
def formlessMember : Value :=
  .relationship (.entityRef (.text "document") (.text "1")) (.text "viewer")
    (.record [("type", .text "user"), ("id", .text "alice")])

/-- A replacement by this relationship alone. -/
def formlessReplacement : Task := .seed (.list [formlessMember]) (.seedingMode .replace)

/-- The request that deletes every relationship of the tenant. -/
def acmeClearing : Request where
  method := .post
  url := "http://localhost:3476/v1/tenants/acme/data/delete"
  headers := []
  timeout := none
  body := some (.object [("tuple_filter", .object []), ("attribute_filter", .object [])])

/-- The replacement deletes every relationship, and then fails by its only one. -/
theorem formlessReplacement_clears :
    formlessReplacement.IsMalformed ∧
      acmeClearing ∈ (formlessReplacement.run createdHttpTarget.toTarget
        [.response 200 acmePage, .response 200 []]).requests ∧
      ∃ cause, (formlessReplacement.run createdHttpTarget.toTarget
        [.response 200 acmePage, .response 200 []]).ending = .failed (.access cause) := by
  have hlate : formlessReplacement.IsFoundLate := ⟨_, _, _, _, rfl, rfl, rfl, rfl⟩
  have hcheck : createdHttpTarget.check = .ok () := rfl
  have hc : createdHttpTarget.source.Gives (client createdHttpTarget.connection) := rfl
  have hclear : Runs createdHttpTarget.clear [.response 200 acmePage, .response 200 []]
      [_, acmeClearing] (.returned ()) [] :=
    runs_clear_of_page hcheck hc (by rfl) (reply_of_readPage readResult_acmePage (by rfl))
      (by decide) (by rfl) (by rfl) []
  obtain ⟨hrequests, -, hfails⟩ := requests_of_foundLate hlate hcheck
    [.response 200 acmePage, .response 200 []]
  refine ⟨hlate.isMalformed, ?_, hfails hclear.ending_eq⟩
  rw [hrequests, hclear.requests_eq]
  exact List.mem_cons_of_mem _ List.mem_cons_self

end Rebac
