import Rebac.Proofs.RelationshipPayloads

set_option autoImplicit false

/-!
# Seeding that adds

Seeding reads its relationships before it does anything, and hands on what it has read, which is
read once more. Reading twice is reading once, so relationships that are added are written just as
if the caller had given them to a write (`seeding_append_eq_write`). That holds for faulty
relationships as well: both read them in the same order and fail alike.
-/

namespace Rebac

open Dialogue Write Http

namespace Target

variable {Req Ans : Type} {t : Target Req Ans} {tuples mode : Value} {records : List Value}

/-- Seeding fails at once, or it has read its relationships. -/
theorem seedRelationships_cases (t : Target Req Ans) (tuples mode : Value) :
    (∃ f, t.seedRelationships tuples mode = Dialogue.fail f) ∨
      t.check = .ok () ∧ ∃ m records, SeedingMode.ofValue? mode = some m ∧
        Relationship.recordsOf (tuples.orElse (.tuple [])) = .ok records ∧
          t.seedRelationships tuples mode = t.seedRecords m records := by
  cases hcheck : t.check with
  | error p => exact Or.inl ⟨_, executeWith_of_check_error hcheck⟩
  | ok u =>
      cases hpayload : seedPayload tuples mode with
      | error f => exact Or.inl ⟨f, executeWith_of_payload_error hcheck hpayload⟩
      | ok payload =>
          obtain ⟨hmode, hread⟩ := seedPayload_eq_ok_iff.1 hpayload
          exact Or.inr ⟨rfl, _, _, hmode, hread, executeWith_of_payload hcheck hpayload⟩

/-- What has been read is seeded. -/
theorem seedRelationships_of_recordsOf {m : SeedingMode} (hcheck : t.check = .ok ())
    (hmode : SeedingMode.ofValue? mode = some m)
    (hread : Relationship.recordsOf (tuples.orElse (.tuple [])) = .ok records) :
    t.seedRelationships tuples mode = t.seedRecords m records :=
  executeWith_of_payload hcheck (seedPayload_eq_ok_iff.2 ⟨hmode, hread⟩)

/-! ## Relationships that are added -/

/-- A write replaces nothing. -/
theorem sendRelationships_not_replaced (t : Target Req Ans) (records : List Value)
    (version : Value) :
    (t.sendRelationships records version >>= fun w => pure { w with replaced := false }) =
      t.sendRelationships records version := by
  simp only [sendRelationships, bind_assoc, pure_bind]

/-- Seeding with faulty relationships fails as writing them does. -/
theorem seedRelationships_of_recordsOf_error {m : SeedingMode} {f : Failure}
    (hcheck : t.check = .ok ()) (hmode : SeedingMode.ofValue? mode = some m)
    (hread : Relationship.recordsOf (tuples.orElse (.tuple [])) = .error f) :
    t.seedRelationships tuples mode = Dialogue.fail f := by
  refine executeWith_of_payload_error hcheck ?_
  rw [seedPayload, SeedingMode.required, hmode]
  change Relationship.recordsOf _ >>= _ = _
  rw [hread]
  rfl

/-- **Adding relationships is writing them.** -/
theorem seedRelationships_append (t : Target Req Ans) (htruthy : tuples.truthy = true)
    (hmode : SeedingMode.ofValue? mode = some .append) :
    t.seedRelationships tuples mode = t.writeRelationships tuples := by
  have hsame : tuples.orElse (.tuple []) = tuples := Value.orElse_of_truthy htruthy
  have hne : tuples ≠ .none := by
    rintro rfl
    cases htruthy
  -- Both check the parameters first and then read; only what is done with the records differs.
  cases hcheck : t.check with
  | error p =>
      rw [seedRelationships, writeRelationships, executeWith_of_check_error hcheck,
        executeWith_of_check_error hcheck]
  | ok u =>
      cases hread : Relationship.recordsOf tuples with
      | error f =>
          have hrequired : Relationship.required tuples = .error f := by
            rw [Relationship.required_of_ne_none hne, hread]
            rfl
          rw [seedRelationships_of_recordsOf_error hcheck hmode (by rw [hsame, hread]),
            writeRelationships, executeWith_of_payload_error hcheck hrequired]
      | ok records =>
          have hsome := Relationship.records_ne_nil htruthy hread
          rw [seedRelationships_of_recordsOf hcheck hmode (by rw [hsame, hread]),
            t.seedRecords_append hsome,
            writeRelationships_records hcheck hread hsome,
            writeRelationships_of_recordsOf hcheck hread hsome]
          exact t.sendRelationships_not_replaced records _

end Target

/-- **Adding relationships is writing them.** Seeding that adds what counts as relationships is the
same dialogue as writing them for the latest version of the schema: it has the same requests and the
same ending on all answers. It never reports that it has replaced anything. -/
theorem seeding_append_eq_write {Req Ans : Type} (t : Target Req Ans) (tuples mode : Value)
    (htruthy : tuples.truthy = true) (hmode : SeedingMode.ofValue? mode = some .append) :
    t.seedRelationships tuples mode = t.writeRelationships tuples (.text "") ∧
      ∀ answers w, (t.seedRelationships tuples mode answers).ending = .returned w →
        w.replaced = false := by
  have hsame := t.seedRelationships_append htruthy hmode
  refine ⟨hsame, fun answers w hw => ?_⟩
  rw [hsame] at hw
  obtain ⟨c, records, payload, outcome, -, -, -, rfl, -⟩ := Target.course_of_returned hw
  rfl

/-- Relationships in two forms are added as they are written. -/
theorem mixedForms_appended :
    (Value.list [aliceViews.toRecord, membersEdit.toValue]).truthy = true ∧
      SeedingMode.ofValue? (.seedingMode .append) = some .append ∧
      ∃ w, (createdTarget.writeRelationships (.list [aliceViews.toRecord, membersEdit.toValue])
          (.text "") [.response 200 [], .response 200 []]).ending = .returned w ∧
        (createdTarget.seedRelationships (.list [aliceViews.toRecord, membersEdit.toValue])
          (.seedingMode .append) [.response 200 [], .response 200 []]).ending = .returned w ∧
        w.count = 2 ∧ w.replaced = false := by
  obtain ⟨hsame, hkept⟩ := seeding_append_eq_write createdTarget
    (.list [aliceViews.toRecord, membersEdit.toValue]) (.seedingMode .append) rfl rfl
  obtain ⟨w, hw, hcount⟩ : ∃ w, (createdTarget.writeRelationships
      (.list [aliceViews.toRecord, membersEdit.toValue]) (.text "")
        [.response 200 [], .response 200 []]).ending = .returned w ∧ w.count = 2 := ⟨_, rfl, rfl⟩
  have hseed := hw
  rw [← hsame] at hseed
  exact ⟨rfl, rfl, w, hw, hseed, hcount, hkept _ w hseed⟩

end Rebac
