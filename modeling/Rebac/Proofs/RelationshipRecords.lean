import Rebac.Proofs.WriteKind
import Rebac.Write.Operations

set_option autoImplicit false

/-!
# Reading relationships twice

Relationships are read out of what a caller gives, and what has been read is a list of records. A
record stands for itself, so reading the records again yields the same records
(`Relationship.recordsOf_records`). Hence it does not matter whether relationships are written as
the caller gave them or as they were read (`Target.writeRelationships_records`).
-/

namespace Rebac

/-- What can be listed has no items exactly if it does not count. -/
theorem Value.items_eq_nil_iff {v : Value} {items : List Value} (h : v.items = .ok items) :
    items = [] ↔ v.truthy = false := by
  cases v with
  | text s =>
      cases h
      simp [truthy]
  | bytes b =>
      cases h
      simp [truthy]
  | list xs =>
      cases h
      simp [truthy]
  | tuple xs =>
      cases h
      simp [truthy]
  | set xs =>
      cases h
      simp [truthy]
  | map es =>
      cases h
      simp [truthy]
  | _ => cases h

namespace Relationship

variable {v record : Value} {items records : List Value}

/-- Whatever is read is a record, and a record stands for itself. -/
theorem recordOf_record (h : recordOf v = .ok record) : recordOf record = .ok record := by
  unfold recordOf at h
  split at h
  · cases h
    rfl
  · split at h
    · cases h
      exact recordOf_toRecord _
    · cases h

theorem recordsOf_list (items : List Value) : recordsOf (.list items) = items.mapM recordOf := rfl

theorem recordsOf_of_items (h : v.items = .ok items) : recordsOf v = items.mapM recordOf := by
  rw [recordsOf, h]

/-- What is read are the records of the items, one for each and in the same order. -/
theorem recordsOf_eq_ok_iff : recordsOf v = .ok records ↔
    ∃ items, v.items = .ok items ∧ List.Forall₂ (fun x y => recordOf x = .ok y) items records := by
  cases hitems : v.items with
  | error f => simp [recordsOf, hitems, throw, throwThe, MonadExceptOf.throw]
  | ok items => simp [recordsOf_of_items hitems, mapM_eq_ok_iff]

/-- **Reading records again changes nothing.** -/
theorem recordsOf_records (h : recordsOf v = .ok records) :
    recordsOf (.list records) = .ok records := by
  obtain ⟨items, -, hread⟩ := recordsOf_eq_ok_iff.1 h
  rw [recordsOf_list, mapM_eq_ok_iff, List.forall₂_same]
  intro record hrecord
  obtain ⟨item, -, hitem⟩ := exists_of_mem_right hread hrecord
  exact recordOf_record hitem

/-- What counts is read as no records only if it cannot be read. -/
theorem records_ne_nil (htruthy : v.truthy = true) (h : recordsOf v = .ok records) :
    records ≠ [] := by
  obtain ⟨items, hitems, hread⟩ := recordsOf_eq_ok_iff.1 h
  rintro rfl
  rw [List.forall₂_nil_right_iff] at hread
  simp [(Value.items_eq_nil_iff hitems).1 hread] at htruthy

/-- Relationships to write are read, and there has to be one. -/
theorem required_of_ne_none (h : v ≠ .none) :
    required v = (recordsOf v >>= fun records =>
      match records with
      | [] => .error (.parameter .noTuples)
      | records => .ok records) := by
  cases v with
  | none => exact absurd rfl h
  | _ => rfl

theorem required_of_items (h : v.items = .ok items) :
    required v = (recordsOf v >>= fun records =>
      match records with
      | [] => .error (.parameter .noTuples)
      | records => .ok records) := by
  refine required_of_ne_none ?_
  rintro rfl
  cases h

theorem required_eq_ok_iff :
    required v = .ok records ↔ recordsOf v = .ok records ∧ records ≠ [] := by
  by_cases hnone : v = .none
  · rw [hnone]
    constructor
    · intro h
      cases h
    · rintro ⟨h, -⟩
      cases h
  · rw [required_of_ne_none hnone]
    cases recordsOf v with
    | error f => simp [bind, Except.bind]
    | ok read => cases read <;> simp +contextual [bind, Except.bind, eq_comm]

end Relationship

namespace Target

variable {Req Ans : Type} {t : Target Req Ans} {v mode : Value} {records : List Value}

/-- Relationships that have been read are sent. -/
theorem writeRelationships_of_recordsOf (hcheck : t.check = .ok ())
    (h : Relationship.recordsOf v = .ok records) (hne : records ≠ []) (version : Value) :
    t.writeRelationships v version = t.sendRelationships records version :=
  executeWith_of_payload hcheck (Relationship.required_eq_ok_iff.2 ⟨h, hne⟩)

/-- **Writing what has been read is sending it**: the records are neither checked nor changed
again. -/
theorem writeRelationships_records (hcheck : t.check = .ok ())
    (h : Relationship.recordsOf v = .ok records) (hne : records ≠ []) (version : Value) :
    t.writeRelationships (.list records) version = t.sendRelationships records version :=
  writeRelationships_of_recordsOf hcheck (Relationship.recordsOf_records h) hne version

end Target

/-- What is seeded has been read, in a mode that is known. -/
theorem seedPayload_eq_ok_iff {tuples mode : Value} {m : SeedingMode} {records : List Value} :
    seedPayload tuples mode = .ok (m, records) ↔ SeedingMode.ofValue? mode = some m ∧
      Relationship.recordsOf (tuples.orElse (.tuple [])) = .ok records := by
  have hmode : SeedingMode.required mode = .ok m ↔ SeedingMode.ofValue? mode = some m := by
    rw [SeedingMode.required]
    cases SeedingMode.ofValue? mode with
    | none => simp [throw, throwThe, MonadExceptOf.throw]
    | some n => simp [pure, Except.pure]
  rw [← hmode]
  constructor
  · intro h
    obtain ⟨n, hn, h⟩ := exists_of_bind_eq_ok h
    obtain ⟨read, hread, h⟩ := exists_of_bind_eq_ok h
    cases h
    exact ⟨hn, hread⟩
  · rintro ⟨hm, hread⟩
    rw [seedPayload, hm]
    change Relationship.recordsOf _ >>= _ = _
    rw [hread]
    rfl

end Rebac
