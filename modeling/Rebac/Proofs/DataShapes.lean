import Rebac.Proofs.DeletionFilter
import Rebac.Proofs.ShownValues

set_option autoImplicit false

/-!
# The shapes of relationships and filters

Relationships and filters are read out of data by looking up one part after the other, and the first
part that cannot be reached ends the reading. What is accepted can be said without that order: a
relationship is a mapping with an entity, a relation and a subject, and a filter is a mapping whose
entity and subject are left out, do not count or have a type (`read_accepts_shapes`). Anything else
is refused, whatever kind of value stands in the place of a mapping. It is reported as a parameter
at fault if the report can show it; a number with too many digits or too many levels of data leave
the caller with another failure (`longNumber_unreported`).
-/

namespace Rebac

namespace Value

variable {v w default : Value} {key : String}

/-- A mapping that has this value under a key. -/
def Holds (v : Value) (key : String) (w : Value) : Prop :=
  ∃ es, v = .map es ∧ Entries.get? es (.text key) = some w

/-- A value whose items can be listed: a text, bytes or a collection. -/
def IsIterable : Value → Prop
  | .text _ | .bytes _ | .list _ | .tuple _ | .set _ | .map _ => True
  | _ => False

theorem Holds.exists_map (h : v.Holds key w) : ∃ es, v = .map es := by
  obtain ⟨es, hes, -⟩ := h
  exact ⟨es, hes⟩

/-- A part is reached exactly if a mapping has it. -/
theorem item_eq_ok_iff : v.item key = .ok w ↔ v.Holds key w := by
  constructor
  · intro h
    exact Filter.exists_map_of_item h
  · rintro ⟨es, rfl, hget⟩
    exact item_of_get? hget

/-- A part that may be left out is reached exactly in a mapping. -/
theorem find_eq_ok_iff : v.find key default = .ok w ↔
    ∃ es, v = .map es ∧ (Entries.get? es (.text key)).getD default = w := by
  cases v with
  | map es => simp [find, pure, Except.pure]
  | _ => simp [find, throw, throwThe, MonadExceptOf.throw]

/-- Items are listed exactly if the value has any to list. -/
theorem exists_items_iff : (∃ xs, v.items = .ok xs) ↔ v.IsIterable := by
  cases v with
  | _ => simp [items, IsIterable, pure, Except.pure, throw, throwThe, MonadExceptOf.throw]

end Value

open Value

/-! ## Relationships -/

namespace Relationship

/-- An instance given as data: a mapping with a type and an identifier. -/
def IsReference (v : Value) : Prop := (∃ type, v.Holds "type" type) ∧ ∃ id, v.Holds "id" id

/-- A relationship given as data: a mapping with an entity and a subject, each of them an instance,
and a relation, which may be any value. -/
def HasShape (v : Value) : Prop :=
  (∃ entity, v.Holds "entity" entity ∧ IsReference entity) ∧
    (∃ relation, v.Holds "relation" relation) ∧
      ∃ subject, v.Holds "subject" subject ∧ IsReference subject

/-- Reads a relationship out of data; other data is a parameter at fault, and the caller is told. -/
def read (v : Value) : Except Failure Relationship :=
  (ofData v).mapError fun cause => (Failure.parameter (.invalidTuple v cause)).told

variable {v : Value} {r : Relationship}

theorem ofData_eq_ok_iff : ofData v = .ok r ↔ ∃ entity subject,
    v.Holds "entity" entity ∧ v.Holds "subject" subject ∧
    entity.Holds "type" r.entity.type ∧ entity.Holds "id" r.entity.id ∧
    v.Holds "relation" r.relation ∧
    subject.Holds "type" r.subject.type ∧ subject.Holds "id" r.subject.id ∧
    subject.find "relation" .none = .ok r.subject.relation := by
  constructor
  · intro h
    obtain ⟨entity, hentity, h⟩ := exists_of_bind_eq_ok h
    obtain ⟨subject, hsubject, h⟩ := exists_of_bind_eq_ok h
    obtain ⟨type, htype, h⟩ := exists_of_bind_eq_ok h
    obtain ⟨id, hid, h⟩ := exists_of_bind_eq_ok h
    obtain ⟨relation, hrelation, h⟩ := exists_of_bind_eq_ok h
    obtain ⟨subjectType, hsubjectType, h⟩ := exists_of_bind_eq_ok h
    obtain ⟨subjectId, hsubjectId, h⟩ := exists_of_bind_eq_ok h
    obtain ⟨subjectRelation, hsubjectRelation, h⟩ := exists_of_bind_eq_ok h
    cases h
    simp only [item_eq_ok_iff] at *
    exact ⟨entity, subject, hentity, hsubject, htype, hid, hrelation, hsubjectType, hsubjectId,
      hsubjectRelation⟩
  · rintro ⟨entity, subject, hentity, hsubject, htype, hid, hrelation, hsubjectType, hsubjectId,
      hsubjectRelation⟩
    simp only [← item_eq_ok_iff] at *
    simp only [ofData, hentity, hsubject, htype, hid, hrelation, hsubjectType, hsubjectId,
      hsubjectRelation, bind, Except.bind]
    rfl

/-- **A relationship is read exactly out of data of its shape.** -/
theorem exists_ofData_iff : (∃ r, ofData v = .ok r) ↔ HasShape v := by
  simp only [ofData_eq_ok_iff]
  constructor
  · rintro ⟨r, entity, subject, hentity, hsubject, htype, hid, hrelation, hsubjectType,
      hsubjectId, -⟩
    exact ⟨⟨entity, hentity, ⟨_, htype⟩, _, hid⟩, ⟨_, hrelation⟩, subject, hsubject,
      ⟨_, hsubjectType⟩, _, hsubjectId⟩
  · rintro ⟨⟨entity, hentity, ⟨type, htype⟩, id, hid⟩, ⟨relation, hrelation⟩, subject, hsubject,
      ⟨subjectType, hsubjectType⟩, subjectId, hsubjectId⟩
    -- A subject with a type is a mapping, so its relation is looked up without a fault.
    obtain ⟨es, hes⟩ := hsubjectType.exists_map
    exact ⟨⟨⟨type, id⟩, relation, ⟨subjectType, subjectId, _⟩⟩, entity, subject, hentity, hsubject,
      htype, hid, hrelation, hsubjectType, hsubjectId, find_eq_ok_iff.2 ⟨es, hes, rfl⟩⟩

/-- What is no record is read as data, and the caller is told of the same failure. -/
theorem recordOf_eq_read (h : ∀ e r s, v ≠ .relationship e r s) :
    (recordOf v).mapError Failure.told = (read v).map toRecord := by
  unfold recordOf
  split
  · exact absurd rfl (h _ _ _)
  · rw [read]
    cases ofData v <;> rfl

end Relationship

/-! ## Filters -/

namespace Filter

/-- A part of a filter given as data: a mapping with a type, whose identifiers are left out, do not
count or can be listed. -/
def IsSelection (part : Value) : Prop :=
  (∃ type, part.Holds "type" type) ∧
    ∀ ids, part.Holds "ids" ids → ids.truthy = true → ids.IsIterable

/-- A part of a filter is left out, does not count or selects instances. -/
def HasPart (v : Value) (name : String) : Prop :=
  ∀ part, v.Holds name part → part.truthy = true → IsSelection part

/-- A filter given as data: a mapping with an entity and a subject, each of which may be left out,
and a relation, which may be any value. -/
def HasShape (v : Value) : Prop := (∃ es, v = .map es) ∧ HasPart v "entity" ∧ HasPart v "subject"

/-- Reads a filter out of data; other data is a parameter at fault, and the caller is told. -/
def read (v : Value) : Except Failure Filter :=
  (ofData v).mapError fun cause => (Failure.parameter (.invalidFilter v cause)).told

variable {v part : Value} {es : Entries Value}

/-- What is said of a value that counts is said of the value that is looked up. -/
theorem forall_holds_iff {name : String} {P : Value → Prop} :
    (∀ w, (Value.map es).Holds name w → w.truthy = true → P w) ↔
      ((valueOf es name).truthy = true → P (valueOf es name)) := by
  have hholds : ∀ w, (Value.map es).Holds name w ↔ Entries.get? es (.text name) = some w := by
    intro w
    simp [Holds]
  simp only [hholds, valueOf]
  cases Entries.get? es (.text name) with
  | none =>
      -- Nothing is looked up in place of a value that is left out, and nothing does not count.
      have hnone : Value.none.truthy = false := rfl
      simp [hnone]
  | some w => simp

/-- Identifiers are read exactly if those that count can be listed. -/
theorem exists_readIds_iff : (∃ ids, readIds (.map es) = .ok ids) ↔
    ∀ ids, (Value.map es).Holds "ids" ids → ids.truthy = true → ids.IsIterable := by
  have hread : (∃ ids, readIds (.map es) = .ok ids) ↔
      ((valueOf es "ids").orElse (.tuple [])).IsIterable := by
    rw [← exists_items_iff]
    constructor
    · rintro ⟨ids, h⟩
      obtain ⟨xs, -, hxs⟩ := exists_of_readIds h
      exact ⟨xs, hxs⟩
    · rintro ⟨xs, hxs⟩
      exact ⟨.tuple xs, bind_pure_eq_ok_iff.2 ⟨xs, hxs, rfl⟩⟩
  rw [hread, forall_holds_iff]
  cases htruthy : (valueOf es "ids").truthy with
  | true => simp [orElse_of_truthy htruthy]
  | false => simp [orElse_of_not_truthy htruthy, IsIterable]

/-- What is made of the type and the identifiers of a part is made exactly if the part selects
instances. -/
theorem exists_part_iff {α : Type} (make : Value → Value → Except AccessFault α)
    (hmake : ∀ type ids, (∃ es, part = .map es) → ∃ a, make type ids = .ok a) :
    (∃ a, (do make (← part.item "type") (← readIds part)) = .ok a) ↔ IsSelection part := by
  constructor
  · rintro ⟨a, h⟩
    obtain ⟨type, htype, h⟩ := exists_of_bind_eq_ok h
    obtain ⟨ids, hids, -⟩ := exists_of_bind_eq_ok h
    have hholds := item_eq_ok_iff.1 htype
    obtain ⟨es, rfl⟩ := hholds.exists_map
    exact ⟨⟨type, hholds⟩, exists_readIds_iff.1 ⟨ids, hids⟩⟩
  · rintro ⟨⟨type, htype⟩, hids⟩
    obtain ⟨es, rfl⟩ := htype.exists_map
    obtain ⟨ids, hread⟩ := exists_readIds_iff.2 hids
    obtain ⟨a, ha⟩ := hmake type ids ⟨es, rfl⟩
    refine ⟨a, ?_⟩
    rw [item_eq_ok_iff.2 htype, hread]
    exact ha

/-- An entity part is read exactly if it does not count or selects instances. -/
theorem exists_readEntity_iff :
    (∃ e, readEntity part = .ok e) ↔ (part.truthy = true → IsSelection part) := by
  rw [readEntity]
  split
  · rename_i htruthy
    simp only [htruthy, forall_const]
    exact exists_part_iff (fun type ids => pure (some (InstanceFilter.mk type ids)))
      fun _ _ _ => ⟨_, rfl⟩
  · rename_i htruthy
    simp [htruthy, pure, Except.pure]

/-- A subject part is read exactly if it does not count or selects instances; its relation may be
anything. -/
theorem exists_readSubject_iff :
    (∃ s, readSubject part = .ok s) ↔ (part.truthy = true → IsSelection part) := by
  rw [readSubject]
  split
  · rename_i htruthy
    simp only [htruthy, forall_const]
    refine exists_part_iff (fun type ids => do
      return some (SubjectFilter.mk type ids (← part.find "relation" .none))) ?_
    rintro type ids ⟨es, rfl⟩
    exact ⟨_, rfl⟩
  · rename_i htruthy
    simp [htruthy, pure, Except.pure]

/-- The parts of a filter are read one after the other. -/
theorem ofData_map (es : Entries Value) : ofData (.map es) = do
    let entity ← readEntity (valueOf es "entity")
    let subject ← readSubject (valueOf es "subject")
    return ⟨entity, (valueOf es "relation").orElse .none, subject⟩ := rfl

/-- **A filter is read exactly out of data of its shape.** -/
theorem exists_ofData_iff : (∃ f, ofData v = .ok f) ↔ HasShape v := by
  have hmapping : ∀ f, ofData v = .ok f → ∃ es, v = .map es := by
    intro f h
    obtain ⟨entity, hentity, -⟩ := exists_of_bind_eq_ok h
    obtain ⟨es, hes, -⟩ := find_eq_ok_iff.1 hentity
    exact ⟨es, hes⟩
  have hparts : ∀ es : Entries Value, (∃ f, ofData (.map es) = .ok f) ↔
      (∃ e, readEntity (valueOf es "entity") = .ok e) ∧
        ∃ s, readSubject (valueOf es "subject") = .ok s := by
    intro es
    rw [ofData_map]
    constructor
    · rintro ⟨f, h⟩
      obtain ⟨e, he, h⟩ := exists_of_bind_eq_ok h
      obtain ⟨s, hs, -⟩ := exists_of_bind_eq_ok h
      exact ⟨⟨e, he⟩, s, hs⟩
    · rintro ⟨⟨e, he⟩, s, hs⟩
      rw [he, hs]
      exact ⟨_, rfl⟩
  constructor
  · rintro ⟨f, h⟩
    obtain ⟨es, rfl⟩ := hmapping f h
    obtain ⟨hentity, hsubject⟩ := (hparts es).1 ⟨f, h⟩
    exact ⟨⟨es, rfl⟩, forall_holds_iff.2 (exists_readEntity_iff.1 hentity),
      forall_holds_iff.2 (exists_readSubject_iff.1 hsubject)⟩
  · rintro ⟨⟨es, rfl⟩, hentity, hsubject⟩
    exact (hparts es).2 ⟨exists_readEntity_iff.2 (forall_holds_iff.1 hentity),
      exists_readSubject_iff.2 (forall_holds_iff.1 hsubject)⟩

/-- What is no record is read as data, and the caller is told of the same failure. -/
theorem recordOf_eq_read (h : ∀ e r s, v ≠ .relationshipFilter e r s) :
    (recordOf v).mapError Failure.told = (read v).map toRecord := by
  unfold recordOf
  split
  · exact absurd rfl (h _ _ _)
  · rw [read]
    cases ofData v <;> rfl

end Filter

/-! ## What is refused -/

/-- A failure is reported as the fault of this parameter. -/
def Failure.Blames (f : Failure) (parameter : String) : Prop :=
  ∃ message, f.report? = some (.parameter message (.text parameter))

/-- A fault of a parameter that shows a value is told as it is exactly if the value can be shown;
otherwise the caller is told which number is too long or that there are too many levels. -/
theorem told_showing_iff {f : Failure} {v : Value} {parameter : String}
    (hblames : f.Blames parameter) (hmessage : f.checkMessage = v.checkShownQuoted) :
    (v.Fits maxLevels ↔ f.told.Blames parameter) ∧
      (¬ v.Fits maxLevels ↔ ∃ cause, f.told = .noText cause ∧ v.checkShownQuoted = .error cause ∧
        (cause.className = "ValueError" ∨ cause.className = "RecursionError")) := by
  have hshown : v.checkShownQuoted = .ok () ↔ v.Fits maxLevels := checkQuoted_eq_ok_iff
  cases h : v.checkShownQuoted with
  | ok u =>
      have hfits : v.Fits maxLevels := hshown.1 h
      have htold : f.told = f := Failure.told_of_checkMessage (hmessage.trans h)
      rw [htold]
      refine ⟨iff_of_true hfits hblames, iff_of_false (not_not_intro hfits) ?_⟩
      rintro ⟨cause, rfl, -⟩
      obtain ⟨message, hreport⟩ := hblames
      cases hreport
  | error cause =>
      have hfits : ¬ v.Fits maxLevels := by
        rw [← hshown, h]
        exact nofun
      have htold : f.told = .noText cause := Failure.told_of_fault (hmessage.trans h)
      refine ⟨iff_of_false hfits ?_,
        iff_of_true hfits ⟨cause, htold, rfl, className_of_checkQuoted h⟩⟩
      rintro ⟨message, hreport⟩
      rw [htold] at hreport
      cases hreport

/-- How data of a shape is read: what has the shape is accepted. What has not is reported as a fault
of a parameter if it can be shown, and otherwise the caller is told that it cannot be. -/
structure ReadsShape {α : Type} (x : Except Failure α) (v : Value) (HasShape : Prop)
    (parameter : String) : Prop where
  accepted : HasShape ↔ ∃ a, x = .ok a
  blamed : ¬ HasShape ∧ v.Fits maxLevels ↔ ∃ f, x = .error f ∧ f.Blames parameter
  unshown : ¬ HasShape ∧ ¬ v.Fits maxLevels ↔ ∃ cause, x = .error (.noText cause) ∧
    v.checkShownQuoted = .error cause ∧
    (cause.className = "ValueError" ∨ cause.className = "RecursionError")

/-- Reading is this way if every fault of it is one of the parameter and shows the data. -/
theorem ReadsShape.of_faults {α β : Type} {x : Except β α} {g : β → Failure} {v : Value}
    {HasShape : Prop} {parameter : String} (hok : (∃ a, x = .ok a) ↔ HasShape)
    (hblames : ∀ cause, (g cause).Blames parameter)
    (hmessage : ∀ cause, (g cause).checkMessage = v.checkShownQuoted) :
    ReadsShape (x.mapError fun cause => (g cause).told) v HasShape parameter := by
  cases x with
  | ok a =>
      have hshape : HasShape := hok.1 ⟨a, rfl⟩
      exact ⟨iff_of_true hshape ⟨a, rfl⟩, iff_of_false (fun h => h.1 hshape) nofun,
        iff_of_false (fun h => h.1 hshape) nofun⟩
  | error fault =>
      have hshape : ¬ HasShape := fun h => by
        obtain ⟨a, ha⟩ := hok.2 h
        cases ha
      obtain ⟨hshown, hunshown⟩ := told_showing_iff (hblames fault) (hmessage fault)
      refine ⟨iff_of_false hshape nofun, ?_, ?_⟩
      · simp [Except.mapError, hshape, hshown]
      · simp only [Except.mapError, hshape, not_false_eq_true, true_and, hunshown,
          Except.error.injEq]

/-- What cannot be shown is not reported. -/
theorem ReadsShape.unreported {α : Type} {x : Except Failure α} {v : Value} {HasShape : Prop}
    {parameter : String} {cause : TextFault} (h : ReadsShape x v HasShape parameter)
    (hshape : ¬ HasShape) (hshown : v.checkShownQuoted = .error cause) :
    ¬ HasShape ∧ x = .error (.noText cause) ∧ ¬ ∃ f, x = .error f ∧ f.Blames parameter := by
  have hfits : ¬ v.Fits maxLevels := exists_checkShownQuoted_iff.1 ⟨cause, hshown⟩
  obtain ⟨cause', hx, hshown', -⟩ := h.unshown.1 ⟨hshape, hfits⟩
  obtain rfl : cause' = cause := Except.error.inj (hshown'.symm.trans hshown)
  exact ⟨hshape, hx, fun hblamed => hfits (h.blamed.2 hblamed).2⟩

theorem Relationship.readsShape (v : Value) :
    ReadsShape (Relationship.read v) v (Relationship.HasShape v) "tuples" :=
  .of_faults Relationship.exists_ofData_iff (fun _ => ⟨_, rfl⟩) fun _ => rfl

theorem Filter.readsShape (v : Value) :
    ReadsShape (Filter.read v) v (Filter.HasShape v) "filter" :=
  .of_faults Filter.exists_ofData_iff (fun _ => ⟨_, rfl⟩) fun _ => rfl

/-- **Data is read exactly if it has the shape of what is read.** Whatever value is given, a
relationship or a filter is read out of it if the value has that shape. Otherwise the value is
reported as a fault of the tuples or of the filter if a message can show it, and if none can, the
caller is told of the number that is too long or of the levels that are too many, and never of
anything else. Reading data this way is what happens to every value that is no record already. -/
theorem read_accepts_shapes (v : Value) :
    ReadsShape (Relationship.read v) v (Relationship.HasShape v) "tuples" ∧
    ReadsShape (Filter.read v) v (Filter.HasShape v) "filter" ∧
    ((∀ e r s, v ≠ .relationship e r s) →
      (Relationship.recordOf v).mapError Failure.told =
        (Relationship.read v).map Relationship.toRecord) ∧
    ((∀ e r s, v ≠ .relationshipFilter e r s) →
      (Filter.recordOf v).mapError Failure.told = (Filter.read v).map Filter.toRecord) :=
  ⟨Relationship.readsShape v, Filter.readsShape v, Relationship.recordOf_eq_read,
    Filter.recordOf_eq_read⟩

/-- Data whose entity is a number with too many digits. -/
def longEntity : Value := .record [("entity", longNumber)]

/-- Faults that cannot be shown are not reported as faults of a parameter: neither a number with too
many digits nor too many levels of data has the shape of a relationship or a filter. -/
theorem longNumber_unreported :
    (¬ Relationship.HasShape longEntity ∧
      Relationship.read longEntity = .error (.noText .tooLong) ∧
      ¬ ∃ f, Relationship.read longEntity = .error f ∧ f.Blames "tuples") ∧
    (¬ Filter.HasShape longEntity ∧ Filter.read longEntity = .error (.noText .tooLong) ∧
      ¬ ∃ f, Filter.read longEntity = .error f ∧ f.Blames "filter") ∧
    ¬ Relationship.HasShape (nestedRelation 520) ∧
      Relationship.read (nestedRelation 520) = .error (.noText .tooDeep) ∧
      ¬ ∃ f, Relationship.read (nestedRelation 520) = .error f ∧ f.Blames "tuples" := by
  have hlong : longEntity.checkShownQuoted = .error .tooLong := checkQuoted_longEntry (by decide)
  have hdeep : (nestedRelation 520).checkShownQuoted = .error .tooDeep :=
    checkQuoted_nestedRelation (by decide)
  have hnoTuple : ¬ Relationship.HasShape longEntity := by
    rintro ⟨-, ⟨relation, es, hes, hget⟩, -⟩
    cases hes
    cases hget
  have hnoFilter : ¬ Filter.HasShape longEntity := by
    rintro ⟨-, hentity, -⟩
    obtain ⟨⟨type, es, hes, -⟩, -⟩ := hentity longNumber ⟨_, rfl, rfl⟩ truthy_longNumber
    cases hes
  have hnoRelation : ¬ Relationship.HasShape (nestedRelation 520) := by
    rintro ⟨-, ⟨relation, es, hes, -⟩, -⟩
    cases hes
  exact ⟨(Relationship.readsShape longEntity).unreported hnoTuple hlong,
    (Filter.readsShape longEntity).unreported hnoFilter hlong,
    (Relationship.readsShape (nestedRelation 520)).unreported hnoRelation hdeep⟩

/-- A relationship whose subject is given as a list. -/
def listedSubject : Value := .record
  [("entity", .record [("type", .text "document"), ("id", .text "doc-1")]),
    ("relation", .text "viewer"), ("subject", .list [.text "user", .text "alice"])]

/-- A list is no subject, neither of a relationship nor of a filter, and a message shows it. -/
theorem listedSubject_refused :
    (∀ e r s, listedSubject ≠ .relationship e r s) ∧
    (∀ e r s, listedSubject ≠ .relationshipFilter e r s) ∧
    (¬ Relationship.HasShape listedSubject ∧ ¬ Filter.HasShape listedSubject) ∧
    (∃ f, (Relationship.recordOf listedSubject).mapError Failure.told = .error f ∧
      f.Blames "tuples") ∧
    ∃ f, (Filter.recordOf listedSubject).mapError Failure.told = .error f ∧ f.Blames "filter" := by
  have htuple : ∀ e r s, listedSubject ≠ .relationship e r s := nofun
  have hfilter : ∀ e r s, listedSubject ≠ .relationshipFilter e r s := nofun
  obtain ⟨hreadsTuple, hreadsFilter, hreadTuple, hreadFilter⟩ := read_accepts_shapes listedSubject
  have hfits : listedSubject.Fits maxLevels := by simp [listedSubject, maxLevels]
  have hnoTuple : ¬ Relationship.HasShape listedSubject := by
    rw [hreadsTuple.accepted]
    rintro ⟨r, h⟩
    cases h
  have hnoFilter : ¬ Filter.HasShape listedSubject := by
    rw [hreadsFilter.accepted]
    rintro ⟨r, h⟩
    cases h
  obtain ⟨f, hf, hblames⟩ := hreadsTuple.blamed.1 ⟨hnoTuple, hfits⟩
  obtain ⟨g, hg, hblamesFilter⟩ := hreadsFilter.blamed.1 ⟨hnoFilter, hfits⟩
  refine ⟨htuple, hfilter, ⟨hnoTuple, hnoFilter⟩, ⟨f, ?_, hblames⟩, g, ?_, hblamesFilter⟩
  · rw [hreadTuple htuple, hf]
    rfl
  · rw [hreadFilter hfilter, hg]
    rfl

end Rebac
