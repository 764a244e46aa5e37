import Rebac.Write.Operations
import Rebac.Proofs.Computations
import Rebac.Proofs.Mappings

set_option autoImplicit false

/-!
# Wire forms read back

A relation that does not count is left out of a wire form, and a relation that is left out is read
as none. So what is read back is the canonical form: the same relationship or filter, with none in the
place of every relation that may be left out and does not count (`Relationship.ofData_toValue`,
`Filter.read_wire`). The wire form of the canonical form is the same, hence a wire form determines
what it was made of up to such relations, and nothing else (`wire_forms_round_trip`).
-/

namespace Rebac

namespace Value

variable {v w : Value} {name : String} {fs : List (String × Value)}

theorem orElse_of_truthy (h : v.truthy = true) : v.orElse w = v := by
  rw [orElse, if_pos h]

theorem orElse_of_not_truthy (h : v.truthy = false) : v.orElse w = w := by
  rw [orElse, if_neg (by simp [h])]

theorem orElse_orElse_none (v : Value) : (v.orElse .none).orElse .none = v.orElse .none := by
  cases h : v.truthy with
  | true => rw [orElse_of_truthy h, orElse_of_truthy h]
  | false =>
      rw [orElse_of_not_truthy h]
      rfl

/-! Looking up the parts of a record. -/

theorem item_record (h : Entries.get? (Entries.named fs) (.text name) = some w) :
    (record fs).item name = .ok w :=
  item_of_get? h

theorem find_record (fs : List (String × Value)) (name : String) (default : Value) :
    (record fs).find name default =
      .ok ((Entries.get? (Entries.named fs) (.text name)).getD default) := rfl

end Value

/-! ## Relations that may be left out -/

namespace Filter

variable {relation : Value}

theorem wireRelation_of_truthy (h : relation.truthy = true) :
    wireRelation relation = [("relation", relation)] := by
  rw [wireRelation, if_pos h]

theorem wireRelation_of_not_truthy (h : relation.truthy = false) : wireRelation relation = [] := by
  rw [wireRelation, if_neg (by simp [h])]

theorem wireRelation_orElse (relation : Value) :
    wireRelation (relation.orElse .none) = wireRelation relation := by
  cases htruthy : relation.truthy with
  | true => rw [Value.orElse_of_truthy htruthy]
  | false =>
      rw [Value.orElse_of_not_truthy htruthy, wireRelation_of_not_truthy htruthy]
      rfl

theorem eq_relation_of_mem_wireRelation {f : String × Value} (h : f ∈ wireRelation relation) :
    f.1 = "relation" := by
  rw [wireRelation] at h
  split at h
  · rw [List.mem_singleton.1 h]
  · cases h

/-! ## Parts that may be left out -/

/-- The wire form of a part that may be absent. -/
def wirePart (name : String) (part : Option Value) : List (String × Value) :=
  match part with
  | some v => [(name, v)]
  | none => []

section Parts

variable {name other : String} {part : Option Value} {others : List (String × Value)}

theorem name_ne_of_mem_wirePart (hne : name ≠ other) :
    ∀ f ∈ wirePart name part, f.1 ≠ other := by
  cases part with
  | none =>
      intro f hf
      cases hf
  | some v =>
      intro f hf
      rw [wirePart, List.mem_singleton] at hf
      rwa [hf]

/-- A part is found under its name, and none if it is left out. -/
theorem getD_wirePart (part : Option Value) (h : ∀ f ∈ others, f.1 ≠ name) :
    (Entries.get? (Entries.named (wirePart name part ++ others)) (.text name)).getD .none =
      part.getD .none := by
  cases part with
  | none =>
      have hnone : Entries.get? (Entries.named others) (.text name) = none := by
        rw [← List.append_nil others, Entries.get?_named_append h]
        rfl
      rw [wirePart, List.nil_append, hnone]
  | some v => rw [wirePart, List.singleton_append, Entries.get?_named_cons, if_pos rfl]

end Parts

/-- A relation is a part that is left out unless it counts. -/
theorem exists_wireRelation_eq (relation : Value) :
    ∃ part, wireRelation relation = wirePart "relation" part ∧
      part.getD .none = relation.orElse .none := by
  cases htruthy : relation.truthy with
  | true =>
      exact ⟨some relation, wireRelation_of_truthy htruthy, (Value.orElse_of_truthy htruthy).symm⟩
  | false =>
      exact ⟨none, wireRelation_of_not_truthy htruthy,
        (Value.orElse_of_not_truthy htruthy).symm⟩

/-- A relation that is left out is read as none. -/
theorem getD_wireRelation (relation : Value) :
    (Entries.get? (Entries.named (wireRelation relation)) (.text "relation")).getD .none =
      relation.orElse .none := by
  obtain ⟨part, hwire, hread⟩ := exists_wireRelation_eq relation
  rw [hwire, ← hread, ← List.append_nil (wirePart _ _)]
  exact getD_wirePart part (List.forall_mem_nil _)

end Filter

/-! ## Relationships -/

namespace Subject

/-- The subject with none in the place of a relation that does not count. -/
def canonical (s : Subject) : Subject := { s with relation := s.relation.orElse .none }

theorem toValue_eq (s : Subject) :
    s.toValue = .record ([("type", s.type), ("id", s.id)] ++ Filter.wireRelation s.relation) := rfl

theorem toValue_canonical (s : Subject) : s.canonical.toValue = s.toValue := by
  rw [toValue_eq, toValue_eq, canonical, Filter.wireRelation_orElse]

/-- The relation that is read back from the wire form of a subject. -/
theorem find_relation_toValue (s : Subject) :
    s.toValue.find "relation" .none = .ok (s.relation.orElse .none) := by
  have hother : ∀ f ∈ [("type", s.type), ("id", s.id)], f.1 ≠ "relation" := by simp
  rw [toValue_eq, Value.find_record, Entries.get?_named_append hother, Filter.getD_wireRelation]

end Subject

namespace Relationship

/-- The relationship with none in the place of a relation of the subject that does not count. -/
def canonical (r : Relationship) : Relationship := { r with subject := r.subject.canonical }

theorem toValue_canonical (r : Relationship) : r.canonical.toValue = r.toValue := by
  rw [toValue, toValue, canonical, Subject.toValue_canonical]

/-- **The wire form of a relationship is read back as its canonical form.** -/
theorem ofData_toValue (r : Relationship) : ofData r.toValue = .ok r.canonical := by
  have hentity : r.toValue.item "entity" = .ok r.entity.toValue :=
    Value.item_record (by simp [Entries.get?_named_cons])
  have hsubject : r.toValue.item "subject" = .ok r.subject.toValue :=
    Value.item_record (by simp [Entries.get?_named_cons])
  have hrelation : r.toValue.item "relation" = .ok r.relation :=
    Value.item_record (by simp [Entries.get?_named_cons])
  have htype : r.entity.toValue.item "type" = .ok r.entity.type :=
    Value.item_record (by simp [Entries.get?_named_cons])
  have hid : r.entity.toValue.item "id" = .ok r.entity.id :=
    Value.item_record (by simp [Entries.get?_named_cons])
  have hsubjectType : r.subject.toValue.item "type" = .ok r.subject.type :=
    Value.item_record (by simp [Entries.get?_named_cons])
  have hsubjectId : r.subject.toValue.item "id" = .ok r.subject.id :=
    Value.item_record (by simp [Entries.get?_named_cons])
  simp only [ofData, hentity, hsubject, hrelation, htype, hid, hsubjectType, hsubjectId,
    r.subject.find_relation_toValue, bind, Except.bind]
  rfl

/-- Relationships have the same wire form exactly if they have the same canonical form. -/
theorem toValue_eq_iff {r s : Relationship} :
    r.toValue = s.toValue ↔ r.canonical = s.canonical := by
  constructor
  · intro h
    have hread := r.ofData_toValue
    rw [h, s.ofData_toValue] at hread
    exact (Except.ok.inj hread).symm
  · intro h
    rw [← toValue_canonical, h, toValue_canonical]

/-- A relation that does not count is not shown. -/
theorem line_canonical (r : Relationship) : r.canonical.line = r.line := by
  cases h : r.subject.relation.truthy with
  | true => simp only [line, canonical, Subject.canonical, Value.orElse_of_truthy h]
  | false =>
      have hnone : Value.none.truthy = false := rfl
      simp [line, canonical, Subject.canonical, h, Value.orElse_of_not_truthy h, hnone]

/-- The line of the relationship that is read from a wire form. -/
def lineOfWire (wire : Value) : String :=
  match ofData wire with
  | .ok r => r.line
  | .error _ => ""

theorem lineOfWire_toValue (r : Relationship) : lineOfWire r.toValue = r.line := by
  rw [lineOfWire, ofData_toValue]
  exact r.line_canonical

end Relationship

/-! ## Filters -/

/-- The subject part with none in the place of a relation that does not count. -/
def SubjectFilter.canonical (s : SubjectFilter) : SubjectFilter :=
  { s with relation := s.relation.orElse .none }

namespace Filter

/-- The filter with none in the place of every relation that does not count. -/
def canonical (f : Filter) : Filter :=
  { f with relation := f.relation.orElse .none, subject := f.subject.map SubjectFilter.canonical }

/-- The identifiers in the parts of a filter are tuples. -/
structure HasTuples (f : Filter) : Prop where
  entity : ∀ e, f.entity = some e → ∃ xs, e.ids = .tuple xs
  subject : ∀ s, f.subject = some s → ∃ xs, s.ids = .tuple xs

/-- The wire form of a part: type, identifiers and what else there is. -/
def wireInstances (type : Value) (ids : List Value) (others : List (String × Value)) : Value :=
  .record ([("type", type), ("ids", .list ids)] ++ others)

section Parts

variable {name : String} {type ids relation : Value} {xs : List Value}
  {others : List (String × Value)}

/-! Each part is read back. -/

theorem readIds_wireInstances : readIds (wireInstances type xs others) = .ok (.tuple xs) := by
  have hfind : (wireInstances type xs others).find "ids" .none = .ok (.list xs) := by
    simp [wireInstances, Value.find_record, Entries.get?_named_cons]
  have hitems : ((Value.list xs).orElse (.tuple [])).items = .ok xs := by
    cases xs <;> rfl
  rw [readIds, hfind]
  change (do return Value.tuple (← ((Value.list xs).orElse (.tuple [])).items)) = _
  rw [hitems]
  rfl

theorem item_type_wireInstances : (wireInstances type xs others).item "type" = .ok type :=
  Value.item_record (by simp [Entries.get?_named_cons])

theorem readEntity_wireInstances :
    readEntity (wireInstances type xs others) = .ok (some ⟨type, .tuple xs⟩) := by
  have htruthy : (wireInstances type xs others).truthy = true := rfl
  rw [readEntity, if_pos htruthy, item_type_wireInstances, readIds_wireInstances]
  rfl

theorem readSubject_wireInstances :
    readSubject (wireInstances type xs (wireRelation relation)) =
      .ok (some ⟨type, .tuple xs, relation.orElse .none⟩) := by
  have htruthy : (wireInstances type xs (wireRelation relation)).truthy = true := rfl
  have hrelation : (wireInstances type xs (wireRelation relation)).find "relation" .none =
      .ok (relation.orElse .none) := by
    have hother : ∀ f ∈ [("type", type), ("ids", Value.list xs)], f.1 ≠ "relation" := by simp
    rw [wireInstances, Value.find_record, Entries.get?_named_append hother, getD_wireRelation]
  rw [readSubject, if_pos htruthy, item_type_wireInstances, readIds_wireInstances, hrelation]
  rfl

/-- In the wire form of a subject, a relation that does not count is as good as none. -/
theorem wireSubject_orElse :
    wireSubject (.subjectFilter type ids (relation.orElse .none)) =
      wireSubject (.subjectFilter type ids relation) := by
  have hsent (r : Value) : wireSubject (.subjectFilter type ids r) =
      listIds (.subjectFilter type ids r) >>= fun ids =>
        pure [("subject", .record ([("type", type), ("ids", ids)] ++ wireRelation r))] := rfl
  rw [hsent, hsent, wireRelation_orElse]
  rfl

end Parts

theorem toValue_canonical (f : Filter) : f.canonical.toValue = f.toValue := by
  rcases f with ⟨entity, relation, subject⟩
  have hsubject : wireSubject (subjectRecord (canonical ⟨entity, relation, subject⟩)) =
      wireSubject (subjectRecord ⟨entity, relation, subject⟩) := by
    cases subject with
    | none => rfl
    | some s =>
        exact wireSubject_orElse
  rw [toValue, toValue, wire, wire, hsubject, canonical, wireRelation_orElse]
  rfl

/-! A filter is the sum of its parts. -/

variable {f g : Filter}

theorem exists_wireEntity (h : f.HasTuples) :
    ∃ part, wireEntity f.entityRecord = .ok (wirePart "entity" part) ∧
      readEntity (part.getD .none) = .ok f.entity := by
  rcases f with ⟨entity, relation, subject⟩
  cases entity with
  | none => exact ⟨none, rfl, rfl⟩
  | some e =>
      rcases e with ⟨type, ids⟩
      obtain ⟨xs, rfl⟩ := h.entity _ rfl
      exact ⟨some (wireInstances type xs []), rfl, readEntity_wireInstances⟩

theorem exists_wireSubject (h : f.HasTuples) :
    ∃ part, wireSubject f.subjectRecord = .ok (wirePart "subject" part) ∧
      readSubject (part.getD .none) = .ok (f.subject.map SubjectFilter.canonical) := by
  rcases f with ⟨entity, relation, subject⟩
  cases subject with
  | none => exact ⟨none, rfl, rfl⟩
  | some s =>
      rcases s with ⟨type, ids, relation⟩
      obtain ⟨xs, rfl⟩ := h.subject _ rfl
      exact ⟨some (wireInstances type xs (wireRelation relation)), rfl, readSubject_wireInstances⟩

/-- Reading parts in wire form is reading each of them. -/
theorem ofData_parts (entity relation subject : Option Value) :
    ofData (.record (wirePart "entity" entity ++ (wirePart "relation" relation ++
        wirePart "subject" subject))) = do
      return ⟨← readEntity (entity.getD .none), (relation.getD .none).orElse .none,
        ← readSubject (subject.getD .none)⟩ := by
  -- No two parts have the same name, so each is looked up behind the parts that precede it.
  let subjectPart := wirePart "subject" subject
  let relationPart := wirePart "relation" relation ++ subjectPart
  let wire := Value.record (wirePart "entity" entity ++ relationPart)
  have hentity : wire.find "entity" .none = .ok (entity.getD .none) := by
    have hothers : ∀ f ∈ relationPart, f.1 ≠ "entity" := List.forall_mem_append.2
      ⟨name_ne_of_mem_wirePart (by decide), name_ne_of_mem_wirePart (by decide)⟩
    rw [Value.find_record, getD_wirePart entity hothers]
  have hrelation : wire.find "relation" .none = .ok (relation.getD .none) := by
    have hothers : ∀ f ∈ subjectPart, f.1 ≠ "relation" := name_ne_of_mem_wirePart (by decide)
    rw [Value.find_record, Entries.get?_named_append (name_ne_of_mem_wirePart (by decide)),
      getD_wirePart relation hothers]
  have hsubject : wire.find "subject" .none = .ok (subject.getD .none) := by
    rw [Value.find_record, Entries.get?_named_append (name_ne_of_mem_wirePart (by decide)),
      Entries.get?_named_append (name_ne_of_mem_wirePart (by decide)),
      ← List.append_nil subjectPart, getD_wirePart subject (List.forall_mem_nil _)]
  change ofData wire = _
  rw [ofData, hentity, hsubject, hrelation]
  rfl

/-- **The wire form of a filter is read back as its canonical form.** -/
theorem exists_wire_ofData (h : f.HasTuples) :
    ∃ wire, f.toValue = .ok wire ∧ ofData wire = .ok f.canonical := by
  obtain ⟨entity, hentity, hreadEntity⟩ := exists_wireEntity h
  obtain ⟨subject, hsubject, hreadSubject⟩ := exists_wireSubject h
  obtain ⟨relation, hrelation, hreadRelation⟩ := exists_wireRelation_eq f.relation
  refine ⟨.record (wirePart "entity" entity ++ (wirePart "relation" relation ++
    wirePart "subject" subject)), ?_, ?_⟩
  · rw [toValue, wire, hentity, hsubject, hrelation, ← List.append_assoc]
    rfl
  · rw [ofData_parts, hreadEntity, hreadSubject, hreadRelation, Value.orElse_orElse_none]
    rfl

/-- Filters have the same wire form exactly if they have the same canonical form. -/
theorem toValue_eq_iff (hf : f.HasTuples) (hg : g.HasTuples) :
    f.toValue = g.toValue ↔ f.canonical = g.canonical := by
  constructor
  · intro h
    obtain ⟨v, hv, hread⟩ := exists_wire_ofData hf
    obtain ⟨w, hw, hread'⟩ := exists_wire_ofData hg
    rw [hv, hw] at h
    rw [Except.ok.inj h, hread'] at hread
    exact (Except.ok.inj hread).symm
  · intro h
    rw [← toValue_canonical, h, toValue_canonical]

end Filter

/-- **Wire forms are read back.** A relationship is read back from its wire form, and a filter whose
identifiers are tuples from its own, up to relations that do not count; what is read back has the
same wire form. So a wire form is that of one relationship or filter up to such relations, and the
line of a relationship can be told from its wire form. -/
theorem wire_forms_round_trip :
    (∀ r : Relationship,
      Relationship.ofData r.toValue = .ok r.canonical ∧ r.canonical.toValue = r.toValue) ∧
    (∀ f : Filter, f.HasTuples → ∃ wire, f.toValue = .ok wire ∧
      Filter.ofData wire = .ok f.canonical ∧ f.canonical.toValue = .ok wire) ∧
    (∀ r s : Relationship, r.toValue = s.toValue ↔ r.canonical = s.canonical) ∧
    (∀ f g : Filter, f.HasTuples → g.HasTuples →
      (f.toValue = g.toValue ↔ f.canonical = g.canonical)) ∧
    ∀ r : Relationship, r.line = Relationship.lineOfWire r.toValue := by
  refine ⟨fun r => ⟨r.ofData_toValue, r.toValue_canonical⟩, fun f hf => ?_,
    fun _ _ => Relationship.toValue_eq_iff, fun _ _ => Filter.toValue_eq_iff,
    fun r => r.lineOfWire_toValue.symm⟩
  obtain ⟨wire, hwire, hread⟩ := Filter.exists_wire_ofData hf
  exact ⟨wire, hwire, hread, f.toValue_canonical.trans hwire⟩

/-- A filter with empty relations, and without identifiers of subjects. -/
def emptyRelations : Filter where
  entity := some ⟨.text "document", .tuple [.text "doc-1"]⟩
  relation := .text ""
  subject := some ⟨.text "user", .tuple [], .text ""⟩

/-- Empty relations are read back as none. -/
theorem emptyRelations_round_trip :
    emptyRelations.HasTuples ∧ ∃ wire, emptyRelations.toValue = .ok wire ∧
      Filter.ofData wire = .ok ⟨some ⟨.text "document", .tuple [.text "doc-1"]⟩, .none,
        some ⟨.text "user", .tuple [], .none⟩⟩ := by
  have htuples : emptyRelations.HasTuples := by
    refine ⟨fun e he => ?_, fun s hs => ?_⟩
    · cases he
      exact ⟨_, rfl⟩
    · cases hs
      exact ⟨_, rfl⟩
  obtain ⟨wire, hwire, hread, -⟩ := wire_forms_round_trip.2.1 emptyRelations htuples
  exact ⟨htuples, wire, hwire, hread⟩

end Rebac
