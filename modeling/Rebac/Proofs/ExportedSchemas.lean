import Rebac.Proofs.DeclaredSchemas
import Rebac.Schema.Declaration
import Rebac.Value.Mapping

set_option autoImplicit false

/-!
# Schemas that are exported and built again

The data of a schema can be read as declarations again: the name of each entity with its sections.
What is built out of them is the schema itself (`Schema.build_of_export`), since a name is the key
of its own data (`Value.toKey_ofKey`) and what is exported of a member declares that member.
-/

namespace Rebac

/-! ## Keys as data -/

namespace Value

variable {v : Value} {k : Key}

/-- The key of a record is made of the keys of its fields. -/
theorem toKey_of_fields? {kind : RecordKind} {fields : List Value}
    (h : v.fields? = some (kind, fields)) :
    v.toKey = toKeys fields >>= fun ks => pure (.node (.record kind) ks) := by
  cases v <;> simp [fields?] at h <;> obtain ⟨rfl, rfl⟩ := h <;> simp [toKey, toKeys]

theorem length_of_fields? {kind : RecordKind} {fields : List Value}
    (h : v.fields? = some (kind, fields)) : fields.length = kind.fieldNames.length := by
  cases v <;> simp [fields?] at h <;> obtain ⟨rfl, rfl⟩ := h <;> rfl

/-- As many fields as a record has are those of the record that they make up. -/
theorem fields?_ofFields {kind : RecordKind} {fields : List Value}
    (h : fields.length = kind.fieldNames.length) :
    (ofFields kind fields).fields? = some (kind, fields) := by
  cases kind with
  | relationDef | permissionDef | attributeDef =>
      obtain ⟨a, rfl⟩ := List.length_eq_one_iff.1 h
      rfl
  | entityRef | entityFilter =>
      obtain ⟨a, b, rfl⟩ := List.length_eq_two.1 h
      rfl
  | _ =>
      obtain ⟨a, b, c, rfl⟩ := List.length_eq_three.1 h
      rfl

/-- A key with parts is that of a tuple or of a record, and its parts are the keys of the items or
the fields. -/
theorem exists_of_toKey_node {shape : KeyShape} {parts : List Key}
    (h : v.toKey = .ok (.node shape parts)) : ∃ xs, toKeys xs = .ok parts ∧
      (shape = .tuple ∧ v = .tuple xs ∨
        ∃ kind, shape = .record kind ∧ v.fields? = some (kind, xs)) := by
  cases hfields : v.fields? with
  | some f =>
      obtain ⟨kind, xs⟩ := f
      rw [toKey_of_fields? hfields] at h
      obtain ⟨ks, hks, h⟩ := bind_pure_eq_ok_iff.1 h
      cases h
      exact ⟨xs, hks, Or.inr ⟨kind, rfl, rfl⟩⟩
  | none =>
      cases v with
      | tuple xs =>
          rw [toKey] at h
          obtain ⟨ks, hks, h⟩ := bind_pure_eq_ok_iff.1 h
          cases h
          exact ⟨xs, hks, Or.inl ⟨rfl, rfl⟩⟩
      | entityDef | relationDef | permissionDef | attributeDef | entityRef | subjectRef
      | relationship | entityFilter | subjectFilter | relationshipFilter => cases hfields
      | _ => cases h

theorem toKey_ofAtom (a : Atom) : (ofAtom a).toKey = .ok (.atom a) := by
  cases a <;> rfl

theorem length_of_toKeys {vs : List Value} {ks : List Key} (h : toKeys vs = .ok ks) :
    ks.length = vs.length := by
  induction vs generalizing ks with
  | nil =>
      cases h
      rfl
  | cons v vs ih =>
      obtain ⟨k, -, h⟩ := exists_of_bind_eq_ok h
      obtain ⟨ks', hks, h⟩ := bind_pure_eq_ok_iff.1 h
      rw [← h, List.length_cons, List.length_cons, ih hks]

theorem length_ofKeys (ks : List Key) : (ofKeys ks).length = ks.length := by
  induction ks with
  | nil => rfl
  | cons k ks ih => rw [ofKeys, List.length_cons, List.length_cons, ih]

mutual

/-- A key is the key of its own data. -/
theorem toKey_ofKey : ∀ {k : Key} {v : Value}, v.toKey = .ok k → (ofKey k).toKey = .ok k
  | .atom a, _, _ => by
      rw [ofKey]
      exact toKey_ofAtom a
  | .node shape parts, v, h => by
      obtain ⟨xs, hxs, ⟨rfl, rfl⟩ | ⟨kind, rfl, hfields⟩⟩ := exists_of_toKey_node h
      · rw [ofKey, toKey, toKeys_ofKeys hxs]
        rfl
      · have hlength : (ofKeys parts).length = kind.fieldNames.length := by
          rw [length_ofKeys, length_of_toKeys hxs, length_of_fields? hfields]
        rw [ofKey, toKey_of_fields? (fields?_ofFields hlength), toKeys_ofKeys hxs]
        rfl

theorem toKeys_ofKeys : ∀ {ks : List Key} {vs : List Value}, toKeys vs = .ok ks →
    toKeys (ofKeys ks) = .ok ks
  | [], _, _ => rfl
  | k :: ks, vs, h => by
      cases vs with
      | nil => cases h
      | cons v vs =>
          obtain ⟨k', hk, h⟩ := exists_of_bind_eq_ok h
          obtain ⟨ks', hks, h⟩ := bind_pure_eq_ok_iff.1 h
          cases h
          rw [ofKeys, toKeys, toKey_ofKey hk, toKeys_ofKeys hks]
          rfl

end

end Value

/-! ## Members as they are exported -/

section Members

open Declaration

variable {key : Key} {decl : Value}

theorem Relation.IsDeclared.exported {r : Relation} (h : r.IsDeclared key decl) :
    r.IsDeclared key (.list (r.targets.map .text)) :=
  ⟨h.name, .list _, h.nonempty, h.named⟩

theorem Permission.IsDeclared.exported {p : Permission} (h : p.IsDeclared key decl) :
    p.IsDeclared key (.text p.expression) :=
  ⟨h.name, .text _, h.visible⟩

theorem Attribute.IsDeclared.exported {a : Attribute} (h : a.IsDeclared key decl) :
    a.IsDeclared key (.text a.type) := by
  obtain ⟨hname, t, -, htype⟩ := h
  refine ⟨hname, t, ?_, htype⟩
  rw [htype]
  exact .text t

end Members

/-! ## Exported data as declarations -/

namespace Declaration

/-- The declaration in the data of an entity: its name, and its sections as they are. -/
def ofEntityData? (v : Value) : Option (Key × Value) := do
  let name ← (v.item "name").toOption
  let key ← name.toKey.toOption
  let sections ← sectionNames.mapM fun s => (v.item s).toOption.map fun w => (s, w)
  return (key, .record sections)

/-- The declarations in the data of a schema. -/
def ofSchemaData? (v : Value) : Option (Entries Value) := do
  let entities ← (v.item "entities").toOption
  let items ← entities.items.toOption
  return Entries.dedupe (← items.mapM ofEntityData?)

/-- The sections of an entity as they are exported. -/
def exportedSections (e : Entity) : Value :=
  .record [("relations", e.relationsValue), ("permissions", e.permissionsValue),
    ("attributes", e.attributesValue)]

theorem ofEntityData?_toValue {e : Entity} (hkey : (Value.ofKey e.name).toKey = .ok e.name) :
    ofEntityData? e.toValue = some (e.name, exportedSections e) := by
  have hname : e.toValue.item "name" = .ok (.ofKey e.name) := rfl
  rw [ofEntityData?, hname]
  dsimp only [Except.toOption, Option.bind_eq_bind, Option.bind_some]
  rw [hkey]
  rfl

/-- The members of a section are exported as declarations of these members, under their keys. -/
theorem exists_of_sectionValue {α : Type} {R : Key → Value → α → Prop} {title : α → Key}
    {value : α → Value} {es : Entries Value} {d : Dict α} (h : d.Mirrors R es)
    (htitle : ∀ k v x, R k v x → title x = k) (hvalue : ∀ k v x, R k v x → R k (value x) x) :
    ∃ fs, Entity.sectionValue title value d = .map fs ∧ Entries.Distinct fs ∧ d.Mirrors R fs := by
  have hentry : ∀ y ∈ d.entries, title y.2 = y.1 ∧ R y.1 (value y.2) y.2 := by
    intro y hy
    obtain ⟨e, -, hkey, hR⟩ := exists_of_mem_right (Dict.mirrors_iff.1 h) hy
    rw [hkey]
    exact ⟨htitle _ _ _ hR, hvalue _ _ _ hR⟩
  have hsection : d.values.map (fun x => (title x, value x)) =
      d.entries.map fun y => (y.1, value y.2) := by
    rw [Dict.values, List.map_map]
    exact List.map_congr_left fun y hy => Prod.ext (hentry y hy).1 rfl
  have hkeys : (d.entries.map fun y => (y.1, value y.2)).map (·.1) = d.entries.map (·.1) := by
    rw [List.map_map]
    rfl
  have hdistinct := d.distinct.of_keys_eq hkeys
  refine ⟨d.entries.map fun y => (y.1, value y.2), ?_, hdistinct, ?_⟩
  · rw [Entity.sectionValue, hsection, Entries.dedupe_of_distinct hdistinct]
  · rw [Dict.mirrors_iff, List.forall₂_map_left_iff, List.forall₂_same]
    exact fun y hy => ⟨rfl, (hentry y hy).2⟩

/-- A mapping in place of a section is taken as it is. -/
theorem sectionOf_of_get? {es fs : Entries Value} {title : String}
    (h : Entries.get? es (.text title) = some (.map fs)) : sectionOf es title = .map fs := by
  rw [sectionOf, h, Option.getD_some]
  cases fs with
  | nil => rfl
  | cons f fs => rfl

/-- The sections of an exported entity are those that are exported. -/
theorem hasEntries_exportedSections {e : Entity} {r p a : Entries Value}
    (hr : e.relationsValue = .map r) (hp : e.permissionsValue = .map p)
    (ha : e.attributesValue = .map a) : HasEntries (exportedSections e) r p a := by
  rw [exportedSections, hr, hp, ha]
  have hknown : ∀ f ∈ [(Key.text "relations", Value.map r), (.text "permissions", .map p),
      (.text "attributes", .map a)], isSection f.1 = true := by
    simp only [List.forall_mem_cons]
    exact ⟨by decide, by decide, by decide, nofun⟩
  have hsections := HasSections.mapping hknown
  rw [sectionOf_of_get? rfl, sectionOf_of_get? rfl, sectionOf_of_get? rfl] at hsections
  exact hsections

/-- What is exported of an entity declares that entity. -/
theorem exportedSections_declares {key : Key} {decl : Value} {e : Entity}
    (h : e.IsDeclared key decl) :
    HasDistinctKeys (exportedSections e) ∧ e.IsDeclared key (exportedSections e) := by
  obtain ⟨hname, _, _, _, -, hrelations, hpermissions, hattributes⟩ := h
  obtain ⟨r, hr, hrdistinct, hrelations⟩ :=
    exists_of_sectionValue hrelations (fun _ _ _ h => h.name) fun _ _ _ h => h.exported
  obtain ⟨p, hp, hpdistinct, hpermissions⟩ :=
    exists_of_sectionValue hpermissions (fun _ _ _ h => h.name) fun _ _ _ h => h.exported
  obtain ⟨a, ha, hadistinct, hattributes⟩ :=
    exists_of_sectionValue hattributes (fun _ _ _ h => h.name) fun _ _ _ h => h.exported
  have hentries := hasEntries_exportedSections hr hp ha
  exact ⟨hentries.hasDistinctKeys hrdistinct hpdistinct hadistinct, hname, r, p, a, hentries,
    hrelations, hpermissions, hattributes⟩

/-- Each item of a list that is made of others is taken back to what it was made of. -/
theorem mapM_map_eq_some {α β γ : Type} {f : β → Option γ} {g : α → β} {h : α → γ} {xs : List α}
    (hx : ∀ x ∈ xs, f (g x) = some (h x)) : (xs.map g).mapM f = some (xs.map h) := by
  induction xs with
  | nil => rfl
  | cons x xs ih =>
      obtain ⟨hhead, htail⟩ := List.forall_mem_cons.1 hx
      rw [List.map_cons, List.mapM_cons, hhead, ih htail]
      rfl

end Declaration

namespace Schema

open Declaration

variable {es : Entries Value} {s : Schema}

/-- **A schema is built again out of its own data.** If the names of entities are data, the data of
every schema that is built can be read as declarations, and these are accepted with that schema as
result: the same entities and members in the same order, and so with the same references and the
same text. -/
theorem build_of_export (hmapping : IsMapping es) (hkeys : ∀ e ∈ es, ∃ v : Value, v.toKey = .ok e.1)
    (h : build es = .ok s) :
    ∃ es', ofSchemaData? s.toValue = some es' ∧ build es' = .ok s := by
  rw [build_eq_ok_iff, readEntries_eq_ok_iff_mirrors hmapping.distinct] at h
  have hentity : ∀ y ∈ s.entities.entries,
      ofEntityData? y.2.toValue = some (y.1, exportedSections y.2) ∧
        readEntity y.1 (exportedSections y.2) = .ok y.2 := by
    intro y hy
    obtain ⟨e, he, hkey, hread⟩ := exists_of_mem_right (Dict.mirrors_iff.1 h) hy
    have hdeclared := (readEntity_eq_ok_iff_declared (hmapping.sections e he)).1 hread
    rw [← hkey] at hdeclared
    obtain ⟨hdistinct, hexported⟩ := exportedSections_declares hdeclared
    obtain ⟨v, hv⟩ := hkeys e he
    refine ⟨?_, (readEntity_eq_ok_iff_declared hdistinct).2 hexported⟩
    rw [ofEntityData?_toValue, hexported.name]
    rw [hexported.name, hkey]
    exact Value.toKey_ofKey hv
  -- The declarations that are read back have the keys of the schema, so no key is there twice.
  have hkeys' : (s.entities.entries.map fun y => (y.1, exportedSections y.2)).map (·.1) =
      s.entities.entries.map (·.1) := by
    rw [List.map_map]
    rfl
  have hdistinct := s.entities.distinct.of_keys_eq hkeys'
  refine ⟨s.entities.entries.map fun y => (y.1, exportedSections y.2), ?_, ?_⟩
  · have hdata : s.toValue.item "entities" =
        .ok (.list (s.entities.entries.map fun y => y.2.toValue)) := by
      rw [toValue, Dict.values, List.map_map]
      rfl
    have hitems := mapM_map_eq_some fun y hy => (hentity y hy).1
    rw [ofSchemaData?, hdata]
    change ((s.entities.entries.map fun y => y.2.toValue).mapM ofEntityData? >>=
      fun es => pure (Entries.dedupe es)) = _
    rw [hitems]
    exact congrArg some (Entries.dedupe_of_distinct hdistinct)
  · rw [build_eq_ok_iff, readEntries_eq_ok_iff_mirrors hdistinct, Dict.mirrors_iff,
      List.forall₂_map_left_iff, List.forall₂_same]
    exact fun y hy => ⟨rfl, (hentity y hy).2⟩

/-- **Mixed spellings are exported in one.** -/
theorem mixedDeclarations_export : IsMapping mixedDeclarations ∧
    (∀ e ∈ mixedDeclarations, ∃ v : Value, v.toKey = .ok e.1) ∧
    ∃ s, build mixedDeclarations = .ok s ∧
      ∃ es', ofSchemaData? s.toValue = some es' ∧ build es' = .ok s := by
  have hkeys : ∀ e ∈ mixedDeclarations, ∃ v : Value, v.toKey = .ok e.1 := by
    rw [mixedDeclarations, List.forall_mem_cons, List.forall_mem_singleton]
    exact ⟨⟨.text "user", rfl⟩, ⟨.text "document", rfl⟩⟩
  obtain ⟨s, hs⟩ : ∃ s, build mixedDeclarations = .ok s := ⟨_, rfl⟩
  exact ⟨isMapping_mixedDeclarations, hkeys, s, hs,
    build_of_export isMapping_mixedDeclarations hkeys hs⟩

end Schema

end Rebac
