import Rebac.Proofs.DeclaredSchemas

set_option autoImplicit false

/-!
# Spellings of declarations

Each part of a declaration may be written in several ways: a relation as a record, a list, a tuple
or a mapping of its targets, or as the name of its only target; a permission as a record or its
expression; an attribute as a record, a type or the text of one; an entity as a record or a mapping
of its sections. Parts that are written differently are respelt, at any depth and next to anything
else, malformed or not. The schema that is built does not depend on the spelling, and neither does
the fault if there is one (`Schema.build_eq_of_respelt`).

Members are compared one by one, and what is shown of a section and of an entity is that the reader
looks at the members only after everything that could tell two spellings apart.
-/

namespace Rebac

namespace Entries

variable {α : Type} {es : Entries α} {s : String} {v : α}

/-- The only entry under a text is found. -/
theorem get?_text_of_unique (h : (Key.text s, v) ∈ es)
    (hunique : ∀ w, (Key.text s, w) ∈ es → w = v) : get? es (.text s) = some v := by
  have hfound : (es.find? fun e => e.1.same (.text s)).isSome = true :=
    List.find?_isSome.2 ⟨_, h, by simp⟩
  obtain ⟨⟨k, w⟩, he⟩ := Option.isSome_iff_exists.1 hfound
  have hkey : k = .text s := Key.eq_text_of_same (by simpa using List.find?_some he)
  rw [get?, he, Option.map_some, hunique w (hkey ▸ List.mem_of_find?_eq_some he)]

theorem get?_text_eq_none (h : ∀ w, (Key.text s, w) ∉ es) : get? es (.text s) = none := by
  rw [get?, Option.map_eq_none_iff, List.find?_eq_none]
  rintro ⟨k, w⟩ he hsame
  exact h w (Key.eq_text_of_same hsame ▸ he)

end Entries

namespace Declaration

/-! ## Members -/

/-- The spellings of a relation to the given targets. -/
inductive SpellsRelation : List Value → Value → Prop
  | record (ts : List Value) : SpellsRelation ts (relation ts)
  | list (ts : List Value) : SpellsRelation ts (.list ts)
  | tuple (ts : List Value) : SpellsRelation ts (.tuple ts)
  | keyed (ts : List Value) : SpellsRelation ts (.record [("targets", .list ts)])
  | keyedTuple (ts : List Value) : SpellsRelation ts (.record [("targets", .tuple ts)])
  /-- A relation to one entity type may be written as the name of the type. -/
  | text (s : String) : SpellsRelation [.text s] (.text s)
  | keyedText (s : String) : SpellsRelation [.text s] (.record [("targets", .text s)])

/-- The spellings of a permission with the given expression. -/
inductive SpellsPermission : Value → Value → Prop
  | record (e : Value) : SpellsPermission e (permission e)
  | plain {e : Value} (h : ∀ w, e ≠ .permissionDef w) : SpellsPermission e e

/-- The spellings of a type of attributes: every type may be written as its text. -/
inductive SpellsType : Value → Value → Prop
  | same (t : Value) : SpellsType t t
  | type (t : AttributeType) : SpellsType (.text t.text) (.attributeType t)

/-- The spellings of an attribute of the given type. -/
inductive SpellsAttribute : Value → Value → Prop
  | record {t u : Value} (h : SpellsType t u) : SpellsAttribute t (attributeOf u)
  | plain {t u : Value} (h : SpellsType t u) (hu : ∀ w, u ≠ .attributeDef w) : SpellsAttribute t u

/-- Two declarations are the same, or spellings of one thing. -/
def Respelt {ι : Type} (spells : ι → Value → Prop) (d d' : Value) : Prop :=
  d = d' ∨ ∃ i, spells i d ∧ spells i d'

/-- How the members of a section may be respelt. -/
def MemberRespelt (sectionName : String) : Value → Value → Prop :=
  if sectionName = "relations" then Respelt SpellsRelation
  else if sectionName = "permissions" then Respelt SpellsPermission
  else if sectionName = "attributes" then Respelt SpellsAttribute
  else Eq

variable {entity key : Key} {d d' : Value}

/-- What does not depend on the spelling is the same for declarations that are respelt. -/
theorem Respelt.apply_eq {ι β : Type} {spells : ι → Value → Prop} {f : Value → β}
    (h : Respelt spells d d') (hf : ∀ i d d', spells i d → spells i d' → f d = f d') :
    f d = f d' := by
  rcases h with rfl | ⟨i, hd, hd'⟩
  · rfl
  · exact hf i d d' hd hd'

theorem SpellsRelation.lists {ts : List Value} (h : SpellsRelation ts d) : Lists d ts := by
  cases h with
  | record => exact .record rfl
  | list => exact .list ts
  | tuple => exact .tuple ts
  | keyed => exact .keyed (w := .list ts) rfl nofun rfl
  | keyedTuple => exact .keyed (w := .tuple ts) rfl nofun rfl
  | text s => exact .text s
  | keyedText s => exact .keyedText rfl

/-- Only the items that the declaration of a relation lists matter. -/
theorem targets_eq_of_lists {xs : List Value} (h : Lists d xs) (h' : Lists d' xs) :
    targets entity key d = targets entity key d' := by
  have hvalues : ∀ {d}, Lists d xs → ∃ v, targetValues entity key d = .ok v ∧ v.items = .ok xs :=
    fun hd => exists_values_of_lists hd
  obtain ⟨v, hv, hitems⟩ := hvalues h
  obtain ⟨v', hv', hitems'⟩ := hvalues h'
  rw [targets, targets, hv, hv']
  dsimp only [bind, Except.bind]
  rw [hitems, hitems']

theorem readRelation_eq_of_respelt (h : Respelt SpellsRelation d d') :
    readRelation entity key d = readRelation entity key d' := by
  refine h.apply_eq fun ts d d' hd hd' => ?_
  rw [readRelation, readRelation, targets_eq_of_lists hd.lists hd'.lists]

/-- A permission is read as its record. -/
theorem readPermission_of_spells {e : Value} (h : SpellsPermission e d) :
    readPermission entity key d = readPermission entity key (permission e) := by
  cases h with
  | record => rfl
  | plain hplain =>
      cases d with
      | permissionDef w => exact absurd rfl (hplain w)
      | _ => rfl

theorem readPermission_eq_of_respelt (h : Respelt SpellsPermission d d') :
    readPermission entity key d = readPermission entity key d' :=
  h.apply_eq fun _ _ _ hd hd' =>
    (readPermission_of_spells hd).trans (readPermission_of_spells hd').symm

/-- An attribute is read as its record, with the text of its type. -/
theorem readAttribute_of_spells {t : Value} (h : SpellsAttribute t d) :
    readAttribute entity key d = readAttribute entity key (.attributeDef t) := by
  have htype : ∀ u : AttributeType, readAttribute entity key (.attributeType u) =
      readAttribute entity key (.attributeDef (.text u.text)) := by
    intro u
    dsimp only [readAttribute, attributeType?]
    rw [AttributeType.ofText?_text]
  cases h with
  | record hu =>
      cases hu with
      | same =>
          cases t with
          | attributeType u => exact (htype u).symm
          | _ => rfl
      | type u => rfl
  | plain hu hplain =>
      cases hu with
      | same =>
          cases d with
          | attributeDef w => exact absurd rfl (hplain w)
          | _ => rfl
      | type u => exact htype u

theorem readAttribute_eq_of_respelt (h : Respelt SpellsAttribute d d') :
    readAttribute entity key d = readAttribute entity key d' :=
  h.apply_eq fun _ _ _ hd hd' =>
    (readAttribute_of_spells hd).trans (readAttribute_of_spells hd').symm

/-! ## Entries -/

/-- Entries that are written alike but for the spelling of their values. -/
def EntriesRespelt (same : Key → Value → Value → Prop) (es fs : Entries Value) : Prop :=
  List.Forall₂ (fun e f => e.1 = f.1 ∧ same e.1 e.2 f.2) es fs

variable {same : Key → Value → Value → Prop} {es fs : Entries Value}

theorem EntriesRespelt.keys_eq (h : EntriesRespelt same es fs) :
    es.map (·.1) = fs.map (·.1) := by
  induction h with
  | nil => rfl
  | cons hhead _ ih => rw [List.map_cons, List.map_cons, hhead.1, ih]

/-- Entries are read alike if their values are. -/
theorem EntriesRespelt.readEntries_eq {α : Type} {read : Key → Value → Except BuildFault α}
    (h : EntriesRespelt same es fs) (hread : ∀ k v w, same k v w → read k v = read k w) :
    readEntries read es = readEntries read fs := by
  have hmapM : es.mapM (fun e => do return (e.1, ← read e.1 e.2)) =
      fs.mapM (fun e => do return (e.1, ← read e.1 e.2)) := by
    induction h with
    | nil => rfl
    | cons hhead _ ih =>
        rw [List.mapM_cons, List.mapM_cons, ih, hread _ _ _ hhead.2, hhead.1]
  rw [readEntries, readEntries, hmapM]

/-! ## Sections -/

/-- Sections that are written alike but for the spelling of their members. -/
inductive SectionRespelt (sectionName : String) : Value → Value → Prop
  | refl (v : Value) : SectionRespelt sectionName v v
  | members {es fs : Entries Value}
      (h : EntriesRespelt (fun _ => MemberRespelt sectionName) es fs) :
      SectionRespelt sectionName (.map es) (.map fs)

/-- What is read from the entries of a section does not depend on their spelling. -/
theorem SectionRespelt.bind_eq {β : Type} {sectionName : String} {v w : Value}
    {f : Entries Value → Except BuildFault β} (h : SectionRespelt sectionName v w)
    (hf : ∀ es fs, EntriesRespelt (fun _ => MemberRespelt sectionName) es fs → f es = f fs) :
    (sectionEntries entity (sectionName, v) >>= f) =
      (sectionEntries entity (sectionName, w) >>= f) := by
  cases h with
  | refl => rfl
  | members h => exact hf _ _ h

/-- Reads the members of an entity out of its sections. -/
def readSections (name : Key) (relations permissions attributes : Value) :
    Except BuildFault Entity := do
  let r ← sectionEntries name ("relations", relations)
  let p ← sectionEntries name ("permissions", permissions)
  let a ← sectionEntries name ("attributes", attributes)
  readMembers name r p a

theorem readEntity_of_sections {name : Key} {r p a : Value}
    (h : sections name d = .ok [("relations", r), ("permissions", p), ("attributes", a)]) :
    readEntity name d = readSections name r p a := by
  rw [readEntity, h, readSections]
  change (List.mapM (sectionEntries name)
    [("relations", r), ("permissions", p), ("attributes", a)] >>= _) = _
  simp only [List.mapM_cons, List.mapM_nil, bind_assoc, pure_bind]
  rfl

/-- Sections are read alike however their members are spelt. -/
theorem readSections_eq_of_respelt {name : Key} {r p a r' p' a' : Value}
    (hr : SectionRespelt "relations" r r') (hp : SectionRespelt "permissions" p p')
    (ha : SectionRespelt "attributes" a a') :
    readSections name r p a = readSections name r' p' a' := by
  calc readSections name r p a
    _ = readSections name r' p a := by
        refine hr.bind_eq fun es fs h => ?_
        have hread : readEntries (readRelation name) es = readEntries (readRelation name) fs :=
          h.readEntries_eq fun _ _ _ hd => readRelation_eq_of_respelt hd
        simp only [readMembers, hread]
    _ = readSections name r' p' a := by
        refine bind_congr fun r => hp.bind_eq fun es fs h => ?_
        have hread : readEntries (readPermission name) es = readEntries (readPermission name) fs :=
          h.readEntries_eq fun _ _ _ hd => readPermission_eq_of_respelt hd
        simp only [readMembers, hread]
    _ = readSections name r' p' a' := by
        refine bind_congr fun r => bind_congr fun p => ha.bind_eq fun es fs h => ?_
        have hread : readEntries (readAttribute name) es = readEntries (readAttribute name) fs :=
          h.readEntries_eq fun _ _ _ hd => readAttribute_eq_of_respelt hd
        simp only [readMembers, hread]

/-! ## Entities -/

/-- A section as an argument; a section that is absent is nothing. -/
def argument : Option (Entries Value) → Value
  | some es => .map es
  | none => .none

/-- The sections that are present, under their names. -/
def present (r p a : Option (Entries Value)) : List (String × Value) :=
  [("relations", r), ("permissions", p), ("attributes", a)].filterMap fun s =>
    s.2.map fun es => (s.1, .map es)

/-- The spellings of an entity with the given sections, each of which may be absent: a record, or a
mapping of the sections in any order. -/
inductive SpellsEntity (r p a : Option (Entries Value)) : Value → Prop
  | record {d : Value}
      (h : Declaration.entity (argument r) (argument p) (argument a) = .ok d) :
      SpellsEntity r p a d
  | mapping {es : Entries Value} (h : es.Perm (Entries.named (present r p a))) :
      SpellsEntity r p a (.map es)

/-- What stands under a key of an entity may be respelt as the section of that name. -/
def ValueRespelt (key : Key) (v w : Value) : Prop :=
  v = w ∨ ∃ s, key = .text s ∧ SectionRespelt s v w

/-- Entities that are written alike but for the spelling of the whole or of any part. -/
inductive EntityRespelt : Value → Value → Prop
  | refl (d : Value) : EntityRespelt d d
  | symm {d d' : Value} (h : EntityRespelt d d') : EntityRespelt d' d
  | trans {d d' d'' : Value} (h : EntityRespelt d d') (h' : EntityRespelt d' d'') :
      EntityRespelt d d''
  | whole {r p a : Option (Entries Value)} {d d' : Value} (h : SpellsEntity r p a d)
      (h' : SpellsEntity r p a d') : EntityRespelt d d'
  | record {r p a r' p' a' : Value} (hr : SectionRespelt "relations" r r')
      (hp : SectionRespelt "permissions" p p') (ha : SectionRespelt "attributes" a a') :
      EntityRespelt (.entityDef r p a) (.entityDef r' p' a')
  | mapping {es fs : Entries Value} (h : EntriesRespelt ValueRespelt es fs) :
      EntityRespelt (.map es) (.map fs)

/-- An argument stands for a section, an empty one if it is nothing. -/
theorem toEntries_argument (s : Option (Entries Value)) :
    ((argument s).orElse (.map [])).toEntries = .ok (s.getD []) := by
  rcases s with _ | _ | ⟨e, es⟩
  · rfl
  · rfl
  · rfl

/-- The sections of a record that is made of them. -/
theorem entity_argument (r p a : Option (Entries Value)) :
    Declaration.entity (argument r) (argument p) (argument a) =
      .ok (.entityDef (.map (r.getD [])) (.map (p.getD [])) (.map (a.getD []))) := by
  simp only [Declaration.entity, toEntries_argument]
  rfl

theorem mem_present {r p a : Option (Entries Value)} {s : String} {v : Value} :
    (s, v) ∈ present r p a ↔ (∃ es, r = some es ∧ s = "relations" ∧ v = .map es) ∨
      (∃ es, p = some es ∧ s = "permissions" ∧ v = .map es) ∨
      ∃ es, a = some es ∧ s = "attributes" ∧ v = .map es := by
  simp only [present, List.mem_filterMap, List.mem_cons, List.not_mem_nil, or_false]
  constructor
  · rintro ⟨_, rfl | rfl | rfl, h⟩
    · obtain ⟨es, hes, heq⟩ := Option.map_eq_some_iff.1 h
      cases heq
      exact Or.inl ⟨es, hes, rfl, rfl⟩
    · obtain ⟨es, hes, heq⟩ := Option.map_eq_some_iff.1 h
      cases heq
      exact Or.inr (Or.inl ⟨es, hes, rfl, rfl⟩)
    · obtain ⟨es, hes, heq⟩ := Option.map_eq_some_iff.1 h
      cases heq
      exact Or.inr (Or.inr ⟨es, hes, rfl, rfl⟩)
  · rintro (⟨es, rfl, rfl, rfl⟩ | ⟨es, rfl, rfl, rfl⟩ | ⟨es, rfl, rfl, rfl⟩)
    · exact ⟨_, Or.inl rfl, rfl⟩
    · exact ⟨_, Or.inr (Or.inl rfl), rfl⟩
    · exact ⟨_, Or.inr (Or.inr rfl), rfl⟩

theorem isSection_of_mem_present {r p a : Option (Entries Value)} {s : String} {v : Value}
    (h : (s, v) ∈ present r p a) : isSection (.text s) = true := by
  rcases mem_present.1 h with ⟨es, -, rfl, -⟩ | ⟨es, -, rfl, -⟩ | ⟨es, -, rfl, -⟩
  all_goals decide

/-- A section is found among the sections that are present, whatever their order, and is empty if
it is absent. -/
theorem sectionOf_eq {s : String} {given : Option (Entries Value)}
    (h : ∀ v, (Key.text s, v) ∈ es ↔ ∃ fs, given = some fs ∧ v = .map fs) :
    sectionOf es s = .map (given.getD []) := by
  cases given with
  | none =>
      have hnone : Entries.get? es (.text s) = none := by
        refine Entries.get?_text_eq_none fun w hw => ?_
        obtain ⟨fs, hfs, -⟩ := (h w).1 hw
        cases hfs
      rw [sectionOf, hnone]
      rfl
  | some fs =>
      have hsome : Entries.get? es (.text s) = some (.map fs) := by
        refine Entries.get?_text_of_unique ((h _).2 ⟨fs, rfl, rfl⟩) fun w hw => ?_
        obtain ⟨gs, hgs, rfl⟩ := (h w).1 hw
        cases hgs
        rfl
      rw [sectionOf, hsome]
      cases fs with
      | nil => rfl
      | cons f fs => rfl

/-- The sections of an entity are those that its declaration spells. -/
theorem SpellsEntity.sections_eq {r p a : Option (Entries Value)} (h : SpellsEntity r p a d)
    (name : Key) :
    sections name d = .ok [("relations", .map (r.getD [])), ("permissions", .map (p.getD [])),
      ("attributes", .map (a.getD []))] := by
  cases h with
  | record h =>
      rw [entity_argument] at h
      cases h
      rfl
  | @mapping es hperm =>
      have hmem : ∀ s v, (Key.text s, v) ∈ es ↔ (s, v) ∈ present r p a := by
        intro s v
        rw [hperm.mem_iff, Entries.named, List.mem_map]
        constructor
        · rintro ⟨⟨s', v'⟩, hmem, heq⟩
          cases heq
          exact hmem
        · intro hmem
          exact ⟨(s, v), hmem, rfl⟩
      have hknown : es.find? (fun e => !isSection e.1) = none := by
        refine List.find?_eq_none.2 fun e he => ?_
        obtain ⟨⟨s, v⟩, hs, rfl⟩ := List.mem_map.1 (hperm.mem_iff.1 he)
        simp [isSection_of_mem_present hs]
      have hr : sectionOf es "relations" = .map (r.getD []) :=
        sectionOf_eq fun v => by rw [hmem, mem_present]; simp
      have hp : sectionOf es "permissions" = .map (p.getD []) :=
        sectionOf_eq fun v => by rw [hmem, mem_present]; simp
      have ha : sectionOf es "attributes" = .map (a.getD []) :=
        sectionOf_eq fun v => by rw [hmem, mem_present]; simp
      rw [sections, hknown]
      simp only [sectionNames, List.map_cons, List.map_nil, hr, hp, ha]
      rfl

/-- Sections that are respelt are present alike. -/
theorem SectionRespelt.truthy_eq {s : String} {v w : Value} (h : SectionRespelt s v w) :
    v.truthy = w.truthy := by
  cases h with
  | refl => rfl
  | members h => cases h <;> rfl

/-- Under each name, mappings that are respelt have sections that are. -/
theorem sectionOf_respelt (h : EntriesRespelt ValueRespelt es fs) (s : String) :
    SectionRespelt s (sectionOf es s) (sectionOf fs s) := by
  have hget : (Entries.get? es (.text s) = none ∧ Entries.get? fs (.text s) = none) ∨
      ∃ v w, Entries.get? es (.text s) = some v ∧ Entries.get? fs (.text s) = some w ∧
        SectionRespelt s v w := by
    induction h with
    | nil => exact Or.inl ⟨rfl, rfl⟩
    | @cons e f es fs hhead _ ih =>
        obtain ⟨k, v⟩ := e
        obtain ⟨k', w⟩ := f
        obtain ⟨hkey, hsection⟩ := hhead
        cases hkey
        rw [Entries.get?, Entries.get?, List.find?_cons, List.find?_cons]
        cases hk : k.same (.text s) with
        | false => exact ih
        | true =>
            refine Or.inr ⟨v, w, rfl, rfl, ?_⟩
            rcases hsection with rfl | ⟨s', rfl, hsection⟩
            · exact .refl v
            · cases Key.eq_text_of_same hk
              exact hsection
  rcases hget with ⟨hv, hw⟩ | ⟨v, w, hv, hw, hsection⟩
  · rw [sectionOf, sectionOf, hv, hw]
    exact .refl _
  · rw [sectionOf, sectionOf, hv, hw, Option.getD_some, Option.getD_some, Value.orElse,
      Value.orElse, hsection.truthy_eq]
    split
    · exact hsection
    · exact .refl _

/-- The first unknown key of a mapping does not depend on how its sections are spelt. -/
theorem EntriesRespelt.find?_key_eq (h : EntriesRespelt same es fs) (q : Key → Bool) :
    (es.find? fun e => q e.1).map (·.1) = (fs.find? fun e => q e.1).map (·.1) := by
  have hfind : ∀ es : Entries Value,
      (es.find? fun e => q e.1).map (·.1) = (es.map (·.1)).find? q := by
    intro es
    rw [List.find?_map]
    rfl
  rw [hfind, hfind, h.keys_eq]

/-- **Entities that are respelt are read alike.** -/
theorem readEntity_eq_of_respelt {name : Key} (h : EntityRespelt d d') :
    readEntity name d = readEntity name d' := by
  induction h with
  | refl => rfl
  | symm _ ih => exact ih.symm
  | trans _ _ ih ih' => exact ih.trans ih'
  | whole h h' =>
      rw [readEntity_of_sections (h.sections_eq name), readEntity_of_sections (h'.sections_eq name)]
  | record hr hp ha =>
      rw [readEntity_of_sections rfl, readEntity_of_sections rfl]
      exact readSections_eq_of_respelt hr hp ha
  | @mapping es fs h =>
      have hkey := h.find?_key_eq fun k => !isSection k
      cases hes : es.find? (fun e => !isSection e.1) with
      | some e =>
          -- Both are malformed by the same key.
          rw [hes] at hkey
          obtain ⟨f, hf, hef⟩ := Option.map_eq_some_iff.1 hkey.symm
          rw [readEntity, readEntity, sections, sections, hes, hf]
          dsimp only
          rw [hef]
      | none =>
          rw [hes] at hkey
          have hfs : fs.find? (fun e => !isSection e.1) = none :=
            Option.map_eq_none_iff.1 hkey.symm
          rw [readEntity_of_sections (by rw [sections, hes]; rfl),
            readEntity_of_sections (by rw [sections, hfs]; rfl)]
          exact readSections_eq_of_respelt (sectionOf_respelt h _) (sectionOf_respelt h _)
            (sectionOf_respelt h _)

end Declaration

namespace Schema

open Declaration

/-- **The spelling of a declaration does not matter.** Declarations of entities that differ in the
spelling of entities, relations, permissions and attributes denote the same schema or have the same
fault. -/
theorem build_eq_of_respelt {es fs : Entries Value}
    (h : EntriesRespelt (fun _ => EntityRespelt) es fs) : build es = build fs := by
  have hentities : readEntries readEntity es = readEntries readEntity fs :=
    h.readEntries_eq fun _ _ _ hd => readEntity_eq_of_respelt hd
  rw [build, build, hentities]

/-- The relations of a document, as plain data. -/
def documentRelations : Entries Value :=
  Entries.named [("owner", .text "user"), ("viewer", .list [.text "user", .text "document"])]

/-- The permissions of a document, as plain data. -/
def documentPermissions : Entries Value := Entries.named [("view", .text "owner or viewer")]

/-- The attributes of a document, as plain data. -/
def documentAttributes : Entries Value := Entries.named [("public", .text "boolean")]

/-- A schema written as plain data, the sections of a document in another order. -/
def plainDeclarations : Entries Value := Entries.named
  [("user", .map []),
    ("document", .record [("attributes", .map documentAttributes),
      ("permissions", .map documentPermissions), ("relations", .map documentRelations)])]

/-- The same schema written as records. -/
def recordDeclarations : Entries Value := Entries.named
  [("user", .entityDef (.map []) (.map []) (.map [])),
    ("document", .entityDef
      (.record [("owner", relation [.text "user"]),
        ("viewer", relation [.text "user", .text "document"])])
      (.record [("view", permission (.text "owner or viewer"))])
      (.record [("public", .attributeType .boolean)]))]

theorem plainDeclarations_respelt :
    EntriesRespelt (fun _ => EntityRespelt) plainDeclarations recordDeclarations := by
  have hwhole : EntityRespelt
      (.map (Entries.named (present documentRelations documentPermissions
        documentAttributes)).reverse)
      (.entityDef (.map documentRelations) (.map documentPermissions) (.map documentAttributes)) :=
    .whole (.mapping (List.reverse_perm _)) (.record rfl)
  refine .cons ⟨rfl, .whole (r := none) (p := none) (a := none) (.mapping .nil) (.record rfl)⟩
    (.cons ⟨rfl, hwhole.trans (.record ?_ ?_ ?_)⟩ .nil)
  · exact .members (.cons ⟨rfl, .inr ⟨_, .text "user", .record _⟩⟩
      (.cons ⟨rfl, .inr ⟨_, .list _, .record _⟩⟩ .nil))
  · exact .members (.cons ⟨rfl, .inr ⟨_, .plain nofun, .record _⟩⟩ .nil)
  · exact .members (.cons ⟨rfl, .inr ⟨.text AttributeType.boolean.text,
      .plain (.same _) nofun, .plain (.type _) nofun⟩⟩ .nil)

/-- Plain data and records denote the same schema. -/
theorem plainDeclarations_build_eq :
    EntriesRespelt (fun _ => EntityRespelt) plainDeclarations recordDeclarations ∧
      build plainDeclarations = build recordDeclarations ∧
      ∃ s, build plainDeclarations = .ok s :=
  ⟨plainDeclarations_respelt, build_eq_of_respelt plainDeclarations_respelt, _, by rfl⟩

end Schema

end Rebac
