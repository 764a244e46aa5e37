import Rebac.Proofs.Spellings

set_option autoImplicit false

/-!
# Which fault is reported

A declaration may be at fault in many places, and one fault is reported. The parts of a declaration
that can be at fault are a list of items in a fixed order: entity by entity, and in each entity its
keys as they are written, then the relations, permissions and attributes as sections, wherever they
are written, then the members of these sections in the same order. Each item says by itself whether
it is at fault (`Offends`), without regard to what stands before it. Building ends with the fault of
the first item that offends (`Schema.goesThrough_build`).

Hence declarations can be built one part after the other, and references are looked at only if no
item offends, wherever a reference dangles (`Schema.build_first_fault`).
-/

namespace Rebac

namespace Declaration

/-! ## Items of a declaration -/

/-- A part of the declaration of an entity that can be at fault. -/
inductive Item
  /-- A declaration that is neither a record nor a mapping. -/
  | shapeless (entity : Key)
  /-- A key of a declaration. -/
  | key (entity key : Key)
  /-- A section with its name. -/
  | part (entity : Key) (title : String) (value : Value)
  | relation (entity key : Key) (decl : Value)
  | permission (entity key : Key) (decl : Value)
  | attribute (entity key : Key) (decl : Value)

/-- The value that is given as the type of an attribute, inside a record or on its own. -/
def givenType : Value → Value
  | .attributeDef t => t
  | t => t

/-- How an item is at fault. -/
inductive Offends : Item → BuildFault → Prop
  | noObject (e : Key) : Offends (.shapeless e) (.malformed (.noObject e))
  | unknownKey {e k : Key} (h : ∀ s ∈ sectionNames, k ≠ .text s) :
      Offends (.key e k) (.malformed (.unknownKey e k (suggestion? k)))
  | sectionShape {e : Key} {title : String} {v : Value} (h : ∀ es, v ≠ .map es) :
      Offends (.part e title v) (.malformed (.sectionShape title e))
  /-- Targets are listed before they are looked at. -/
  | noItems {e k : Key} {d w : Value} {cause : AccessFault} (hw : GivesTargets d w)
      (h : w.items = .error cause) : Offends (.relation e k d) (.access cause)
  | noTargets {e k : Key} {d : Value}
      (hitems : ∀ w cause, GivesTargets d w → w.items ≠ .error cause)
      (h : ∀ r, ¬ Relation.IsDeclared k d r) :
      Offends (.relation e k d) (.malformed (.noTargets e k))
  | noExpression {e k : Key} {d : Value} (h : ∀ p, ¬ Permission.IsDeclared k d p) :
      Offends (.permission e k d) (.malformed (.noExpression e k))
  | invalidType {e k : Key} {d : Value} (h : ∀ a, ¬ Attribute.IsDeclared k d a) :
      Offends (.attribute e k d) (.malformed (.invalidType e k (givenType d)))

/-- The entries of a section. What is no mapping has none. -/
def entriesOf : Value → Entries Value
  | .map es => es
  | _ => []

/-- The items of the members of an entity. -/
def memberItems (e : Key) (relations permissions attributes : Entries Value) : List Item :=
  relations.map (fun m => .relation e m.1 m.2) ++
    (permissions.map (fun m => .permission e m.1 m.2) ++
      attributes.map (fun m => .attribute e m.1 m.2))

/-- The items of the sections of an entity: the sections, and then their members. -/
def sectionItems (e : Key) (relations permissions attributes : Value) : List Item :=
  .part e "relations" relations :: .part e "permissions" permissions ::
    .part e "attributes" attributes ::
      memberItems e (entriesOf relations) (entriesOf permissions) (entriesOf attributes)

/-- The items of the declaration of an entity, in the order in which they are looked at. The keys of
a mapping are in the order in which they are written. The sections are not. -/
def items (e : Key) : Value → List Item
  | .entityDef r p a => sectionItems e r p a
  | .map es => es.map (fun m => .key e m.1) ++
      sectionItems e (sectionOf es "relations") (sectionOf es "permissions")
        (sectionOf es "attributes")
  | _ => [.shapeless e]

/-- An entity is well formed if none of its items offends. -/
def WellFormed (e : Key) (decl : Value) : Prop := ∀ i ∈ items e decl, ∀ f, ¬ Offends i f

variable {e k : Key} {d : Value} {f : BuildFault}

/-! ## Members -/

/-- What gives no values as targets is no declaration of a relation. -/
theorem eq_noTargets_of_targetValues (h : targetValues e k d = .error f) :
    f = .malformed (.noTargets e k) := by
  cases d with
  | map es =>
      rw [targetValues] at h
      split at h
      · cases h
      · cases h
  | relationDef _ | text _ | list _ | tuple _ | bytes _ => cases h
  | _ =>
      cases h
      rfl

/-- A relation that is not read gives targets without items, or it is malformed. -/
theorem readRelation_error_cases (h : readRelation e k d = .error f) :
    (∃ cause, f = .access cause) ∨ f = .malformed (.noTargets e k) := by
  have htargets : targets e k d = .error f := bind_pure_eq_error_iff.1 h
  rcases error_or_ok_of_bind_eq_error htargets with hnone | ⟨v, hvalues, -⟩
  · exact Or.inr (eq_noTargets_of_targetValues hnone)
  · rcases targets_of_values hvalues with
      ⟨cause, -, hfault⟩ | ⟨items, -, ⟨ts, -, -, hok⟩ | hmalformed⟩
    · rw [hfault] at htargets
      cases htargets
      exact Or.inl ⟨cause, rfl⟩
    · rw [hok] at htargets
      cases htargets
    · rw [hmalformed] at htargets
      cases htargets
      exact Or.inr rfl

theorem readRelation_eq_error_iff (e k : Key) (d : Value) (f : BuildFault) :
    readRelation e k d = .error f ↔ Offends (.relation e k d) f := by
  constructor
  · intro h
    rcases readRelation_error_cases h with ⟨cause, rfl⟩ | rfl
    · obtain ⟨w, hw, hitems⟩ := readRelation_access_iff.1 h
      exact .noItems hw hitems
    · refine .noTargets (fun w cause hw hitems => ?_) (fun r hr => ?_)
      · rw [readRelation_access_iff.2 ⟨w, hw, hitems⟩] at h
        cases h
      · rw [readRelation_eq_ok_iff.2 hr] at h
        cases h
  · intro h
    cases h with
    | noItems hw hitems => exact readRelation_access_iff.2 ⟨_, hw, hitems⟩
    | noTargets hitems hnone =>
        cases hread : readRelation e k d with
        | ok r => exact absurd (readRelation_eq_ok_iff.1 hread) (hnone r)
        | error g =>
            rcases readRelation_error_cases hread with ⟨cause, rfl⟩ | rfl
            · obtain ⟨w, hw, h⟩ := readRelation_access_iff.1 hread
              exact absurd h (hitems w cause hw)
            · rfl

theorem readPermission_eq_error_iff (e k : Key) (d : Value) (f : BuildFault) :
    readPermission e k d = .error f ↔ Offends (.permission e k d) f := by
  rcases readPermission_cases e k d with ⟨s, -, hread⟩ | hread
  · rw [hread]
    constructor
    · intro h
      cases h
    · intro h
      cases h with
      | noExpression hnone => exact absurd (readPermission_eq_ok_iff.1 hread) (hnone _)
  · rw [hread]
    constructor
    · intro h
      cases h
      refine .noExpression fun p hp => ?_
      rw [readPermission_eq_ok_iff.2 hp] at hread
      cases hread
    · rintro ⟨⟩
      rfl

/-- An attribute that is not read is of the type that is given for it. -/
theorem eq_invalidType_of_readAttribute (h : readAttribute e k d = .error f) :
    f = .malformed (.invalidType e k (givenType d)) := by
  dsimp only [readAttribute] at h
  split at h
  · cases h
  · cases h
    rfl

theorem readAttribute_eq_error_iff (e k : Key) (d : Value) (f : BuildFault) :
    readAttribute e k d = .error f ↔ Offends (.attribute e k d) f := by
  constructor
  · intro h
    rw [eq_invalidType_of_readAttribute h]
    refine .invalidType fun a ha => ?_
    rw [readAttribute_eq_ok_iff.2 ha] at h
    cases h
  · intro h
    cases h with
    | invalidType hnone =>
        cases hread : readAttribute e k d with
        | ok a => exact absurd (readAttribute_eq_ok_iff.1 hread) (hnone a)
        | error g => rw [eq_invalidType_of_readAttribute hread]

/-! ## Sections and entities -/

/-- The entries of a mapping are gone through in order. -/
theorem goesThrough_readEntries {α : Type} {read : Key → Value → Except BuildFault α}
    {is : Key → Value → List Item} (h : ∀ k d, GoesThrough Offends (is k d) (read k d))
    (es : Entries Value) :
    GoesThrough Offends (es.flatMap fun m => is m.1 m.2) (readEntries read es) := by
  rw [readEntries]
  exact (GoesThrough.mapM (fun m => (h m.1 m.2).bind_pure _) es).bind_pure _

theorem goesThrough_readMembers (r p a : Entries Value) :
    GoesThrough Offends (memberItems e r p a) (readMembers e r p a) := by
  have hr := goesThrough_readEntries (fun k d => .single (readRelation_eq_error_iff e k d)) r
  have hp := goesThrough_readEntries (fun k d => .single (readPermission_eq_error_iff e k d)) p
  have ha := goesThrough_readEntries (fun k d => .single (readAttribute_eq_error_iff e k d)) a
  simp only [memberItems, List.map_eq_flatMap]
  exact hr.bind fun _ _ => hp.bind fun _ _ => ha.bind_pure _

/-- A section is looked at as a whole, and what is found are its entries. -/
theorem goesThrough_sectionEntries (title : String) (v : Value) :
    GoesThrough Offends [.part e title v] (sectionEntries e (title, v)) := by
  refine GoesThrough.single fun g => ?_
  constructor
  · intro h
    cases v with
    | map es => cases h
    | _ =>
        cases h
        exact .sectionShape nofun
  · intro h
    cases h with
    | sectionShape hshape =>
        cases v with
        | map es => exact absurd rfl (hshape es)
        | _ => rfl

theorem entriesOf_of_sectionEntries {title : String} {v : Value} {es : Entries Value}
    (h : sectionEntries e (title, v) = .ok es) : entriesOf v = es := by
  cases v with
  | map es' =>
      cases h
      rfl
  | _ => cases h

/-- All sections are looked at before the members of any. -/
theorem goesThrough_readSections (r p a : Value) :
    GoesThrough Offends (sectionItems e r p a) (readSections e r p a) := by
  refine (goesThrough_sectionEntries "relations" r).bind fun rs hr => ?_
  refine (goesThrough_sectionEntries "permissions" p).bind fun ps hp => ?_
  refine (goesThrough_sectionEntries "attributes" a).bind fun as ha => ?_
  rw [entriesOf_of_sectionEntries hr, entriesOf_of_sectionEntries hp,
    entriesOf_of_sectionEntries ha]
  exact goesThrough_readMembers rs ps as

theorem isSection_eq_false_iff : isSection k = false ↔ ∀ s ∈ sectionNames, k ≠ .text s := by
  simp [isSection]

/-- The keys of a mapping are looked at in the order in which they are written. -/
theorem goesThrough_keys {α : Type} (es : Entries Value) {x : Except BuildFault α}
    {is : List Item} (hx : (∀ m ∈ es, isSection m.1 = true) → GoesThrough Offends is x)
    (hunknown : ∀ m, es.find? (fun m => !isSection m.1) = some m →
      x = .error (.malformed (.unknownKey e m.1 (suggestion? m.1)))) :
    GoesThrough Offends (es.map (fun m => .key e m.1) ++ is) x := by
  -- By induction on the keys: a section is passed over, and any other key ends the reading.
  induction es with
  | nil => exact hx (by simp)
  | cons m es ih =>
      cases hm : isSection m.1 with
      | true =>
          refine .sound ?_ (ih (fun h => hx (List.forall_mem_cons.2 ⟨hm, h⟩)) fun n hn => ?_)
          · intro g hg
            cases hg with
            | unknownKey hnone =>
                rw [isSection_eq_false_iff.2 hnone] at hm
                cases hm
          · exact hunknown n (by rw [List.find?_cons_of_neg (by simp [hm]), hn])
      | false =>
          rw [hunknown m (by rw [List.find?_cons_of_pos (by simp [hm])])]
          refine .fault fun g => ⟨?_, ?_⟩
          · rintro ⟨⟩
            rfl
          · rintro rfl
            exact .unknownKey (isSection_eq_false_iff.1 hm)

/-- An entity is read item by item. -/
theorem goesThrough_readEntity (e : Key) (d : Value) :
    GoesThrough Offends (items e d) (readEntity e d) := by
  cases d with
  | entityDef r p a =>
      rw [readEntity_of_sections rfl]
      exact goesThrough_readSections r p a
  | map es =>
      refine goesThrough_keys es (fun hknown => ?_) (fun m hm => ?_)
      · have hnone : es.find? (fun m => !isSection m.1) = none :=
          List.find?_eq_none.2 fun m hm => by simp [hknown m hm]
        rw [readEntity_of_sections (by rw [sections, hnone]; rfl)]
        exact goesThrough_readSections _ _ _
      · rw [readEntity, sections, hm]
        rfl
  | _ =>
      refine .fault fun g => ⟨?_, ?_⟩
      · rintro ⟨⟩
        rfl
      · rintro rfl
        exact .noObject e

end Declaration

namespace Schema

open Declaration

variable {es fs : Entries Value} {f : BuildFault}

/-- The items of the declarations of a schema, entity by entity. -/
def items (es : Entries Value) : List Item := es.flatMap fun m => Declaration.items m.1 m.2

/-- A schema is built item by item. -/
theorem goesThrough_build (es : Entries Value) : GoesThrough Offends (items es) (build es) :=
  (goesThrough_readEntries goesThrough_readEntity es).bind_pure _

/-- A schema is built exactly if its entities are well formed. -/
theorem exists_build_iff : (∃ s, build es = .ok s) ↔ ∀ m ∈ es, WellFormed m.1 m.2 := by
  rw [(goesThrough_build es).exists_ok_iff]
  simp only [items, List.forall_mem_flatMap, WellFormed]

theorem build_append_eq_error_iff : build (es ++ fs) = .error f ↔
    build es = .error f ∨ (∃ a, build es = .ok a) ∧ build fs = .error f := by
  rw [(goesThrough_build _).eq_error_iff, (goesThrough_build _).eq_error_iff,
    (goesThrough_build _).eq_error_iff, (goesThrough_build _).exists_ok_iff, items,
    List.flatMap_append, isFirstFault_append]
  rfl

/-- What two mappings without a common key declare is what the one declares and then what the other
does. -/
theorem build_append_eq_ok_iff {A B : Dict Value}
    (hdisjoint : ∀ k ∈ A.keys, ∀ l ∈ B.keys, k.same l = false) {s : Schema} :
    build (A.entries ++ B.entries) = .ok s ↔ ∃ a b, build A.entries = .ok a ∧
      build B.entries = .ok b ∧ s.entities.entries = a.entities.entries ++ b.entities.entries := by
  have hdistinct : Entries.Distinct (A.entries ++ B.entries) :=
    List.pairwise_append.2 ⟨A.distinct, B.distinct, fun e he f hf =>
      hdisjoint e.1 (List.mem_map_of_mem he) f.1 (List.mem_map_of_mem hf)⟩
  simp only [build_eq_ok_iff, readEntries_eq_ok_iff_mirrors hdistinct,
    readEntries_eq_ok_iff_mirrors A.distinct, readEntries_eq_ok_iff_mirrors B.distinct,
    Dict.mirrors_iff]
  constructor
  · intro h
    -- The entities of the first mapping are as many as its entries.
    have hsplit : s.entities.entries = s.entities.entries.take A.entries.length ++
        s.entities.entries.drop A.entries.length := (List.take_append_drop ..).symm
    obtain ⟨htake, hdrop, -⟩ := List.pairwise_append.1 (hsplit ▸ s.entities.distinct)
    exact ⟨⟨⟨_, htake⟩⟩, ⟨⟨_, hdrop⟩⟩, (List.forall₂_take_append _ _ _ h.flip).flip,
      (List.forall₂_drop_append _ _ _ h.flip).flip, hsplit⟩
  · rintro ⟨a, b, ha, hb, hs⟩
    rw [hs]
    exact List.rel_append ha hb

/-! ## Structure before references -/

theorem kind_eq_referenceError_iff {f : DefineFault} :
    (Failure.ofDefine f).kind = "ReferenceError" ↔ ∃ d, f = .dangling d := by
  cases f with
  | dangling d => simp [Failure.ofDefine, Failure.kind]
  | build g =>
      cases g with
      | malformed m => simp [Failure.ofDefine, Failure.ofBuild, Failure.kind]
      | access cause =>
          cases cause with
          | _ => simp [Failure.ofDefine, Failure.ofBuild, Failure.kind, AccessFault.className]

/-- A reference is found to dangle in what has been built. -/
theorem define_dangling_iff {v : Value} {d : Dangling} : define v = .error (.dangling d) ↔
    ∃ es s, v = .map es ∧ build es = .ok s ∧ s.validate = .error d := by
  constructor
  · intro h
    cases v with
    | map es =>
        rw [define] at h
        split at h
        · cases h
        · rename_i s hbuild
          split at h
          · rename_i d' hvalidate
            cases h
            exact ⟨es, s, rfl, hbuild, hvalidate⟩
          · cases h
    | _ => cases h
  · rintro ⟨es, s, rfl, hbuild, hvalidate⟩
    rw [define, hbuild]
    dsimp only
    rw [hvalidate]
    rfl

/-- **The first fault in order is reported, and structure comes before references.** Building ends
with the fault of the first item that offends, entity by entity. What two mappings without a common
key declare together is refused as what the first declares or, if that is built, as what the second
does, and otherwise has the entities of the first and then those of the second. A schema is refused
for a reference exactly if it is a mapping of well-formed entities and validation refuses what is
built of it, wherever the reference stands. -/
theorem build_first_fault :
    (∀ es f, build es = .error f ↔ IsFirstFault Offends (items es) f) ∧
    (∀ A B : Dict Value, (∀ k ∈ A.keys, ∀ l ∈ B.keys, k.same l = false) →
      (∀ f, build (A.entries ++ B.entries) = .error f ↔
        build A.entries = .error f ∨ (∃ a, build A.entries = .ok a) ∧ build B.entries = .error f) ∧
      ∀ s, build (A.entries ++ B.entries) = .ok s ↔ ∃ a b, build A.entries = .ok a ∧
        build B.entries = .ok b ∧
          s.entities.entries = a.entities.entries ++ b.entities.entries) ∧
    ∀ v f, define v = .error f ∧ (Failure.ofDefine f).kind = "ReferenceError" ↔
      ∃ es s d, v = .map es ∧ (∀ m ∈ es, WellFormed m.1 m.2) ∧ build es = .ok s ∧
        s.validate = .error d ∧ f = .dangling d := by
  refine ⟨fun es => (goesThrough_build es).eq_error_iff, fun A B h => ?_, fun v f => ?_⟩
  · exact ⟨fun f => build_append_eq_error_iff, fun s => build_append_eq_ok_iff h⟩
  · rw [kind_eq_referenceError_iff]
    constructor
    · rintro ⟨hdefine, d, rfl⟩
      obtain ⟨es, s, rfl, hbuild, hvalidate⟩ := define_dangling_iff.1 hdefine
      exact ⟨es, s, d, rfl, exists_build_iff.1 ⟨s, hbuild⟩, hbuild, hvalidate, rfl⟩
    · rintro ⟨es, s, d, rfl, -, hbuild, hvalidate, rfl⟩
      exact ⟨define_dangling_iff.2 ⟨es, s, rfl, hbuild, hvalidate⟩, d, rfl⟩

/-- A document that is well formed, with an owner of an entity type that does not exist. -/
def danglingDocument : Dict Value :=
  ⟨[(.text "document", .record [("relations", .record [("owner", .text "nobody")])])],
    List.pairwise_singleton _ _⟩

/-- A team with an unknown type of attributes, and behind it a permission without an expression. -/
def malformedTeam : Dict Value :=
  ⟨[(.text "team", .record [("attributes", .record [("size", .text "number")]),
    ("permissions", .record [("manage", .text " ")])])], List.pairwise_singleton _ _⟩

/-- **The permission of the second entity is reported**, not the reference in front of it and not
the attribute that is written before it. -/
theorem malformedTeam_reported :
    (∀ k ∈ danglingDocument.keys, ∀ l ∈ malformedTeam.keys, k.same l = false) ∧
    build (danglingDocument.entries ++ malformedTeam.entries) =
      .error (.malformed (.noExpression (.text "team") (.text "manage"))) := by
  have hdisjoint : ∀ k ∈ danglingDocument.keys, ∀ l ∈ malformedTeam.keys, k.same l = false := by
    decide
  exact ⟨hdisjoint, ((build_first_fault.2.1 _ _ hdisjoint).1 _).2 (Or.inr ⟨⟨_, rfl⟩, rfl⟩)⟩

end Schema

end Rebac
