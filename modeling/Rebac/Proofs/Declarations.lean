import Rebac.Failure
import Rebac.Proofs.Computations

set_option autoImplicit false

/-!
# How declarations are read

A declaration is read entry by entry, and reading ends at the first entry that is at fault
(`readEntries_eq_error_iff`). Almost every fault is a malformed part. The exception are the targets
of a relation that are given inside a record or under a key: they are listed before they are looked
at, so a value without items is found out as such (`Schema.build_access_iff`).
-/

namespace Rebac

namespace Declaration

variable {α : Type} {read : Key → Value → Except BuildFault α} {es : Entries Value}
variable {name : Key} {decl : Value} {f : BuildFault} {cause : AccessFault}

/-! ## Entries -/

/-- An entry of a mapping is reached by the reader of its entries. -/
def EntryReached (read : Key → Value → Except BuildFault α) (es : Entries Value) (k : Key)
    (v : Value) : Prop :=
  Reached (fun e => read e.1 e.2) es (k, v)

/-- A mapping is read as the entries that its entries are read as. -/
theorem readEntries_eq_ok_iff {d : Dict α} :
    readEntries read es = .ok d ↔ ∃ ys : Entries α,
      List.Forall₂ (fun e y => y.1 = e.1 ∧ read e.1 e.2 = .ok y.2) es ys ∧
        Dict.ofEntries ys = d := by
  have hentry : ∀ (e : Key × Value) (y : Key × α),
      (do return (e.1, ← read e.1 e.2) : Except BuildFault (Key × α)) = .ok y ↔
        y.1 = e.1 ∧ read e.1 e.2 = .ok y.2 := by
    intro e y
    rw [bind_pure_eq_ok_iff]
    constructor
    · rintro ⟨a, ha, rfl⟩
      exact ⟨rfl, ha⟩
    · rintro ⟨hkey, hvalue⟩
      exact ⟨y.2, hvalue, by rw [← hkey]⟩
  rw [readEntries, bind_pure_eq_ok_iff]
  simp only [mapM_eq_ok_iff, hentry]

/-- A mapping is at fault as the first of its entries that is. -/
theorem readEntries_eq_error_iff :
    readEntries read es = .error f ↔ ∃ k v, EntryReached read es k v ∧ read k v = .error f := by
  rw [readEntries, bind_pure_eq_error_iff, mapM_eq_error_iff]
  constructor
  · rintro ⟨⟨k, v⟩, hreached, hfault⟩
    refine ⟨k, v, hreached.imp fun e he => ?_, bind_pure_eq_error_iff.1 hfault⟩
    obtain ⟨y, hy⟩ := he
    obtain ⟨a, ha, -⟩ := bind_pure_eq_ok_iff.1 hy
    exact ⟨a, ha⟩
  · rintro ⟨k, v, hreached, hfault⟩
    refine ⟨(k, v), hreached.imp fun e he => ?_, bind_pure_eq_error_iff.2 hfault⟩
    obtain ⟨y, hy⟩ := he
    exact ⟨(e.1, y), bind_pure_eq_ok_iff.2 ⟨y, hy, rfl⟩⟩

/-! ## Sections -/

/-- The sections of an entity: those of a record, or those of a mapping that has no other key. -/
inductive HasSections : Value → Value → Value → Value → Prop
  | record (relations permissions attributes : Value) :
      HasSections (.entityDef relations permissions attributes) relations permissions attributes
  | mapping {es : Entries Value} (h : ∀ e ∈ es, isSection e.1 = true) :
      HasSections (.map es) (sectionOf es "relations") (sectionOf es "permissions")
        (sectionOf es "attributes")

/-- Every section of an entity is a mapping, and these are their entries. -/
def HasEntries (decl : Value) (relations permissions attributes : Entries Value) : Prop :=
  HasSections decl (.map relations) (.map permissions) (.map attributes)

/-- The sections of an entity are found, or the entity is malformed. -/
theorem sections_cases (name : Key) (decl : Value) :
    (∃ r p a, HasSections decl r p a ∧
      sections name decl = .ok [("relations", r), ("permissions", p), ("attributes", a)]) ∨
    (∃ m, sections name decl = .error (.malformed m) ∧ ∀ r p a, ¬ HasSections decl r p a) := by
  cases decl with
  | entityDef r p a => exact Or.inl ⟨r, p, a, .record r p a, rfl⟩
  | map es =>
      cases hunknown : es.find? (fun e => !isSection e.1) with
      | some e =>
          refine Or.inr ⟨_, by rw [sections, hunknown]; rfl, ?_⟩
          rintro r p a ⟨⟩
          rename_i hsections
          have hknown := hsections e (List.mem_of_find?_eq_some hunknown)
          have hnot := List.find?_some hunknown
          simp [hknown] at hnot
      | none =>
          refine Or.inl ⟨_, _, _, .mapping fun e he => ?_, by rw [sections, hunknown]; rfl⟩
          simpa using List.find?_eq_none.1 hunknown e he
  | _ =>
      refine Or.inr ⟨_, rfl, ?_⟩
      rintro r p a ⟨⟩

theorem sectionEntries_cases (name : Key) (s : String × Value) :
    (∃ es, s.2 = .map es ∧ sectionEntries name s = .ok es) ∨
      ∃ m, sectionEntries name s = .error (.malformed m) ∧ ∀ es, s.2 ≠ .map es := by
  rcases s with ⟨title, v⟩
  cases v with
  | map es => exact Or.inl ⟨es, rfl, rfl⟩
  | _ => exact Or.inr ⟨_, rfl, nofun⟩

theorem hasSections_unique {r p a r' p' a' : Value} (h : HasSections decl r p a)
    (h' : HasSections decl r' p' a') : r = r' ∧ p = p' ∧ a = a' := by
  cases h with
  | record _ _ _ =>
      cases h'
      exact ⟨rfl, rfl, rfl⟩
  | mapping _ =>
      cases h'
      exact ⟨rfl, rfl, rfl⟩

theorem HasEntries.unique {r p a r' p' a' : Entries Value} (h : HasEntries decl r p a)
    (h' : HasEntries decl r' p' a') : r = r' ∧ p = p' ∧ a = a' := by
  obtain ⟨hr, hp, ha⟩ := hasSections_unique h h'
  exact ⟨Value.map.inj hr, Value.map.inj hp, Value.map.inj ha⟩

/-! ## Entities -/

/-- Reads the members of an entity out of the entries of its sections. -/
def readMembers (name : Key) (relations permissions attributes : Entries Value) :
    Except BuildFault Entity := do
  return {
    name := name
    relations := ← readEntries (readRelation name) relations
    permissions := ← readEntries (readPermission name) permissions
    attributes := ← readEntries (readAttribute name) attributes }

/-- An entity is read as its members are, if its sections can be found, and is malformed
otherwise. -/
theorem readEntity_cases (name : Key) (decl : Value) :
    (∃ r p a, HasEntries decl r p a ∧ readEntity name decl = readMembers name r p a) ∨
      ∃ m, readEntity name decl = .error (.malformed m) ∧ ∀ r p a, ¬ HasEntries decl r p a := by
  rcases sections_cases name decl with ⟨rv, pv, av, hsections, hok⟩ | ⟨m, herror, hnot⟩
  · have hread : readEntity name decl =
        ([("relations", rv), ("permissions", pv), ("attributes", av)].mapM (sectionEntries name) >>=
          fun parts => readMembers name (parts.getD 0 []) (parts.getD 1 []) (parts.getD 2 [])) := by
      rw [readEntity, hok]
      rfl
    -- The sections are looked at in this order, so the first that is no mapping is at fault.
    rcases sectionEntries_cases name ("relations", rv) with ⟨r, rfl, hr⟩ | ⟨m, hr, hnot⟩
    · rcases sectionEntries_cases name ("permissions", pv) with ⟨p, rfl, hp⟩ | ⟨m, hp, hnot⟩
      · rcases sectionEntries_cases name ("attributes", av) with ⟨a, rfl, ha⟩ | ⟨m, ha, hnot⟩
        · refine Or.inl ⟨r, p, a, hsections, ?_⟩
          rw [hread, List.mapM_cons, hr, List.mapM_cons, hp, List.mapM_cons, ha]
          rfl
        · refine Or.inr ⟨m, ?_, fun r' p' a' h => hnot a' (hasSections_unique hsections h).2.2⟩
          rw [hread, List.mapM_cons, hr, List.mapM_cons, hp, List.mapM_cons, ha]
          rfl
      · refine Or.inr ⟨m, ?_, fun r' p' a' h => hnot p' (hasSections_unique hsections h).2.1⟩
        rw [hread, List.mapM_cons, hr, List.mapM_cons, hp]
        rfl
    · refine Or.inr ⟨m, ?_, fun r' p' a' h => hnot r' (hasSections_unique hsections h).1⟩
      rw [hread, List.mapM_cons, hr]
      rfl
  · exact Or.inr ⟨m, by rw [readEntity, herror]; rfl, fun r p a h => hnot _ _ _ h⟩

/-- The members of an entity are read relations first, then permissions, then attributes. -/
theorem readMembers_eq_ok_iff {r p a : Entries Value} {e : Entity} :
    readMembers name r p a = .ok e ↔ e.name = name ∧
      readEntries (readRelation name) r = .ok e.relations ∧
      readEntries (readPermission name) p = .ok e.permissions ∧
      readEntries (readAttribute name) a = .ok e.attributes := by
  constructor
  · intro h
    obtain ⟨relations, hr, h⟩ := exists_of_bind_eq_ok h
    obtain ⟨permissions, hp, h⟩ := exists_of_bind_eq_ok h
    obtain ⟨attributes, ha, h⟩ := exists_of_bind_eq_ok h
    cases h
    exact ⟨rfl, hr, hp, ha⟩
  · rintro ⟨rfl, hr, hp, ha⟩
    rw [readMembers, hr, hp, ha]
    rfl

/-- An entity that is read has sections, and its members are those of the sections. -/
theorem readEntity_eq_ok_iff {e : Entity} : readEntity name decl = .ok e ↔
    ∃ r p a, HasEntries decl r p a ∧ readMembers name r p a = .ok e := by
  rcases readEntity_cases name decl with ⟨r, p, a, hentries, hread⟩ | ⟨m, hread, hnot⟩
  · rw [hread]
    constructor
    · intro h
      exact ⟨r, p, a, hentries, h⟩
    · rintro ⟨r', p', a', hentries', h⟩
      obtain ⟨rfl, rfl, rfl⟩ := hentries.unique hentries'
      exact h
  · rw [hread]
    constructor
    · intro h
      cases h
    · rintro ⟨r, p, a, hentries, -⟩
      exact absurd hentries (hnot r p a)

/-! ## Faults that are not malformed parts -/

/-- The declaration of a relation gives this value as its targets, inside a record or under the key
of targets. -/
inductive GivesTargets : Value → Value → Prop
  | record (w : Value) : GivesTargets (.relationDef w) w
  | mapping {es : Entries Value} {w : Value} (h : Entries.get? es (.text "targets") = some w) :
      GivesTargets (.map es) w

/-- Items that are asked for in vain are those of a value that is given as targets. -/
theorem targetValues_cases (entity rel : Key) (decl : Value) :
    (∃ m, targetValues entity rel decl = .error (.malformed m) ∧ ∀ w, ¬ GivesTargets decl w) ∨
      ∃ v, targetValues entity rel decl = .ok v ∧
        ∀ cause, v.items = .error cause ↔ ∃ w, GivesTargets decl w ∧ w.items = .error cause := by
  cases decl with
  | relationDef w =>
      refine Or.inr ⟨w, rfl, fun cause => ⟨fun h => ⟨w, .record w, h⟩, ?_⟩⟩
      rintro ⟨_, ⟨⟩, h⟩
      exact h
  | map es =>
      cases hget : Entries.get? es (.text "targets") with
      | none =>
          refine Or.inr ⟨.tuple [], by rw [targetValues, hget]; rfl, fun cause => ⟨nofun, ?_⟩⟩
          rintro ⟨w, hgives, -⟩
          cases hgives with
          | mapping h =>
              rw [hget] at h
              cases h
      | some w =>
          have hgiven : ∀ w', GivesTargets (.map es) w' → w' = w := by
            intro w' hgives
            cases hgives with
            | mapping h =>
                rw [hget] at h
                cases h
                rfl
          cases w with
          | text s =>
              refine Or.inr ⟨.tuple [.text s], by rw [targetValues, hget]; rfl, fun cause => ?_⟩
              refine ⟨nofun, ?_⟩
              rintro ⟨w, hgives, h⟩
              rw [hgiven w hgives] at h
              cases h
          | _ =>
              refine Or.inr ⟨_, by rw [targetValues, hget]; rfl, fun cause => ?_⟩
              refine ⟨fun h => ⟨_, .mapping hget, h⟩, ?_⟩
              rintro ⟨w, hgives, h⟩
              rw [hgiven w hgives] at h
              exact h
  | text s =>
      refine Or.inr ⟨_, rfl, fun cause => ⟨nofun, ?_⟩⟩
      rintro ⟨_, ⟨⟩, -⟩
  | list xs =>
      refine Or.inr ⟨_, rfl, fun cause => ⟨nofun, ?_⟩⟩
      rintro ⟨_, ⟨⟩, -⟩
  | tuple xs =>
      refine Or.inr ⟨_, rfl, fun cause => ⟨nofun, ?_⟩⟩
      rintro ⟨_, ⟨⟩, -⟩
  | bytes b =>
      refine Or.inr ⟨_, rfl, fun cause => ⟨nofun, ?_⟩⟩
      rintro ⟨_, ⟨⟩, -⟩
  | _ =>
      refine Or.inl ⟨_, rfl, ?_⟩
      rintro w ⟨⟩

/-- If a relation gives values as targets, their items cannot be listed, or they are names, at least
one, or the relation is malformed. -/
theorem targets_of_values {entity rel : Key} {v : Value}
    (h : targetValues entity rel decl = .ok v) :
    (∃ cause, v.items = .error cause ∧ targets entity rel decl = .error (.access cause)) ∨
      ∃ items, v.items = .ok items ∧
        ((∃ ts, items.mapM entityName? = some ts ∧ ts ≠ [] ∧ targets entity rel decl = .ok ts) ∨
          targets entity rel decl = .error (.malformed (.noTargets entity rel))) := by
  cases hitems : v.items with
  | error cause =>
      refine Or.inl ⟨cause, rfl, ?_⟩
      rw [targets, h]
      dsimp only [bind, Except.bind]
      rw [hitems]
      rfl
  | ok items =>
      refine Or.inr ⟨items, rfl, ?_⟩
      rw [targets, h]
      dsimp only [bind, Except.bind]
      rw [hitems]
      dsimp only
      rcases items.mapM entityName? with _ | _ | ⟨t, ts⟩
      · exact Or.inr rfl
      · exact Or.inr rfl
      · exact Or.inl ⟨_, rfl, List.cons_ne_nil t ts, rfl⟩

/-- A relation is at fault other than as malformed exactly if it gives a value without items as its
targets. -/
theorem readRelation_access_iff {entity rel : Key} :
    readRelation entity rel decl = .error (BuildFault.access cause) ↔
      ∃ w, GivesTargets decl w ∧ w.items = .error cause := by
  rw [readRelation, bind_pure_eq_error_iff]
  rcases targetValues_cases entity rel decl with ⟨m, hm, hnot⟩ | ⟨v, hv, hiff⟩
  · have htargets : targets entity rel decl = .error (.malformed m) := by
      rw [targets, hm]
      rfl
    rw [htargets]
    constructor
    · intro h
      cases h
    · rintro ⟨w, hgives, -⟩
      exact absurd hgives (hnot w)
  · rw [← hiff]
    rcases targets_of_values hv with
      ⟨g, hitems, htargets⟩ | ⟨items, hitems, ⟨ts, -, -, htargets⟩ | htargets⟩
    · rw [htargets, hitems]
      simp
    · rw [htargets, hitems]
      simp
    · rw [htargets, hitems]
      simp

/-- A permission is read as its expression, a text that is not blank, or it is malformed. -/
theorem readPermission_cases (entity perm : Key) (decl : Value) :
    (∃ s, Text.allBlank s.toList = false ∧
      readPermission entity perm decl = .ok { name := perm, expression := s }) ∨
      readPermission entity perm decl = .error (.malformed (.noExpression entity perm)) := by
  dsimp only [readPermission]
  split
  · split
    · exact Or.inr rfl
    · rename_i s hblank
      exact Or.inl ⟨_, Bool.eq_false_iff.2 hblank, rfl⟩
  · exact Or.inr rfl

/-- An attribute is read as one of the types of attributes, or it is malformed. -/
theorem readAttribute_cases (entity attr : Key) (decl : Value) :
    (∃ t : AttributeType, readAttribute entity attr decl = .ok { name := attr, type := t.text }) ∨
      ∃ type, readAttribute entity attr decl =
        .error (.malformed (.invalidType entity attr type)) := by
  dsimp only [readAttribute]
  split
  · exact Or.inl ⟨_, rfl⟩
  · exact Or.inr ⟨_, rfl⟩

/-- The relation of an entity that gives a value without items as its targets, and is reached. -/
def UnlistedIn (name : Key) (decl : Value) (cause : AccessFault) : Prop :=
  ∃ r p a, HasEntries decl r p a ∧ ∃ rel d w,
    EntryReached (readRelation name) r rel d ∧ GivesTargets d w ∧ w.items = .error cause

theorem readMembers_access_iff {r p a : Entries Value} :
    readMembers name r p a = .error (.access cause) ↔
      ∃ rel d w, EntryReached (readRelation name) r rel d ∧ GivesTargets d w ∧
        w.items = .error cause := by
  have hrelations : readEntries (readRelation name) r = .error (.access cause) ↔
      ∃ rel d w, EntryReached (readRelation name) r rel d ∧ GivesTargets d w ∧
        w.items = .error cause := by
    rw [readEntries_eq_error_iff]
    simp only [readRelation_access_iff, exists_and_left]
  rw [← hrelations]
  constructor
  · intro h
    rcases error_or_ok_of_bind_eq_error h with h | ⟨relations, -, h⟩
    · exact h
    -- Permissions and attributes are malformed whenever they are at fault.
    · rcases error_or_ok_of_bind_eq_error h with h | ⟨permissions, -, h⟩
      · obtain ⟨k, v, -, hfault⟩ := readEntries_eq_error_iff.1 h
        rcases readPermission_cases name k v with ⟨s, -, hok⟩ | hmalformed
        · rw [hok] at hfault
          cases hfault
        · rw [hmalformed] at hfault
          cases hfault
      · obtain ⟨k, v, -, hfault⟩ := readEntries_eq_error_iff.1 (bind_pure_eq_error_iff.1 h)
        rcases readAttribute_cases name k v with ⟨t, hok⟩ | ⟨type, hmalformed⟩
        · rw [hok] at hfault
          cases hfault
        · rw [hmalformed] at hfault
          cases hfault
  · intro h
    rw [readMembers, h]
    rfl

theorem readEntity_access_iff :
    readEntity name decl = .error (.access cause) ↔ UnlistedIn name decl cause := by
  rcases readEntity_cases name decl with ⟨r, p, a, hentries, hread⟩ | ⟨m, hread, hnot⟩
  · rw [hread, readMembers_access_iff]
    constructor
    · intro h
      exact ⟨r, p, a, hentries, h⟩
    · rintro ⟨r', p', a', hentries', h⟩
      obtain ⟨rfl, -, -⟩ := hentries.unique hentries'
      exact h
  · rw [hread]
    constructor
    · intro h
      cases h
    · rintro ⟨r, p, a, hentries, -⟩
      exact absurd hentries (hnot r p a)

/-- Among the declarations of a schema, an entity is reached that has a relation whose targets have
no items. -/
def Unlisted (declarations : Value) (cause : AccessFault) : Prop :=
  ∃ es, declarations = .map es ∧ ∃ name decl,
    EntryReached readEntity es name decl ∧ UnlistedIn name decl cause

/-- A value without items fails as such. -/
theorem eq_noItems_of_items {v : Value} (h : v.items = .error cause) :
    cause = .noItems v.kind := by
  cases v with
  | text s => cases h
  | bytes b => cases h
  | list xs => cases h
  | tuple xs => cases h
  | set xs => cases h
  | map es => cases h
  | _ =>
      cases h
      rfl

/-- A relation without items as its targets is a fault of types. -/
theorem kind_of_unlisted {declarations : Value} (h : Unlisted declarations cause) :
    (Failure.access cause).kind = "TypeError" := by
  obtain ⟨es, -, name, decl, -, r, p, a, -, rel, d, w, -, -, hitems⟩ := h
  rw [eq_noItems_of_items hitems]
  rfl

end Declaration

namespace Schema

open Declaration

variable {es : Entries Value} {cause : AccessFault}

theorem build_eq_ok_iff {s : Schema} :
    build es = .ok s ↔ readEntries readEntity es = .ok s.entities := by
  rw [build, bind_pure_eq_ok_iff]
  constructor
  · rintro ⟨entities, hentities, rfl⟩
    exact hentities
  · intro h
    exact ⟨s.entities, h, rfl⟩

theorem build_access_iff :
    build es = .error (.access cause) ↔
      ∃ name decl, EntryReached readEntity es name decl ∧ UnlistedIn name decl cause := by
  rw [build, bind_pure_eq_error_iff, readEntries_eq_error_iff]
  simp only [readEntity_access_iff]

end Schema

end Rebac
