import Rebac.Proofs.DeclaredSchemas

set_option autoImplicit false

/-!
# Schemas that are built

What building guarantees for the schema it yields (`Schema.isBuilt_of_build`): every node bears a
name that its key keeps, so the two are one text if the name is a text. Every relation has a target,
and every attribute is of a known type.
-/

namespace Rebac

/-- Every entry of a mapping is kept under the name of its value, and the value is sound. -/
def Dict.IsNamed {α : Type} (name : α → Key) (sound : α → Prop) (d : Dict α) : Prop :=
  ∀ x ∈ d.entries, x.1.Keeps (name x.2) ∧ sound x.2

theorem Dict.IsNamed.sound {α : Type} {name : α → Key} {sound : α → Prop} {d : Dict α}
    (h : d.IsNamed name sound) : ∀ x ∈ d.values, sound x := by
  intro x hx
  obtain ⟨e, he, rfl⟩ := List.mem_map.1 hx
  exact (h e he).2

/-- What building guarantees for an entity. -/
structure Entity.IsBuilt (e : Entity) : Prop where
  relations : e.relations.IsNamed Relation.name fun r => r.targets ≠ []
  permissions : e.permissions.IsNamed Permission.name fun _ => True
  attributes : e.attributes.IsNamed Attribute.name fun a => ∃ t : AttributeType, a.type = t.text

/-- What building guarantees for a schema. -/
def Schema.IsBuilt (s : Schema) : Prop := s.entities.IsNamed Entity.name Entity.IsBuilt

namespace Declaration

variable {name rel : Key} {decl : Value} {es : Entries Value}

/-- If every value that is read bears the name it is read for and is sound, so do the entries of the
mapping that is read. -/
theorem isNamed_of_readEntries {α : Type} {read : Key → Value → Except BuildFault α}
    {title : α → Key} {sound : α → Prop} {d : Dict α}
    (hread : ∀ k v x, read k v = .ok x → title x = k ∧ sound x)
    (h : readEntries read es = .ok d) : d.IsNamed title sound := by
  obtain ⟨ys, hys, rfl⟩ := readEntries_eq_ok_iff.1 h
  intro x hx
  -- An entry may be kept under the spelling of an earlier key, but its value bears its own.
  obtain ⟨y, hy, hvalue, hkept⟩ := Entries.mem_dedupe hx
  obtain ⟨e, -, hkey, hok⟩ := exists_of_mem_right hys hy
  obtain ⟨hname, hsound⟩ := hread e.1 e.2 y.2 hok
  rw [hvalue, hname, ← hkey]
  exact ⟨hkept, hsound⟩

/-- A relation that is read bears the name it is read for and has a target. -/
theorem readRelation_sound {r : Relation} (h : readRelation name rel decl = .ok r) :
    r.name = rel ∧ r.targets ≠ [] := by
  have hdeclared := readRelation_eq_ok_iff.1 h
  exact ⟨hdeclared.name, hdeclared.nonempty⟩

/-- An attribute that is read bears the name it is read for and is of a known type. -/
theorem readAttribute_sound {attr : Key} {a : Attribute}
    (h : readAttribute name attr decl = .ok a) :
    a.name = attr ∧ ∃ t : AttributeType, a.type = t.text := by
  obtain ⟨hname, t, -, htype⟩ := readAttribute_eq_ok_iff.1 h
  exact ⟨hname, t, htype⟩

/-- An entity that is read bears the name it is read for, and so do its members. -/
theorem readEntity_sound {e : Entity} (h : readEntity name decl = .ok e) :
    e.name = name ∧ e.IsBuilt := by
  obtain ⟨r, p, a, -, hmembers⟩ := readEntity_eq_ok_iff.1 h
  obtain ⟨hname, hr, hp, ha⟩ := readMembers_eq_ok_iff.1 hmembers
  exact ⟨hname, {
    relations := isNamed_of_readEntries (fun _ _ _ hok => readRelation_sound hok) hr
    permissions :=
      isNamed_of_readEntries (fun _ _ _ hok => ⟨(readPermission_eq_ok_iff.1 hok).name, trivial⟩) hp
    attributes := isNamed_of_readEntries (fun _ _ _ hok => readAttribute_sound hok) ha }⟩

end Declaration

/-- **What building guarantees.** Names and keys agree in every schema that is built, every relation
has a target, and every attribute is of a known type. -/
theorem Schema.isBuilt_of_build {es : Entries Value} {s : Schema} (h : Schema.build es = .ok s) :
    s.IsBuilt :=
  Declaration.isNamed_of_readEntries (fun _ _ _ hok => Declaration.readEntity_sound hok)
    (Schema.build_eq_ok_iff.1 h)

end Rebac
