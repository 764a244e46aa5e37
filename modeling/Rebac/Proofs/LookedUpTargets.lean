import Rebac.Proofs.Mappings
import Rebac.Proofs.References

set_option autoImplicit false

/-!
# The look-ups of dotted identifiers

An identifier with a dot makes validation look up every target of a relation. The targets of the
relations of an entity are checked before its permissions are, so a target that is looked up is an
entity, also if the schema has other keys than the names of its entities. To say which targets are
looked up, validation is run with notes: noting changes nothing, and only entities are noted
(`lookups_find_entities`). A permission that is checked alone may look up a target that is missing.
-/

namespace Rebac

/-! ## Validation with notes -/

/-- A check that notes the targets it looks up. The notes are kept if it fails. -/
abbrev NotingCheck := ExceptT Dangling (StateM (List String))

namespace Schema

variable (s : Schema) (e : Entity) (p : Permission)

/-- Looks up a target, which is noted, and checks that it has a member. -/
def noteForeign (member target : String) : NotingCheck Unit := do
  modify (· ++ [target])
  s.checkForeign e p member target

/-- Checks one identifier of a permission, and notes the targets that it looks up. -/
def noteIdentifier (identifier : String) : NotingCheck Unit :=
  match Expression.parts identifier with
  | [relation, member] =>
      match e.relations.get? (.text relation) with
      | none => throw (.relation e.name p.name relation)
      | some r => r.targets.forM (s.noteForeign e p member)
  -- Without a dot, or with several, an identifier does not refer to another entity.
  | _ => liftM (s.checkIdentifier e p identifier)

/-- Checks the expression of a permission, with notes. -/
def notePermission : NotingCheck Unit :=
  (Expression.identifiers p.expression).forM (s.noteIdentifier e p)

/-- Checks the references of an entity, with notes: relations first, then permissions. -/
def noteEntity : NotingCheck Unit := do
  liftM (e.relations.values.forM (s.checkTargets e))
  e.permissions.values.forM (s.notePermission e)

/-- Checks every reference of a schema, with notes. -/
def validateNoting : NotingCheck Unit := s.entities.values.forM s.noteEntity

/-- Every one of these targets is an entity. -/
def AllEntities (targets : List String) : Prop :=
  ∀ t ∈ targets, s.entities.contains (.text t) = true

end Schema

open Schema

/-- A noting check that comes after notes of entities ends as a plain check ends, and notes entities
only. If it fails because a target lacks a member, the target is noted. -/
def NotesEntities (s : Schema) (x : NotingCheck Unit) (r : Except Dangling Unit) : Prop :=
  ∀ notes, s.AllEntities notes → ∃ notes', x.run.run notes = (r, notes') ∧
    s.AllEntities notes' ∧ ∀ e p t m, r = .error (.foreign e p t m) → t ∈ notes'

namespace NotesEntities

variable {s : Schema} {x y : NotingCheck Unit} {r r' : Except Dangling Unit}

/-- A check that looks no target up. -/
theorem lift (h : ∀ e p t m, r ≠ .error (.foreign e p t m)) : NotesEntities s (liftM r) r :=
  fun notes hnotes => ⟨notes, rfl, hnotes, fun e p t m hr => absurd hr (h e p t m)⟩

/-- What comes after a check may count on the check having passed. -/
theorem bind (h : NotesEntities s x r) (h' : r = .ok () → NotesEntities s y r') :
    NotesEntities s (x >>= fun _ => y) (r >>= fun _ => r') := by
  intro notes hnotes
  obtain ⟨between, hrun, hbetween, hforeign⟩ := h notes hnotes
  cases r with
  | error d =>
      refine ⟨between, ?_, hbetween, hforeign⟩
      rw [ExceptT.run_bind, StateT.run_bind, hrun]
      rfl
  | ok u =>
      obtain ⟨notes', hrun', hnotes'⟩ := h' rfl between hbetween
      refine ⟨notes', ?_, hnotes'⟩
      rw [ExceptT.run_bind, StateT.run_bind, hrun]
      exact hrun'

theorem forM {α : Type} {noting : α → NotingCheck Unit} {check : α → Except Dangling Unit}
    {as : List α} (h : ∀ a ∈ as, NotesEntities s (noting a) (check a)) :
    NotesEntities s (as.forM noting) (as.forM check) := by
  induction as with
  | nil => exact lift nofun
  | cons a as ih =>
      obtain ⟨ha, has⟩ := List.forall_mem_cons.1 h
      exact ha.bind fun _ => ih has

end NotesEntities

/-! ## What is noted -/

namespace Schema

variable {s : Schema} {e : Entity}

/-- Every target of the relations of an entity is an entity. -/
def HasTargets (s : Schema) (e : Entity) : Prop := ∀ r ∈ e.relations.values, s.AllEntities r.targets

/-- The relations of an entity are checked without looking for a member of their targets. If they
pass, all their targets are entities. -/
theorem notesEntities_relations (s : Schema) (e : Entity) :
    NotesEntities s (liftM (e.relations.values.forM (s.checkTargets e)))
      (e.relations.values.forM (s.checkTargets e)) ∧
    (e.relations.values.forM (s.checkTargets e) = .ok () → s.HasTargets e) := by
  have hchecks := Checks.forM (s.checks_targets e) e.relations.values
  refine ⟨.lift fun e' p t m h => ?_, fun hok r hr t ht => ?_⟩
  · obtain ⟨o, ho, -, hd⟩ := hchecks.exists_unmet h
    obtain ⟨r, -, ho⟩ := List.mem_flatMap.1 ho
    obtain ⟨t', -, rfl⟩ := List.mem_map.1 ho
    cases hd
  · exact hchecks.eq_ok_iff.1 hok (.target e r t)
      (List.mem_flatMap.2 ⟨r, hr, List.mem_map_of_mem ht⟩)

theorem notesEntities_foreign (e : Entity) (p : Permission) (memberName : String) {t : String}
    (ht : s.entities.contains (.text t) = true) :
    NotesEntities s (s.noteForeign e p memberName t) (s.checkForeign e p memberName t) := by
  intro notes hnotes
  refine ⟨notes ++ [t], rfl, ?_, fun e' p' t' m h => ?_⟩
  · exact List.forall_mem_append.2 ⟨hnotes, List.forall_mem_singleton.2 ht⟩
  · obtain ⟨o, ho, -, hd⟩ := (s.checks_foreign e p memberName t).exists_unmet h
    rw [List.mem_singleton.1 ho] at hd
    cases hd
    exact List.mem_append_right _ (List.mem_singleton_self t)

/-- With the targets of its relations in order, an entity has its identifiers checked by looking up
entities only. -/
theorem HasTargets.notesEntities_identifier (h : s.HasTargets e) (p : Permission) (i : String) :
    NotesEntities s (s.noteIdentifier e p i) (s.checkIdentifier e p i) := by
  unfold noteIdentifier
  split
  · next relationName memberName hparts =>
    rw [checkIdentifier, hparts]
    dsimp only
    cases hr : e.relations.get? (.text relationName) with
    | none => exact .lift (r := .error (.relation e.name p.name relationName)) nofun
    | some r =>
        -- The relation is found under its key, and its targets were checked as those of a value.
        have hmem : r ∈ e.relations.values := List.mem_map_of_mem (Dict.get?_text_eq_some_iff.1 hr)
        exact .forM fun t ht => notesEntities_foreign e p memberName (h r hmem t ht)
  · next hparts =>
    refine .lift fun e' p' t m hforeign => ?_
    unfold checkIdentifier at hforeign
    split at hforeign
    · next hparts' => exact hparts _ _ hparts'
    · cases hforeign
    · split at hforeign
      · cases hforeign
      · cases hforeign

theorem HasTargets.notesEntities_permission (h : s.HasTargets e) (p : Permission) :
    NotesEntities s (s.notePermission e p) (s.checkPermission e p) :=
  .forM fun i _ => h.notesEntities_identifier p i

/-- **An entity has its relations checked first**, so its permissions look up entities only. -/
theorem notesEntities_entity (s : Schema) (e : Entity) :
    NotesEntities s (s.noteEntity e) (s.checkEntity e) := by
  obtain ⟨hrelations, htargets⟩ := s.notesEntities_relations e
  exact hrelations.bind fun hok => .forM fun p _ => (htargets hok).notesEntities_permission p

theorem notesEntities_validate (s : Schema) : NotesEntities s s.validateNoting s.validate :=
  .forM fun e _ => s.notesEntities_entity e

/-- A member that is found missing is missing from its target, if that is an entity. -/
theorem not_hasMember_of_validate {e p : Key} {t m : String} {f : Entity}
    (h : s.validate = .error (.foreign e p t m)) (hf : s.entity? (.text t) = some f) :
    f.hasMember (.text m) = false := by
  obtain ⟨o, -, hunmet, hd⟩ := s.checks_validate.exists_unmet h
  refine Bool.eq_false_iff.2 fun hmember => ?_
  cases o with
  | foreign e' p' t' m' =>
      cases hd
      exact hunmet ⟨f, hf, by simpa [Entity.hasMember] using hmember⟩
  | _ => cases hd

/-! ## Permissions by themselves -/

section Parts

variable {p : Permission} {i relationName memberName : String} {r : Relation}

theorem checkIdentifier_of_parts (hparts : Expression.parts i = [relationName, memberName])
    (hr : e.relations.get? (.text relationName) = some r) :
    s.checkIdentifier e p i = r.targets.forM (s.checkForeign e p memberName) := by
  rw [checkIdentifier, hparts]
  dsimp only
  rw [hr]

theorem noteIdentifier_of_parts (hparts : Expression.parts i = [relationName, memberName])
    (hr : e.relations.get? (.text relationName) = some r) :
    s.noteIdentifier e p i = r.targets.forM (s.noteForeign e p memberName) := by
  rw [noteIdentifier, hparts]
  dsimp only
  rw [hr]

variable {t : String} {is ts : List String}
  (hidentifiers : Expression.identifiers p.expression = i :: is)
  (hparts : Expression.parts i = [relationName, memberName])
  (hr : e.relations.get? (.text relationName) = some r) (hts : r.targets = t :: ts)

include hidentifiers hparts hr hts

/-- What a permission looks up first decides over it if it fails. -/
theorem checkPermission_of_foreign {d : Dangling}
    (h : s.checkForeign e p memberName t = .error d) : s.checkPermission e p = .error d := by
  rw [checkPermission, hidentifiers, List.forM_eq_forM, List.forM_cons,
    checkIdentifier_of_parts hparts hr, hts, List.forM_eq_forM, List.forM_cons, h]
  rfl

/-- What a permission looks up first is looked up without a check that it is an entity. -/
theorem permission_of_missing (ht : s.entity? (.text t) = none) :
    s.checkPermission e p = .error (.foreign e.name p.name t memberName) ∧
    (s.notePermission e p).run.run [] = (s.checkPermission e p, [t]) := by
  have hforeign : s.checkForeign e p memberName t =
      .error (.foreign e.name p.name t memberName) := by
    rw [checkForeign, ht]
    rfl
  have hfails := checkPermission_of_foreign hidentifiers hparts hr hts hforeign
  refine ⟨hfails, ?_⟩
  rw [hfails, notePermission, hidentifiers, List.forM_eq_forM, List.forM_cons,
    noteIdentifier_of_parts hparts hr, hts, List.forM_eq_forM, List.forM_cons, noteForeign,
    hforeign]
  rfl

end Parts

/-- The permission to view what is owned by something that has a name. -/
def viewIfNamed : Permission := { name := .text "view", expression := "owner.name" }

theorem identifiers_viewIfNamed :
    Expression.identifiers viewIfNamed.expression = ["owner.name"] := by
  decide

theorem parts_ownerName : Expression.parts "owner.name" = ["owner", "name"] := by decide

/-- A document that is owned by entities of this type. -/
def documentOwnedBy (target : String) : Entity where
  name := .text "document"
  relations := .ofEntries [(.text "owner", { name := .text "owner", targets := [target] })]
  permissions := .ofEntries [(.text "view", viewIfNamed)]

/-- **Validation looks up entities only.** Run with notes, it ends as it does without, and every
target that it looks up is an entity; so a member that is reported missing is missing from an
entity. A permission that is checked by itself may look up a target that is no entity. -/
theorem lookups_find_entities :
    (∀ s : Schema, ∃ notes, s.validateNoting.run.run [] = (s.validate, notes) ∧
      ∀ t ∈ notes, ∃ f, s.entity? (.text t) = some f) ∧
    (∀ (s : Schema) e p t m, s.validate = .error (.foreign e p t m) →
      (∃ text, (Dangling.foreign e p t m).message = text ++ "\" on entity \"" ++ t ++ "\"") ∧
      ∃ f, s.entity? (.text t) = some f ∧ f.hasMember (.text m) = false) ∧
    ∃ (s : Schema) (e : Entity) (p : Permission) (t m : String), e ∈ s.entities.values ∧
      p ∈ e.permissions.values ∧ s.entity? (.text t) = none ∧
      s.checkPermission e p = .error (.foreign e.name p.name t m) ∧
      (s.notePermission e p).run.run [] = (s.checkPermission e p, [t]) := by
  have hfound : ∀ (s : Schema) (t : String), s.entities.contains (.text t) = true →
      ∃ f, s.entity? (.text t) = some f := fun s t h => Option.isSome_iff_exists.1 h
  refine ⟨fun s => ?_, fun s e p t m h => ⟨⟨_, rfl⟩, ?_⟩, ?_⟩
  · obtain ⟨notes, hrun, hnotes, -⟩ := s.notesEntities_validate [] nofun
    exact ⟨notes, hrun, fun t ht => hfound s t (hnotes t ht)⟩
  · obtain ⟨notes, -, hnotes, hforeign⟩ := s.notesEntities_validate [] nofun
    obtain ⟨f, hf⟩ := hfound s t (hnotes t (hforeign e p t m h))
    exact ⟨f, hf, not_hasMember_of_validate h hf⟩
  · have hghost : (⟨.ofEntries [(.text "document", documentOwnedBy "ghost")]⟩ : Schema).entity?
        (.text "ghost") = none := by decide
    exact ⟨_, documentOwnedBy "ghost", viewIfNamed, "ghost", "name", List.mem_singleton_self _,
      List.mem_singleton_self _, hghost,
      permission_of_missing identifiers_viewIfNamed parts_ownerName rfl rfl hghost⟩

/-- Documents that are owned by users. The entity of users goes by another name than its key. -/
def renamedUsers : Schema where
  entities := .ofEntries
    [(.text "user", { name := .text "person" }), (.text "document", documentOwnedBy "user")]

theorem renamedUsers_dangles :
    renamedUsers.validate = .error (.foreign (.text "document") (.text "view") "user" "name") ∧
      ∃ f, renamedUsers.entity? (.text "user") = some f ∧ f.hasMember (.text "name") = false := by
  have hview : renamedUsers.checkPermission (documentOwnedBy "user") viewIfNamed =
      .error (.foreign (.text "document") (.text "view") "user" "name") :=
    checkPermission_of_foreign identifiers_viewIfNamed parts_ownerName rfl rfl rfl
  have hentities : renamedUsers.entities.values =
      [{ name := .text "person" }, documentOwnedBy "user"] := rfl
  have huser : renamedUsers.checkEntity { name := .text "person" } = .ok () := rfl
  have howner : (documentOwnedBy "user").relations.values.forM
      (renamedUsers.checkTargets (documentOwnedBy "user")) = .ok () := rfl
  have hpermissions : (documentOwnedBy "user").permissions.values = [viewIfNamed] := rfl
  have hdocument : renamedUsers.checkEntity (documentOwnedBy "user") =
      .error (.foreign (.text "document") (.text "view") "user" "name") := by
    rw [checkEntity, howner, hpermissions, List.forM_eq_forM, List.forM_cons, hview]
    rfl
  have hdangles : renamedUsers.validate =
      .error (.foreign (.text "document") (.text "view") "user" "name") := by
    rw [validate, hentities, List.forM_eq_forM, List.forM_cons, List.forM_cons, huser, hdocument]
    rfl
  exact ⟨hdangles, (lookups_find_entities.2.1 _ _ _ _ _ hdangles).2⟩

end Schema

end Rebac
