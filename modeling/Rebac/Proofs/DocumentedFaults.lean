import Rebac.Proofs.FirstFaults
import Rebac.Proofs.References
import Rebac.Proofs.ShownValues

set_option autoImplicit false

/-!
# When a schema is refused as documented

A declaration that is refused is malformed, or a reference in it dangles, and callers are told so
with two exceptions. Targets of a relation are listed before they are looked at, so a value without
items is found out as such (`Declaration.Unlisted`). And what is said about a fault shows names and
values out of the declaration, of which one may have no text (`Schema.Untold`). The names of
permissions are put into words before anything is wrong with them, which is a step of its own among
the references (`Schema.steps`). A schema is defined or refused as documented exactly if neither
happens (`Schema.defineAloud_documented_iff`).
-/

namespace Rebac

namespace Schema

open Declaration

/-! ## References that are told of -/

/-- What is done to tell of the references of a schema. -/
inductive Step
  /-- Looks at what a reference needs. -/
  | obligation (o : Obligation)
  /-- Puts the name of a permission into words. -/
  | name (e : Entity) (p : Permission)

/-- The name of a permission has no text, or that of its entity has none. -/
inductive Nameless (e : Entity) (p : Permission) : TextFault → Prop
  | entity {t : TextFault} (h : e.name.checkShown = .error t) : Nameless e p t
  | permission {t : TextFault} (he : e.name.checkShown = .ok ())
      (h : p.name.checkShown = .error t) : Nameless e p t

/-- What callers are told if the references of a schema end with a step. -/
inductive Stops (s : Schema) : Step → Failure → Prop
  | dangling {o : Obligation} (h : ¬ o.Met s) :
      Stops s (.obligation o) (Failure.dangling o.dangling).told
  | nameless {e : Entity} {p : Permission} {t : TextFault} (h : Nameless e p t) :
      Stops s (.name e p) (.noText t)

/-- The steps for a permission: its name, and then the identifiers of its expression. -/
def permissionSteps (e : Entity) (p : Permission) : List Step :=
  .name e p :: ((Expression.words p.expression).flatMap (Obligation.ofIdentifier e p)).map
    .obligation

/-- The steps for an entity: those of its relations, then those of its permissions. -/
def entitySteps (e : Entity) : List Step :=
  e.relations.values.flatMap (fun r => (r.targets.map (.target e r)).map .obligation) ++
    e.permissions.values.flatMap (permissionSteps e)

/-- The steps for a schema, entity by entity. -/
def steps (s : Schema) : List Step := s.entities.values.flatMap entitySteps

variable {s : Schema} {e : Entity} {p : Permission} {t : TextFault}

/-- Obligations that are checked are steps that end with what callers are told. -/
theorem goesThrough_of_checks {os : List Obligation} {r : Except Dangling Unit}
    (h : Checks s os r) :
    GoesThrough (Stops s) (os.map .obligation)
      (r.mapError fun d => (Failure.dangling d).told) := by
  induction h with
  | done => exact .done ()
  | met ho _ ih =>
      refine .sound ?_ ih
      rintro f ⟨hunmet⟩
      exact hunmet ho
  | unmet ho =>
      refine .fault fun f => ⟨?_, ?_⟩
      · rintro ⟨-⟩
        rfl
      · rintro rfl
        exact .dangling ho

/-- The names of a permission and its entity are put into words one after the other. -/
theorem nameless_iff : (do
    e.name.checkShown
    p.name.checkShown : Except TextFault Unit) = .error t ↔ Nameless e p t := by
  cases he : e.name.checkShown with
  | error t' =>
      constructor
      · rintro ⟨⟩
        exact .entity he
      · intro h
        cases h with
        | entity h =>
            rw [he] at h
            exact h
        | permission hok h =>
            rw [he] at hok
            cases hok
  | ok u =>
      constructor
      · intro h
        exact .permission he h
      · intro h
        cases h with
        | entity h =>
            rw [he] at h
            cases h
        | permission hok h => exact h

theorem goesThrough_tellPermission (s : Schema) (e : Entity) (p : Permission) :
    GoesThrough (Stops s) (permissionSteps e p) (s.tellPermission e p) := by
  have hname : GoesThrough (Stops s) [.name e p] ((do
      e.name.checkShown
      p.name.checkShown : Except TextFault Unit).mapError Failure.noText) := by
    refine .single fun f => ?_
    constructor
    · intro h
      obtain ⟨t, ht, rfl⟩ := exists_of_mapError_eq_error h
      exact .nameless (nameless_iff.1 ht)
    · intro h
      cases h with
      | nameless h =>
          rw [nameless_iff.2 h]
          rfl
  exact hname.bind fun _ _ => goesThrough_of_checks (s.checks_permission e p)

theorem goesThrough_tellEntity (s : Schema) (e : Entity) :
    GoesThrough (Stops s) (entitySteps e) (s.tellEntity e) :=
  (GoesThrough.forM (fun r => goesThrough_of_checks (s.checks_targets e r)) _).bind
    fun _ _ => .forM (s.goesThrough_tellPermission e) _

/-- **References are told of step by step.** -/
theorem goesThrough_tellReferences (s : Schema) :
    GoesThrough (Stops s) s.steps s.tellReferences :=
  .forM s.goesThrough_tellEntity _

/-! ## What is told is what is found -/

/-- A check that tells of references finds what another one finds, unless it has no words for it. -/
def Tells (x : Except Failure Unit) (r : Except Dangling Unit) : Prop :=
  (x = .ok () → r = .ok ()) ∧ ∀ d, x = .error (.dangling d) → r = .error d

namespace Tells

variable {x y : Except Failure Unit} {q r : Except Dangling Unit}

theorem of_check (r : Except Dangling Unit) :
    Tells (r.mapError fun d => (Failure.dangling d).told) r := by
  cases r with
  | ok u => exact ⟨fun _ => rfl, nofun⟩
  | error d =>
      refine ⟨nofun, fun d' h => ?_⟩
      have hd : (Failure.dangling d).told = .dangling d' := Except.error.inj h
      rcases Failure.told_cases (.dangling d) with ⟨-, htold⟩ | ⟨t, -, htold⟩
      · cases htold.symm.trans hd
        rfl
      · cases htold.symm.trans hd

/-- What is put into words beforehand finds nothing. -/
theorem of_words (words : Except TextFault Unit) (h : Tells x r) :
    Tells (words.mapError Failure.noText >>= fun _ => x) r := by
  cases words with
  | ok u => exact h
  | error t => exact ⟨nofun, nofun⟩

theorem bind (hx : Tells x q) (hy : Tells y r) :
    Tells (x >>= fun _ => y) (q >>= fun _ => r) := by
  cases x with
  | ok u =>
      rw [hx.1 rfl]
      exact hy
  | error f =>
      refine ⟨nofun, fun d h => ?_⟩
      rw [hx.2 d h]
      rfl

theorem forM {α : Type} {tell : α → Except Failure Unit} {check : α → Except Dangling Unit}
    (h : ∀ a, Tells (tell a) (check a)) (as : List α) : Tells (as.forM tell) (as.forM check) := by
  induction as with
  | nil => exact ⟨fun _ => rfl, nofun⟩
  | cons a as ih =>
      rw [List.forM, List.forM]
      exact (h a).bind ih

end Tells

theorem tells_entity (s : Schema) (e : Entity) : Tells (s.tellEntity e) (s.checkEntity e) :=
  (Tells.forM (fun r => .of_check (s.checkTargets e r)) _).bind
    (.forM (fun p => .of_words _ (.of_check (s.checkPermission e p))) _)

/-- **What is told of references is what validation finds.** -/
theorem tells_references (s : Schema) : Tells s.tellReferences s.validate :=
  .forM s.tells_entity _

/-! ## Faults that cannot be told -/

/-- What is to be said of a declaration has no text: the first of its items that offends is
malformed and cannot be described, or all of it is declared and the first step that stops at its
references cannot be told. -/
inductive Untold : Value → TextFault → Prop
  | malformed {es : Entries Value} {m : Malformed} {t : TextFault}
      (h : IsFirstFault Offends (items es) (.malformed m)) (ht : m.checkMessage = .error t) :
      Untold (.map es) t
  | reference {es : Entries Value} {s : Schema} {t : TextFault} (hs : build es = .ok s)
      (h : IsFirstFault (Stops s) s.steps (.noText t)) : Untold (.map es) t

/-- A fault of a declaration is documented: it is reported as structural or as one of references. -/
def IsDocumented (f : Failure) : Prop := f.kind = "StructuralError" ∨ f.kind = "ReferenceError"

theorem not_isDocumented_access (cause : AccessFault) : ¬ IsDocumented (.access cause) := by
  cases cause with
  | _ => simp [IsDocumented, Failure.kind, AccessFault.className]

theorem not_isDocumented_noText (t : TextFault) : ¬ IsDocumented (.noText t) := by
  cases t with
  | noPart cause =>
      cases cause with
      | _ => simp [IsDocumented, Failure.kind, TextFault.className, AccessFault.className]
  | _ => simp [IsDocumented, Failure.kind, TextFault.className]

/-- What is told of the references of a schema is that one dangles or that there are no words. -/
theorem tellReferences_error_cases {f : Failure} (h : s.tellReferences = .error f) :
    (∃ d, f = .dangling d) ∨ ∃ t, f = .noText t := by
  obtain ⟨before, step, after, -, -, hstops⟩ := (s.goesThrough_tellReferences.eq_error_iff f).1 h
  cases hstops with
  | @dangling o hunmet =>
      rcases Failure.told_cases (.dangling o.dangling) with ⟨-, htold⟩ | ⟨t, -, htold⟩
      · exact Or.inl ⟨_, htold⟩
      · exact Or.inr ⟨t, htold⟩
  | nameless hnameless => exact Or.inr ⟨_, rfl⟩

/-! ## Definitions -/

variable {es : Entries Value} {declarations : Value} {cause : AccessFault}

theorem defineAloud_of_build_error {f : BuildFault} (h : build es = .error f) :
    defineAloud (.map es) = .error (Failure.ofBuild f).told := by
  rw [defineAloud, h]
  rfl

theorem defineAloud_of_build_ok (h : build es = .ok s) :
    defineAloud (.map es) = (s.tellReferences >>= fun _ => pure s) := by
  rw [defineAloud, h]
  rfl

/-- A definition that fails by a value without items has reached one. -/
theorem defineAloud_access_iff :
    defineAloud declarations = .error (.access cause) ↔ Unlisted declarations cause := by
  cases declarations with
  | map es =>
      have hunlisted : Unlisted (.map es) cause ↔ build es = .error (.access cause) := by
        rw [build_access_iff]
        constructor
        · rintro ⟨es', heq, h⟩
          cases heq
          exact h
        · exact fun h => ⟨es, rfl, h⟩
      rw [hunlisted]
      cases hbuild : build es with
      | ok s =>
          rw [defineAloud_of_build_ok hbuild]
          -- All of it is declared, and no reference ends with a fault of types.
          refine iff_of_false (fun h => ?_) (fun h => by cases h)
          have htell : s.tellReferences = .error (.access cause) := bind_pure_eq_error_iff.1 h
          rcases tellReferences_error_cases htell with ⟨d, hd⟩ | ⟨t, ht⟩
          · cases hd
          · cases ht
      | error f =>
          rw [defineAloud_of_build_error hbuild]
          cases f with
          | access c =>
              simp [Failure.ofBuild, Failure.told, Failure.checkMessage, pure, Except.pure]
          | malformed m =>
              rcases Failure.told_cases (.malformed m) with ⟨-, htold⟩ | ⟨t, -, htold⟩
              · simp [Failure.ofBuild, htold]
              · simp [Failure.ofBuild, htold]
  | _ =>
      constructor
      · intro h
        cases h
      · rintro ⟨es, heq, -⟩
        cases heq

/-- A definition that fails by a text that cannot be made has something to say that has none. -/
theorem defineAloud_noText_iff :
    defineAloud declarations = .error (.noText t) ↔ Untold declarations t := by
  constructor
  · intro h
    cases declarations with
    | map es =>
        cases hbuild : build es with
        | ok s =>
            rw [defineAloud_of_build_ok hbuild] at h
            have htell : s.tellReferences = .error (.noText t) := bind_pure_eq_error_iff.1 h
            exact .reference hbuild ((s.goesThrough_tellReferences.eq_error_iff _).1 htell)
        | error f =>
            rw [defineAloud_of_build_error hbuild] at h
            cases f with
            | access c => cases h
            | malformed m =>
                have hm : (Failure.malformed m).told = .noText t := Except.error.inj h
                rcases Failure.told_cases (.malformed m) with ⟨-, htold⟩ | ⟨t', ht', htold⟩
                · cases htold.symm.trans hm
                · cases htold.symm.trans hm
                  exact .malformed ((goesThrough_build es).eq_error_iff _ |>.1 hbuild) ht'
    | _ => cases h
  · intro h
    cases h with
    | @malformed es m t h ht =>
        rw [defineAloud_of_build_error (((goesThrough_build es).eq_error_iff _).2 h)]
        exact congrArg Except.error (Failure.told_of_fault ht)
    | @reference es s t hs h =>
        rw [defineAloud_of_build_ok hs]
        exact bind_pure_eq_error_iff.2 ((s.goesThrough_tellReferences.eq_error_iff _).2 h)

/-- **How a definition ends.** The schema is defined, or its failure is documented, or a value
without items is reached, or what is to be said has no text. -/
theorem defineAloud_cases (declarations : Value) :
    (∃ s, defineAloud declarations = .ok s) ∨
    (∃ f, defineAloud declarations = .error f ∧ IsDocumented f) ∨
    (∃ cause, defineAloud declarations = .error (.access cause)) ∨
    ∃ t, defineAloud declarations = .error (.noText t) := by
  cases declarations with
  | map es =>
      cases hbuild : build es with
      | ok s =>
          rw [defineAloud_of_build_ok hbuild]
          cases htell : s.tellReferences with
          | ok u => exact Or.inl ⟨s, rfl⟩
          | error f =>
              rcases tellReferences_error_cases htell with ⟨d, rfl⟩ | ⟨t, rfl⟩
              · exact Or.inr (Or.inl ⟨_, rfl, Or.inr rfl⟩)
              · exact Or.inr (Or.inr (Or.inr ⟨t, rfl⟩))
      | error f =>
          rw [defineAloud_of_build_error hbuild]
          cases f with
          | access cause => exact Or.inr (Or.inr (Or.inl ⟨cause, rfl⟩))
          | malformed m =>
              rcases Failure.told_cases (.malformed m) with ⟨-, htold⟩ | ⟨t, -, htold⟩
              · exact Or.inr (Or.inl ⟨_, rfl, by rw [Failure.ofBuild, htold]; exact Or.inl rfl⟩)
              · exact Or.inr (Or.inr (Or.inr ⟨t, congrArg Except.error htold⟩))
  | _ => exact Or.inr (Or.inl ⟨_, rfl, Or.inl rfl⟩)

/-- **What is told of a definition is what the definition finds.** A schema that is defined aloud is
the one that is defined, and a failure that is documented is the fault that is found. -/
theorem define_of_defineAloud (declarations : Value) :
    (∀ s, defineAloud declarations = .ok s → define declarations = .ok s) ∧
    ∀ f, defineAloud declarations = .error f → IsDocumented f →
      ∃ g, define declarations = .error g ∧ .ofDefine g = f := by
  cases declarations with
  | map es =>
      cases hbuild : build es with
      | ok s =>
          -- The definition validates where the one that is told of tells of references.
          obtain ⟨hok, hdangling⟩ := s.tells_references
          have hdefine : ∀ r, s.validate = r → define (.map es) =
              (r.mapError DefineFault.dangling >>= fun _ => pure s) := by
            rintro r rfl
            rw [define, hbuild]
            dsimp only
            cases s.validate <;> rfl
          rw [defineAloud_of_build_ok hbuild]
          refine ⟨fun s' h => ?_, fun f h hdocumented => ?_⟩
          · obtain ⟨u, htell, hs⟩ := bind_pure_eq_ok_iff.1 h
            rw [hdefine _ (hok htell), ← hs]
            rfl
          · have htell := bind_pure_eq_error_iff.1 h
            rcases tellReferences_error_cases htell with ⟨d, rfl⟩ | ⟨t, rfl⟩
            · rw [hdefine _ (hdangling d htell)]
              exact ⟨.dangling d, rfl, rfl⟩
            · exact absurd hdocumented (not_isDocumented_noText t)
      | error f =>
          rw [defineAloud_of_build_error hbuild]
          constructor
          · intro s h
            cases h
          · intro f' h hdocumented
            cases h
            refine ⟨.build f, by rw [define, hbuild]; rfl, ?_⟩
            rcases Failure.told_cases (.ofBuild f) with ⟨-, htold⟩ | ⟨t, -, htold⟩
            · exact htold.symm
            · rw [htold] at hdocumented
              exact absurd hdocumented (not_isDocumented_noText t)
  | _ =>
      constructor
      · intro s h
        cases h
      · intro f h _
        cases h
        exact ⟨_, rfl, rfl⟩

/-- **When a schema is defined or refused as documented.** For every value, a schema is defined, or
the failure is one of structure or of references, exactly if no relation with targets without items
is reached and what is to be said has a text. If such a relation is reached, the failure is a fault
of types; if something has no text, the failure says so and is not documented either. -/
theorem defineAloud_documented_iff (declarations : Value) :
    (((∃ s, defineAloud declarations = .ok s) ∨
        ∃ f, defineAloud declarations = .error f ∧ IsDocumented f) ↔
      (¬ ∃ cause, Unlisted declarations cause) ∧ ¬ ∃ t, Untold declarations t) ∧
    (∀ cause, defineAloud declarations = .error (.access cause) ↔ Unlisted declarations cause) ∧
    (∀ cause, Unlisted declarations cause → (Failure.access cause).kind = "TypeError") ∧
    (∀ t, defineAloud declarations = .error (.noText t) ↔ Untold declarations t) ∧
    ∀ t, ¬ IsDocumented (.noText t) := by
  refine ⟨?_, fun cause => defineAloud_access_iff, fun cause h => kind_of_unlisted h,
    fun t => defineAloud_noText_iff, not_isDocumented_noText⟩
  simp only [← defineAloud_access_iff, ← defineAloud_noText_iff]
  constructor
  · rintro (⟨s, hs⟩ | ⟨f, hf, hdocumented⟩)
    · simp [hs]
    · rw [hf]
      refine ⟨?_, ?_⟩
      · rintro ⟨cause, h⟩
        rw [Except.error.inj h] at hdocumented
        exact not_isDocumented_access cause hdocumented
      · rintro ⟨t, h⟩
        rw [Except.error.inj h] at hdocumented
        exact not_isDocumented_noText t hdocumented
  · rintro ⟨haccess, htext⟩
    rcases defineAloud_cases declarations with hok | hdocumented | h | h
    · exact Or.inl hok
    · exact Or.inr hdocumented
    · exact absurd h haccess
    · exact absurd h htext

/-- A relation whose targets are given as nothing. -/
def targetsOfNothing : Value :=
  .record [("document", .record [("relations", .record [("owner", .record [("targets", .none)])])])]

/-- An attribute whose type is a number with too many digits. -/
def attributeOfLongNumber : Value :=
  .record [("document", .record [("attributes", .record [("x", Value.longNumber)])])]

/-- **Targets that are nothing are no malformed part, and a type that cannot be shown is not
reported.** Both declarations end in a failure that is neither structural nor one of references. -/
theorem targetsOfNothing_undocumented :
    (∃ f, defineAloud targetsOfNothing = .error f ∧ f.kind = "TypeError" ∧ ¬ IsDocumented f) ∧
    ∃ f, defineAloud attributeOfLongNumber = .error f ∧ f.kind = "ValueError" ∧
      ¬ IsDocumented f := by
  refine ⟨⟨_, rfl, rfl, not_isDocumented_access _⟩, _, ?_, rfl, not_isDocumented_noText .tooLong⟩
  have hbuild : build [(.text "document", .record [("attributes",
      .record [("x", Value.longNumber)])])] =
      .error (.malformed (.invalidType (.text "document") (.text "x") Value.longNumber)) := rfl
  have htext : ∀ name, (Key.text name).checkShown = .ok () := Value.checkShown_text
  have hmessage : (Malformed.invalidType (.text "document") (.text "x")
      Value.longNumber).checkMessage = .error .tooLong := by
    rw [Malformed.checkMessage, Value.checkShown_longNumber, htext, htext]
    rfl
  exact (defineAloud_of_build_error hbuild).trans
    (congrArg Except.error (Failure.told_of_fault hmessage))

end Schema

end Rebac
