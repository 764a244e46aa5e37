import Mathlib.Data.List.Perm.Basic
import Rebac.Proofs.Computations
import Rebac.Proofs.Identifiers
import Rebac.Proofs.Mappings

set_option autoImplicit false

/-!
# Rearranged schemas

A schema is rearranged by writing its entities, their relations and permissions and the targets of a
relation in another order, by writing an expression with the same identifiers in another way, and by
giving entities other attributes. Validation looks at all of this in order and ends at the first
reference that dangles, but whether there is one does not depend on the order: a schema is accepted
exactly if its rearrangements are (`accepted_iff_of_rearranged`).

The proof follows one reference of the rearranged schema back to the schema it comes from. The first
obligation that is not met may be another one after a rearrangement, so nothing is said of the
failure itself.
-/

namespace Rebac

/-! ## Expressions with the same identifiers -/

namespace Expression

/-- Two expressions have the same identifiers, each any number of times and in any order, whatever
operators and parentheses stand between them. -/
def SameIdentifiers (p q : String) : Prop := ∀ w, w ∈ words p ↔ w ∈ words q

/-- Two operands with an operator between them. -/
def combined (s op t : String) : String := s ++ " " ++ op ++ " " ++ t

/-- The ways to write an expression differently: operands change places, an operand is repeated, an
operator becomes another one, and an operator in front of an expression or parentheses around it are
put there or taken away. -/
inductive Reworded : String → String → Prop
  | refl (s : String) : Reworded s s
  | symm {s t : String} (h : Reworded s t) : Reworded t s
  | trans {s t u : String} (h : Reworded s t) (h' : Reworded t u) : Reworded s u
  | operands {s s' t t' op : String} (hop : op ∈ operators) (hs : Reworded s s')
      (ht : Reworded t t') : Reworded (combined s op t) (combined s' op t')
  | swapped {op : String} (hop : op ∈ operators) (s t : String) :
      Reworded (combined s op t) (combined t op s)
  | repeated {op : String} (hop : op ∈ operators) (s : String) : Reworded s (combined s op s)
  | operator {op op' : String} (hop : op ∈ operators) (hop' : op' ∈ operators) (s t : String) :
      Reworded (combined s op t) (combined s op' t)
  | inFront {op : String} (hop : op ∈ operators) (s : String) : Reworded s (op ++ " " ++ s)
  | parentheses (s : String) : Reworded s ("(" ++ s ++ ")")

/-- At a separating character, the words of a text fall into those before it and those behind it. -/
theorem words_append {c : Char} (hc : isSeparator c = true) (s t : String) :
    words (s ++ String.singleton c ++ t) = words s ++ words t := by
  have hgap := isGap_singleton (isSeparator_iff.1 hc)
  simpa only [identifiers_eq_words] using readsIdentifiers_identifiers.gap s _ t hgap

theorem words_operator {op : String} (h : op ∈ operators) : words op = [] := by
  rw [← identifiers_eq_words]
  simp only [operators, List.mem_cons, List.not_mem_nil, or_false] at h
  rcases h with rfl | rfl | rfl
  all_goals decide

theorem words_append_blank (s t : String) : words (s ++ " " ++ t) = words s ++ words t :=
  words_append (c := ' ') (by decide) s t

theorem words_combined {op : String} (h : op ∈ operators) (s t : String) :
    words (combined s op t) = words s ++ words t := by
  calc words (combined s op t)
    _ = words (s ++ " " ++ op) ++ words t := words_append_blank _ t
    _ = words s ++ words op ++ words t := by rw [words_append_blank]
    _ = words s ++ words t := by rw [words_operator h, List.append_nil]

theorem words_parentheses (s : String) : words ("(" ++ s ++ ")") = words s := by
  have hempty : words "" = [] := by
    rw [← identifiers_eq_words]
    decide
  have hopen : words ("(" ++ s) = words s := by
    have h := words_append (c := '(') (by decide) "" s
    rwa [hempty, List.nil_append] at h
  have hclose : words ("(" ++ s ++ ")") = words ("(" ++ s) := by
    have h := words_append (c := ')') (by decide) ("(" ++ s) ""
    rwa [hempty, List.append_nil, String.append_empty] at h
  rw [hclose, hopen]

/-- An expression that is written differently has the same identifiers. -/
theorem Reworded.sameIdentifiers {p q : String} (h : Reworded p q) : SameIdentifiers p q := by
  induction h with
  | refl s => exact fun w => Iff.rfl
  | symm _ ih => exact fun w => (ih w).symm
  | trans _ _ ih ih' => exact fun w => (ih w).trans (ih' w)
  | operands hop _ _ ihs iht =>
      intro w
      rw [words_combined hop, words_combined hop, List.mem_append, List.mem_append, ihs w, iht w]
  | swapped hop s t =>
      intro w
      rw [words_combined hop, words_combined hop, List.mem_append, List.mem_append, or_comm]
  | repeated hop s =>
      intro w
      rw [words_combined hop, List.mem_append, or_self_iff]
  | operator hop hop' s t =>
      intro w
      rw [words_combined hop, words_combined hop']
  | inFront hop s =>
      intro w
      rw [words_append_blank, words_operator hop, List.nil_append]
  | parentheses s =>
      intro w
      rw [words_parentheses]

end Expression

open Expression

/-! ## Rearrangements -/

namespace Dict

variable {α : Type} {R : α → α → Prop} {a b : Dict α}

/-- The entries of a mapping in another order, each value in its own rearrangement. -/
def Rearranged (R : α → α → Prop) (a b : Dict α) : Prop :=
  ∃ es, a.entries.Perm es ∧ List.Forall₂ (fun e f => e.1 = f.1 ∧ R e.2 f.2) es b.entries

theorem Rearranged.symm (hR : ∀ x y, R x y → R y x) (h : Rearranged R a b) : Rearranged R b a := by
  obtain ⟨es, hperm, halike⟩ := h
  have hback : List.Forall₂ (fun f e => f.1 = e.1 ∧ R f.2 e.2) b.entries es :=
    halike.flip.imp fun f e hfe => ⟨hfe.1.symm, hR _ _ hfe.2⟩
  have hcomp : Relation.Comp
      (List.Forall₂ fun f e : Key × α => f.1 = e.1 ∧ R f.2 e.2) List.Perm b.entries a.entries :=
    ⟨es, hback, hperm.symm⟩
  -- What is rearranged one by one and then put in order may be put in order first.
  rwa [List.forall₂_comp_perm_eq_perm_comp_forall₂] at hcomp

/-- Every entry of a rearrangement comes from an entry under the same key. -/
theorem Rearranged.exists_entry (h : Rearranged R a b) {k : Key} {y : α}
    (hy : (k, y) ∈ b.entries) : ∃ x, (k, x) ∈ a.entries ∧ R x y := by
  obtain ⟨es, hperm, halike⟩ := h
  obtain ⟨⟨l, x⟩, hx, hkey, hR⟩ := exists_of_mem_right halike hy
  cases hkey
  exact ⟨x, hperm.mem_iff.2 hx, hR⟩

/-- What is found under a text in a rearrangement comes from what is found under it before. -/
theorem Rearranged.exists_get? (h : Rearranged R a b) {s : String} {y : α}
    (hy : b.get? (.text s) = some y) : ∃ x, a.get? (.text s) = some x ∧ R x y := by
  obtain ⟨x, hx, hR⟩ := h.exists_entry (get?_text_eq_some_iff.1 hy)
  exact ⟨x, get?_text_eq_some_iff.2 hx, hR⟩

theorem Rearranged.contains_text (h : Rearranged R a b) {s : String}
    (hs : b.contains (.text s) = true) : a.contains (.text s) = true := by
  obtain ⟨y, hy⟩ := Option.isSome_iff_exists.1 hs
  obtain ⟨x, hx, -⟩ := h.exists_get? hy
  rw [contains, hx, Option.isSome_some]

theorem Rearranged.exists_value (h : Rearranged R a b) {y : α} (hy : y ∈ b.values) :
    ∃ x ∈ a.values, R x y := by
  obtain ⟨⟨k, y⟩, hmem, rfl⟩ := List.mem_map.1 hy
  obtain ⟨x, hx, hR⟩ := h.exists_entry hmem
  exact ⟨x, List.mem_map_of_mem hx, hR⟩

end Dict

/-- A relation with its targets in another order. -/
structure Relation.Rearranged (a b : Relation) : Prop where
  name : a.name = b.name
  targets : a.targets.Perm b.targets

/-- A permission whose expression has the same identifiers. -/
structure Permission.Rearranged (a b : Permission) : Prop where
  name : a.name = b.name
  expression : SameIdentifiers a.expression b.expression

/-- An entity with its relations and permissions rearranged and with any attributes. -/
structure Entity.Rearranged (a b : Entity) : Prop where
  name : a.name = b.name
  relations : Dict.Rearranged Relation.Rearranged a.relations b.relations
  permissions : Dict.Rearranged Permission.Rearranged a.permissions b.permissions

/-- A schema with its entities rearranged. -/
def Schema.Rearranged (a b : Schema) : Prop :=
  Dict.Rearranged Entity.Rearranged a.entities b.entities

theorem Relation.Rearranged.symm {a b : Relation} (h : a.Rearranged b) : b.Rearranged a :=
  ⟨h.name.symm, h.targets.symm⟩

theorem Permission.Rearranged.symm {a b : Permission} (h : a.Rearranged b) : b.Rearranged a :=
  ⟨h.name.symm, fun w => (h.expression w).symm⟩

theorem Entity.Rearranged.symm {a b : Entity} (h : a.Rearranged b) : b.Rearranged a :=
  ⟨h.name.symm, h.relations.symm fun _ _ hr => hr.symm, h.permissions.symm fun _ _ hp => hp.symm⟩

theorem Schema.Rearranged.symm {a b : Schema} (h : a.Rearranged b) : b.Rearranged a :=
  Dict.Rearranged.symm (fun _ _ he => he.symm) h

/-! ## References of a rearranged schema -/

namespace Entity

variable {e f : Entity}

/-- A member is a relation or a permission of its entity. -/
def HasText (e : Entity) (m : String) : Prop :=
  e.relations.contains (.text m) = true ∨ e.permissions.contains (.text m) = true

/-- A rearranged entity has no other members. -/
theorem Rearranged.hasText (h : e.Rearranged f) {m : String} (hm : e.HasText m) : f.HasText m := by
  rcases hm with hm | hm
  · exact Or.inl ((h.symm.relations).contains_text hm)
  · exact Or.inr ((h.symm.permissions).contains_text hm)

end Entity

namespace Schema

variable {a b : Schema} {e f : Entity} {p q : Permission}

/-- A schema is accepted if every target is an entity and every identifier resolves. -/
theorem validate_eq_ok_iff (s : Schema) : s.validate = .ok () ↔
    ∀ e ∈ s.entities.values,
      (∀ r ∈ e.relations.values, ∀ t ∈ r.targets, s.entities.contains (.text t) = true) ∧
      ∀ p ∈ e.permissions.values, ∀ i ∈ words p.expression,
        ∀ o ∈ Obligation.ofIdentifier e p i, o.Met s := by
  rw [s.checks_validate.eq_ok_iff]
  simp only [obligations, Obligation.ofEntity, List.mem_flatMap, List.mem_append, List.mem_map]
  constructor
  · intro h e he
    refine ⟨fun r hr t ht => ?_, fun p hp i hi o ho => ?_⟩
    · exact h (.target e r t) ⟨e, he, Or.inl ⟨r, hr, t, ht, rfl⟩⟩
    · exact h o ⟨e, he, Or.inr ⟨p, hp, i, hi, ho⟩⟩
  · rintro h o ⟨e, he, ⟨r, hr, t, ht, rfl⟩ | ⟨p, hp, i, hi, ho⟩⟩
    · exact (h e he).1 r hr t ht
    · exact (h e he).2 p hp i hi o ho

/-- A member of a target is a member of that target in every rearrangement. -/
theorem Rearranged.met_foreign (h : a.Rearranged b) {t m : String}
    (hmet : (Obligation.foreign e p t m).Met a) : (Obligation.foreign f q t m).Met b := by
  obtain ⟨g, hg, hmember⟩ := hmet
  obtain ⟨g', hg', halike⟩ := h.symm.exists_get? hg
  exact ⟨g', hg', halike.symm.hasText hmember⟩

/-- An identifier that resolves does so in every rearrangement. -/
theorem Rearranged.met_identifier (h : a.Rearranged b) (he : e.Rearranged f) {i : String}
    (hmet : ∀ o ∈ Obligation.ofIdentifier e p i, o.Met a) :
    ∀ o ∈ Obligation.ofIdentifier f q i, o.Met b := by
  unfold Obligation.ofIdentifier at hmet ⊢
  match hdots : i.toList.count '.' with
  | 0 =>
      simp only [hdots, List.forall_mem_singleton] at hmet ⊢
      exact he.hasText hmet
  | 1 =>
      simp only [hdots, List.forall_mem_cons, List.forall_mem_map] at hmet ⊢
      obtain ⟨hrelation, hforeign⟩ := hmet
      refine ⟨he.symm.relations.contains_text hrelation, ?_⟩
      intro t ht
      -- A target of the rearranged relation is one of the relation that it comes from.
      cases hfound : f.relations.get?
          (.text (String.ofList (i.toList.takeWhile (· != '.')))) with
      | none => simp [hfound] at ht
      | some s =>
          obtain ⟨r, hr, halike⟩ := he.relations.exists_get? hfound
          rw [hfound] at ht
          have hmet := hforeign t (by rw [hr]; exact halike.targets.mem_iff.2 ht)
          exact h.met_foreign hmet
  | n + 2 =>
      simp only [hdots, List.forall_mem_singleton] at hmet
      exact hmet.elim

/-- What is accepted is accepted in every rearrangement. -/
theorem Rearranged.accepted (h : a.Rearranged b) (ha : a.validate = .ok ()) :
    b.validate = .ok () := by
  rw [validate_eq_ok_iff] at ha ⊢
  intro f hf
  obtain ⟨e, he, halike⟩ := Dict.Rearranged.exists_value h hf
  obtain ⟨htargets, hidentifiers⟩ := ha e he
  constructor
  · intro s hs t ht
    obtain ⟨r, hr, hrs⟩ := halike.relations.exists_value hs
    exact Dict.Rearranged.contains_text h.symm (htargets r hr t (hrs.targets.mem_iff.2 ht))
  · intro q hq i hi
    obtain ⟨p, hp, hpq⟩ := halike.permissions.exists_value hq
    exact h.met_identifier halike (hidentifiers p hp i ((hpq.expression i).2 hi))

/-- **Acceptance does not depend on order, on the wording of expressions or on attributes.** A
schema is accepted exactly if its rearrangements are; and among the rearrangements of a permission
are all those whose expression is written differently. -/
theorem accepted_iff_of_rearranged :
    (∀ a b : Schema, a.Rearranged b → (a.validate = .ok () ↔ b.validate = .ok ())) ∧
    ∀ s t : String, Reworded s t → ∀ k : Key,
      Permission.Rearranged { name := k, expression := s } { name := k, expression := t } := by
  refine ⟨fun a b h => ⟨h.accepted, h.symm.accepted⟩, fun s t h k => ?_⟩
  exact ⟨rfl, h.sameIdentifiers⟩

/-- A team that has a parent and is owned by users or teams. -/
def team : Entity where
  name := .text "team"
  relations := .ofEntries [(.text "parent", { name := .text "parent", targets := ["team"] }),
    (.text "owner", { name := .text "owner", targets := ["user", "team"] })]
  permissions := .ofEntries [
    (.text "manage", { name := .text "manage", expression := "owner or parent.manage" }),
    (.text "view", { name := .text "view", expression := "manage" })]

/-- The same team written in another order, with another operator and with an attribute. -/
def rearrangedTeam : Entity where
  name := .text "team"
  relations := .ofEntries [
    (.text "owner", { name := .text "owner", targets := ["team", "user"] }),
    (.text "parent", { name := .text "parent", targets := ["team"] })]
  permissions := .ofEntries [(.text "view", { name := .text "view", expression := "manage" }),
    (.text "manage", { name := .text "manage", expression := "(parent.manage and owner)" })]
  attributes := .ofEntries [(.text "public", { name := .text "public", type := "boolean" })]

theorem reworded_manage : Reworded "owner or parent.manage" "(parent.manage and owner)" := by
  have hswapped : Reworded (combined "owner" "or" "parent.manage")
      (combined "parent.manage" "or" "owner") := .swapped (by decide) _ _
  have hoperator : Reworded (combined "parent.manage" "or" "owner")
      (combined "parent.manage" "and" "owner") := .operator (by decide) (by decide) _ _
  have h := hswapped.trans (hoperator.trans (.parentheses _))
  have hbefore : combined "owner" "or" "parent.manage" = "owner or parent.manage" := by decide
  have hafter : "(" ++ combined "parent.manage" "and" "owner" ++ ")" =
      "(parent.manage and owner)" := by decide
  rwa [hbefore, hafter] at h

theorem team_rearranged : team.Rearranged rearrangedTeam where
  name := rfl
  relations := by
    refine ⟨_, .swap _ _ _, .cons ⟨rfl, rfl, .swap _ _ _⟩ (.cons ⟨rfl, rfl, .rfl⟩ .nil)⟩
  permissions := by
    refine ⟨_, .swap _ _ _, .cons ⟨rfl, rfl, fun w => Iff.rfl⟩ (.cons ⟨rfl, rfl, ?_⟩ .nil)⟩
    exact reworded_manage.sameIdentifiers

/-- An entity without members. -/
def user : Entity := { name := .text "user" }

/-- **A schema that is accepted in both orders.** -/
theorem rearrangedTeams_accepted :
    Rearranged ⟨.ofEntries [(.text "user", user), (.text "team", team)]⟩
      ⟨.ofEntries [(.text "team", rearrangedTeam), (.text "user", user)]⟩ ∧
    validate ⟨.ofEntries [(.text "team", rearrangedTeam), (.text "user", user)]⟩ = .ok () := by
  have huser : user.Rearranged user := ⟨rfl, ⟨[], .nil, .nil⟩, ⟨[], .nil, .nil⟩⟩
  have hteams : Rearranged ⟨.ofEntries [(.text "user", user), (.text "team", team)]⟩
      ⟨.ofEntries [(.text "team", rearrangedTeam), (.text "user", user)]⟩ :=
    ⟨_, .swap _ _ _, .cons ⟨rfl, team_rearranged⟩ (.cons ⟨rfl, huser⟩ .nil)⟩
  exact ⟨hteams, (accepted_iff_of_rearranged.1 _ _ hteams).1 (by decide +kernel)⟩

end Schema

end Rebac
