import Rebac.Failure
import Rebac.Proofs.Computations

set_option autoImplicit false

/-!
# The references of a schema as a list

What a schema owes to its references is a list of obligations in the order of declaration: that the
targets of relations are entities, and that the identifiers of expressions resolve. The list is made
without looking at what holds, and each obligation says by itself when it is met. Validation accepts
a schema exactly if every obligation is met, and otherwise reports the first one that is not
(`validate_obligations`).
-/

namespace Rebac

namespace Expression

/-- The words of an expression that stand between blanks and parentheses and are no operators. -/
def words (expression : String) : List String :=
  ((expression.toList.splitOnP isSeparator).filter
    (fun w => !w.isEmpty && !operators.contains (String.ofList w))).map String.ofList

end Expression

/-- What the references of a schema need, with the entity and the member that the reference stands
in. -/
inductive Obligation
  /-- The target of a relation is an entity. -/
  | target (e : Entity) (r : Relation) (target : String)
  /-- An identifier without a dot is a relation or a permission of its entity. -/
  | member (e : Entity) (p : Permission) (identifier : String)
  /-- What stands before the dot of an identifier is a relation of its entity. -/
  | relation (e : Entity) (p : Permission) (relation : String)
  /-- What stands behind the dot is a relation or a permission of a target of that relation. -/
  | foreign (e : Entity) (p : Permission) (target member : String)
  /-- An identifier has no more than one dot. -/
  | severalDots (e : Entity) (p : Permission) (identifier : String)

namespace Obligation

/-- Whether a schema meets an obligation. An identifier with several dots never resolves. -/
def Met (s : Schema) : Obligation → Prop
  | target _ _ t => s.entities.contains (.text t) = true
  | member e _ i => e.relations.contains (.text i) = true ∨ e.permissions.contains (.text i) = true
  | relation e _ r => e.relations.contains (.text r) = true
  | foreign _ _ t m => ∃ f, s.entities.get? (.text t) = some f ∧
      (f.relations.contains (.text m) = true ∨ f.permissions.contains (.text m) = true)
  | severalDots _ _ _ => False

/-- The entity that the reference stands in. -/
def entity : Obligation → Entity
  | target e _ _ | member e _ _ | relation e _ _ | foreign e _ _ _ | severalDots e _ _ => e

/-- The name of the relation or the permission that the reference stands in. -/
def holder : Obligation → Key
  | target _ r _ => r.name
  | member _ p _ | relation _ p _ | foreign _ p _ _ | severalDots _ p _ => p.name

/-- What is to blame if the obligation is not met. -/
def identifier : Obligation → String
  | target _ _ t => t
  | member _ _ i => i
  | relation _ _ r => r
  | foreign _ _ _ m => m
  | severalDots _ _ i => i

/-- What is said if the obligation is not met. -/
def message (o : Obligation) : String :=
  let permission := "Permission \"" ++ o.entity.name.display ++ "." ++ o.holder.display ++ "\""
  match o with
  | target e r t =>
      "Entity \"" ++ t ++ "\" referenced in relation \"" ++ e.name.display ++ "." ++
        r.name.display ++ "\" does not exist"
  | member _ _ i => permission ++ " references undefined relation or permission \"" ++ i ++ "\""
  | relation _ _ r => permission ++ " references undefined relation \"" ++ r ++ "\""
  | foreign _ _ t m =>
      permission ++ " references undefined permission or relation \"" ++ m ++ "\" on entity \"" ++
        t ++ "\""
  | severalDots _ _ i => permission ++ " references malformed identifier \"" ++ i ++ "\""

/-- The failure that is raised if the obligation is not met, as callers see it. -/
def report (o : Obligation) : Report where
  kind := "ReferenceError"
  message := o.message
  code := "REFERENCE_ERROR"
  details := [("entity", .ofKey o.entity.name), ("member", .ofKey o.holder),
    ("identifier", .text o.identifier)]

/-- The reference that dangles if the obligation is not met. -/
def dangling : Obligation → Dangling
  | target e r t => .target e.name r.name t
  | member e p i => .member e.name p.name i
  | relation e p r => .relation e.name p.name r
  | foreign e p t m => .foreign e.name p.name t m
  | severalDots e p i => .malformed e.name p.name i

theorem report_dangling (o : Obligation) :
    (Failure.dangling o.dangling).report? = some o.report := by
  cases o with
  | target e r t => rfl
  | member e p i => rfl
  | relation e p r => rfl
  | foreign e p t m => rfl
  | severalDots e p i => rfl

/-- The obligations of an identifier, by the number of its dots. -/
def ofIdentifier (e : Entity) (p : Permission) (i : String) : List Obligation :=
  match i.toList.count '.' with
  | 0 => [member e p i]
  | 1 =>
      let relationName := String.ofList (i.toList.takeWhile (· != '.'))
      let memberName := String.ofList ((i.toList.dropWhile (· != '.')).drop 1)
      let targets := ((e.relations.get? (.text relationName)).map Relation.targets).getD []
      relation e p relationName :: targets.map (foreign e p · memberName)
  | _ => [severalDots e p i]

/-- The obligations of an entity: those of its relations, then those of its permissions. -/
def ofEntity (e : Entity) : List Obligation :=
  e.relations.values.flatMap (fun r => r.targets.map (target e r)) ++
    e.permissions.values.flatMap
      (fun p => (Expression.words p.expression).flatMap (ofIdentifier e p))

end Obligation

/-- The obligations of a schema, entity by entity. -/
def Schema.obligations (s : Schema) : List Obligation :=
  s.entities.values.flatMap Obligation.ofEntity

/-! ## Checking a list of obligations -/

/-- A check of obligations in order: it passes if all are met, and otherwise ends at the first one
that is not. -/
inductive Checks (s : Schema) : List Obligation → Except Dangling Unit → Prop
  | done : Checks s [] (.ok ())
  | met {o : Obligation} {os : List Obligation} {r : Except Dangling Unit} (ho : o.Met s)
      (h : Checks s os r) : Checks s (o :: os) r
  | unmet {o : Obligation} {os : List Obligation} (ho : ¬ o.Met s) :
      Checks s (o :: os) (.error o.dangling)

namespace Checks

variable {s : Schema} {os os' : List Obligation} {r r' : Except Dangling Unit}

/-- A check of one obligation. -/
theorem single {o : Obligation} (hmet : o.Met s → r = .ok ())
    (hunmet : ¬ o.Met s → r = .error o.dangling) : Checks s [o] r := by
  by_cases ho : o.Met s
  · rw [hmet ho]
    exact .met ho .done
  · rw [hunmet ho]
    exact .unmet ho

/-- Checks in a row check the obligations in a row. -/
theorem append (h : Checks s os r) (h' : Checks s os' r') :
    Checks s (os ++ os') (r >>= fun _ => r') := by
  induction h with
  | done => exact h'
  | met ho _ ih => exact .met ho ih
  | unmet ho => exact .unmet ho

/-- Checks of the members of a list check the obligations of all of them. -/
theorem forM {α : Type} {obligations : α → List Obligation} {check : α → Except Dangling Unit}
    (h : ∀ x, Checks s (obligations x) (check x)) (xs : List α) :
    Checks s (xs.flatMap obligations) (xs.forM check) := by
  induction xs with
  | nil => exact .done
  | cons x rest ih =>
      rw [List.flatMap_cons]
      exact (h x).append ih

/-- What passes a check meets every obligation. -/
theorem eq_ok_iff (h : Checks s os r) : r = .ok () ↔ ∀ o ∈ os, o.Met s := by
  induction h with
  | done => simp
  | met ho _ ih => simp [ih, ho]
  | unmet ho => simp [ho]

/-- A check goes through its obligations, which are at fault if they are not met. -/
theorem goesThrough (h : Checks s os r) :
    GoesThrough (fun o d => ¬ o.Met s ∧ o.dangling = d) os r := by
  induction h with
  | done => exact .done ()
  | met ho _ ih => exact .sound (fun _ hd => hd.1 ho) ih
  | unmet ho => exact .fault fun d => ⟨fun hd => hd.2.symm, fun hd => ⟨ho, hd.symm⟩⟩

/-- What fails a check fails at the first obligation that is not met. -/
theorem eq_error_iff (h : Checks s os r) (d : Dangling) :
    r = .error d ↔ ∃ before o after, os = before ++ o :: after ∧ (∀ b ∈ before, b.Met s) ∧
      ¬ o.Met s ∧ o.dangling = d := by
  rw [h.goesThrough.eq_error_iff]
  simp [IsFirstFault]

/-- What fails a check fails at one of its obligations, which is not met. -/
theorem exists_unmet {d : Dangling} (h : Checks s os r) (hr : r = .error d) :
    ∃ o ∈ os, ¬ o.Met s ∧ o.dangling = d := by
  obtain ⟨before, o, after, rfl, -, hunmet, hd⟩ := (h.eq_error_iff d).1 hr
  exact ⟨o, List.mem_append_right _ List.mem_cons_self, hunmet, hd⟩

end Checks

/-! ## Identifiers and their dots -/

namespace Text

/-- The pieces of a text are those into which the core library splits it. -/
theorem pieces_eq_splitOnP (p : Char → Bool) (s : List Char) : pieces p s = s.splitOnP p := by
  induction s with
  | nil => rfl
  | cons c rest ih =>
      rw [pieces, List.splitOnP_cons_eq_if_modifyHead, ← ih]
      split
      · rfl
      · cases h : pieces p rest with
        | nil => exact absurd h (pieces_ne_nil p rest)
        | cons w ws => rfl

/-- There is one more piece than there are separating characters. -/
theorem length_pieces (p : Char → Bool) (s : List Char) :
    (pieces p s).length = s.countP p + 1 := by
  induction s with
  | nil => rfl
  | cons c rest ih =>
      rw [pieces, List.countP_cons]
      by_cases hc : p c = true
      · rw [if_pos hc, if_pos hc, List.length_cons, ih]
      · rw [if_neg hc, if_neg hc, ← ih]
        cases h : pieces p rest with
        | nil => exact absurd h (pieces_ne_nil p rest)
        | cons w ws => rfl

/-- A text with one separating character is two pieces. -/
theorem pieces_of_countP_eq_one {p : Char → Bool} {s : List Char} (h : s.countP p = 1) :
    pieces p s = [s.takeWhile (fun c => !p c), (s.dropWhile (fun c => !p c)).drop 1] := by
  induction s with
  | nil => cases h
  | cons c rest ih =>
      cases hc : p c with
      | true =>
          have hrest : ∀ x ∈ rest, p x = false := by
            have hzero : rest.countP p = 0 := by simpa [hc] using h
            simpa using List.countP_eq_zero.1 hzero
          simp [pieces, hc, pieces_of_forall_not p hrest]
      | false =>
          have hone : rest.countP p = 1 := by simpa [hc] using h
          simp [pieces, hc, ih hone]

end Text

namespace Expression

theorem identifiers_eq_words (expression : String) : identifiers expression = words expression := by
  rw [identifiers, identifierWords, Text.pieces_eq_splitOnP]
  rfl

/-- An identifier without a dot is its only part. -/
theorem parts_of_no_dot {i : String} (h : i.toList.count '.' = 0) : parts i = [i] := by
  have hno : ∀ c ∈ i.toList, (c == '.') = false := by
    simpa using List.countP_eq_zero.1 h
  rw [parts, Text.pieces_of_forall_not _ hno]
  simp

/-- An identifier with one dot has a part before it and a part behind it. -/
theorem parts_of_one_dot {i : String} (h : i.toList.count '.' = 1) :
    parts i = [String.ofList (i.toList.takeWhile (· != '.')),
      String.ofList ((i.toList.dropWhile (· != '.')).drop 1)] := by
  rw [parts, Text.pieces_of_countP_eq_one h]
  rfl

/-- An identifier with several dots has more than two parts. -/
theorem parts_of_several_dots {i : String} {n : Nat} (h : i.toList.count '.' = n + 2) :
    ∃ a b c rest, parts i = a :: b :: c :: rest := by
  have hlength : (parts i).length = n + 3 := by
    rw [parts, List.length_map, Text.length_pieces]
    exact congrArg (· + 1) h
  match hparts : parts i with
  | a :: b :: c :: rest => exact ⟨a, b, c, rest, rfl⟩
  | [] | [_] | [_, _] =>
      rw [hparts] at hlength
      simp at hlength

end Expression

/-! ## Validation -/

namespace Schema

variable (s : Schema) (e : Entity)

theorem checks_targets (r : Relation) :
    Checks s (r.targets.map (.target e r)) (s.checkTargets e r) := by
  rw [List.map_eq_flatMap]
  refine Checks.forM (fun t => Checks.single ?_ ?_) r.targets
  · intro hmet
    exact if_pos hmet
  · intro hunmet
    exact if_neg hunmet

theorem checks_foreign (p : Permission) (memberName targetName : String) :
    Checks s [.foreign e p targetName memberName] (s.checkForeign e p memberName targetName) := by
  unfold checkForeign entity?
  refine Checks.single ?_ ?_
  · rintro ⟨f, hf, hmember⟩
    rw [hf]
    exact if_pos (by simpa [Entity.hasMember] using hmember)
  · intro hunmet
    cases hf : s.entities.get? (.text targetName) with
    | none => rfl
    | some f =>
        refine if_neg fun hmember => hunmet ⟨f, hf, ?_⟩
        simpa [Entity.hasMember] using hmember

theorem checks_identifier (p : Permission) (i : String) :
    Checks s (Obligation.ofIdentifier e p i) (s.checkIdentifier e p i) := by
  unfold Obligation.ofIdentifier checkIdentifier
  match hdots : i.toList.count '.' with
  | 0 =>
      rw [Expression.parts_of_no_dot hdots]
      refine Checks.single (fun hmet => if_pos ?_) (fun hunmet => if_neg fun hmember => hunmet ?_)
      · simpa [Entity.hasMember, Obligation.Met] using hmet
      · simpa [Entity.hasMember, Obligation.Met] using hmember
  | 1 =>
      rw [Expression.parts_of_one_dot hdots]
      dsimp only
      cases hr : e.relations.get? (.text (String.ofList (i.toList.takeWhile (· != '.')))) with
      | none => exact .unmet (by simp [Obligation.Met, Dict.contains, hr])
      | some r =>
          refine .met (by simp [Obligation.Met, Dict.contains, hr]) ?_
          rw [List.map_eq_flatMap]
          exact Checks.forM (fun t => s.checks_foreign e p _ t) r.targets
  | n + 2 =>
      obtain ⟨a, b, c, rest, hparts⟩ := Expression.parts_of_several_dots hdots
      rw [hparts]
      exact .unmet (fun hmet => hmet)

theorem checks_permission (p : Permission) :
    Checks s ((Expression.words p.expression).flatMap (Obligation.ofIdentifier e p))
      (s.checkPermission e p) := by
  rw [checkPermission, Expression.identifiers_eq_words]
  exact Checks.forM (s.checks_identifier e p) _

theorem checks_entity : Checks s (Obligation.ofEntity e) (s.checkEntity e) :=
  (Checks.forM (s.checks_targets e) _).append (Checks.forM (s.checks_permission e) _)

theorem checks_validate : Checks s s.obligations s.validate :=
  Checks.forM s.checks_entity _

/-- **Validation reports the first obligation that a schema does not meet.** It accepts exactly the
schemas that meet all of them. -/
theorem validate_obligations :
    (s.validate = .ok () ↔ ∀ o ∈ s.obligations, o.Met s) ∧
      (∀ d, s.validate = .error d ↔ ∃ before o after, s.obligations = before ++ o :: after ∧
        (∀ b ∈ before, b.Met s) ∧ ¬ o.Met s ∧ o.dangling = d) ∧
      ∀ o : Obligation, (Failure.dangling o.dangling).report? = some o.report :=
  ⟨s.checks_validate.eq_ok_iff, s.checks_validate.eq_error_iff, Obligation.report_dangling⟩

end Schema

end Rebac
