import Mathlib.Data.List.Forall2

set_option autoImplicit false

/-!
# Computations that may fail

A computation with a result has a result at every step. These lemmas take such a computation apart,
so that no proof has to open a chain of steps. A computation for each item of a list ends at the
first item that fails (`mapM_eq_error_iff`). Where items say by themselves how they are at fault, a
computation that goes through them ends with the fault of the first one (`GoesThrough`).
-/

namespace Rebac

variable {ε ε' α β : Type}

theorem exists_of_isOk {x : Except ε α} (h : x.isOk = true) : ∃ a, x = .ok a := by
  cases x with
  | error e => cases h
  | ok a => exact ⟨a, rfl⟩

/-- A computation with a result has a first step with a result. -/
theorem exists_of_bind_eq_ok {x : Except ε α} {f : α → Except ε β} {b : β}
    (h : (x >>= f) = .ok b) : ∃ a, x = .ok a ∧ f a = .ok b := by
  cases x with
  | error e => cases h
  | ok a => exact ⟨a, rfl, h⟩

/-- A computation that fails although its last step cannot has failed before. -/
theorem eq_error_of_bind_pure {x : Except ε α} {g : α → β} {e : ε}
    (h : (x >>= fun a => pure (g a)) = .error e) : x = .error e := by
  cases x with
  | error e =>
      cases h
      rfl
  | ok a => cases h

/-- A last step that cannot fail has its result exactly if what is before it has one. -/
theorem bind_pure_eq_ok_iff {x : Except ε α} {g : α → β} {b : β} :
    (x >>= fun a => pure (g a)) = .ok b ↔ ∃ a, x = .ok a ∧ g a = b := by
  constructor
  · intro h
    obtain ⟨a, ha, h⟩ := exists_of_bind_eq_ok h
    cases h
    exact ⟨a, ha, rfl⟩
  · rintro ⟨a, rfl, rfl⟩
    rfl

theorem bind_pure_eq_error_iff {x : Except ε α} {g : α → β} {e : ε} :
    (x >>= fun a => pure (g a)) = .error e ↔ x = .error e := by
  refine ⟨eq_error_of_bind_pure, ?_⟩
  rintro rfl
  rfl

/-- A computation that fails has failed in its first step or after it. -/
theorem error_or_ok_of_bind_eq_error {x : Except ε α} {f : α → Except ε β} {e : ε}
    (h : (x >>= f) = .error e) : x = .error e ∨ ∃ a, x = .ok a ∧ f a = .error e := by
  cases x with
  | error e' =>
      cases h
      exact Or.inl rfl
  | ok a => exact Or.inr ⟨a, rfl, h⟩

/-- A renamed failure comes from a failure. -/
theorem exists_of_mapError_eq_error {g : ε → ε'} {x : Except ε α} {e' : ε'}
    (h : x.mapError g = .error e') : ∃ e, x = .error e ∧ g e = e' := by
  cases x with
  | error e =>
      cases h
      exact ⟨e, rfl, rfl⟩
  | ok a => cases h

/-- A computation has the same results however its failures are named. -/
theorem mapError_eq_ok_iff {f : ε → ε'} {x : Except ε α} {a : α} :
    x.mapError f = .ok a ↔ x = .ok a := by
  cases x with
  | error e =>
      constructor
      · intro h
        cases h
      · intro h
        cases h
  | ok b =>
      constructor
      · intro h
        cases h
        rfl
      · intro h
        cases h
        rfl

/-! ## Checks of the items of a list -/

section Checks

variable {check : α → Except ε Unit} {xs : List α}

/-- The items of a list pass a check exactly if each of them does. -/
theorem forM_eq_ok_iff : xs.forM check = .ok () ↔ ∀ x ∈ xs, check x = .ok () := by
  induction xs with
  | nil => exact iff_of_true rfl fun x hx => nomatch hx
  | cons x xs ih =>
      rw [List.forM, List.forall_mem_cons, ← ih]
      cases check x with
      | ok u => exact (and_iff_right rfl).symm
      | error e => exact iff_of_false nofun fun h => nomatch h.1

/-- A check that items fail is failed by one of them. -/
theorem exists_of_forM_eq_error {e : ε} (h : xs.forM check = .error e) :
    ∃ x ∈ xs, check x = .error e := by
  induction xs with
  | nil => cases h
  | cons x xs ih =>
      rw [List.forM] at h
      rcases error_or_ok_of_bind_eq_error h with hx | ⟨u, -, hxs⟩
      · exact ⟨x, List.mem_cons_self, hx⟩
      · obtain ⟨y, hy, hfault⟩ := ih hxs
        exact ⟨y, List.mem_cons_of_mem _ hy, hfault⟩

end Checks

/-! ## One computation for each item of a list -/

section Items

variable {f : α → Except ε β} {xs : List α}

/-- The items of a list have results exactly if each of them has its own. -/
theorem mapM_eq_ok_iff {ys : List β} :
    xs.mapM f = .ok ys ↔ List.Forall₂ (fun x y => f x = .ok y) xs ys := by
  induction xs generalizing ys with
  | nil =>
      rw [List.mapM_nil, List.forall₂_nil_left_iff]
      constructor
      · intro h
        cases h
        rfl
      · rintro rfl
        rfl
  | cons x xs ih =>
      rw [List.mapM_cons, List.forall₂_cons_left_iff]
      constructor
      · intro h
        obtain ⟨y, hy, h⟩ := exists_of_bind_eq_ok h
        obtain ⟨ys', hys, h⟩ := exists_of_bind_eq_ok h
        cases h
        exact ⟨y, ys', hy, ih.1 hys, rfl⟩
      · rintro ⟨y, ys', hy, hys, rfl⟩
        rw [hy, ih.2 hys]
        rfl

/-- What is computed of the results of items is computed of the items. -/
theorem mapM_trans {γ : Type} {g : β → Except ε γ} {ys : List β} {zs : List γ}
    (h : xs.mapM f = .ok ys) (h' : ys.mapM g = .ok zs) : (xs.mapM fun x => f x >>= g) = .ok zs := by
  rw [mapM_eq_ok_iff] at h h' ⊢
  induction h generalizing zs with
  | nil =>
      cases h'
      exact .nil
  | cons hx _ ih =>
      cases h' with
      | cons hy hys => exact .cons (by rw [hx]; exact hy) (ih hys)

/-- In lists that correspond, each item of the first has one in the second. -/
theorem exists_of_mem_left {R : α → β → Prop} {ys : List β} {x : α} (h : List.Forall₂ R xs ys)
    (hx : x ∈ xs) : ∃ y ∈ ys, R x y := by
  induction h with
  | nil => cases hx
  | cons hhead _ ih =>
      rcases List.mem_cons.1 hx with rfl | hx
      · exact ⟨_, List.mem_cons_self, hhead⟩
      · obtain ⟨y, hy, hrel⟩ := ih hx
        exact ⟨y, List.mem_cons_of_mem _ hy, hrel⟩

/-- In lists that correspond, each item of the second has one in the first. -/
theorem exists_of_mem_right {R : α → β → Prop} {ys : List β} {y : β} (h : List.Forall₂ R xs ys)
    (hy : y ∈ ys) : ∃ x ∈ xs, R x y :=
  exists_of_mem_left h.flip hy

/-- If the items of a list have results, each of them has one. -/
theorem exists_of_mem_of_mapM {x : α} {ys : List β} (h : xs.mapM f = .ok ys) (hx : x ∈ xs) :
    ∃ y ∈ ys, f x = .ok y :=
  exists_of_mem_left (mapM_eq_ok_iff.1 h) hx

/-- An item of a list is reached: every item before it has a result. -/
def Reached (f : α → Except ε β) (xs : List α) (x : α) : Prop :=
  ∃ before after, xs = before ++ x :: after ∧ ∀ b ∈ before, ∃ y, f b = .ok y

theorem reached_head (f : α → Except ε β) (x : α) (xs : List α) : Reached f (x :: xs) x :=
  ⟨[], xs, rfl, by simp⟩

/-- An item behind another one is reached through it. -/
theorem Reached.cons {x z : α} {y : β} (hy : f x = .ok y) (h : Reached f xs z) :
    Reached f (x :: xs) z := by
  obtain ⟨before, after, rfl, hbefore⟩ := h
  exact ⟨x :: before, after, rfl, List.forall_mem_cons.2 ⟨⟨y, hy⟩, hbefore⟩⟩

/-- It does not matter what the results are. -/
theorem Reached.imp {γ : Type} {g : α → Except ε' γ} {x : α}
    (hg : ∀ x, (∃ y, f x = .ok y) → ∃ z, g x = .ok z) (h : Reached f xs x) : Reached g xs x := by
  obtain ⟨before, after, hsplit, hbefore⟩ := h
  exact ⟨before, after, hsplit, fun b hb => hg b (hbefore b hb)⟩

/-- The items of a list fail as the first item that fails. -/
theorem mapM_eq_error_iff {e : ε} :
    xs.mapM f = .error e ↔ ∃ x, Reached f xs x ∧ f x = .error e := by
  induction xs with
  | nil =>
      rw [List.mapM_nil]
      constructor
      · intro h
        cases h
      · rintro ⟨x, ⟨before, after, hsplit, -⟩, -⟩
        simp at hsplit
  | cons x xs ih =>
      rw [List.mapM_cons]
      constructor
      · intro h
        rcases error_or_ok_of_bind_eq_error h with hx | ⟨y, hy, h⟩
        · exact ⟨x, reached_head f x xs, hx⟩
        · obtain ⟨z, hz, he⟩ := ih.1 (eq_error_of_bind_pure h)
          exact ⟨z, hz.cons hy, he⟩
      · rintro ⟨z, ⟨before, after, hsplit, hbefore⟩, he⟩
        cases before with
        | nil =>
            cases hsplit
            rw [he]
            rfl
        | cons b before =>
            cases hsplit
            obtain ⟨⟨y, hy⟩, hbefore⟩ := List.forall_mem_cons.1 hbefore
            rw [hy, ih.2 ⟨z, ⟨before, after, rfl, hbefore⟩, he⟩]
            rfl

end Items

/-! ## Computations that look at one item after the other -/

section Faults

variable {ι : Type}

/-- The first item that offends, and how it does. -/
def IsFirstFault (offends : ι → ε → Prop) (is : List ι) (f : ε) : Prop :=
  ∃ before i after, is = before ++ i :: after ∧ (∀ b ∈ before, ∀ g, ¬ offends b g) ∧ offends i f

/-- The first fault of two lists of items in a row is that of the first list, or that of the second
list if no item of the first offends. -/
theorem isFirstFault_append {offends : ι → ε → Prop} {is js : List ι} {f : ε} :
    IsFirstFault offends (is ++ js) f ↔
      IsFirstFault offends is f ∨
        (∀ i ∈ is, ∀ g, ¬ offends i g) ∧ IsFirstFault offends js f := by
  constructor
  · rintro ⟨before, i, after, hsplit, hbefore, hi⟩
    rcases List.append_eq_append_iff.1 hsplit with ⟨ws, rfl, hjs⟩ | ⟨ws, rfl, hafter⟩
    · obtain ⟨his, hws⟩ := List.forall_mem_append.1 hbefore
      exact Or.inr ⟨his, ws, i, after, hjs, hws, hi⟩
    · cases ws with
      | nil =>
          rw [List.append_nil]
          exact Or.inr ⟨hbefore, [], i, after, hafter.symm, by simp, hi⟩
      | cons w ws =>
          cases hafter
          exact Or.inl ⟨before, i, ws, rfl, hbefore, hi⟩
  · rintro (⟨before, i, after, rfl, hbefore, hi⟩ | ⟨his, before, i, after, rfl, hbefore, hi⟩)
    · exact ⟨before, i, after ++ js, by simp, hbefore, hi⟩
    · exact ⟨is ++ before, i, after, by simp, List.forall_mem_append.2 ⟨his, hbefore⟩, hi⟩

/-- A computation goes through items in order: it has a result if no item offends, and otherwise it
ends with the fault of the first one that does. -/
inductive GoesThrough (offends : ι → ε → Prop) : List ι → Except ε α → Prop
  | done (a : α) : GoesThrough offends [] (.ok a)
  | sound {i : ι} {is : List ι} {x : Except ε α} (hi : ∀ g, ¬ offends i g)
      (h : GoesThrough offends is x) : GoesThrough offends (i :: is) x
  | fault {i : ι} {is : List ι} {f : ε} (hi : ∀ g, offends i g ↔ g = f) :
      GoesThrough offends (i :: is) (.error f)

namespace GoesThrough

variable {offends : ι → ε → Prop} {is js : List ι} {x : Except ε α} {f : α → Except ε β}

theorem single {i : ι} (h : ∀ g, x = .error g ↔ offends i g) : GoesThrough offends [i] x := by
  cases x with
  | ok a => exact .sound (fun g hg => nomatch (h g).2 hg) (.done a)
  | error e =>
      refine .fault fun g => ?_
      rw [← h, Except.error.injEq]
      exact eq_comm

/-- What comes after a computation goes through the items that come after its items. -/
theorem bind (h : GoesThrough offends is x)
    (hf : ∀ a, x = .ok a → GoesThrough offends js (f a)) :
    GoesThrough offends (is ++ js) (x >>= f) := by
  induction h with
  | done a => exact hf a rfl
  | sound hi _ ih => exact .sound hi (ih hf)
  | fault hi => exact .fault hi

theorem bind_pure (h : GoesThrough offends is x) (g : α → β) :
    GoesThrough offends is (x >>= fun a => pure (g a)) := by
  rw [← List.append_nil is]
  exact h.bind fun a _ => .done (g a)

/-- Computations for the members of a list go through the items of all of them. -/
theorem mapM {γ : Type} {items : γ → List ι} {f : γ → Except ε α}
    (h : ∀ c, GoesThrough offends (items c) (f c)) (cs : List γ) :
    GoesThrough offends (cs.flatMap items) (cs.mapM f) := by
  induction cs with
  | nil => exact .done []
  | cons c cs ih =>
      rw [List.flatMap_cons, List.mapM_cons]
      exact (h c).bind fun a _ => ih.bind_pure _

/-- Checks of the members of a list go through the items of all of them. -/
theorem forM {γ : Type} {items : γ → List ι} {check : γ → Except ε Unit}
    (h : ∀ c, GoesThrough offends (items c) (check c)) (cs : List γ) :
    GoesThrough offends (cs.flatMap items) (cs.forM check) := by
  induction cs with
  | nil => exact .done ()
  | cons c cs ih =>
      rw [List.flatMap_cons, List.forM]
      exact (h c).bind fun _ _ => ih

/-- There is a result exactly if no item offends. -/
theorem exists_ok_iff (h : GoesThrough offends is x) :
    (∃ a, x = .ok a) ↔ ∀ i ∈ is, ∀ g, ¬ offends i g := by
  induction h with
  | done a => simp
  | sound hi _ ih => rw [ih, List.forall_mem_cons, and_iff_right hi]
  | @fault i is f hi =>
      constructor
      · rintro ⟨a, ⟨⟩⟩
      · intro hnone
        exact absurd ((hi f).2 rfl) (hnone i List.mem_cons_self f)

/-- A fault is that of the first item that offends. -/
theorem eq_error_iff (h : GoesThrough offends is x) (f : ε) :
    x = .error f ↔ IsFirstFault offends is f := by
  induction h with
  | done a => simp [IsFirstFault]
  | @sound i is x hi _ ih =>
      rw [ih]
      constructor
      · rintro ⟨before, j, after, rfl, hbefore, hj⟩
        exact ⟨i :: before, j, after, rfl, List.forall_mem_cons.2 ⟨hi, hbefore⟩, hj⟩
      · rintro ⟨before, j, after, his, hbefore, hj⟩
        cases before with
        | nil =>
            cases his
            exact absurd hj (hi f)
        | cons b before =>
            cases his
            exact ⟨before, j, after, rfl, (List.forall_mem_cons.1 hbefore).2, hj⟩
  | @fault i is e hi =>
      constructor
      · intro h
        cases h
        exact ⟨[], i, is, rfl, by simp, (hi _).2 rfl⟩
      · rintro ⟨before, j, after, his, hbefore, hj⟩
        cases before with
        | nil =>
            cases his
            rw [(hi f).1 hj]
        | cons b before =>
            cases his
            exact absurd ((hi e).2 rfl) ((List.forall_mem_cons.1 hbefore).1 e)

end GoesThrough

end Faults

end Rebac
