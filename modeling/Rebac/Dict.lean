import Rebac.Key

set_option autoImplicit false

/-!
# Mappings in the order of declaration

A mapping is a list of entries in which no key is the same as an earlier one. Putting an entry under
a key that is already there replaces its value and keeps the place and the spelling of the first
key; any other entry goes to the end.

Main statements: putting an entry keeps the keys distinct (`Entries.Distinct.put`), and building a
mapping from entries without repeated keys keeps them as they are (`Dict.entries_ofEntries`).
-/

namespace Rebac

/-- Entries of a mapping in order. -/
abbrev Entries (α : Type) := List (Key × α)

namespace Entries

variable {α : Type}

/-- The value of the first entry with the given key. -/
def get? (es : Entries α) (k : Key) : Option α :=
  (es.find? (fun e => e.1.same k)).map (·.2)

/-- Puts a value under a key. -/
def put (k : Key) (v : α) : Entries α → Entries α
  | [] => [(k, v)]
  | e :: rest => if e.1.same k then (e.1, v) :: rest else e :: put k v rest

/-- Entries with distinct keys, a later value winning over an earlier one. -/
def dedupe (es : Entries α) : Entries α := es.foldl (fun acc e => put e.1 e.2 acc) []

/-- No key is the same as an earlier one. -/
def Distinct (es : Entries α) : Prop := es.Pairwise (fun e f => e.1.same f.1 = false)

theorem distinct_nil : Distinct ([] : Entries α) := List.Pairwise.nil

/-- Putting a value adds no key but the one it is put under. -/
theorem mem_keys_put {k : Key} {v : α} {es : Entries α} {f : Key × α} (h : f ∈ put k v es) :
    f.1 ∈ es.map (·.1) ∨ f.1 = k := by
  induction es with
  | nil =>
      rw [put, List.mem_singleton] at h
      exact Or.inr (by rw [h])
  | cons e rest ih =>
      rw [put] at h
      split at h
      · rcases List.mem_cons.1 h with rfl | h
        · exact Or.inl (List.mem_cons_self ..)
        · exact Or.inl (List.mem_cons_of_mem _ (List.mem_map_of_mem h))
      · rcases List.mem_cons.1 h with rfl | h
        · exact Or.inl (List.mem_cons_self ..)
        · exact (ih h).imp (List.mem_cons_of_mem _) id

theorem Distinct.put {es : Entries α} (h : Distinct es) (k : Key) (v : α) :
    Distinct (Entries.put k v es) := by
  induction es with
  | nil => exact List.pairwise_singleton _ _
  | cons e rest ih =>
      obtain ⟨he, hr⟩ := List.pairwise_cons.1 h
      rw [Entries.put]
      split
      · exact List.pairwise_cons.2 ⟨he, hr⟩
      · rename_i hk
        refine List.pairwise_cons.2 ⟨fun f hf => ?_, ih hr⟩
        rcases mem_keys_put hf with hm | hm
        · obtain ⟨g, hg, hgf⟩ := List.mem_map.1 hm
          rw [← hgf]
          exact he g hg
        · rw [hm]
          exact Bool.eq_false_iff.2 hk

theorem distinct_foldl_put (es acc : Entries α) (h : Distinct acc) :
    Distinct (es.foldl (fun acc e => Entries.put e.1 e.2 acc) acc) := by
  induction es generalizing acc with
  | nil => exact h
  | cons e rest ih => exact ih _ (h.put e.1 e.2)

theorem distinct_dedupe (es : Entries α) : Distinct (dedupe es) :=
  distinct_foldl_put es [] distinct_nil

/-- A value that is put under a new key stands at the end. -/
theorem put_of_forall {k : Key} {v : α} {es : Entries α} (h : ∀ e ∈ es, e.1.same k = false) :
    put k v es = es ++ [(k, v)] := by
  induction es with
  | nil => rfl
  | cons e rest ih =>
      rw [put, if_neg (Bool.eq_false_iff.1 (h e (List.mem_cons_self ..))),
        ih (fun f hf => h f (List.mem_cons_of_mem _ hf)), List.cons_append]

theorem foldl_put_of_distinct (es acc : Entries α) (h : Distinct (acc ++ es)) :
    es.foldl (fun acc e => put e.1 e.2 acc) acc = acc ++ es := by
  induction es generalizing acc with
  | nil => simp
  | cons e rest ih =>
      have hnew : ∀ f ∈ acc, f.1.same e.1 = false := fun f hf =>
        (List.pairwise_append.1 h).2.2 f hf e (List.mem_cons_self ..)
      simp only [List.foldl_cons, put_of_forall hnew]
      rw [ih _ (by simpa using h)]
      simp

/-- Entries whose keys are distinct already stay as they are. -/
theorem dedupe_of_distinct {es : Entries α} (h : Distinct es) : dedupe es = es := by
  simpa [dedupe] using foldl_put_of_distinct es [] (by simpa using h)

end Entries

/-- A mapping: entries in order, no two under the same key. -/
structure Dict (α : Type) where
  entries : Entries α
  distinct : Entries.Distinct entries

namespace Dict

variable {α : Type}

/-- The mapping without entries. -/
def empty : Dict α := ⟨[], Entries.distinct_nil⟩

instance : Inhabited (Dict α) := ⟨empty⟩

/-- The mapping of the given entries, a later value winning over an earlier one. -/
def ofEntries (es : Entries α) : Dict α := ⟨Entries.dedupe es, Entries.distinct_dedupe es⟩

/-- The keys in order. -/
def keys (d : Dict α) : List Key := d.entries.map (·.1)

/-- The values in order. -/
def values (d : Dict α) : List α := d.entries.map (·.2)

/-- The number of entries. -/
def size (d : Dict α) : Nat := d.entries.length

/-- Whether there are no entries. -/
def isEmpty (d : Dict α) : Bool := d.entries.isEmpty

/-- The value under a key. -/
def get? (d : Dict α) (k : Key) : Option α := Entries.get? d.entries k

/-- Whether a key is there. -/
def contains (d : Dict α) (k : Key) : Bool := (d.get? k).isSome

/-- Two mappings with the same keys and, under each key, equal values; the order does not matter. -/
def sameAs (eq : α → α → Bool) (a b : Dict α) : Bool :=
  a.size == b.size &&
    a.entries.all (fun e => match b.get? e.1 with
      | some v => eq e.2 v
      | none => false)

theorem entries_ofEntries {es : Entries α} (h : Entries.Distinct es) :
    (ofEntries es).entries = es := Entries.dedupe_of_distinct h

end Dict

end Rebac
