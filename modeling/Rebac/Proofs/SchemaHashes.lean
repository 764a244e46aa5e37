import Mathlib.Data.List.Nodup
import Mathlib.Data.List.Perm.Subperm
import Rebac.Proofs.Computations
import Rebac.Schema.Basic

set_option autoImplicit false

/-!
# Hashes of equal schemas

Schemas are compared by content, whatever the order of their entities, but the hash of a schema is
made of the keys of its entities in order. So equal schemas have the same keys in their hashes, and
the same hash exactly if they list equal entities in the same order (`hashes_of_equal`); two schemas
that differ in the order of two entities are equal and have different hashes
(`reordered_hash_differs`). The hash of an entity is made of its name alone, which equal entities
share.
-/

namespace Rebac

/-! ## Keys that are the same -/

theorem Atom.isSettled_canonical (a : Atom) : a.canonical.isSettled = a.isSettled := by
  rw [canonical]
  cases h : a.integer? with
  | none => rfl
  | some i =>
      -- What denotes an integer is not the number that is no number.
      cases a with
      | float x =>
          have hx : x ≠ .nan := by
            rintro rfl
            cases h
          simp [isSettled, hx]
      | _ => rfl

namespace Key

mutual

/-- A key is the same as itself exactly if its representative is. -/
theorem isSettled_canonical : ∀ k : Key, k.canonical.isSettled = k.isSettled
  | .atom a => by
      rw [canonical, isSettled, isSettled, a.isSettled_canonical]
  | .node shape parts => by
      rw [canonical, isSettled, isSettled, areSettled_canonicalParts parts]

theorem areSettled_canonicalParts : ∀ ks : List Key, areSettled (canonicalParts ks) = areSettled ks
  | [] => rfl
  | k :: ks => by
      rw [canonicalParts, areSettled, areSettled, isSettled_canonical k,
        areSettled_canonicalParts ks]

end

theorem same_comm (k l : Key) : k.same l = l.same k := by
  rw [Bool.eq_iff_iff, same_iff, same_iff]
  constructor
  · rintro ⟨hsettled, hcanonical⟩
    rw [← isSettled_canonical, ← hcanonical, isSettled_canonical]
    exact ⟨hsettled, rfl⟩
  · rintro ⟨hsettled, hcanonical⟩
    rw [← isSettled_canonical, ← hcanonical, isSettled_canonical]
    exact ⟨hsettled, rfl⟩

end Key

/-! ## Mappings with the same content -/

namespace Dict

variable {α : Type} {eq : α → α → Bool} {a b : Dict α}

/-- The representatives of the keys of a mapping, in order. -/
def canonicalKeys (d : Dict α) : List Key := d.entries.map fun e => e.1.canonical

theorem keys_map_canonical (d : Dict α) : d.keys.map Key.canonical = d.canonicalKeys := by
  rw [keys, List.map_map]
  rfl

/-- Each entry of a mapping has one under the same key and of equal value in an equal mapping. -/
theorem exists_of_sameAs (h : a.sameAs eq b = true) {e : Key × α} (he : e ∈ a.entries) :
    ∃ f ∈ b.entries, f.1.same e.1 = true ∧ eq e.2 f.2 = true := by
  rw [sameAs, Bool.and_eq_true, List.all_eq_true] at h
  have hfound := h.2 e he
  cases hget : b.get? e.1 with
  | none => simp [hget] at hfound
  | some v =>
      rw [hget] at hfound
      obtain ⟨f, hf, rfl⟩ := Option.map_eq_some_iff.1 hget
      exact ⟨f, List.mem_of_find?_eq_some hf, by simpa using List.find?_some hf, hfound⟩

theorem length_eq_of_sameAs (h : a.sameAs eq b = true) : a.entries.length = b.entries.length := by
  rw [sameAs, Bool.and_eq_true, beq_iff_eq] at h
  exact h.1

/-- In a mapping that is equal to one, every key is the same as itself. -/
theorem isSettled_of_sameAs (h : a.sameAs eq b = true) {e : Key × α} (he : e ∈ a.entries) :
    e.1.isSettled = true := by
  obtain ⟨f, -, hsame, -⟩ := exists_of_sameAs h he
  rw [Key.same_comm, Key.same_iff] at hsame
  exact hsame.1

/-- No two keys of a mapping have the same representative if each is the same as itself. -/
theorem nodup_canonicalKeys (hsettled : ∀ e ∈ a.entries, e.1.isSettled = true) :
    a.canonicalKeys.Nodup := by
  rw [canonicalKeys, List.Nodup, List.pairwise_map]
  refine a.distinct.imp_of_mem fun {e f} he _ hdistinct hcanonical => ?_
  have hsame : e.1.same f.1 = true := Key.same_iff.2 ⟨hsettled e he, hcanonical⟩
  rw [hdistinct] at hsame
  cases hsame

/-- **Equal mappings have the same keys**, in some order. -/
theorem canonicalKeys_perm (h : a.sameAs eq b = true) : a.canonicalKeys.Perm b.canonicalKeys := by
  have hsub : a.canonicalKeys ⊆ b.canonicalKeys := by
    intro k hk
    obtain ⟨e, he, rfl⟩ := List.mem_map.1 hk
    obtain ⟨f, hf, hsame, -⟩ := exists_of_sameAs h he
    exact List.mem_map.2 ⟨f, hf, (Key.same_iff.1 hsame).2⟩
  have hnodup := nodup_canonicalKeys fun e he => isSettled_of_sameAs h he
  refine (hnodup.subperm hsub).perm_of_length_le ?_
  simp [canonicalKeys, length_eq_of_sameAs h]

/-- Entries of two mappings are alike if their keys are the same and their values are equal. -/
def EntryAlike (eq : α → α → Bool) (e f : Key × α) : Prop :=
  e.1.same f.1 = true ∧ eq e.2 f.2 = true

/-- **Equal mappings list their keys in the same order exactly if they list alike entries in the
same order.** -/
theorem canonicalKeys_eq_iff (h : a.sameAs eq b = true) :
    a.canonicalKeys = b.canonicalKeys ↔ List.Forall₂ (EntryAlike eq) a.entries b.entries := by
  have hkeys : a.canonicalKeys = b.canonicalKeys ↔
      List.Forall₂ (fun e f => e.1.canonical = f.1.canonical) a.entries b.entries := by
    rw [← List.forall₂_eq_eq_eq]
    simp [canonicalKeys]
  rw [hkeys]
  constructor
  · intro hsameOrder
    have hnodup : b.canonicalKeys.Nodup :=
      (canonicalKeys_perm h).nodup_iff.1 (nodup_canonicalKeys fun e he => isSettled_of_sameAs h he)
    rw [List.forall₂_iff_get] at hsameOrder ⊢
    refine ⟨hsameOrder.1, fun i hi hi' => ?_⟩
    -- The entry that equality finds has the key of the entry at the same place, so it is that one.
    obtain ⟨f, hf, hsame, heq⟩ := exists_of_sameAs h (List.get_mem a.entries ⟨i, hi⟩)
    have hplace : f = b.entries.get ⟨i, hi'⟩ :=
      List.inj_on_of_nodup_map hnodup hf (List.get_mem b.entries ⟨i, hi'⟩)
        ((Key.same_iff.1 hsame).2.trans (hsameOrder.2 i hi hi'))
    rw [← hplace]
    exact ⟨by rw [Key.same_comm, hsame], heq⟩
  · intro halike
    exact halike.imp fun e f hef => (Key.same_iff.1 hef.1).2

end Dict

/-! ## Hashes -/

/-- Equal entities have the same name, and their hashes are made of it. -/
theorem Entity.hashView_eq_of_sameAs {e f : Entity} (h : e.sameAs f = true) :
    e.hashView = f.hashView := by
  simp only [sameAs, Bool.and_eq_true] at h
  exact (Key.same_iff.1 h.1.1.1).2

namespace Schema

theorem hashView_eq (s : Schema) : s.hashView = s.entities.canonicalKeys :=
  s.entities.keys_map_canonical

/-- **The hashes of what is equal.** Equal entities have the same hash. The hashes of equal schemas
are made of the same keys, and they are the same exactly if the schemas list equal entities in the
same order. -/
theorem hashes_of_equal (e f : Entity) (a b : Schema) :
    (e.sameAs f = true → e.hashView = f.hashView) ∧
    (a.sameAs b = true →
      a.hashView.Perm b.hashView ∧
      (a.hashView = b.hashView ↔
        List.Forall₂ (Dict.EntryAlike Entity.sameAs) a.entities.entries b.entities.entries)) := by
  refine ⟨fun h => Entity.hashView_eq_of_sameAs h, fun h => ?_⟩
  rw [hashView_eq, hashView_eq]
  exact ⟨Dict.canonicalKeys_perm h, Dict.canonicalKeys_eq_iff h⟩

/-- A relation to users. -/
def toUser (name : String) : Key × Relation :=
  (.text name, { name := .text name, targets := ["user"] })

/-- A document with an owner and a viewer. -/
def ownerFirst : Entity where
  name := .text "document"
  relations := .ofEntries [toUser "owner", toUser "viewer"]

/-- The same document with its relations in another order. -/
def viewerFirst : Entity where
  name := .text "document"
  relations := .ofEntries [toUser "viewer", toUser "owner"]

/-- A schema of entities under their names. -/
def ofList (es : List Entity) : Schema := ⟨.ofEntries (es.map fun e => (e.name, e))⟩

/-- A schema of users and one more entity. -/
def withUsers (e : Entity) : Schema := ofList [{ name := .text "user" }, e]

/-- The order inside entities is of no concern to the hash of a schema. -/
theorem documents_same_hash :
    ownerFirst.sameAs viewerFirst = true ∧
    ownerFirst.hashView = viewerFirst.hashView ∧
    (withUsers ownerFirst).sameAs (withUsers viewerFirst) = true ∧
    (withUsers ownerFirst).hashView = (withUsers viewerFirst).hashView := by
  have hdocument : ownerFirst.sameAs viewerFirst = true := by decide
  have hschema : (withUsers ownerFirst).sameAs (withUsers viewerFirst) = true := by decide
  obtain ⟨hentities, hschemas⟩ := hashes_of_equal ownerFirst viewerFirst
    (withUsers ownerFirst) (withUsers viewerFirst)
  refine ⟨hdocument, hentities hdocument, hschema, (hschemas hschema).2.2 ?_⟩
  exact .cons ⟨by decide, by decide⟩ (.cons ⟨by decide, hdocument⟩ .nil)

/-- **Equal schemas may have different hashes.** The same two entities in another order make an
equal schema with another hash. -/
theorem reordered_hash_differs :
    (ofList [{ name := .text "user" }, { name := .text "team" }]).sameAs
      (ofList [{ name := .text "team" }, { name := .text "user" }]) = true ∧
    (ofList [{ name := .text "user" }, { name := .text "team" }]).hashView ≠
      (ofList [{ name := .text "team" }, { name := .text "user" }]).hashView := by
  decide

end Schema

end Rebac
