import Rebac.Dict

set_option autoImplicit false

/-!
# The entries of mappings

A mapping keeps the entries that it is made of, though one may be kept under the spelling of a key
that was there before (`Entries.mem_dedupe`). The keys that a program looks up are texts, and a text
is the same key as no other key (`Key.eq_text_of_same`), so each entry under a text is found if no
key is there twice (`Entries.get?_text_of_mem`).
-/

namespace Rebac

namespace Key

variable {k : Key} {s : String}

/-- A text represents no key but itself. -/
theorem eq_text_of_canonical (h : k.canonical = .text s) : k = .text s := by
  cases k with
  | node shape parts =>
      rw [canonical] at h
      cases h
  | atom a =>
      rw [canonical, Atom.canonical] at h
      -- Only what denotes an integer has another representative than itself.
      cases ha : a.integer? with
      | some i =>
          rw [ha] at h
          cases h
      | none =>
          rw [ha] at h
          exact h

/-- A key that is the same as a text is that text. -/
theorem eq_text_of_same (h : k.same (.text s) = true) : k = .text s := by
  obtain ⟨-, hcanonical⟩ := same_iff.1 h
  rw [canonical_text] at hcanonical
  exact eq_text_of_canonical hcanonical

/-- A text is the same as no key but itself. -/
theorem eq_text_of_text_same (h : (Key.text s).same k = true) : k = .text s := by
  obtain ⟨-, hcanonical⟩ := same_iff.1 h
  rw [canonical_text] at hcanonical
  exact eq_text_of_canonical hcanonical.symm

/-- What is put under the second key may be kept under the first: the keys are written alike, or
the first is the same key and was there before. -/
def Keeps (k k' : Key) : Prop := k = k' ∨ k.same k' = true

/-- What is put under a text is kept under that text. -/
theorem Keeps.eq_text (h : k.Keeps (.text s)) : k = .text s := by
  rcases h with h | h
  · exact h
  · exact eq_text_of_same h

end Key

namespace Entries

variable {α : Type} {es : Entries α} {s : String} {v : α}

/-! ## Entries that are put one by one -/

/-- Putting a value adds no entry but the one that keeps it. -/
theorem mem_put {k : Key} {f : Key × α} (h : f ∈ put k v es) :
    f ∈ es ∨ f.2 = v ∧ f.1.Keeps k := by
  induction es with
  | nil =>
      rw [put, List.mem_singleton] at h
      rw [h]
      exact Or.inr ⟨rfl, Or.inl rfl⟩
  | cons e rest ih =>
      rw [put] at h
      split at h
      · rename_i hsame
        rcases List.mem_cons.1 h with rfl | h
        · exact Or.inr ⟨rfl, Or.inr hsame⟩
        · exact Or.inl (List.mem_cons_of_mem _ h)
      · rcases List.mem_cons.1 h with rfl | h
        · exact Or.inl List.mem_cons_self
        · exact (ih h).imp_left (List.mem_cons_of_mem _)

/-- Every entry of a mapping keeps one of the entries that it is made of. -/
theorem mem_dedupe {f : Key × α} (h : f ∈ dedupe es) : ∃ e ∈ es, f.2 = e.2 ∧ f.1.Keeps e.1 := by
  have hfoldl : ∀ (es acc : Entries α), f ∈ es.foldl (fun acc e => put e.1 e.2 acc) acc →
      f ∈ acc ∨ ∃ e ∈ es, f.2 = e.2 ∧ f.1.Keeps e.1 := by
    intro es
    induction es with
    | nil => exact fun acc h => Or.inl h
    | cons e rest ih =>
        intro acc h
        rcases ih _ h with h | ⟨g, hg, hkept⟩
        · exact (mem_put h).imp_right fun hkept => ⟨e, List.mem_cons_self, hkept⟩
        · exact Or.inr ⟨g, List.mem_cons_of_mem _ hg, hkept⟩
  exact (hfoldl es [] h).resolve_left List.not_mem_nil

/-! ## Entries under texts -/

/-- An entry under a text is found if no key is there twice. -/
theorem get?_text_of_mem (hd : Distinct es) (h : (Key.text s, v) ∈ es) :
    get? es (.text s) = some v := by
  induction es with
  | nil => cases h
  | cons e rest ih =>
      obtain ⟨hfirst, hrest⟩ := List.pairwise_cons.1 hd
      rcases List.mem_cons.1 h with rfl | h
      · simp [get?]
      · have hne : e.1.same (.text s) = false := hfirst _ h
        rw [get?, List.find?_cons_of_neg (by simp [hne])]
        exact ih hrest h

/-- What is found under a text after a value has been put. -/
theorem get?_text_put (k : Key) : get? (put k v es) (.text s) =
    if k = .text s then some v else get? es (.text s) := by
  induction es with
  | nil =>
      by_cases hk : k = .text s
      · simp [put, get?, hk]
      · have hother : k.same (.text s) = false :=
          Bool.eq_false_iff.2 fun hsame => hk (Key.eq_text_of_same hsame)
        simp [put, get?, hk, hother]
  | cons e rest ih =>
      rw [put]
      by_cases hsame : e.1.same k = true
      · rw [if_pos hsame]
        by_cases hk : k = .text s
        · subst hk
          simp [get?, hsame]
        · have hother : e.1.same (.text s) = false := by
            refine Bool.eq_false_iff.2 fun hfound => hk ?_
            rw [Key.eq_text_of_same hfound] at hsame
            exact Key.eq_text_of_text_same hsame
          simp [get?, hk, hother]
      · rw [if_neg hsame]
        by_cases hfound : e.1.same (.text s) = true
        · have hk : k ≠ .text s := by
            rintro rfl
            exact hsame hfound
          simp [get?, hk, hfound]
        · have hput : ∀ fs : Entries α, get? (e :: fs) (.text s) = get? fs (.text s) := by
            intro fs
            rw [get?, List.find?_cons_of_neg (by simpa using hfound)]
            rfl
          rw [hput, hput, ih]

/-- **What is found under a text after several values have been put:** one of them, or else what was
there before. -/
theorem get?_text_foldl_put (hd : Distinct es) (acc : Entries α) :
    get? (es.foldl (fun acc e => put e.1 e.2 acc) acc) (.text s) =
      (get? es (.text s)).or (get? acc (.text s)) := by
  induction es generalizing acc with
  | nil => rfl
  | cons e rest ih =>
      obtain ⟨hfirst, hrest⟩ := List.pairwise_cons.1 hd
      rw [List.foldl_cons, ih hrest, get?_text_put]
      by_cases he : e.1 = .text s
      · have hnone : get? rest (.text s) = none := by
          rw [get?, List.find?_eq_none.2, Option.map_none]
          intro f hf hfound
          have hkey := hfirst f hf
          rw [Key.eq_text_of_same hfound, he] at hkey
          simp at hkey
        have hfound : get? (e :: rest) (.text s) = some e.2 := by simp [get?, he]
        rw [hnone, hfound, Option.none_or, if_pos he, Option.some_or]
      · have hother : e.1.same (.text s) = false :=
          Bool.eq_false_iff.2 fun hsame => he (Key.eq_text_of_same hsame)
        simp [he, get?, hother]

/-- The entries of a mapping with texts as keys. -/
def named (fs : List (String × α)) : Entries α := fs.map fun f => (.text f.1, f.2)

/-- What is found among entries under texts is found under one of these texts. -/
theorem exists_of_get?_named {fs : List (String × α)} {k : Key} (h : get? (named fs) k = some v) :
    ∃ f ∈ fs, k = .text f.1 := by
  obtain ⟨e, he, -⟩ := Option.map_eq_some_iff.1 h
  obtain ⟨f, hf, rfl⟩ := List.mem_map.1 (List.mem_of_find?_eq_some he)
  exact ⟨f, hf, Key.eq_text_of_text_same (by simpa using List.find?_some he)⟩

theorem get?_named_cons (f : String × α) (fs : List (String × α)) :
    get? (named (f :: fs)) (.text s) = if f.1 = s then some f.2 else get? (named fs) (.text s) := by
  rw [named, List.map_cons, get?, List.find?_cons, Key.same_text_text]
  by_cases hf : f.1 = s
  · simp [hf]
  · rw [beq_false_of_ne hf, if_neg hf]
    rfl

/-- Entries under other texts are passed over. -/
theorem get?_named_append {fs gs : List (String × α)} (h : ∀ f ∈ fs, f.1 ≠ s) :
    get? (named (fs ++ gs)) (.text s) = get? (named gs) (.text s) := by
  induction fs with
  | nil => rfl
  | cons f fs ih =>
      obtain ⟨hf, hfs⟩ := List.forall_mem_cons.1 h
      rw [List.cons_append, get?_named_cons, if_neg hf, ih hfs]

end Entries

namespace Dict

variable {α : Type}

/-- A mapping is made of its own entries. -/
theorem ofEntries_entries (d : Dict α) : Dict.ofEntries d.entries = d := by
  obtain ⟨es, hd⟩ := d
  rw [ofEntries, mk.injEq]
  exact Entries.dedupe_of_distinct hd

/-- What is found under a text is an entry under that text. -/
theorem get?_text_eq_some_iff {d : Dict α} {s : String} {x : α} :
    d.get? (.text s) = some x ↔ (Key.text s, x) ∈ d.entries := by
  constructor
  · intro h
    obtain ⟨⟨k, y⟩, hfound, rfl⟩ := Option.map_eq_some_iff.1 h
    have hkey : k = .text s := Key.eq_text_of_same (by simpa using List.find?_some hfound)
    exact hkey ▸ List.mem_of_find?_eq_some hfound
  · intro h
    exact Entries.get?_text_of_mem d.distinct h

end Dict

end Rebac
