import Rebac.Proofs.SchemaText

set_option autoImplicit false

/-!
# Schemas behind one another

A schema can be put behind another one that has no key in common with it. The text of both is then
the text of the first, an empty line, and the text of the second (`Schema.compile_compositional`).
This needs that no block interacts with what stands behind it: every block ends in a brace, so white
space in names, targets and expressions, also at their ends, is never at the end of the text, and
nothing is trimmed there.
-/

namespace Rebac

namespace Dict

variable {α : Type} {a b : Dict α}

/-- No key of one mapping is the same as a key of another one. -/
def Disjoint (a b : Dict α) : Prop := ∀ e ∈ a.entries, ∀ f ∈ b.entries, e.1.same f.1 = false

/-- The entries of a mapping and behind them those of another one, whose values win. -/
def append (a b : Dict α) : Dict α := ofEntries (a.entries ++ b.entries)

/-- Entries with other keys are all kept, in order. -/
theorem entries_append (h : a.Disjoint b) : (a.append b).entries = a.entries ++ b.entries :=
  entries_ofEntries (List.pairwise_append.2 ⟨a.distinct, b.distinct, h⟩)

theorem values_append (h : a.Disjoint b) : (a.append b).values = a.values ++ b.values := by
  rw [values, entries_append h, List.map_append]
  rfl

end Dict

namespace Schema

variable {a b : Schema}

/-- A schema with the entities of another one behind its own. -/
def append (a b : Schema) : Schema := ⟨a.entities.append b.entities⟩

/-- The blocks of a schema with empty lines between them, before anything is trimmed. -/
def joinedBlocks (s : Schema) : String :=
  "\n\n".intercalate (s.entities.values.map Entity.block)

/-- Trimming the end of the blocks removes nothing. -/
theorem trimEnd_joinedBlocks (s : Schema) :
    Text.trimEnd s.joinedBlocks.toList = s.joinedBlocks.toList := by
  rw [joinedBlocks, intercalate_block, trimEnd_lines]

theorem compile_eq_joinedBlocks (s : Schema) : s.compile = s.joinedBlocks := by
  rw [compile, ← joinedBlocks, trimEnd_joinedBlocks, String.ofList_toList]

/-- The blocks of two schemas are joined as the schemas are. -/
theorem joinedBlocks_append (h : a.entities.Disjoint b.entities) (ha : a.entities.values ≠ [])
    (hb : b.entities.values ≠ []) :
    (a.append b).joinedBlocks = a.joinedBlocks ++ "\n\n" ++ b.joinedBlocks := by
  rw [joinedBlocks, append, Dict.values_append h, List.map_append]
  exact String.intercalate_append_of_ne_nil (by simpa using ha) (by simpa using hb)

/-- A schema has a text exactly if it has entities. -/
theorem compile_eq_empty_iff (s : Schema) : s.compile = "" ↔ s.entities.values = [] := by
  constructor
  · intro hempty
    by_cases hne : s.entities.values = []
    · exact hne
    · obtain ⟨text, htext⟩ := exists_lines_eq_brace hne
      rw [← compile_eq_intercalate, hempty] at htext
      simp at htext
  · intro hnone
    rw [compile_eq_joinedBlocks, joinedBlocks, hnone]
    rfl

/-- **Schemas are compiled one behind the other.** The text of two schemas with entities of
different keys is that of the first, an empty line, and that of the second. No white space is ever
trimmed from the end of a text, whatever the names, targets, types and expressions are. A text is
empty exactly if the schema has no entities. -/
theorem compile_compositional :
    (∀ a b : Schema, a.entities.values ≠ [] → b.entities.values ≠ [] →
      a.entities.Disjoint b.entities →
        (a.append b).compile = a.compile ++ "\n\n" ++ b.compile) ∧
    (∀ s : Schema, Text.trimEnd s.joinedBlocks.toList = s.joinedBlocks.toList ∧
      s.compile = s.joinedBlocks) ∧
    ∀ s : Schema, s.compile = "" ↔ s.entities.values = [] := by
  refine ⟨fun a b ha hb h => ?_, fun s => ⟨trimEnd_joinedBlocks s, compile_eq_joinedBlocks s⟩,
    compile_eq_empty_iff⟩
  simp only [compile_eq_joinedBlocks]
  exact joinedBlocks_append h ha hb

/-- An entity whose permission has white space at its end. -/
def blankEnded : Schema where
  entities := Dict.ofEntries [(.text "team", {
    name := .text "team \t"
    permissions := Dict.ofEntries [(.text "view", ⟨.text "view", "member \n\u2003"⟩)] })]

/-- An entity whose name is white space. -/
def blankNamed : Schema where
  entities := Dict.ofEntries [(.text "user", { name := .text "\n\n" })]

/-- White space at the end of an expression and in a name is kept where two schemas meet. -/
theorem blankEnded_append_blankNamed :
    (blankEnded.entities.values ≠ [] ∧ blankNamed.entities.values ≠ [] ∧
      blankEnded.entities.Disjoint blankNamed.entities) ∧
    (blankEnded.append blankNamed).compile =
      "entity team \t \x7b\n    permission view = member \n\u2003\n\x7d" ++ "\n\n" ++
        "entity \n\n \x7b\n\x7d" := by
  have hended : blankEnded.entities.values ≠ [] := List.cons_ne_nil _ _
  have hnamed : blankNamed.entities.values ≠ [] := List.cons_ne_nil _ _
  have hkeys : blankEnded.entities.Disjoint blankNamed.entities := by
    intro e he f hf
    cases List.mem_singleton.1 he
    cases List.mem_singleton.1 hf
    rfl
  refine ⟨⟨hended, hnamed, hkeys⟩, ?_⟩
  rw [compile_compositional.1 _ _ hended hnamed hkeys]
  rfl

end Schema

end Rebac
