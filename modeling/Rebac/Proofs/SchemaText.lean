import Rebac.Schema.Basic

set_option autoImplicit false

/-!
# The lines of a schema

The text of a schema is the join of its lines: those of its blocks, with an empty line between two
blocks (`Schema.compile_eq_intercalate`). Nothing is trimmed from its end, since the last line of
every block is a brace. If no line holds a line break, splitting the text gives the lines back
(`Schema.splitOn_compile`).
-/

namespace Rebac

namespace Text

/-- Trimming keeps what stands before a character that is not blank. -/
theorem trimEnd_concat {c : Char} (s : List Char) (h : isBlank c = false) :
    trimEnd (s ++ [c]) = s ++ [c] := by
  rw [trimEnd, List.reverse_append, List.reverse_singleton, List.singleton_append,
    List.dropWhile_cons_of_neg (by simp [h]), List.reverse_cons, List.reverse_reverse]

/-! ## Joins of joins -/

theorem intercalate_cons_ne_nil {sep b : List String} (rest : List (List String)) (h : b ≠ []) :
    sep.intercalate (b :: rest) ≠ [] := by
  obtain ⟨l, ls, rfl⟩ := List.exists_cons_of_ne_nil h
  rw [List.intercalate_cons_cons_left]
  exact List.cons_ne_nil _ _

/-- What is in a join is in the separator or in one of the parts. -/
theorem mem_or_exists_of_mem_intercalate {α : Type} {sep : List α} {parts : List (List α)} {x : α}
    (h : x ∈ sep.intercalate parts) : x ∈ sep ∨ ∃ p ∈ parts, x ∈ p := by
  induction parts with
  | nil => simp at h
  | cons p rest ih =>
      cases rest with
      | nil => exact Or.inr ⟨p, List.mem_cons_self, by simpa using h⟩
      | cons q others =>
          rw [List.intercalate_cons_of_ne_nil (List.cons_ne_nil _ _), List.mem_append,
            List.mem_append] at h
          rcases h with (h | h) | h
          · exact Or.inr ⟨p, List.mem_cons_self, h⟩
          · exact Or.inl h
          · exact (ih h).imp_right fun ⟨r, hr, hx⟩ => ⟨r, List.mem_cons_of_mem _ hr, hx⟩

/-- A function can be applied to the parts of a join. -/
theorem map_intercalate {α β : Type} (f : α → β) (sep : List α) (parts : List (List α)) :
    (sep.intercalate parts).map f = (sep.map f).intercalate (parts.map (List.map f)) := by
  induction parts with
  | nil => simp
  | cons p rest ih =>
      cases rest with
      | nil => simp
      | cons q others => simp only [List.intercalate_cons_cons, List.map_append, List.map_cons, ih]

/-- Joining what is joined already is joining everything, if the outer separator is made of the
inner one. -/
theorem intercalate_map_intercalate (sep mid : String) (blocks : List (List String))
    (h : ∀ b ∈ blocks, b ≠ []) :
    (sep ++ mid ++ sep).intercalate (blocks.map sep.intercalate) =
      sep.intercalate ([mid].intercalate blocks) := by
  induction blocks with
  | nil => simp
  | cons b rest ih =>
      obtain ⟨hb, hrest⟩ := List.forall_mem_cons.1 h
      cases rest with
      | nil => simp
      | cons c others =>
          have hc : [mid].intercalate (c :: others) ≠ [] :=
            intercalate_cons_ne_nil others (hrest c (List.mem_cons_self ..))
          rw [List.map_cons, String.intercalate_cons_of_ne_nil (by simp), ih hrest,
            List.intercalate_cons_of_ne_nil (List.cons_ne_nil _ _), List.append_assoc,
            String.intercalate_append_of_ne_nil hb (by simp), List.singleton_append,
            String.intercalate_cons_of_ne_nil hc]
          simp only [String.append_assoc]

/-- Blocks that end in one line are joined to lines that end in it. -/
theorem exists_intercalate_eq_concat {sep : List String} {l : String} (blocks : List (List String))
    (hne : blocks ≠ []) (h : ∀ b ∈ blocks, ∃ ls, b = ls ++ [l]) :
    ∃ ls, sep.intercalate blocks = ls ++ [l] := by
  induction blocks with
  | nil => exact absurd rfl hne
  | cons b rest ih =>
      obtain ⟨hb, hrest⟩ := List.forall_mem_cons.1 h
      cases rest with
      | nil =>
          rw [List.intercalate_singleton]
          exact hb
      | cons c others =>
          obtain ⟨ls, hls⟩ := ih (List.cons_ne_nil _ _) hrest
          refine ⟨b ++ sep ++ ls, ?_⟩
          rw [List.intercalate_cons_of_ne_nil (List.cons_ne_nil _ _), hls, List.append_assoc _ ls]

end Text

/-! ## Lines -/

namespace Entity

variable (e : Entity)

/-- The line that ends the block of an entity. -/
def closingLine : String := "\x7d"

/-- The lines inside the block of an entity. -/
def memberLines : List String :=
  e.attributes.values.map attributeLine ++ e.relations.values.map relationLine ++
    e.permissions.values.map permissionLine

theorem lines_eq : e.lines = e.headerLine :: e.memberLines ++ [closingLine] := by
  simp [lines, memberLines, closingLine]

theorem lines_ne_nil : e.lines ≠ [] := by simp [lines]

theorem mem_lines_iff {l : String} : l ∈ e.lines ↔
    l = e.headerLine ∨ (∃ a ∈ e.attributes.values, attributeLine a = l) ∨
      (∃ r ∈ e.relations.values, relationLine r = l) ∨
      (∃ p ∈ e.permissions.values, permissionLine p = l) ∨ l = closingLine := by
  simp [lines_eq, memberLines]

/-- No line of a block is empty. -/
theorem toList_ne_nil_of_mem_lines {l : String} (h : l ∈ e.lines) : l.toList ≠ [] := by
  rcases e.mem_lines_iff.1 h with rfl | ⟨a, -, rfl⟩ | ⟨r, -, rfl⟩ | ⟨p, -, rfl⟩ | rfl
  · simp [headerLine]
  · simp [attributeLine]
  · simp [relationLine]
  · simp [permissionLine]
  · simp [closingLine]

end Entity

namespace Schema

variable {s : Schema}

/-- The lines of a schema. -/
def lines (s : Schema) : List String := [""].intercalate (s.entities.values.map Entity.lines)

/-- The join of lines that end in a brace ends in it. -/
theorem exists_intercalate_eq_brace (ls : List String) :
    ∃ text, ("\n".intercalate (ls ++ [Entity.closingLine])).toList = text ++ ['\x7d'] := by
  cases ls with
  | nil => exact ⟨[], by rw [List.nil_append, String.intercalate_singleton]; rfl⟩
  | cons l ls =>
      refine ⟨("\n".intercalate (l :: ls) ++ "\n").toList, ?_⟩
      rw [String.intercalate_append_of_ne_nil (List.cons_ne_nil _ _) (List.cons_ne_nil _ _),
        String.intercalate_singleton, String.toList_append]
      rfl

/-- The blocks of a schema with an empty line between two of them are its lines. -/
theorem intercalate_block (s : Schema) :
    "\n\n".intercalate (s.entities.values.map Entity.block) = "\n".intercalate s.lines := by
  have hblocks : s.entities.values.map Entity.block =
      (s.entities.values.map Entity.lines).map "\n".intercalate := by
    rw [List.map_map]
    rfl
  exact (congrArg _ hblocks).trans
    (Text.intercalate_map_intercalate "\n" "" _ (by simp [Entity.lines_ne_nil]))

/-- A schema that has entities ends in a brace. -/
theorem exists_lines_eq_brace (hne : s.entities.values ≠ []) :
    ∃ text, ("\n".intercalate s.lines).toList = text ++ ['\x7d'] := by
  obtain ⟨ls, hls⟩ : ∃ ls, s.lines = ls ++ [Entity.closingLine] := by
    refine Text.exists_intercalate_eq_concat _ (by simpa using hne) fun b hb => ?_
    obtain ⟨e, -, rfl⟩ := List.mem_map.1 hb
    exact ⟨_, e.lines_eq⟩
  rw [hls]
  exact exists_intercalate_eq_brace ls

/-- Nothing is trimmed from the end of a schema: white space at the end of a name or an expression
stands before the brace of its block. -/
theorem trimEnd_lines (s : Schema) :
    Text.trimEnd ("\n".intercalate s.lines).toList = ("\n".intercalate s.lines).toList := by
  by_cases hne : s.entities.values = []
  · simp [lines, hne, Text.trimEnd]
  · obtain ⟨text, htext⟩ := exists_lines_eq_brace hne
    rw [htext, Text.trimEnd_concat text (by decide)]

/-- **The text of a schema is the join of its lines.** -/
theorem compile_eq_intercalate (s : Schema) : s.compile = "\n".intercalate s.lines := by
  rw [compile, intercalate_block, trimEnd_lines, String.ofList_toList]

/-- **The lines of a schema can be read off its text.** -/
theorem splitOn_compile (hne : s.entities.values ≠ []) (h : ∀ l ∈ s.lines, '\n' ∉ l.toList) :
    s.compile.toList.splitOn '\n' = s.lines.map String.toList := by
  have hlines : s.lines ≠ [] := by
    obtain ⟨e, rest, hentities⟩ := List.exists_cons_of_ne_nil hne
    rw [lines, hentities]
    exact Text.intercalate_cons_ne_nil _ e.lines_ne_nil
  rw [compile_eq_intercalate, String.toList_intercalate]
  refine List.splitOn_intercalate '\n' ?_ (by simpa using hlines)
  simpa using h

end Schema

end Rebac
