import Mathlib.Algebra.GroupWithZero.Nat
import Rebac.Proofs.BuiltSchemas
import Rebac.Proofs.References
import Rebac.Proofs.SchemaText

set_option autoImplicit false

/-!
# How many lines a schema has

A schema that is defined declares a number of lines: two for each entity and one for each of its
members, and an empty line between two entities (`Schema.lineCount`). Nothing keeps line breaks out
of names, targets and expressions, and each of them adds a line to the text
(`Schema.length_splitOn_compile`). So the text falls into the declared lines exactly if there are no
such breaks (`Schema.compile_lines_iff`). A name with a break can forge the line of a permission
that nothing declares (`Schema.forgedName_adds_line`).
-/

namespace Rebac

namespace Text

/-! ## Counting in joins -/

/-- A quantity of the items of a list, with the same item between each two of them. -/
theorem sum_map_intersperse {β : Type} (f : β → Nat) (sep : β) (xs : List β) :
    ((xs.intersperse sep).map f).sum = (xs.map f).sum + (xs.length - 1) * f sep := by
  induction xs with
  | nil => simp
  | cons x rest ih =>
      cases rest with
      | nil => simp
      | cons y others =>
          rw [List.intersperse_cons_cons, List.map_cons, List.map_cons, List.sum_cons,
            List.sum_cons, ih]
          simp only [List.map_cons, List.sum_cons, List.length_cons, Nat.add_sub_cancel,
            Nat.succ_mul]
          omega

/-- The length of a join. -/
theorem length_intercalate {α : Type} (sep : List α) (parts : List (List α)) :
    (sep.intercalate parts).length =
      (parts.map List.length).sum + (parts.length - 1) * sep.length := by
  rw [List.intercalate, List.length_flatten, sum_map_intersperse]

/-- How often a character occurs in a join. -/
theorem count_intercalate (c : Char) (sep : List Char) (parts : List (List Char)) :
    (sep.intercalate parts).count c =
      (parts.map (List.count c)).sum + (parts.length - 1) * sep.count c := by
  rw [List.intercalate, List.count_flatten, sum_map_intersperse]

/-- A quantity of the items of a join. -/
theorem sum_map_intercalate {β : Type} (f : β → Nat) (sep : List β) (parts : List (List β)) :
    ((sep.intercalate parts).map f).sum =
      (parts.map fun p => (p.map f).sum).sum + (parts.length - 1) * (sep.map f).sum := by
  rw [List.intercalate, List.map_flatten, List.sum_flatten, List.map_map, sum_map_intersperse]
  rfl

/-- A text falls into one piece more than it has separators. -/
theorem length_splitOn (c : Char) (s : List Char) : (s.splitOn c).length = s.count c + 1 := by
  rw [List.splitOn_eq_splitOnP, ← pieces_eq_splitOnP, length_pieces]
  rfl

/-- The number of line breaks in a text. -/
def breaks (s : String) : Nat := s.toList.count '\n'

@[simp] theorem breaks_append (s t : String) : breaks (s ++ t) = breaks s + breaks t := by
  rw [breaks, String.toList_append, List.count_append]
  rfl

theorem breaks_eq_zero_of_not_mem {s : String} (h : '\n' ∉ s.toList) : breaks s = 0 :=
  List.count_eq_zero.2 h

theorem breaks_intercalate (sep : String) (parts : List String) :
    breaks (sep.intercalate parts) =
      (parts.map breaks).sum + (parts.length - 1) * breaks sep := by
  rw [breaks, String.toList_intercalate, count_intercalate, List.map_map, List.length_map]
  rfl

end Text

/-! ## Declared lines -/

namespace Entity

/-- The number of lines that an entity declares: a header, its members and an end. -/
def lineCount (e : Entity) : Nat :=
  2 + e.attributes.size + e.relations.size + e.permissions.size

/-- No name, target or expression of an entity holds a line break. -/
structure HasNoBreak (e : Entity) : Prop where
  name : '\n' ∉ e.name.display.toList
  attributes : ∀ a ∈ e.attributes.values, '\n' ∉ a.name.display.toList
  relations : ∀ r ∈ e.relations.values,
    '\n' ∉ r.name.display.toList ∧ ∀ t ∈ r.targets, '\n' ∉ t.toList
  permissions : ∀ p ∈ e.permissions.values,
    '\n' ∉ p.name.display.toList ∧ '\n' ∉ p.expression.toList

/-- The number of line breaks in the names, targets and expressions of an entity. -/
def breaks (e : Entity) : Nat :=
  Text.breaks e.name.display +
    (e.attributes.values.map fun a => Text.breaks a.name.display).sum +
    (e.relations.values.map fun r =>
      Text.breaks r.name.display + (r.targets.map Text.breaks).sum).sum +
    (e.permissions.values.map fun p =>
      Text.breaks p.name.display + Text.breaks p.expression).sum

variable {e : Entity}

theorem length_lines (e : Entity) : e.lines.length = e.lineCount := by
  simp only [lines, lineCount, List.length_append, List.length_cons, List.length_nil,
    List.length_map, Dict.values, Dict.size]
  omega

theorem breaks_eq_zero_iff : e.breaks = 0 ↔ e.HasNoBreak := by
  have hbreaks : ∀ s, Text.breaks s = 0 ↔ '\n' ∉ s.toList := fun s => List.count_eq_zero
  simp only [breaks, Nat.add_eq_zero_iff, List.sum_eq_zero_iff_forall_eq_nat, List.forall_mem_map,
    hbreaks]
  constructor
  · rintro ⟨⟨⟨hname, ha⟩, hr⟩, hp⟩
    exact ⟨hname, ha, hr, hp⟩
  · rintro ⟨hname, ha, hr, hp⟩
    exact ⟨⟨⟨hname, ha⟩, hr⟩, hp⟩

theorem breaks_headerLine (e : Entity) :
    Text.breaks e.headerLine = Text.breaks e.name.display := by
  simp (disch := decide) [headerLine, Text.breaks_eq_zero_of_not_mem]

/-- The type of an attribute adds no break to its line. -/
theorem breaks_attributeLine {a : Attribute} (h : ∃ t : AttributeType, a.type = t.text) :
    Text.breaks (attributeLine a) = Text.breaks a.name.display := by
  obtain ⟨t, ht⟩ := h
  have htype : Text.breaks t.text = 0 := by cases t <;> decide
  simp (disch := decide) [attributeLine, indent, ht, htype, Text.breaks_eq_zero_of_not_mem]

theorem breaks_relationLine (r : Relation) :
    Text.breaks (relationLine r) =
      Text.breaks r.name.display + (r.targets.map Text.breaks).sum := by
  simp (disch := decide) [relationLine, indent, Text.breaks_intercalate,
    Text.breaks_eq_zero_of_not_mem]

theorem breaks_permissionLine (p : Permission) :
    Text.breaks (permissionLine p) = Text.breaks p.name.display + Text.breaks p.expression := by
  simp (disch := decide) [permissionLine, indent, Text.breaks_eq_zero_of_not_mem]

/-- The lines of an entity have its breaks and no others. -/
theorem sum_breaks_lines (hb : e.IsBuilt) : (e.lines.map Text.breaks).sum = e.breaks := by
  have ha : e.attributes.values.map (Text.breaks ∘ attributeLine) =
      e.attributes.values.map fun a => Text.breaks a.name.display :=
    List.map_congr_left fun a ha => breaks_attributeLine (hb.attributes.sound a ha)
  have hr : e.relations.values.map (Text.breaks ∘ relationLine) =
      e.relations.values.map fun r =>
        Text.breaks r.name.display + (r.targets.map Text.breaks).sum :=
    List.map_congr_left fun r _ => breaks_relationLine r
  have hp : e.permissions.values.map (Text.breaks ∘ permissionLine) =
      e.permissions.values.map fun p =>
        Text.breaks p.name.display + Text.breaks p.expression :=
    List.map_congr_left fun p _ => breaks_permissionLine p
  have hclosing : Text.breaks closingLine = 0 := by decide
  simp only [lines_eq, memberLines, breaks, List.map_append, List.map_cons, List.map_nil,
    List.map_map, List.sum_append, List.sum_cons, List.sum_nil, ha, hr, hp, hclosing,
    breaks_headerLine]
  omega

end Entity

namespace Schema

variable {s : Schema} {declarations : Value}

/-- The number of lines that a schema declares: those of its entities, and an empty one between
two of them. -/
def lineCount (s : Schema) : Nat :=
  (s.entities.values.map Entity.lineCount).sum + (s.entities.values.length - 1)

/-- No name, target or expression of a schema holds a line break. -/
def HasNoBreak (s : Schema) : Prop := ∀ e ∈ s.entities.values, e.HasNoBreak

/-- The number of line breaks in the names, targets and expressions of a schema. -/
def breaks (s : Schema) : Nat := (s.entities.values.map Entity.breaks).sum

theorem length_lines (s : Schema) : s.lines.length = s.lineCount := by
  rw [lines, Text.length_intercalate, List.map_map, List.length_map]
  simp only [Function.comp_def, Entity.length_lines, List.length_singleton, Nat.mul_one]
  rfl

theorem breaks_eq_zero_iff : s.breaks = 0 ↔ s.HasNoBreak := by
  simp only [breaks, HasNoBreak, List.sum_eq_zero_iff_forall_eq_nat, List.forall_mem_map,
    Entity.breaks_eq_zero_iff]

/-- The lines of a schema have its breaks and no others. -/
theorem sum_breaks_lines (hb : s.IsBuilt) : (s.lines.map Text.breaks).sum = s.breaks := by
  have hempty : Text.breaks "" = 0 := by decide
  have hentities : s.entities.values.map (fun e => (e.lines.map Text.breaks).sum) =
      s.entities.values.map Entity.breaks :=
    List.map_congr_left fun e he => Entity.sum_breaks_lines (hb.sound e he)
  rw [lines, Text.sum_map_intercalate, List.map_map, breaks, ← hentities]
  simp [Function.comp_def, hempty]

/-- **Every line break in a name, a target or an expression adds a line to the text.** -/
theorem length_splitOn_compile (hb : s.IsBuilt) (hne : s.entities.values ≠ []) :
    (s.compile.toList.splitOn '\n').length = s.lineCount + s.breaks := by
  have hbreak : Text.breaks "\n" = 1 := by decide
  have hpos : 0 < s.lineCount := by
    obtain ⟨e, rest, hentities⟩ := List.exists_cons_of_ne_nil hne
    rw [lineCount, hentities, List.map_cons, List.sum_cons, Entity.lineCount]
    omega
  -- The breaks in the text are those of its lines and those between them.
  have hcount : s.compile.toList.count '\n' = s.breaks + (s.lineCount - 1) := by
    have hjoin := Text.breaks_intercalate "\n" s.lines
    rw [← compile_eq_intercalate, sum_breaks_lines hb, length_lines, hbreak, Nat.mul_one] at hjoin
    exact hjoin
  rw [Text.length_splitOn, hcount]
  omega

/-- A schema that is defined is built from the entries of its declaration. -/
theorem exists_build_of_define (h : define declarations = .ok s) :
    ∃ es, declarations = .map es ∧ build es = .ok s := by
  cases declarations with
  | map es =>
      refine ⟨es, rfl, ?_⟩
      rw [define] at h
      cases hbuild : build es with
      | error f =>
          rw [hbuild] at h
          cases h
      | ok s' =>
          rw [hbuild] at h
          dsimp only at h
          cases hvalid : s'.validate with
          | error d =>
              rw [hvalid] at h
              cases h
          | ok u =>
              rw [hvalid] at h
              cases h
              rfl
  | _ => cases h

/-- **When a schema falls into its lines.** Let a schema with entities be defined. Its text, split
at line breaks, gives the declared lines, and as many lines as are declared, exactly if no name,
target or expression holds a line break. In general there is one line more for each such break. -/
theorem compile_lines_iff (h : define declarations = .ok s) (hne : s.entities.values ≠ []) :
    (s.compile.toList.splitOn '\n' = s.lines.map String.toList ↔ s.HasNoBreak) ∧
      ((s.compile.toList.splitOn '\n').length = s.lineCount ↔ s.HasNoBreak) ∧
      (s.compile.toList.splitOn '\n').length = s.lineCount + s.breaks := by
  obtain ⟨es, -, hbuild⟩ := exists_build_of_define h
  have hb := isBuilt_of_build hbuild
  have hlength := length_splitOn_compile hb hne
  have hcount : (s.compile.toList.splitOn '\n').length = s.lineCount ↔ s.HasNoBreak := by
    rw [hlength, ← breaks_eq_zero_iff]
    omega
  refine ⟨⟨fun hsplit => hcount.1 ?_, fun hno => splitOn_compile hne ?_⟩, hcount, hlength⟩
  · rw [hsplit, List.length_map, length_lines]
  · -- Each line has as many breaks as the schema has at most, which is none.
    intro l hl
    have hzero : (s.lines.map Text.breaks).sum = 0 := by
      rw [sum_breaks_lines hb, breaks_eq_zero_iff.2 hno]
    exact List.count_eq_zero.1
      (List.sum_eq_zero_iff_forall_eq_nat.1 hzero _ (List.mem_map_of_mem hl))

/-- An entity with a relation to itself and a permission of any name. -/
def ownedDocument (permission : String) : Schema where
  entities := Dict.ofEntries [(.text "document", {
    name := .text "document"
    relations := Dict.ofEntries [(.text "owner", ⟨.text "owner", ["document"]⟩)]
    permissions := Dict.ofEntries [(.text permission, ⟨.text permission, "owner"⟩)] })]

/-- The schema in plain data. -/
def ownedDocumentBriefly (permission : String) : Value :=
  .record [("document", .record [
    ("relations", .record [("owner", .text "document")]),
    ("permissions", .record [(permission, .text "owner")])])]

/-- With a plain name the text has four lines. -/
theorem ownedDocument_view_lines :
    (define (ownedDocumentBriefly "view") = .ok (ownedDocument "view") ∧
      (ownedDocument "view").entities.values ≠ []) ∧
      (ownedDocument "view").lineCount = 4 ∧
      (ownedDocument "view").compile.toList.splitOn '\n' =
        (ownedDocument "view").lines.map String.toList := by
  have hdefined : define (ownedDocumentBriefly "view") = .ok (ownedDocument "view") := by rfl
  have hentities : (ownedDocument "view").entities.values ≠ [] := List.cons_ne_nil _ _
  have hno : (ownedDocument "view").HasNoBreak := breaks_eq_zero_iff.1 (by decide)
  exact ⟨⟨hdefined, hentities⟩, by rfl, (compile_lines_iff hdefined hentities).1.2 hno⟩

/-- **A name can forge a line.** Behind a line break the name goes on as the line of another
permission. The text grants a permission by a relation that does not exist, on a line of its own
that nothing declares. -/
theorem forgedName_adds_line :
    define (ownedDocumentBriefly "view = ghost\n    permission edit") =
        .ok (ownedDocument "view = ghost\n    permission edit") ∧
      (ownedDocument "view = ghost\n    permission edit").lineCount = 4 ∧
      (ownedDocument "view = ghost\n    permission edit").compile.toList.splitOn '\n' = [
        "entity document \x7b".toList,
        "    relation owner @document".toList,
        "    permission view = ghost".toList,
        "    permission edit = owner".toList,
        "\x7d".toList] ∧
      (ownedDocument "view = ghost\n    permission edit").compile.toList.splitOn '\n' ≠
        (ownedDocument "view = ghost\n    permission edit").lines.map String.toList := by
  have htext : (ownedDocument "view = ghost\n    permission edit").compile = "\n".intercalate
      ["entity document \x7b", "    relation owner @document", "    permission view = ghost",
        "    permission edit = owner", "\x7d"] := by
    rw [compile_eq_intercalate]
    rfl
  have hsplit : (ownedDocument "view = ghost\n    permission edit").compile.toList.splitOn '\n' =
      ["entity document \x7b", "    relation owner @document", "    permission view = ghost",
        "    permission edit = owner", "\x7d"].map String.toList := by
    rw [htext, String.toList_intercalate]
    exact List.splitOn_intercalate '\n' (by decide) (List.cons_ne_nil _ _)
  refine ⟨by rfl, by rfl, hsplit, fun hlines => ?_⟩
  -- The text has five lines, and four are declared.
  have hlength := congrArg List.length hlines
  rw [hsplit, List.length_map, List.length_map, length_lines] at hlength
  exact absurd hlength (by decide)

end Schema

end Rebac
