import Rebac.Proofs.BuiltSchemas
import Rebac.Proofs.SchemaText

set_option autoImplicit false

/-!
# Schemas that are read back

The text of a schema determines the schema (`Schema.eq_of_compile_eq`), if names and targets have no
blanks and expressions have no line breaks. A reader shows it: it splits the text at line breaks and
the lines at the empty ones, it tells the kinds of lines by how they start, and it gives back the
schema that was written (`Schema.ofText_compile`).

A name ends at the first space behind it. A target may itself be the word between two targets, so
targets are told by their position.
-/

namespace Rebac

/-! ## Plain names -/

namespace Text

/-- No character of a text is blank. -/
def HasNoBlank (s : String) : Prop := ∀ c ∈ s.toList, isBlank c = false

instance (s : String) : Decidable (HasNoBlank s) :=
  decidable_of_iff (s.toList.all (fun c => !isBlank c) = true) (by simp [HasNoBlank])

theorem HasNoBlank.not_mem {s : String} {c : Char} (h : HasNoBlank s) (hc : isBlank c = true) :
    c ∉ s.toList := by
  intro hmem
  rw [h c hmem] at hc
  cases hc

end Text

/-- A key that is a text without blanks. -/
def Key.IsPlain (k : Key) : Prop := ∃ n, k = .text n ∧ Text.HasNoBlank n

/-- The names and targets of an entity have no blanks, and its expressions have no line breaks. -/
structure Entity.IsPlain (e : Entity) : Prop where
  name : e.name.IsPlain
  relations : ∀ r ∈ e.relations.values, r.name.IsPlain ∧ ∀ t ∈ r.targets, Text.HasNoBlank t
  permissions : ∀ p ∈ e.permissions.values, p.name.IsPlain ∧ '\n' ∉ p.expression.toList
  attributes : ∀ a ∈ e.attributes.values, a.name.IsPlain

/-- Every entity of a schema is plain. -/
def Schema.IsPlain (s : Schema) : Prop := ∀ e ∈ s.entities.values, e.IsPlain

/-! ## Reading a line -/

/-- What a line of a schema says. -/
inductive Line
  | header (name : Key)
  | attribute (a : Attribute)
  | relation (r : Relation)
  | permission (p : Permission)
  | closing

namespace Line

/-- The name at the start of a text, up to the first space. -/
def leadingName (s : List Char) : Key := .text (String.ofList (s.takeWhile (· != ' ')))

/-- What follows a name and some characters behind it. -/
def afterName (n : Nat) (s : List Char) : String := String.ofList ((s.dropWhile (· != ' ')).drop n)

/-- Every other item of a list, from the first on. -/
def everyOther {α : Type} : List α → List α
  | [] => []
  | [x] => [x]
  | x :: _ :: rest => x :: everyOther rest

/-- The targets that are joined in a text: every other of its words. -/
def targetsOf (s : String) : List String :=
  (everyOther (s.toList.splitOn ' ')).map String.ofList

/-- How the lines of each kind start, and what the rest of them says. -/
def forms : List (String × (List Char → Line)) :=
  [("entity ", fun s => .header (leadingName s)),
    ("    attribute ", fun s => .attribute ⟨leadingName s, afterName 1 s⟩),
    ("    relation ", fun s => .relation ⟨leadingName s, targetsOf (afterName 2 s)⟩),
    ("    permission ", fun s => .permission ⟨leadingName s, afterName 3 s⟩),
    ("\x7d", fun _ => .closing)]

/-- Reads a line. -/
def read? (s : List Char) : Option Line :=
  forms.findSome? fun form => (s.dropPrefix? form.1.toList).map form.2

/-- No line starts in two ways. -/
theorem read?_append {start : String} {say : List Char → Line} (h : (start, say) ∈ forms)
    (s : List Char) : read? (start.toList ++ s) = some (say s) := by
  -- The starts that are tried before differ from this one in some character.
  simp only [forms, List.mem_cons, List.not_mem_nil, or_false, Prod.mk.injEq] at h
  rcases h with ⟨rfl, rfl⟩ | ⟨rfl, rfl⟩ | ⟨rfl, rfl⟩ | ⟨rfl, rfl⟩ | ⟨rfl, rfl⟩ <;>
    simp [read?, forms, List.dropPrefix?]

section Names

variable {n : String} (h : Text.HasNoBlank n) (s : List Char)
include h

theorem forall_ne_space : ∀ c ∈ n.toList, (c != ' ') = true := by
  intro c hc
  have hspace : ' ' ∉ n.toList := h.not_mem (by decide)
  have hne : c ≠ ' ' := fun heq => hspace (heq ▸ hc)
  simpa using hne

theorem leadingName_append : leadingName (n.toList ++ ' ' :: s) = .text n := by
  rw [leadingName, List.takeWhile_append_of_pos (forall_ne_space h)]
  simp

theorem afterName_append (k : Nat) :
    afterName (k + 1) (n.toList ++ ' ' :: s) = String.ofList (s.drop k) := by
  rw [afterName, List.dropWhile_append_of_pos (forall_ne_space h)]
  simp

end Names

/-- Between the items of a list stand the words that are left out. -/
theorem everyOther_intercalate {α : Type} (sep : α) (xs : List α) :
    everyOther ([sep].intercalate (xs.map fun x => [x])) = xs := by
  induction xs with
  | nil => simp [everyOther]
  | cons x rest ih =>
      cases rest with
      | nil => simp [everyOther]
      | cons y others =>
          rw [List.map_cons, List.intercalate_cons_of_ne_nil (by simp), List.singleton_append,
            List.cons_append, List.singleton_append, everyOther, ih]

/-- The targets that were joined are found again, also if one of them is the word between them. -/
theorem targetsOf_intercalate {ts : List String} (hne : ts ≠ [])
    (h : ∀ t ∈ ts, Text.HasNoBlank t) : targetsOf (" or ".intercalate ts) = ts := by
  -- Between two spaces the separator is one more word, so the text is a join of words.
  have hwords : " or ".intercalate ts =
      " ".intercalate (["or"].intercalate (ts.map fun t => [t])) := by
    have hjoin := Text.intercalate_map_intercalate " " "or" (ts.map fun t => [t]) (by simp)
    rwa [List.map_map, List.map_id''] at hjoin
    simp
  have hplain : ∀ w ∈ ["or"].intercalate (ts.map fun t => [t]), ' ' ∉ w.toList := by
    intro w hw
    rcases Text.mem_or_exists_of_mem_intercalate hw with hw | ⟨p, hp, hw⟩
    · rw [List.mem_singleton.1 hw]
      decide
    · obtain ⟨t, ht, rfl⟩ := List.mem_map.1 hp
      rw [List.mem_singleton.1 hw]
      exact (h t ht).not_mem (by decide)
  have hne' : ["or"].intercalate (ts.map fun t => [t]) ≠ [] := by
    obtain ⟨t, rest, rfl⟩ := List.exists_cons_of_ne_nil hne
    exact Text.intercalate_cons_ne_nil _ (List.cons_ne_nil t [])
  have hsplit : (" or ".intercalate ts).toList.splitOn ' ' =
      ["or".toList].intercalate ((ts.map String.toList).map fun w => [w]) := by
    rw [hwords, String.toList_intercalate]
    refine (List.splitOn_intercalate ' ' (by simpa using hplain) (by simpa using hne')).trans ?_
    rw [Text.map_intercalate, List.map_map, List.map_map]
    rfl
  rw [targetsOf, hsplit, everyOther_intercalate, List.map_map]
  simp

/-! ## Lines that are written -/

theorem read?_headerLine {e : Entity} (h : e.name.IsPlain) :
    read? e.headerLine.toList = some (.header e.name) := by
  obtain ⟨n, hname, hn⟩ := h
  have hform : ("entity ", fun s => Line.header (leadingName s)) ∈ forms := by simp [forms]
  have hline : e.headerLine.toList = "entity ".toList ++ (n.toList ++ ' ' :: ['\x7b']) := by
    simp [Entity.headerLine, hname]
  rw [hline, read?_append hform, leadingName_append hn, hname]

theorem read?_attributeLine {a : Attribute} (h : a.name.IsPlain) :
    read? (Entity.attributeLine a).toList = some (.attribute a) := by
  obtain ⟨n, hname, hn⟩ := h
  have hform : ("    attribute ", fun s => Line.attribute ⟨leadingName s, afterName 1 s⟩) ∈
      forms := by simp [forms]
  have hline : (Entity.attributeLine a).toList =
      "    attribute ".toList ++ (n.toList ++ ' ' :: a.type.toList) := by
    simp [Entity.attributeLine, Entity.indent, hname]
  rw [hline, read?_append hform, leadingName_append hn, afterName_append hn, ← hname]
  simp

theorem read?_relationLine {r : Relation} (h : r.name.IsPlain) (hne : r.targets ≠ [])
    (ht : ∀ t ∈ r.targets, Text.HasNoBlank t) :
    read? (Entity.relationLine r).toList = some (.relation r) := by
  obtain ⟨n, hname, hn⟩ := h
  have hform : ("    relation ",
      fun s => Line.relation ⟨leadingName s, targetsOf (afterName 2 s)⟩) ∈ forms := by simp [forms]
  have hline : (Entity.relationLine r).toList =
      "    relation ".toList ++
        (n.toList ++ ' ' :: '@' :: (" or ".intercalate r.targets).toList) := by
    simp [Entity.relationLine, Entity.indent, hname]
  rw [hline, read?_append hform, leadingName_append hn, afterName_append hn, List.drop_one,
    List.tail_cons, String.ofList_toList, targetsOf_intercalate hne ht, ← hname]

theorem read?_permissionLine {p : Permission} (h : p.name.IsPlain) :
    read? (Entity.permissionLine p).toList = some (.permission p) := by
  obtain ⟨n, hname, hn⟩ := h
  have hform : ("    permission ", fun s => Line.permission ⟨leadingName s, afterName 3 s⟩) ∈
      forms := by simp [forms]
  have hline : (Entity.permissionLine p).toList =
      "    permission ".toList ++ (n.toList ++ ' ' :: '=' :: ' ' :: p.expression.toList) := by
    simp [Entity.permissionLine, Entity.indent, hname]
  rw [hline, read?_append hform, leadingName_append hn, afterName_append hn, ← hname]
  simp

theorem read?_closingLine : read? Entity.closingLine.toList = some .closing := by rfl

/-- The attribute that a line declares. -/
def attribute? : Line → Option Attribute
  | .attribute a => some a
  | _ => none

/-- The relation that a line declares. -/
def relation? : Line → Option Relation
  | .relation r => some r
  | _ => none

/-- The permission that a line declares. -/
def permission? : Line → Option Permission
  | .permission p => some p
  | _ => none

end Line

/-! ## Reading a schema -/

/-- The mapping from the names of items to the items. -/
def Dict.keyed {α : Type} (name : α → Key) (xs : List α) : Dict α :=
  Dict.ofEntries (xs.map fun x => (name x, x))

/-- The entity that a block of lines declares. -/
def Entity.ofLines? (lines : List (List Char)) : Option Entity :=
  match lines.filterMap Line.read? with
  | .header name :: members => some {
      name := name
      relations := Dict.keyed Relation.name (members.filterMap Line.relation?)
      permissions := Dict.keyed Permission.name (members.filterMap Line.permission?)
      attributes := Dict.keyed Attribute.name (members.filterMap Line.attribute?) }
  | _ => none

/-- The schema that a text declares. -/
def Schema.ofText (text : String) : Schema where
  entities := Dict.keyed Entity.name
    (((text.toList.splitOn '\n').splitOn []).filterMap Entity.ofLines?)

/-- A mapping is determined by its values if each is kept under its own name. -/
theorem Dict.keyed_values {α : Type} {name : α → Key} {d : Dict α}
    (h : ∀ x ∈ d.entries, x.1 = name x.2) : Dict.keyed name d.values = d := by
  have hentries : d.values.map (fun x => (name x, x)) = d.entries := by
    rw [Dict.values, List.map_map]
    conv_rhs => rw [← List.map_id d.entries]
    refine List.map_congr_left fun x hx => ?_
    simp [← h x hx]
  rw [Dict.keyed, hentries, Dict.ofEntries_entries]

/-- If every name is plain, the values of a mapping determine it. -/
theorem Dict.IsNamed.keyed_values {α : Type} {name : α → Key} {sound : α → Prop} {d : Dict α}
    (h : d.IsNamed name sound) (hp : ∀ x ∈ d.values, (name x).IsPlain) :
    Dict.keyed name d.values = d := by
  refine Dict.keyed_values fun x hx => ?_
  obtain ⟨n, hn, -⟩ := hp x.2 (List.mem_map_of_mem hx)
  have hkept := (h x hx).1
  rw [hn] at hkept ⊢
  exact hkept.eq_text

/-- What is written for items is read as the items. -/
theorem filterMap_map_of_forall {α β γ : Type} {write : α → β} {read : β → Option γ} {say : α → γ}
    {xs : List α} (h : ∀ x ∈ xs, read (write x) = some (say x)) :
    (xs.map write).filterMap read = xs.map say := by
  induction xs with
  | nil => rfl
  | cons x rest ih =>
      obtain ⟨hx, hrest⟩ := List.forall_mem_cons.1 h
      rw [List.map_cons, List.filterMap_cons_some hx, ih hrest, List.map_cons]

namespace Entity

variable {e : Entity}

/-- The lines of a plain entity are read as its header, its members and its end. -/
theorem filterMap_lines (hb : e.IsBuilt) (hp : e.IsPlain) :
    (e.lines.map String.toList).filterMap Line.read? =
      .header e.name :: e.attributes.values.map Line.attribute ++
        e.relations.values.map Line.relation ++ e.permissions.values.map Line.permission ++
        [.closing] := by
  have ha : (e.attributes.values.map (String.toList ∘ attributeLine)).filterMap Line.read? =
      e.attributes.values.map Line.attribute :=
    filterMap_map_of_forall fun a ha => Line.read?_attributeLine (hp.attributes a ha)
  have hr : (e.relations.values.map (String.toList ∘ relationLine)).filterMap Line.read? =
      e.relations.values.map Line.relation :=
    filterMap_map_of_forall fun r hr =>
      Line.read?_relationLine (hp.relations r hr).1 (hb.relations.sound r hr) (hp.relations r hr).2
  have hpm : (e.permissions.values.map (String.toList ∘ permissionLine)).filterMap Line.read? =
      e.permissions.values.map Line.permission :=
    filterMap_map_of_forall fun p hp' => Line.read?_permissionLine (hp.permissions p hp').1
  rw [lines_eq, memberLines]
  simp only [List.map_append, List.map_cons, List.map_nil, List.map_map, List.filterMap_append,
    List.filterMap_cons_some (Line.read?_headerLine hp.name),
    List.filterMap_cons_some Line.read?_closingLine, List.filterMap_nil, ha, hr, hpm,
    List.cons_append, List.append_assoc]

/-- **The lines of a plain entity declare the entity.** -/
theorem ofLines?_lines (hb : e.IsBuilt) (hp : e.IsPlain) :
    ofLines? (e.lines.map String.toList) = some e := by
  have hr := hb.relations.keyed_values fun r hr => (hp.relations r hr).1
  have hpm := hb.permissions.keyed_values fun p hp' => (hp.permissions p hp').1
  have ha := hb.attributes.keyed_values hp.attributes
  rw [ofLines?, filterMap_lines hb hp]
  simp [List.filterMap_append, List.filterMap_map, List.filterMap_cons, Function.comp_def,
    Line.relation?, Line.permission?, Line.attribute?, hr, hpm, ha]

/-- No line of a plain entity holds a line break. -/
theorem not_mem_lines {l : String} (hb : e.IsBuilt) (hp : e.IsPlain) (h : l ∈ e.lines) :
    '\n' ∉ l.toList := by
  have hname : ∀ k : Key, k.IsPlain → '\n' ∉ k.display.toList := by
    rintro k ⟨n, rfl, hn⟩
    exact hn.not_mem (by decide)
  rcases e.mem_lines_iff.1 h with rfl | ⟨a, ha, rfl⟩ | ⟨r, hr, rfl⟩ | ⟨p, hp', rfl⟩ | rfl
  · simp [headerLine, hname _ hp.name]
  · obtain ⟨t, ht⟩ := hb.attributes.sound a ha
    have htype : '\n' ∉ t.text.toList := by cases t <;> decide
    simp [attributeLine, indent, hname _ (hp.attributes a ha), ht, htype]
  · obtain ⟨hplain, htargets⟩ := hp.relations r hr
    have hjoin : '\n' ∉ [' ', 'o', 'r', ' '].intercalate (r.targets.map String.toList) := by
      intro hmem
      rcases Text.mem_or_exists_of_mem_intercalate hmem with hmem | ⟨cs, hcs, hmem⟩
      · exact absurd hmem (by decide)
      · obtain ⟨t, ht, rfl⟩ := List.mem_map.1 hcs
        exact (htargets t ht).not_mem (by decide) hmem
    simp [relationLine, indent, hname _ hplain, hjoin]
  · obtain ⟨hplain, hexpression⟩ := hp.permissions p hp'
    simp [permissionLine, indent, hname _ hplain, hexpression]
  · decide

end Entity

namespace Schema

variable {s : Schema}

/-- No line of a plain schema holds a line break. -/
theorem not_mem_lines (hb : s.IsBuilt) (hp : s.IsPlain) : ∀ l ∈ s.lines, '\n' ∉ l.toList := by
  intro l hl
  rcases Text.mem_or_exists_of_mem_intercalate hl with hl | ⟨b, hmem, hl⟩
  · rw [List.mem_singleton.1 hl]
    decide
  · obtain ⟨e, he, rfl⟩ := List.mem_map.1 hmem
    exact Entity.not_mem_lines (hb.sound e he) (hp e he) hl

/-- **The text of a plain schema declares the schema.** -/
theorem ofText_compile (hb : s.IsBuilt) (hp : s.IsPlain) : ofText s.compile = s := by
  have hread : ((s.compile.toList.splitOn '\n').splitOn []).filterMap Entity.ofLines? =
      s.entities.values := by
    cases hentities : s.entities.values with
    | nil =>
        -- The empty text has one line, which is empty: two blocks without lines.
        have htext : s.compile = "" := by simp [compile, hentities, Text.trimEnd]
        rw [htext]
        rfl
    | cons e rest =>
        have hne : s.entities.values ≠ [] := by simp [hentities]
        have hblocks : (s.lines.map String.toList).splitOn [] =
            s.entities.values.map fun e => e.lines.map String.toList := by
          rw [lines, Text.map_intercalate, List.map_map]
          refine List.splitOn_intercalate [] ?_ (by simpa using hne)
          intro b hb hempty
          obtain ⟨e, -, rfl⟩ := List.mem_map.1 hb
          obtain ⟨l, hl, hnil⟩ := List.mem_map.1 hempty
          exact e.toList_ne_nil_of_mem_lines hl hnil
        rw [splitOn_compile hne (not_mem_lines hb hp), hblocks, filterMap_map_of_forall fun e he =>
          Entity.ofLines?_lines (hb.sound e he) (hp e he), List.map_id', hentities]
  have hnamed : Dict.keyed Entity.name s.entities.values = s.entities :=
    hb.keyed_values fun e he => (hp e he).name
  rw [ofText, hread, hnamed]

/-- **The text of a schema determines the schema.** Two schemas that are built of any declarations
are equal, with every order, if they are plain and have one text. -/
theorem eq_of_compile_eq {es es' : Entries Value} {s s' : Schema} (hs : build es = .ok s)
    (hs' : build es' = .ok s') (hp : s.IsPlain) (hp' : s'.IsPlain)
    (htext : s.compile = s'.compile) : s = s' := by
  rw [← ofText_compile (isBuilt_of_build hs) hp, ← ofText_compile (isBuilt_of_build hs') hp', htext]

/-- A schema with a relation to the entity type that is named as the word between targets, and a
permission that ends in a blank. -/
def viewedByOr : Schema where
  entities := Dict.ofEntries [
    (.text "or", { name := .text "or" }),
    (.text "document", {
      name := .text "document"
      relations := Dict.ofEntries [(.text "viewer", ⟨.text "viewer", ["or", "or"]⟩)]
      permissions := Dict.ofEntries [(.text "view", ⟨.text "view", "viewer or viewer "⟩)] })]

/-- The schema in plain data. -/
def viewedByOrBriefly : Entries Value :=
  [(.text "or", .map []),
    (.text "document", .record [
      ("relations", .record [("viewer", .list [.text "or", .text "or"])]),
      ("permissions", .record [("view", .text "viewer or viewer ")])])]

/-- The schema in records. -/
def viewedByOrInFull : Entries Value :=
  [(.text "or", .entityDef (.map []) (.map []) (.map [])),
    (.text "document", .entityDef
      (.record [("viewer", .relationDef (.tuple [.text "or", .text "or"]))])
      (.record [("view", .permissionDef (.text "viewer or viewer "))])
      (.map []))]

theorem isPlain_viewedByOr : viewedByOr.IsPlain := by
  intro e he
  rcases List.mem_pair.1 he with rfl | rfl
  · exact {
      name := ⟨"or", rfl, by decide⟩
      relations := nofun
      permissions := nofun
      attributes := nofun }
  · refine {
      name := ⟨"document", rfl, by decide⟩
      relations := fun r hr => ?_
      permissions := fun p hp => ?_
      attributes := nofun }
    · rw [List.mem_singleton.1 hr]
      exact ⟨⟨"viewer", rfl, by decide⟩, by decide⟩
    · rw [List.mem_singleton.1 hp]
      exact ⟨⟨"view", rfl, by decide⟩, by decide⟩

/-- Two spellings of one declaration are built to schemas of one text, which are equal. -/
theorem viewedByOr_determined : ∃ s s', build viewedByOrBriefly = .ok s ∧
    build viewedByOrInFull = .ok s' ∧ s.IsPlain ∧ s'.IsPlain ∧ s.compile = s'.compile ∧ s = s' := by
  have hbriefly : build viewedByOrBriefly = .ok viewedByOr := by rfl
  have hfull : build viewedByOrInFull = .ok viewedByOr := by rfl
  exact ⟨viewedByOr, viewedByOr, hbriefly, hfull, isPlain_viewedByOr, isPlain_viewedByOr, rfl,
    eq_of_compile_eq hbriefly hfull isPlain_viewedByOr isPlain_viewedByOr rfl⟩

end Schema

end Rebac
