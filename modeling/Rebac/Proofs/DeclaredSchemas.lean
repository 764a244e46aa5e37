import Rebac.Proofs.Declarations
import Rebac.Proofs.Mappings

set_option autoImplicit false

/-!
# Schemas as they are declared

What a declaration says, apart from how it is read: the targets that a relation lists, the
expression that a permission gives and the type that an attribute gives, in each of their
spellings. A schema is built exactly if it is the one that is declared
(`Schema.build_iff_declared`): keys stay in order and name their nodes, and every target, expression
and type is the declared one.
-/

namespace Rebac

/-! ## Keys in order -/

namespace Entries

variable {α β : Type}

/-- Whether keys are distinct does not depend on the values. -/
theorem distinct_iff_keys {es : Entries α} :
    Distinct es ↔ (es.map (·.1)).Pairwise fun k k' => k.same k' = false := by
  rw [Distinct, List.pairwise_map]

theorem Distinct.of_keys_eq {es : Entries α} {fs : Entries β} (h : Distinct es)
    (hkeys : fs.map (·.1) = es.map (·.1)) : Distinct fs := by
  rw [distinct_iff_keys, hkeys]
  exact distinct_iff_keys.1 h

/-- Entries correspond if their keys are the same lists and their values correspond. -/
theorem forall₂_iff {R : Key × α → β → Prop} {es : Entries α} {ys : Entries β} :
    List.Forall₂ (fun e y => y.1 = e.1 ∧ R e y.2) es ys ↔
      ys.map (·.1) = es.map (·.1) ∧ List.Forall₂ R es (ys.map (·.2)) := by
  induction es generalizing ys with
  | nil =>
      cases ys with
      | nil => simp
      | cons y ys => simp
  | cons e es ih =>
      cases ys with
      | nil => simp
      | cons y ys =>
          simp only [List.forall₂_cons, List.map_cons, List.cons.injEq, ih]
          tauto

end Entries

/-- A mapping has the keys of the given entries, in their order, and each of its values stands in
a relation to its entry. -/
structure Dict.Mirrors {α : Type} (R : Key → Value → α → Prop) (es : Entries Value) (d : Dict α) :
    Prop where
  keys : d.keys = es.map (·.1)
  values : List.Forall₂ (fun e x => R e.1 e.2 x) es d.values

theorem Dict.mirrors_iff {α : Type} {R : Key → Value → α → Prop} {es : Entries Value}
    {d : Dict α} :
    d.Mirrors R es ↔ List.Forall₂ (fun e y => y.1 = e.1 ∧ R e.1 e.2 y.2) es d.entries := by
  have hiff : List.Forall₂ (fun e y => y.1 = e.1 ∧ R e.1 e.2 y.2) es d.entries ↔
      d.keys = es.map (·.1) ∧ List.Forall₂ (fun e x => R e.1 e.2 x) es d.values :=
    Entries.forall₂_iff
  rw [hiff]
  exact ⟨fun h => ⟨h.keys, h.values⟩, fun h => ⟨h.1, h.2⟩⟩

theorem Dict.Mirrors.imp {α : Type} {R S : Key → Value → α → Prop} {es : Entries Value}
    {d : Dict α} (h : d.Mirrors R es) (hRS : ∀ e ∈ es, ∀ x, R e.1 e.2 x → S e.1 e.2 x) :
    d.Mirrors S es := by
  have hboth : List.Forall₂ (fun e x => (∀ x, R e.1 e.2 x → S e.1 e.2 x) ∧ R e.1 e.2 x) es
      d.values := (List.forall₂_and_left _ _).2 ⟨hRS, h.values⟩
  exact ⟨h.keys, hboth.imp fun _ x hx => hx.1 x hx.2⟩

/-! ## What a declaration says -/

namespace Declaration

/-- The items that the declaration of a relation lists as targets. Inside a record, a text is listed
by its characters; under the key of targets and on its own, it is one target. -/
inductive Lists : Value → List Value → Prop
  | text (s : String) : Lists (.text s) [.text s]
  | list (xs : List Value) : Lists (.list xs) xs
  | tuple (xs : List Value) : Lists (.tuple xs) xs
  | record {w : Value} {xs : List Value} (h : w.items = .ok xs) : Lists (.relationDef w) xs
  | keyedText {es : Entries Value} {s : String}
      (h : Entries.get? es (.text "targets") = some (.text s)) : Lists (.map es) [.text s]
  | keyed {es : Entries Value} {w : Value} {xs : List Value}
      (hw : Entries.get? es (.text "targets") = some w) (htext : ∀ s, w ≠ .text s)
      (h : w.items = .ok xs) : Lists (.map es) xs

/-- The expression that the declaration of a permission gives. -/
inductive GivesExpression : Value → String → Prop
  | text (s : String) : GivesExpression (.text s) s
  | record (s : String) : GivesExpression (.permissionDef (.text s)) s

/-- The type that the declaration of an attribute gives, as a type or as its text. -/
inductive GivesType : Value → AttributeType → Prop
  | type (t : AttributeType) : GivesType (.attributeType t) t
  | text (t : AttributeType) : GivesType (.text t.text) t
  | recordType (t : AttributeType) : GivesType (.attributeDef (.attributeType t)) t
  | recordText (t : AttributeType) : GivesType (.attributeDef (.text t.text)) t

end Declaration

open Declaration

/-- A relation is the one that is declared under a key. -/
structure Relation.IsDeclared (key : Key) (decl : Value) (r : Relation) : Prop where
  name : r.name = key
  targets : Lists decl (r.targets.map .text)
  nonempty : r.targets ≠ []
  named : ∀ t ∈ r.targets, t ≠ ""

/-- A permission is the one that is declared under a key. -/
structure Permission.IsDeclared (key : Key) (decl : Value) (p : Permission) : Prop where
  name : p.name = key
  expression : GivesExpression decl p.expression
  visible : ∃ c ∈ p.expression.toList, Text.isBlank c = false

/-- An attribute is the one that is declared under a key. -/
structure Attribute.IsDeclared (key : Key) (decl : Value) (a : Attribute) : Prop where
  name : a.name = key
  type : ∃ t : AttributeType, GivesType decl t ∧ a.type = t.text

/-- An entity is the one that is declared under a key: so are its members, in each section. -/
structure Entity.IsDeclared (key : Key) (decl : Value) (e : Entity) : Prop where
  name : e.name = key
  members : ∃ relations permissions attributes, HasEntries decl relations permissions attributes ∧
    e.relations.Mirrors Relation.IsDeclared relations ∧
    e.permissions.Mirrors Permission.IsDeclared permissions ∧
    e.attributes.Mirrors Attribute.IsDeclared attributes

namespace Declaration

variable {entity key : Key} {decl : Value} {es : Entries Value}

/-! ## Relations -/

theorem entityName?_eq_some_iff {v : Value} {t : String} :
    entityName? v = some t ↔ v = .text t ∧ t ≠ "" := by
  cases v with
  | text s =>
      rw [entityName?, Option.ite_none_left_eq_some, String.isEmpty_iff, Option.some.injEq,
        Value.text.injEq]
      constructor
      · rintro ⟨hne, rfl⟩
        exact ⟨rfl, hne⟩
      · rintro ⟨rfl, hne⟩
        exact ⟨hne, rfl⟩
  | _ => simp [entityName?]

/-- Items are names of entity types exactly if they are texts that are not empty. -/
theorem mapM_entityName?_eq_some_iff {items : List Value} {ts : List String} :
    items.mapM entityName? = some ts ↔ items = ts.map .text ∧ ∀ t ∈ ts, t ≠ "" := by
  induction items generalizing ts with
  | nil =>
      rw [List.mapM_nil]
      cases ts with
      | nil => simp
      | cons t ts => simp
  | cons v items ih =>
      rw [List.mapM_cons]
      simp only [Option.bind_eq_bind, Option.bind_eq_some_iff, Option.pure_def, Option.some.injEq,
        entityName?_eq_some_iff, ih]
      constructor
      · rintro ⟨t, ⟨rfl, ht⟩, ts, ⟨rfl, hts⟩, rfl⟩
        exact ⟨rfl, List.forall_mem_cons.2 ⟨ht, hts⟩⟩
      · rintro ⟨hitems, hnames⟩
        cases ts with
        | nil => cases hitems
        | cons t ts =>
            cases hitems
            obtain ⟨ht, hts⟩ := List.forall_mem_cons.1 hnames
            exact ⟨t, ⟨rfl, ht⟩, ts, ⟨rfl, hts⟩, rfl⟩

/-- The items that a declaration lists are those of the value that it gives as targets. -/
theorem exists_values_of_lists {xs : List Value} (h : Lists decl xs) :
    ∃ v, targetValues entity key decl = .ok v ∧ v.items = .ok xs := by
  cases h with
  | text s => exact ⟨_, rfl, rfl⟩
  | list xs => exact ⟨_, rfl, rfl⟩
  | tuple xs => exact ⟨_, rfl, rfl⟩
  | record h => exact ⟨_, rfl, h⟩
  | keyedText hget => exact ⟨_, by rw [targetValues, hget]; rfl, rfl⟩
  | @keyed es w xs hget htext h =>
      cases w with
      | text s => exact absurd rfl (htext s)
      | _ => exact ⟨_, by rw [targetValues, hget]; rfl, h⟩

/-- If the value that a declaration gives as targets has a text among its items, the declaration
lists these items. -/
theorem lists_of_values {v : Value} {xs : List Value} {t : String} (htext : .text t ∈ xs)
    (hv : targetValues entity key decl = .ok v) (hxs : v.items = .ok xs) : Lists decl xs := by
  cases decl with
  | text s =>
      cases hv
      cases hxs
      exact .text s
  | list ys =>
      cases hv
      cases hxs
      exact .list _
  | tuple ys =>
      cases hv
      cases hxs
      exact .tuple _
  | relationDef w =>
      cases hv
      exact .record hxs
  | bytes b =>
      -- The items of bytes are numbers.
      cases hv
      cases hxs
      simp at htext
  | map es =>
      cases hget : Entries.get? es (.text "targets") with
      | none =>
          rw [targetValues, hget] at hv
          cases hv
          cases hxs
          cases htext
      | some w =>
          rw [targetValues, hget] at hv
          cases w with
          | text s =>
              cases hv
              cases hxs
              exact .keyedText hget
          | _ =>
              cases hv
              exact .keyed hget (fun s h => by cases h) hxs
  | _ => cases hv

/-- The targets of a relation are the texts that its declaration lists, none of them empty. -/
theorem targets_eq_ok_iff {ts : List String} :
    targets entity key decl = .ok ts ↔
      Lists decl (ts.map .text) ∧ ts ≠ [] ∧ ∀ t ∈ ts, t ≠ "" := by
  constructor
  · intro h
    rcases targetValues_cases entity key decl with ⟨m, hm, -⟩ | ⟨v, hv, -⟩
    · rw [targets, hm] at h
      cases h
    · rcases targets_of_values hv with
        ⟨g, -, hfault⟩ | ⟨items, hitems, ⟨ts', hnames, hne, hok⟩ | hmalformed⟩
      · rw [hfault] at h
        cases h
      · rw [hok] at h
        cases h
        obtain ⟨rfl, hnamed⟩ := mapM_entityName?_eq_some_iff.1 hnames
        obtain ⟨t, ht⟩ := List.exists_mem_of_ne_nil _ hne
        exact ⟨lists_of_values (List.mem_map_of_mem ht) hv hitems, hne, hnamed⟩
      · rw [hmalformed] at h
        cases h
  · rintro ⟨hlists, hne, hnamed⟩
    obtain ⟨v, hv, hitems⟩ := exists_values_of_lists hlists
    have hnames := mapM_entityName?_eq_some_iff.2 ⟨rfl, hnamed⟩
    rw [targets, hv]
    dsimp only [bind, Except.bind]
    rw [hitems]
    dsimp only
    rw [hnames]
    cases ts with
    | nil => exact absurd rfl hne
    | cons t ts => rfl

theorem readRelation_eq_ok_iff {r : Relation} :
    readRelation entity key decl = .ok r ↔ r.IsDeclared key decl := by
  rw [readRelation, bind_pure_eq_ok_iff]
  simp only [targets_eq_ok_iff]
  constructor
  · rintro ⟨ts, ⟨hlists, hne, hnamed⟩, rfl⟩
    exact ⟨rfl, hlists, hne, hnamed⟩
  · rintro ⟨rfl, hlists, hne, hnamed⟩
    exact ⟨r.targets, ⟨hlists, hne, hnamed⟩, rfl⟩

/-! ## Permissions and attributes -/

/-- The expression that a declaration gives is read if a character of it can be seen. -/
theorem readPermission_of_gives {s : String} {p : Permission} (h : GivesExpression decl s) :
    readPermission entity key decl = .ok p ↔
      (∃ c ∈ s.toList, Text.isBlank c = false) ∧ { name := key, expression := s } = p := by
  have hread : readPermission entity key decl =
      if Text.allBlank s.toList then throw (.malformed (.noExpression entity key))
      else pure { name := key, expression := s } := by
    cases h with
    | text s => rfl
    | record s => rfl
  have hvisible : (∃ c ∈ s.toList, Text.isBlank c = false) ↔ Text.allBlank s.toList = false := by
    simp [Text.allBlank]
  rw [hread, hvisible]
  cases Text.allBlank s.toList with
  | true => simp [throw, throwThe, MonadExceptOf.throw]
  | false => simp [pure, Except.pure]

/-- A permission without an expression is malformed. -/
theorem gives_or_malformed (entity key : Key) (decl : Value) : (∃ s, GivesExpression decl s) ∨
    readPermission entity key decl = .error (.malformed (.noExpression entity key)) := by
  cases decl with
  | text s => exact Or.inl ⟨s, .text s⟩
  | permissionDef e =>
      cases e with
      | text s => exact Or.inl ⟨s, .record s⟩
      | _ => exact Or.inr rfl
  | _ => exact Or.inr rfl

theorem readPermission_eq_ok_iff {p : Permission} :
    readPermission entity key decl = .ok p ↔ p.IsDeclared key decl := by
  constructor
  · intro h
    rcases gives_or_malformed entity key decl with ⟨s, hs⟩ | hmalformed
    · obtain ⟨hvisible, rfl⟩ := (readPermission_of_gives hs).1 h
      exact ⟨rfl, hs, hvisible⟩
    · rw [hmalformed] at h
      cases h
  · rintro ⟨rfl, hs, hvisible⟩
    exact (readPermission_of_gives hs).2 ⟨hvisible, rfl⟩

theorem attributeType?_eq_some_iff {v : Value} {t : AttributeType} :
    attributeType? v = some t ↔ v = .attributeType t ∨ v = .text t.text := by
  cases v with
  | attributeType u => simp [attributeType?]
  | text s =>
      simp only [attributeType?, reduceCtorEq, false_or, Value.text.injEq]
      constructor
      · intro h
        have htext := List.find?_some h
        exact (beq_iff_eq.1 htext).symm
      · rintro rfl
        exact AttributeType.ofText?_text t
  | _ => simp [attributeType?]

theorem readAttribute_of_gives {t : AttributeType} (h : GivesType decl t) :
    readAttribute entity key decl = .ok { name := key, type := t.text } := by
  cases h with
  | type t => rfl
  | recordType t => rfl
  | text t =>
      dsimp only [readAttribute, attributeType?]
      rw [AttributeType.ofText?_text]
      rfl
  | recordText t =>
      dsimp only [readAttribute, attributeType?]
      rw [AttributeType.ofText?_text]
      rfl

/-- An attribute that is read is of a type that its declaration gives. -/
theorem gives_of_readAttribute {a : Attribute} (h : readAttribute entity key decl = .ok a) :
    ∃ t, GivesType decl t ∧ { name := key, type := t.text } = a := by
  dsimp only [readAttribute] at h
  split at h
  · rename_i t htype
    refine ⟨t, ?_, Except.ok.inj h⟩
    split at htype
    · rcases attributeType?_eq_some_iff.1 htype with rfl | rfl
      · exact .recordType t
      · exact .recordText t
    · rcases attributeType?_eq_some_iff.1 htype with rfl | rfl
      · exact .type t
      · exact .text t
  · cases h

theorem readAttribute_eq_ok_iff {a : Attribute} :
    readAttribute entity key decl = .ok a ↔ a.IsDeclared key decl := by
  constructor
  · intro h
    obtain ⟨t, ht, rfl⟩ := gives_of_readAttribute h
    exact ⟨rfl, t, ht, rfl⟩
  · rintro ⟨rfl, t, ht, htype⟩
    rw [readAttribute_of_gives ht, ← htype]

/-! ## Entities and schemas -/

/-- A mapping is read as one that has its keys and the values that its values are read as. -/
theorem readEntries_eq_ok_iff_mirrors {α : Type} {read : Key → Value → Except BuildFault α}
    {d : Dict α} (hdistinct : Entries.Distinct es) :
    readEntries read es = .ok d ↔ d.Mirrors (fun k v x => read k v = .ok x) es := by
  rw [readEntries_eq_ok_iff, Dict.mirrors_iff]
  constructor
  · rintro ⟨ys, hys, rfl⟩
    have hkeys : ys.map (·.1) = es.map (·.1) :=
      (Entries.forall₂_iff (R := fun e x => read e.1 e.2 = .ok x)).1 hys |>.1
    rw [Dict.entries_ofEntries (hdistinct.of_keys_eq hkeys)]
    exact hys
  · intro h
    exact ⟨d.entries, h, Dict.ofEntries_entries d⟩

/-- No key of a section of an entity is there twice. -/
def HasDistinctKeys (decl : Value) : Prop :=
  ∀ relations permissions attributes, HasEntries decl relations permissions attributes →
    Entries.Distinct relations ∧ Entries.Distinct permissions ∧ Entries.Distinct attributes

theorem HasEntries.hasDistinctKeys {r p a : Entries Value} (h : HasEntries decl r p a)
    (hr : Entries.Distinct r) (hp : Entries.Distinct p) (ha : Entries.Distinct a) :
    HasDistinctKeys decl := by
  intro r' p' a' h'
  obtain ⟨rfl, rfl, rfl⟩ := h.unique h'
  exact ⟨hr, hp, ha⟩

theorem readEntity_eq_ok_iff_declared (hdistinct : HasDistinctKeys decl) {e : Entity} :
    readEntity key decl = .ok e ↔ e.IsDeclared key decl := by
  have hmembers : ∀ r p a, HasEntries decl r p a → (readMembers key r p a = .ok e ↔ e.name = key ∧
      e.relations.Mirrors Relation.IsDeclared r ∧ e.permissions.Mirrors Permission.IsDeclared p ∧
        e.attributes.Mirrors Attribute.IsDeclared a) := by
    intro r p a hentries
    obtain ⟨hr, hp, ha⟩ := hdistinct r p a hentries
    simp only [readMembers_eq_ok_iff, readEntries_eq_ok_iff_mirrors hr,
      readEntries_eq_ok_iff_mirrors hp, readEntries_eq_ok_iff_mirrors ha, readRelation_eq_ok_iff,
      readPermission_eq_ok_iff, readAttribute_eq_ok_iff]
  rw [readEntity_eq_ok_iff]
  constructor
  · rintro ⟨r, p, a, hentries, h⟩
    obtain ⟨hname, h⟩ := (hmembers r p a hentries).1 h
    exact ⟨hname, r, p, a, hentries, h⟩
  · rintro ⟨hname, r, p, a, hentries, h⟩
    exact ⟨r, p, a, hentries, (hmembers r p a hentries).2 ⟨hname, h⟩⟩

end Declaration

namespace Schema

/-- The declarations of a schema are a mapping of mappings: no key of it is there twice, and none of
a section of an entity. -/
structure IsMapping (es : Entries Value) : Prop where
  distinct : Entries.Distinct es
  sections : ∀ e ∈ es, HasDistinctKeys e.2

variable {es : Entries Value} {s : Schema}

/-- **A schema is built exactly as it is declared.** Declarations are accepted with a schema as
result if and only if it has their keys in their order, each entity bears its key as its name and
has the members of its sections under their keys and in their order, each member bears its key as
its name, and the targets, expressions and types are those that the declarations give: at least one
target and none of them empty, an expression of which something can be seen, and a known type. -/
theorem build_iff_declared (h : IsMapping es) :
    build es = .ok s ↔ s.entities.Mirrors Entity.IsDeclared es := by
  rw [build_eq_ok_iff, readEntries_eq_ok_iff_mirrors h.distinct]
  constructor
  · intro hread
    exact hread.imp fun e he x hx => (readEntity_eq_ok_iff_declared (h.sections e he)).1 hx
  · intro hdeclared
    exact hdeclared.imp fun e he x hx => (readEntity_eq_ok_iff_declared (h.sections e he)).2 hx

/-- Declarations in several spellings: records, mappings, texts and lists, with a target that is a
set of subjects and an expression that starts with a blank. -/
def mixedDeclarations : Entries Value :=
  [(.text "user", .entityDef (.map []) (.map []) (.map [])),
    (.text "document", .record [
      ("relations", .record [("owner", .text "user"),
        ("viewer", .relationDef (.tuple [.text "user", .text "team#member"])),
        ("editor", .record [("targets", .list [.text "user"])])]),
      ("permissions", .record [("view", .permissionDef (.text "viewer or owner")),
        ("edit", .text " editor")]),
      ("attributes", .record [("public", .attributeDef (.attributeType .boolean)),
        ("tags", .text "string[]")])])]

theorem isMapping_mixedDeclarations : IsMapping mixedDeclarations := by
  refine ⟨by simp [mixedDeclarations, Entries.Distinct], ?_⟩
  rw [mixedDeclarations, List.forall_mem_cons, List.forall_mem_singleton]
  constructor
  · exact HasEntries.hasDistinctKeys (.record _ _ _) Entries.distinct_nil Entries.distinct_nil
      Entries.distinct_nil
  · refine HasEntries.hasDistinctKeys (.mapping (by decide)) ?_ ?_ ?_
    · simp [Entries.Distinct]
    · simp [Entries.Distinct]
    · simp [Entries.Distinct]

/-- **Spellings may be mixed.** -/
theorem mixedDeclarations_declared : IsMapping mixedDeclarations ∧
    ∃ s, build mixedDeclarations = .ok s ∧
      s.entities.Mirrors Entity.IsDeclared mixedDeclarations := by
  obtain ⟨s, hs⟩ : ∃ s, build mixedDeclarations = .ok s := ⟨_, rfl⟩
  exact ⟨isMapping_mixedDeclarations, s, hs,
    (build_iff_declared isMapping_mixedDeclarations).1 hs⟩

end Schema

end Rebac
