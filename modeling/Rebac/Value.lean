import Rebac.Schema.Basic

set_option autoImplicit false

/-!
# Values

What callers supply and servers answer, and the texts that show it.
-/

/-!
## Values that callers supply

Declarations, relationship tuples and filters are accepted in several shapes, and a server may put
any data into an answer. A value is whatever was supplied: plain data, or one of the declaration and
reference records of this library, whose fields are not checked before they are used.
-/

namespace Rebac

/-- A value as the caller or the server supplied it. -/
inductive Value
  | none
  | bool (b : Bool)
  | int (i : Int)
  | float (x : Binary64)
  | text (s : String)
  | bytes (b : List UInt8)
  | list (items : List Value)
  | tuple (items : List Value)
  | map (entries : List (Key × Value))
  | set (items : List Value)
  /-- The declaration of an entity, by sections. -/
  | entityDef (relations permissions attributes : Value)
  /-- The declaration of a relation. -/
  | relationDef (targets : Value)
  /-- The declaration of a permission. -/
  | permissionDef (expression : Value)
  /-- The declaration of an attribute. -/
  | attributeDef (type : Value)
  | attributeType (t : AttributeType)
  | seedingMode (m : SeedingMode)
  | checkResult (r : CheckResult)
  /-- An entity instance. -/
  | entityRef (type id : Value)
  /-- A subject, possibly the set of all subjects in a relation to an entity. -/
  | subjectRef (type id relation : Value)
  /-- A relationship tuple. -/
  | relationship (entity relation subject : Value)
  /-- The entity part of a filter. -/
  | entityFilter (type ids : Value)
  /-- The subject part of a filter. -/
  | subjectFilter (type ids relation : Value)
  /-- A filter of relationship tuples. -/
  | relationshipFilter (entity relation subject : Value)
  /-- A schema that has passed validation. -/
  | schema (s : Schema)
  /-- A value of another kind, which has a text but no field that is asked for. -/
  | handle (kind shown : String)

namespace Value

instance : Inhabited Value := ⟨.none⟩

/-- The value of an atom. -/
def ofAtom : Atom → Value
  | .none => .none
  | .bool b => .bool b
  | .int i => .int i
  | .float x => .float x
  | .text s => .text s
  | .bytes b => .bytes b
  | .attributeType t => .attributeType t
  | .seedingMode m => .seedingMode m
  | .checkResult r => .checkResult r
  | .handle kind shown => .handle kind shown

/-- The record with the given fields; values that are too few or too many for the record stay a
tuple. -/
def ofFields (kind : RecordKind) (fields : List Value) : Value :=
  match kind, fields with
  | .entityDef, [r, p, a] => .entityDef r p a
  | .relationDef, [t] => .relationDef t
  | .permissionDef, [e] => .permissionDef e
  | .attributeDef, [t] => .attributeDef t
  | .entityRef, [t, i] => .entityRef t i
  | .subjectRef, [t, i, r] => .subjectRef t i r
  | .relationship, [e, r, s] => .relationship e r s
  | .entityFilter, [t, i] => .entityFilter t i
  | .subjectFilter, [t, i, r] => .subjectFilter t i r
  | .relationshipFilter, [e, r, s] => .relationshipFilter e r s
  | _, _ => .tuple fields

/-- The kind and the fields of a record. -/
def fields? : Value → Option (RecordKind × List Value)
  | .entityDef r p a => some (.entityDef, [r, p, a])
  | .relationDef t => some (.relationDef, [t])
  | .permissionDef e => some (.permissionDef, [e])
  | .attributeDef t => some (.attributeDef, [t])
  | .entityRef t i => some (.entityRef, [t, i])
  | .subjectRef t i r => some (.subjectRef, [t, i, r])
  | .relationship e r s => some (.relationship, [e, r, s])
  | .entityFilter t i => some (.entityFilter, [t, i])
  | .subjectFilter t i r => some (.subjectFilter, [t, i, r])
  | .relationshipFilter e r s => some (.relationshipFilter, [e, r, s])
  | _ => Option.none

/-- A record is made of its fields. -/
theorem ofFields_of_fields? {v : Value} {kind : RecordKind} {fields : List Value}
    (h : v.fields? = some (kind, fields)) : ofFields kind fields = v := by
  cases v <;> simp [fields?] at h <;> obtain ⟨rfl, rfl⟩ := h <;> rfl

mutual

/-- The value of a key. -/
def ofKey : Key → Value
  | .atom a => ofAtom a
  | .node .tuple parts => .tuple (ofKeys parts)
  | .node (.record kind) parts => ofFields kind (ofKeys parts)

/-- The values of keys. -/
def ofKeys : List Key → List Value
  | [] => []
  | k :: ks => ofKey k :: ofKeys ks

end

/-- A mapping with texts as keys. -/
def record (fields : List (String × Value)) : Value :=
  .map (fields.map (fun f => (.text f.1, f.2)))

/-- Whether a value counts as present: nothing, zero, and empty texts and collections do not. -/
def truthy : Value → Bool
  | .none => false
  | .bool b => b
  | .int i => i != 0
  | .float x => !x.isZero
  | .text s => !s.isEmpty
  | .bytes b => !b.isEmpty
  | .list xs | .tuple xs | .set xs => !xs.isEmpty
  | .map es => !es.isEmpty
  | _ => true

/-- The value, or another one in place of a value that does not count as present. -/
def orElse (v other : Value) : Value := if v.truthy then v else other

/-- The integer that a value equals, if it equals one. -/
def integer? : Value → Option Int
  | .bool b => some (if b then 1 else 0)
  | .int i => some i
  | .float x => x.toInt?
  | _ => Option.none

mutual

/-- Equality of plain data: numbers by what they denote, collections by their items, mappings
without regard to order. Other values are equal to none. -/
def same : Value → Value → Bool
  | .none, .none => true
  | .text s, .text t => s == t
  | .bytes b, .bytes c => b == c
  | .list xs, .list ys => sameItems xs ys
  | .tuple xs, .tuple ys => sameItems xs ys
  | .map es, .map fs => es.length == fs.length && sameEntries es fs
  | .float x, .float y => x.same y
  | v, w =>
      match v.integer?, w.integer? with
      | some i, some j => i == j
      | _, _ => false

/-- Equality of items one by one. -/
def sameItems : List Value → List Value → Bool
  | [], [] => true
  | x :: xs, y :: ys => same x y && sameItems xs ys
  | _, _ => false

/-- Whether every entry has an equal one among the given entries. -/
def sameEntries : List (Key × Value) → List (Key × Value) → Bool
  | [], _ => true
  | (k, v) :: es, fs =>
      (match Entries.get? fs k with
        | some w => same v w
        | Option.none => false) && sameEntries es fs

end

end Value

end Rebac

/-!
## Texts of values

Messages show values in two forms: a text stands for itself on its own and is quoted inside a larger
value. Collections are shown with brackets, braces or parentheses, records by their fields.
-/

namespace Rebac.Value

mutual

/-- The text of a value inside a larger text. -/
def quoted : Value → String
  | .none => "None"
  | .bool b => if b then "True" else "False"
  | .int i => toString i
  | .float x => x.text
  | .text s => Text.quote s
  | .bytes b => String.ofList (Text.quotedBytes b)
  | .list xs => "[" ++ Text.commas (quotedItems xs) ++ "]"
  | .tuple xs => Text.tupleText (quotedItems xs)
  | .map es => "\x7b" ++ Text.commas (quotedEntries es) ++ "\x7d"
  | .set xs => if xs.isEmpty then "set()" else "\x7b" ++ Text.commas (quotedItems xs) ++ "\x7d"
  | .entityDef r p a => RecordKind.entityDef.text [quoted r, quoted p, quoted a]
  | .relationDef t => RecordKind.relationDef.text [quoted t]
  | .permissionDef e => RecordKind.permissionDef.text [quoted e]
  | .attributeDef t => RecordKind.attributeDef.text [quoted t]
  | .attributeType t => Atom.quoted (.attributeType t)
  | .seedingMode m => Atom.quoted (.seedingMode m)
  | .checkResult r => Atom.quoted (.checkResult r)
  | .entityRef t i => RecordKind.entityRef.text [quoted t, quoted i]
  | .subjectRef t i r => RecordKind.subjectRef.text [quoted t, quoted i, quoted r]
  | .relationship e r s => RecordKind.relationship.text [quoted e, quoted r, quoted s]
  | .entityFilter t i => RecordKind.entityFilter.text [quoted t, quoted i]
  | .subjectFilter t i r => RecordKind.subjectFilter.text [quoted t, quoted i, quoted r]
  | .relationshipFilter e r s => RecordKind.relationshipFilter.text [quoted e, quoted r, quoted s]
  | .schema s => s.summary
  | .handle _ shown => shown

/-- The texts of items inside a larger text. -/
def quotedItems : List Value → List String
  | [] => []
  | x :: xs => quoted x :: quotedItems xs

/-- The texts of the entries of a mapping. -/
def quotedEntries : List (Key × Value) → List String
  | [] => []
  | (k, v) :: es => (k.quoted ++ ": " ++ quoted v) :: quotedEntries es

end

/-- A reference followed by a relation, if there is one: `type:id#relation`. -/
def referenceText (type id : String) (relation : Option String) : String :=
  type ++ ":" ++ id ++ (match relation with | some r => "#" ++ r | Option.none => "")

/-- The text of a value on its own. A relationship between an entity and a subject is shown in one
line. -/
def display : Value → String
  | .text s => s
  | .attributeType t => Atom.display (.attributeType t)
  | .seedingMode m => Atom.display (.seedingMode m)
  | .checkResult r => Atom.display (.checkResult r)
  | .relationship (.entityRef t i) r (.subjectRef u j s)
  | .relationship (.subjectRef t i _) r (.subjectRef u j s) =>
      referenceText t.display i.display (some r.display) ++ "@" ++
        referenceText u.display j.display (if s.truthy then some s.display else Option.none)
  | v => v.quoted

@[simp] theorem display_text (s : String) : (Value.text s).display = s := by rw [display]

theorem quotedItems_eq_map (xs : List Value) : quotedItems xs = xs.map quoted := by
  induction xs with
  | nil => rw [quotedItems, List.map_nil]
  | cons x xs ih => rw [quotedItems, ih, List.map_cons]

end Rebac.Value
