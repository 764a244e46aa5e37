import Rebac.Choice
import Rebac.Number.Binary64
import Rebac.Text
import Rebac.Text.Quoted

set_option autoImplicit false

/-!
# Keys and records

The kinds of records that callers make, and the keys of mappings, which may be such records.
-/

/-!
## Records

The kinds of records that callers make: the parts of a schema declaration, references to entities
and subjects, relationships and filters. A record has the fields of its kind; what they hold is not
checked before it is used.
-/

namespace Rebac

/-- The kinds of records. -/
inductive RecordKind
  | entityDef
  | relationDef
  | permissionDef
  | attributeDef
  | entityRef
  | subjectRef
  | relationship
  | entityFilter
  | subjectFilter
  | relationshipFilter
deriving DecidableEq, Inhabited

namespace RecordKind

/-- The name of a kind. -/
def name : RecordKind → String
  | .entityDef => "EntityDef"
  | .relationDef => "RelationDef"
  | .permissionDef => "PermissionDef"
  | .attributeDef => "AttributeDef"
  | .entityRef => "EntityRef"
  | .subjectRef => "SubjectRef"
  | .relationship => "Relationship"
  | .entityFilter => "EntityFilter"
  | .subjectFilter => "SubjectFilter"
  | .relationshipFilter => "RelationshipFilter"

/-- The names of the fields of a kind, in order. -/
def fieldNames : RecordKind → List String
  | .entityDef => ["relations", "permissions", "attributes"]
  | .relationDef => ["targets"]
  | .permissionDef => ["expression"]
  | .attributeDef => ["type"]
  | .entityRef => ["type", "id"]
  | .subjectRef => ["type", "id", "relation"]
  | .relationship => ["entity", "relation", "subject"]
  | .entityFilter => ["type", "ids"]
  | .subjectFilter => ["type", "ids", "relation"]
  | .relationshipFilter => ["entity", "relation", "subject"]

/-- The text of a record with fields that are texts already. -/
def text (k : RecordKind) (fields : List String) : String :=
  Text.recordText k.name (k.fieldNames.zip fields)

end RecordKind

end Rebac

/-!
## Keys

What a mapping is keyed by. A key is a text in every declaration that makes sense to a server, but a
caller may write other data that cannot change, also tuples and records of such data, so keys keep
what was written. Keys that denote the same integer are the same key, whether they were written as a
truth value, an integer or a binary number; tuples and records are the same key if their parts are.
The binary number that is no number is the same as no key, not even as itself.
-/

namespace Rebac

/-- A key without parts. -/
inductive Atom
  | none
  | bool (b : Bool)
  | int (i : Int)
  | float (x : Binary64)
  | text (s : String)
  | bytes (b : List UInt8)
  | attributeType (t : AttributeType)
  | seedingMode (m : SeedingMode)
  | checkResult (r : CheckResult)
  /-- Anything else that can be a key, by its kind and its text. -/
  | handle (kind shown : String)
deriving DecidableEq, Inhabited

namespace Atom

/-- Whether an atom is the same as itself. -/
def isSettled : Atom → Bool
  | .float x => x != .nan
  | _ => true

/-- The integer that an atom denotes, if it denotes one. -/
def integer? : Atom → Option Int
  | .bool b => some (if b then 1 else 0)
  | .int i => some i
  | .float x => x.toInt?
  | _ => Option.none

/-- The representative of all atoms that are the same key. -/
def canonical (a : Atom) : Atom :=
  match a.integer? with
  | some i => .int i
  | Option.none => a

/-- The text of an atom inside a larger text. -/
def quoted : Atom → String
  | .none => "None"
  | .bool b => if b then "True" else "False"
  | .int i => toString i
  | .float x => x.text
  | .text s => Text.quote s
  | .bytes b => String.ofList (Text.quotedBytes b)
  | .attributeType t => Text.choiceText "AttributeType" t.name (Text.quote t.text)
  | .seedingMode m => Text.choiceText "SeedingMode" m.name (Text.quote m.text)
  | .checkResult r => Text.choiceText "CheckResult" r.name (toString r.number)
  | .handle _ shown => shown

/-- The text of an atom on its own. -/
def display : Atom → String
  | .text s => s
  | .attributeType t => "AttributeType." ++ t.name
  | .seedingMode m => "SeedingMode." ++ m.name
  | .checkResult r => "CheckResult." ++ r.name
  | a => a.quoted

end Atom

/-- What holds the parts of a key. -/
inductive KeyShape
  | tuple
  | record (kind : RecordKind)
deriving DecidableEq, Inhabited

/-- The text of a tuple or a record with parts that are texts already. -/
def KeyShape.text : KeyShape → List String → String
  | .tuple => Text.tupleText
  | .record kind => kind.text

/-- The key of a mapping, as the caller wrote it. -/
inductive Key
  | atom (a : Atom)
  | node (shape : KeyShape) (parts : List Key)
deriving Inhabited

namespace Key

/-- A text as a key. -/
@[match_pattern] abbrev text (s : String) : Key := .atom (.text s)

mutual

/-- Whether two keys are written alike. -/
def decideEq : (a b : Key) → Decidable (a = b)
  | .atom a, .atom b => decidable_of_iff (a = b) ⟨congrArg Key.atom, fun h => Key.atom.inj h⟩
  | .node s xs, .node t ys =>
      if hs : s = t then
        match decidePartsEq xs ys with
        | .isTrue h => .isTrue (by rw [hs, h])
        | .isFalse h => .isFalse (fun e => h (Key.node.inj e).2)
      else .isFalse (fun e => hs (Key.node.inj e).1)
  | .atom _, .node _ _ => .isFalse nofun
  | .node _ _, .atom _ => .isFalse nofun

/-- Whether the parts of two keys are written alike. -/
def decidePartsEq : (xs ys : List Key) → Decidable (xs = ys)
  | [], [] => .isTrue rfl
  | x :: xs, y :: ys =>
      match decideEq x y, decidePartsEq xs ys with
      | .isTrue h, .isTrue i => .isTrue (by rw [h, i])
      | .isFalse h, _ => .isFalse (fun e => h (List.cons.inj e).1)
      | _, .isFalse i => .isFalse (fun e => i (List.cons.inj e).2)
  | [], _ :: _ => .isFalse nofun
  | _ :: _, [] => .isFalse nofun

end

instance : DecidableEq Key := decideEq

mutual

/-- The representative of all keys that are the same key. -/
def canonical : Key → Key
  | .atom a => .atom a.canonical
  | .node shape parts => .node shape (canonicalParts parts)

/-- The representatives of the parts of a key. -/
def canonicalParts : List Key → List Key
  | [] => []
  | k :: ks => canonical k :: canonicalParts ks

end

mutual

/-- Whether a key is the same as itself. -/
def isSettled : Key → Bool
  | .atom a => a.isSettled
  | .node _ parts => areSettled parts

/-- Whether every part of a key is the same as itself. -/
def areSettled : List Key → Bool
  | [] => true
  | k :: ks => isSettled k && areSettled ks

end

/-- Whether two keys select the same entry of a mapping. -/
def same (a b : Key) : Bool := a.isSettled && a.canonical == b.canonical

mutual

/-- The text of a key inside a larger text. -/
def quoted : Key → String
  | .atom a => a.quoted
  | .node shape parts => shape.text (quotedParts parts)

/-- The texts of the parts of a key. -/
def quotedParts : List Key → List String
  | [] => []
  | k :: ks => quoted k :: quotedParts ks

end

/-- The text of a key on its own: a text stands for itself. -/
def display : Key → String
  | .atom a => a.display
  | k => k.quoted

@[simp] theorem canonical_text (s : String) : (Key.text s).canonical = .text s := by
  rw [canonical]
  rfl

@[simp] theorem display_text (s : String) : (Key.text s).display = s := rfl

@[simp] theorem isSettled_text (s : String) : (Key.text s).isSettled = true := by
  rw [isSettled]
  rfl

theorem same_iff {a b : Key} :
    a.same b = true ↔ a.isSettled = true ∧ a.canonical = b.canonical := by
  simp [same]

@[simp] theorem same_self (a : Key) : a.same a = a.isSettled := by simp [same]

/-- A text is the same key as another text only if the texts are equal. -/
@[simp] theorem same_text_text (s t : String) : (Key.text s).same (.text t) = (s == t) := by
  rw [Bool.eq_iff_iff, same_iff]
  simp

end Key

end Rebac
