import Rebac.Value.Access

set_option autoImplicit false

/-!
# Mappings out of values

Where a mapping is expected, a list of pairs will do: each pair is a key and its value, and a later
pair wins over an earlier one with the same key.
-/

namespace Rebac

/-- Why a value is no mapping. -/
inductive MappingFault
  /-- The value has no items. -/
  | noItems (kind : String)
  /-- An item is no pair because it has no items itself. -/
  | noPair (index : Nat)
  /-- An item has the wrong number of parts. -/
  | wrongSize (index size : Nat)
  /-- The first part of an item cannot be a key. -/
  | noKey (kind : String)
deriving DecidableEq

namespace MappingFault

/-- What a fault says. -/
def message : MappingFault → String
  | .noItems kind => "'" ++ kind ++ "' object is not iterable"
  | .noPair i =>
      "cannot convert dictionary update sequence element #" ++ toString i ++ " to a sequence"
  | .wrongSize i n =>
      "dictionary update sequence element #" ++ toString i ++ " has length " ++ toString n ++
        "; 2 is required"
  | .noKey kind => "unhashable type: '" ++ kind ++ "'"

end MappingFault

namespace Value

mutual

/-- The key that a value can serve as: data that cannot change. A list, a mapping or a set is no
key, and neither is anything that holds one. -/
def toKey : Value → Except MappingFault Key
  | .none => pure (.atom .none)
  | .bool b => pure (.atom (.bool b))
  | .int i => pure (.atom (.int i))
  | .float x => pure (.atom (.float x))
  | .text s => pure (.text s)
  | .bytes b => pure (.atom (.bytes b))
  | .attributeType t => pure (.atom (.attributeType t))
  | .seedingMode m => pure (.atom (.seedingMode m))
  | .checkResult r => pure (.atom (.checkResult r))
  | .tuple xs => do return .node .tuple (← toKeys xs)
  | .entityDef r p a => do
      return .node (.record .entityDef) [← toKey r, ← toKey p, ← toKey a]
  | .relationDef t => do return .node (.record .relationDef) [← toKey t]
  | .permissionDef e => do return .node (.record .permissionDef) [← toKey e]
  | .attributeDef t => do return .node (.record .attributeDef) [← toKey t]
  | .entityRef t i => do return .node (.record .entityRef) [← toKey t, ← toKey i]
  | .subjectRef t i r => do
      return .node (.record .subjectRef) [← toKey t, ← toKey i, ← toKey r]
  | .relationship e r s => do
      return .node (.record .relationship) [← toKey e, ← toKey r, ← toKey s]
  | .entityFilter t i => do return .node (.record .entityFilter) [← toKey t, ← toKey i]
  | .subjectFilter t i r => do
      return .node (.record .subjectFilter) [← toKey t, ← toKey i, ← toKey r]
  | .relationshipFilter e r s => do
      return .node (.record .relationshipFilter) [← toKey e, ← toKey r, ← toKey s]
  | .schema s => pure (.atom (.handle (kind (.schema s)) s.summary))
  | .handle kind shown => pure (.atom (.handle kind shown))
  | v => throw (.noKey v.kind)

/-- The keys that values can serve as. -/
def toKeys : List Value → Except MappingFault (List Key)
  | [] => pure []
  | v :: vs => do
      let k ← toKey v
      return k :: (← toKeys vs)

end

/-- The entry that one item of a list of pairs stands for. -/
def toEntry (index : Nat) (v : Value) : Except MappingFault (Key × Value) :=
  match v.items with
  | .error _ => throw (.noPair index)
  | .ok [k, w] => do return (← k.toKey, w)
  | .ok parts => throw (.wrongSize index parts.length)

/-- The entries of the items from a given position on. -/
def toEntriesFrom (index : Nat) : List Value → Except MappingFault (List (Key × Value))
  | [] => pure []
  | v :: rest => do return (← v.toEntry index) :: (← toEntriesFrom (index + 1) rest)

/-- The entries of a mapping or of a list of pairs. -/
def toEntries (v : Value) : Except MappingFault (List (Key × Value)) :=
  match v with
  | .map es => pure es
  | _ =>
      match v.items with
      | .error _ => throw (.noItems v.kind)
      | .ok xs => do return Entries.dedupe (← toEntriesFrom 0 xs)

/-- A mapping has the entries it was written with. -/
theorem toEntries_map (es : List (Key × Value)) : (Value.map es).toEntries = .ok es := rfl

end Value

end Rebac
