import Rebac.Settings.Assignments
import Rebac.Text.Case

set_option autoImplicit false

/-!
# Settings of the environment

The variables that settings are read from, and the variables that a file of assignments refers to.
-/

/-!
## Variables in values

The value of an assignment may refer to variables: a dollar sign and a name in braces stand for the
value of the name, and a colon and a dash behind the name introduce a text for a name without value.
A reference sees the assignments before it and, behind these, the variables of the environment.
-/

namespace Rebac.Settings

/-- A reference to a variable: its name, and the text in place of a missing value. -/
structure Reference where
  name : List Char
  fallback : List Char := []
deriving DecidableEq

/-- The brace that opens a reference. -/
def openBrace : Char := '\x7b'

/-- The brace that closes a reference. -/
def closeBrace : Char := '\x7d'

/-- What the name of a variable is made of. -/
def isReferenceChar (c : Char) : Bool := c != closeBrace && c != ':'

/-- The reference behind a dollar sign and an opening brace, and the text behind it. -/
def readReference (s : List Char) : Option (Reference × List Char) :=
  let name := s.takeWhile isReferenceChar
  match s.dropWhile isReferenceChar with
  | ':' :: '-' :: rest =>
      match rest.dropWhile (· != closeBrace) with
      | _ :: behind => some (⟨name, rest.takeWhile (· != closeBrace)⟩, behind)
      | [] => none
  | ':' :: _ => none
  | _ :: behind => some ({ name := name }, behind)
  | [] => none

theorem length_dropWhile_le (p : Char → Bool) (s : List Char) :
    (s.dropWhile p).length ≤ s.length :=
  (List.dropWhile_suffix p).length_le

/-- A reference takes at least its closing brace. -/
theorem length_lt_of_readReference {s behind : List Char} {r : Reference}
    (h : readReference s = some (r, behind)) : behind.length < s.length := by
  unfold readReference at h
  have hs := length_dropWhile_le isReferenceChar s
  split at h
  · rename_i rest heq
    rw [heq] at hs
    have hr := length_dropWhile_le (· != closeBrace) rest
    split at h
    · rename_i hb
      rw [hb] at hr
      simp only [Option.some.injEq, Prod.mk.injEq] at h
      obtain ⟨-, rfl⟩ := h
      simp only [List.length_cons] at hs hr
      omega
    · simp at h
  · simp at h
  · rename_i heq
    rw [heq] at hs
    simp only [Option.some.injEq, Prod.mk.injEq] at h
    obtain ⟨-, rfl⟩ := h
    simp only [List.length_cons] at hs
    omega
  · simp at h

/-- A value with the variables in it replaced. -/
def expand (lookup : List Char → Option (List Char)) (s : List Char) : List Char :=
  match s with
  | [] => []
  | [c] => [c]
  | c :: d :: rest =>
      if c = '$' ∧ d = openBrace then
        match h : readReference rest with
        | some (r, behind) =>
            have := length_lt_of_readReference h
            (lookup r.name).getD r.fallback ++ expand lookup behind
        -- A dollar sign that begins no reference stands for itself.
        | none => c :: expand lookup (d :: rest)
      else c :: expand lookup (d :: rest)
termination_by s.length

/-- Names and their values, in the order in which the names first came. A name without an equals
sign has no value. -/
abbrev Bindings := List (List Char × Option (List Char))

namespace Bindings

/-- Binds a name; one that is bound already keeps its place. -/
def put (name : List Char) (value : Option (List Char)) : Bindings → Bindings
  | [] => [(name, value)]
  | b :: rest => if b.1 = name then (name, value) :: rest else b :: put name value rest

/-- What a name is bound to. -/
def get? (bs : Bindings) (name : List Char) : Option (Option (List Char)) :=
  (List.find? (fun b => b.1 == name) bs).map (·.2)

end Bindings

/-- The value of a variable for a reference: the assignments win over the environment, and a name
without a value is empty. -/
def referenced (environment : Bindings) (assigned : Bindings) (name : List Char) :
    Option (List Char) :=
  match (Bindings.get? assigned name).or (Bindings.get? environment name) with
  | some value => some (value.getD [])
  | none => none

/-- Carries out an assignment. -/
def assign (environment : Bindings) (assigned : Bindings) (a : Assignment) : Bindings :=
  Bindings.put a.name (a.value.map (expand (referenced environment assigned))) assigned

/-- The bindings that the assignments of a file make. -/
def bindings (environment : Bindings) (content : String) : Bindings :=
  (assignments content).foldl (assign environment) []

end Rebac.Settings

/-!
## Where settings come from

Settings are read from the variables of the environment and from a file of assignments. Names are
compared in lower case; the environment wins over the file, and of two names that differ in case
only, the later one wins.
-/

namespace Rebac

/-- The environment of a program: its variables in order, and the content of its settings file, if
there is one. -/
structure Environment where
  vars : List (String × String) := []
  file : Option String := none

namespace Environment

open Settings

/-- The variables as bindings. -/
def variableBindings (e : Environment) : Bindings :=
  e.vars.map (fun v => (v.1.toList, some v.2.toList))

/-- The bindings of the settings file. -/
def fileBindings (e : Environment) : Bindings :=
  (e.file.map (bindings e.variableBindings)).getD []

/-- The value of a name that is given in lower case; a name without a value has none. -/
def valueOf (name : List Char) (bs : Bindings) : Option (List Char) :=
  -- The last of several names in different case is the first one from the end.
  (List.find? (fun b => Text.toLower b.1 == name) bs.reverse).bind (·.2)

/-- The value of a setting: a common beginning of names, and the name of the setting itself. -/
def get? (e : Environment) (start setting : String) : Option String :=
  let name := Text.toLower (start.toList ++ setting.toList)
  ((valueOf name e.variableBindings).or (valueOf name e.fileBindings)).map String.ofList

/-- A setting depends on the value of its name in the environment and in the file only. -/
theorem get?_congr {e f : Environment} {start setting : String}
    (hv : valueOf (Text.toLower (start.toList ++ setting.toList)) e.variableBindings =
      valueOf (Text.toLower (start.toList ++ setting.toList)) f.variableBindings)
    (hf : valueOf (Text.toLower (start.toList ++ setting.toList)) e.fileBindings =
      valueOf (Text.toLower (start.toList ++ setting.toList)) f.fileBindings) :
    e.get? start setting = f.get? start setting := by
  simp only [get?, hv, hf]

end Environment

end Rebac
