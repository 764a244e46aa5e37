import Rebac.Text

set_option autoImplicit false

/-!
# Files of assignments

A settings file holds one assignment a line: a name, an equals sign and a value. The name may be
quoted and may follow the word `export`. The value may be quoted, and a quoted value may go on over
several lines; a value without quotes ends at a comment or at the end of its line. A name without an
equals sign assigns nothing. A line that has another form is skipped, and so is a quoted value that
does not end.
-/

namespace Rebac.Settings

/-- An assignment: a name and, behind the equals sign, the text of a value. -/
structure Assignment where
  name : List Char
  value : Option (List Char)
deriving DecidableEq

/-- A text in which every line ends in the same way: a carriage return, alone or before a line feed,
becomes a line feed. -/
def unifyBreaks : List Char → List Char
  | '\r' :: '\n' :: rest => '\n' :: unifyBreaks rest
  | '\r' :: rest => '\n' :: unifyBreaks rest
  | c :: rest => c :: unifyBreaks rest
  | [] => []

/-- Blanks that do not end a line. -/
def isGap (c : Char) : Bool := Text.isBlank c && c != '\n'

/-- The text behind the gap at its start. -/
def dropGap (s : List Char) : List Char := s.dropWhile isGap

/-- The characters up to the end of the line. -/
def lineOf (s : List Char) : List Char := s.takeWhile (· != '\n')

/-- The text from the end of the line on. -/
def fromLineEnd (s : List Char) : List Char := s.dropWhile (· != '\n')

/-- The text behind the line. -/
def dropLine (s : List Char) : List Char := (fromLineEnd s).drop 1

/-! ## Names -/

/-- The word that may stand before a name. -/
def exportWord : List Char := "export".toList

/-- The text behind the word `export` and the gap that follows it. -/
def dropExport (s : List Char) : List Char :=
  if exportWord.isPrefixOf s then
    let rest := s.drop exportWord.length
    if (dropGap rest).length < rest.length then dropGap rest else s
  else s

/-- The quote of names, and of values in which hardly anything is an escape. -/
def singleQuote : Char := '\x27'

/-- The quote of values with escapes. -/
def doubleQuote : Char := '\x22'

/-- What a name without quotes is made of. -/
def isNameChar (c : Char) : Bool := c != '=' && c != '#' && !Text.isBlank c

/-- The name at the start of a text, and the text behind it. -/
def readName (s : List Char) : Option (List Char × List Char) :=
  match s with
  | [] => none
  | c :: rest =>
      if c = singleQuote then
        match rest.takeWhile (· != singleQuote), rest.dropWhile (· != singleQuote) with
        | n :: ns, _ :: behind => some (n :: ns, behind)
        | _, _ => none
      else
        match s.takeWhile isNameChar with
        | [] => none
        | name => some (name, s.dropWhile isNameChar)

/-! ## Values -/

/-- Splits at the quote that ends a quoted value: the first one that is not escaped. A backslash
takes the character behind it with it, whatever that is. -/
def splitAtQuote (quote : Char) : List Char → Option (List Char × List Char)
  | [] => none
  | [c] => if c = quote then some ([], []) else none
  | c :: d :: rest =>
      if c = quote then some ([], d :: rest)
      else if c = '\\' then (splitAtQuote quote rest).map (fun p => (c :: d :: p.1, p.2))
      else (splitAtQuote quote (d :: rest)).map (fun p => (c :: p.1, p.2))

/-- What the escapes in single quotes stand for. -/
def singleEscape (c : Char) : Option Char :=
  if c = '\\' ∨ c = singleQuote then some c else none

/-- What the escapes in double quotes stand for. -/
def doubleEscape (c : Char) : Option Char :=
  match c with
  | 'a' => some '\x07'
  | 'b' => some '\x08'
  | 'f' => some '\x0c'
  | 'n' => some '\n'
  | 'r' => some '\r'
  | 't' => some '\t'
  | 'v' => some '\x0b'
  | c => if c = '\\' ∨ c = singleQuote ∨ c = doubleQuote then some c else none

/-- A text with its escapes replaced; a backslash before anything else stands for itself. -/
def unescape (escape : Char → Option Char) : List Char → List Char
  | [] => []
  | [c] => [c]
  | c :: d :: rest =>
      match if c = '\\' then escape d else none with
      | some e => e :: unescape escape rest
      | none => c :: unescape escape (d :: rest)

/-- A line up to the comment in it: a number sign behind a blank, and all that follows. -/
def dropComment : List Char → List Char
  | [] => []
  | [c] => [c]
  | c :: d :: rest =>
      if Text.isBlank c && d == '#' then [] else c :: dropComment (d :: rest)

/-- The value of a line without quotes. -/
def plainValue (line : List Char) : List Char := Text.trimEnd (dropComment line)

/-- The value at the start of a text, and the text behind it. -/
def readValue (s : List Char) : Option (List Char × List Char) :=
  match s with
  | [] => some ([], [])
  | c :: rest =>
      if c = singleQuote then
        (splitAtQuote singleQuote rest).map (fun p => (unescape singleEscape p.1, p.2))
      else if c = doubleQuote then
        (splitAtQuote doubleQuote rest).map (fun p => (unescape doubleEscape p.1, p.2))
      else some (plainValue (lineOf s), fromLineEnd s)

/-! ## Lines -/

/-- The text behind a comment, if there is one. -/
def skipComment (s : List Char) : List Char :=
  match dropGap s with
  | '#' :: rest => fromLineEnd rest
  | _ => s

/-- What reading an assignment yields: the assignment, if the line holds one, and the text behind
it, or the place where reading stopped. -/
abbrev Reading := Except (List Char) (Option Assignment × List Char)

/-- Ends a line: only a comment may follow. -/
def endLine (a : Option Assignment) (s : List Char) : Reading :=
  match dropGap (skipComment s) with
  | [] => pure (a, [])
  | '\n' :: rest => pure (a, rest)
  | _ => throw (skipComment s)

/-- Reads what follows a name. -/
def readAssignment (name s : List Char) : Reading :=
  match dropGap s with
  | '=' :: rest =>
      match readValue (dropGap rest) with
      | some (value, behind) => endLine (some ⟨name, some value⟩) behind
      | none => throw (dropGap rest)
  -- Without an equals sign the name stands alone.
  | _ => endLine (some ⟨name, none⟩) (dropGap s)

/-- Reads the next assignment or comment. -/
def readEntry (s : List Char) : Reading :=
  match dropExport (Text.trimStart s) with
  | [] => pure (none, [])
  -- A comment may stand in the place of an assignment.
  | '#' :: rest => endLine none ('#' :: rest)
  | t =>
      match readName t with
      | some (name, behind) => readAssignment name behind
      | none => throw t

/-! ## Progress

Reading an assignment leaves less text than there was, so a file is read in finitely many steps. -/

theorem length_dropGap_le (s : List Char) : (dropGap s).length ≤ s.length :=
  (List.dropWhile_suffix _).length_le

theorem length_fromLineEnd_le (s : List Char) : (fromLineEnd s).length ≤ s.length :=
  (List.dropWhile_suffix _).length_le

theorem length_dropLine_le (s : List Char) : (dropLine s).length ≤ s.length - 1 := by
  have := length_fromLineEnd_le s
  simp only [dropLine, List.length_drop]
  omega

theorem length_dropExport_le (s : List Char) : (dropExport s).length ≤ s.length := by
  have := length_dropGap_le (s.drop exportWord.length)
  simp only [List.length_drop] at this
  unfold dropExport
  split
  · dsimp only
    split <;> omega
  · exact Nat.le_refl _

theorem length_skipComment_le (s : List Char) : (skipComment s).length ≤ s.length := by
  have hs := length_dropGap_le s
  unfold skipComment
  split
  · rename_i rest h
    have := length_fromLineEnd_le rest
    rw [h, List.length_cons] at hs
    omega
  · exact Nat.le_refl _

theorem length_of_splitAtQuote {quote : Char} {s value behind : List Char}
    (h : splitAtQuote quote s = some (value, behind)) : behind.length ≤ s.length := by
  fun_induction splitAtQuote quote s generalizing value behind with
  | case1 => simp at h
  | case2 => simp_all
  | case3 => simp at h
  | case4 => simp_all
  | case5 d rest hc ih =>
      obtain ⟨p, hp, he⟩ := Option.map_eq_some_iff.1 h
      simp only [Prod.mk.injEq] at he
      have := @ih p.1 p.2 hp
      simp only [List.length_cons, ← he.2]
      omega
  | case6 c d rest hc hd ih =>
      obtain ⟨p, hp, he⟩ := Option.map_eq_some_iff.1 h
      simp only [Prod.mk.injEq] at he
      have := @ih p.1 p.2 hp
      simp only [List.length_cons, ← he.2] at this ⊢
      omega

theorem length_of_readValue {s value behind : List Char}
    (h : readValue s = some (value, behind)) : behind.length ≤ s.length := by
  unfold readValue at h
  split at h
  · simp_all
  · rename_i c rest
    split at h
    · obtain ⟨p, hp, he⟩ := Option.map_eq_some_iff.1 h
      simp only [Prod.mk.injEq] at he
      have := length_of_splitAtQuote hp
      simp only [List.length_cons, ← he.2]
      omega
    · split at h
      · obtain ⟨p, hp, he⟩ := Option.map_eq_some_iff.1 h
        simp only [Prod.mk.injEq] at he
        have := length_of_splitAtQuote hp
        simp only [List.length_cons, ← he.2]
        omega
      · simp only [Option.some.injEq, Prod.mk.injEq] at h
        exact h.2 ▸ length_fromLineEnd_le _

theorem length_of_readName {s name behind : List Char}
    (h : readName s = some (name, behind)) : behind.length ≤ s.length := by
  unfold readName at h
  split at h
  · simp at h
  · rename_i c rest
    split at h
    · split at h
      · rename_i heq
        have hd := (List.dropWhile_suffix (l := rest) (· != singleQuote)).length_le
        rw [heq] at hd
        simp only [Option.some.injEq, Prod.mk.injEq] at h
        simp only [List.length_cons, ← h.2] at hd ⊢
        omega
      · simp at h
    · split at h
      · simp at h
      · simp only [Option.some.injEq, Prod.mk.injEq] at h
        exact h.2 ▸ (List.dropWhile_suffix _).length_le

/-- Where reading goes on: behind an assignment, or behind the line on which it stopped. -/
def resume : Reading → Option Assignment × List Char
  | .ok p => p
  | .error stopped => (none, dropLine stopped)

theorem length_resume_endLine (a : Option Assignment) (s : List Char) :
    (resume (endLine a s)).2.length ≤ s.length - 1 := by
  have hs := length_skipComment_le s
  have hg := length_dropGap_le (skipComment s)
  unfold endLine
  split
  · exact Nat.zero_le _
  · rename_i rest h
    rw [h, List.length_cons] at hg
    show rest.length ≤ s.length - 1
    omega
  · have := length_dropLine_le (skipComment s)
    show (dropLine (skipComment s)).length ≤ s.length - 1
    omega

theorem length_resume_readAssignment (name s : List Char) :
    (resume (readAssignment name s)).2.length ≤ s.length - 1 := by
  have hs := length_dropGap_le s
  unfold readAssignment
  split
  · rename_i rest h
    rw [h, List.length_cons] at hs
    have hr := length_dropGap_le rest
    split
    · rename_i value behind hv
      have := length_of_readValue hv
      have := length_resume_endLine (some ⟨name, some value⟩) behind
      omega
    · have := length_dropLine_le (dropGap rest)
      show (dropLine (dropGap rest)).length ≤ s.length - 1
      omega
  · have := length_resume_endLine (some ⟨name, none⟩) (dropGap s)
    omega

/-- Reading goes forward. -/
theorem length_resume_readEntry (s : List Char) :
    (resume (readEntry s)).2.length ≤ s.length - 1 := by
  have hs : (Text.trimStart s).length ≤ s.length := (List.dropWhile_suffix _).length_le
  have he := length_dropExport_le (Text.trimStart s)
  unfold readEntry
  split
  · exact Nat.zero_le _
  · rename_i rest h
    rw [h] at he
    have := length_resume_endLine none ('#' :: rest)
    omega
  · split
    · rename_i name behind hn
      have := length_of_readName hn
      have := length_resume_readAssignment name behind
      omega
    · have := length_dropLine_le (dropExport (Text.trimStart s))
      show (dropLine (dropExport (Text.trimStart s))).length ≤ s.length - 1
      omega

/-- The assignments from a place in a file on. A line that is malformed is skipped from the place on
where reading stopped. -/
def readFrom (s : List Char) : List Assignment :=
  match s with
  | [] => []
  | c :: rest =>
      have : (resume (readEntry (c :: rest))).2.length ≤ rest.length :=
        length_resume_readEntry (c :: rest)
      (resume (readEntry (c :: rest))).1.toList ++ readFrom (resume (readEntry (c :: rest))).2
termination_by s.length
decreasing_by simp only [List.length_cons]; omega

/-- The mark that may stand in front of a file's text and is no part of it. -/
def byteOrderMark : Char := '\uFEFF'

/-- A text without the mark in front of it. -/
def dropMark : List Char → List Char
  | c :: rest => if c = byteOrderMark then rest else c :: rest
  | [] => []

/-- The assignments in a file. -/
def assignments (content : String) : List Assignment :=
  readFrom (unifyBreaks (dropMark content.toList))

end Rebac.Settings
