set_option autoImplicit false

/-!
# Texts

What this library needs to know of texts in general: the pieces into which a text falls, white space
and digits, whether a text occurs in another one, and how several texts are listed.
-/

/-!
## Pieces of a text

A text falls into pieces at the characters of a class. The pieces hold no character of the class,
and there is one more of them than there are such characters. The last piece is what the text ends
with.
-/

namespace Rebac.Text

/-- The pieces of a text between the characters that satisfy `p`: one more than there are such
characters. -/
def pieces (p : Char → Bool) : List Char → List (List Char)
  | [] => [[]]
  | c :: rest =>
      if p c then [] :: pieces p rest
      else
        match pieces p rest with
        | [] => [[c]]
        | w :: ws => (c :: w) :: ws

theorem pieces_ne_nil (p : Char → Bool) (s : List Char) : pieces p s ≠ [] := by
  induction s with
  | nil => simp [pieces]
  | cons c rest ih =>
      simp only [pieces]
      split
      · simp
      · split <;> simp

/-- No piece holds a separating character. -/
theorem not_of_mem_pieces (p : Char → Bool) (s : List Char) :
    ∀ w ∈ pieces p s, ∀ c ∈ w, p c = false := by
  induction s with
  | nil => simp [pieces]
  | cons x rest ih =>
      simp only [pieces]
      split
      · intro w hw c hc
        rcases List.mem_cons.1 hw with rfl | hw
        · simp at hc
        · exact ih w hw c hc
      · rename_i hx
        split
        · intro w hw c hc
          simp only [List.mem_singleton] at hw
          subst hw
          simp only [List.mem_singleton] at hc
          subst hc
          simpa using hx
        · rename_i v vs hv
          rw [hv] at ih
          intro w hw c hc
          rcases List.mem_cons.1 hw with rfl | hw
          · rcases List.mem_cons.1 hc with rfl | hc
            · simpa using hx
            · exact ih v (by simp) c hc
          · exact ih w (by simp [hw]) c hc

/-- A text without separating characters is one piece. -/
theorem pieces_of_forall_not (p : Char → Bool) {s : List Char} (h : ∀ c ∈ s, p c = false) :
    pieces p s = [s] := by
  induction s with
  | nil => rfl
  | cons c rest ih =>
      have hc := h c (by simp)
      have hr := ih (fun x hx => h x (by simp [hx]))
      simp [pieces, hc, hr]

/-- What a text ends with is the end of its last piece, if no separating character is in it. -/
theorem exists_pieces_append {p : Char → Bool} {ending : List Char}
    (h : ∀ c ∈ ending, p c = false) (s : List Char) :
    ∃ before last, pieces p (s ++ ending) = before ++ [last ++ ending] := by
  induction s with
  | nil => exact ⟨[], [], pieces_of_forall_not p h⟩
  | cons c s ih =>
      obtain ⟨before, last, hpieces⟩ := ih
      by_cases hc : p c = true
      · exact ⟨[] :: before, last, by simp [pieces, hc, hpieces]⟩
      · -- The character belongs to the first piece, which may be the last one, too.
        cases before with
        | nil => exact ⟨[], c :: last, by simp [pieces, hc, hpieces]⟩
        | cons piece before =>
            exact ⟨(c :: piece) :: before, last, by simp [pieces, hc, hpieces]⟩

/-- A text ends with its last piece, and is this piece if it has no other. -/
theorem exists_append_of_pieces {p : Char → Bool} {s last : List Char} {before : List (List Char)}
    (h : pieces p s = before ++ [last]) :
    ∃ start, s = start ++ last ∧ (before = [] → start = []) := by
  induction s generalizing before last with
  | nil =>
      obtain ⟨rfl, rfl⟩ : before = [] ∧ last = [] := by
        simpa [pieces, List.singleton_eq_append_iff] using h
      exact ⟨[], rfl, fun _ => rfl⟩
  | cons c s ih =>
      cases hpieces : pieces p s with
      | nil => exact absurd hpieces (pieces_ne_nil p s)
      | cons first rest =>
          by_cases hc : p c = true
          · rw [pieces, if_pos hc] at h
            cases before with
            | nil => exact absurd (List.cons.inj h).2 (pieces_ne_nil p s)
            | cons piece before =>
                obtain ⟨start, hstart, -⟩ := ih (List.cons.inj h).2
                exact ⟨c :: start, by rw [hstart, List.cons_append], by simp⟩
          · rw [pieces, if_neg hc, hpieces] at h
            cases before with
            | nil =>
                -- All of the text is the one piece that the character begins.
                obtain ⟨hlast, hrest⟩ := List.cons.inj h
                have hone : pieces p s = [] ++ [first] := by rw [hpieces, hrest, List.nil_append]
                obtain ⟨start, hstart, hnone⟩ := ih hone
                rw [hnone rfl, List.nil_append] at hstart
                exact ⟨[], by rw [hstart, hlast, List.nil_append], fun _ => rfl⟩
            | cons piece before =>
                have hmore : pieces p s = (first :: before) ++ [last] := by
                  rw [hpieces, (List.cons.inj h).2, List.cons_append]
                  rfl
                obtain ⟨start, hstart, -⟩ := ih hmore
                exact ⟨c :: start, by rw [hstart, List.cons_append], by simp⟩

end Rebac.Text

/-!
## Blank characters

The white space that separates the words of an expression and that trimming removes: the
characters with the Unicode property `White_Space`, and the four information separators
U+001C to U+001F.
-/

namespace Rebac.Text

/-- Blank characters: white space of Unicode and the information separators. -/
def isBlank (c : Char) : Bool :=
  let n := c.toNat
  (0x09 ≤ n && n ≤ 0x0D) || (0x1C ≤ n && n ≤ 0x20) || n == 0x85 || n == 0xA0 || n == 0x1680 ||
    (0x2000 ≤ n && n ≤ 0x200A) || n == 0x2028 || n == 0x2029 || n == 0x202F || n == 0x205F ||
    n == 0x3000

/-- The text without the blanks at its start. -/
def trimStart (s : List Char) : List Char := s.dropWhile isBlank

/-- The text without the blanks at its end. -/
def trimEnd (s : List Char) : List Char := (s.reverse.dropWhile isBlank).reverse

/-- The text without the blanks at either end. -/
def trim (s : List Char) : List Char := trimEnd (trimStart s)

/-- A text of blanks only. -/
def allBlank (s : List Char) : Bool := s.all isBlank

/-- Every blank that the core library knows is one here. -/
theorem isBlank_of_isWhitespace (c : Char) (h : c.isWhitespace = true) : isBlank c = true := by
  simp only [Char.isWhitespace, Bool.or_eq_true, decide_eq_true_eq] at h
  rcases h with ((h | h) | h) | h <;> subst h <;> decide

/-- A text is blank exactly when trimming its start leaves nothing. -/
theorem allBlank_iff (s : List Char) : allBlank s = true ↔ trimStart s = [] := by
  induction s with
  | nil => simp [allBlank, trimStart]
  | cons c r ih =>
      cases h : isBlank c <;> simp_all [allBlank, trimStart]

end Rebac.Text

/-!
## Digits

Decimal digits come in runs of ten consecutive characters, one run per script. Other characters,
such as superscripts and circled numbers, are digits only in name: they have a digit value but take
no part in decimal notation.
-/

namespace Rebac.Text

/-- The zeros of the scripts: the first character of every run of ten decimal digits
(general category `Nd`, Unicode 14). -/
def decimalZeros : List Nat :=
  [
    0x30, 0x660, 0x6F0, 0x7C0, 0x966, 0x9E6, 0xA66, 0xAE6, 0xB66, 0xBE6, 0xC66, 0xCE6, 0xD66,
    0xDE6, 0xE50, 0xED0, 0xF20, 0x1040, 0x1090, 0x17E0, 0x1810, 0x1946, 0x19D0, 0x1A80,
    0x1A90, 0x1B50, 0x1BB0, 0x1C40, 0x1C50, 0xA620, 0xA8D0, 0xA900, 0xA9D0, 0xA9F0, 0xAA50,
    0xABF0, 0xFF10, 0x104A0, 0x10D30, 0x11066, 0x110F0, 0x11136, 0x111D0, 0x112F0, 0x11450,
    0x114D0, 0x11650, 0x116C0, 0x11730, 0x118E0, 0x11950, 0x11C50, 0x11D50, 0x11DA0, 0x16A60,
    0x16AC0, 0x16B50, 0x1D7CE, 0x1D7D8, 0x1D7E2, 0x1D7EC, 0x1D7F6, 0x1E140, 0x1E2F0, 0x1E950,
    0x1FBF0 ]

/-- The ranges of characters that have a digit value and are no decimal digits. -/
def digitLikeRanges : List (Nat × Nat) :=
  [
    (0xB2, 0xB3), (0xB9, 0xB9), (0x1369, 0x1371), (0x19DA, 0x19DA), (0x2070, 0x2070),
    (0x2074, 0x2079), (0x2080, 0x2089), (0x2460, 0x2468), (0x2474, 0x247C), (0x2488, 0x2490),
    (0x24EA, 0x24EA), (0x24F5, 0x24FD), (0x24FF, 0x24FF), (0x2776, 0x277E), (0x2780, 0x2788),
    (0x278A, 0x2792), (0x10A40, 0x10A43), (0x10E60, 0x10E68), (0x11052, 0x1105A),
    (0x1F100, 0x1F10A) ]

/-- The value of a decimal digit of any script. -/
def decimalValue? (c : Char) : Option Nat :=
  let n := c.toNat
  (decimalZeros.find? (fun z => z ≤ n && n < z + 10)).map (fun z => n - z)

/-- Whether a character is a decimal digit. -/
def isDecimal (c : Char) : Bool := (decimalValue? c).isSome

/-- Whether a character has a digit value, in decimal notation or not. -/
def isDigitLike (c : Char) : Bool :=
  isDecimal c || digitLikeRanges.any (fun r => r.1 ≤ c.toNat && c.toNat ≤ r.2)

/-- The number that a list of decimal digits denotes, most significant first; `none` if one of them
is no decimal digit. -/
def decimalNumber? (s : List Char) : Option Nat :=
  s.foldl (fun acc c => do return (← acc) * 10 + (← decimalValue? c)) (some 0)

/-- The value of a decimal digit is below ten. -/
theorem lt_ten_of_decimalValue? {c : Char} {d : Nat} (h : decimalValue? c = some d) : d < 10 := by
  simp only [decimalValue?, Option.map_eq_some_iff] at h
  obtain ⟨z, hz, rfl⟩ := h
  have := List.find?_some hz
  simp only [Bool.and_eq_true, decide_eq_true_eq] at this
  omega

end Rebac.Text

/-!
## Occurrence of a text in another

Whether a text occurs somewhere inside another one. The main statement says that the test decides
whether the one is a contiguous part of the other.
-/

namespace Rebac.Text

/-- Whether the first text occurs in the second. -/
def occursIn (part : List Char) : List Char → Bool
  | [] => part.isEmpty
  | c :: rest => part.isPrefixOf (c :: rest) || occursIn part rest

theorem occursIn_iff (part s : List Char) : occursIn part s = true ↔ part <:+: s := by
  induction s with
  | nil => simp [occursIn]
  | cons c rest ih =>
      rw [occursIn, Bool.or_eq_true, ih, List.isPrefixOf_iff_prefix, List.infix_cons_iff]

end Rebac.Text

/-!
## Listings

The form in which messages show several texts as one: with commas between them, in parentheses as a
tuple or as the fields of a record, and the form of a named choice with the text or number behind
it.
-/

namespace Rebac.Text

/-- The parts of a text, with commas between them. -/
def commas (parts : List String) : String := ", ".intercalate parts

/-- The items of a tuple; one item alone is followed by a comma. -/
def tupleText : List String → String
  | [x] => "(" ++ x ++ ",)"
  | xs => "(" ++ commas xs ++ ")"

/-- The fields of a record. -/
def recordText (name : String) (fields : List (String × String)) : String :=
  name ++ "(" ++ commas (fields.map (fun f => f.1 ++ "=" ++ f.2)) ++ ")"

/-- A named choice: the name of the type, its own name and what stands behind it. -/
def choiceText (type name value : String) : String :=
  "<" ++ type ++ "." ++ name ++ ": " ++ value ++ ">"

end Rebac.Text
