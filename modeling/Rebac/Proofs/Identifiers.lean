import Rebac.Proofs.References

set_option autoImplicit false

/-!
# Reading the identifiers of an expression

Two laws say how identifiers are read (`ReadsIdentifiers`): where white space and parentheses stand
between two texts, the identifiers are those of the first and then those of the second, and a text
without white space and parentheses is one identifier, unless it is empty or an operator. Every text
is put together from such texts by such gaps, so there is just one way to read that obeys both laws
(`ReadsIdentifiers.unique`). The identifiers of an expression obey them, and so they are read again
from what they make with single spaces between them (`identifiers_lawful`).
-/

namespace Rebac.Expression

/-! ## The laws -/

/-- The characters between words: white space and parentheses. -/
def Separating (c : Char) : Prop := Text.isBlank c = true ∨ c = '(' ∨ c = ')'

instance (c : Char) : Decidable (Separating c) :=
  inferInstanceAs (Decidable (Text.isBlank c = true ∨ c = '(' ∨ c = ')'))

/-- A gap between words: separating characters only, and at least one. -/
def IsGap (s : String) : Prop := s ≠ "" ∧ ∀ c ∈ s.toList, Separating c

/-- A text without separating characters. -/
def IsSolid (w : String) : Prop := ∀ c ∈ w.toList, ¬ Separating c

-- The characters of the text are gone through, and not all characters that there are.
instance (s : String) : Decidable (IsGap s) :=
  have := List.decidableBAll Separating s.toList
  inferInstanceAs (Decidable (_ ∧ _))

instance (w : String) : Decidable (IsSolid w) :=
  List.decidableBAll (fun c => ¬ Separating c) w.toList

/-- What stands between gaps without being an identifier: nothing at all, or an operator. -/
def nonIdentifiers : List String := ["", "and", "or", "not"]

/-- A way to read identifiers: a gap divides a text in two, and what has no gap in it is read as it
is. -/
structure ReadsIdentifiers (read : String → List String) : Prop where
  gap : ∀ a s b, IsGap s → read (a ++ s ++ b) = read a ++ read b
  solid : ∀ w, IsSolid w → read w = if w ∈ nonIdentifiers then [] else [w]

section Characters

variable {c : Char} {v w : String}

theorem isSeparator_iff : isSeparator c = true ↔ Separating c := by
  simp [isSeparator, Separating, or_assoc]

theorem isSeparator_eq_false_iff : isSeparator c = false ↔ ¬ Separating c := by
  rw [← isSeparator_iff, Bool.not_eq_true]

theorem isGap_singleton (hc : Separating c) : IsGap (String.singleton c) := by
  refine ⟨fun h => ?_, ?_⟩
  · simpa using congrArg String.toList h
  · simpa using hc

theorem isSolid_empty : IsSolid "" := by
  simp [IsSolid]

theorem IsSolid.append_singleton (hw : IsSolid w) (hc : ¬ Separating c) :
    IsSolid (w ++ String.singleton c) := by
  simpa [IsSolid, or_imp, forall_and, hc] using hw

end Characters

/-! ## What follows from the laws -/

namespace ReadsIdentifiers

variable {read read' : String → List String}

/-- **There is one way to read identifiers.** -/
theorem unique (h : ReadsIdentifiers read) (h' : ReadsIdentifiers read') : read = read' := by
  -- Behind the last gap that has been passed there is a solid text, which grows up to the next gap.
  have hfrom : ∀ (rest : List Char) (w : String), IsSolid w →
      read (w ++ String.ofList rest) = read' (w ++ String.ofList rest) := by
    intro rest
    induction rest with
    | nil =>
        intro w hw
        rw [String.ofList_nil, String.append_empty, h.solid w hw, h'.solid w hw]
    | cons c rest ih =>
        intro w hw
        have htext : w ++ String.ofList (c :: rest) =
            w ++ String.singleton c ++ String.ofList rest := by
          rw [String.append_assoc]
          simp
        rw [htext]
        by_cases hc : Separating c
        · have hrest := ih "" isSolid_empty
          rw [String.empty_append] at hrest
          rw [h.gap w _ _ (isGap_singleton hc), h'.gap w _ _ (isGap_singleton hc), hrest,
            h.solid w hw, h'.solid w hw]
        · exact ih _ (hw.append_singleton hc)
  funext text
  have htext := hfrom text.toList "" isSolid_empty
  rwa [String.empty_append, String.ofList_toList] at htext

/-- Identifiers with single spaces between them are read again. -/
theorem read_intercalate (h : ReadsIdentifiers read) {ws : List String}
    (hws : ∀ w ∈ ws, IsSolid w ∧ w ∉ nonIdentifiers) : read (" ".intercalate ws) = ws := by
  induction ws with
  | nil => exact h.solid "" isSolid_empty
  | cons w ws ih =>
      obtain ⟨⟨hsolid, hidentifier⟩, hws⟩ := List.forall_mem_cons.1 hws
      have hfirst : read w = [w] := by rw [h.solid w hsolid, if_neg hidentifier]
      cases ws with
      | nil => rw [String.intercalate_singleton, hfirst]
      | cons v ws =>
          have hspace : IsGap " " := by decide
          rw [String.intercalate_cons_cons, h.gap _ _ _ hspace, hfirst, ih hws]
          rfl

end ReadsIdentifiers

/-! ## The identifiers of an expression -/

section Words

variable {a b s : List Char} {c : Char}

/-- A separating character divides the words of a text in two. -/
theorem identifierWords_append_cons (hc : isSeparator c = true) (a b : List Char) :
    identifierWords (a ++ c :: b) = identifierWords a ++ identifierWords b := by
  simp only [identifierWords, Text.pieces_eq_splitOnP, List.splitOnP_append_cons _ _ hc,
    List.filter_append]

theorem identifierWords_append_gap (hne : s ≠ []) (hs : ∀ c ∈ s, isSeparator c = true)
    (a b : List Char) : identifierWords (a ++ s ++ b) = identifierWords a ++ identifierWords b := by
  induction s generalizing a with
  | nil => exact absurd rfl hne
  | cons c s ih =>
      obtain ⟨hc, hs⟩ := List.forall_mem_cons.1 hs
      rw [List.append_assoc, List.cons_append, identifierWords_append_cons hc]
      -- What is left of the gap, if anything is, stands behind an empty text.
      cases s with
      | nil => rfl
      | cons d s => exact congrArg (identifierWords a ++ ·) (ih (List.cons_ne_nil d s) hs [])

theorem identifierWords_of_solid (hs : ∀ c ∈ s, isSeparator c = false) :
    identifierWords s = [s].filter isIdentifier := by
  rw [identifierWords, Text.pieces_of_forall_not _ hs]

end Words

theorem isIdentifier_iff {w : String} : isIdentifier w.toList = true ↔ w ∉ nonIdentifiers := by
  simp [isIdentifier, nonIdentifiers, operators]

theorem readsIdentifiers_identifiers : ReadsIdentifiers identifiers where
  gap := by
    rintro a s b ⟨hne, hs⟩
    have hwords := identifierWords_append_gap (by simpa using hne)
      (fun c hc => isSeparator_iff.2 (hs c hc)) a.toList b.toList
    simp only [identifiers, String.toList_append, hwords, List.map_append]
  solid := by
    intro w hw
    rw [identifiers, identifierWords_of_solid fun c hc => isSeparator_eq_false_iff.2 (hw c hc)]
    by_cases h : w ∈ nonIdentifiers
    · have hnone : isIdentifier w.toList = false :=
        Bool.eq_false_iff.2 fun hidentifier => isIdentifier_iff.1 hidentifier h
      rw [if_pos h, List.filter_singleton, hnone]
      rfl
    · rw [if_neg h, List.filter_singleton, isIdentifier_iff.2 h, cond_true, List.map_singleton,
        String.ofList_toList]

/-- An identifier has no separating character in it, is not empty and is no operator. -/
theorem isSolid_of_mem_identifiers {e i : String} (h : i ∈ identifiers e) :
    IsSolid i ∧ i ∉ nonIdentifiers := by
  obtain ⟨w, hw, rfl⟩ := List.mem_map.1 h
  obtain ⟨hpiece, hidentifier⟩ := List.mem_filter.1 hw
  refine ⟨fun c hc => ?_, isIdentifier_iff.1 ?_⟩
  · rw [String.toList_ofList] at hc
    exact isSeparator_eq_false_iff.1 (Text.not_of_mem_pieces isSeparator _ w hpiece c hc)
  · rwa [String.toList_ofList]

/-- **The identifiers of an expression are read by two laws, and the laws admit no other reading.**
No identifier is empty or an operator or has white space or a parenthesis in it, and the identifiers
of an expression are those of their text with single spaces between them. -/
theorem identifiers_lawful :
    (∀ e, ∀ i ∈ identifiers e,
      i ≠ "" ∧ (∀ c ∈ i.toList, ¬ Separating c) ∧ i ≠ "and" ∧ i ≠ "or" ∧ i ≠ "not") ∧
    (∀ a s b, s ≠ "" → (∀ c ∈ s.toList, Separating c) →
      identifiers (a ++ s ++ b) = identifiers a ++ identifiers b) ∧
    (∀ w, (∀ c ∈ w.toList, ¬ Separating c) →
      identifiers w = if w = "" ∨ w = "and" ∨ w = "or" ∨ w = "not" then [] else [w]) ∧
    (∀ e, identifiers (" ".intercalate (identifiers e)) = identifiers e) ∧
    ∀ read, ReadsIdentifiers read ↔ read = identifiers := by
  have hlaws := readsIdentifiers_identifiers
  refine ⟨fun e i hi => ?_, fun a s b hne hs => hlaws.gap a s b ⟨hne, hs⟩, fun w hw => ?_,
    fun e => hlaws.read_intercalate fun i hi => isSolid_of_mem_identifiers hi,
    fun read => ⟨fun hread => hread.unique hlaws, fun hread => hread ▸ hlaws⟩⟩
  · obtain ⟨hsolid, hidentifier⟩ := isSolid_of_mem_identifiers hi
    simp only [nonIdentifiers, List.mem_cons, List.not_mem_nil, or_false, not_or] at hidentifier
    exact ⟨hidentifier.1, hsolid, hidentifier.2⟩
  · rw [hlaws.solid w hw]
    simp [nonIdentifiers]

/-- **Two identifiers with a tabulator, a parenthesis and a no-break space between them.** -/
theorem gapOfThree_identifiers :
    ("\t(\u00a0" ≠ "" ∧ (∀ c ∈ "\t(\u00a0".toList, Separating c) ∧
      (∀ c ∈ "owner".toList, ¬ Separating c) ∧ ∀ c ∈ "parent.view".toList, ¬ Separating c) ∧
    identifiers "owner\t(\u00a0parent.view" = ["owner", "parent.view"] ∧
    identifiers "owner parent.view" = ["owner", "parent.view"] := by
  obtain ⟨hne, hgap⟩ : IsGap "\t(\u00a0" := by decide
  have howner : IsSolid "owner" := by decide
  have hview : IsSolid "parent.view" := by decide
  obtain ⟨-, hsplit, hsolid, hagain, -⟩ := identifiers_lawful
  have hread : identifiers "owner\t(\u00a0parent.view" = ["owner", "parent.view"] := by
    calc identifiers "owner\t(\u00a0parent.view"
      _ = identifiers "owner" ++ identifiers "parent.view" :=
          hsplit "owner" "\t(\u00a0" "parent.view" hne hgap
      _ = ["owner", "parent.view"] := by
          rw [hsolid _ howner, hsolid _ hview]
          rfl
  have hjoined := hagain "owner\t(\u00a0parent.view"
  rw [hread] at hjoined
  exact ⟨⟨hne, hgap, howner, hview⟩, hread, hjoined⟩

end Rebac.Expression
