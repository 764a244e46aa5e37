import Rebac.Proofs.CheckAnswers

set_option autoImplicit false

/-!
# Bodies that cannot be read

A body is JSON if it is the text of a document that the reader accepts. What is said about one that
is not never reads like a report that a tenant exists, although it is composed of numbers and
letters of the body (`Http.isDuplicate_of_readBody`). A rejection is read even if its body is not
JSON, unless the data in it is nested too deeply (`Http.bodyFailure?_eq_some_iff`); brackets that
open arrays are enough for that (`Http.readBody_brackets`).
-/

namespace Rebac

namespace Text

variable {a b : Char} {s t : List Char}

/-- Two characters nowhere stand in a text one behind the other, and the second one does not begin
the text. -/
def Apart (a b : Char) (s : List Char) : Prop := occursIn [a, b] s = false ∧ s.head? ≠ some b

instance : Decidable (Apart a b s) := inferInstanceAs (Decidable (_ ∧ _))

theorem apart_of_not_mem (h : b ∉ s) : Apart a b s := by
  refine ⟨Bool.eq_false_iff.2 fun hoccurs => h ?_, fun hhead => h (List.mem_of_head? hhead)⟩
  exact ((occursIn_iff _ _).1 hoccurs).subset (by simp)

/-- Characters that are apart in two texts are apart where these meet, too. -/
theorem Apart.append (hs : Apart a b s) (ht : Apart a b t) : Apart a b (s ++ t) := by
  have hinside : occursIn [a, b] (s ++ t) = false := by
    obtain ⟨hs, -⟩ := hs
    -- Only the last character of the first text is followed by one of the second.
    induction s with
    | nil => exact ht.1
    | cons c rest ih =>
        rw [occursIn, Bool.or_eq_false_iff] at hs
        rw [List.cons_append, occursIn, ih hs.2, Bool.or_false]
        cases rest with
        | nil =>
            cases t with
            | nil => simp [List.isPrefixOf]
            | cons d t =>
                have hne : b ≠ d := fun h => ht.2 (by rw [h]; rfl)
                simp [List.isPrefixOf, hne]
        | cons d rest => exact hs.1
  refine ⟨hinside, ?_⟩
  cases s with
  | nil => exact ht.2
  | cons c rest => exact hs.2

/-- A word that holds two characters one behind the other does not occur where they are apart. -/
theorem Apart.not_occursIn {word : List Char} (hs : Apart a b s)
    (hword : occursIn [a, b] word = true) : occursIn word s = false := by
  refine Bool.eq_false_iff.2 fun hoccurs => ?_
  have hinfix := ((occursIn_iff _ _).1 hword).trans ((occursIn_iff _ _).1 hoccurs)
  exact absurd ((occursIn_iff _ _).2 hinfix) (Bool.eq_false_iff.1 hs.1)

end Text

namespace Failure

/-- A text in which two letters of each word for a duplicate do not meet: those in the middle of
`already` and of `UNIQUE`. -/
def IsPlain (s : String) : Prop :=
  Text.Apart 'd' 'y' s.toList ∧ Text.Apart 'I' 'Q' s.toList

instance (s : String) : Decidable (IsPlain s) := inferInstanceAs (Decidable (_ ∧ _))

theorem IsPlain.append {s t : String} (hs : IsPlain s) (ht : IsPlain t) : IsPlain (s ++ t) := by
  rw [IsPlain, String.toList_append]
  exact ⟨hs.1.append ht.1, hs.2.append ht.2⟩

theorem isPlain_toString (n : Nat) : IsPlain (toString n) := by
  have hdigits : ∀ c ∈ (toString n).toList, c.isDigit = true := fun c hc => by
    rw [Nat.toString_eq_repr, Nat.repr_eq_ofList_toDigits, String.toList_ofList] at hc
    exact Nat.isDigit_of_mem_toDigits (by decide) (by decide) hc
  exact ⟨Text.apart_of_not_mem fun h => absurd (hdigits _ h) (by decide),
    Text.apart_of_not_mem fun h => absurd (hdigits _ h) (by decide)⟩

theorem isPlain_hexDigit {n : Nat} (h : n < 16) :
    IsPlain (String.singleton (Nat.digitChar n)) := by
  have hall : ∀ n < 16, IsPlain (String.singleton (Nat.digitChar n)) := by decide
  exact hall n h

/-- What is said about bytes that are no text. -/
theorem isPlain_decodeFault (f : Text.DecodeFault) : IsPlain f.message := by
  have hname : IsPlain f.encoding.name := by
    cases f.encoding with
    | utf8 => decide
    | utf16 bigEndian => cases bigEndian <;> decide
    | utf32 bigEndian => cases bigEndian <;> decide
  have hreason : IsPlain f.reason.text := by
    cases f.reason <;> decide +kernel
  have hhigh : f.byte.toNat / 16 < 16 := Nat.div_lt_of_lt_mul f.byte.toNat_lt
  have hlow : f.byte.toNat % 16 < 16 := Nat.mod_lt _ (by decide)
  rw [Text.DecodeFault.message]
  dsimp only
  refine .append (.append (.append (.append (.append ?_ hname) ?_) ?_) ?_) hreason
  · decide
  · decide +kernel
  · split
    · refine .append (.append (.append (.append ?_ (isPlain_hexDigit hhigh))
        (isPlain_hexDigit hlow)) ?_) (isPlain_toString _)
      · decide
      · decide +kernel
    · refine .append (.append (.append ?_ (isPlain_toString _)) ?_) (isPlain_toString _)
      · decide +kernel
      · decide
  · decide

/-- What is said about a text that is no JSON. -/
theorem isPlain_readFault (f : Json.ReadFault) (document : List Char) :
    IsPlain (f.message document) := by
  have hplace : IsPlain (f.place document) := by
    rw [Json.ReadFault.place]
    refine .append (.append (.append (.append (.append (.append ?_ (isPlain_toString _)) ?_)
      (isPlain_toString _)) ?_) (isPlain_toString _)) ?_
    all_goals decide
  rw [Json.ReadFault.message]
  cases f.reason with
  | tooLong digits =>
      refine .append (.append (.append (.append ?_ (isPlain_toString _)) ?_)
        (isPlain_toString _)) ?_
      all_goals decide +kernel
  | tooDeep isObject =>
      have hreason : ∀ isObject, IsPlain (Json.ReadFault.reasonText (.tooDeep isObject)) := by
        decide +kernel
      exact hreason isObject
  | _ =>
      refine .append (.append ?_ ?_) hplace
      · decide +kernel
      · decide

end Failure

namespace Json

/-! ## Arrays within too many others -/

theorem readValue_of_maxDepth {depth : Nat} (h : maxDepth ≤ depth) (fuel position : Nat)
    (rest : List Char) : readValue depth (fuel + 1) ⟨'[' :: rest, position⟩ =
      .error ⟨.tooDeep false, position⟩ := by
  rw [readValue]
  simp only [if_pos h]
  rfl

/-- What is wrong with the items of an array is wrong with the array. -/
theorem readValue_of_items {depth fuel position : Nat} {rest : List Char} {f : ReadFault}
    (h : depth < maxDepth)
    (hitems : readItems (depth + 1) fuel ⟨'[' :: rest, position + 1⟩ = .error f) :
    readValue depth (fuel + 1) ⟨'[' :: '[' :: rest, position⟩ = .error f := by
  have hskip : ((⟨'[' :: '[' :: rest, position⟩ : Cursor).skip 1).skipSpace =
    ⟨'[' :: rest, position + 1⟩ := rfl
  rw [readValue]
  simp [Nat.not_le.2 h, hskip, hitems]

theorem readValue_brackets (k : Nat) : ∀ {depth fuel n : Nat} (position : Nat),
    depth + k = maxDepth → k < n → 2 * k < fuel →
      readValue depth fuel ⟨List.replicate n '[', position⟩ =
        .error ⟨.tooDeep false, position + k⟩ := by
  -- Each bracket takes a value, an item and one of the arrays that are allowed.
  induction k with
  | zero =>
      intro depth fuel n position hdepth hn hfuel
      obtain ⟨fuel, rfl⟩ : ∃ m, fuel = m + 1 := ⟨fuel - 1, by omega⟩
      obtain ⟨n, rfl⟩ : ∃ m, n = m + 1 := ⟨n - 1, by omega⟩
      exact readValue_of_maxDepth (Nat.le_of_eq hdepth.symm) fuel position _
  | succ k ih =>
      intro depth fuel n position hdepth hn hfuel
      obtain ⟨fuel, rfl⟩ : ∃ m, fuel = m + 2 := ⟨fuel - 2, by omega⟩
      obtain ⟨n, rfl⟩ : ∃ m, n = m + 2 := ⟨n - 2, by omega⟩
      refine readValue_of_items (by omega) ?_
      change readItems (depth + 1) (fuel + 1) ⟨List.replicate (n + 1) '[', position + 1⟩ = _
      rw [readItems, ih (position + 1) (by omega) (by omega) (by omega), Nat.add_right_comm]
      rfl

theorem read_brackets {n : Nat} (h : maxDepth < n) :
    read (List.replicate n '[') = .error ⟨.tooDeep false, maxDepth⟩ := by
  have hvalue : readValue 0 (2 * n + 2) ⟨List.replicate n '[', 0⟩ =
      .error ⟨.tooDeep false, 0 + maxDepth⟩ :=
    readValue_brackets maxDepth 0 (Nat.zero_add _) h (by omega)
  obtain ⟨n, rfl⟩ : ∃ m, n = m + 1 := ⟨n - 1, by omega⟩
  rw [read, List.length_replicate]
  change (readValue 0 (2 * (n + 1) + 2) ⟨List.replicate (n + 1) '[', 0⟩ >>= _) = _
  rw [hvalue, Nat.zero_add]
  rfl

theorem decodeFrom_brackets (n : Nat) : ∀ position,
    Text.Utf8.decodeFrom true 0 position (List.replicate n 0x5B) =
      .ok (List.replicate n '[') := by
  induction n with
  | zero => exact fun _ => rfl
  | succ n ih =>
      intro position
      have hpiece : Text.Utf8.pieceWith true 0x5B (List.replicate n 0x5B) = .char '[' 1 := by
        match n with
        | 0 | 1 => rfl
        | n + 2 => rfl
      rw [List.replicate_succ, Text.Utf8.decodeFrom]
      simp only [hpiece, ih]
      rfl

theorem decodeBytes_brackets (n : Nat) :
    decodeBytes (List.replicate n 0x5B) = .ok (List.replicate n '[') := by
  -- A bracket is neither a zero nor part of a byte order mark.
  have hplain : decodeBytes (List.replicate n 0x5B) =
      Text.Utf8.decodeHalves (List.replicate n 0x5B) := by
    match n with
    | 0 | 1 | 2 | 3 => rfl
    | n + 4 => rfl
  rw [hplain]
  exact decodeFrom_brackets n 0

end Json

namespace Http

variable {bytes : List UInt8}

/-! ## Bodies -/

/-- The body of an answer is JSON. -/
def IsJson (bytes : List UInt8) : Prop :=
  ∃ document j, Json.decodeBytes bytes = .ok document ∧ Json.read document = .ok j

/-- The data of a body is nested too deeply. -/
def IsTooDeep (bytes : List UInt8) : Prop :=
  ∃ document isObject position, Json.decodeBytes bytes = .ok document ∧
    Json.read document = .error ⟨.tooDeep isObject, position⟩

/-- The text of a body is no JSON. -/
theorem readBody_eq_unreadable_iff {g : Json.ReadFault} {document : List Char} :
    readBody bytes = .error (.unreadable g document) ↔
      Json.decodeBytes bytes = .ok document ∧ Json.read document = .error g := by
  constructor
  · intro h
    unfold readBody at h
    split at h
    · cases h
    · next hdocument =>
      split at h
      · next hread =>
        cases h
        exact ⟨hdocument, hread⟩
      · cases h
  · rintro ⟨hdocument, hread⟩
    rw [readBody, hdocument]
    dsimp only
    rw [hread]
    rfl

/-- The failure of a body that is nested too deeply. -/
theorem bodyFailure?_eq_some_iff {f : Failure} :
    bodyFailure? bytes = some f ↔ IsTooDeep bytes ∧ readBody bytes = .error f := by
  constructor
  · intro h
    unfold bodyFailure? at h
    split at h
    · next isObject position document hbody =>
      cases h
      exact ⟨⟨document, isObject, position, readBody_eq_unreadable_iff.1 hbody⟩, hbody⟩
    · cases h
  · rintro ⟨⟨document, isObject, position, hread⟩, h⟩
    rw [readBody_eq_unreadable_iff.2 hread] at h
    cases h
    rw [bodyFailure?, readBody_eq_unreadable_iff.2 hread]

theorem bodyFailure?_eq_none_iff : bodyFailure? bytes = none ↔ ¬ IsTooDeep bytes := by
  rw [Option.eq_none_iff_forall_ne_some]
  constructor
  · rintro h ⟨document, isObject, position, hread⟩
    exact h _ (bodyFailure?_eq_some_iff.2
      ⟨⟨document, isObject, position, hread⟩, readBody_eq_unreadable_iff.2 hread⟩)
  · intro h f hf
    exact h (bodyFailure?_eq_some_iff.1 hf).1

theorem isJson_iff : IsJson bytes ↔ ∃ v, readBody bytes = .ok v := by
  constructor
  · rintro ⟨document, j, hdocument, hread⟩
    exact ⟨_, readBody_eq_ok_iff.2 ⟨document, j, hdocument, hread, rfl⟩⟩
  · rintro ⟨v, hv⟩
    obtain ⟨document, j, hdocument, hread, -⟩ := readBody_eq_ok_iff.1 hv
    exact ⟨document, j, hdocument, hread⟩

/-- The body of a success has data if it is empty or JSON. -/
theorem exists_readResult_iff : (∃ v, readResult bytes = .ok v) ↔ bytes = [] ∨ IsJson bytes := by
  rw [isJson_iff, readResult]
  cases bytes with
  | nil => exact iff_of_true ⟨_, rfl⟩ (Or.inl rfl)
  | cons b rest => simp

theorem readBody_ne_rejected {message : String} {status code : Value} :
    readBody bytes ≠ .error (.rejected message status code) := by
  intro h
  unfold readBody at h
  split at h
  · cases h
  split at h
  · cases h
  · cases h

/-- **A body that cannot be read is not taken for a report of a duplicate.** -/
theorem isDuplicate_of_readBody {f : Failure} (h : readBody bytes = .error f) :
    f.isDuplicate = false := by
  have hwords : ∀ g : Failure, Failure.IsPlain g.text →
      Failure.duplicateWords.any (fun w => Text.occursIn w.toList g.text.toList) = false := by
    intro g hg
    rw [Failure.duplicateWords, List.any_cons, List.any_cons, hg.1.not_occursIn (by decide),
      hg.2.not_occursIn (by decide)]
    rfl
  -- These failures have no code and no status, so that only their words count.
  unfold readBody at h
  split at h
  · cases h
    exact hwords _ (Failure.isPlain_decodeFault _)
  split at h
  · cases h
    exact hwords _ (Failure.isPlain_readFault _ _)
  · cases h

/-- A body of too many brackets is nested too deeply. -/
theorem readBody_brackets {n : Nat} (h : Json.maxDepth < n) :
    readBody (List.replicate n 0x5B) =
      .error (.unreadable ⟨.tooDeep false, Json.maxDepth⟩ (List.replicate n '[')) :=
  readBody_eq_unreadable_iff.2 ⟨Json.decodeBytes_brackets n, Json.read_brackets h⟩

end Http

end Rebac
