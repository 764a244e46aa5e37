import Mathlib.Algebra.Group.Int.Defs
import Mathlib.Algebra.Group.Nat.Defs
import Rebac.Proofs.Computations
import Rebac.Told

set_option autoImplicit false

/-!
# Which values have a text

The text of a value shows the values inside it, each some levels below the beginning
(`Value.Shows`). A value has a text exactly if all that it shows is within the levels that are left
and no integer among it has too many digits (`Value.checkQuoted_eq_ok_iff`). This holds of every
value that a caller writes in earnest. A power of ten and a record within a few hundred others are
values without a text.
-/

namespace Rebac

/-- An integer has too many digits from the power of ten on that has one digit more than are
written. -/
theorem Numeral.isTooLong_iff {i : Int} : isTooLong i = true ↔ 10 ^ maxDigits ≤ i.natAbs := by
  rw [isTooLong, decide_eq_true_iff, ← Nat.not_le,
    Nat.length_toDigits_le_iff (by decide) (by decide), Nat.not_lt]

theorem Numeral.isTooLong_pow_iff {n : Nat} : isTooLong (10 ^ n) = true ↔ maxDigits ≤ n := by
  rw [isTooLong_iff, Int.natAbs_pow]
  exact Nat.pow_le_pow_iff_right (by decide)

namespace Value

variable {v : Value} {room : Nat}

/-- The text of a value shows another value, so many levels below its beginning. -/
inductive Shows : Value → Nat → Value → Prop
  | self (v : Value) : Shows v 0 v
  | part {v p w : Value} {n : Nat} (hp : p ∈ v.shownParts) (h : Shows p n w) :
      Shows v (v.levels + n) w

/-- All that a value shows is within so many levels, and no integer among it has too many digits. -/
def Fits (room : Nat) (v : Value) : Prop :=
  ∀ n w, v.Shows n w → n + w.levels ≤ room ∧ w.isTooLong = false

/-- A value fits if it does by itself and if its parts do in what it leaves. -/
theorem fits_iff : v.Fits room ↔ v.levels ≤ room ∧ v.isTooLong = false ∧
    ∀ p ∈ v.shownParts, p.Fits (room - v.levels) := by
  constructor
  · intro h
    obtain ⟨hlevels, hshort⟩ := h 0 v (.self v)
    rw [Nat.zero_add] at hlevels
    refine ⟨hlevels, hshort, fun p hp n w hw => ?_⟩
    obtain ⟨hbelow, hw⟩ := h _ w (.part hp hw)
    exact ⟨by omega, hw⟩
  · rintro ⟨hlevels, hshort, hparts⟩ n w hw
    cases hw with
    | self => exact ⟨by omega, hshort⟩
    | part hp hw =>
        obtain ⟨hbelow, hw⟩ := hparts _ hp _ w hw
        exact ⟨by omega, hw⟩

@[simp] theorem fits_text {s : String} : (text s).Fits room ↔ 0 < room := by
  have hlevels : (text s).levels = 1 := rfl
  rw [fits_iff, hlevels]
  exact ⟨fun h => h.1, fun h => ⟨h, rfl, nofun⟩⟩

@[simp] theorem fits_list {xs : List Value} :
    (list xs).Fits room ↔ 0 < room ∧ ∀ x ∈ xs, x.Fits (room - 1) := by
  have hlevels : (list xs).levels = 1 := rfl
  rw [fits_iff, hlevels]
  exact ⟨fun h => ⟨h.1, h.2.2⟩, fun h => ⟨h.1, rfl, h.2⟩⟩

@[simp] theorem fits_record {fields : List (String × Value)} :
    (record fields).Fits room ↔ 0 < room ∧
      ∀ f ∈ fields, (text f.1).Fits (room - 1) ∧ f.2.Fits (room - 1) := by
  have hlevels : (record fields).levels = 1 := rfl
  have hparts : (record fields).shownParts = fields.flatMap fun f => [text f.1, f.2] := by
    rw [record, shownParts, List.flatMap_map]
    rfl
  rw [fits_iff, hlevels, hparts]
  constructor
  · rintro ⟨hroom, -, hparts⟩
    exact ⟨hroom, fun f hf => ⟨hparts _ (List.mem_flatMap.2 ⟨f, hf, by simp⟩),
      hparts _ (List.mem_flatMap.2 ⟨f, hf, by simp⟩)⟩⟩
  · rintro ⟨hroom, hfields⟩
    refine ⟨hroom, rfl, fun p hp => ?_⟩
    obtain ⟨f, hf, hp⟩ := List.mem_flatMap.1 hp
    obtain ⟨hkey, hvalue⟩ := hfields f hf
    rcases List.mem_pair.1 hp with rfl | rfl
    · exact hkey
    · exact hvalue

/-- **A value has a text exactly if it fits.** -/
theorem checkQuoted_eq_ok_iff : v.checkQuoted room = .ok () ↔ v.Fits room := by
  induction room using Nat.strongRecOn generalizing v with
  | ind room ih =>
      rw [fits_iff, checkQuoted]
      by_cases hlevels : room < v.levels
      · rw [if_pos hlevels]
        exact iff_of_false nofun fun h => by omega
      · rw [if_neg hlevels]
        cases hshort : v.isTooLong with
        | true => exact iff_of_false nofun fun h => nomatch h.2.1
        | false =>
            -- The parts have less room than the value, since every value takes a level.
            have hpos := v.levels_pos
            rw [if_neg nofun, forM_eq_ok_iff]
            simp only [ih (room - v.levels) (by omega), and_iff_right (Nat.not_lt.1 hlevels),
              true_and]

/-- A value without a text has too many digits or too many levels. -/
theorem className_of_checkQuoted {f : TextFault} (h : v.checkQuoted room = .error f) :
    f.className = "ValueError" ∨ f.className = "RecursionError" := by
  induction room using Nat.strongRecOn generalizing v with
  | ind room ih =>
      rw [checkQuoted] at h
      split at h
      · cases h
        exact Or.inr rfl
      · split at h
        · cases h
          exact Or.inl rfl
        · have hpos := v.levels_pos
          obtain ⟨p, -, hp⟩ := exists_of_forM_eq_error h
          exact ih (room - v.levels) (by omega) hp

/-- What cannot be shown inside a larger text does not fit. -/
theorem exists_checkShownQuoted_iff :
    (∃ f, v.checkShownQuoted = .error f) ↔ ¬ v.Fits maxLevels := by
  rw [← checkQuoted_eq_ok_iff, checkShownQuoted]
  cases v.checkQuoted maxLevels with
  | ok u => simp
  | error f => simp

/-- Only a relationship has another text on its own than inside a larger text. -/
theorem checkText_of_ne (h : ∀ e r s, v ≠ .relationship e r s) :
    v.checkText room = v.checkQuoted room := by
  unfold checkText
  split
  · exact absurd rfl (h _ _ _)
  · rfl

@[simp] theorem checkShown_text (s : String) : (text s).checkShown = .ok () := by
  have hne : ∀ e r t, text s ≠ .relationship e r t := by
    rintro e r t ⟨⟩
  rw [checkShown, checkText_of_ne hne]
  exact checkQuoted_eq_ok_iff.2 (fits_text.2 (by decide))

/-! ## Two values without a text -/

/-- The least number that has too many digits. -/
def longNumber : Value := .int (10 ^ Numeral.maxDigits)

theorem checkQuoted_longNumber (h : 0 < room) : longNumber.checkQuoted room = .error .tooLong := by
  have hlong : longNumber.isTooLong = true := Numeral.isTooLong_pow_iff.2 (Nat.le_refl _)
  have hlevels : ¬ room < longNumber.levels := Nat.not_lt.2 h
  rw [checkQuoted, if_neg hlevels, if_pos hlong]
  rfl

theorem checkShown_longNumber : longNumber.checkShown = .error .tooLong := by
  have hne : ∀ e r t, longNumber ≠ .relationship e r t := by
    rintro e r t ⟨⟩
  rw [checkShown, checkText_of_ne hne]
  exact checkQuoted_longNumber (by decide)

theorem truthy_longNumber : longNumber.truthy = true := by
  have hne : (10 : Int) ^ Numeral.maxDigits ≠ 0 := Int.pow_ne_zero (by decide)
  exact bne_iff_ne.2 hne

/-- Data with such a number as its only entry has no text either. -/
theorem checkQuoted_longEntry {key : String} (h : 1 < room) :
    (record [(key, longNumber)]).checkQuoted room = .error .tooLong := by
  have hlevels : (record [(key, longNumber)]).levels = 1 := rfl
  have hparts : (record [(key, longNumber)]).shownParts = [text key, longNumber] := rfl
  have hkey : (text key).checkQuoted (room - 1) = .ok () :=
    checkQuoted_eq_ok_iff.2 (fits_text.2 (by omega))
  rw [checkQuoted, hlevels, hparts, if_neg (by omega), if_neg nofun, List.forM, hkey, List.forM,
    checkQuoted_longNumber (by omega)]
  rfl

/-- The declaration of a relation whose targets are such a declaration, and so on. -/
def nestedRelation : Nat → Value
  | 0 => .int 1
  | n + 1 => .relationDef (nestedRelation n)

theorem checkQuoted_nestedRelation {n : Nat} (h : room ≤ 3 * n) :
    (nestedRelation n).checkQuoted room = .error .tooDeep := by
  induction n generalizing room with
  | zero =>
      have hlevels : room < (nestedRelation 0).levels := Nat.lt_succ_of_le h
      rw [checkQuoted, if_pos hlevels]
      rfl
  | succ n ih =>
      have hlevels : (nestedRelation (n + 1)).levels = 3 := rfl
      have hparts : (nestedRelation (n + 1)).shownParts = [nestedRelation n] := rfl
      rw [checkQuoted, hlevels, hparts]
      split
      · rfl
      · rw [if_neg nofun, List.forM, ih (by omega)]
        rfl

end Value

end Rebac
