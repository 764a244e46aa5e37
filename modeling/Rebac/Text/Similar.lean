set_option autoImplicit false

/-!
# Similar words

How much two words share, and the word of a list that comes closest to a given one. Two words share
the longest block of characters common to both, and whatever the parts before and behind that block
share in the same way. A word is a suggestion for another if the shared characters make up at least
three fifths of the two words together.
-/

namespace Rebac.Text

/-- A block of characters common to two words: where it starts in each, and its length. -/
structure Block where
  left : Nat
  right : Nat
  size : Nat
deriving DecidableEq

/-- The length of the longest common start of two words. -/
def commonStart : List Char → List Char → Nat
  | a :: s, b :: t => if a = b then commonStart s t + 1 else 0
  | _, _ => 0

/-- The longest block common to two words: the earliest in the first word, then the earliest in the
second, among those of the greatest length. -/
def longestBlock (a b : List Char) : Block :=
  (List.range a.length).foldl (fun best i =>
    (List.range b.length).foldl (fun best j =>
      let size := commonStart (a.drop i) (b.drop j)
      -- Only a longer block replaces an earlier one.
      if best.size < size then ⟨i, j, size⟩ else best) best) ⟨0, 0, 0⟩

/-- How many characters two words share, looking for blocks at most `depth` deep. -/
def sharedWithin : Nat → List Char → List Char → Nat
  | 0, _, _ => 0
  | depth + 1, a, b =>
      let block := longestBlock a b
      if block.size = 0 then 0
      else
        sharedWithin depth (a.take block.left) (b.take block.right) + block.size +
          sharedWithin depth (a.drop (block.left + block.size)) (b.drop (block.right + block.size))

/-- How many characters two words share. Every block takes a character of the first word, so its
length bounds the depth. -/
def shared (a b : List Char) : Nat := sharedWithin a.length a b

/-- Whether the shared characters make up at least three fifths of the two words together. -/
def isSimilar (a b : List Char) : Bool := 3 * (a.length + b.length) ≤ 10 * shared a b

/-- Whether `a` is closer to `word` than `b` is; of two equally close words the greater is taken. -/
def closer (word a b : List Char) : Bool :=
  let forA := shared a word * (b.length + word.length)
  let forB := shared b word * (a.length + word.length)
  forB < forA || (forA == forB && String.ofList b < String.ofList a)

/-- The word of a list that is similar and closest to the given one. -/
def closest? (word : List Char) (candidates : List (List Char)) : Option (List Char) :=
  (candidates.filter (isSimilar · word)).foldl (fun best c =>
    match best with
    | none => some c
    | some b => if closer word c b then some c else some b) none

theorem commonStart_le_left (a b : List Char) : commonStart a b ≤ a.length := by
  induction a generalizing b with
  | nil => simp [commonStart]
  | cons x s ih =>
      cases b with
      | nil => simp [commonStart]
      | cons y t =>
          by_cases h : x = y
          · simpa [commonStart, h] using ih t
          · simp [commonStart, h]

end Rebac.Text
