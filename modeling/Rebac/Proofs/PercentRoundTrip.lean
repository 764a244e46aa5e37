import Rebac.Text.Encoding

set_option autoImplicit false

/-!
# Segments are read back

A segment of a path denotes the text that it was made of (`Text.Percent.decode_encode`), for every
text. There are two layers: the bytes of a text are read back as the text
(`Text.Utf8.decode_encode`), and the escapes of bytes are read back as the bytes
(`Text.Percent.decodeBytes_flatMap_encodeByte`).
-/

namespace Rebac

namespace Text.Utf8

/-! ## Characters and their bytes -/

/-- A byte after the first adds six bits to a character. -/
theorem continued_ofNat {missing bits low high size x : Nat} (rest : List UInt8)
    (hlow : low ≤ x % 0x40 + 0x80) (hhigh : x % 0x40 + 0x80 ≤ high) :
    continued (missing + 1) bits low high size (UInt8.ofNat (x % 0x40 + 0x80) :: rest) =
      continued missing (bits * 64 + x % 0x40) 0x80 0xBF (size + 1) rest := by
  have hsize : x % 0x40 + 0x80 < 256 := by omega
  have hbyte : (UInt8.ofNat (x % 0x40 + 0x80)).toNat = x % 0x40 + 0x80 :=
    UInt8.toNat_ofNat_of_lt' hsize
  simp only [continued, hbyte]
  rw [if_pos (by simp [hlow, hhigh]), Nat.add_sub_cancel]

/-- What starts with the first of several bytes. -/
theorem piece_ofNat {n missing bits low high : Nat} (rest : List UInt8) (hn : 0x80 ≤ n)
    (hsize : n < 256) (h : lead? n = some (missing, bits, low, high)) :
    piece (UInt8.ofNat n) rest = continued missing bits low high 1 rest := by
  have hbyte : (UInt8.ofNat n).toNat = n := UInt8.toNat_ofNat_of_lt' hsize
  rw [piece, hbyte, if_neg (by omega), h]

/-- The first byte of two. -/
theorem lead?_two {v : Nat} (hmin : 0x80 ≤ v) (hmax : v ≤ 0x7FF) :
    lead? (v / 64 % 0x20 + 0xC0) = some (1, v / 64, 0x80, 0xBF) := by
  have hmod : v / 64 % 0x20 = v / 64 := Nat.mod_eq_of_lt (by omega)
  rw [lead?, hmod, if_pos (by simp; omega), Nat.add_sub_cancel]

/-- The first byte of three. The bounds of the second one exclude what two bytes can say, and halves
of pairs, which are no characters. -/
theorem lead?_three {v : Nat} (hmin : 0x800 ≤ v) (hmax : v ≤ 0xFFFF)
    (hhalf : v < 0xD800 ∨ 0xDFFF < v) :
    ∃ low high, lead? (v / 4096 % 0x10 + 0xE0) = some (2, v / 4096, low, high) ∧
      low ≤ v / 64 % 0x40 + 0x80 ∧ v / 64 % 0x40 + 0x80 ≤ high := by
  have hmod : v / 4096 % 0x10 = v / 4096 := Nat.mod_eq_of_lt (by omega)
  rw [lead?, hmod, if_neg (by simp)]
  by_cases hleast : v / 4096 = 0
  · rw [if_pos (by omega), hleast]
    exact ⟨0xA0, 0xBF, rfl, by omega, by omega⟩
  by_cases hpairs : v / 4096 = 0xD
  · rw [if_neg (by omega), if_pos (by omega), hpairs]
    exact ⟨0x80, 0x9F, rfl, by omega, by omega⟩
  · rw [if_neg (by omega), if_neg (by omega), if_pos (by simp; omega), Nat.add_sub_cancel]
    exact ⟨0x80, 0xBF, rfl, by omega, by omega⟩

/-- The first byte of four. The bounds of the second one exclude what three bytes can say, and what
is beyond Unicode. -/
theorem lead?_four {v : Nat} (hmin : 0x10000 ≤ v) (hmax : v ≤ 0x10FFFF) :
    ∃ low high, lead? (v / 262144 % 0x08 + 0xF0) = some (3, v / 262144, low, high) ∧
      low ≤ v / 4096 % 0x40 + 0x80 ∧ v / 4096 % 0x40 + 0x80 ≤ high := by
  have hmod : v / 262144 % 0x08 = v / 262144 := Nat.mod_eq_of_lt (by omega)
  rw [lead?, hmod, if_neg (by simp), if_neg (by omega), if_neg (by omega),
    if_neg (by simp)]
  by_cases hleast : v / 262144 = 0
  · rw [if_pos (by omega), hleast]
    exact ⟨0x90, 0xBF, rfl, by omega, by omega⟩
  by_cases hgreatest : v / 262144 = 4
  · rw [if_neg (by omega), if_neg (by simp; omega), if_pos (by omega), hgreatest]
    exact ⟨0x80, 0x8F, rfl, by omega, by omega⟩
  · rw [if_neg (by omega), if_pos (by simp; omega), Nat.add_sub_cancel]
    exact ⟨0x80, 0xBF, rfl, by omega, by omega⟩

/-- **The bytes of a character start with the character.** -/
theorem exists_piece_utf8EncodeChar (c : Char) : ∃ b bytes, String.utf8EncodeChar c = b :: bytes ∧
    ∀ rest, piece b (bytes ++ rest) = .char c (bytes.length + 1) := by
  have hchar : Char.ofNat c.val.toNat = c := Char.ofNat_toNat c
  have hmax : c.val.toNat ≤ 0x10FFFF ∧ (c.val.toNat < 0xD800 ∨ 0xDFFF < c.val.toNat) := by
    have hvalid : c.val.toNat.isValidChar := c.valid
    rcases hvalid with h | h <;> omega
  generalize hv : c.val.toNat = v at hchar hmax
  rw [String.utf8EncodeChar, hv]
  -- One case for each number of bytes, whose bits put together are the number of the character.
  by_cases hone : v ≤ 0x7F
  · refine ⟨_, _, if_pos hone, fun rest => ?_⟩
    have hsize : v < 256 := by omega
    have hbyte : (UInt8.ofNat v).toNat = v := UInt8.toNat_ofNat_of_lt' hsize
    rw [piece, hbyte, if_pos (by omega), hchar]
    rfl
  rw [if_neg hone]
  by_cases htwo : v ≤ 0x7FF
  · refine ⟨_, _, if_pos htwo, fun rest => ?_⟩
    have hbits : v / 64 * 64 + v % 0x40 = v := by omega
    rw [piece_ofNat _ (by omega) (by omega) (lead?_two (by omega) htwo), List.cons_append,
      continued_ofNat _ (by omega) (by omega), continued, hbits, hchar]
    rfl
  rw [if_neg htwo]
  by_cases hthree : v ≤ 0xFFFF
  · refine ⟨_, _, if_pos hthree, fun rest => ?_⟩
    obtain ⟨low, high, hlead, hlow, hhigh⟩ := lead?_three (by omega) hthree hmax.2
    have hbits : (v / 4096 * 64 + v / 64 % 0x40) * 64 + v % 0x40 = v := by omega
    rw [piece_ofNat _ (by omega) (by omega) hlead, List.cons_append, continued_ofNat _ hlow hhigh,
      List.cons_append, continued_ofNat _ (by omega) (by omega), continued, hbits, hchar]
    rfl
  · refine ⟨_, _, if_neg hthree, fun rest => ?_⟩
    obtain ⟨low, high, hlead, hlow, hhigh⟩ := lead?_four (by omega) hmax.1
    have hbits :
        ((v / 262144 * 64 + v / 4096 % 0x40) * 64 + v / 64 % 0x40) * 64 + v % 0x40 = v := by omega
    rw [piece_ofNat _ (by omega) (by omega) hlead, List.cons_append, continued_ofNat _ hlow hhigh,
      List.cons_append, continued_ofNat _ (by omega) (by omega), List.cons_append,
      continued_ofNat _ (by omega) (by omega), continued, hbits, hchar]
    rfl

/-! ## Texts and their bytes -/

/-- Bytes that belong to what was read before are passed over. -/
theorem decodeFrom_append (halves : Bool) (position : Nat) (bytes rest : List UInt8) :
    decodeFrom halves bytes.length position (bytes ++ rest) =
      decodeFrom halves 0 (position + bytes.length) rest := by
  induction bytes generalizing position with
  | nil => rfl
  | cons b bytes ih =>
      rw [List.cons_append, List.length_cons, decodeFrom, ih, Nat.add_assoc, Nat.add_comm 1]

theorem decodeFrom_encode (s : List Char) (position : Nat) :
    decodeFrom false 0 position (encode s) = .ok s := by
  induction s generalizing position with
  | nil => rfl
  | cons c rest ih =>
      obtain ⟨b, bytes, hbytes, hpiece⟩ := exists_piece_utf8EncodeChar c
      have hencode : encode (c :: rest) = b :: (bytes ++ encode rest) := by
        rw [encode, List.flatMap_cons, hbytes, List.cons_append]
        rfl
      rw [hencode, decodeFrom, pieceWith, Bool.false_and, if_neg Bool.false_ne_true, hpiece]
      dsimp only
      rw [Nat.add_sub_cancel, decodeFrom_append, ih]
      rfl

/-- **The bytes of a text are read back as the text.** -/
theorem decode_encode (s : List Char) : decode (encode s) = .ok s := decodeFrom_encode s 0

end Text.Utf8

namespace Text.Percent

/-! ## Bytes and their escapes -/

theorem hexValue?_hexDigit {n : Nat} (h : n < 16) : hexValue? (hexDigit n) = some n := by
  have hall : ∀ m : Fin 16, hexValue? (hexDigit m) = some m.val := by decide
  exact hall ⟨n, h⟩

/-- The percent sign does not stand for itself. -/
theorem ne_percent_of_isUnreserved {c : Char} (h : isUnreserved c = true) : c ≠ '%' := by
  rintro rfl
  exact absurd h (by decide)

/-- Two digits are read as the byte that they were made of. -/
theorem decodeBytes_escapeByte (b : UInt8) (rest : List Char) :
    decodeBytes (escapeByte b ++ rest) = (decodeBytes rest).map (b :: ·) := by
  have hsize : b.toNat < 256 := b.toNat_lt
  have hbyte : b.toNat / 16 * 16 + b.toNat % 16 = b.toNat := by omega
  rw [escapeByte, List.cons_append, List.cons_append, List.cons_append, List.nil_append,
    decodeBytes, hexValue?_hexDigit (by omega), hexValue?_hexDigit (by omega)]
  simp only [Option.bind_eq_bind, Option.bind_some, hbyte, UInt8.ofNat_toNat]
  cases decodeBytes rest with
  | none => rfl
  | some bytes => rfl

theorem decodeBytes_cons {c : Char} (hascii : c.toNat < 0x80) (hc : c ≠ '%') (rest : List Char) :
    decodeBytes (c :: rest) = (decodeBytes rest).map (UInt8.ofNat c.toNat :: ·) := by
  rw [decodeBytes]
  · rw [if_pos (by simp [hascii, hc])]
  · intro a b rest' hpercent
    exact absurd hpercent hc

theorem decodeBytes_encodeByte (b : UInt8) (rest : List Char) :
    decodeBytes (encodeByte b ++ rest) = (decodeBytes rest).map (b :: ·) := by
  rw [encodeByte]
  split
  · next hself =>
    obtain ⟨hascii, hunreserved⟩ := Bool.and_eq_true_iff.1 hself
    have hascii : b.toNat < 0x80 := of_decide_eq_true hascii
    have hvalid : b.toNat.isValidChar := Or.inl (by omega)
    have hbyte : (Char.ofNat b.toNat).toNat = b.toNat := by
      rw [Char.ofNat, dif_pos hvalid]
      rfl
    rw [List.singleton_append, decodeBytes_cons (by omega)
      (ne_percent_of_isUnreserved hunreserved), hbyte, UInt8.ofNat_toNat]
  · exact decodeBytes_escapeByte b rest

theorem decodeBytes_flatMap_encodeByte (bytes : List UInt8) :
    decodeBytes (bytes.flatMap encodeByte) = some bytes := by
  induction bytes with
  | nil => rfl
  | cons b bytes ih =>
      rw [List.flatMap_cons, decodeBytes_encodeByte, ih]
      rfl

/-- **A segment denotes the text that it was made of.** -/
theorem decode_encode (s : List Char) : decode (encode s) = some s := by
  rw [decode, encode, decodeBytes_flatMap_encodeByte]
  change (Utf8.decode (Utf8.encode s)).toOption = some s
  rw [Utf8.decode_encode]
  rfl

/-! ## The characters of segments -/

theorem ascii_of_le {c last : Char} (h : c ≤ last) (hlast : last.toNat < 128) : c.toNat < 128 :=
  Nat.lt_of_le_of_lt h hlast

/-- Unreserved characters are ASCII. -/
theorem ascii_of_isUnreserved {c : Char} (h : isUnreserved c = true) : c.toNat < 128 := by
  have hkinds : (c.isUpper || c.isLower || c.isDigit || c == '_' || c == '.' || c == '-' ||
      c == '~') = true := h
  simp only [Bool.or_eq_true, beq_iff_eq] at hkinds
  rcases hkinds with ((((((hupper | hlower) | hdigit) | rfl) | rfl) | rfl) | rfl)
  · exact ascii_of_le (of_decide_eq_true hupper).2 (by decide)
  · exact ascii_of_le (of_decide_eq_true (Bool.and_eq_true_iff.1 hlower).2) (by decide)
  · exact ascii_of_le (of_decide_eq_true (Bool.and_eq_true_iff.1 hdigit).2) (by decide)
  all_goals decide

/-- Hexadecimal digits are ASCII. -/
theorem ascii_of_hexValue? {c : Char} (h : (hexValue? c).isSome = true) : c.toNat < 128 := by
  unfold hexValue? at h
  split at h
  · next hc => exact ascii_of_le (of_decide_eq_true (Bool.and_eq_true_iff.1 hc).2) (by decide)
  split at h
  · next hc => exact ascii_of_le (of_decide_eq_true (Bool.and_eq_true_iff.1 hc).2) (by decide)
  split at h
  · next hc => exact ascii_of_le (of_decide_eq_true (Bool.and_eq_true_iff.1 hc).2) (by decide)
  · cases h

/-- Kinds of ASCII characters can be compared one character after the other. -/
theorem imp_of_ascii {p q : Char → Bool}
    (h : ∀ n : Fin 128, p (Char.ofNat n) = true → q (Char.ofNat n) = true) {c : Char}
    (hascii : c.toNat < 128) (hp : p c = true) : q c = true := by
  have hn := h ⟨c.toNat, hascii⟩
  rw [Char.ofNat_toNat] at hn
  exact hn hp

theorem isUnreserved_or_percent_of_mem_escapeByte {c : Char} {b : UInt8} (h : c ∈ escapeByte b) :
    isUnreserved c = true ∨ c = '%' := by
  have hdigit : ∀ n : Fin 16, isUnreserved (hexDigit n) = true := by decide
  have hsize : b.toNat < 256 := b.toNat_lt
  simp only [escapeByte, List.mem_cons, List.not_mem_nil, or_false] at h
  rcases h with rfl | rfl | rfl
  · exact Or.inr rfl
  · exact Or.inl (hdigit ⟨b.toNat / 16, by omega⟩)
  · exact Or.inl (hdigit ⟨b.toNat % 16, by omega⟩)

/-- A segment is made of unreserved characters and of escapes of bytes. -/
theorem isUnreserved_or_percent_of_mem_encode {c : Char} {s : List Char} (h : c ∈ encode s) :
    isUnreserved c = true ∨ c = '%' := by
  obtain ⟨b, -, hc⟩ := List.mem_flatMap.1 h
  rw [encodeByte] at hc
  split at hc
  · next hself =>
    rw [List.mem_singleton.1 hc]
    exact Or.inl (Bool.and_eq_true_iff.1 hself).2
  · exact isUnreserved_or_percent_of_mem_escapeByte hc

theorem not_mem_encode {c : Char} (hreserved : isUnreserved c = false) (hc : c ≠ '%')
    (s : List Char) : c ∉ encode s := by
  intro hmem
  rcases isUnreserved_or_percent_of_mem_encode hmem with hunreserved | heq
  · rw [hunreserved] at hreserved
    cases hreserved
  · exact hc heq

end Text.Percent

end Rebac
