import Rebac.Proofs.HttpRequests
import Rebac.Proofs.PercentRoundTrip
import Rebac.Proofs.References

set_option autoImplicit false

/-!
# Paths in normal form

The path of an address in normal form is made of segments, each behind a slash, that hold no dot
segment and no character that would have to be escaped. Reading an address brings its path into
normal form (`Address.isNormal_of_read`), and so does connecting to it
(`Http.exists_isBase_of_connect`). Behind such an address a path without dot segments stays as it is
(`Address.removeDots_rooted`); a single dot is dropped, and two dots drop the segment before them,
too.
-/

namespace Rebac

namespace Address

/-! ## Segments behind slashes -/

/-- The path of segments, each behind a slash. -/
def rooted (segs : List (List Char)) : List Char := segs.flatMap fun s => '/' :: s

@[simp] theorem rooted_nil : rooted [] = [] := rfl

@[simp] theorem rooted_cons (s : List Char) (segs : List (List Char)) :
    rooted (s :: segs) = '/' :: s ++ rooted segs := rfl

@[simp] theorem rooted_append (segs segs' : List (List Char)) :
    rooted (segs ++ segs') = rooted segs ++ rooted segs' := List.flatMap_append

theorem joinSegments_cons (s : List Char) (segs : List (List Char)) :
    joinSegments (s :: segs) = s ++ rooted segs := by
  induction segs generalizing s with
  | nil => simp [joinSegments]
  | cons t segs ih =>
      rw [joinSegments, List.intercalate_cons_of_ne_nil (List.cons_ne_nil _ _), ← joinSegments, ih,
        rooted_cons, List.append_assoc, List.singleton_append, List.cons_append]

/-- Every text is a first segment and others behind slashes. -/
theorem exists_eq_append_rooted (s : List Char) : ∃ first segs, s = first ++ rooted segs ∧
    '/' ∉ first ∧ ∀ x ∈ segs, '/' ∉ x := by
  induction s with
  | nil => exact ⟨[], [], rfl, by simp, by simp⟩
  | cons c s ih =>
      obtain ⟨first, segs, rfl, hfirst, hsegs⟩ := ih
      by_cases hc : c = '/'
      · exact ⟨[], first :: segs, by simp [hc], by simp, List.forall_mem_cons.2 ⟨hfirst, hsegs⟩⟩
      · exact ⟨c :: first, segs, rfl, by simp [Ne.symm hc, hfirst], hsegs⟩

theorem segments_append_rooted {first : List Char} {segs : List (List Char)}
    (hfirst : '/' ∉ first) (hsegs : ∀ s ∈ segs, '/' ∉ s) :
    segments (first ++ rooted segs) = first :: segs := by
  rw [segments, Text.pieces_eq_splitOnP, ← List.splitOn_eq_splitOnP, ← joinSegments_cons,
    joinSegments]
  exact List.splitOn_intercalate '/' (List.forall_mem_cons.2 ⟨hfirst, hsegs⟩) (List.cons_ne_nil _ _)

theorem segments_rooted {segs : List (List Char)} (h : ∀ s ∈ segs, '/' ∉ s) :
    segments (rooted segs) = [] :: segs :=
  segments_append_rooted List.not_mem_nil h

/-! ## Dot segments -/

/-- A segment is neither one dot nor two. -/
def IsNoDots (s : List Char) : Prop := s ≠ ['.'] ∧ s ≠ ['.', '.']

instance (s : List Char) : Decidable (IsNoDots s) :=
  inferInstanceAs (Decidable (s ≠ ['.'] ∧ s ≠ ['.', '.']))

theorem pushSegment_of_isNoDots {s : List Char} (h : IsNoDots s) (done : List (List Char)) :
    pushSegment done s = s :: done := by
  rw [pushSegment, if_neg h.1, if_neg h.2]

theorem foldl_pushSegment {segs : List (List Char)} (h : ∀ s ∈ segs, IsNoDots s)
    (done : List (List Char)) : segs.foldl pushSegment done = segs.reverse ++ done := by
  induction segs generalizing done with
  | nil => rfl
  | cons s segs ih =>
      obtain ⟨hs, hsegs⟩ := List.forall_mem_cons.1 h
      rw [List.foldl_cons, pushSegment_of_isNoDots hs, ih hsegs, List.reverse_cons,
        List.append_assoc, List.singleton_append]

/-- What is left of some segments, above the root and what was left of those before, last one
first. -/
theorem exists_foldl_pushSegment {P : List Char → Prop} {segs : List (List Char)}
    (done : List (List Char)) (hsegs : ∀ s ∈ segs, P s) (hdone : ∀ s ∈ done, P s ∧ IsNoDots s) :
    ∃ left : List (List Char), segs.foldl pushSegment (done ++ [[]]) = left ++ [[]] ∧
      ∀ s ∈ left, P s ∧ IsNoDots s := by
  induction segs generalizing done with
  | nil => exact ⟨done, rfl, hdone⟩
  | cons s segs ih =>
      obtain ⟨hs, hsegs⟩ := List.forall_mem_cons.1 hsegs
      rw [List.foldl_cons, pushSegment]
      by_cases hdot : s = ['.']
      · rw [if_pos hdot]
        exact ih done hsegs hdone
      rw [if_neg hdot]
      by_cases hdots : s = ['.', '.']
      · rw [if_pos hdots]
        -- Two dots drop the last segment that is left, but never the root.
        cases done with
        | nil => exact ih [] hsegs hdone
        | cons last before =>
            rw [if_neg (by simp), List.cons_append, List.drop_one, List.tail_cons]
            exact ih before hsegs (List.forall_mem_cons.1 hdone).2
      · rw [if_neg hdots]
        exact ih (s :: done) hsegs (List.forall_mem_cons.2 ⟨⟨hs, hdot, hdots⟩, hdone⟩)

section Rooted

variable {segs before after : List (List Char)}

theorem removeDots_of_mem (hslash : ∀ s ∈ segs, '/' ∉ s) (h : ['.'] ∈ segs ∨ ['.', '.'] ∈ segs) :
    removeDots (rooted segs) = joinSegments (segs.foldl pushSegment [[]]).reverse := by
  rw [removeDots, segments_rooted hslash]
  exact if_pos (by simpa using h)

/-- A path without dot segments stays as it is. -/
theorem removeDots_rooted (hslash : ∀ s ∈ segs, '/' ∉ s) (h : ∀ s ∈ segs, IsNoDots s) :
    removeDots (rooted segs) = rooted segs := by
  have hdot : ['.'] ∉ segs := fun hmem => (h _ hmem).1 rfl
  have hdots : ['.', '.'] ∉ segs := fun hmem => (h _ hmem).2 rfl
  rw [removeDots, segments_rooted hslash]
  exact if_neg (by simp [hdot, hdots])

/-- No dot segment is left, and what is left was there before. -/
theorem exists_removeDots {P : List Char → Prop} (hslash : ∀ s ∈ segs, '/' ∉ s)
    (h : ∀ s ∈ segs, P s) :
    ∃ left, removeDots (rooted segs) = rooted left ∧ ∀ s ∈ left, P s ∧ IsNoDots s := by
  by_cases hmem : ['.'] ∈ segs ∨ ['.', '.'] ∈ segs
  · obtain ⟨left, hleft, hP⟩ := exists_foldl_pushSegment [] h (by simp)
    refine ⟨left.reverse, ?_, fun s hs => hP s (List.mem_reverse.1 hs)⟩
    rw [List.nil_append] at hleft
    rw [removeDots_of_mem hslash hmem, hleft, List.reverse_append, List.reverse_singleton,
      List.singleton_append, joinSegments_cons, List.nil_append]
  · rw [not_or] at hmem
    have hno : ∀ s ∈ segs, IsNoDots s := fun s hs =>
      ⟨fun hdot => hmem.1 (hdot ▸ hs), fun hdots => hmem.2 (hdots ▸ hs)⟩
    exact ⟨segs, removeDots_rooted hslash hno, fun s hs => ⟨h s hs, hno s hs⟩⟩

section Dots

variable (hbefore : ∀ s ∈ before, '/' ∉ s ∧ IsNoDots s) (hafter : ∀ s ∈ after, '/' ∉ s ∧ IsNoDots s)
include hbefore hafter

/-- A single dot is dropped. -/
theorem removeDots_dot :
    removeDots (rooted (before ++ ['.'] :: after)) = rooted (before ++ after) := by
  have hslash : ∀ s ∈ before ++ ['.'] :: after, '/' ∉ s := by
    intro s hs
    rcases List.mem_append.1 hs with hs | hs
    · exact (hbefore s hs).1
    rcases List.mem_cons.1 hs with rfl | hs
    · decide
    · exact (hafter s hs).1
  have hpush : pushSegment (before.reverse ++ [[]]) ['.'] = before.reverse ++ [[]] := if_pos rfl
  rw [removeDots_of_mem hslash (Or.inl (by simp)), List.foldl_append, List.foldl_cons,
    foldl_pushSegment fun s hs => (hbefore s hs).2, hpush,
    foldl_pushSegment fun s hs => (hafter s hs).2]
  simp [joinSegments_cons]

/-- Two dots are dropped with the segment before them. -/
theorem removeDots_dots {s : List Char} (hs : '/' ∉ s ∧ IsNoDots s) :
    removeDots (rooted (before ++ s :: ['.', '.'] :: after)) = rooted (before ++ after) := by
  have hslash : ∀ x ∈ before ++ s :: ['.', '.'] :: after, '/' ∉ x := by
    intro x hx
    rcases List.mem_append.1 hx with hx | hx
    · exact (hbefore x hx).1
    rcases List.mem_cons.1 hx with rfl | hx
    · exact hs.1
    rcases List.mem_cons.1 hx with rfl | hx
    · decide
    · exact (hafter x hx).1
  have hpush : pushSegment (s :: (before.reverse ++ [[]])) ['.', '.'] = before.reverse ++ [[]] := by
    rw [pushSegment, if_neg (by decide), if_pos rfl, if_neg (by simp), List.drop_one,
      List.tail_cons]
  rw [removeDots_of_mem hslash (Or.inr (by simp)), List.foldl_append, List.foldl_cons,
    List.foldl_cons, foldl_pushSegment fun x hx => (hbefore x hx).2, pushSegment_of_isNoDots hs.2,
    hpush, foldl_pushSegment fun x hx => (hafter x hx).2]
  simp [joinSegments_cons]

end Dots

end Rooted

/-! ## Escapes -/

/-- An escape begins with a percent sign. -/
theorem percent_mem_escapeBytes (c : Char) :
    '%' ∈ (Text.Utf8.encode [c]).flatMap Text.Percent.escapeByte := by
  obtain ⟨b, bytes, hbytes, -⟩ := Text.Utf8.exists_piece_utf8EncodeChar c
  simp [Text.Utf8.encode, hbytes, Text.Percent.escapeByte]

/-- What is not escaped was there as it is. -/
theorem escape_eq_self_of_not_mem {safe : Char → Bool} {s : List Char} (h : '%' ∉ escape safe s) :
    escape safe s = s := by
  fun_induction escape safe s with
  | case1 => rfl
  | case2 a b rest hhex ih => exact absurd List.mem_cons_self h
  | case3 a b rest hhex ih =>
      -- A percent sign that begins no escape stands for itself or is escaped.
      rw [List.mem_append, not_or] at h
      split at h
      · exact absurd (List.mem_singleton_self _) h.1
      · exact absurd (percent_mem_escapeBytes '%') h.1
  | case4 c rest hpercent ih =>
      rw [List.mem_append, not_or] at h
      split at h
      · next hsafe => rw [if_pos hsafe, ih h.2, List.singleton_append]
      · exact absurd (percent_mem_escapeBytes c) h.1

/-- What a character of a path is written as. -/
def escapeChar (c : Char) : List Char :=
  if pathSafe c then [c] else (Text.Utf8.encode [c]).flatMap Text.Percent.escapeByte

/-- Unreserved characters stand for themselves in a path. -/
theorem pathSafe_of_isUnreserved {c : Char} (h : Text.Percent.isUnreserved c = true) :
    pathSafe c = true :=
  Text.Percent.imp_of_ascii (by decide) (Text.Percent.ascii_of_isUnreserved h) h

/-- Hexadecimal digits are unreserved. -/
theorem isUnreserved_of_isHex {c : Char} (h : isHex c = true) :
    Text.Percent.isUnreserved c = true :=
  Text.Percent.imp_of_ascii (by decide) (Text.Percent.ascii_of_hexValue? h) h

theorem escape_cons_of_ne {c : Char} (h : c ≠ '%') (s : List Char) :
    escape pathSafe (c :: s) = escapeChar c ++ escape pathSafe s := by
  rw [escape]
  · rfl
  · intro a b rest hc
    exact absurd hc h

/-- A digit stands for itself. -/
theorem escape_cons_of_isHex {c : Char} (h : isHex c = true) (s : List Char) :
    escape pathSafe (c :: s) = c :: escape pathSafe s := by
  have hunreserved := isUnreserved_of_isHex h
  rw [escape_cons_of_ne (Text.Percent.ne_percent_of_isUnreserved hunreserved), escapeChar,
    if_pos (pathSafe_of_isUnreserved hunreserved), List.singleton_append]

/-- In a path every character is written by itself: an escape is left as it is, and so is a percent
sign that begins none. -/
theorem escape_cons (c : Char) (s : List Char) :
    escape pathSafe (c :: s) = escapeChar c ++ escape pathSafe s := by
  by_cases hc : c = '%'
  · subst hc
    match s with
    | [] | [_] => rfl
    | a :: b :: rest =>
        rw [escape]
        split
        · next hhex =>
          -- The digits of an escape stand for themselves, as the percent sign does.
          obtain ⟨ha, hb⟩ := Bool.and_eq_true_iff.1 hhex
          rw [escape_cons_of_isHex ha, escape_cons_of_isHex hb]
          rfl
        · rfl
  · exact escape_cons_of_ne hc s

theorem escape_eq_flatMap (s : List Char) : escape pathSafe s = s.flatMap escapeChar := by
  induction s with
  | nil => rfl
  | cons c s ih => rw [escape_cons, ih, List.flatMap_cons]

theorem escape_append (s t : List Char) :
    escape pathSafe (s ++ t) = escape pathSafe s ++ escape pathSafe t := by
  simp only [escape_eq_flatMap, List.flatMap_append]

/-- A text of characters that stand for themselves is written as it is. -/
theorem escape_of_forall {s : List Char} (h : ∀ c ∈ s, pathSafe c = true) :
    escape pathSafe s = s := by
  induction s with
  | nil => rfl
  | cons c s ih =>
      obtain ⟨hc, hs⟩ := List.forall_mem_cons.1 h
      rw [escape_cons, ih hs, escapeChar, if_pos hc, List.singleton_append]

/-- A character of a path in normal form was there before, or it belongs to an escape. -/
theorem mem_escape {c : Char} {s : List Char} (h : c ∈ escape pathSafe s) :
    (c ∈ s ∧ pathSafe c = true) ∨ Text.Percent.isUnreserved c = true ∨ c = '%' := by
  rw [escape_eq_flatMap] at h
  obtain ⟨x, hx, hc⟩ := List.mem_flatMap.1 h
  rw [escapeChar] at hc
  split at hc
  · next hsafe =>
    rw [List.mem_singleton.1 hc]
    exact Or.inl ⟨hx, hsafe⟩
  · obtain ⟨b, -, hb⟩ := List.mem_flatMap.1 hc
    exact Or.inr (Text.Percent.isUnreserved_or_percent_of_mem_escapeByte hb)

theorem pathSafe_of_mem_escape {c : Char} {s : List Char} (h : c ∈ escape pathSafe s) :
    pathSafe c = true := by
  rcases mem_escape h with ⟨-, hsafe⟩ | hunreserved | rfl
  · exact hsafe
  · exact pathSafe_of_isUnreserved hunreserved
  · decide

theorem escape_rooted (segs : List (List Char)) :
    escape pathSafe (rooted segs) = rooted (segs.map (escape pathSafe)) := by
  induction segs with
  | nil => rfl
  | cons s segs ih =>
      rw [rooted_cons, List.cons_append, escape_cons, escape_append, ih]
      rfl

/-! ## Normal form -/

/-- A segment of a path in normal form: it is no dot segment, and its characters stand for
themselves. -/
structure IsPlain (s : List Char) : Prop where
  noSlash : '/' ∉ s
  noDots : IsNoDots s
  safe : ∀ c ∈ s, pathSafe c = true

instance (s : List Char) : Decidable (IsPlain s) :=
  decidable_of_iff ('/' ∉ s ∧ IsNoDots s ∧ s.all pathSafe = true)
    ⟨fun ⟨hslash, hno, hsafe⟩ => ⟨hslash, hno, List.all_eq_true.1 hsafe⟩,
      fun h => ⟨h.noSlash, h.noDots, List.all_eq_true.2 h.safe⟩⟩

theorem isPlain_nil : IsPlain [] := by decide

/-- The escaped form of a segment is in normal form if the segment is no dot segment. -/
theorem isPlain_escape {s : List Char} (hslash : '/' ∉ s) (hno : IsNoDots s) :
    IsPlain (escape pathSafe s) := by
  have hself : ∀ t : List Char, '%' ∉ t → escape pathSafe s = t → s = t := by
    rintro t ht rfl
    exact (escape_eq_self_of_not_mem ht).symm
  refine ⟨fun hmem => ?_, ⟨fun hdot => ?_, fun hdots => ?_⟩, fun c => pathSafe_of_mem_escape⟩
  · rcases mem_escape hmem with ⟨hmem, -⟩ | hunreserved | heq
    · exact hslash hmem
    · exact absurd hunreserved (by decide)
    · exact absurd heq (by decide)
  · exact hno.1 (hself _ (by decide) hdot)
  · exact hno.2 (hself _ (by decide) hdots)

/-- Nothing is escaped in the path of plain segments. -/
theorem escape_rooted_of_isPlain {segs : List (List Char)} (h : ∀ s ∈ segs, IsPlain s) :
    escape pathSafe (rooted segs) = rooted segs := by
  have hmap : segs.map (escape pathSafe) = segs := by
    conv_rhs => rw [← List.map_id segs]
    exact List.map_congr_left fun s hs => escape_of_forall (h s hs).safe
  rw [escape_rooted, hmap]

/-- The path of plain segments is in normal form already. -/
theorem normal_rooted {segs : List (List Char)} (h : ∀ s ∈ segs, IsPlain s) :
    escape pathSafe (removeDots (rooted segs)) = rooted segs := by
  rw [removeDots_rooted (fun s hs => (h s hs).noSlash) (fun s hs => (h s hs).noDots),
    escape_rooted_of_isPlain h]

/-- A path that begins with a slash has a normal form, which is one of plain segments. -/
theorem exists_normal {segs : List (List Char)} (h : ∀ s ∈ segs, '/' ∉ s) :
    ∃ left, escape pathSafe (removeDots (rooted segs)) = rooted left ∧ ∀ s ∈ left, IsPlain s := by
  obtain ⟨left, hleft, hplain⟩ := exists_removeDots h h
  refine ⟨left.map (escape pathSafe), by rw [hleft, escape_rooted], fun s hs => ?_⟩
  obtain ⟨x, hx, rfl⟩ := List.mem_map.1 hs
  exact isPlain_escape (hplain x hx).1 (hplain x hx).2

/-! ## Addresses in normal form -/

/-- What stands before the first of some character does not hold it. -/
theorem takeWhile_append_of_not_mem {c : Char} {s : List Char} (h : c ∉ s) (rest : List Char) :
    (s ++ rest).takeWhile (· != c) = s ++ rest.takeWhile (· != c) := by
  refine List.takeWhile_append_of_pos fun x hx => ?_
  rw [bne_iff_ne]
  rintro rfl
  exact h hx

theorem cut_of_not_mem {c : Char} {s : List Char} (h : c ∉ s) : cut c s = (s, none) := by
  have hfirst := takeWhile_append_of_not_mem h []
  rw [List.append_nil, List.takeWhile_nil, List.append_nil] at hfirst
  simp [cut, hfirst]

theorem cut_append {c : Char} {s : List Char} (h : c ∉ s) (rest : List Char) :
    cut c (s ++ c :: rest) = (s, some rest) := by
  simp [cut, takeWhile_append_of_not_mem h]

/-- The path of an address as it is asked for. -/
def root (a : Address) : List Char := if a.path.isEmpty then ['/'] else a.path

theorem target_eq (a : Address) :
    a.target = a.root ++ (match a.query with | some q => '?' :: q | none => []) := rfl

/-- The path of an address is one of plain segments. -/
def IsNormal (a : Address) : Prop := ∃ segs, a.path = rooted segs ∧ ∀ s ∈ segs, IsPlain s

/-- **An address that is read has a path in normal form.** -/
theorem isNormal_of_read {scheme : String} {endpoint : List Char} {a : Address}
    (h : read scheme endpoint = .ok a) : a.IsNormal := by
  unfold read at h
  dsimp only at h
  split at h
  · cases h
  split at h
  · cases h
  obtain ⟨host, -, h⟩ := exists_of_bind_eq_ok h
  obtain ⟨port, -, h⟩ := exists_of_bind_eq_ok h
  cases h
  -- Behind the authority stands nothing, or a slash.
  obtain ⟨first, segs, hrest, hfirst, hsegs⟩ :=
    exists_eq_append_rooted (cut '?' (cut '#' endpoint).1).1
  have hauthority : (first ++ rooted segs).takeWhile (· != '/') = first := by
    rw [takeWhile_append_of_not_mem hfirst]
    cases segs with
    | nil => simp
    | cons s segs => simp
  change ∃ left, escape pathSafe (removeDots _) = rooted left ∧ _
  rw [hrest, hauthority, List.drop_left]
  exact exists_normal hsegs

/-- Paths can be appended to an address: its path is one of plain segments, and it ends with a slash
if it is what is appended to. -/
structure IsBase (base : Address) (segs : List (List Char)) : Prop where
  root : base.root = rooted segs
  plain : ∀ s ∈ segs, IsPlain s
  slash : base.query = none → ∃ before, segs = before ++ [[]]

theorem not_mem_rooted {segs : List (List Char)} (h : ∀ s ∈ segs, IsPlain s) {c : Char}
    (hc : c ≠ '/') (hsafe : pathSafe c = false) : c ∉ rooted segs := by
  intro hmem
  obtain ⟨s, hs, hmem⟩ := List.mem_flatMap.1 hmem
  rcases List.mem_cons.1 hmem with heq | hmem
  · exact hc heq
  · rw [(h s hs).safe c hmem] at hsafe
    cases hsafe

/-- An address that is taken to another path and query: its host is read once more. -/
theorem exists_host_of_withTarget {a b : Address} {target : List Char}
    (h : a.withTarget target = .ok b) :
    ∃ host, readHost a.shownHost = .ok host ∧
      b = { a with
        host := host
        path := escape pathSafe (removeDots (cut '?' target).1)
        query := (cut '?' target).2.map (escape querySafe) } := by
  unfold withTarget at h
  dsimp only at h
  split at h
  · cases h
  split at h
  · cases h
  split at h
  · cases h
  obtain ⟨host, hhost, h⟩ := exists_of_bind_eq_ok h
  cases h
  exact ⟨host, hhost, rfl⟩

/-- The path and the query of an address that is taken to another one. -/
theorem withTarget_eq_ok {a b : Address} {target : List Char} (h : a.withTarget target = .ok b) :
    b.path = escape pathSafe (removeDots (cut '?' target).1) ∧
      b.query = (cut '?' target).2.map (escape querySafe) := by
  obtain ⟨host, -, rfl⟩ := exists_host_of_withTarget h
  exact ⟨rfl, rfl⟩

theorem exists_root_of_isNormal {a : Address} (h : a.IsNormal) :
    ∃ segs, a.root = rooted segs ∧ segs ≠ [] ∧ ∀ s ∈ segs, IsPlain s := by
  obtain ⟨segs, hpath, hplain⟩ := h
  cases segs with
  | nil =>
      refine ⟨[[]], ?_, List.cons_ne_nil _ _, by simpa using isPlain_nil⟩
      rw [root, hpath]
      rfl
  | cons s segs =>
      refine ⟨s :: segs, ?_, List.cons_ne_nil _ _, hplain⟩
      rw [root, hpath]
      rfl

theorem root_of_path {a : Address} {segs : List (List Char)} (hne : segs ≠ [])
    (h : a.path = rooted segs) : a.root = rooted segs := by
  obtain ⟨s, rest, rfl⟩ := List.exists_cons_of_ne_nil hne
  rw [root, h]
  rfl

/-- **The address of a server is one that paths can be appended to.** -/
theorem exists_isBase {a base : Address} (h : a.IsNormal) (hbase : a.asBase = .ok base) :
    ∃ segs, base.IsBase segs := by
  obtain ⟨segs, hroot, hne, hplain⟩ := exists_root_of_isNormal h
  have hquestion : '?' ∉ a.root := by
    rw [hroot]
    exact not_mem_rooted hplain (by decide) (by decide)
  unfold asBase at hbase
  split at hbase
  · next hslash =>
    -- The address ends with a slash and stays as it is.
    cases hbase
    refine ⟨segs, hroot, hplain, fun hquery => ?_⟩
    obtain ⟨before, last, rfl⟩ := (List.eq_nil_or_concat segs).resolve_left hne
    rw [List.concat_eq_append] at hroot hplain
    refine ⟨before, ?_⟩
    rw [target_eq, hquery, List.append_nil, hroot] at hslash
    -- Nothing stands behind the last slash, so the last segment is empty.
    rcases List.eq_nil_or_concat last with rfl | ⟨front, c, rfl⟩
    · exact List.concat_eq_append
    · have hend : rooted (before ++ [front.concat c]) = (rooted before ++ '/' :: front) ++ [c] := by
        simp
      rw [hend, List.getLast?_concat] at hslash
      have hlast : c = '/' := by simpa using hslash
      have hno : '/' ∉ front.concat c := (hplain _ (by simp)).noSlash
      exact absurd (by simp [hlast]) hno
  · cases hquery : a.query with
    | none =>
      -- The slash is put behind the path, which has one segment more, an empty one.
      rw [target_eq, hquery, List.append_nil] at hbase
      have hcut : cut '?' (a.root ++ ['/']) = (rooted (segs ++ [[]]), none) := by
        rw [cut_of_not_mem (by simpa using hquestion), hroot]
        simp
      have hall : ∀ s ∈ segs ++ [[]], IsPlain s := by
        simpa [or_imp, forall_and] using ⟨hplain, isPlain_nil⟩
      obtain ⟨hpath, -⟩ := withTarget_eq_ok hbase
      rw [hcut, normal_rooted hall] at hpath
      exact ⟨_, root_of_path (by simp) hpath, hall, fun _ => ⟨segs, rfl⟩⟩
    | some q =>
      -- The slash is put behind the query, and the path stays as it is.
      rw [target_eq, hquery, List.append_assoc, List.cons_append] at hbase
      obtain ⟨hpath, hq⟩ := withTarget_eq_ok hbase
      rw [cut_append hquestion, hroot, normal_rooted hplain] at hpath
      rw [cut_append hquestion] at hq
      exact ⟨segs, root_of_path hne hpath, hplain, fun hnone => by rw [hq] at hnone; cases hnone⟩

/-! ## Paths behind the path of a server -/

theorem IsBase.question_not_mem_root {base : Address} {segs : List (List Char)}
    (h : base.IsBase segs) : '?' ∉ base.root := by
  rw [h.root]
  exact not_mem_rooted h.plain (by decide) (by decide)

section Resolve

variable {base a : Address} {segs : List (List Char)} {p : String} {c : Char} {s : List Char}
  (hp : p.toList = '/' :: c :: s) (hc : c ≠ '/') (h : base.resolve p = .ok a)
include hp hc h

theorem path_of_resolve :
    a.path = escape pathSafe (removeDots (cut '?' (base.target ++ c :: s)).1) := by
  have hdrop : p.toList.dropWhile (· == '/') = c :: s := by simp [hp, hc]
  unfold resolve at h
  rw [hdrop] at h
  split at h
  · cases h
  · exact (withTarget_eq_ok h).1

variable (hbase : base.IsBase segs)
include hbase

/-- A path is appended to that of the server. -/
theorem path_of_resolve_of_query_eq_none (hquery : base.query = none) (hquestion : '?' ∉ c :: s) :
    a.path = escape pathSafe (removeDots (base.root ++ c :: s)) := by
  have hcut : '?' ∉ base.root ++ c :: s := fun hmem =>
    (List.mem_append.1 hmem).elim hbase.question_not_mem_root hquestion
  rw [path_of_resolve hp hc h, target_eq, hquery, List.append_nil, cut_of_not_mem hcut]

/-- If the address of the server has a query, what is appended becomes part of it. -/
theorem path_of_resolve_of_query_ne_none (hquery : base.query ≠ none) : a.path = base.root := by
  obtain ⟨q, hq⟩ := Option.ne_none_iff_exists'.1 hquery
  rw [path_of_resolve hp hc h, target_eq, hq, List.append_assoc, List.cons_append,
    cut_append hbase.question_not_mem_root, hbase.root, normal_rooted hbase.plain]

end Resolve

end Address

/-! ## Connections -/

namespace Http

/-- The endpoint of a connection is the one of its settings, and the server is the address of that
endpoint, as something to append paths to. -/
theorem exists_address_of_connect {files : String → Bool} {o : ConnectionSettings}
    {conn : Connection} (h : connect files o = .ok conn) :
    ∃ e address, ConnectionSettings.given? o.endpoint = some e ∧
      Address.read o.scheme e.toList = .ok address ∧ address.asBase = .ok conn.base ∧
      conn.endpoint = e := by
  unfold connect at h
  split at h
  · cases h
  next e he =>
  split at h
  · cases h
  obtain ⟨timeout, -, h⟩ := exists_of_bind_eq_ok h
  dsimp only at h
  split at h
  · cases h
  obtain ⟨address, haddress, h⟩ := exists_of_bind_eq_ok h
  obtain ⟨base, hbase, h⟩ := exists_of_bind_eq_ok h
  split at h
  · cases h
  cases h
  exact ⟨e, address, he, mapError_eq_ok_iff.1 haddress, mapError_eq_ok_iff.1 hbase, rfl⟩

/-- A connection has the endpoint of its settings. -/
theorem endpoint_of_connect {files : String → Bool} {o : ConnectionSettings}
    {conn : Connection} (h : connect files o = .ok conn) : o.endpoint = some conn.endpoint := by
  obtain ⟨e, address, he, -, -, rfl⟩ := exists_address_of_connect h
  exact (Option.filter_eq_some_iff.1 he).1

/-- **The server of a connection is one that paths can be appended to.** -/
theorem exists_isBase_of_connect {files : String → Bool} {o : ConnectionSettings}
    {conn : Connection} (h : connect files o = .ok conn) : ∃ segs, conn.base.IsBase segs := by
  obtain ⟨e, address, -, haddress, hbase, -⟩ := exists_address_of_connect h
  exact Address.exists_isBase (Address.isNormal_of_read haddress) hbase

end Http

end Rebac
