import Rebac.Proofs.DeclaredSchemas
import Rebac.Proofs.Rearrangements
import Rebac.Proofs.SchemaLines

set_option autoImplicit false

/-!
# Which permissions have a key

A permission has a key exactly if its entity declares it in the section of permissions, whatever
relations and attributes there are, and its key is the one in the table of keys
(`Schema.permission_keys_exact`). Nothing keeps a colon out of a name, so a key does not tell where
the entity ends and the permission begins. Two permissions share a key exactly if one of them is the
other with a piece moved across the colon (`Schema.Shifted`). That takes a colon in the name of an
entity and one in the name of a permission, and such schemas are accepted
(`Schema.movedPiece_shares_key`).
-/

namespace Rebac

/-! ## Mirrored entries -/

namespace Dict

variable {α : Type} {R : Key → Value → α → Prop} {es : Entries Value} {d : Dict α} {k : Key}

/-- Every entry that is mirrored has a counterpart under its key. -/
theorem Mirrors.exists_entry (h : d.Mirrors R es) {v : Value} (hv : (k, v) ∈ es) :
    ∃ x, (k, x) ∈ d.entries ∧ R k v x := by
  obtain ⟨⟨l, x⟩, hx, hkey, hR⟩ := exists_of_mem_left (mirrors_iff.1 h) hv
  cases hkey
  exact ⟨x, hx, hR⟩

/-- Every entry of the mapping mirrors one under its key. -/
theorem Mirrors.exists_mirrored (h : d.Mirrors R es) {x : α} (hx : (k, x) ∈ d.entries) :
    ∃ v, (k, v) ∈ es ∧ R k v x := by
  obtain ⟨⟨l, v⟩, hv, hkey, hR⟩ := exists_of_mem_right (mirrors_iff.1 h) hx
  cases hkey
  exact ⟨v, hv, hR⟩

end Dict

/-! ## Declared permissions -/

namespace Declaration

/-- Among the declarations of a schema, one is for the entity, and its section of permissions has an
entry for the permission. -/
def DeclaresPermission (es : Entries Value) (entity permission : String) : Prop :=
  ∃ decl relations permissions attributes, (Key.text entity, decl) ∈ es ∧
    HasEntries decl relations permissions attributes ∧
    ∃ expression, (Key.text permission, expression) ∈ permissions

/-- Among the declarations of a schema, one is for the entity. -/
def DeclaresEntity (es : Entries Value) (entity : String) : Prop :=
  ∃ decl, (Key.text entity, decl) ∈ es

end Declaration

open Declaration

namespace Schema

variable {s : Schema} {es : Entries Value} {e p e' p' key : String}

/-- A schema that is defined is the one that is declared. -/
theorem mirrors_of_define (hmapping : IsMapping es) (hdefine : define (.map es) = .ok s) :
    s.entities.Mirrors Entity.IsDeclared es := by
  obtain ⟨es', hes, hbuild⟩ := exists_build_of_define hdefine
  cases hes
  exact (build_iff_declared hmapping).1 hbuild

theorem exists_entity_iff (h : s.entities.Mirrors Entity.IsDeclared es) :
    (∃ x, s.entities.get? (.text e) = some x) ↔ DeclaresEntity es e := by
  simp only [Dict.get?_text_eq_some_iff]
  constructor
  · rintro ⟨x, hx⟩
    obtain ⟨decl, hdecl, -⟩ := h.exists_mirrored hx
    exact ⟨decl, hdecl⟩
  · rintro ⟨decl, hdecl⟩
    obtain ⟨x, hx, -⟩ := h.exists_entry hdecl
    exact ⟨x, hx⟩

/-- The permissions of the entities of a schema are those that are declared. -/
theorem exists_permission_iff (h : s.entities.Mirrors Entity.IsDeclared es) :
    (∃ x, s.entities.get? (.text e) = some x ∧ x.permissions.contains (.text p) = true) ↔
      DeclaresPermission es e p := by
  simp only [Dict.contains, Option.isSome_iff_exists, Dict.get?_text_eq_some_iff]
  constructor
  · rintro ⟨x, hx, q, hq⟩
    obtain ⟨decl, hdecl, -, r, ps, a, hentries, -, hps, -⟩ := h.exists_mirrored hx
    obtain ⟨v, hv, -⟩ := hps.exists_mirrored hq
    exact ⟨decl, r, ps, a, hdecl, hentries, v, hv⟩
  · rintro ⟨decl, r, ps, a, hdecl, hentries, v, hv⟩
    obtain ⟨x, hx, -, r', ps', a', hentries', -, hps, -⟩ := h.exists_entry hdecl
    obtain ⟨-, rfl, -⟩ := hentries.unique hentries'
    obtain ⟨q, hq, -⟩ := hps.exists_entry hv
    exact ⟨x, hx, q, hq⟩

/-! ## Keys -/

theorem permissionText_text (e p : String) :
    permissionText (.text e) (.text p) = e ++ ":" ++ p := by
  rw [permissionText, Key.display_text, Key.display_text]

/-- The row of an entity in the table of keys. -/
theorem find?_permissionTable (s : Schema) (e : String) :
    s.permissionTable.find? (fun row => row.1.same (.text e)) =
      (s.entities.get? (.text e)).map fun x => (.text e, keysOf (.text e) x) := by
  have hrow : s.permissionTable.find? (fun row => row.1.same (.text e)) =
      (s.entities.entries.find? fun x => x.1.same (.text e)).map
        fun x => (x.1, keysOf x.1 x.2) := by
    rw [permissionTable, List.find?_map]
    rfl
  rw [hrow, Dict.get?, Entries.get?, Option.map_map]
  refine Option.map_congr fun x hx => ?_
  have hname : x.1 = .text e := Key.eq_text_of_same (by simpa using List.find?_some hx)
  rw [Function.comp_apply, hname]

/-- The cell of a permission in the row of its entity. -/
theorem find?_keysOf (k : Key) (x : Entity) (p : String) :
    (keysOf k x).find? (fun cell => cell.1.same (.text p)) =
      if x.permissions.contains (.text p) then some (.text p, permissionText k (.text p))
      else none := by
  have hcell : (keysOf k x).find? (fun cell => cell.1.same (.text p)) =
      (x.permissions.entries.find? fun q => q.1.same (.text p)).map
        fun q => (q.1, permissionText k q.1) := by
    rw [keysOf, Dict.keys, List.map_map, List.find?_map]
    rfl
  rw [hcell, Dict.contains, Dict.get?, Entries.get?, Option.isSome_map]
  cases hfound : x.permissions.entries.find? fun q => q.1.same (.text p) with
  | none => rfl
  | some q =>
      have hname : q.1 = .text p := Key.eq_text_of_same (by simpa using List.find?_some hfound)
      rw [Option.map_some, hname, Option.isSome_some, if_pos rfl]

/-- What a key is, and why there is none: all that looking up a key depends on. -/
theorem permissionKey_eq (s : Schema) (e p : String) :
    s.permissionKey e p =
      match s.entities.get? (.text e) with
      | none => .error (.entity e)
      | some x =>
          if x.permissions.contains (.text p) then .ok (e ++ ":" ++ p)
          else .error (.permission e p) := by
  rw [permissionKey, find?_permissionTable]
  cases s.entities.get? (.text e) with
  | none => rfl
  | some x =>
      dsimp only [Option.map_some]
      rw [find?_keysOf]
      by_cases hp : x.permissions.contains (.text p) = true
      · rw [if_pos hp, if_pos hp, ← permissionText_text]
        rfl
      · rw [if_neg hp, if_neg hp]
        rfl

theorem permissionKey_eq_ok_iff : s.permissionKey e p = .ok key ↔
    (∃ x, s.entities.get? (.text e) = some x ∧ x.permissions.contains (.text p) = true) ∧
      key = e ++ ":" ++ p := by
  rw [permissionKey_eq]
  cases s.entities.get? (.text e) with
  | none => simp
  | some x =>
      by_cases hp : x.permissions.contains (.text p) = true
      · simp only [hp, if_true, Except.ok.injEq, Option.some.injEq, exists_eq_left', true_and]
        exact eq_comm
      · simp [hp]

theorem permissionKey_unknown_entity_iff :
    s.permissionKey e p = .error (.entity e) ↔ ¬ ∃ x, s.entities.get? (.text e) = some x := by
  rw [permissionKey_eq]
  cases s.entities.get? (.text e) with
  | none => simp
  | some x =>
      by_cases hp : x.permissions.contains (.text p) = true
      · simp [hp]
      · simp [hp]

theorem permissionKey_unknown_permission_iff :
    s.permissionKey e p = .error (.permission e p) ↔ (∃ x, s.entities.get? (.text e) = some x) ∧
      ¬ ∃ x, s.entities.get? (.text e) = some x ∧ x.permissions.contains (.text p) = true := by
  rw [permissionKey_eq]
  cases s.entities.get? (.text e) with
  | none => simp
  | some x =>
      by_cases hp : x.permissions.contains (.text p) = true
      · simp [hp]
      · simp [hp]

/-- The table of keys has a row for an entity, and in it a cell for a permission with this key. -/
def Tabulates (s : Schema) (e p key : String) : Prop :=
  ∃ cells, (Key.text e, cells) ∈ s.permissionTable ∧ (Key.text p, key) ∈ cells

theorem tabulates_iff : s.Tabulates e p key ↔
    (∃ x, s.entities.get? (.text e) = some x ∧ x.permissions.contains (.text p) = true) ∧
      key = e ++ ":" ++ p := by
  simp only [Dict.contains, Option.isSome_iff_exists, Dict.get?_text_eq_some_iff]
  constructor
  · rintro ⟨cells, hrow, hcell⟩
    obtain ⟨⟨k, x⟩, hx, hrow⟩ := List.mem_map.1 hrow
    cases hrow
    obtain ⟨q, hq, hcell⟩ := List.mem_map.1 hcell
    cases hcell
    obtain ⟨⟨l, v⟩, hv, rfl⟩ := List.mem_map.1 hq
    exact ⟨⟨x, hx, v, hv⟩, permissionText_text e p⟩
  · rintro ⟨⟨x, hx, v, hv⟩, rfl⟩
    refine ⟨keysOf (.text e) x, List.mem_map_of_mem hx, ?_⟩
    rw [← permissionText_text]
    exact List.mem_map_of_mem (List.mem_map_of_mem hv)

/-! ## Shared keys -/

/-- The second entity and permission are the first ones with a piece moved from the permission to
the entity, together with the colon behind it. -/
def Shifted (e p e' p' : String) : Prop :=
  ∃ piece, e' = e ++ ":" ++ piece ∧ p = piece ++ ":" ++ p'

theorem Shifted.colon_mem (h : Shifted e p e' p') : ':' ∈ e'.toList ∧ ':' ∈ p.toList := by
  obtain ⟨piece, rfl, rfl⟩ := h
  simp

/-- Where two texts that are joined by a character are joined to the same text, the places of that
character are the same, or what is between them goes from one text to the other. -/
theorem joined_cases {c : Char} {xs ys xs' ys' : List Char}
    (h : xs ++ c :: ys = xs' ++ c :: ys') :
    (xs = xs' ∧ ys = ys') ∨ (∃ piece, xs' = xs ++ c :: piece ∧ ys = piece ++ c :: ys') ∨
      ∃ piece, xs = xs' ++ c :: piece ∧ ys' = piece ++ c :: ys := by
  -- One of the two texts in front begins the other, and what is left of that one begins with the
  -- character, unless nothing is left.
  rcases List.append_eq_append_iff.1 h with ⟨between, hfirst, hsecond⟩ | ⟨between, hfirst, hsecond⟩
  · cases between with
    | nil => exact Or.inl ⟨by rw [hfirst, List.append_nil], (List.cons.inj hsecond).2⟩
    | cons d piece =>
        obtain ⟨rfl, hrest⟩ := List.cons.inj hsecond
        exact Or.inr (Or.inl ⟨piece, hfirst, hrest⟩)
  · cases between with
    | nil => exact Or.inl ⟨by rw [hfirst, List.append_nil], (List.cons.inj hsecond).2.symm⟩
    | cons d piece =>
        obtain ⟨rfl, hrest⟩ := List.cons.inj hsecond
        exact Or.inr (Or.inr ⟨piece, hfirst, hrest⟩)

theorem toList_joined (e p : String) : (e ++ ":" ++ p).toList = e.toList ++ ':' :: p.toList := by
  simp

theorem eq_joined_of_toList {t : String} {xs : List Char} (h : t.toList = e.toList ++ ':' :: xs) :
    t = e ++ ":" ++ String.ofList xs := by
  rw [← String.toList_inj, toList_joined, String.toList_ofList, h]

/-- **When two keys are the same text.** -/
theorem joined_eq_iff : e ++ ":" ++ p = e' ++ ":" ++ p' ↔
    (e = e' ∧ p = p') ∨ Shifted e p e' p' ∨ Shifted e' p' e p := by
  constructor
  · intro h
    rw [← String.toList_inj, toList_joined, toList_joined] at h
    rcases joined_cases h with ⟨he, hp⟩ | ⟨piece, he, hp⟩ | ⟨piece, he, hp⟩
    · exact Or.inl ⟨String.toList_inj.1 he, String.toList_inj.1 hp⟩
    · refine Or.inr (Or.inl ⟨String.ofList piece, eq_joined_of_toList he, ?_⟩)
      rw [← String.toList_inj, toList_joined, String.toList_ofList, hp]
    · refine Or.inr (Or.inr ⟨String.ofList piece, eq_joined_of_toList he, ?_⟩)
      rw [← String.toList_inj, toList_joined, String.toList_ofList, hp]
  · rintro (⟨rfl, rfl⟩ | ⟨piece, rfl, rfl⟩ | ⟨piece, rfl, rfl⟩)
    · rfl
    · simp only [String.append_assoc]
    · simp only [String.append_assoc]

/-- No entity that is declared has a colon in its name, or no permission has. -/
def HasNoColon (es : Entries Value) : Prop :=
  (∀ e, DeclaresEntity es e → ':' ∉ e.toList) ∨ ∀ e p, DeclaresPermission es e p → ':' ∉ p.toList

theorem HasNoColon.not_shifted (h : HasNoColon es) (hdeclared : DeclaresPermission es e p)
    (hdeclared' : DeclaresPermission es e' p') : ¬ Shifted e p e' p' := by
  intro hshifted
  rcases h with h | h
  · obtain ⟨decl, -, -, -, hdecl, -⟩ := hdeclared'
    exact h e' ⟨decl, hdecl⟩ hshifted.colon_mem.1
  · exact h e p hdeclared hshifted.colon_mem.2

/-- The permissions with keys are those that are declared. -/
theorem permissionKey_eq_ok_iff_declares (hmapping : IsMapping es)
    (hdefine : define (.map es) = .ok s) :
    s.permissionKey e p = .ok key ↔ DeclaresPermission es e p ∧ key = e ++ ":" ++ p := by
  rw [permissionKey_eq_ok_iff, exists_permission_iff (mirrors_of_define hmapping hdefine)]

/-- **Which permissions have a key, and which share one.** In a schema that is defined, the declared
permissions of the declared entities have keys, and no others. A key is the one in the table of
keys: entity and permission, joined by a colon. If there is none, the entity or else the permission
is unknown. Two declared permissions share a key exactly if they are one, or if one is the other
with a piece moved across the colon. So none do if no entity, or no permission, has a colon in its
name. -/
theorem permission_keys_exact (hmapping : IsMapping es) (hdefine : define (.map es) = .ok s) :
    (∀ e p key, s.permissionKey e p = .ok key ↔
      DeclaresPermission es e p ∧ key = e ++ ":" ++ p) ∧
    (∀ e p key, s.permissionKey e p = .ok key ↔ s.Tabulates e p key) ∧
    (∀ e p, s.permissionKey e p = .error (.entity e) ↔ ¬ DeclaresEntity es e) ∧
    (∀ e p, s.permissionKey e p = .error (.permission e p) ↔
      DeclaresEntity es e ∧ ¬ DeclaresPermission es e p) ∧
    (∀ e p e' p', DeclaresPermission es e p → DeclaresPermission es e' p' →
      (s.permissionKey e p = s.permissionKey e' p' ↔
        (e = e' ∧ p = p') ∨ Shifted e p e' p' ∨ Shifted e' p' e p)) ∧
    (HasNoColon es → ∀ e p e' p' key, s.permissionKey e p = .ok key →
      s.permissionKey e' p' = .ok key → e = e' ∧ p = p') := by
  have hmirrors := mirrors_of_define hmapping hdefine
  have hkey : ∀ e p key, s.permissionKey e p = .ok key ↔
      DeclaresPermission es e p ∧ key = e ++ ":" ++ p := fun e p key =>
    permissionKey_eq_ok_iff_declares hmapping hdefine
  have hshared : ∀ e p e' p', DeclaresPermission es e p → DeclaresPermission es e' p' →
      (s.permissionKey e p = s.permissionKey e' p' ↔
        (e = e' ∧ p = p') ∨ Shifted e p e' p' ∨ Shifted e' p' e p) := by
    intro e p e' p' hdeclared hdeclared'
    rw [(hkey e p _).2 ⟨hdeclared, rfl⟩, (hkey e' p' _).2 ⟨hdeclared', rfl⟩, Except.ok.injEq,
      joined_eq_iff]
  refine ⟨hkey, ?_, ?_, ?_, hshared, ?_⟩
  · intro e p key
    rw [permissionKey_eq_ok_iff, tabulates_iff]
  · intro e p
    rw [permissionKey_unknown_entity_iff, exists_entity_iff hmirrors]
  · intro e p
    rw [permissionKey_unknown_permission_iff, exists_entity_iff hmirrors,
      exists_permission_iff hmirrors]
  · intro hcolon e p e' p' key hfirst hsecond
    obtain ⟨hdeclared, -⟩ := (hkey e p key).1 hfirst
    obtain ⟨hdeclared', -⟩ := (hkey e' p' key).1 hsecond
    have hsame := (hshared e p e' p' hdeclared hdeclared').1 (hfirst.trans hsecond.symm)
    rcases hsame with hsame | hshifted | hshifted
    · exact hsame
    · exact absurd hshifted (hcolon.not_shifted hdeclared hdeclared')
    · exact absurd hshifted (hcolon.not_shifted hdeclared' hdeclared)

/-- An entity type with members and a permission for them. -/
def memberEntity (permission : String) : Value :=
  .record [("relations", .record [("member", .text "team")]),
    ("permissions", .record [(permission, .text "member")])]

/-- Declarations of teams and of another entity type. -/
def teamDeclarations (permission entity other : String) : Entries Value :=
  [(.text "team", memberEntity permission), (.text entity, memberEntity other)]

theorem hasEntries_memberEntity (permission : String) :
    HasEntries (memberEntity permission) [(.text "member", .text "team")]
      [(.text permission, .text "member")] [] := by
  refine .mapping fun e he => ?_
  rcases List.mem_cons.1 he with rfl | he
  · rfl
  · rw [List.mem_singleton.1 he]
    rfl

theorem isMapping_teamDeclarations {permission entity other : String} (h : "team" ≠ entity) :
    IsMapping (teamDeclarations permission entity other) := by
  have hsections : ∀ q, HasDistinctKeys (memberEntity q) := fun q =>
    (hasEntries_memberEntity q).hasDistinctKeys (List.pairwise_singleton _ _)
      (List.pairwise_singleton _ _) Entries.distinct_nil
  refine ⟨by simp [teamDeclarations, Entries.Distinct, h], ?_⟩
  rw [teamDeclarations, List.forall_mem_cons, List.forall_mem_singleton]
  exact ⟨hsections permission, hsections other⟩

section Teams

variable {permission entity other : String}

theorem declares_team :
    DeclaresPermission (teamDeclarations permission entity other) "team" permission :=
  ⟨_, _, _, _, List.mem_cons_self, hasEntries_memberEntity _, _, List.mem_cons_self⟩

theorem declares_other :
    DeclaresPermission (teamDeclarations permission entity other) entity other :=
  ⟨_, _, _, _, List.mem_cons_of_mem _ List.mem_cons_self, hasEntries_memberEntity _, _,
    List.mem_cons_self⟩

theorem eq_of_declares_team (hne : "team" ≠ entity)
    (h : DeclaresPermission (teamDeclarations permission entity other) "team" p) :
    p = permission := by
  obtain ⟨decl, relations, permissions, attributes, hdecl, hentries, v, hv⟩ := h
  rcases List.mem_cons.1 hdecl with hteam | hother
  · cases hteam
    obtain ⟨-, rfl, -⟩ := hentries.unique (hasEntries_memberEntity permission)
    cases List.mem_singleton.1 hv
    rfl
  · cases List.mem_singleton.1 hother
    exact absurd rfl hne

end Teams

/-- A colon in the name of an entity alone leaves every key to one permission, and a relation has
no key. -/
theorem teamBoard_keys :
    IsMapping (teamDeclarations "view" "team:board" "view") ∧
      ∃ s, define (.map (teamDeclarations "view" "team:board" "view")) = .ok s ∧
        s.permissionKey "team" "view" = .ok "team:view" ∧
        s.permissionKey "team:board" "view" = .ok "team:board:view" ∧
        s.permissionKey "team" "board:view" = .error (.permission "team" "board:view") ∧
        s.permissionKey "team" "member" = .error (.permission "team" "member") := by
  have hmapping : IsMapping (teamDeclarations "view" "team:board" "view") :=
    isMapping_teamDeclarations (by decide)
  obtain ⟨s, hs⟩ : ∃ s, define (.map (teamDeclarations "view" "team:board" "view")) = .ok s :=
    exists_of_isOk (by decide +kernel)
  obtain ⟨hkey, -, -, hunknown, -, -⟩ := permission_keys_exact hmapping hs
  have hteam : DeclaresEntity (teamDeclarations "view" "team:board" "view") "team" :=
    ⟨_, List.mem_cons_self⟩
  refine ⟨hmapping, s, hs, (hkey _ _ _).2 ⟨declares_team, rfl⟩,
    (hkey _ _ _).2 ⟨declares_other, rfl⟩, (hunknown _ _).2 ⟨hteam, fun h => ?_⟩,
    (hunknown _ _).2 ⟨hteam, fun h => ?_⟩⟩
  · exact absurd (eq_of_declares_team (by decide) h) (by decide)
  · exact absurd (eq_of_declares_team (by decide) h) (by decide)

/-- **Two permissions can share a key.** The key of a permission `board:view` of teams is that of
the permission `view` of another entity type. -/
theorem movedPiece_shares_key :
    ∃ s, define (.map (teamDeclarations "board:view" "team:board" "view")) = .ok s ∧
      s.permissionKey "team" "board:view" = .ok "team:board:view" ∧
      s.permissionKey "team:board" "view" = .ok "team:board:view" ∧
      ("team", "board:view") ≠ ("team:board", "view") := by
  have hmapping : IsMapping (teamDeclarations "board:view" "team:board" "view") :=
    isMapping_teamDeclarations (by decide)
  obtain ⟨s, hs⟩ : ∃ s, define (.map (teamDeclarations "board:view" "team:board" "view")) = .ok s :=
    exists_of_isOk (by decide +kernel)
  exact ⟨s, hs, (permissionKey_eq_ok_iff_declares hmapping hs).2 ⟨declares_team, rfl⟩,
    (permissionKey_eq_ok_iff_declares hmapping hs).2 ⟨declares_other, rfl⟩, by decide⟩

end Schema

end Rebac
