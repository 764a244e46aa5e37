import Rebac.Log.Setup
import Rebac.Proofs.Computations

set_option autoImplicit false

/-!
# Settings and their own variables

What a setting is given is stated on the variables and on the bindings of the settings file alone
(`Environment.Gives`): the last variable of its name in any case counts, and without one the last
binding of its name, after the references in the file are replaced. Settings of a connection and of
the log depend on what is given to their own names and on nothing else
(`Environment.own_variables_only`).

Other names count only where a value refers to them. A set of names that holds every name that its
own values refer to is all that matters to it: what else stands in the environment and in the file
is free (`Environment.AgreeWithin.agreeOn`). Two names of settings never meet unless they are the
same one with the same beginning (`Environment.sameName_nameOf_iff`).
-/

namespace Rebac

namespace Text

/-! ## Words behind other characters -/

/-- A word in lower case does not depend on what precedes it: it begins with a letter, and it has no
capital sigma. -/
def IsSteady (s : List Char) : Prop := startsCased s = true ∧ capitalSigma ∉ s

instance (s : List Char) : Decidable (IsSteady s) := inferInstanceAs (Decidable (_ ∧ _))

theorem startsCased_append {s : List Char} (hs : startsCased s = true) (t : List Char) :
    startsCased (t ++ s) = (t.all isCaseIgnorable || startsCased t) := by
  induction t with
  | nil => exact hs
  | cons c t ih =>
      cases hc : isCaseIgnorable c with
      | true => simpa [startsCased, hc] using ih
      | false => simp [startsCased, hc]

/-- **What precedes a steady word is lower-cased in one way,** whichever word that is. -/
theorem exists_lowerFrom_append (t : List Char) : ∀ within, ∃ u, ∀ s, IsSteady s →
    lowerFrom within (t ++ s) = u ++ s.flatMap lower := by
  -- Only a sigma looks at what follows, and what it sees of the word is a letter.
  induction t with
  | nil => exact fun within => ⟨[], fun s hs => lowerFrom_of_not_mem hs.2 within⟩
  | cons c t ih =>
      intro within
      obtain ⟨u, hu⟩ := ih (if isCaseIgnorable c then within else isCased c)
      refine ⟨(if c = capitalSigma then [if within && !(t.all isCaseIgnorable || startsCased t)
        then finalSigma else smallSigma] else lower c) ++ u, fun s hs => ?_⟩
      rw [List.cons_append, lowerFrom, startsCased_append hs.1, hu s hs, List.append_assoc]

end Text

namespace Settings

variable {p : List Char → Bool} {name : List Char}

/-! ## Names that a value refers to -/

/-- The names that a value refers to, in order. -/
def references (s : List Char) : List (List Char) :=
  match s with
  | [] => []
  | [_] => []
  | c :: d :: rest =>
      if c = '$' ∧ d = openBrace then
        match h : readReference rest with
        | some (r, behind) =>
            have := length_lt_of_readReference h
            r.name :: references behind
        | none => references (d :: rest)
      else references (d :: rest)
termination_by s.length

section Expansion

variable {lookup lookup' : List Char → Option (List Char)} {c d : Char} {rest : List Char}

theorem expand_of_readReference {r : Reference} {behind : List Char}
    (hc : c = '$' ∧ d = openBrace) (hread : readReference rest = some (r, behind)) :
    expand lookup (c :: d :: rest) = (lookup r.name).getD r.fallback ++ expand lookup behind := by
  rw [expand, if_pos hc]
  split
  · next hsome =>
    rw [hread] at hsome
    cases hsome
    rfl
  · next hnone =>
    rw [hread] at hnone
    cases hnone

theorem expand_of_no_reference (h : c = '$' ∧ d = openBrace → readReference rest = none) :
    expand lookup (c :: d :: rest) = c :: expand lookup (d :: rest) := by
  rw [expand]
  split
  · next hc =>
    split
    · next hsome =>
      rw [h hc] at hsome
      cases hsome
    · rfl
  · rfl

/-- **A value depends on the names that it refers to only.** -/
theorem expand_congr {s : List Char} (h : ∀ n ∈ references s, lookup n = lookup' n) :
    expand lookup s = expand lookup' s := by
  fun_induction references s with
  | case1 => simp [expand]
  | case2 c => simp [expand]
  | case3 c d rest hc r behind hread hlt ih =>
      rw [List.forall_mem_cons] at h
      rw [expand_of_readReference hc hread, expand_of_readReference hc hread, h.1, ih h.2]
  | case4 c d rest hc hread ih =>
      rw [expand_of_no_reference fun _ => hread, expand_of_no_reference fun _ => hread, ih h]
  | case5 c d rest hc ih =>
      rw [expand_of_no_reference fun h => absurd h hc, expand_of_no_reference fun h => absurd h hc,
        ih h]

end Expansion

/-! ## Bindings within a set of names -/

/-- The bindings of the names in a set. -/
def Bindings.within (p : List Char → Bool) (bs : Bindings) : Bindings := bs.filter fun b => p b.1

namespace Bindings

theorem get?_within (h : p name = true) (bs : Bindings) :
    (bs.within p).get? name = bs.get? name := by
  rw [get?, get?, within, List.find?_filter]
  congr 2
  funext b
  by_cases hb : b.1 = name
  · simp [hb, h]
  · simp [hb]

theorem within_put (value : Option (List Char)) (bs : Bindings) :
    (bs.put name value).within p =
      if p name = true then (bs.within p).put name value else bs.within p := by
  induction bs with
  | nil =>
      by_cases hname : p name = true
      · simp [put, within, hname]
      · simp [put, within, hname]
  | cons b rest ih =>
      by_cases hb : b.1 = name
      · by_cases hname : p name = true
        · simp [put, within, hb, hname]
        · simp [put, within, hb, hname]
      · -- The binding stays, in the set or outside, and the name is bound behind it.
        have hput : put name value (b :: rest) = b :: put name value rest := by
          rw [put, if_neg hb]
        rw [hput, within, List.filter_cons, ← within, ih]
        by_cases hp : p b.1 = true
        · by_cases hname : p name = true
          · simp [put, within, hp, hb, hname]
          · simp [within, hp, hname]
        · simp [within, hp]

end Bindings

theorem referenced_within (h : p name = true) (environment assigned : Bindings) :
    referenced (environment.within p) (assigned.within p) name =
      referenced environment assigned name := by
  rw [referenced, referenced, Bindings.get?_within h, Bindings.get?_within h]

/-- The names that the value of an assignment refers to are in a set. -/
def Assignment.ReadsWithin (p : List Char → Bool) (a : Assignment) : Prop :=
  ∀ s ∈ a.value, ∀ n ∈ references s, p n = true

instance (p : List Char → Bool) (a : Assignment) : Decidable (a.ReadsWithin p) :=
  inferInstanceAs (Decidable (∀ s ∈ a.value, _))

/-- **An assignment to a name in a set happens within the set,** if it reads no other names, and an
assignment to another name does nothing there. -/
theorem within_assign {a : Assignment} (h : p a.name = true → a.ReadsWithin p)
    (environment assigned : Bindings) :
    (assign environment assigned a).within p =
      if p a.name = true then assign (environment.within p) (assigned.within p) a
      else assigned.within p := by
  rw [assign, Bindings.within_put]
  split
  · next hname =>
    rw [assign]
    congr 1
    cases hvalue : a.value with
    | none => rfl
    | some s =>
        have hexpand := expand_congr fun n hn =>
          referenced_within (h hname s hvalue n hn) environment assigned
        rw [Option.map_some, Option.map_some, hexpand]
  · rfl

/-- The assignments of a file within a set of names. -/
theorem within_foldl_assign {as : List Assignment}
    (h : ∀ a ∈ as, p a.name = true → a.ReadsWithin p) (environment : Bindings) :
    ∀ assigned : Bindings, (as.foldl (assign environment) assigned).within p =
      (as.filter fun a => p a.name).foldl (assign (environment.within p)) (assigned.within p) := by
  -- The induction is on the assignments: what one of them leaves within the set is told by what was
  -- there before.
  induction as with
  | nil => exact fun _ => rfl
  | cons a rest ih =>
      intro assigned
      rw [List.foldl_cons, ih fun b hb => h b (List.mem_cons_of_mem a hb),
        within_assign (h a List.mem_cons_self)]
      split
      · next hname => rw [List.filter_cons, if_pos hname, List.foldl_cons]
      · next hname => rw [List.filter_cons, if_neg hname]

end Settings

namespace Environment

open Settings

variable {e f : Environment} {p : List Char → Bool} {start setting value : String}
  {names : List String}

/-! ## What a name is given -/

/-- Two names are the same in any case. -/
def SameName (n m : List Char) : Prop := Text.toLower n = Text.toLower m

/-- The name of the variable for a setting. -/
def nameOf (start setting : String) : List Char := start.toList ++ setting.toList

/-- What an environment gives to a name: the value of the last variable of that name in any case. If
there is no such variable, it is that of the last such binding of the settings file, unless that
binding has no value. -/
inductive Gives (e : Environment) (name : List Char) (value : String) : Prop
  | ofVariable {earlier later : List (String × String)} {n : String}
      (hvars : e.vars = earlier ++ (n, value) :: later) (hname : SameName n.toList name)
      (hlast : ∀ v ∈ later, ¬ SameName v.1.toList name) : Gives e name value
  | ofFile {earlier later : Bindings} {n : List Char}
      (hnone : ∀ v ∈ e.vars, ¬ SameName v.1.toList name)
      (hfile : e.fileBindings = earlier ++ (n, some value.toList) :: later)
      (hname : SameName n name) (hlast : ∀ b ∈ later, ¬ SameName b.1 name) : Gives e name value

theorem valueOf_eq_some_iff {name v : List Char} {bs : Bindings} :
    valueOf (Text.toLower name) bs = some v ↔ ∃ earlier n later,
      bs = earlier ++ (n, some v) :: later ∧ SameName n name ∧
        ∀ b ∈ later, ¬ SameName b.1 name := by
  -- The last binding of a name is the first one that is found from the end.
  rw [valueOf, Option.bind_eq_some_iff]
  constructor
  · rintro ⟨⟨n, w⟩, hfind, rfl⟩
    obtain ⟨hname, later, earlier, hsplit, hlater⟩ := List.find?_eq_some_iff_append.1 hfind
    refine ⟨earlier.reverse, n, later.reverse, ?_, by simpa [SameName] using hname, ?_⟩
    · rw [← List.reverse_reverse bs, hsplit]
      simp
    · intro b hb
      simpa [SameName] using hlater b (List.mem_reverse.1 hb)
  · rintro ⟨earlier, n, later, rfl, hname, hlater⟩
    refine ⟨(n, some v), List.find?_eq_some_iff_append.2 ⟨by simpa [SameName] using hname,
      later.reverse, earlier.reverse, by simp, fun b hb => ?_⟩, rfl⟩
    simpa [SameName] using hlater b (List.mem_reverse.1 hb)

theorem valueOf_variableBindings_eq_some_iff {name : List Char} :
    valueOf (Text.toLower name) e.variableBindings = some value.toList ↔ ∃ earlier n later,
      e.vars = earlier ++ (n, value) :: later ∧ SameName n.toList name ∧
        ∀ v ∈ later, ¬ SameName v.1.toList name := by
  rw [valueOf_eq_some_iff, variableBindings]
  constructor
  · rintro ⟨earlier, n, later, hsplit, hname, hlater⟩
    obtain ⟨before, rest, hvars, -, hrest⟩ := List.map_eq_append_iff.1 hsplit
    obtain ⟨⟨m, w⟩, after, rfl, hv, rfl⟩ := List.map_eq_cons_iff.1 hrest
    simp only [Prod.mk.injEq, Option.some.injEq, String.toList_inj] at hv
    obtain ⟨rfl, rfl⟩ := hv
    exact ⟨before, m, after, hvars, hname, fun v hv => hlater _ (List.mem_map_of_mem hv)⟩
  · rintro ⟨earlier, n, later, hvars, hname, hlater⟩
    refine ⟨_, n.toList, _, by rw [hvars, List.map_append, List.map_cons], hname, fun b hb => ?_⟩
    obtain ⟨v, hv, rfl⟩ := List.mem_map.1 hb
    exact hlater v hv

theorem valueOf_variableBindings_eq_none_iff {name : List Char} :
    valueOf (Text.toLower name) e.variableBindings = none ↔
      ∀ v ∈ e.vars, ¬ SameName v.1.toList name := by
  rw [valueOf]
  cases hfind : List.find? (fun b => Text.toLower b.1 == Text.toLower name)
      e.variableBindings.reverse with
  | none =>
      refine iff_of_true rfl fun v hv hsame => ?_
      have hmem : (v.1.toList, some v.2.toList) ∈ e.variableBindings.reverse :=
        List.mem_reverse.2 (List.mem_map_of_mem hv)
      exact absurd hsame (by simpa [SameName] using List.find?_eq_none.1 hfind _ hmem)
  | some b =>
      -- A variable always has a value.
      obtain ⟨v, hv, rfl⟩ := List.mem_map.1 (List.mem_reverse.1 (List.mem_of_find?_eq_some hfind))
      have hsame : SameName v.1.toList name := by simpa [SameName] using List.find?_some hfind
      exact iff_of_false nofun fun h => h v hv hsame

/-- **What is read for a setting is what its name is given.** -/
theorem gives_iff : e.Gives (nameOf start setting) value ↔ e.get? start setting = some value := by
  have hget : e.get? start setting = some value ↔
      valueOf (Text.toLower (nameOf start setting)) e.variableBindings = some value.toList ∨
        valueOf (Text.toLower (nameOf start setting)) e.variableBindings = none ∧
          valueOf (Text.toLower (nameOf start setting)) e.fileBindings = some value.toList := by
    rw [← Option.or_eq_some_iff, get?, Option.map_eq_some_iff]
    constructor
    · rintro ⟨v, hv, rfl⟩
      rw [String.toList_ofList]
      exact hv
    · intro h
      exact ⟨_, h, String.ofList_toList⟩
  rw [hget, valueOf_variableBindings_eq_some_iff, valueOf_variableBindings_eq_none_iff,
    valueOf_eq_some_iff]
  constructor
  · intro h
    cases h with
    | ofVariable hvars hname hlast => exact Or.inl ⟨_, _, _, hvars, hname, hlast⟩
    | ofFile hnone hfile hname hlast => exact Or.inr ⟨hnone, _, _, _, hfile, hname, hlast⟩
  · rintro (⟨_, _, _, hvars, hname, hlast⟩ | ⟨hnone, _, _, _, hfile, hname, hlast⟩)
    · exact .ofVariable hvars hname hlast
    · exact .ofFile hnone hfile hname hlast

/-! ## Environments that agree -/

/-- Two environments give the same to the names of some settings. -/
def AgreeOn (start : String) (names : List String) (e f : Environment) : Prop :=
  ∀ s ∈ names, ∀ value, e.Gives (nameOf start s) value ↔ f.Gives (nameOf start s) value

theorem AgreeOn.get?_eq (h : AgreeOn start names e f) (hs : setting ∈ names) :
    e.get? start setting = f.get? start setting := by
  refine Option.ext fun value => ?_
  rw [← gives_iff, ← gives_iff]
  exact h setting hs value

theorem AgreeOn.read_eq {α : Type} (h : AgreeOn start names e f) (hs : setting ∈ names)
    (parse : String → Option α) : e.read start setting parse = f.read start setting parse := by
  rw [read, read, h.get?_eq hs]

/-- The assignments in the settings file. -/
def fileAssignments (e : Environment) : List Assignment := (e.file.map assignments).getD []

theorem fileBindings_eq (e : Environment) :
    e.fileBindings = e.fileAssignments.foldl (assign e.variableBindings) [] := by
  rw [fileBindings, fileAssignments]
  cases e.file with
  | none => rfl
  | some content => rfl

/-- Two environments have the same variables and the same assignments within a set of names, and
these assignments refer to no other names. -/
structure AgreeWithin (p : List Char → Bool) (e f : Environment) : Prop where
  vars : e.vars.filter (fun v => p v.1.toList) = f.vars.filter fun v => p v.1.toList
  assignments : e.fileAssignments.filter (fun a => p a.name) =
    f.fileAssignments.filter fun a => p a.name
  closed : ∀ a ∈ e.fileAssignments, p a.name = true → a.ReadsWithin p

instance (p : List Char → Bool) (e f : Environment) : Decidable (AgreeWithin p e f) :=
  decidable_of_iff (_ ∧ _ ∧ _) ⟨fun h => ⟨h.1, h.2.1, h.2.2⟩,
    fun h => ⟨h.vars, h.assignments, h.closed⟩⟩

theorem AgreeWithin.closed_right (h : AgreeWithin p e f) :
    ∀ a ∈ f.fileAssignments, p a.name = true → a.ReadsWithin p := by
  intro a ha hname
  have hmem : a ∈ e.fileAssignments.filter fun a => p a.name := by
    rw [h.assignments]
    exact List.mem_filter.2 ⟨ha, hname⟩
  exact h.closed a (List.mem_filter.1 hmem).1 hname

theorem within_variableBindings (p : List Char → Bool) (e : Environment) :
    e.variableBindings.within p =
      (e.vars.filter fun v => p v.1.toList).map fun v => (v.1.toList, some v.2.toList) := by
  rw [Bindings.within, variableBindings, List.filter_map]
  rfl

theorem AgreeWithin.variableBindings_eq (h : AgreeWithin p e f) :
    e.variableBindings.within p = f.variableBindings.within p := by
  rw [within_variableBindings, within_variableBindings, h.vars]

theorem AgreeWithin.fileBindings_eq (h : AgreeWithin p e f) :
    e.fileBindings.within p = f.fileBindings.within p := by
  rw [Environment.fileBindings_eq, Environment.fileBindings_eq, within_foldl_assign h.closed,
    within_foldl_assign h.closed_right, h.assignments, h.variableBindings_eq]

/-- A name is given nothing by bindings of other names. -/
theorem valueOf_within {name : List Char} (h : ∀ n, SameName n name → p n = true) (bs : Bindings) :
    valueOf (Text.toLower name) (bs.within p) = valueOf (Text.toLower name) bs := by
  rw [valueOf, valueOf, Bindings.within, ← List.filter_reverse, List.find?_filter]
  congr 2
  funext b
  by_cases hb : Text.toLower b.1 = Text.toLower name
  · simp [hb, h b.1 hb]
  · simp [hb]

/-- A set of names that holds those of some settings, in any case. -/
def Covers (p : List Char → Bool) (start : String) (names : List String) : Prop :=
  ∀ s ∈ names, ∀ n, SameName n (nameOf start s) → p n = true

/-- **Other names are free.** Environments that agree within a set of names give the same to every
setting whose name is in the set, in any case. -/
theorem AgreeWithin.agreeOn (h : AgreeWithin p e f) (hnames : Covers p start names) :
    AgreeOn start names e f := by
  intro s hs value
  have hown := hnames s hs
  rw [gives_iff, gives_iff, get?_congr]
  · rw [← nameOf, ← valueOf_within hown, h.variableBindings_eq, valueOf_within hown]
  · rw [← nameOf, ← valueOf_within hown, h.fileBindings_eq, valueOf_within hown]

/-! ## Connections and the log -/

/-- The settings of a connection. -/
def connectionNames : List String :=
  ["ENDPOINT", "INSECURE", "TLS_CERT", "TLS_KEY", "TLS_CA", "AUTH_TOKEN", "TIMEOUT_MS"]

/-- The settings of the log. -/
def logNames : List String := ["LOG_LEVEL", "LOG_FORMAT"]

/-- Two beginnings of names are the same in any case, in front of a letter. -/
def SameStart (start start' : String) : Prop :=
  SameName (start.toList ++ ['X']) (start'.toList ++ ['X'])

/-- **Two settings never share a variable,** whatever their names begin with: a variable is one of
another beginning only if the beginnings are the same in any case, and then it is for the same
setting. -/
theorem sameName_nameOf_iff {start start' s s' : String} (hs : s ∈ connectionNames ++ logNames)
    (hs' : s' ∈ connectionNames ++ logNames) :
    SameName (nameOf start s) (nameOf start' s') ↔ s = s' ∧ SameStart start start' := by
  have hsteady : ∀ s ∈ connectionNames ++ logNames, Text.IsSteady s.toList := by decide +kernel
  -- The names of settings end the names of variables, and none of them ends another one.
  have hends : ∀ s ∈ connectionNames ++ logNames, ∀ s' ∈ connectionNames ++ logNames,
      s.toList.flatMap Text.lower <:+ s'.toList.flatMap Text.lower → s = s' := by decide +kernel
  have hletter : Text.IsSteady ['X'] := by decide +kernel
  obtain ⟨u, hu⟩ := Text.exists_lowerFrom_append start.toList false
  obtain ⟨u', hu'⟩ := Text.exists_lowerFrom_append start'.toList false
  have hnames : SameName (nameOf start s) (nameOf start' s') ↔
      u ++ s.toList.flatMap Text.lower = u' ++ s'.toList.flatMap Text.lower := by
    rw [← hu _ (hsteady s hs), ← hu' _ (hsteady s' hs')]
    rfl
  have hstarts : SameStart start start' ↔ u = u' := by
    rw [← List.append_left_inj (['X'].flatMap Text.lower), ← hu _ hletter, ← hu' _ hletter]
    rfl
  rw [hnames, hstarts]
  constructor
  · intro h
    obtain rfl : s = s' := by
      have hleft : s.toList.flatMap Text.lower <:+ u' ++ s'.toList.flatMap Text.lower :=
        h ▸ List.suffix_append _ _
      rcases List.suffix_or_suffix_of_suffix hleft (List.suffix_append _ _) with hend | hend
      · exact hends s hs s' hs' hend
      · exact (hends s' hs' s hs hend).symm
    exact ⟨rfl, List.append_cancel_right h⟩
  · rintro ⟨rfl, rfl⟩
    rfl

theorem AgreeOn.connection_eq (h : AgreeOn start connectionNames e f) :
    ConnectionSettings.ofEnvironment e start = ConnectionSettings.ofEnvironment f start := by
  have hget : ∀ s ∈ connectionNames, e.get? start s = f.get? start s := fun s hs => h.get?_eq hs
  rw [ConnectionSettings.ofEnvironment, ConnectionSettings.ofEnvironment,
    h.read_eq (by decide), h.read_eq (by decide), hget "ENDPOINT" (by decide),
    hget "TLS_CERT" (by decide), hget "TLS_KEY" (by decide), hget "TLS_CA" (by decide),
    hget "AUTH_TOKEN" (by decide)]

theorem AgreeOn.log_eq (h : AgreeOn start logNames e f) (level format : Option String)
    (config : Option LogSettings) : LogSettings.resolve level format config e start =
      LogSettings.resolve level format config f start := by
  rw [LogSettings.resolve, LogSettings.resolve, h.get?_eq (by decide), h.get?_eq (by decide)]

theorem read_eq_error {α : Type} {parse : String → Option α} {g : SettingFault}
    (h : e.read start setting parse = .error g) :
    g.setting = setting ∧ e.get? start setting = some g.text := by
  rw [read] at h
  split at h
  · cases h
  · next text htext =>
    split at h
    · cases h
    · cases h
      exact ⟨rfl, htext⟩

/-- A connection setting that is at fault is one of its own, with the text that it is given. -/
theorem gives_of_connection_error {g : SettingFault}
    (h : ConnectionSettings.ofEnvironment e start = .error g) :
    g.setting ∈ connectionNames ∧ e.Gives (nameOf start g.setting) g.text := by
  have hread : ∀ (α : Type) (s : String) (parse : String → Option α), s ∈ connectionNames →
      e.read start s parse = .error g →
        g.setting ∈ connectionNames ∧ e.Gives (nameOf start g.setting) g.text := by
    intro α s parse hs hg
    obtain ⟨rfl, htext⟩ := read_eq_error hg
    exact ⟨hs, gives_iff.2 htext⟩
  rw [ConnectionSettings.ofEnvironment] at h
  rcases error_or_ok_of_bind_eq_error h with hflag | ⟨insecure, -, h⟩
  · exact hread _ _ _ (by decide) hflag
  · exact hread _ _ _ (by decide) (eq_error_of_bind_pure h)

/-- **Settings read their own variables only.** Environments that give the same to the names of all
connection settings have the same connection settings, or the same fault in one of these; the
settings of the log depend on what is given to the names of the level and the format, in the same
way. So whatever else stands in the environment and in the settings file is free, except for the
names that their own values refer to, and the variables of a setting are neither those of another
setting nor those with another beginning. -/
theorem own_variables_only (start : String) :
    (∀ e f, AgreeOn start connectionNames e f →
      ConnectionSettings.ofEnvironment e start = ConnectionSettings.ofEnvironment f start) ∧
    (∀ e f, AgreeOn start logNames e f → ∀ level format config,
      LogSettings.resolve level format config e start =
        LogSettings.resolve level format config f start) ∧
    (∀ p e f, AgreeWithin p e f →
      (Covers p start connectionNames →
        ConnectionSettings.ofEnvironment e start = ConnectionSettings.ofEnvironment f start) ∧
      (Covers p start logNames → ∀ level format config,
        LogSettings.resolve level format config e start =
          LogSettings.resolve level format config f start)) ∧
    (∀ e g, ConnectionSettings.ofEnvironment e start = .error g →
      g.setting ∈ connectionNames ∧ e.Gives (nameOf start g.setting) g.text) ∧
    ∀ start', ∀ s ∈ connectionNames ++ logNames, ∀ s' ∈ connectionNames ++ logNames,
      SameName (nameOf start s) (nameOf start' s') ↔ s = s' ∧ SameStart start start' :=
  ⟨fun _ _ h => h.connection_eq, fun _ _ h => h.log_eq,
    fun _ _ _ h => ⟨fun hp => (h.agreeOn hp).connection_eq, fun hp => (h.agreeOn hp).log_eq⟩,
    fun _ _ => gives_of_connection_error, fun _ _ hs _ hs' => sameName_nameOf_iff hs hs'⟩

/-- An environment with variables of another program and of the log, and a file in which a token
refers to another variable. -/
def sharedEnvironment : Environment where
  vars := [("permify_endpoint", "localhost:3476"), ("SECRET", "s3cret"),
    ("MY_APP_ENDPOINT", "permify:3476"), ("PERMIFY_LOG_LEVEL", "loud")]
  file := some "MY_APP_TIMEOUT_MS=soon\nPERMIFY_AUTH_TOKEN=$\x7bSECRET\x7d\n"

/-- The environment and the file without what is for others. -/
def plainEnvironment : Environment where
  vars := [("permify_endpoint", "localhost:3476"), ("SECRET", "s3cret")]
  file := some "PERMIFY_AUTH_TOKEN=$\x7bSECRET\x7d\n"

/-- The names of the connection settings in any case, and the name that the token refers to. -/
def tokenNames (n : List Char) : Bool :=
  n == "SECRET".toList ||
    connectionNames.any fun s => Text.toLower n == Text.toLower (nameOf defaultVariableStart s)

theorem tokenNames_covers : Covers tokenNames defaultVariableStart connectionNames := by
  intro s hs n hn
  have hany : connectionNames.any (fun s => Text.toLower n ==
      Text.toLower (nameOf defaultVariableStart s)) = true :=
    List.any_eq_true.2 ⟨s, hs, beq_iff_eq.2 hn⟩
  rw [tokenNames, hany, Bool.or_true]

/-- **The variables of others do not count.** -/
theorem sharedEnvironment_connection :
    (AgreeWithin tokenNames sharedEnvironment plainEnvironment ∧
      Covers tokenNames defaultVariableStart connectionNames) ∧
    ConnectionSettings.ofEnvironment sharedEnvironment defaultVariableStart =
      ConnectionSettings.ofEnvironment plainEnvironment defaultVariableStart ∧
    plainEnvironment.get? defaultVariableStart "AUTH_TOKEN" = some "s3cret" := by
  have hagree : AgreeWithin tokenNames sharedEnvironment plainEnvironment := by decide +kernel
  obtain ⟨-, -, hwithin, -, -⟩ := own_variables_only defaultVariableStart
  exact ⟨⟨hagree, tokenNames_covers⟩, (hwithin _ _ _ hagree).1 tokenNames_covers, by decide +kernel⟩

end Environment

end Rebac
