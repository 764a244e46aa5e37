import Rebac.Proofs.ValidatedConfigs

set_option autoImplicit false

/-!
# Logging settings that are validated

Validation looks at a level by its text and at a format as it is; setting up the log takes both as
they are, out of four sources. The two agree on every configuration that is accepted and whose level
is a text (`LogSettings.applied_of_validate`): neither the level nor the format is empty, so nothing
stands in their place. No value of a known kind other than a text shows itself as the name of a
level, since it shows a character that no name has in any case
(`LogLevel.ofName?_display_eq_none`). A value of another kind may, such as a path; validation
accepts it, and setting up the log fails.
-/

namespace Rebac

namespace LogLevel

/-! ## Texts that name no level -/

/-- A character that is its own upper case and no letter of a name of a level. -/
def isForeign (c : Char) : Bool := Text.upper c == [c] && !c.isUpper

/-- Whether a text has a foreign character. -/
def hasForeign (s : String) : Bool := s.toList.any isForeign

@[simp] theorem hasForeign_append (s t : String) :
    hasForeign (s ++ t) = (hasForeign s || hasForeign t) := by
  rw [hasForeign, String.toList_append, List.any_append]
  rfl

theorem hasForeign_ofList {cs : List Char} {c : Char} (hc : c ∈ cs) (h : isForeign c = true) :
    hasForeign (String.ofList cs) = true := by
  rw [hasForeign, String.toList_ofList]
  exact List.any_eq_true.2 ⟨c, hc, h⟩

/-- A text with a foreign character names no level. -/
theorem ofName?_eq_none_of_foreign {s : String} (hforeign : hasForeign s = true) :
    ofName? s = none := by
  obtain ⟨c, hc, hforeign⟩ := List.any_eq_true.1 hforeign
  obtain ⟨hupper, hnot⟩ : Text.upper c = [c] ∧ c.isUpper = false := by
    simpa [isForeign] using hforeign
  cases h : ofName? s with
  | none => rfl
  | some l =>
      have hletters : names.all (fun n => n.1.toList.all Char.isUpper) = true := by rfl
      obtain ⟨n, hn, -⟩ := Option.map_eq_some_iff.1 h
      have hname : n.1 = String.ofList (Text.toUpper s.toList) := by
        simpa using List.find?_some hn
      have hmem : c ∈ n.1.toList := by
        rw [hname, String.toList_ofList, Text.toUpper, List.mem_flatMap]
        exact ⟨c, hc, by simp [hupper]⟩
      have hletter := List.all_eq_true.1
        (List.all_eq_true.1 hletters n (List.mem_of_find?_eq_some hn)) c hmem
      rw [hletter] at hnot
      cases hnot

/-! ## Values that show themselves -/

theorem isForeign_digitChar {k : Nat} (h : k < 10) : isForeign k.digitChar = true := by
  have hall : ∀ k < 10, isForeign k.digitChar = true := by decide
  exact hall k h

theorem hasForeign_toString_nat (n : Nat) : hasForeign (toString n) = true := by
  -- The last digit is foreign.
  have hlast : (n % 10).digitChar ∈ Nat.toDigits 10 n := by
    by_cases h : n < 10
    · rw [Nat.toDigits_of_lt_base h, Nat.mod_eq_of_lt h]
      exact List.mem_singleton_self _
    · rw [Nat.toDigits_of_base_le (by decide) (Nat.le_of_not_lt h)]
      exact List.mem_append_right _ (List.mem_singleton_self _)
  rw [Nat.toString_eq_repr, Nat.repr_eq_ofList_toDigits]
  exact hasForeign_ofList hlast (isForeign_digitChar (Nat.mod_lt n (by decide)))

theorem hasForeign_toString_int (i : Int) : hasForeign (toString i) = true := by
  cases i with
  | ofNat n => exact hasForeign_toString_nat n
  | negSucc n =>
      change hasForeign ("-" ++ toString (n + 1)) = true
      rw [hasForeign_append, hasForeign_toString_nat, Bool.or_true]

/-- The text of a positive decimal has a point or an exponent with a sign. -/
theorem exists_foreign_of_decimalText (d : Decimal) :
    ∃ c ∈ Binary64.decimalText d, isForeign c = true := by
  rw [Binary64.decimalText]
  dsimp only
  split
  · refine ⟨'.', ?_, by decide⟩
    split <;> simp
  · refine ⟨_, List.mem_append_right _ (List.mem_cons_of_mem _ List.mem_cons_self), ?_⟩
    split
    · decide
    · decide

theorem ofName?_text_binary64 (x : Binary64) : ofName? x.text = none := by
  cases x with
  | nan => decide
  | infinite negative =>
      cases negative with
      | false => decide
      | true => decide
  | finite negative m e =>
      obtain ⟨c, hc, hforeign⟩ : ∃ c ∈ (if m = 0 then ['0', '.', '0']
          else Binary64.decimalText (Binary64.shortest m e)), isForeign c = true := by
        split
        · exact ⟨'.', by decide, by decide⟩
        · exact exists_foreign_of_decimalText _
      refine ofName?_eq_none_of_foreign (hasForeign_ofList ?_ hforeign)
      cases negative with
      | false => exact hc
      | true => exact List.mem_cons_of_mem _ hc

theorem hasForeign_tupleText (parts : List String) : hasForeign (Text.tupleText parts) = true := by
  have hparenthesis : hasForeign "(" = true := by decide
  unfold Text.tupleText
  split
  · simp [hparenthesis]
  · simp [hparenthesis]

theorem hasForeign_record (kind : RecordKind) (fields : List String) :
    hasForeign (kind.text fields) = true := by
  have hparenthesis : hasForeign "(" = true := by decide
  simp [RecordKind.text, Text.recordText, hparenthesis]

theorem hasForeign_summary (s : Schema) : hasForeign s.summary = true := by
  have hopening : hasForeign "SchemaHandle(entities=[" = true := by rfl
  unfold Schema.summary
  rw [hasForeign_append, hasForeign_append, hopening, Bool.true_or, Bool.true_or]

theorem hasForeign_quotedBytes (b : List UInt8) :
    hasForeign (String.ofList (Text.quotedBytes b)) = true := by
  have hquote : ∀ s, isForeign (Text.quoteFor s) = true := by
    intro s
    unfold Text.quoteFor
    split
    · decide
    · decide
  exact hasForeign_ofList (List.mem_cons_of_mem _ List.mem_cons_self) (hquote _)

/-- A named choice is shown behind the name of its type and a point. -/
theorem hasForeign_display_choice {a : Atom}
    (h : (∃ t, a = .attributeType t) ∨ (∃ m, a = .seedingMode m) ∨ ∃ r, a = .checkResult r) :
    hasForeign a.display = true := by
  have hattribute : hasForeign "AttributeType." = true := by rfl
  have hmode : hasForeign "SeedingMode." = true := by rfl
  have hresult : hasForeign "CheckResult." = true := by rfl
  rcases h with ⟨t, rfl⟩ | ⟨m, rfl⟩ | ⟨r, rfl⟩
  · simp [Atom.display, hattribute]
  · simp [Atom.display, hmode]
  · simp [Atom.display, hresult]

/-- A relationship is shown in one line, with a colon behind the type of its entity, or as a
record. -/
theorem hasForeign_display_relationship (e r s : Value) :
    hasForeign (Value.relationship e r s).display = true := by
  have hcolon : hasForeign ":" = true := by decide
  unfold Value.display
  split
  case h_5 | h_6 => simp [Value.referenceText, hcolon]
  case h_7 => exact hasForeign_record _ _
  all_goals simp_all

/-- **Among the values of known kinds, only a text shows itself as the name of a level.** -/
theorem ofName?_display_eq_none {v : Value} (htext : ∀ s, v ≠ .text s)
    (hknown : ∀ kind shown, v ≠ .handle kind shown) : ofName? v.display = none := by
  have hbracket : hasForeign "[" = true := by decide
  have hbrace : hasForeign "\x7b" = true := by decide
  cases v with
  | text s => exact absurd rfl (htext s)
  | none => rfl
  | bool b =>
      cases b with
      | false => rfl
      | true => rfl
  | int i => exact ofName?_eq_none_of_foreign (hasForeign_toString_int i)
  | float x => exact ofName?_text_binary64 x
  | bytes b => exact ofName?_eq_none_of_foreign (hasForeign_quotedBytes b)
  | list xs =>
      refine ofName?_eq_none_of_foreign ?_
      simp [Value.display, Value.quoted, hbracket]
  | tuple xs =>
      refine ofName?_eq_none_of_foreign ?_
      simp [Value.display, Value.quoted, hasForeign_tupleText]
  | map es =>
      refine ofName?_eq_none_of_foreign ?_
      simp [Value.display, Value.quoted, hbrace]
  | set xs =>
      refine ofName?_eq_none_of_foreign ?_
      cases xs with
      | nil => rfl
      | cons x xs => simp [Value.display, Value.quoted, hbrace]
  | attributeType t | seedingMode m | checkResult r =>
      exact ofName?_eq_none_of_foreign (hasForeign_display_choice (by simp))
  | schema s => exact ofName?_eq_none_of_foreign (hasForeign_summary s)
  | handle kind shown => exact absurd rfl (hknown kind shown)
  | relationship e r s => exact ofName?_eq_none_of_foreign (hasForeign_display_relationship e r s)
  | _ => exact ofName?_eq_none_of_foreign (hasForeign_record _ _)

end LogLevel

/-! ## What is accepted and what is set up -/

/-- A setting that shows itself as the name of a level is a text or of a kind that is not known. -/
theorem LogLevel.text_or_handle_of_display {v : Value} {level : LogLevel}
    (h : ofName? v.display = some level) :
    (∃ name, v = .text name) ∨ ∃ kind shown, v = .handle kind shown := by
  by_contra hother
  rw [not_or] at hother
  obtain ⟨htext, hhandle⟩ := hother
  rw [ofName?_display_eq_none (by simpa using htext) (by simpa using hhandle)] at h
  cases h

theorem LogLevel.ofName?_empty : ofName? "" = none := by decide

/-- A setting that shows itself as the name of a level counts. -/
theorem LogLevel.truthy_of_display {v : Value} {level : LogLevel}
    (h : ofName? v.display = some level) : v.truthy = true := by
  rcases text_or_handle_of_display h with ⟨name, rfl⟩ | ⟨kind, shown, rfl⟩
  · rw [Value.display_text] at h
    by_cases hempty : name = ""
    · subst hempty
      cases h.symm.trans ofName?_empty
    · simpa [Value.truthy] using hempty
  · rfl

theorem LogFormat.eq_name_of_ofName? {s : String} {format : LogFormat}
    (h : ofName? s = some format) : s = format.name := by
  have hname := List.find?_some h
  exact (beq_iff_eq.1 hname).symm

theorem LogFormat.truthy_name (format : LogFormat) : (Value.text format.name).truthy = true := by
  cases format with
  | text => decide
  | json => decide

namespace Configuration

/-- Logging settings that pass their check show the name of a level and name a format. -/
theorem names_of_checkLogging {s : LogSettings} (h : checkLogging s = .ok ()) :
    ∃ (level : LogLevel) (format : LogFormat),
      LogLevel.ofName? s.level.display = some level ∧ s.format = .text format.name := by
  unfold checkLogging at h
  split at h
  · cases h
  · rename_i level hlevel
    split at h
    · rename_i f hf
      split at h
      · rename_i hsome
        obtain ⟨format, hformat⟩ := Option.isSome_iff_exists.1 hsome
        rw [LogFormat.eq_name_of_ofName? hformat] at hf
        exact ⟨level, format, hlevel, hf⟩
      · cases h
    · cases h

/-- The logging settings of a configuration that is accepted pass their check. -/
theorem checkLogging_of_validate {files : FileTree} {c : Configuration} {s : LogSettings}
    (h : validate files (some c) = .ok ()) (hs : c.logging = some s) : checkLogging s = .ok () := by
  obtain ⟨-, -, -, -, hlogging⟩ := validate_eq_ok_iff.1 h
  rw [hs] at hlogging
  exact hlogging

end Configuration

namespace LogSettings

variable {s : LogSettings} {level : LogLevel} {format : LogFormat}

/-- Settings that show the name of a level and name a format are in force as they are. -/
theorem resolve_of_names (hlevel : LogLevel.ofName? s.level.display = some level)
    (hformat : s.format = .text format.name) (e : Environment) (start : String) :
    resolve none none (some s) e start = s := by
  have hname : s.level.truthy = true := LogLevel.truthy_of_display hlevel
  have hchoice : s.format.truthy = true := hformat ▸ format.truthy_name
  have htake : ∀ {v : Value} (other : Value), v.truthy = true →
      (optional none).orElse (v.orElse other) = v := by
    intro v other hv
    rw [Value.orElse, Value.orElse, if_pos hv]
    rfl
  obtain ⟨l, f⟩ := s
  rw [resolve, mk.injEq]
  exact ⟨htake _ hname, htake _ hchoice⟩

/-- Settings with a text that names a level and a format are set up as such. -/
theorem apply_of_text {name : String} (hlevel : s.level = .text name)
    (hnamed : LogLevel.ofName? name = some level) (hformat : s.format = .text format.name)
    (before : LogState) : LogState.apply s before = (.ok (), .of level format) := by
  have hreadLevel : readLevel s.level = .ok level := by
    rw [hlevel, readLevel, hnamed]
    rfl
  have hreadFormat : readFormat s.format = .ok format := by
    rw [hformat, readFormat, LogFormat.ofName?_name]
    rfl
  rw [LogState.apply, hreadLevel]
  dsimp only
  rw [hreadFormat]
  rfl

/-- Settings with a level of a kind that is not known are not set up: such a level has no upper
case. -/
theorem apply_of_handle {kind shown : String} (hlevel : s.level = .handle kind shown)
    (before : LogState) :
    LogState.apply s before = (.error (.access (.noField kind "upper")), before) := by
  have hreadLevel : readLevel s.level = .error (.access (.noField kind "upper")) := by
    rw [hlevel]
    rfl
  rw [LogState.apply, hreadLevel]
  rfl

/-- Settings take effect as a level and a format: in every environment and whatever the log was like
before, setting it up succeeds, the root has the number of the level, and its only handler writes
the format. -/
def TakesEffect (s : LogSettings) (level : LogLevel) (format : LogFormat) : Prop :=
  ∀ (e : Environment) (start : String) (before : LogState),
    ∃ after, LogState.apply (resolve none none (some s) e start) before = (.ok (), after) ∧
      after.rootLevel = level.number ∧ after.handlers = [some format]

/-- Settings are not set up: in every environment the caller is told that their level, which is of
this kind, has no upper case, and the log stays as it was. -/
def IsRefused (s : LogSettings) (kind : String) : Prop :=
  ∀ (e : Environment) (start : String) (before : LogState),
    LogState.apply (resolve none none (some s) e start) before =
      (.error (.access (.noField kind "upper")), before)

/-- Settings that are refused do not take effect. -/
theorem IsRefused.not_takesEffect {kind : String} (h : s.IsRefused kind) :
    ¬ s.TakesEffect level format := by
  intro heffect
  obtain ⟨after, hafter, -⟩ := heffect {} defaultVariableStart (.of level format)
  rw [h] at hafter
  cases hafter

/-- **Logging settings that are validated take effect if their level is a text.** If a configuration
is accepted, its logging settings show the name of a level and name a format, and whatever the
environment holds, they are in force as they are unless the caller gives others. They take effect as
that level and that format exactly if the level is a text; otherwise they are refused for having a
level without upper case. -/
theorem applied_of_validate {files : FileTree} {c : Configuration} {s : LogSettings}
    (hvalid : Configuration.validate files (some c) = .ok ()) (hs : c.logging = some s) :
    ∃ (level : LogLevel) (format : LogFormat),
      LogLevel.ofName? s.level.display = some level ∧ s.format = .text format.name ∧
      (∀ (e : Environment) (start : String), resolve none none (some s) e start = s) ∧
      ((∃ name, s.level = .text name) ↔ s.TakesEffect level format) ∧
      ((¬ ∃ name, s.level = .text name) ↔ ∃ kind, s.IsRefused kind) := by
  obtain ⟨level, format, hlevel, hformat⟩ :=
    Configuration.names_of_checkLogging (Configuration.checkLogging_of_validate hvalid hs)
  have hresolve := resolve_of_names hlevel hformat
  refine ⟨level, format, hlevel, hformat, hresolve, ?_⟩
  rcases LogLevel.text_or_handle_of_display hlevel with ⟨name, hname⟩ | ⟨kind, shown, hhandle⟩
  · have heffect : s.TakesEffect level format := by
      intro e start before
      rw [hname, Value.display_text] at hlevel
      rw [hresolve]
      exact ⟨_, apply_of_text hname hlevel hformat before, rfl, rfl⟩
    refine ⟨iff_of_true ⟨name, hname⟩ heffect, iff_of_false (not_not_intro ⟨name, hname⟩) ?_⟩
    rintro ⟨kind, hrefused⟩
    exact hrefused.not_takesEffect heffect
  · have hrefused : s.IsRefused kind := by
      intro e start before
      rw [hresolve]
      exact apply_of_handle hhandle before
    have hnoText : ¬ ∃ name, s.level = .text name := by
      rw [hhandle]
      exact nofun
    exact ⟨iff_of_false hnoText hrefused.not_takesEffect, iff_of_true hnoText ⟨kind, hrefused⟩⟩

/-- Settings with a level in lower case, with a letter that only upper case makes ASCII. -/
def dotlessSettings : LogSettings where
  level := .text "\u0131nfo"
  format := .text "json"

/-- A configuration that logs with these settings. -/
def dotlessConfiguration : Configuration where
  client := some { endpoint := some "localhost:3476" }
  schema := .schema ⟨Dict.empty⟩
  logging := some dotlessSettings

/-- **A level may be written in any case,** and a variable with another level does not count. -/
theorem dotlessSettings_applied :
    (Configuration.validate {} (some dotlessConfiguration) = .ok () ∧
      dotlessConfiguration.logging = some dotlessSettings) ∧
    ∀ before, ∃ after,
      LogState.apply (resolve none none (some dotlessSettings)
        { vars := [("PERMIFY_LOG_LEVEL", "ERROR")] }) before = (.ok (), after) ∧
      after.rootLevel = 20 ∧ after.handlers = [some .json] := by
  have hvalid : Configuration.validate {} (some dotlessConfiguration) = .ok () := by rfl
  obtain ⟨level, format, hlevel, hformat, -, heffect, -⟩ := applied_of_validate hvalid rfl
  refine ⟨⟨hvalid, rfl⟩, fun before => ?_⟩
  obtain ⟨after, happly, hroot, hhandlers⟩ := heffect.1 ⟨_, rfl⟩ _ defaultVariableStart before
  refine ⟨after, happly, ?_, ?_⟩
  · have hinfo : level = .info := by
      rw [dotlessSettings, Value.display_text] at hlevel
      cases hlevel
      rfl
    rw [hroot, hinfo]
    rfl
  · cases format with
    | text => exact absurd (Value.text.inj hformat) (by decide)
    | json => exact hhandlers

/-- Settings whose level is a path that is shown as the name of a level. -/
def pathSettings : LogSettings where
  level := .handle "PurePosixPath" "INFO"
  format := .text "text"

/-- A configuration that logs with these settings. -/
def pathConfiguration : Configuration where
  client := some { endpoint := some "localhost:3476" }
  schema := .schema ⟨Dict.empty⟩
  logging := some pathSettings

/-- A path that is shown as the name of a level is accepted, and setting up the log fails. -/
theorem pathSettings_refused :
    Configuration.validate {} (some pathConfiguration) = .ok () ∧
      pathConfiguration.logging = some pathSettings ∧ pathSettings.IsRefused "PurePosixPath" ∧
      ∀ level format, ¬ pathSettings.TakesEffect level format := by
  have hrefused : pathSettings.IsRefused "PurePosixPath" := fun _ _ _ => rfl
  exact ⟨rfl, rfl, hrefused, fun _ _ => hrefused.not_takesEffect⟩

end LogSettings

end Rebac
