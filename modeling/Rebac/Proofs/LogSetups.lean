import Rebac.Proofs.ValidatedLogging

set_option autoImplicit false

/-!
# Setting up the log more than once

A call that sets up the log resolves its settings out of four sources (`LogSetup.settings`). Either
they name a level and a format, and the log is set up with these, whatever its state was before, or
the call fails in every state and changes none (`LogSetup.run_cases`). So after any number of calls
the log is in the state of the last one that succeeds, or in the first state if none does
(`LogSetup.last_success_wins`).
-/

namespace Rebac

namespace LogSettings

/-- The settings name a level, in any case, and a format. -/
def Names (s : LogSettings) (level : LogLevel) (format : LogFormat) : Prop :=
  ∃ name, s.level = .text name ∧ LogLevel.ofName? name = some level ∧ s.format = .text format.name

theorem exists_text_of_readLevel {v : Value} {level : LogLevel} (h : readLevel v = .ok level) :
    ∃ name, v = .text name ∧ LogLevel.ofName? name = some level := by
  cases v with
  | text name =>
      rw [readLevel] at h
      split at h
      · next l hl =>
        cases h
        exact ⟨name, rfl, hl⟩
      · cases h
  | _ => cases h

theorem eq_text_of_readFormat {v : Value} {format : LogFormat} (h : readFormat v = .ok format) :
    v = .text format.name := by
  cases v with
  | text name =>
      rw [readFormat] at h
      split at h
      · next f hf =>
        cases h
        rw [LogFormat.eq_name_of_ofName? hf]
      · cases h
  | _ => cases h

/-- Settings that cannot be set up fail in every state. -/
theorem apply_cases (s : LogSettings) :
    (∃ level format, s.Names level format ∧
      ∀ before, LogState.apply s before = (.ok (), .of level format)) ∨
    ∃ f, ∀ before, LogState.apply s before = (.error f, before) := by
  cases hlevel : readLevel s.level with
  | error f =>
      refine Or.inr ⟨f, fun before => ?_⟩
      rw [LogState.apply, hlevel]
      rfl
  | ok level =>
      cases hformat : readFormat s.format with
      | error f =>
          refine Or.inr ⟨f, fun before => ?_⟩
          rw [LogState.apply, hlevel]
          dsimp only
          rw [hformat]
          rfl
      | ok format =>
          obtain ⟨name, hname, hnamed⟩ := exists_text_of_readLevel hlevel
          have htext := eq_text_of_readFormat hformat
          exact Or.inl ⟨level, format, ⟨name, hname, hnamed, htext⟩,
            fun before => apply_of_text hname hnamed htext before⟩

end LogSettings

/-- The log is set up with a level and a format: the root has that level, and its only handler
writes that format. The transport libraries have that level, too, but at least `warning`. -/
structure LogState.IsSetUp (level : LogLevel) (format : LogFormat) (state : LogState) : Prop where
  root : state.rootLevel = level.number
  handlers : state.handlers = [some format]
  transports : ∀ transport n, (transport, n) ∈ state.transportLevels ↔
    transport ∈ LogState.transports ∧ n = max level.number LogLevel.warning.number

theorem LogState.isSetUp_of (level : LogLevel) (format : LogFormat) :
    (LogState.of level format).IsSetUp level format where
  root := rfl
  handlers := rfl
  transports transport n := by
    rw [LogState.of, List.mem_map]
    constructor
    · rintro ⟨t, ht, htn⟩
      cases htn
      exact ⟨ht, rfl⟩
    · rintro ⟨ht, rfl⟩
      exact ⟨transport, ht, rfl⟩

/-- A call that sets up the log: what its caller, the configuration and the environment give. -/
structure LogSetup where
  level : Option String := none
  format : Option String := none
  config : Option LogSettings := none
  environment : Environment := {}
  start : String := defaultVariableStart

namespace LogSetup

variable {c : LogSetup} {calls : List LogSetup} {before : LogState}

/-- The settings in force. -/
def settings (c : LogSetup) : LogSettings :=
  .resolve c.level c.format c.config c.environment c.start

/-- Makes the call: its result are the settings in force, unless these cannot be set up. -/
def run (c : LogSetup) (before : LogState) : Except Failure LogSettings × LogState :=
  let (result, after) := LogState.apply c.settings before
  (result.map fun _ => c.settings, after)

/-- The state after some calls, one behind the other. Calls that fail are not the last ones. -/
def after (calls : List LogSetup) (before : LogState) : LogState :=
  calls.foldl (fun state c => (c.run state).2) before

/-- The call fails in every state. -/
def Fails (c : LogSetup) : Prop := ∀ before, ∃ f, (c.run before).1 = .error f

/-- **What a call does.** It sets up the log with the level and the format that its settings name,
or it fails and changes nothing. Which of the two does not depend on the state. -/
theorem run_cases (c : LogSetup) :
    (∃ level format, c.settings.Names level format ∧
      ∀ before, c.run before = (.ok c.settings, .of level format)) ∨
    ∃ f, ∀ before, c.run before = (.error f, before) := by
  rcases c.settings.apply_cases with ⟨level, format, hnames, happly⟩ | ⟨f, happly⟩
  · refine Or.inl ⟨level, format, hnames, fun before => ?_⟩
    rw [run, happly]
    rfl
  · refine Or.inr ⟨f, fun before => ?_⟩
    rw [run, happly]
    rfl

/-- **A run of calls ends in the state of the last success.** -/
theorem after_cases (calls : List LogSetup) : ∀ before,
    (∀ c ∈ calls, c.Fails) ∧ after calls before = before ∨
    ∃ earlier c later, calls = earlier ++ c :: later ∧ (∀ d ∈ later, d.Fails) ∧
      ∀ state, (c.run state).1 = .ok c.settings ∧ (c.run state).2 = after calls before := by
  -- The calls behind the first one start in the state that it leaves, so that decides only if all
  -- of them fail.
  induction calls with
  | nil => exact fun before => Or.inl ⟨by simp, rfl⟩
  | cons c rest ih =>
      intro before
      have hafter : after (c :: rest) before = after rest (c.run before).2 := rfl
      rw [hafter]
      rcases ih (c.run before).2 with ⟨hfail, hrest⟩ | ⟨earlier, d, later, rfl, hlater, hd⟩
      · rcases c.run_cases with ⟨level, format, -, hrun⟩ | ⟨f, hrun⟩
        · refine Or.inr ⟨[], c, rest, rfl, hfail, fun state => ?_⟩
          rw [hrest, hrun, hrun]
          exact ⟨rfl, rfl⟩
        · refine Or.inl ⟨?_, by rw [hrest, hrun]⟩
          rintro d hd
          rcases List.mem_cons.1 hd with rfl | hd
          · exact fun state => ⟨f, by rw [hrun]⟩
          · exact hfail d hd
      · exact Or.inr ⟨c :: earlier, d, later, rfl, hlater, hd⟩

/-- **Setting up the log is atomic, and the last success wins.** A call that fails leaves the log as
it was. One that succeeds gives the settings in force, and the log is set up with the level and the
format that these name. After any calls the log is in the state that the last successful one leaves
in any state, or in the state before them if all of them fail. -/
theorem last_success_wins :
    (∀ (c : LogSetup) (before : LogState),
      (∀ f, (c.run before).1 = .error f → (c.run before).2 = before) ∧
      ∀ s, (c.run before).1 = .ok s → s = c.settings ∧
        ∃ level format, s.Names level format ∧ (c.run before).2.IsSetUp level format) ∧
    ∀ (calls : List LogSetup) (before : LogState),
      (∀ c ∈ calls, c.Fails) ∧ after calls before = before ∨
      ∃ earlier c later, calls = earlier ++ c :: later ∧ (∀ d ∈ later, d.Fails) ∧
        ∀ state, (c.run state).1 = .ok c.settings ∧ (c.run state).2 = after calls before := by
  refine ⟨fun c before => ?_, after_cases⟩
  rcases c.run_cases with ⟨level, format, hnames, hrun⟩ | ⟨f, hrun⟩
  · rw [hrun before]
    refine ⟨nofun, fun s hs => ?_⟩
    cases hs
    exact ⟨rfl, level, format, hnames, LogState.isSetUp_of level format⟩
  · rw [hrun before]
    exact ⟨fun _ _ => rfl, nofun⟩

/-- A success and two failures: a level that there is not, and a format that there is not. -/
def threeSetups : List LogSetup :=
  [{ level := some "debug", environment := { vars := [("PERMIFY_LOG_FORMAT", "json")] } },
    { level := some "loud" },
    { level := some "error", config := some { format := .text "xml" } }]

/-- **Two failures leave the log as the success before them set it up.** -/
theorem threeSetups_keep_first :
    after threeSetups ⟨30, [none], []⟩ =
      ⟨10, [some .json], [("httpx", 30), ("httpcore", 30), ("grpc", 30)]⟩ := by
  obtain ⟨-, hruns⟩ := last_success_wins
  rcases hruns threeSetups ⟨30, [none], []⟩ with ⟨hfail, -⟩ | ⟨earlier, c, later, hsplit, -, hc⟩
  · obtain ⟨f, hf⟩ := hfail _ List.mem_cons_self ⟨30, [none], []⟩
    cases hf
  · obtain ⟨hresult, hstate⟩ := hc ⟨30, [none], []⟩
    -- The call that the log remembers succeeds, which the second and the third one do not.
    rcases earlier with _ | ⟨a, _ | ⟨b, _ | ⟨d, rest⟩⟩⟩
    · cases hsplit
      rw [← hstate]
      rfl
    · cases hsplit
      cases hresult
    · cases hsplit
      cases hresult
    · simp [threeSetups] at hsplit

end LogSetup

end Rebac
