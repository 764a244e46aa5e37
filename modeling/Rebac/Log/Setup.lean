import Rebac.Client.Settings
import Rebac.Failure
import Rebac.Choice

set_option autoImplicit false

/-!
# Setting up the log

The level and the format of the log come from the caller, from the configuration or from the
environment, in this order. Setting up either succeeds as a whole, or it fails and changes nothing.
Transport libraries report every request, so their levels are at least `warning`.
-/

namespace Rebac

/-- A level and a format, as they were given. -/
structure LogSettings where
  level : Value := .text "INFO"
  format : Value := .text "text"

/-- The state of the log: the level of the root, the handlers of the root by the formats that they
write, and the levels of the transport libraries. A handler of another kind has no format. -/
structure LogState where
  rootLevel : Nat
  handlers : List (Option LogFormat)
  transportLevels : List (String × Nat)
deriving DecidableEq

namespace LogSettings

/-- A text or nothing, as a value. -/
def optional (s : Option String) : Value := s.elim .none Value.text

/-- The settings that are in force: for the level and for the format, what the caller gives, else
what the configuration gives, else what the environment gives, else the default. Empty ones do not
count. -/
def resolve (level format : Option String) (config : Option LogSettings) (e : Environment)
    (start : String := defaultVariableStart) : LogSettings where
  level :=
    (optional level).orElse ((config.elim .none (·.level)).orElse
      ((optional (e.get? start "LOG_LEVEL")).orElse ({} : LogSettings).level))
  format :=
    (optional format).orElse ((config.elim .none (·.format)).orElse
      ((optional (e.get? start "LOG_FORMAT")).orElse ({} : LogSettings).format))

/-- The level that a setting names. A setting that is no text has no upper case. -/
def readLevel (v : Value) : Except Failure LogLevel :=
  match v with
  | .text s =>
      match LogLevel.ofName? s with
      | some l => pure l
      | none => throw (.config (.logLevel v))
  | .bytes _ => throw (.config (.logLevel v))
  | _ => throw (.access (.noField v.kind "upper"))

/-- The format that a setting names. -/
def readFormat (v : Value) : Except Failure LogFormat :=
  match v with
  | .text s =>
      match LogFormat.ofName? s with
      | some f => pure f
      | none => throw (.config .logFormat)
  | _ => throw (.config .logFormat)

end LogSettings

namespace LogState

/-- The transport libraries whose records are held back. -/
def transports : List String := ["httpx", "httpcore", "grpc"]

/-- The state of a log with a level and a format. -/
def of (level : LogLevel) (format : LogFormat) : LogState where
  rootLevel := level.number
  handlers := [some format]
  transportLevels := transports.map (fun t => (t, max level.number LogLevel.warning.number))

/-- Sets up the log. The level is looked at before the format. -/
def apply (s : LogSettings) (before : LogState) : Except Failure Unit × LogState :=
  match LogSettings.readLevel s.level with
  | .error f => (throw f, before)
  | .ok level =>
      match LogSettings.readFormat s.format with
      | .error f => (throw f, before)
      | .ok format => (pure (), .of level format)

/-- A failure leaves the log as it was. -/
theorem apply_of_error {s : LogSettings} {before : LogState} {f : Failure}
    (h : (apply s before).1 = .error f) : (apply s before).2 = before := by
  unfold apply at h ⊢
  split
  · rfl
  · split
    · rfl
    · simp_all [pure, Except.pure]

end LogState

end Rebac
