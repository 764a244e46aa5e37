import Rebac.Client.Address
import Rebac.Failure
import Rebac.Number.Binary64
import Rebac.Settings.Environment
import Rebac.Settings.Scalar

set_option autoImplicit false

/-!
# Connection settings

How to reach a server, as a caller says or as the environment does.
-/

/-!
## Connection settings

How to reach a server. Whether the connection is encrypted follows from the endpoint unless it is
set: endpoints that begin with `localhost` are contacted in plain text.
-/

namespace Rebac

/-- Connection settings. Files are named by their paths; the timeout is in milliseconds. -/
structure ConnectionSettings where
  endpoint : Option String := none
  insecure : Option Bool := none
  tlsCert : Option String := none
  tlsKey : Option String := none
  tlsCa : Option String := none
  metadata : List (String × String) := []
  authToken : Option String := none
  timeoutMs : Option Int := none
deriving DecidableEq

namespace ConnectionSettings

/-- A text that is given and not empty. -/
def given? (s : Option String) : Option String := s.filter (fun t => !t.isEmpty)

/-- What endpoints on this machine begin with. -/
def localName : List Char := "localhost".toList

/-- Whether the connection is in plain text. -/
def useInsecure (o : ConnectionSettings) : Bool :=
  match o.insecure with
  | some b => b
  | none => o.endpoint.any (fun e => localName.isPrefixOf e.toList)

/-- The scheme of the address. -/
def scheme (o : ConnectionSettings) : String := if o.useInsecure then "http" else "https"

/-- The address of the server as a text; an endpoint that is not set is shown as nothing. -/
def baseUrl (o : ConnectionSettings) : String := o.scheme ++ "://" ++ o.endpoint.getD "None"

/-- The settings that a write uses: the endpoint that was passed wins over that of the options. -/
def effective (endpoint : Option String) (options : Option ConnectionSettings) :
    ConnectionSettings :=
  let o := options.getD { endpoint := endpoint }
  match given? endpoint with
  | some e => { o with endpoint := some e }
  | none => o

/-- Puts a header; one of the same name is replaced in its place. -/
def putHeader (name value : String) : List (String × String) → List (String × String)
  | [] => [(name, value)]
  | h :: rest => if h.1 = name then (name, value) :: rest else h :: putHeader name value rest

/-- The headers as given: the metadata, and the token, if there is one. -/
def headers (o : ConnectionSettings) : List (String × String) :=
  match given? o.authToken with
  | some t => putHeader "Authorization" ("Bearer " ++ t) o.metadata
  | none => o.metadata

/-- The timeout in seconds; a timeout of zero is none. -/
def timeout (o : ConnectionSettings) : Except Failure (Option Binary64) :=
  match o.timeoutMs with
  | none => pure none
  | some ms =>
      if ms = 0 then pure none
      else
        match Binary64.ofRatio (ms < 0) ms.natAbs 1000 with
        | .infinite _ => throw .timeout
        | x => pure (some x)

/-- The files that an encrypted connection needs. -/
def files (o : ConnectionSettings) : List String :=
  if o.useInsecure then [] else (given? o.tlsCa).toList ++ (given? o.tlsCert).toList

theorem useInsecure_of_set {o : ConnectionSettings} {b : Bool} (h : o.insecure = some b) :
    o.useInsecure = b := by
  simp [useInsecure, h]

end ConnectionSettings

end Rebac

/-!
## Connection settings from the environment

Each connection setting is a variable: a common beginning, and the name of the setting. A setting
that is there has to be well formed; one that is not there keeps its default.
-/

namespace Rebac

/-- A setting whose text does not denote a value of its type. -/
structure SettingFault where
  setting : String
  text : String
deriving DecidableEq

/-- What the names of variables begin with, unless the caller chooses otherwise. -/
def defaultVariableStart : String := "PERMIFY_"

namespace Environment

/-- A setting that is read from a text; it may be missing. -/
def read {α : Type} (e : Environment) (start setting : String) (parse : String → Option α) :
    Except SettingFault (Option α) :=
  match e.get? start setting with
  | none => pure none
  | some text =>
      match parse text with
      | some a => pure (some a)
      | none => throw ⟨setting, text⟩

end Environment

namespace ConnectionSettings

/-- The connection settings in an environment. -/
def ofEnvironment (e : Environment) (start : String := defaultVariableStart) :
    Except SettingFault ConnectionSettings := do
  let insecure ← e.read start "INSECURE" Settings.flag?
  let timeoutMs ← e.read start "TIMEOUT_MS" Settings.integer?
  return {
    endpoint := e.get? start "ENDPOINT"
    insecure := insecure
    tlsCert := e.get? start "TLS_CERT"
    tlsKey := e.get? start "TLS_KEY"
    tlsCa := e.get? start "TLS_CA"
    authToken := e.get? start "AUTH_TOKEN"
    timeoutMs := timeoutMs }

end ConnectionSettings

end Rebac
