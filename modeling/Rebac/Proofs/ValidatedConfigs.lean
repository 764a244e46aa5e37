import Rebac.Config
import Rebac.Proofs.ParameterFaults

set_option autoImplicit false

/-!
# Configurations that are validated

Validation asks only that a configuration has an endpoint, of whatever text. A client asks more of
the endpoint: that it is not empty and that it holds a colon. So the client of a configuration that
is accepted is refused for a parameter exactly if the endpoint is empty or has no colon, and a write
with these settings fails by a parameter in exactly these cases
(`Http.accepted_client_refused_iff`). An endpoint without a port is accepted and refused
(`Http.endpoint_without_port_refused`).
-/

namespace Rebac

namespace Configuration

variable {files : FileTree} {c : Configuration}

/-- A configuration is accepted exactly if each of its parts is. -/
theorem validate_eq_ok_iff : validate files (some c) = .ok () ↔
    checkClient c.client = .ok () ∧ checkTenant c.tenant = .ok () ∧
      checkSchema files c.schema = .ok () ∧ checkGiven checkSeeding c.seeding = .ok () ∧
        checkGiven checkLogging c.logging = .ok () := by
  constructor
  · intro h
    obtain ⟨_, hclient, h⟩ := exists_of_bind_eq_ok h
    obtain ⟨_, htenant, h⟩ := exists_of_bind_eq_ok h
    obtain ⟨_, hschema, h⟩ := exists_of_bind_eq_ok h
    obtain ⟨_, hseeding, hlogging⟩ := exists_of_bind_eq_ok h
    exact ⟨hclient, htenant, hschema, hseeding, hlogging⟩
  · rintro ⟨hclient, htenant, hschema, hseeding, hlogging⟩
    change c.check files = .ok ()
    rw [check, hclient, htenant, hschema, hseeding, hlogging]
    rfl

/-- A configuration that is accepted has an endpoint. -/
theorem exists_endpoint_of_validate (h : validate files (some c) = .ok ()) :
    ∃ o e, c.client = some o ∧ o.endpoint = some e := by
  have hclient := (validate_eq_ok_iff.1 h).1
  unfold checkClient at hclient
  split at hclient
  · next e he =>
    obtain ⟨o, ho, he⟩ := Option.bind_eq_some_iff.1 he
    exact ⟨o, e, ho, he⟩
  · cases hclient

end Configuration

namespace ConnectionSettings

variable {o : ConnectionSettings} {e : String}

theorem given?_of_ne {e : String} (h : e ≠ "") : given? (some e) = some e := by
  simp [given?, h]

/-- A timeout that cannot be set is the only fault of a timeout. -/
theorem eq_timeout_of_timeout_error {f : Failure} (h : o.timeout = .error f) : f = .timeout := by
  unfold timeout at h
  split at h
  · cases h
  · split at h
    · cases h
    · split at h
      · cases h
        rfl
      · cases h

end ConnectionSettings

namespace Http

/-- An endpoint that no client takes: it is empty, or it has no colon. -/
def IsRefusedEndpoint (e : String) : Prop := e = "" ∨ ':' ∉ e.toList

section Connect

variable {files : String → Bool} {o : ConnectionSettings} {e : String} (he : o.endpoint = some e)
include he

theorem connect_of_empty (h : e = "") : connect files o = .error (.parameter .noEndpoint) := by
  rw [connect, he, h]
  rfl

theorem connect_of_noPort (hne : e ≠ "") (h : ':' ∉ e.toList) :
    connect files o = .error (.parameter .noPort) := by
  rw [connect, he, ConnectionSettings.given?_of_ne hne]
  exact if_pos (by simpa using h)

/-- With a usable endpoint, settings are refused for other reasons than a parameter. -/
theorem connect_ne_parameter (h : ¬ IsRefusedEndpoint e) (p : ParameterFault) :
    connect files o ≠ .error (.parameter p) := by
  obtain ⟨hne, hcolon⟩ : e ≠ "" ∧ ':' ∈ e.toList := by
    simpa [IsRefusedEndpoint] using h
  intro hconnect
  rw [connect, he, ConnectionSettings.given?_of_ne hne] at hconnect
  dsimp only at hconnect
  rw [if_neg (by simpa using hcolon)] at hconnect
  -- Behind the checks of the endpoint come the timeout, the file of certificates and the address.
  rcases error_or_ok_of_bind_eq_error hconnect with htimeout | ⟨timeout, -, hconnect⟩
  · cases ConnectionSettings.eq_timeout_of_timeout_error htimeout
  split at hconnect
  · cases hconnect
  rcases error_or_ok_of_bind_eq_error hconnect with haddress | ⟨address, -, hconnect⟩
  · obtain ⟨g, -, hg⟩ := exists_of_mapError_eq_error haddress
    cases hg
  rcases error_or_ok_of_bind_eq_error hconnect with hbase | ⟨base, -, hconnect⟩
  · obtain ⟨g, -, hg⟩ := exists_of_mapError_eq_error hbase
    cases hg
  split at hconnect
  · cases hconnect
  · cases hconnect

/-- **Settings are refused for a parameter exactly by their endpoint.** -/
theorem exists_connect_parameter_iff :
    (∃ p, connect files o = .error (.parameter p)) ↔ IsRefusedEndpoint e := by
  constructor
  · rintro ⟨p, hp⟩
    by_contra h
    exact connect_ne_parameter he h p hp
  · intro h
    by_cases hne : e = ""
    · exact ⟨.noEndpoint, connect_of_empty he hne⟩
    · exact ⟨.noPort, connect_of_noPort he hne (h.resolve_left hne)⟩

end Connect

/-! ## Writes with settings -/

/-- The target of a write that establishes its client from settings. -/
def settingsTarget (files : String → Bool) (o : ConnectionSettings) (tenant : Value)
    (create : Bool) : Target Request Answer where
  tenant := tenant
  create := create
  source := .settings (fun s => (connect files s).map client) none (some o)

section Writes

variable {files : String → Bool} {o : ConnectionSettings} {e : String} {tenant : Value}
variable {create : Bool} {k : WriteKind} {call : Value → Call Value} {answers : List Answer}

theorem settingsTarget_refuses_iff {f : Failure} :
    (settingsTarget files o tenant create).source.Refuses f ↔ connect files o = .error f := by
  change (connect files o).map client = .error f ↔ _
  cases connect files o with
  | error g => exact ⟨fun h => by cases h; rfl, fun h => by cases h; rfl⟩
  | ok conn => exact iff_of_false nofun nofun

variable (he : o.endpoint = some e) (htenant : tenant.truthy = true) (hcall : k.call = .ok call)
include he htenant hcall

/-- **A write with settings fails by a parameter exactly by their endpoint**, if its tenant and its
payload are valid and the transport raises no such failure. -/
theorem exists_write_parameter_iff (hraised : ∀ p, Answer.raised (.parameter p) ∉ answers) :
    (∃ p, (k.run (settingsTarget files o tenant create) answers).ending = .failed (.parameter p)) ↔
      IsRefusedEndpoint e := by
  by_cases hne : e = ""
  · refine iff_of_true ?_ (Or.inl hne)
    have hunusable : (settingsTarget files o tenant create).source.isUsable = false := by
      change Source.namesEndpoint none (some o) = false
      simp [Source.namesEndpoint, he, hne, ConnectionSettings.given?]
    obtain ⟨p, hp⟩ := exists_check_error (t := settingsTarget files o tenant create)
      (Or.inr hunusable)
    refine ⟨p, ?_⟩
    rw [WriteKind.run_of_check_error hp]
    rfl
  have husable : (settingsTarget files o tenant create).source.isUsable = true := by
    change Source.namesEndpoint none (some o) = true
    simp [Source.namesEndpoint, he, ConnectionSettings.given?_of_ne hne]
  have hcheck : (settingsTarget files o tenant create).check = .ok () :=
    (Target.check_eq_ok_iff _).2 ⟨husable, htenant⟩
  rw [← exists_connect_parameter_iff he]
  have hrun := WriteKind.runs_run_of_call hcheck hcall answers
  cases hconnect : connect files o with
  | error f =>
      -- The write ends as its settings are refused.
      have hrejects : (settingsTarget files o tenant create).Rejects f :=
        Or.inr ⟨hcheck, settingsTarget_refuses_iff.2 hconnect⟩
      rw [hrun.ending_eq, Target.execute_of_rejects hrejects]
      change (∃ p, Ending.failed f = .failed (.parameter p)) ↔ _
      simp
  | ok conn =>
      -- With a client, no failure of the write is a fault of a parameter.
      have hgives : (settingsTarget files o tenant create).source.Gives (client conn) := by
        change (connect files o).map client = .ok (client conn)
        rw [hconnect]
        rfl
      refine iff_of_false ?_ (by rintro ⟨p, hp⟩; cases hp)
      rintro ⟨p, hp⟩
      have hend := (WriteKind.guarantees_run hcheck hgives hcall
        (failsWithin_noOwnParameter conn answers) (noOwnParameter_closed answers) answers
        fun a ha => ha).1
      rw [hp] at hend
      exact hraised p (hend p rfl)

end Writes

/-- **Which accepted configurations cannot connect.** A configuration that is accepted has an
endpoint. Its client is refused for a parameter, and a write with its settings, a valid tenant and a
valid payload fails by a parameter, exactly if the endpoint is empty or has no colon. -/
theorem accepted_client_refused_iff {tree : FileTree} {c : Configuration}
    (hvalid : Configuration.validate tree (some c) = .ok ()) (files : String → Bool)
    {tenant : Value} (htenant : tenant.truthy = true) (create : Bool) {k : WriteKind}
    {call : Value → Call Value} (hcall : k.call = .ok call) {answers : List Answer}
    (hraised : ∀ p, Answer.raised (.parameter p) ∉ answers) :
    ∃ o e, c.client = some o ∧ o.endpoint = some e ∧
      ((∃ p, connect files o = .error (.parameter p)) ↔ e = "" ∨ ':' ∉ e.toList) ∧
      ((∃ p, (k.run (settingsTarget files o tenant create) answers).ending =
        .failed (.parameter p)) ↔ e = "" ∨ ':' ∉ e.toList) := by
  obtain ⟨o, e, ho, he⟩ := Configuration.exists_endpoint_of_validate hvalid
  exact ⟨o, e, ho, he, exists_connect_parameter_iff he,
    exists_write_parameter_iff he htenant hcall hraised⟩

/-- A configuration of a schema, with an endpoint. -/
def schemaConfiguration (endpoint : String) : Configuration where
  client := some { endpoint := some endpoint }
  schema := .schema ⟨Dict.ofEntries [(.text "user", { name := .text "user" })]⟩

/-- A write of a schema. -/
def userSchemaWrite : WriteKind := .schema (.text "entity user \x7b\x7d")

/-- With a port, a configuration that is accepted can connect and write. -/
theorem configuration_with_port_connects :
    (Configuration.validate {} (some (schemaConfiguration "localhost:3476")) = .ok () ∧
      (Value.text "acme").truthy = true ∧ (∃ call, userSchemaWrite.call = .ok call) ∧
      ∀ p, Answer.raised (.parameter p) ∉ [Answer.response 200 []]) ∧
    ∃ o, (schemaConfiguration "localhost:3476").client = some o ∧
      (¬ ∃ p, connect (fun _ => true) o = .error (.parameter p)) ∧
      ¬ ∃ p, (userSchemaWrite.run (settingsTarget (fun _ => true) o (.text "acme") true)
        [.response 200 []]).ending = .failed (.parameter p) := by
  have hvalid : Configuration.validate {} (some (schemaConfiguration "localhost:3476")) = .ok () :=
    by rfl
  have htenant : (Value.text "acme").truthy = true := by decide
  have hraised : ∀ p, Answer.raised (.parameter p) ∉ [Answer.response 200 []] := by simp
  have husable : ¬ ("localhost:3476" = "" ∨ ':' ∉ "localhost:3476".toList) := by decide
  obtain ⟨call, hcall⟩ : ∃ call, userSchemaWrite.call = .ok call := ⟨_, by rfl⟩
  obtain ⟨o, e, ho, he, hconnect, hwrite⟩ :=
    accepted_client_refused_iff hvalid (fun _ => true) htenant true hcall hraised
  cases ho
  cases he
  exact ⟨⟨hvalid, htenant, ⟨call, hcall⟩, hraised⟩, _, rfl, mt hconnect.1 husable,
    mt hwrite.1 husable⟩

/-- **An endpoint without a port is accepted and refused.** -/
theorem endpoint_without_port_refused :
    Configuration.validate {} (some (schemaConfiguration "localhost")) = .ok () ∧
      (schemaConfiguration "localhost").client = some { endpoint := some "localhost" } ∧
      connect (fun _ => true) { endpoint := some "localhost" } = .error (.parameter .noPort) ∧
      (userSchemaWrite.run (settingsTarget (fun _ => true) { endpoint := some "localhost" }
        (.text "acme") true) [.response 200 []]).ending = .failed (.parameter .noPort) :=
  ⟨by rfl, rfl, by rfl, by rfl⟩

end Http

end Rebac
