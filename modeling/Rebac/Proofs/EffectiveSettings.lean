import Rebac.Proofs.PlaintextHosts
import Rebac.Proofs.TokenSecrecy
import Rebac.Proofs.ValidatedConfigs

set_option autoImplicit false

/-!
# The settings of a write's own client

A write that is given no client connects with an endpoint, with settings, or with both. Three places
look at the endpoint: the check of the parameters, the merging of the two, and the client itself,
which takes no settings without an endpoint. They agree: the check passes exactly if the merged
settings have an endpoint, and it is the endpoint that was passed or else the one of the settings
(`ConnectionSettings.GoesTo`). So no write sees what the client does with settings that have none,
and whether the connection is in plain text is decided over the endpoint that the write goes to
(`Http.own_client_settings`).
-/

namespace Rebac

open ConnectionSettings (localName)

/-! ## Merged settings -/

namespace ConnectionSettings

variable {endpoint : Option String} {options : Option ConnectionSettings}
variable {o : ConnectionSettings} {s : Option String} {e : String}

theorem given?_eq_some_iff : given? s = some e ↔ s = some e ∧ e ≠ "" := by
  simp [given?, Option.filter_eq_some_iff]

theorem given?_eq_none_iff : given? s = none ↔ s = none ∨ s = some "" := by
  cases s with
  | none => simp [given?]
  | some t => simp [given?]

/-- The endpoint that a write without a client goes to: the one that is passed, if it is not empty,
and otherwise the one of the settings. -/
def GoesTo (endpoint : Option String) (options : Option ConnectionSettings) (e : String) : Prop :=
  e ≠ "" ∧ (endpoint = some e ∨
    (endpoint = none ∨ endpoint = some "") ∧ ∃ o, options = some o ∧ o.endpoint = some e)

/-- **Parameters name an endpoint exactly if there is one to go to.** -/
theorem namesEndpoint_iff :
    Source.namesEndpoint endpoint options = true ↔ ∃ e, GoesTo endpoint options e := by
  rw [Source.namesEndpoint, Bool.or_eq_true, Option.isSome_iff_exists, Option.isSome_iff_exists]
  constructor
  · rintro (⟨e, he⟩ | ⟨e, he⟩)
    · obtain ⟨hpassed, hne⟩ := given?_eq_some_iff.1 he
      exact ⟨e, hne, Or.inl hpassed⟩
    · obtain ⟨o, ho, he⟩ := Option.bind_eq_some_iff.1 he
      obtain ⟨hset, hne⟩ := given?_eq_some_iff.1 he
      -- An endpoint that is passed wins over that of the settings.
      cases hpassed : given? endpoint with
      | none => exact ⟨e, hne, Or.inr ⟨given?_eq_none_iff.1 hpassed, o, ho, hset⟩⟩
      | some e' =>
          obtain ⟨hpassed, hne'⟩ := given?_eq_some_iff.1 hpassed
          exact ⟨e', hne', Or.inl hpassed⟩
  · rintro ⟨e, hne, hpassed | ⟨-, o, ho, hset⟩⟩
    · exact Or.inl ⟨e, given?_eq_some_iff.2 ⟨hpassed, hne⟩⟩
    · exact Or.inr ⟨e, Option.bind_eq_some_iff.2 ⟨o, ho, given?_eq_some_iff.2 ⟨hset, hne⟩⟩⟩

/-- **Merging sets the endpoint and keeps everything else.** -/
theorem effective_of_goesTo (h : GoesTo endpoint options e) :
    effective endpoint options = { options.getD {} with endpoint := some e } := by
  obtain ⟨hne, rfl | ⟨hnone, o, rfl, hset⟩⟩ := h
  · rw [effective, given?_of_ne hne]
    cases options with
    | none => rfl
    | some o => rfl
  · rw [effective, given?_eq_none_iff.2 hnone, Option.getD_some, ← hset]
    rfl

/-- Settings that are merged from parameters that name no endpoint have none. -/
theorem given?_endpoint_effective (h : Source.namesEndpoint endpoint options = false) :
    given? (effective endpoint options).endpoint = none := by
  rw [Source.namesEndpoint, Bool.or_eq_false_iff, Option.isSome_eq_false_iff,
    Option.isSome_eq_false_iff, Option.isNone_iff_eq_none, Option.isNone_iff_eq_none] at h
  obtain ⟨hpassed, hset⟩ := h
  rw [effective, hpassed]
  cases options with
  | none => exact hpassed
  | some o => exact hset

end ConnectionSettings

/-! ## Targets that no write tells apart -/

namespace Target

variable {Req Ans α : Type}

/-- Two targets are the same to a write: they pass the same checks, and if they pass, they run
whatever is done with their client in the same way. -/
structure Same (t t' : Target Req Ans) : Prop where
  tenant : t.tenant = t'.tenant
  create : t.create = t'.create
  usable : t.source.isUsable = t'.source.isUsable
  use : t.source.isUsable = true → ∀ {α : Type} (d : Client Req Ans → Dialogue Req Ans α),
    t.source.use d = t'.source.use d

namespace Same

variable {t t' : Target Req Ans} (h : t.Same t')
include h

theorem check_eq : t.check = t'.check := by
  rw [check, check, h.usable, h.tenant]

theorem execute_eq (operation : WriteOperation Req Ans α) :
    t.execute operation = t'.execute operation := by
  rw [execute, execute, ← h.check_eq, ← h.tenant, ← h.create]
  cases hcheck : t.check with
  | error p => rfl
  | ok u => exact h.use (t.check_eq_ok_iff.1 hcheck).1 _

theorem executeWith_eq {β : Type} (payload : Except Failure β) {k k' : β → Dialogue Req Ans α}
    (hk : ∀ b, k b = k' b) : t.executeWith payload k = t'.executeWith payload k' := by
  unfold executeWith
  rw [h.check_eq, funext hk]

theorem withoutCreation : ({ t with create := false } : Target Req Ans).Same
    { t' with create := false } :=
  ⟨h.tenant, rfl, h.usable, h.use⟩

theorem writeSchema_eq (schema : Value) : t.writeSchema schema = t'.writeSchema schema := by
  refine h.executeWith_eq _ fun text => ?_
  rw [h.execute_eq, h.tenant]

theorem writeRelationships_eq (tuples version : Value) :
    t.writeRelationships tuples version = t'.writeRelationships tuples version := by
  refine h.executeWith_eq _ fun records => ?_
  simp only [sendRelationships, h.execute_eq, h.tenant]

theorem deleteRelationships_eq (filter : Value) :
    t.deleteRelationships filter = t'.deleteRelationships filter := by
  refine h.executeWith_eq _ fun wire => ?_
  rw [h.execute_eq, h.tenant]

theorem clear_eq : t.clear = t'.clear := by
  rw [clear, clear, h.withoutCreation.deleteRelationships_eq, h.tenant]

theorem seedRecords_eq (mode : SeedingMode) (records : List Value) :
    t.seedRecords mode records = t'.seedRecords mode records := by
  by_cases hnone : records = []
  · rw [hnone, seedRecords, seedRecords, h.tenant]
  · cases mode with
    | append => rw [seedRecords_append t hnone, seedRecords_append t' hnone,
        h.writeRelationships_eq]
    | replace => rw [seedRecords_replace t hnone, seedRecords_replace t' hnone, h.clear_eq,
        h.writeRelationships_eq]

theorem seedRelationships_eq (tuples mode : Value) :
    t.seedRelationships tuples mode = t'.seedRelationships tuples mode :=
  h.executeWith_eq _ fun p => h.seedRecords_eq p.1 p.2

end Same

end Target

namespace Http

open Write

theorem Procedure.run_eq {α : Type} {t t' : Target Request Answer} (h : t.Same t')
    (p : Procedure α) : p.run t = p.run t' := by
  cases p with
  | writeSchema schema => exact h.writeSchema_eq schema
  | writeRelationships tuples version => exact h.writeRelationships_eq tuples version
  | deleteRelationships filter => exact h.deleteRelationships_eq filter
  | seedRelationships tuples mode => exact h.seedRelationships_eq tuples mode

/-! ## Writes without a client -/

variable {files : String → Bool} {o : ConnectionSettings}

/-- **The client asks for an endpoint exactly if the settings have none.** -/
theorem connect_eq_noEndpoint_iff : connect files o = .error (.parameter .noEndpoint) ↔
    ConnectionSettings.given? o.endpoint = none := by
  cases hgiven : ConnectionSettings.given? o.endpoint with
  | none =>
      rw [connect, hgiven]
      exact iff_of_true rfl rfl
  | some e =>
      obtain ⟨he, hne⟩ := ConnectionSettings.given?_eq_some_iff.1 hgiven
      refine iff_of_false (fun h => ?_) (Option.some_ne_none e)
      by_cases hrefused : IsRefusedEndpoint e
      · rw [connect_of_noPort he hne (hrefused.resolve_left hne)] at h
        cases h
      · exact connect_ne_parameter he hrefused _ h

/-- A client is built from settings. -/
def newClient (files : String → Bool) (o : ConnectionSettings) :
    Except Failure (Client Request Answer) :=
  (connect files o).map client

/-- The target of a write without a client. -/
def ownClientTarget (build : ConnectionSettings → Except Failure (Client Request Answer))
    (endpoint : Option String) (options : Option ConnectionSettings) (tenant : Value)
    (create : Bool) : Target Request Answer where
  tenant := tenant
  create := create
  source := .settings build endpoint options

/-- Targets are the same if their clients are built in the same way from settings with an
endpoint. -/
theorem same_ownClientTarget
    {build build' : ConnectionSettings → Except Failure (Client Request Answer)}
    (hbuild : ∀ o e, o.endpoint = some e → e ≠ "" → build o = build' o)
    (endpoint : Option String) (options : Option ConnectionSettings) (tenant : Value)
    (create : Bool) : (ownClientTarget build endpoint options tenant create).Same
      (ownClientTarget build' endpoint options tenant create) := by
  refine ⟨rfl, rfl, rfl, fun husable α d => ?_⟩
  obtain ⟨e, he⟩ := ConnectionSettings.namesEndpoint_iff.1 husable
  have heffective := hbuild (ConnectionSettings.effective endpoint options) e
    (by rw [ConnectionSettings.effective_of_goesTo he]) he.1
  simp only [ownClientTarget, Source.use, heffective]

/-- **The parameters of a write and its client look for the same endpoint.** -/
theorem namesEndpoint_iff_connect {endpoint : Option String}
    {options : Option ConnectionSettings} : Source.namesEndpoint endpoint options = true ↔
      connect files (ConnectionSettings.effective endpoint options) ≠
        .error (.parameter .noEndpoint) := by
  rw [Ne, connect_eq_noEndpoint_iff]
  constructor
  · intro hnames hnone
    have hsome := ConnectionSettings.endpoint_effective hnames
    rw [hnone] at hsome
    cases hsome
  · intro hsome
    by_contra hnames
    exact hsome (ConnectionSettings.given?_endpoint_effective (Bool.eq_false_iff.2 hnames))

/-- A write without a client that is accepted has a client of its own, which it closes. -/
theorem execute_ownClientTarget {endpoint : Option String} {options : Option ConnectionSettings}
    {tenant : Value} {create : Bool} {α : Type}
    (hcheck : (ownClientTarget (newClient files) endpoint options tenant create).check = .ok ())
    (operation : WriteOperation Request Answer α) :
    (ownClientTarget (newClient files) endpoint options tenant create).execute operation =
      match connect files (ConnectionSettings.effective endpoint options) with
      | .error f => Dialogue.fail f
      | .ok conn => (runWith (client conn) tenant create operation).closing := by
  rw [Target.execute, hcheck]
  simp only [ownClientTarget, Source.use, newClient]
  cases connect files (ConnectionSettings.effective endpoint options) with
  | error f => rfl
  | ok conn => rfl

/-- A connection is to the endpoint of its settings, and its scheme is theirs. -/
theorem reach_of_connect {conn : Connection} {e : String} (he : o.endpoint = some e)
    (h : connect files o = .ok conn) :
    conn.endpoint = e ∧ (conn.base.scheme = "http" ↔ o.useInsecure = true) := by
  refine ⟨Option.some.inj ((endpoint_of_connect h).symm.trans he), ?_⟩
  rw [scheme_of_connect h]
  exact ConnectionSettings.scheme_eq_http_iff

/-- **A write without a client goes to one endpoint, with the settings that it was given.** Its
parameters are usable exactly if a client of the merged settings does not ask for an endpoint, so
no write tells what a client does with settings that have none. If the parameters are accepted, the
client is built from the settings, or else the default ones, with the endpoint that was passed, or
if that is empty the one of the settings. The connection is in plain text by the flag of the
settings, and if that is not set exactly if this endpoint begins with the name of this machine. -/
theorem own_client_settings (files : String → Bool) (endpoint : Option String)
    (options : Option ConnectionSettings) (tenant : Value) (create : Bool) :
    let t := ownClientTarget (newClient files) endpoint options tenant create
    let o := ConnectionSettings.effective endpoint options
    (t.source.isUsable = true ↔ connect files o ≠ .error (.parameter .noEndpoint)) ∧
    (∀ build : ConnectionSettings → Except Failure (Client Request Answer),
      (∀ s e, s.endpoint = some e → e ≠ "" → build s = newClient files s) →
      (∀ {α : Type} (operation : WriteOperation Request Answer α),
        (ownClientTarget build endpoint options tenant create).execute operation =
          t.execute operation) ∧
      ∀ {α : Type} (p : Procedure α),
        p.run (ownClientTarget build endpoint options tenant create) = p.run t) ∧
    (t.check = .ok () → ∃ e, e ≠ "" ∧
      (endpoint = some e ∨ (endpoint = none ∨ endpoint = some "") ∧
        ∃ given, options = some given ∧ given.endpoint = some e) ∧
      o = { options.getD {} with endpoint := some e } ∧
      (∀ {α : Type} (operation : WriteOperation Request Answer α), t.execute operation =
        match connect files o with
        | .error f => Dialogue.fail f
        | .ok conn => (runWith (client conn) tenant create operation).closing) ∧
      (o.useInsecure = true ↔
        o.insecure = some true ∨ o.insecure = none ∧ localName <+: e.toList) ∧
      ∀ conn, connect files o = .ok conn →
        conn.endpoint = e ∧ (conn.base.scheme = "http" ↔ o.useInsecure = true)) := by
  intro t o
  refine ⟨namesEndpoint_iff_connect, fun build hbuild => ?_, fun hcheck => ?_⟩
  · have hsame := same_ownClientTarget hbuild endpoint options tenant create
    exact ⟨hsame.execute_eq, Procedure.run_eq hsame⟩
  · obtain ⟨e, he⟩ := ConnectionSettings.namesEndpoint_iff.1 (t.check_eq_ok_iff.1 hcheck).1
    have heffective : o = { options.getD {} with endpoint := some e } :=
      ConnectionSettings.effective_of_goesTo he
    have hendpoint : o.endpoint = some e := by rw [heffective]
    exact ⟨e, he.1, he.2, heffective, execute_ownClientTarget hcheck,
      ConnectionSettings.useInsecure_eq_true_iff hendpoint,
      fun conn hconnect => reach_of_connect hendpoint hconnect⟩

/-- The settings of a server that is somewhere else, with a token. -/
def remoteSettings : ConnectionSettings where
  endpoint := some "permify.example.com:443"
  authToken := some "s3cret"

/-- The target of a write to this machine with these settings, by how its client is built. -/
def passedTarget (build : ConnectionSettings → Except Failure (Client Request Answer)) :
    Target Request Answer :=
  ownClientTarget build (some "localhost:3476") (some remoteSettings) (.text "acme") true

/-- A client that is built from any settings with an endpoint, and has no file without one. -/
def filelessClient (o : ConnectionSettings) : Except Failure (Client Request Answer) :=
  match ConnectionSettings.given? o.endpoint with
  | none => throw .missingFile
  | some _ => newClient (fun _ => true) o

theorem filelessClient_of_endpoint (s : ConnectionSettings) (e : String) (he : s.endpoint = some e)
    (hne : e ≠ "") : filelessClient s = newClient (fun _ => true) s := by
  rw [filelessClient, he, ConnectionSettings.given?_of_ne hne]

/-- **The endpoint that is passed wins**: the token of the settings goes there in plain text. What a
client does without an endpoint makes no difference. -/
theorem passedEndpoint_wins :
    ((passedTarget (newClient fun _ => true)).check = .ok () ∧
      ∀ s e, s.endpoint = some e → e ≠ "" → filelessClient s = newClient (fun _ => true) s) ∧
    filelessClient {} ≠ newClient (fun _ => true) {} ∧
    (∀ schema, (Procedure.writeSchema schema).run (passedTarget filelessClient) =
      (Procedure.writeSchema schema).run (passedTarget (newClient fun _ => true))) ∧
    ∃ o conn, o = ConnectionSettings.effective (some "localhost:3476") (some remoteSettings) ∧
      o.endpoint = some "localhost:3476" ∧ o.authToken = some "s3cret" ∧
      o.useInsecure = true ∧ remoteSettings.useInsecure = false ∧
      connect (fun _ => true) o = .ok conn ∧ conn.endpoint = "localhost:3476" ∧
      conn.base.scheme = "http" := by
  obtain ⟨-, hbuild, haccepted⟩ := own_client_settings (fun _ => true) (some "localhost:3476")
    (some remoteSettings) (.text "acme") true
  have hcheck : (passedTarget (newClient fun _ => true)).check = .ok () := by rfl
  obtain ⟨e, -, hgoes, ho, -, hplain, hconnects⟩ := haccepted hcheck
  have he : e = "localhost:3476" := by
    rcases hgoes with hpassed | ⟨hnone, -⟩
    · exact (Option.some.inj hpassed).symm
    · exact absurd hnone (by decide)
  subst he
  rw [ho] at hplain hconnects
  obtain ⟨conn, hconn⟩ : ∃ conn, connect (fun _ => true)
      { remoteSettings with endpoint := some "localhost:3476" } = .ok conn := ⟨_, by rfl⟩
  obtain ⟨hendpoint, hscheme⟩ := hconnects conn hconn
  have hinsecure := hplain.2 (Or.inr ⟨rfl, by decide⟩)
  exact ⟨⟨hcheck, filelessClient_of_endpoint⟩, nofun, fun schema =>
    (hbuild filelessClient filelessClient_of_endpoint).2 (.writeSchema schema), _, conn, ho.symm,
    rfl, rfl, hinsecure, by decide, hconn, hendpoint, hscheme.2 hinsecure⟩

end Http

end Rebac
