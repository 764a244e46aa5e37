import Rebac.Proofs.AllOrNothing
import Rebac.Proofs.CreationAnswers
import Rebac.Proofs.ParameterFaults
import Rebac.Proofs.SchemaComposition

set_option autoImplicit false

/-!
# What is sent and reported of a schema

A schema gives the text that it compiles to, and a text in its place gives itself, white space at
either end included (`Schema.GivesText`). A schema that has entities is never blank, whatever the
names in it are, since its text ends in a brace; so only a schema without entities and a blank text
are refused (`Schema.sourceText_eq_ok_iff`). A write sends at most one request with a schema, and
that has the text and nothing else in its body. What a write reports is the text that it has sent,
the version in the answer to this request, and whether its own creation of the tenant was accepted
(`schema_writes_exact`).
-/

namespace Rebac

open Dialogue Write

namespace Schema

variable {s : Schema} {v : Value} {text : String}

/-! ## Texts of schemas -/

/-- What text is written of a schema or of anything given in its place. -/
inductive GivesText : Value → String → Prop
  | schema {s : Schema} (h : s.entities.values ≠ []) : GivesText (.schema s) s.compile
  | text {text : String} (h : Text.allBlank text.toList = false) : GivesText (.text text) text

/-- **The text of a schema is blank exactly if the schema has no entities.** -/
theorem allBlank_compile_iff : Text.allBlank s.compile.toList = true ↔ s.entities.values = [] := by
  constructor
  · intro hblank
    by_cases hne : s.entities.values = []
    · exact hne
    · obtain ⟨text, htext⟩ := exists_lines_eq_brace hne
      rw [compile_eq_intercalate, htext] at hblank
      exact absurd (List.all_eq_true.1 hblank '\x7d' (by simp)) (by decide)
  · intro hnone
    rw [(compile_eq_empty_iff s).2 hnone]
    rfl

theorem nonBlank_eq_ok_iff {given : String} :
    sourceText.nonBlank given = .ok text ↔ Text.allBlank given.toList = false ∧ given = text := by
  unfold sourceText.nonBlank
  split
  · simp_all [throw, throwThe, MonadExceptOf.throw]
  · simp_all [pure, Except.pure]

/-- **Which text is written.** -/
theorem sourceText_eq_ok_iff : sourceText v = .ok text ↔ GivesText v text := by
  constructor
  · intro h
    cases v with
    | schema s =>
        obtain ⟨hblank, rfl⟩ := nonBlank_eq_ok_iff.1 h
        exact .schema fun hnone => by simp [allBlank_compile_iff.2 hnone] at hblank
    | text given =>
        obtain ⟨hblank, rfl⟩ := nonBlank_eq_ok_iff.1 h
        exact .text hblank
    | _ => cases h
  · intro h
    cases h with
    | schema hne =>
        exact nonBlank_eq_ok_iff.2 ⟨Bool.eq_false_iff.2 (mt allBlank_compile_iff.1 hne), rfl⟩
    | text hblank => exact nonBlank_eq_ok_iff.2 ⟨hblank, rfl⟩

theorem sourceText_of_no_entities (h : s.entities.values = []) :
    sourceText (.schema s) = .error .noSchema := by
  rw [sourceText, sourceText.nonBlank, if_pos (allBlank_compile_iff.2 h)]
  rfl

end Schema

/-! ## Runs of a write of a schema -/

namespace Target

variable {Req Ans : Type} {t : Target Req Ans} {v : Value} {text : String}

/-- What a write of a schema reports once its call has returned. -/
def schemaReport (text : String) (outcome : Written Value) : SchemaWritten :=
  ⟨text, outcome.result.orElse (.text ""), outcome.status⟩

/-- A schema is sent by the workflow around one call. -/
theorem runs_writeSchema (hcheck : t.check = .ok ()) (htext : Schema.sourceText v = .ok text)
    (answers : List Ans) :
    Runs (t.writeSchema v) answers
      (t.execute (.asking fun tenant => .writeSchema tenant (.text text)) answers).requests
      ((t.execute (.asking fun tenant => .writeSchema tenant (.text text)) answers).ending.map
        (schemaReport text))
      (t.execute (.asking fun tenant => .writeSchema tenant (.text text)) answers).rest := by
  rw [writeSchema, executeWith_of_payload hcheck (mapError_eq_ok_iff.2 htext)]
  exact (Runs.self _ answers).bind_map fun outcome => (Runs.log _ _ _ _).bind (Runs.pure _ _)

/-- **A write of a schema that returns** has taken the course in which its call returns. -/
theorem schemaCourse_of_returned (htext : Schema.sourceText v = .ok text) {answers : List Ans}
    {w : SchemaWritten} (h : (t.writeSchema v answers).ending = .returned w) :
    ∃ c outcome, t.source.Gives c ∧ w = schemaReport text outcome ∧
      WriteCourse c t.tenant t.create (.asking fun tenant => .writeSchema tenant (.text text))
        answers (t.writeSchema v answers).requests (.returned outcome) := by
  cases hcheck : t.check with
  | error p =>
      rw [writeSchema, executeWith_of_check_error hcheck] at h
      cases h
  | ok u =>
      have hrun := runs_writeSchema hcheck htext answers
      rw [hrun.ending_eq] at h
      obtain ⟨outcome, hreturned, rfl⟩ := Ending.exists_returned_of_map_eq h
      obtain ⟨c, hc, hcourse⟩ := exists_course_of_returned hreturned
      rw [← hrun.requests_eq] at hcourse
      exact ⟨c, outcome, hc, rfl, hcourse⟩

end Target

/-! ## The request with a schema and its answer -/

namespace Http

variable {conn : Connection} {tenant schema v : Value} {text : String} {r : Request}
variable {status : Nat} {bytes : List UInt8}

/-- The schema in the body of a request, if there is one. -/
def Request.schema? (r : Request) : Option Json := r.body.bind (·.field? "schema")

/-- A request that writes a text as the schema of a tenant: it has the text in its body, and nothing
else. -/
def WritesText (conn : Connection) (tenant : Value) (text : String) (r : Request) : Prop :=
  request conn (.writeSchema tenant (.text text)) = .ok r ∧
    r.body = some (.object [("schema", .text text)])

theorem writesText_of_request (h : request conn (.writeSchema tenant (.text text)) = .ok r) :
    WritesText conn tenant text r := by
  obtain ⟨vs, hbody, _ | ⟨hschema, ⟨⟩⟩⟩ := exists_body_of_request h rfl
  cases hschema
  exact ⟨h, hbody⟩

theorem WritesText.schema?_eq (h : WritesText conn tenant text r) :
    r.schema? = some (.text text) := by
  rw [Request.schema?, h.2]
  rfl

theorem WritesText.filter_eq (h : WritesText conn tenant text r) :
    [r].filter (·.schema?.isSome) = [r] := by
  rw [List.filter_cons_of_pos (by rw [h.schema?_eq]; rfl), List.filter_nil]

/-- The version that an answer gives to a schema: what its body states, unless that is missing or
counts as nothing. -/
inductive GivesVersion (bytes : List UInt8) : Value → Prop
  | stated {j : Json} (hstates : States bytes "schema_version" j)
      (htruthy : (Value.ofJson j).truthy = true) : GivesVersion bytes (.ofJson j)
  | none (hnone : ∀ j, States bytes "schema_version" j → (Value.ofJson j).truthy = false) :
      GivesVersion bytes (.text "")

/-- The data of an answer to a write of a schema has the version that is read. -/
theorem readField_of_reply
    (h : (reply conn (.writeSchema tenant schema) (.response status bytes)).2 = .ok v) :
    v = (readField bytes "schema_version").getD (.text "") := by
  have hstatus : isSuccess status = true := accepts_of_reply_ok h
  rw [reply_of_success hstatus] at h
  obtain ⟨data, hdata, h⟩ := exists_of_bind_eq_ok h
  have hfind : data.find "schema_version" (.text "") = .ok v := mapError_eq_ok_iff.1 h
  cases data with
  | map es =>
      cases hfind
      rw [readResult] at hdata
      split at hdata
      · next hempty =>
        cases hdata
        rw [List.isEmpty_iff.1 hempty]
        rfl
      · rw [readField, errorFields, hdata]
        rfl
  | _ => cases hfind

/-- **The version that is reported is the one that the answer gives.** -/
theorem givesVersion_of_reply
    (h : (reply conn (.writeSchema tenant schema) (.response status bytes)).2 = .ok v) :
    GivesVersion bytes (v.orElse (.text "")) := by
  rw [readField_of_reply h]
  cases hfield : readField bytes "schema_version" with
  | none => exact .none fun j hj => absurd hj (readField_eq_none_iff.1 hfield j)
  | some w =>
      obtain ⟨j, hstates, rfl⟩ := readField_eq_some_iff.1 hfield
      rw [Option.getD_some, Value.orElse]
      split
      · next htruthy => exact .stated hstates htruthy
      · next hnot =>
        refine .none fun i hi => ?_
        -- The body states one version only.
        have hsame : some (Value.ofJson i) = some (Value.ofJson j) := by
          rw [← readField_eq_some_iff.2 ⟨i, hi, rfl⟩, ← readField_eq_some_iff.2 ⟨j, hstates, rfl⟩]
        rw [Option.some.inj hsame]
        exact Bool.eq_false_iff.2 hnot

/-! ## The creation of the tenant -/

/-- A creation and a page of tenants are not the same request. -/
theorem creation_ne_page {token : Value}
    (hcreation : request conn (.createTenant tenant tenant) = .ok r)
    (hpage : request conn (.listTenants defaultPageSize token) = .ok r) : False := by
  have hnone : r.body.bind (·.field? "id") = none := field?_of_request hpage rfl (by simp)
  obtain ⟨vs, hbody, _ | ⟨hid, _ | ⟨hname, ⟨⟩⟩⟩⟩ := exists_body_of_request hcreation rfl
  rw [hbody] at hnone
  cases hnone

/-- A creation that is accepted is not taken for anything else, if the tenant is resolved. -/
theorem created_of_accepts {a : Answer} {resolution : TenantResolution} (ha : a.Accepts)
    (h : (Ending.ofExcept (reply conn (.createTenant tenant tenant) a).2).ofCreation =
      .returned resolution) : resolution = .created := by
  cases a with
  | unreachable m => exact ha.elim
  | raised f => exact ha.elim
  | response status bytes =>
      have hstatus : isSuccess status = true := ha
      have hresolved : resolvedBy conn tenant status bytes = .returned resolution := h
      by_cases hreadable : IsReadableCreation status bytes
      · have hbody := hreadable
        rw [IsReadableCreation, if_pos hstatus] at hbody
        have hcreated : .returned .created = resolvedBy conn tenant status bytes :=
          (creationOutcome_iff hreadable).1 (.created hstatus hbody)
        rw [hresolved] at hcreated
        cases hcreated
        rfl
      · obtain ⟨f, -, hfailed⟩ := resolvedBy_of_not_readable conn tenant hreadable
        rw [hresolved] at hfailed
        cases hfailed

/-- **A resolution has created the tenant exactly if its creation was accepted.** -/
theorem isCreated_iff_of_resolved {create : Bool} {answers : List Answer}
    {resolution : TenantResolution}
    (h : ((client conn).resolveTenant tenant create answers).ending = .returned resolution) :
    resolution.isCreated = true ↔
      ∃ e ∈ ((client conn).resolveTenant tenant create).exchanges answers,
        request conn (.createTenant tenant tenant) = .ok e.1 ∧ e.2.Accepts := by
  cases create with
  | true =>
      obtain ⟨ending, hasked, hending⟩ := (client conn).exists_asked_creation tenant answers
      rw [h] at hending
      constructor
      · intro hcreated
        obtain rfl : resolution = .created := by simpa [TenantResolution.isCreated] using hcreated
        obtain ⟨v, rfl⟩ := Ending.ofCreation_eq_created_iff.1 hending.symm
        obtain ⟨r, a, hlog, hr, hreply⟩ := hasked.of_returned
        exact ⟨(r, a), by rw [hlog]; exact List.mem_singleton_self _, hr,
          accepts_of_reply_ok hreply⟩
      · rintro ⟨e, he, -, ha⟩
        obtain ⟨-, -, rfl⟩ := hasked.of_mem he
        rw [created_of_accepts ha hending.symm]
        rfl
  | false =>
      -- A tenant that is looked for is found, and no creation is sent.
      rw [((client conn).runs_resolveTenant_search tenant answers).ending_eq] at h
      rw [(Ending.ofSearch_eq_returned_iff.1 h).2, Client.exchanges_resolveTenant_search]
      constructor
      · intro hcreated
        cases hcreated
      · rintro ⟨e, he, hcreation, -⟩
        obtain ⟨token, hpage⟩ := Client.exists_token_of_mem_search he
        exact (creation_ne_page hcreation hpage).elim

/-- What a resolution exchanges has no schema. -/
theorem filter_schema_resolveTenant (conn : Connection) (tenant : Value) (create : Bool)
    (answers : List Answer) :
    (((client conn).resolveTenant tenant create).exchanges answers).filter
      (·.1.schema?.isSome) = [] := by
  rw [List.filter_eq_nil_iff]
  intro e he
  have hnone : e.1.schema? = none :=
    field?_of_resolving (Client.cases_of_mem_resolveTenant (mem_of_mem_exchanges he).1) (by simp)
  simp [hnone]

end Http

open Http

/-! ## Writes of schemas -/

section Writes

variable {t : HttpTarget} {v : Value} {text : String} {answers : List Answer}

/-- Of what a write may send, only the request of its call has a schema. -/
theorem filter_schema_of_allowed {conn : Connection} {tenant : Value} {create : Bool}
    {w : WriteRequests Request} {call : Value → Call Value}
    (hw : w.Allowed (client conn) tenant create (.asking call) answers) :
    w.all.filter (·.schema?.isSome) = w.writing.filter (·.schema?.isSome) := by
  have hresolving : w.resolving.filter (·.schema?.isSome) = [] := by
    rw [List.filter_eq_nil_iff]
    intro q hq
    have hnone : q.schema? = none := field?_of_resolving (hw.cases_of_mem_resolving hq) (by simp)
    simp [hnone]
  have hdeleting : w.deleting.filter (·.schema?.isSome) = [] := by
    rcases hw.deletion with hnone | ⟨d, hd, hone⟩
    · rw [hnone, List.filter_nil]
    · rw [hone, List.filter_cons_of_neg (by rw [Request.schema?, body_of_tenantDeletion hd]; simp),
        List.filter_nil]
  rw [WriteRequests.all, List.filter_append, List.filter_append, hresolving, hdeleting,
    List.nil_append, List.append_nil]

/-- **At most one request of a write has a schema**, and that writes the text. -/
theorem schemaRequests_of_givesText (h : Schema.GivesText v text) (answers : List Answer) :
    (t.writeSchema v answers).requests.filter (·.schema?.isSome) = [] ∨
      ∃ r, WritesText t.connection t.tenant text r ∧
        (t.writeSchema v answers).requests.filter (·.schema?.isSome) = [r] := by
  cases hcheck : t.check with
  | error p =>
      rw [Target.writeSchema, Target.executeWith_of_check_error hcheck]
      exact Or.inl rfl
  | ok u =>
      have hrun := Target.runs_writeSchema hcheck (Schema.sourceText_eq_ok_iff.2 h) answers
      rw [hrun.requests_eq]
      rcases t.source.gives_or_refuses with ⟨c, hc⟩ | ⟨f, hf⟩
      · cases t.isClient c hc
        obtain ⟨w, hw, hall⟩ := exists_allowed_of_course (Target.course_execute hcheck hc
          (.asking fun tenant => .writeSchema tenant (.text text)) answers)
        rw [hall, filter_schema_of_allowed hw]
        rcases hw.writing_of_asking with hnone | ⟨r, hr, hone⟩
        · rw [hnone]
          exact Or.inl rfl
        · have hwrites := writesText_of_request hr
          rw [hone]
          exact Or.inr ⟨r, hwrites, hwrites.filter_eq⟩
      · rw [Target.execute_of_rejects (Or.inr ⟨hcheck, hf⟩)]
        exact Or.inl rfl

/-- What a write of a schema that returns has exchanged, and what it reports. -/
theorem exists_exchange_of_returned (h : Schema.GivesText v text) {w : SchemaWritten}
    (hw : (t.writeSchema v answers).ending = .returned w) :
    ∃ r status bytes,
      ((t.writeSchema v).exchanges answers).filter (·.1.schema?.isSome) =
        [(r, .response status bytes)] ∧
      WritesText t.connection t.tenant text r ∧ isSuccess status = true ∧
      w.text = text ∧ GivesVersion bytes w.version ∧
      (w.status.isCreated = true ↔ ∃ e ∈ (t.writeSchema v).exchanges answers,
        request t.connection (.createTenant t.tenant t.tenant) = .ok e.1 ∧ e.2.Accepts) := by
  obtain ⟨c, outcome, hc, rfl, hcourse⟩ :=
    Target.schemaCourse_of_returned (Schema.sourceText_eq_ok_iff.2 h) hw
  cases t.isClient c hc
  obtain ⟨hresolved, hcalled, hrequests⟩ := hcourse.of_returned
  obtain ⟨r, a, hone, hr, hreply⟩ := (asked_operation hcalled).of_returned
  have hwrites := writesText_of_request hr
  -- The exchanges are those of the resolution and then the one of the call.
  have hlog : (t.writeSchema v).exchanges answers =
      ((client t.connection).resolveTenant t.tenant t.create).exchanges answers ++ [(r, a)] := by
    rw [exchanges, hrequests, zip_of_resolved hresolved, hone]
  cases a with
  | unreachable m => cases hreply
  | raised f => cases hreply
  | response status bytes =>
      have hread : (reply t.connection (.writeSchema t.tenant (.text text))
          (.response status bytes)).2 = .ok outcome.result := hreply
      refine ⟨r, status, bytes, ?_, hwrites, accepts_of_reply_ok hread, rfl,
        givesVersion_of_reply hread, ?_⟩
      · rw [hlog, List.filter_append, filter_schema_resolveTenant, List.nil_append,
          List.filter_cons_of_pos (by rw [hwrites.schema?_eq]; rfl), List.filter_nil]
      · have hcreated := isCreated_iff_of_resolved hresolved
        rw [hlog]
        constructor
        · intro h
          obtain ⟨e, he, haccepted⟩ := hcreated.1 h
          exact ⟨e, List.mem_append_left _ he, haccepted⟩
        · rintro ⟨e, he, hcreation, haccepts⟩
          rcases List.mem_append.1 he with he | he
          · exact hcreated.2 ⟨e, he, hcreation, haccepts⟩
          · -- The request of the call is no creation, since it has a schema.
            cases List.mem_singleton.1 he
            have hnone : r.schema? = none := field?_of_request hcreation rfl (by simp)
            rw [hwrites.schema?_eq] at hnone
            cases hnone

/-- A write of a schema with entities, or of a text that is not blank, is not refused as one without
a schema, unless the transport says so. -/
theorem ending_ne_noSchema (h : Schema.GivesText v text) (hcheck : t.check = .ok ())
    (hc : t.source.Gives (client t.connection))
    (hraised : Answer.raised (.parameter .noSchema) ∉ answers) :
    (t.writeSchema v answers).ending ≠ .failed (.parameter .noSchema) := by
  have hcall : (WriteKind.schema v).call =
      .ok fun tenant => .writeSchema tenant (.text text) := by
    rw [WriteKind.call, Schema.sourceText_eq_ok_iff.2 h]
    rfl
  have hguarantees := WriteKind.guarantees_run hcheck hc hcall
    (failsWithin_noOwnParameter t.connection answers) (noOwnParameter_closed answers)
  intro hfailed
  have hrun : ((WriteKind.schema v).run t.toTarget answers).ending =
      .failed (.parameter .noSchema) := (Runs.of_ending hfailed).bind_failed.ending_eq
  have hend := (hguarantees answers fun a ha => ha).1
  rw [hrun] at hend
  exact hraised (hend _ rfl)

/-- **A write of a schema reports exactly what it has sent.** Given a tenant and a client, a schema
is refused as missing exactly if it has no entities. Otherwise, and for every text that is not
blank, at most one request has a schema: it has the text to which the schema compiles, or the text
as it is given, and nothing else in its body. A write that returns has sent this request and had a
success as its answer; it reports this text, the version that the answer gives, and that the tenant
was created exactly if a creation that it has sent itself was accepted. -/
theorem schema_writes_exact (t : HttpTarget) (answers : List Answer) :
    (∀ s : Schema, t.check = .ok () → t.source.Gives (client t.connection) →
      Answer.raised (.parameter .noSchema) ∉ answers →
        ((t.writeSchema (.schema s) answers).ending = .failed (.parameter .noSchema) ↔
          s.entities.values = [])) ∧
    ∀ v text, Schema.GivesText v text →
      ((t.writeSchema v answers).requests.filter (·.schema?.isSome) = [] ∨
        ∃ r, WritesText t.connection t.tenant text r ∧
          (t.writeSchema v answers).requests.filter (·.schema?.isSome) = [r]) ∧
      ∀ w, (t.writeSchema v answers).ending = .returned w →
        ∃ r status bytes,
          ((t.writeSchema v).exchanges answers).filter (·.1.schema?.isSome) =
            [(r, .response status bytes)] ∧
          WritesText t.connection t.tenant text r ∧ isSuccess status = true ∧
          w.text = text ∧ GivesVersion bytes w.version ∧
          (w.status.isCreated = true ↔ ∃ e ∈ (t.writeSchema v).exchanges answers,
            request t.connection (.createTenant t.tenant t.tenant) = .ok e.1 ∧ e.2.Accepts) := by
  refine ⟨fun s hcheck hc hraised => ⟨fun hfailed => ?_, fun hnone => ?_⟩, fun v text h =>
    ⟨schemaRequests_of_givesText h answers, fun w hw => exists_exchange_of_returned h hw⟩⟩
  · by_contra hne
    exact ending_ne_noSchema (.schema hne) hcheck hc hraised hfailed
  · rw [Target.writeSchema, Target.executeWith_of_payload_error hcheck
      (congrArg (Except.mapError Failure.parameter) (Schema.sourceText_of_no_entities hnone))]
    rfl

end Writes

/-- The body of an answer that states a version. -/
def versionBody : List UInt8 := Text.Utf8.encode "\x7b\"schema_version\": \"v1\"\x7d".toList

/-- The answers to a creation and to a schema that gets a version. -/
def versionAnswers : List Answer := [.response 200 [], .response 200 versionBody]

/-- The text of a schema whose only entity has a blank name. -/
def blankNamedText : String := "entity \n\n \x7b\n\x7d"

theorem blankNamed_givesText : Schema.GivesText (.schema Schema.blankNamed) blankNamedText :=
  .schema (List.cons_ne_nil _ _)

/-- The schema is the second request, and it gets the version of the second answer. -/
theorem blankNamed_answered :
    (operationRun (client localConnection) (.text "acme") true
      (.asking fun tenant => .writeSchema tenant (.text blankNamedText)) versionAnswers).ending =
        .returned (.text "v1") := by
  -- The body of the answer is read apart from the rest of the run.
  have hreply : ((client localConnection).reply (.writeSchema (.text "acme")
      (.text blankNamedText)) (.response 200 versionBody)).2 = .ok (.text "v1") := by cbv
  have hrest : ((client localConnection).resolveTenant (.text "acme") true versionAnswers).rest =
      [.response 200 versionBody] := by rfl
  obtain ⟨r, hr⟩ : ∃ r, request localConnection
      (.writeSchema (.text "acme") (.text blankNamedText)) = .ok r := ⟨_, by rfl⟩
  rw [operationRun, hrest, WriteOperation.asking, Client.ask_cons (c := client localConnection) hr,
    hreply]
  rfl

theorem blankNamed_returned :
    (createdTarget.writeSchema (.schema Schema.blankNamed) versionAnswers).ending =
      .returned ⟨blankNamedText, .text "v1", .created⟩ := by
  have hcheck : createdTarget.check = .ok () := by rfl
  have hclient : createdTarget.source.Gives (client localConnection) := rfl
  have hresolved : ((client localConnection).resolveTenant (.text "acme") true
      versionAnswers).ending = .returned .created := by rfl
  obtain ⟨rest, hrun⟩ := Target.runs_execute_of_course (t := createdTarget) hcheck hclient
    (.returned hresolved blankNamed_answered)
  have htarget := Target.runs_writeSchema (t := createdTarget) hcheck
    (Schema.sourceText_eq_ok_iff.2 blankNamed_givesText) versionAnswers
  rw [hrun.ending_eq] at htarget
  exact htarget.ending_eq

/-- A schema whose only entity has a blank name is written. It gets the version of the answer, and
the tenant is created. -/
theorem blankNamed_written :
    (createdHttpTarget.check = .ok () ∧
      createdHttpTarget.source.Gives (client createdHttpTarget.connection) ∧
      Answer.raised (.parameter .noSchema) ∉ versionAnswers ∧
      Schema.GivesText (.schema Schema.blankNamed) blankNamedText) ∧
    (createdHttpTarget.writeSchema (.schema Schema.blankNamed) versionAnswers).ending ≠
      .failed (.parameter .noSchema) ∧
    ∃ w, (createdHttpTarget.writeSchema (.schema Schema.blankNamed) versionAnswers).ending =
        .returned w ∧ w.status.isCreated = true ∧
      (∃ r bytes, WritesText localConnection (.text "acme") blankNamedText r ∧
        GivesVersion bytes w.version) ∧
      ∃ e ∈ (createdHttpTarget.writeSchema (.schema Schema.blankNamed)).exchanges versionAnswers,
        request localConnection (.createTenant (.text "acme") (.text "acme")) = .ok e.1 ∧
          e.2.Accepts := by
  have hcheck : createdHttpTarget.check = .ok () := by rfl
  have hclient : createdHttpTarget.source.Gives (client createdHttpTarget.connection) := rfl
  have hraised : Answer.raised (.parameter .noSchema) ∉ versionAnswers := by simp [versionAnswers]
  have hentities : Schema.blankNamed.entities.values ≠ [] := List.cons_ne_nil _ _
  obtain ⟨hrefused, hwritten⟩ := schema_writes_exact createdHttpTarget versionAnswers
  obtain ⟨r, status, bytes, -, hwrites, -, -, hversion, hcreated⟩ :=
    (hwritten _ _ blankNamed_givesText).2 _ blankNamed_returned
  exact ⟨⟨hcheck, hclient, hraised, blankNamed_givesText⟩,
    mt (hrefused Schema.blankNamed hcheck hclient hraised).1 hentities,
    _, blankNamed_returned, rfl, ⟨r, bytes, hwrites, hversion⟩, hcreated.1 rfl⟩

end Rebac
