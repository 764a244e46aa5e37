import Rebac.Proofs.AllOrNothing
import Rebac.Proofs.RelationshipRecords
import Rebac.Proofs.WireForms

set_option autoImplicit false

/-!
# What is sent of relationships

Relationships are given as records, in wire form, or some in one way and some in the other. What is
sent is the wire form of each, in the order in which they are given, and a relationship has the same
wire form however it is given (`Relationship.Gives.wireOf_eq`). So it makes no difference to a write
in which form its relationships are (`Target.writeRelationships_of_gives`). A write that returns has
sent one request with relationships, and that request has all of them
(`relationship_payloads_exact`).
-/

namespace Rebac

open Dialogue Write

namespace Relationship

variable {r : Relationship} {rs : List Relationship} {v payload : Value}
variable {vs records ws : List Value}

/-! ## Forms of relationships -/

/-- A value gives a relationship if it is the record of it or the wire form of it. -/
inductive Gives (r : Relationship) : Value → Prop
  | record : Gives r r.toRecord
  | wire : Gives r r.toValue

/-- The wire form of the relationship that a value stands for. -/
def wireOf (v : Value) : Except Failure Value :=
  recordOf v >>= fun record => record.wire.mapError Failure.access

/-- A wire form stands for the record of the relationship that is read from it. -/
theorem recordOf_toValue (r : Relationship) : recordOf r.toValue = .ok r.canonical.toRecord := by
  rw [recordOf, ofData_toValue]
  · rfl
  · rintro _ _ _ ⟨⟩

theorem Gives.exists_record (h : r.Gives v) :
    ∃ record, recordOf v = .ok record ∧ record.wire = .ok r.toValue := by
  cases h with
  | record => exact ⟨_, recordOf_toRecord r, wire_toRecord r⟩
  | wire => exact ⟨_, recordOf_toValue r, by rw [wire_toRecord, toValue_canonical]⟩

/-- **A relationship has the same wire form however it is given.** -/
theorem Gives.wireOf_eq (h : r.Gives v) : wireOf v = .ok r.toValue := by
  obtain ⟨record, hread, hwire⟩ := h.exists_record
  rw [wireOf, hread]
  exact mapError_eq_ok_iff.2 hwire

theorem mapM_wireOf_of_gives (h : List.Forall₂ Gives rs vs) :
    vs.mapM wireOf = .ok (rs.map toValue) := by
  rw [mapM_eq_ok_iff, List.forall₂_map_right_iff]
  exact h.flip.imp fun _ _ hgives => hgives.wireOf_eq

theorem exists_records_of_gives (h : List.Forall₂ Gives rs vs) :
    ∃ records, recordsOf (.list vs) = .ok records ∧
      records.mapM Value.wire = .ok (rs.map toValue) := by
  rw [recordsOf_list]
  induction h with
  | nil => exact ⟨[], rfl, rfl⟩
  | cons hgives _ ih =>
      obtain ⟨record, hread, hwire⟩ := hgives.exists_record
      obtain ⟨records, hreads, hwires⟩ := ih
      refine ⟨record :: records, ?_, ?_⟩
      · rw [List.mapM_cons, hread, hreads]
        rfl
      · rw [List.mapM_cons, hwire, hwires]
        rfl

/-- The payload of records is the list of their wire forms. -/
theorem payload_eq_ok_iff :
    Relationship.payload records = .ok payload ↔
      ∃ ws, records.mapM Value.wire = .ok ws ∧ payload = .list ws := by
  rw [Relationship.payload]
  cases records.mapM Value.wire with
  | error f => simp [throw, throwThe, MonadExceptOf.throw]
  | ok ws => simp [pure, Except.pure, eq_comm]

/-- What is sent of relationships is the wire form of each of them. -/
theorem mapM_wireOf_of_records (hread : vs.mapM recordOf = .ok records)
    (hwire : records.mapM Value.wire = .ok ws) : vs.mapM wireOf = .ok ws := by
  refine mapM_trans hread ?_
  rw [mapM_eq_ok_iff] at hwire ⊢
  exact hwire.imp fun _ _ h => mapError_eq_ok_iff.2 h

end Relationship

/-! ## Writes of relationships -/

namespace Target

variable {Req Ans : Type} {t : Target Req Ans} {rs : List Relationship}
variable {vs records records' : List Value} {v payload version : Value} {answers : List Ans}

/-- What is sent depends on the payload alone, and what is reported on how many there are. -/
theorem sendRelationships_congr
    (hpayload : Relationship.payload records = Relationship.payload records')
    (hlength : records.length = records'.length) :
    t.sendRelationships records version = t.sendRelationships records' version := by
  rw [sendRelationships, sendRelationships, hpayload, hlength]

/-- **It makes no difference in which form relationships are written.** -/
theorem writeRelationships_of_gives (h : List.Forall₂ Relationship.Gives rs vs) (version : Value) :
    t.writeRelationships (.list vs) version =
      t.writeRelationships (.list (rs.map Relationship.toRecord)) version := by
  have hrecords : List.Forall₂ Relationship.Gives rs (rs.map Relationship.toRecord) :=
    List.forall₂_map_right_iff.2 (List.forall₂_same.2 fun _ _ => .record)
  obtain ⟨read, hread, hwire⟩ := Relationship.exists_records_of_gives h
  obtain ⟨read', hread', hwire'⟩ := Relationship.exists_records_of_gives hrecords
  have hlength : read.length = rs.length := by
    rw [(mapM_eq_ok_iff.1 hwire).length_eq, List.length_map]
  have hlength' : read'.length = rs.length := by
    rw [(mapM_eq_ok_iff.1 hwire').length_eq, List.length_map]
  cases hcheck : t.check with
  | error p =>
      rw [writeRelationships, writeRelationships, executeWith_of_check_error hcheck,
        executeWith_of_check_error hcheck]
  | ok u =>
      cases rs with
      | nil =>
          -- Nothing is given in either form, and that is refused.
          cases h
          rfl
      | cons r rs =>
          have hne : read ≠ [] := List.ne_nil_of_length_eq_add_one hlength
          have hne' : read' ≠ [] := List.ne_nil_of_length_eq_add_one hlength'
          rw [writeRelationships_of_recordsOf hcheck hread hne,
            writeRelationships_of_recordsOf hcheck hread' hne']
          refine sendRelationships_congr ?_ (hlength.trans hlength'.symm)
          rw [Relationship.payload, Relationship.payload, hwire, hwire']

/-- What a write of records reports once its call has returned. -/
def report (records : List Value) (outcome : Written Value) : RelationshipsWritten where
  count := records.length
  token := outcome.result.orElse (.text "")
  status := some outcome.status

/-- Relationships are sent by the workflow around one call. -/
theorem runs_sendRelationships (hpayload : Relationship.payload records = .ok payload)
    (version : Value) (answers : List Ans) :
    Runs (t.sendRelationships records version) answers
      (t.execute (.asking fun tenant => .writeRelationships tenant payload version)
        answers).requests
      ((t.execute (.asking fun tenant => .writeRelationships tenant payload version)
        answers).ending.map (report records))
      (t.execute (.asking fun tenant => .writeRelationships tenant payload version)
        answers).rest := by
  rw [sendRelationships, hpayload]
  refine (Runs.ofExcept_ok payload answers).bind ?_
  exact (Runs.self _ answers).bind_map fun outcome => (Runs.log _ _ _ _).bind (Runs.pure _ _)

/-- A write of relationships fails at once, or it has read them and sends them. -/
theorem writeRelationships_cases (t : Target Req Ans) (v version : Value) :
    (∃ f, t.writeRelationships v version = Dialogue.fail f) ∨
      t.check = .ok () ∧ ∃ records, Relationship.recordsOf v = .ok records ∧
        t.writeRelationships v version = t.sendRelationships records version := by
  cases hcheck : t.check with
  | error p => exact Or.inl ⟨_, executeWith_of_check_error hcheck⟩
  | ok u =>
      cases hrequired : Relationship.required v with
      | error f => exact Or.inl ⟨f, executeWith_of_payload_error hcheck hrequired⟩
      | ok records =>
          exact Or.inr ⟨rfl, records, (Relationship.required_eq_ok_iff.1 hrequired).1,
            executeWith_of_payload hcheck hrequired⟩

/-- **A write of relationships that returns** has read all of them and has taken the course in which
its call returns. -/
theorem course_of_returned {w : RelationshipsWritten}
    (h : (t.writeRelationships v version answers).ending = .returned w) :
    ∃ c records payload outcome, t.source.Gives c ∧ Relationship.recordsOf v = .ok records ∧
      Relationship.payload records = .ok payload ∧ w = report records outcome ∧
      WriteCourse c t.tenant t.create
        (.asking fun tenant => .writeRelationships tenant payload version) answers
        (t.writeRelationships v version answers).requests (.returned outcome) := by
  rcases t.writeRelationships_cases v version with ⟨f, hfail⟩ | ⟨hcheck, records, hread, hsend⟩
  · rw [hfail] at h
    cases h
  · rw [hsend] at h
    cases hpayload : Relationship.payload records with
    | error f =>
        rw [sendRelationships, hpayload] at h
        cases h
    | ok payload =>
        have hrun := runs_sendRelationships (t := t) hpayload version answers
        rw [hrun.ending_eq] at h
        obtain ⟨outcome, hreturned, rfl⟩ := Ending.exists_returned_of_map_eq h
        obtain ⟨c, hc, hcourse⟩ := exists_course_of_returned hreturned
        refine ⟨c, records, payload, outcome, hc, hread, hpayload, rfl, ?_⟩
        rw [hsend, hrun.requests_eq]
        exact hcourse

end Target

/-! ## The request with relationships -/

namespace Http

/-- The tuples in the body of a request, if there are any. -/
def Request.tuples? (r : Request) : Option Json := r.body.bind (·.field? "tuples")

variable {α : Type} {conn : Connection} {r : Request}

/-- The requests of a resolution have no tuples. -/
theorem filter_tuples_resolveTenant (conn : Connection) (tenant : Value) (create : Bool)
    (answers : List Answer) :
    ((client conn).resolveTenant tenant create answers).requests.filter (·.tuples?.isSome) =
      [] := by
  rw [List.filter_eq_nil_iff]
  intro q hq
  have hnone : q.tuples? = none :=
    field?_of_resolving (Client.cases_of_mem_resolveTenant hq) (by simp)
  simp [hnone]

/-- The data of items, one by one. -/
theorem toJsonItems_eq_mapM (vs : List Value) : Value.toJsonItems vs = vs.mapM Value.toJson := by
  induction vs with
  | nil => rw [Value.toJsonItems, List.mapM_nil]
  | cons v vs ih => rw [Value.toJsonItems, List.mapM_cons, ih]

/-- **The body of a write of relationships** has the version of the schema, the relationships in
order, and no attributes. -/
theorem body_of_relationships {tenant version : Value} {ws : List Value}
    (h : request conn (.writeRelationships tenant (.list ws) version) = .ok r) :
    ∃ jv js, version.toJson = .ok jv ∧ ws.mapM Value.toJson = .ok js ∧
      r.body = some (.object [("metadata", .object [("schema_version", jv)]),
        ("tuples", .array js), ("attributes", .array [])]) := by
  obtain ⟨vs, hb, _ | ⟨hmetadata, _ | ⟨htuples, _ | ⟨hattributes, ⟨⟩⟩⟩⟩⟩ :=
    exists_body_of_request h rfl
  obtain ⟨fields, rfl, _ | ⟨hversion, ⟨⟩⟩⟩ := Value.exists_of_toJson_record hmetadata
  rw [Value.toJson, toJsonItems_eq_mapM] at htuples
  obtain ⟨js, hjs, htuples⟩ := exists_of_bind_eq_ok htuples
  cases htuples
  cases hattributes
  exact ⟨_, js, hversion, hjs, hb⟩

end Http

open Http

/-- **Relationships are sent in order, each once, whatever their form.** In which form relationships
are given makes no difference to a write. A write that returns has sent one request with tuples: the
wire forms of all items in order, the version of the schema as it was given, and no attributes; and
it reports how many items there were. -/
theorem relationship_payloads_exact (t : HttpTarget) (version : Value) :
    (∀ rs vs, List.Forall₂ Relationship.Gives rs vs →
      t.writeRelationships (.list vs) version =
          t.writeRelationships (.list (rs.map Relationship.toRecord)) version ∧
        vs.mapM Relationship.wireOf = .ok (rs.map Relationship.toValue)) ∧
    ∀ tuples answers w, (t.writeRelationships tuples version answers).ending = .returned w →
      ∃ items ws js jv r, tuples.items = .ok items ∧ items.mapM Relationship.wireOf = .ok ws ∧
        ws.mapM Value.toJson = .ok js ∧ version.toJson = .ok jv ∧ w.count = items.length ∧
        (t.writeRelationships tuples version answers).requests.filter (·.tuples?.isSome) = [r] ∧
        request t.connection (.writeRelationships t.tenant (.list ws) version) = .ok r ∧
        r.body = some (.object [("metadata", .object [("schema_version", jv)]),
          ("tuples", .array js), ("attributes", .array [])]) := by
  refine ⟨fun rs vs h => ⟨Target.writeRelationships_of_gives h version,
    Relationship.mapM_wireOf_of_gives h⟩, fun tuples answers w hw => ?_⟩
  obtain ⟨c, records, payload, outcome, hc, hread, hpayload, rfl, hcourse⟩ :=
    Target.course_of_returned hw
  obtain ⟨items, hitems, hrecords⟩ := Relationship.recordsOf_eq_ok_iff.1 hread
  obtain ⟨ws, hwire, rfl⟩ := Relationship.payload_eq_ok_iff.1 hpayload
  cases t.isClient c hc
  obtain ⟨-, hcalled, hrequests⟩ := hcourse.of_returned
  obtain ⟨r, -, -, hr, -⟩ := (asked_operation hcalled).of_returned
  obtain ⟨jv, js, hversion, hjs, hbody⟩ := body_of_relationships hr
  -- The tenant is resolved without tuples, so they are in the last request only.
  have hone : [r].filter (·.tuples?.isSome) = [r] := by
    rw [List.filter_eq_self, List.forall_mem_singleton, Request.tuples?, hbody]
    rfl
  have hsent : (operationRun (client t.connection) t.tenant t.create
      (.asking fun tenant => .writeRelationships tenant (.list ws) version) answers).requests =
        [r] := ((client t.connection).requests_ask _ _).trans (Client.sent_of_ok hr)
  refine ⟨items, ws, js, jv, r, hitems, ?_, hjs, hversion, hrecords.length_eq.symm, ?_, hr, hbody⟩
  · exact Relationship.mapM_wireOf_of_records (mapM_eq_ok_iff.2 hrecords) hwire
  · rw [hrequests, List.filter_append, filter_tuples_resolveTenant, hsent, hone]
    rfl

/-- A user may view a document. The relation of the subject is empty. -/
def aliceViews : Relationship where
  entity := ⟨.text "document", .text "doc-1"⟩
  relation := .text "viewer"
  subject := ⟨.text "user", .text "alice", .text ""⟩

/-- All members of a team may edit a document. -/
def membersEdit : Relationship where
  entity := ⟨.text "document", .text "doc-1"⟩
  relation := .text "editor"
  subject := ⟨.text "team", .text "core", .text "member"⟩

/-- Two relationships in different forms are both sent. -/
theorem mixedForms_sent :
    List.Forall₂ Relationship.Gives [aliceViews, membersEdit]
        [aliceViews.toRecord, membersEdit.toValue] ∧
      ∃ w r, (createdHttpTarget.writeRelationships
          (.list [aliceViews.toRecord, membersEdit.toValue]) (.text "v1")
          [.response 200 [], .response 200 []]).ending = .returned w ∧ w.count = 2 ∧
        request localConnection (.writeRelationships (.text "acme")
          (.list [aliceViews.toValue, membersEdit.toValue]) (.text "v1")) = .ok r := by
  have hforms : List.Forall₂ Relationship.Gives [aliceViews, membersEdit]
      [aliceViews.toRecord, membersEdit.toValue] := .cons .record (.cons .wire .nil)
  obtain ⟨w, hw⟩ : ∃ w, (createdHttpTarget.writeRelationships
      (.list [aliceViews.toRecord, membersEdit.toValue]) (.text "v1")
      [.response 200 [], .response 200 []]).ending = .returned w := ⟨_, rfl⟩
  obtain ⟨hgives, hreturned⟩ := relationship_payloads_exact createdHttpTarget (.text "v1")
  obtain ⟨items, ws, js, jv, r, hitems, hws, -, -, hcount, -, hr, -⟩ := hreturned _ _ w hw
  cases hitems
  rw [(hgives _ _ hforms).2] at hws
  cases hws
  exact ⟨hforms, w, r, hw, hcount, hr⟩

end Rebac
