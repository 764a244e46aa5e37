import Rebac.Proofs.Compensation
import Rebac.Proofs.TenantStore
import Rebac.Proofs.WriteLog

set_option autoImplicit false

/-!
# What HTTP answers mean to a write

Only an answer of success has a result, and an answer of success to a creation has one if its body
can be read (`exists_creation_iff_accepts`). No answer makes a client report a rollback, unless the
transport itself raises such a report (`raised_of_reply_error`). If a client refuses to make the
request of a creation with words as if the tenant existed, it cannot make the requests that write to
the tenant either (`not_writable_of_refused`).
-/

namespace Rebac

/-- A target whose client, if it obtains one, is the HTTP client of a connection. -/
structure HttpTarget extends Target Http.Request Http.Answer where
  connection : Http.Connection
  isClient : ∀ c, source.Gives c → c = Http.client connection

namespace Http

variable {α : Type} {conn : Connection} {call : Call α}

/-! ## Results -/

/-- Only an answer of success has a result. -/
theorem accepts_of_reply_ok {a : Answer} {v : α} (h : (reply conn call a).2 = .ok v) :
    a.Accepts := by
  cases a with
  | unreachable m => cases h
  | raised f => cases h
  | response status bytes =>
      by_cases hs : isSuccess status = true
      · exact hs
      · simp only [reply, receive, if_neg hs] at h
        cases hb : bodyFailure? bytes with
        | some f => simp [hb, throw, throwThe, MonadExceptOf.throw, Except.bind] at h
        | none => simp [hb, throw, throwThe, MonadExceptOf.throw, Except.bind] at h

/-- The result of an answer of success is that of its body. -/
theorem reply_of_success {status : Nat} {bytes : List UInt8} (h : isSuccess status = true) :
    (reply conn call (.response status bytes)).2 = (readResult bytes).bind (readReply call) := by
  simp only [reply, receive, if_pos h]

/-- An answer whose body can be read if it is one of success. -/
def Answer.IsReadable (a : Answer) : Prop :=
  ∀ status bytes, a = .response status bytes → isSuccess status = true →
    ∃ v, readResult bytes = .ok v

/-- A readable answer to a creation is one of success exactly if it has a result. -/
theorem exists_creation_iff_accepts {tenant : Value} {a : Answer} (ha : a.IsReadable) :
    (∃ v, (reply conn (.createTenant tenant tenant) a).2 = .ok v) ↔ a.Accepts := by
  constructor
  · rintro ⟨v, hv⟩
    exact accepts_of_reply_ok hv
  · intro hs
    cases a with
    | unreachable m => exact hs.elim
    | raised f => exact hs.elim
    | response status bytes =>
        have hstatus : isSuccess status = true := hs
        obtain ⟨v, hv⟩ := ha status bytes rfl hstatus
        rw [reply_of_success hstatus, hv]
        exact ⟨_, rfl⟩

/-! ## Requests of a resolution -/

/-- The requests of a resolution have no fields but those of creations and of pages. -/
theorem field?_of_resolving {tenant : Value} {r : Request} {name : String}
    (hr : request conn (.createTenant tenant tenant) = .ok r ∨
      ∃ token, request conn (.listTenants defaultPageSize token) = .ok r)
    (hname : name ∉ ["id", "name", "page_size", "continuous_token"]) :
    r.body.bind (·.field? name) = none := by
  rcases hr with hcreation | ⟨token, hpage⟩
  · exact field?_of_request hcreation rfl fun hmem => hname (by simp_all)
  · exact field?_of_request hpage rfl fun hmem => hname (by simp_all)

/-! ## Failures -/

theorem eq_noSegment_of_path_error {f : Failure} (h : path call = .error f) : f = .noSegment := by
  have htenant : ∀ tenant rest, tenantPath tenant rest = .error f → f = .noSegment := by
    intro tenant rest h
    have hsegment := eq_error_of_bind_pure h
    cases tenant with
    | text s => cases hsegment
    | _ =>
        cases hsegment
        rfl
  cases call with
  | listTenants size token => cases h
  | createTenant tenant name => cases h
  | deleteTenant tenant => exact htenant _ _ h
  | writeSchema tenant schema => exact htenant _ _ h
  | writeRelationships tenant tuples version => exact htenant _ _ h
  | deleteRelationships tenant filter => exact htenant _ _ h
  | checkPermission tenant check => exact htenant _ _ h

theorem exists_encode_of_body_error {f : Failure} (h : body call = .error f) :
    ∃ v g, payload call = some v ∧ v.toJson = .error g ∧ f = .encode g := by
  cases hv : payload call with
  | none =>
      rw [body, hv] at h
      cases h
  | some v =>
      rw [body, hv] at h
      obtain ⟨g, hg, rfl⟩ := exists_of_mapError_eq_error (eq_error_of_bind_pure h)
      exact ⟨v, g, rfl, hg, rfl⟩

/-- The failures of making a request. -/
inductive OfRequest : Failure → Prop
  | noSegment : OfRequest .noSegment
  | address (g : AddressFault) : OfRequest (addressFailure g)
  | encode (g : EncodeFault) : OfRequest (.encode g)

/-- The failures of reading a response. -/
inductive OfResponse : Failure → Prop
  | undecodable (g : Text.DecodeFault) : OfResponse (.undecodable g)
  | unreadable (g : Json.ReadFault) (document : List Char) : OfResponse (.unreadable g document)
  | rejected (message : String) (status code : Value) : OfResponse (.rejected message status code)
  | access (g : AccessFault) : OfResponse (.access g)

/-- A request that cannot be made fails at its path, its address or its body. -/
theorem ofRequest_of_request {f : Failure} (h : request conn call = .error f) : OfRequest f := by
  rcases request_error_cases h with hpath | ⟨p, g, -, -, rfl⟩ | hbody
  · rw [eq_noSegment_of_path_error hpath]
    exact .noSegment
  · exact .address g
  · obtain ⟨v, g, -, -, rfl⟩ := exists_encode_of_body_error hbody
    exact .encode g

theorem ofResponse_of_readBody {bytes : List UInt8} {f : Failure}
    (h : readBody bytes = .error f) : OfResponse f := by
  unfold readBody at h
  split at h
  · cases h
    exact .undecodable _
  · split at h
    · cases h
      exact .unreadable _ _
    · cases h

theorem ofResponse_of_receive {endpoint p : String} {m : Method} {status : Nat}
    {bytes : List UInt8} {f : Failure}
    (h : (receive endpoint m p (.response status bytes)).2 = .error f) : OfResponse f := by
  rw [receive] at h
  split at h
  · -- A success is read as data, and whatever is wrong with it is a fault of the body.
    change readResult bytes = .error f at h
    rw [readResult] at h
    split at h
    · cases h
    · exact ofResponse_of_readBody h
  · split at h
    · rename_i g hg
      rw [bodyFailure?] at hg
      split at hg
      · cases hg
        cases h
        exact .unreadable _ _
      · cases hg
    · cases h
      exact .rejected _ _ _

/-- The data of an answer that means nothing to a call is of the wrong shape. -/
theorem exists_access_of_readReply {v : Value} {f : Failure} (h : readReply call v = .error f) :
    ∃ g, f = .access g := by
  have haccess : ∀ x : Except AccessFault α, x.mapError Failure.access = .error f →
      ∃ g, f = .access g := by
    intro x hx
    obtain ⟨g, -, rfl⟩ := exists_of_mapError_eq_error hx
    exact ⟨g, rfl⟩
  cases call with
  | listTenants size token => exact haccess _ h
  | createTenant tenant name => cases h
  | deleteTenant tenant => cases h
  | writeSchema tenant schema => exact haccess _ h
  | writeRelationships tenant tuples version => exact haccess _ h
  | deleteRelationships tenant filter => exact haccess _ h
  | checkPermission tenant check => cases h

theorem ofResponse_of_readReply {v : Value} {f : Failure} (h : readReply call v = .error f) :
    OfResponse f := by
  obtain ⟨g, rfl⟩ := exists_access_of_readReply h
  exact .access g

/-- **How a call fails on an answer.** The server is not reached, the transport raises the failure,
or the response cannot be read as a result. -/
theorem reply_error_cases {a : Answer} {f : Failure} (h : (reply conn call a).2 = .error f) :
    (∃ m address, f = .connection m address) ∨ a = .raised f ∨ OfResponse f := by
  cases a with
  | unreachable m =>
      cases h
      exact Or.inl ⟨_, _, rfl⟩
  | raised g =>
      cases h
      exact Or.inr (Or.inl rfl)
  | response status bytes =>
      have hbind : (receive conn.endpoint (method call) ((path call).toOption.getD "")
          (.response status bytes)).2 >>= readReply call = .error f := h
      rcases error_or_ok_of_bind_eq_error hbind with hreceive | ⟨v, -, hreply⟩
      · exact Or.inr (Or.inr (ofResponse_of_receive hreceive))
      · exact Or.inr (Or.inr (ofResponse_of_readReply hreply))

/-- A request that cannot be made is no report of a rollback. -/
theorem not_tellsRollback_of_request {f : Failure} (h : request conn call = .error f) :
    ¬ f.TellsRollback := by
  intro hf
  cases ofRequest_of_request h with
  | _ => exact hf

/-- **A client reports a rollback on an answer only if the transport does.** -/
theorem raised_of_reply_error {a : Answer} {f : Failure} (h : (reply conn call a).2 = .error f)
    (hf : f.TellsRollback) : a = .raised f := by
  rcases reply_error_cases h with ⟨m, address, rfl⟩ | hraised | hresponse
  · exact hf.elim
  · exact hraised
  · cases hresponse with
    | _ => exact hf.elim

/-! ## Calls that write -/

/-- The path of a call that writes begins with that of its tenant. -/
theorem exists_path_of_isWrite {tenant : Value} (hwrite : call.isWrite = true)
    (htenant : call.tenant? = some tenant) : ∃ rest, path call = tenantPath tenant rest := by
  cases call with
  | writeSchema t schema =>
      cases htenant
      exact ⟨_, rfl⟩
  | writeRelationships t tuples version =>
      cases htenant
      exact ⟨_, rfl⟩
  | deleteRelationships t filter =>
      cases htenant
      exact ⟨_, rfl⟩
  | listTenants size token => cases hwrite
  | createTenant t name => cases hwrite
  | deleteTenant t => cases hwrite
  | checkPermission t check => cases hwrite

/-- A call that writes and can be requested asks to write some data or to remove some. -/
theorem operation?_of_isWrite {r : Request} (hwrite : call.isWrite = true)
    (hr : request conn call = .ok r) :
    call.operation? = some .remove ∨ ∃ data, call.operation? = some (.write data) := by
  obtain ⟨p, a, b, -, -, hb, -⟩ := request_eq_ok_iff.1 hr
  cases call with
  | writeSchema t schema =>
      obtain ⟨j, hj, -⟩ := exists_of_bind_eq_ok hb
      obtain ⟨vs, -, _ | ⟨hschema, -⟩⟩ :=
        Value.exists_of_toJson_record (mapError_eq_ok_iff.1 hj)
      rw [Call.operation?, hschema]
      exact Or.inr ⟨_, rfl⟩
  | writeRelationships t tuples version =>
      obtain ⟨j, hj, -⟩ := exists_of_bind_eq_ok hb
      obtain ⟨vs, -, _ | ⟨-, _ | ⟨htuples, -⟩⟩⟩ :=
        Value.exists_of_toJson_record (mapError_eq_ok_iff.1 hj)
      rw [Call.operation?, htuples]
      exact Or.inr ⟨_, rfl⟩
  | deleteRelationships t filter => exact Or.inl rfl
  | listTenants size token => cases hwrite
  | createTenant t name => cases hwrite
  | deleteTenant t => cases hwrite
  | checkPermission t check => cases hwrite

/-- The request of a call that writes to a tenant asks for that. -/
theorem asks_of_isWrite {tenant : Value} {r : Request} (hwrite : call.isWrite = true)
    (htenant : call.tenant? = some tenant) (hr : request conn call = .ok r) :
    ∃ op, Asks conn tenant r op ∧ (op = .remove ∨ ∃ data, op = .write data) := by
  have habout : ∀ v, call.tenant? = some v → v = tenant := by
    intro v hv
    rw [htenant] at hv
    cases hv
    rfl
  rcases operation?_of_isWrite hwrite hr with hop | ⟨data, hop⟩
  · exact ⟨_, asks_of_request hr hop habout, Or.inl rfl⟩
  · exact ⟨_, asks_of_request hr hop habout, Or.inr ⟨data, rfl⟩⟩

/-- Something can be written to a tenant. -/
def Writable (conn : Connection) (tenant : Value) : Prop :=
  ∃ (α : Type) (call : Call α) (r : Request), call.isWrite = true ∧ call.tenant? = some tenant ∧
    request conn call = .ok r

/-- Only a tenant whose identifier is a text can be written to. -/
theorem Writable.exists_name {tenant : Value} (h : Writable conn tenant) :
    ∃ n, tenant = .text n := by
  obtain ⟨α, call, r, hwrite, htenant, hr⟩ := h
  obtain ⟨rest, hrest⟩ := exists_path_of_isWrite hwrite htenant
  obtain ⟨p, -, -, hp, -, -, -⟩ := request_eq_ok_iff.1 hr
  obtain ⟨part, hpart, -⟩ := exists_of_bind_eq_ok (hrest.symm.trans hp)
  cases tenant with
  | text n => exact ⟨n, rfl⟩
  | _ => cases hpart

/-- **If the refusal of a creation reads as if the tenant existed, nothing can be written to the
tenant.** Such words come from the host or from a tenant that is no text, and neither can be
addressed. -/
theorem not_writable_of_refused {tenant : Value} {f : Failure}
    (hrefused : request conn (.createTenant tenant tenant) = .error f)
    (hexists : f.isDuplicate = true) : ¬ Writable conn tenant := by
  intro hwritable
  obtain ⟨n, rfl⟩ := hwritable.exists_name
  obtain ⟨α, call, r, -, -, hr⟩ := hwritable
  rcases request_error_cases hrefused with hpath | ⟨p, g, -, hresolve, rfl⟩ | hbody
  · cases hpath
  · -- The host can be read, so it is the length of the address that is at fault.
    rcases Address.resolve_error_of_isReadable (isReadable_of_request hr) hresolve with
      rfl | rfl | rfl
    · exact absurd hexists (by decide)
    · exact absurd hexists (by decide)
    · exact absurd hexists (by decide)
  · obtain ⟨b, hb⟩ := exists_body_createTenant n
    rw [hb] at hbody
    cases hbody

/-! ## The effect of a call -/

/-- A call changes nothing before its answer, and then what it asks for. -/
theorem replay_asked {change : TenantStore → Operation → Answer → TenantStore → Prop}
    {tenant : Value} {s s' : TenantStore} {log : List (Request × Answer)} {ending : Ending α}
    (hcall : (client conn).Asked call log ending)
    (hlog : Replay (Takes conn tenant change) s log s') :
    (s' = s ∧ ((∃ f, request conn call = .error f ∧ ending = .failed f) ∨ ending = .waiting)) ∨
      ∃ r a, request conn call = .ok r ∧ log = [(r, a)] ∧
        ending = .ofExcept (reply conn call a).2 ∧ Takes conn tenant change s (r, a) s' := by
  cases hcall with
  | refused h => exact Or.inl ⟨Replay.nil_iff.1 hlog, Or.inl ⟨_, h, rfl⟩⟩
  | unanswered h => exact Or.inl ⟨Replay.nil_iff.1 hlog, Or.inr rfl⟩
  | answered h a => exact Or.inr ⟨_, a, h, rfl, rfl, Replay.singleton_iff.1 hlog⟩

end Http

end Rebac
