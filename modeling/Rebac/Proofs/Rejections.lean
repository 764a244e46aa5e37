import Mathlib
import Rebac.Proofs.CreationAnswers

set_option autoImplicit false

/-!
# Rejected requests

An answer without a status of success is a rejection, whichever call it answers. A rejection is
reported with its status, the code in its body, and a message that says something
(`Http.ReportsRejection`). An answer of success is never reported in that way, and a server that
cannot be reached is reported with its endpoint (`Http.rejections_reported`).

The body of a rejection may be any data, or none. Only a body that is nested too deeply stops the
report: the call then fails with what is wrong with the body (`Http.deep_rejection_not_reported`).
-/

namespace Rebac

/-! ## Texts that say something -/

namespace Binary64

theorem decimalText_ne_nil (d : Decimal) : decimalText d ≠ [] := by
  simp only [decimalText]
  split_ifs <;> simp

theorem text_ne_empty (x : Binary64) : x.text ≠ "" := by
  cases x with
  | nan => decide
  | infinite negative => cases negative <;> decide
  | finite negative m e =>
      have hbody : (if m = 0 then ['0', '.', '0'] else decimalText (shortest m e)) ≠ [] := by
        split
        · simp
        · exact decimalText_ne_nil _
      rw [text]
      cases negative with
      | true => simp
      | false => simpa using hbody

end Binary64

theorem int_toString_ne_empty (i : Int) : toString i ≠ "" := by
  rw [Int.toString_eq_repr, Int.repr_eq_if]
  split
  · exact Nat.repr_ne_empty
  · simp

/-- Data that counts as present has a text. -/
theorem Value.display_ofJson_ne_empty {j : Json} (h : (Value.ofJson j).truthy = true) :
    (Value.ofJson j).display ≠ "" := by
  cases j with
  | null => cases h
  | bool b => cases b <;> decide
  | int i => exact int_toString_ne_empty i
  | float x => exact x.text_ne_empty
  | text s =>
      rw [ofJson, display_text]
      simpa [ofJson, truthy] using h
  | array items => simp [ofJson, display, quoted]
  | object fields => simp [ofJson, display, quoted]

namespace Http

variable {α : Type} {conn : Connection} {call : Call α} {status : Nat} {bytes : List UInt8}

theorem SaysMessage.ne_empty {message : String} (h : SaysMessage status bytes message) :
    message ≠ "" := by
  cases h with
  | stated hstates htruthy => exact Value.display_ofJson_ne_empty htruthy
  | body hnone hne => simpa using hne
  | status hnone hempty => simp

/-! ## Reports of rejections -/

/-- The failure that reports a rejection: it has a message that says something, the status, and the
code, all of them those of the answer. -/
inductive ReportsRejection (status : Nat) (bytes : List UInt8) : Failure → Prop
  | intro {message : String} {code : Value} (hmessage : SaysMessage status bytes message)
      (hne : message ≠ "") (hcode : HasCode bytes code) :
      ReportsRejection status bytes (.rejected message (.int status) code)

theorem reportsRejection_iff {f : Failure} :
    ReportsRejection status bytes f ↔ f = rejection status bytes := by
  constructor
  · rintro ⟨hmessage, -, hcode⟩
    rw [rejection, saysMessage_iff.1 hmessage, hasCode_iff.1 hcode]
  · rintro rfl
    have hmessage : SaysMessage status bytes (errorMessage status bytes).display :=
      saysMessage_iff.2 rfl
    exact .intro hmessage hmessage.ne_empty (hasCode_iff.2 rfl)

/-- It is of the class that is left to rejections. -/
theorem ReportsRejection.kind_eq {f : Failure} (h : ReportsRejection status bytes f) :
    f.kind = "PermifyApiError" := by
  cases h
  rfl

/-- A body that is nested too deeply cannot be read. -/
theorem IsTooDeep.exists_failure (h : IsTooDeep bytes) :
    ∃ f, readBody bytes = .error f ∧ bodyFailure? bytes = some f ∧ f.kind = "RecursionError" := by
  have hdeep := h
  obtain ⟨document, isObject, position, hread⟩ := h
  have hbody := readBody_eq_unreadable_iff.2 hread
  exact ⟨_, hbody, bodyFailure?_eq_some_iff.2 ⟨hdeep, hbody⟩, rfl⟩

/-- **A rejection is reported unless its body is nested too deeply.** -/
theorem reply_reports_iff (h : isSuccess status = false) :
    (∃ f, (reply conn call (.response status bytes)).2 = .error f ∧
      ReportsRejection status bytes f) ↔ ¬ IsTooDeep bytes := by
  constructor
  · rintro ⟨f, hf, hreports⟩ hdeep
    -- What such a body fails with is of another class.
    obtain ⟨g, -, hfailure, hkind⟩ := hdeep.exists_failure
    rw [reply_of_bodyFailure h hfailure] at hf
    cases hf
    exact absurd (hkind.symm.trans hreports.kind_eq) (by decide)
  · intro hdeep
    exact ⟨_, reply_of_rejection h (bodyFailure?_eq_none_iff.2 hdeep), reportsRejection_iff.2 rfl⟩

/-! ## Failures on answers of success -/

/-- Among the failures of reading a response, that class is left to rejections. -/
theorem OfResponse.kind_ne {f : Failure} (h : OfResponse f)
    (hne : ∀ message status code, f ≠ .rejected message status code) :
    f.kind ≠ "PermifyApiError" := by
  cases h with
  | undecodable g => simp [Failure.kind]
  | unreadable g document =>
      obtain ⟨reason, position⟩ := g
      cases reason <;> simp [Failure.kind]
  | rejected message status code => exact absurd rfl (hne message status code)
  | access g => cases g <;> simp [Failure.kind, AccessFault.className]

/-- **An answer of success is not reported as a rejection.** -/
theorem kind_of_success {f : Failure} (h : isSuccess status = true)
    (hf : (reply conn call (.response status bytes)).2 = .error f) :
    f.kind ≠ "PermifyApiError" := by
  rw [reply_of_success h] at hf
  rcases error_or_ok_of_bind_eq_error hf with hresult | ⟨v, -, hreply⟩
  · rw [readResult] at hresult
    split at hresult
    · cases hresult
    · refine (ofResponse_of_readBody hresult).kind_ne fun message status code hf => ?_
      rw [hf] at hresult
      exact readBody_ne_rejected hresult
  · obtain ⟨g, rfl⟩ := exists_access_of_readReply hreply
    refine (OfResponse.access g).kind_ne fun message status code hf => ?_
    cases hf

/-! ## Connections -/

/-- **What is reported about answers.** A rejection ends a call with the report of a rejection,
unless its body is nested too deeply, which is then what is reported. An answer of success is not
reported as a rejection. A server that cannot be reached is reported with its endpoint, which is the
one of the settings. -/
theorem rejections_reported {r : Request} (hr : request conn call = .ok r) (rest : List Answer) :
    (∀ status bytes, isSuccess status = false →
      let run := (client conn).ask call (.response status bytes :: rest)
      run.requests = [r] ∧
        ((∃ f, run.ending = .failed f ∧ ReportsRejection status bytes f) ↔ ¬ IsTooDeep bytes) ∧
        (IsTooDeep bytes → ∃ f, run.ending = .failed f ∧ readBody bytes = .error f ∧
          f.kind = "RecursionError")) ∧
    (∀ status bytes f, isSuccess status = true →
      ((client conn).ask call (.response status bytes :: rest)).ending = .failed f →
        f.kind ≠ "PermifyApiError") ∧
    (∀ message, ((client conn).ask call (.unreachable message :: rest)).ending =
      .failed (.connection ("Failed to reach Permify at " ++ conn.endpoint ++ ": " ++ message)
        (.text conn.endpoint))) ∧
    ∀ files o, connect files o = .ok conn → o.endpoint = some conn.endpoint := by
  have hending : ∀ a f, ((client conn).ask call (a :: rest)).ending = .failed f ↔
      (reply conn call a).2 = .error f := by
    intro a f
    rw [(runs_ask_of_request hr a rest).ending_eq]
    cases (reply conn call a).2 with
    | error g => simp [Ending.ofExcept]
    | ok v => simp [Ending.ofExcept]
  refine ⟨fun status bytes hstatus => ?_, fun status bytes f hstatus hf => ?_, fun message => ?_,
    fun files o hconn => endpoint_of_connect hconn⟩
  · refine ⟨(runs_ask_of_request hr _ rest).requests_eq, ?_, fun hdeep => ?_⟩
    · simp only [hending]
      exact reply_reports_iff hstatus
    · obtain ⟨f, hf, hfailure, hkind⟩ := hdeep.exists_failure
      exact ⟨f, (hending _ _).2 (reply_of_bodyFailure hstatus hfailure), hf, hkind⟩
  · exact kind_of_success hstatus ((hending _ _).1 hf)
  · exact (hending _ _).2 rfl

/-- The body of a rejection by a server that is behind another one: no JSON, and no text. -/
def gatewayBody : List UInt8 := [0x3C, 0xFF]

/-- The rejection of a deletion is reported with its status. -/
theorem gateway_rejection_reported :
    ∃ r, request localServer (.deleteTenant (.text "acme")) = .ok r ∧
      isSuccess 502 = false ∧ ¬ IsTooDeep gatewayBody ∧
      ((client localServer).ask (.deleteTenant (.text "acme")) [.response 502 gatewayBody]).ending =
        .failed (.rejected "<\uFFFD" (.int 502) .none) := by
  obtain ⟨r, hr⟩ : ∃ r, request localServer (.deleteTenant (.text "acme")) = .ok r := ⟨_, by rfl⟩
  have hreadable : ¬ IsTooDeep gatewayBody := bodyFailure?_eq_none_iff.1 (by rfl)
  obtain ⟨hrejected, -, -, -⟩ := rejections_reported hr []
  obtain ⟨f, hf, hreports⟩ := (hrejected 502 gatewayBody rfl).2.1.2 hreadable
  rw [reportsRejection_iff] at hreports
  refine ⟨r, hr, rfl, hreadable, ?_⟩
  rw [hf, hreports]
  rfl

/-- **A rejection is not reported if its body is nested too deeply.** -/
theorem deep_rejection_not_reported :
    ∃ r f, request localServer (.deleteTenant (.text "acme")) = .ok r ∧
      isSuccess 500 = false ∧
      ((client localServer).ask (.deleteTenant (.text "acme"))
        [.response 500 bracketsBody]).ending = .failed f ∧
      f.kind = "RecursionError" ∧ ¬ ReportsRejection 500 bracketsBody f := by
  obtain ⟨r, hr⟩ : ∃ r, request localServer (.deleteTenant (.text "acme")) = .ok r := ⟨_, by rfl⟩
  have hdeep : IsTooDeep bracketsBody :=
    ⟨_, false, Json.maxDepth, readBody_eq_unreadable_iff.1 (readBody_brackets (by decide))⟩
  obtain ⟨f, -, hfailure, hkind⟩ := hdeep.exists_failure
  refine ⟨r, f, hr, rfl, ?_, hkind, ?_⟩
  · rw [(runs_ask_of_request hr _ []).ending_eq, reply_of_bodyFailure rfl hfailure]
    rfl
  · intro hreports
    exact absurd (hkind.symm.trans hreports.kind_eq) (by decide)

end Http

end Rebac
