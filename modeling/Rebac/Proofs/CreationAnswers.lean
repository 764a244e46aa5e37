import Mathlib
import Rebac.Proofs.TenantPaths
import Rebac.Proofs.UnreadableBodies

set_option autoImplicit false

/-!
# What the answer to a creation means

Servers report a tenant that exists already by a status, by a code or in words, and any of these
counts. What an answer says is stated on its status and on the data in its body alone
(`Http.States`, `Http.SaysMessage`, `Http.SaysExists`), and so is how a tenant is resolved by it
(`Http.CreationOutcome`). Every answer whose body can be read resolves the tenant in that way, and
in no other (`Http.creation_classified`); the body of a rejection need not be JSON.

A rejection whose body is nested too deeply is an exception. It is not read as a rejection at all,
so a tenant that exists is not recognised (`Http.deep_conflict_not_existing`).
-/

namespace Rebac

/-- A value equals an integer exactly if that is the integer it denotes. -/
theorem Value.same_int_iff {v : Value} {i : Int} :
    v.same (.int i) = true ↔ v.integer? = some i := by
  cases v with
  | int j => simp [Value.same, Value.integer?]
  | bool b => simp [Value.same, Value.integer?]
  | float x => cases h : x.toInt? <;> simp [Value.same, Value.integer?, h]
  | _ => simp [Value.same, Value.integer?]

namespace Http

variable {conn : Connection} {tenant : Value} {status : Nat} {bytes : List UInt8}

/-! ## What an answer says -/

/-- The body of an answer is an object in which a field has a value. -/
def States (bytes : List UInt8) (name : String) (j : Json) : Prop :=
  ∃ document fields, Json.decodeBytes bytes = .ok document ∧
    Json.read document = .ok (.object fields) ∧ (Json.object fields).field? name = some j

/-- The message of a rejection: what the object in its body states, else the text of the body, else
the status. A message that is empty or otherwise counts as nothing is not stated. -/
inductive SaysMessage (status : Nat) (bytes : List UInt8) : String → Prop
  | stated {j : Json} (hstates : States bytes "message" j)
      (htruthy : (Value.ofJson j).truthy = true) : SaysMessage status bytes (Value.ofJson j).display
  | body (hnone : ∀ j, States bytes "message" j → (Value.ofJson j).truthy = false)
      (hne : Text.Utf8.decodeLossy bytes ≠ []) :
      SaysMessage status bytes (String.ofList (Text.Utf8.decodeLossy bytes))
  | status (hnone : ∀ j, States bytes "message" j → (Value.ofJson j).truthy = false)
      (hempty : Text.Utf8.decodeLossy bytes = []) :
      SaysMessage status bytes ("HTTP " ++ toString status)

/-- The code of a rejection: what the object in its body states, else none. -/
inductive HasCode (bytes : List UInt8) : Value → Prop
  | stated {j : Json} (hstates : States bytes "code" j) : HasCode bytes (.ofJson j)
  | none (hnone : ∀ j, ¬ States bytes "code" j) : HasCode bytes .none

/-- A rejection says that the tenant exists already. -/
inductive SaysExists (status : Nat) (bytes : List UInt8) : Prop
  | status (hstatus : status = 409)
  | code {j : Json} (hstates : States bytes "code" j) (hcode : (Value.ofJson j).integer? = some 6)
  | words {message word : String} (hmessage : SaysMessage status bytes message)
      (hword : word = "already exists" ∨ word = "ERROR_CODE_UNIQUE_CONSTRAINT")
      (hoccurs : word.toList <:+: message.toList)

/-- How a tenant is resolved by the answer to its creation. -/
inductive CreationOutcome (status : Nat) (bytes : List UInt8) : Ending TenantResolution → Prop
  | created (hstatus : isSuccess status = true) (hbody : bytes = [] ∨ IsJson bytes) :
      CreationOutcome status bytes (.returned .created)
  | existing (hstatus : isSuccess status = false) (hexists : SaysExists status bytes) :
      CreationOutcome status bytes (.returned .existing)
  | rejected {message : String} {code : Value} (hstatus : isSuccess status = false)
      (hnot : ¬ SaysExists status bytes) (hmessage : SaysMessage status bytes message)
      (hcode : HasCode bytes code) :
      CreationOutcome status bytes (.failed (.rejected message (.int status) code))

/-- The body of an answer can be read as the answer needs it: that of a success has to be JSON, and
that of a rejection must only not be nested too deeply. -/
def IsReadableCreation (status : Nat) (bytes : List UInt8) : Prop :=
  if isSuccess status then bytes = [] ∨ IsJson bytes else ¬ IsTooDeep bytes

/-! ## How a rejection is read -/

/-- The value of a field of the object in the body of a rejection. -/
def readField (bytes : List UInt8) (name : String) : Option Value :=
  (errorFields bytes).bind fun es => Entries.get? es (.text name)

/-- What is read is what the body states. -/
theorem readField_eq_some_iff {name : String} {v : Value} :
    readField bytes name = some v ↔ ∃ j, States bytes name j ∧ .ofJson j = v := by
  constructor
  · intro h
    obtain ⟨es, hes, hv⟩ := Option.bind_eq_some_iff.1 h
    cases hbody : readBody bytes with
    | error f => simp [errorFields, hbody] at hes
    | ok data =>
        obtain ⟨document, j, hdocument, hread, rfl⟩ := readBody_eq_ok_iff.1 hbody
        cases j with
        | object fields =>
            obtain rfl : Value.ofJsonFields fields = es := by
              simpa [errorFields, hbody, Value.ofJson] using hes
            rw [CheckResult.get?_ofJsonFields, Option.map_eq_some_iff] at hv
            obtain ⟨j, hfield, rfl⟩ := hv
            exact ⟨j, ⟨document, fields, hdocument, hread, hfield⟩, rfl⟩
        | _ => simp [errorFields, hbody, Value.ofJson] at hes
  · rintro ⟨j, ⟨document, fields, hdocument, hread, hfield⟩, rfl⟩
    have hbody : readBody bytes = .ok (.map (Value.ofJsonFields fields)) :=
      readBody_eq_ok_iff.2 ⟨document, _, hdocument, hread, rfl⟩
    rw [readField, errorFields, hbody, Option.bind_some, CheckResult.get?_ofJsonFields, hfield]
    rfl

theorem readField_eq_none_iff {name : String} :
    readField bytes name = none ↔ ∀ j, ¬ States bytes name j := by
  rw [Option.eq_none_iff_forall_ne_some]
  constructor
  · intro h j hj
    exact h _ (readField_eq_some_iff.2 ⟨j, hj, rfl⟩)
  · intro h v hv
    obtain ⟨j, hj, -⟩ := readField_eq_some_iff.1 hv
    exact h j hj

theorem errorMessage_eq (status : Nat) (bytes : List UInt8) :
    errorMessage status bytes = (((readField bytes "message").getD .none).orElse
      (.text (String.ofList (Text.Utf8.decodeLossy bytes)))).orElse
        (.text ("HTTP " ++ toString status)) := by
  rw [errorMessage, readField]
  cases errorFields bytes with
  | none => rfl
  | some es => rfl

theorem errorCode_eq (bytes : List UInt8) :
    errorCode bytes = (readField bytes "code").getD .none := by
  rw [errorCode, readField]
  cases errorFields bytes with
  | none => rfl
  | some es => rfl

theorem errorMessage_of_states {j : Json} (h : States bytes "message" j)
    (htruthy : (Value.ofJson j).truthy = true) : errorMessage status bytes = .ofJson j := by
  rw [errorMessage_eq, readField_eq_some_iff.2 ⟨j, h, rfl⟩, Option.getD_some, Value.orElse,
    Value.orElse, if_pos htruthy, if_pos htruthy]

/-- What a rejection says without a message in its body. -/
theorem display_errorMessage (h : ∀ j, States bytes "message" j → (Value.ofJson j).truthy = false) :
    (errorMessage status bytes).display =
      if Text.Utf8.decodeLossy bytes = [] then "HTTP " ++ toString status
      else String.ofList (Text.Utf8.decodeLossy bytes) := by
  have hnothing : ((readField bytes "message").getD .none).truthy = false := by
    cases hfield : readField bytes "message" with
    | none => rfl
    | some v =>
        obtain ⟨j, hj, rfl⟩ := readField_eq_some_iff.1 hfield
        exact h j hj
  rw [errorMessage_eq, Value.orElse.eq_def (Option.getD _ _), hnothing, if_neg Bool.false_ne_true]
  by_cases hempty : Text.Utf8.decodeLossy bytes = []
  · rw [if_pos hempty, hempty]
    exact Value.display_text _
  · rw [if_neg hempty, Value.orElse, if_pos (by simpa [Value.truthy] using hempty)]
    exact Value.display_text _

/-- **What a rejection says is what is read in it.** -/
theorem saysMessage_iff {message : String} :
    SaysMessage status bytes message ↔ (errorMessage status bytes).display = message := by
  constructor
  · intro h
    cases h with
    | stated hstates htruthy => rw [errorMessage_of_states hstates htruthy]
    | body hnone hne => rw [display_errorMessage hnone, if_neg hne]
    | status hnone hempty => rw [display_errorMessage hnone, if_pos hempty]
  · rintro rfl
    by_cases hstated : ∃ j, States bytes "message" j ∧ (Value.ofJson j).truthy = true
    · obtain ⟨j, hstates, htruthy⟩ := hstated
      rw [errorMessage_of_states hstates htruthy]
      exact .stated hstates htruthy
    · have hnone : ∀ j, States bytes "message" j → (Value.ofJson j).truthy = false :=
        fun j hj => Bool.eq_false_iff.2 fun htruthy => hstated ⟨j, hj, htruthy⟩
      rw [display_errorMessage hnone]
      split
      · next hempty => exact .status hnone hempty
      · next hne => exact .body hnone hne

theorem hasCode_iff {code : Value} : HasCode bytes code ↔ errorCode bytes = code := by
  rw [errorCode_eq]
  constructor
  · intro h
    cases h with
    | stated hstates => rw [readField_eq_some_iff.2 ⟨_, hstates, rfl⟩, Option.getD_some]
    | none hnone => rw [readField_eq_none_iff.2 hnone, Option.getD_none]
  · rintro rfl
    cases hfield : readField bytes "code" with
    | none => exact .none (readField_eq_none_iff.1 hfield)
    | some v =>
        obtain ⟨j, hj, rfl⟩ := readField_eq_some_iff.1 hfield
        exact .stated hj

/-- The failure of a rejection. -/
def rejection (status : Nat) (bytes : List UInt8) : Failure :=
  .rejected (errorMessage status bytes).display (.int status) (errorCode bytes)

/-- **A rejection that says that the tenant exists is read in that way.** -/
theorem saysExists_iff : SaysExists status bytes ↔ (rejection status bytes).isDuplicate = true := by
  have hread : (rejection status bytes).isDuplicate = true ↔
      ((errorCode bytes).same (.int 6) = true ∨ (Value.int status).same (.int 409) = true) ∨
        ("already exists".toList <:+: (errorMessage status bytes).display.toList ∨
          "ERROR_CODE_UNIQUE_CONSTRAINT".toList <:+:
            (errorMessage status bytes).display.toList) := by
    simp [rejection, Failure.isDuplicate, Failure.isMarkedDuplicate, Failure.duplicateWords,
      Failure.text, Text.occursIn_iff, Failure.duplicateCode, Failure.duplicateStatus]
  rw [hread, Value.same_int_iff, Value.same_int_iff]
  constructor
  · intro h
    cases h with
    | status hstatus =>
        refine Or.inl (Or.inr ?_)
        rw [hstatus]
        rfl
    | code hstates hcode =>
        rw [← hasCode_iff.1 (.stated hstates)] at hcode
        exact Or.inl (Or.inl hcode)
    | words hmessage hword hoccurs =>
        rw [← saysMessage_iff.1 hmessage] at hoccurs
        rcases hword with rfl | rfl
        · exact Or.inr (Or.inl hoccurs)
        · exact Or.inr (Or.inr hoccurs)
  · rintro ((hcode | hstatus) | hoccurs | hoccurs)
    · -- No code is no number, so the code is stated.
      generalize hread : errorCode bytes = code at hcode
      cases hasCode_iff.2 hread with
      | stated hstates => exact .code hstates hcode
      | none hnone => cases hcode
    · exact .status (Int.ofNat_inj.1 (Option.some.inj hstatus))
    · exact .words (saysMessage_iff.2 rfl) (Or.inl rfl) hoccurs
    · exact .words (saysMessage_iff.2 rfl) (Or.inr rfl) hoccurs

/-! ## Replies -/

theorem reply_of_bodyFailure {α : Type} {call : Call α} {f : Failure}
    (h : isSuccess status = false) (hf : bodyFailure? bytes = some f) :
    (reply conn call (.response status bytes)).2 = .error f := by
  simp only [reply, receive, h, hf]
  rfl

theorem reply_of_rejection {α : Type} {call : Call α} (h : isSuccess status = false)
    (hf : bodyFailure? bytes = none) :
    (reply conn call (.response status bytes)).2 = .error (rejection status bytes) := by
  simp only [reply, receive, h, hf]
  rfl

/-! ## Creations -/

/-- How a tenant is resolved by the answer to its creation, as the answer is read. -/
def resolvedBy (conn : Connection) (tenant : Value) (status : Nat) (bytes : List UInt8) :
    Ending TenantResolution :=
  (Ending.ofExcept (reply conn (.createTenant tenant tenant) (.response status bytes)).2).ofCreation

/-- An answer that can be read resolves the tenant as it says. -/
theorem creationOutcome_iff (h : IsReadableCreation status bytes)
    {ending : Ending TenantResolution} :
    CreationOutcome status bytes ending ↔ ending = resolvedBy conn tenant status bytes := by
  rw [IsReadableCreation] at h
  cases hstatus : isSuccess status with
  | true =>
      rw [if_pos hstatus] at h
      have hcreated : resolvedBy conn tenant status bytes = .returned .created := by
        obtain ⟨v, hv⟩ := exists_readResult_iff.2 h
        rw [resolvedBy, reply_of_success hstatus, hv]
        rfl
      rw [hcreated]
      constructor
      · intro houtcome
        cases houtcome with
        | created _ _ => rfl
        | existing hnot _ => exact absurd hstatus (Bool.eq_false_iff.1 hnot)
        | rejected hnot _ _ _ => exact absurd hstatus (Bool.eq_false_iff.1 hnot)
      · rintro rfl
        exact .created hstatus h
  | false =>
      rw [if_neg (Bool.eq_false_iff.1 hstatus)] at h
      -- Whether the rejection says that the tenant exists is all that is left to decide.
      have hread : resolvedBy conn tenant status bytes =
          if (rejection status bytes).isDuplicate then .returned .existing
          else .failed (rejection status bytes) := by
        rw [resolvedBy, reply_of_rejection hstatus (bodyFailure?_eq_none_iff.2 h)]
        rfl
      rw [hread]
      constructor
      · intro houtcome
        cases houtcome with
        | created hsuccess _ => exact absurd hsuccess (Bool.eq_false_iff.1 hstatus)
        | existing _ hexists => rw [if_pos (saysExists_iff.1 hexists)]
        | rejected _ hnot hmessage hcode =>
            rw [if_neg (mt saysExists_iff.2 hnot), rejection, saysMessage_iff.1 hmessage,
              hasCode_iff.1 hcode]
      · rintro rfl
        split
        · next hexists => exact .existing hstatus (saysExists_iff.2 hexists)
        · next hnot =>
          exact .rejected hstatus (mt saysExists_iff.1 hnot) (saysMessage_iff.2 rfl)
            (hasCode_iff.2 rfl)

/-- An answer that cannot be read fails with what is wrong with its body. -/
theorem exists_failure_of_not_readable (conn : Connection) (tenant : Value)
    (h : ¬ IsReadableCreation status bytes) : ∃ f, readBody bytes = .error f ∧
      (reply conn (.createTenant tenant tenant) (.response status bytes)).2 = .error f := by
  rw [IsReadableCreation] at h
  cases hstatus : isSuccess status with
  | true =>
      rw [if_pos hstatus, not_or, isJson_iff] at h
      obtain ⟨hne, hnot⟩ := h
      cases hbody : readBody bytes with
      | ok v => exact absurd ⟨v, hbody⟩ hnot
      | error f =>
          refine ⟨f, rfl, ?_⟩
          rw [reply_of_success hstatus, readResult, if_neg (by simpa using hne), hbody]
          rfl
  | false =>
      rw [if_neg (Bool.eq_false_iff.1 hstatus), not_not] at h
      obtain ⟨document, isObject, position, hread⟩ := h
      have hbody := readBody_eq_unreadable_iff.2 hread
      exact ⟨_, hbody, reply_of_bodyFailure hstatus
        (bodyFailure?_eq_some_iff.2 ⟨⟨document, isObject, position, hread⟩, hbody⟩)⟩

/-- Such a failure is not taken for a report that the tenant exists. -/
theorem resolvedBy_of_not_readable (conn : Connection) (tenant : Value)
    (h : ¬ IsReadableCreation status bytes) :
    ∃ f, readBody bytes = .error f ∧ resolvedBy conn tenant status bytes = .failed f := by
  -- The failure goes through the test for duplicates, which looks at its words.
  obtain ⟨f, hf, hreply⟩ := exists_failure_of_not_readable conn tenant h
  refine ⟨f, hf, ?_⟩
  rw [resolvedBy, hreply, Ending.ofExcept, Ending.ofCreation, isDuplicate_of_readBody hf,
    Bool.and_false]
  rfl

/-- **What the answer to a creation means.** If its body can be read, the tenant is resolved as the
answer says, and in no other way. If not, the creation fails with what is wrong with the body. -/
theorem creation_classified {r : Request} (hr : request conn (.createTenant tenant tenant) = .ok r)
    (status : Nat) (bytes : List UInt8) (rest : List Answer) :
    let run := (client conn).resolveTenant tenant true (.response status bytes :: rest)
    run.requests = [r] ∧
      (IsReadableCreation status bytes →
        ∀ ending, CreationOutcome status bytes ending ↔ ending = run.ending) ∧
      (¬ IsReadableCreation status bytes → ∃ f, readBody bytes = .error f ∧
        run.ending = .failed f ∧ ¬ CreationOutcome status bytes run.ending) ∧
      ∀ resolution, run.ending = .returned resolution →
        resolution.alreadyExisted = !resolution.isCreated := by
  have hask := runs_ask_of_request hr (.response status bytes) rest
  have hrun := (client conn).runs_resolveTenant_create tenant (.response status bytes :: rest)
  rw [hask.ending_eq, Client.sent_of_ok (c := client conn) hr] at hrun
  refine ⟨hrun.requests_eq, fun hreadable ending => ?_, fun hnot => ?_,
    fun resolution _ => resolution.alreadyExisted_eq_not_isCreated⟩
  · rw [hrun.ending_eq]
    exact creationOutcome_iff hreadable
  · obtain ⟨f, hf, hfailed⟩ := resolvedBy_of_not_readable conn tenant hnot
    have hending := hrun.ending_eq.trans hfailed
    refine ⟨f, hf, hending, fun houtcome => ?_⟩
    rw [hending] at houtcome
    -- The only failure among the outcomes is a rejection.
    cases houtcome with
    | rejected _ _ _ _ => exact readBody_ne_rejected hf

/-- The body of an answer that has the code for a duplicate. -/
def codeBody : List UInt8 := Text.Utf8.encode "\x7b\"code\": 6\x7d".toList

theorem codeBody_states : States codeBody "code" (.int 6) :=
  ⟨"\x7b\"code\": 6\x7d".toList, [("code", .int 6)], by cbv, by cbv, by rfl⟩

theorem read_nil : Json.read [] = .error ⟨.value, 0⟩ := by rfl

theorem not_states_nil (name : String) (j : Json) : ¬ States [] name j := by
  rintro ⟨document, fields, hdocument, hread, -⟩
  cases hdocument
  rw [read_nil] at hread
  cases hread

/-- The tenant is created, it is there already, or the server is out of order. -/
theorem acme_creations_classified :
    ∃ r, request localServer (.createTenant (.text "acme") (.text "acme")) = .ok r ∧
      ((client localServer).resolveTenant (.text "acme") true [.response 200 []]).ending =
        .returned .created ∧
      ((client localServer).resolveTenant (.text "acme") true [.response 500 codeBody]).ending =
        .returned .existing ∧
      ((client localServer).resolveTenant (.text "acme") true [.response 503 []]).ending =
        .failed (.rejected "HTTP 503" (.int 503) .none) := by
  obtain ⟨r, hr⟩ : ∃ r, request localServer
      (.createTenant (.text "acme") (.text "acme")) = .ok r := ⟨_, by rfl⟩
  obtain ⟨-, hcreated, -⟩ := creation_classified hr 200 [] []
  obtain ⟨-, hexisting, -⟩ := creation_classified hr 500 codeBody []
  obtain ⟨-, hrejected, -⟩ := creation_classified hr 503 [] []
  refine ⟨r, hr, ?_, ?_, ?_⟩
  · exact ((hcreated (Or.inl rfl) _).1 (.created rfl (Or.inl rfl))).symm
  · have hreadable : IsReadableCreation 500 codeBody := by
      rintro ⟨document, isObject, position, hdocument, hread⟩
      obtain ⟨document', fields, hdocument', hread', -⟩ := codeBody_states
      rw [hdocument'] at hdocument
      cases hdocument
      rw [hread'] at hread
      cases hread
    exact ((hexisting hreadable _).1 (.existing rfl (.code codeBody_states rfl))).symm
  · have hreadable : IsReadableCreation 503 [] := by
      rintro ⟨document, isObject, position, hdocument, hread⟩
      cases hdocument
      rw [read_nil] at hread
      cases hread
    have hnot : ¬ SaysExists 503 [] := by
      rw [saysExists_iff]
      decide
    exact ((hrejected hreadable _).1 (.rejected rfl hnot
      (.status (fun j hj => absurd hj (not_states_nil _ j)) rfl)
      (.none (not_states_nil _)))).symm

/-- A body of brackets that open arrays one within the other. -/
def bracketsBody : List UInt8 := List.replicate 100000 0x5B

/-- **A rejection is not recognised if its body is nested too deeply.** The status says that the
tenant exists, but the resolution fails. -/
theorem deep_conflict_not_existing :
    ∃ r f, request localServer (.createTenant (.text "acme") (.text "acme")) = .ok r ∧
      SaysExists 409 bracketsBody ∧
      ((client localServer).resolveTenant (.text "acme") true [.response 409 bracketsBody]).ending =
        .failed f ∧
      f.kind = "RecursionError" := by
  obtain ⟨r, hr⟩ : ∃ r, request localServer
      (.createTenant (.text "acme") (.text "acme")) = .ok r := ⟨_, by rfl⟩
  have hread : readBody bracketsBody =
      .error (.unreadable ⟨.tooDeep false, Json.maxDepth⟩ (List.replicate 100000 '[')) :=
    readBody_brackets (by decide)
  have hnot : ¬ IsReadableCreation 409 bracketsBody :=
    not_not.2 ⟨_, false, Json.maxDepth, readBody_eq_unreadable_iff.1 hread⟩
  obtain ⟨f, hf, hfailed⟩ := resolvedBy_of_not_readable localServer (.text "acme") hnot
  have hrun := (client localServer).runs_resolveTenant_create (.text "acme")
    [.response 409 bracketsBody]
  have hask := runs_ask_of_request hr (.response 409 bracketsBody) []
  rw [hask.ending_eq] at hrun
  refine ⟨r, f, hr, .status rfl, hrun.ending_eq.trans hfailed, ?_⟩
  rw [hread] at hf
  cases hf
  rfl

end Http

end Rebac
