import Rebac.Proofs.Computations
import Rebac.Proofs.WriteCourse
import Rebac.Write.Operations

set_option autoImplicit false

/-!
# Writes from a source, and the kinds of writes

A write is rejected before anything is sent, or it obtains a client and takes one of the courses of
a write with it (`course_execute`). A schema, relationships and a deletion of relationships are
written by one call each: once its payload is made, a write of each kind runs as the workflow around
that call (`runs_run_of_call`), and otherwise nothing happens at all.
-/

namespace Rebac

open Write

/-! ## Sources -/

namespace Source

variable {Req Ans α : Type}

/-- A source gives this client. -/
def Gives (s : Source Req Ans) (c : Client Req Ans) : Prop :=
  match s with
  | .established client => client = c
  | .settings connect endpoint options =>
      connect (ConnectionSettings.effective endpoint options) = .ok c

/-- The settings of a source are refused with this failure. -/
def Refuses (s : Source Req Ans) (f : Failure) : Prop :=
  match s with
  | .established _ => False
  | .settings connect endpoint options =>
      connect (ConnectionSettings.effective endpoint options) = .error f

theorem gives_or_refuses (s : Source Req Ans) : (∃ c, s.Gives c) ∨ ∃ f, s.Refuses f := by
  cases s with
  | established client => exact Or.inl ⟨client, rfl⟩
  | settings connect endpoint options =>
      cases h : connect (ConnectionSettings.effective endpoint options) with
      | ok c => exact Or.inl ⟨c, h⟩
      | error f => exact Or.inr ⟨f, h⟩

theorem not_gives_of_refuses (s : Source Req Ans) {f : Failure} (hf : s.Refuses f)
    (c : Client Req Ans) : ¬ s.Gives c := by
  intro hc
  cases s with
  | established client => exact hf
  | settings connect endpoint options =>
      have hboth : Except.error f = .ok c := hf.symm.trans hc
      cases hboth

/-- Whoever the client belongs to, a dialogue runs as it does with that client. -/
theorem runs_use {s : Source Req Ans} {c : Client Req Ans} (hc : s.Gives c)
    {d : Client Req Ans → Dialogue Req Ans α} {answers rest : List Ans} {requests : List Req}
    {ending : Ending α} (h : Runs (d c) answers requests ending rest) :
    Runs (s.use d) answers requests ending rest := by
  cases s with
  | established client =>
      cases hc
      exact h
  | settings connect endpoint options =>
      have hconnect : connect (ConnectionSettings.effective endpoint options) = .ok c := hc
      simp only [use, hconnect]
      exact h.closing

theorem use_of_refuses {s : Source Req Ans} {f : Failure} (hf : s.Refuses f)
    (d : Client Req Ans → Dialogue Req Ans α) : s.use d = Dialogue.fail f := by
  cases s with
  | established client => exact hf.elim
  | settings connect endpoint options =>
      have hconnect : connect (ConnectionSettings.effective endpoint options) = .error f := hf
      simp only [use, hconnect]

end Source

/-! ## Writes to a target -/

namespace Target

variable {Req Ans α : Type}

/-- A target is rejected with this failure: by its parameters, or by the settings of its client. -/
def Rejects (t : Target Req Ans) (f : Failure) : Prop :=
  (∃ p, t.check = .error p ∧ f = .parameter p) ∨ (t.check = .ok () ∧ t.source.Refuses f)

/-- A write that passes its checks and obtains a client is a run through the workflow. -/
theorem runs_execute {t : Target Req Ans} {c : Client Req Ans} (hcheck : t.check = .ok ())
    (hc : t.source.Gives c) (operation : WriteOperation Req Ans α) (answers : List Ans) :
    Runs (t.execute operation) answers (runWith c t.tenant t.create operation answers).requests
      (runWith c t.tenant t.create operation answers).ending
      (runWith c t.tenant t.create operation answers).rest := by
  rw [execute, hcheck]
  exact Source.runs_use hc (Runs.self _ _)

/-- A write that passes its checks and obtains a client runs as its course says. -/
theorem runs_execute_of_course {t : Target Req Ans} {c : Client Req Ans}
    {operation : WriteOperation Req Ans α} {answers : List Ans} {requests : List Req}
    {ending : Ending (Written α)} (hcheck : t.check = .ok ()) (hc : t.source.Gives c)
    (h : WriteCourse c t.tenant t.create operation answers requests ending) :
    ∃ rest, Runs (t.execute operation) answers requests ending rest := by
  have hrun := runs_execute hcheck hc operation answers
  obtain ⟨rest, hcourse⟩ := h.runs
  refine ⟨rest, ?_⟩
  rw [← hcourse.requests_eq, ← hcourse.ending_eq, ← hcourse.rest_eq]
  exact hrun

/-- **A write that passes its checks and obtains a client takes one of the courses of a write.** -/
theorem course_execute {t : Target Req Ans} {c : Client Req Ans} (hcheck : t.check = .ok ())
    (hc : t.source.Gives c) (operation : WriteOperation Req Ans α) (answers : List Ans) :
    WriteCourse c t.tenant t.create operation answers
      (t.execute operation answers).requests (t.execute operation answers).ending := by
  have hrun := runs_execute hcheck hc operation answers
  rw [hrun.requests_eq, hrun.ending_eq]
  exact WriteCourse.of_runWith _ _ _ _ _

theorem execute_of_rejects {t : Target Req Ans} {f : Failure} (hf : t.Rejects f)
    (operation : WriteOperation Req Ans α) : t.execute operation = Dialogue.fail f := by
  rcases hf with ⟨p, hcheck, rfl⟩ | ⟨hcheck, hf⟩
  · rw [execute, hcheck]
  · rw [execute, hcheck]
    exact Source.use_of_refuses hf _

/-- A target is rejected, or it passes its checks and obtains a client. -/
theorem rejects_or_gives (t : Target Req Ans) :
    (∃ f, t.Rejects f) ∨ (t.check = .ok () ∧ ∃ c, t.source.Gives c) := by
  cases hcheck : t.check with
  | error p => exact Or.inl ⟨.parameter p, Or.inl ⟨p, hcheck, rfl⟩⟩
  | ok u =>
      rcases t.source.gives_or_refuses with hc | ⟨f, hf⟩
      · exact Or.inr ⟨rfl, hc⟩
      · exact Or.inl ⟨f, Or.inr ⟨hcheck, hf⟩⟩

/-- **A write that returns has passed its checks and obtained a client**, and it has taken the
course in which its operation returns. -/
theorem exists_course_of_returned {t : Target Req Ans} {operation : WriteOperation Req Ans α}
    {answers : List Ans} {outcome : Written α}
    (h : (t.execute operation answers).ending = .returned outcome) :
    ∃ c, t.source.Gives c ∧ WriteCourse c t.tenant t.create operation answers
      (t.execute operation answers).requests (.returned outcome) := by
  rcases t.rejects_or_gives with ⟨f, hf⟩ | ⟨hcheck, c, hc⟩
  · rw [execute_of_rejects hf] at h
    cases h
  · have hcourse := course_execute hcheck hc operation answers
    rw [h] at hcourse
    exact ⟨c, hc, hcourse⟩

/-! What is done with a payload. -/

section Payload

variable {β : Type} {t : Target Req Ans} {payload : Except Failure β}
variable {k : β → Dialogue Req Ans α}

theorem executeWith_of_check_error {p : ParameterFault} (hcheck : t.check = .error p) :
    t.executeWith payload k = Dialogue.fail (.parameter p) := by
  unfold executeWith
  rw [hcheck]

theorem executeWith_of_payload_error {f : Failure} (hcheck : t.check = .ok ())
    (hpayload : payload = .error f) : t.executeWith payload k = Dialogue.fail f := by
  unfold executeWith
  rw [hcheck, hpayload]

theorem executeWith_of_payload {b : β} (hcheck : t.check = .ok ()) (hpayload : payload = .ok b) :
    t.executeWith payload k = k b := by
  unfold executeWith
  rw [hcheck, hpayload]

end Payload

end Target

/-! ## Kinds of writes -/

/-- The operation that makes one call for its tenant. -/
def WriteOperation.asking {Req Ans α : Type} (call : Value → Call α) : WriteOperation Req Ans α :=
  fun c tenant => c.ask (call tenant)

/-- The writes of one call, with what they write. -/
inductive WriteKind
  | schema (source : Value)
  | relationships (tuples schemaVersion : Value)
  | deletion (filter : Value)

namespace WriteKind

variable {Req Ans : Type}

/-- A write of a kind to a target, without its result. -/
def run (t : Target Req Ans) : WriteKind → Dialogue Req Ans Unit
  | .schema source => do
      let _ ← t.writeSchema source
      return ()
  | .relationships tuples schemaVersion => do
      let _ ← t.writeRelationships tuples schemaVersion
      return ()
  | .deletion filter => do
      let _ ← t.deleteRelationships filter
      return ()

/-- The call of a write for a tenant, unless the payload cannot be made. -/
def call : WriteKind → Except Failure (Value → Call Value)
  | .schema source => do
      let text ← (Schema.sourceText source).mapError Failure.parameter
      return fun tenant => .writeSchema tenant (.text text)
  | .relationships tuples schemaVersion => do
      let payload ← Relationship.payload (← Relationship.required tuples)
      return fun tenant => .writeRelationships tenant payload schemaVersion
  | .deletion filter => do
      let wire ← Filter.required filter
      return fun tenant => .deleteRelationships tenant wire

/-- What the payload of a write is, by its kind. -/
theorem payload_of_call {k : WriteKind} {call : Value → Call Value} (h : k.call = .ok call) :
    (∃ source text, k = .schema source ∧
      (Schema.sourceText source).mapError Failure.parameter = .ok text ∧
      call = fun tenant => .writeSchema tenant (.text text)) ∨
    (∃ tuples version records payload, k = .relationships tuples version ∧
      Relationship.required tuples = .ok records ∧ Relationship.payload records = .ok payload ∧
      call = fun tenant => .writeRelationships tenant payload version) ∨
    (∃ filter wire, k = .deletion filter ∧ Filter.required filter = .ok wire ∧
      call = fun tenant => .deleteRelationships tenant wire) := by
  cases k with
  | schema source =>
      obtain ⟨text, htext, h⟩ := exists_of_bind_eq_ok h
      cases h
      exact Or.inl ⟨source, text, rfl, htext, rfl⟩
  | relationships tuples version =>
      obtain ⟨records, hrecords, h⟩ := exists_of_bind_eq_ok h
      obtain ⟨payload, hpayload, h⟩ := exists_of_bind_eq_ok h
      cases h
      exact Or.inr (Or.inl ⟨tuples, version, records, payload, rfl, hrecords, hpayload, rfl⟩)
  | deletion filter =>
      obtain ⟨wire, hwire, h⟩ := exists_of_bind_eq_ok h
      cases h
      exact Or.inr (Or.inr ⟨filter, wire, rfl, hwire, rfl⟩)

/-- The call of a write is about the tenant that it is made for. -/
theorem tenant?_of_call {k : WriteKind} {call : Value → Call Value} (h : k.call = .ok call)
    (tenant : Value) : (call tenant).tenant? = some tenant := by
  rcases payload_of_call h with ⟨_, _, -, -, rfl⟩ | ⟨_, _, _, _, -, -, -, rfl⟩ | ⟨_, _, -, -, rfl⟩
  · rfl
  · rfl
  · rfl

/-! ## Runs of a kind of write -/

theorem run_of_check_error {t : Target Req Ans} {p : ParameterFault} (hcheck : t.check = .error p)
    (k : WriteKind) : k.run t = Dialogue.fail (.parameter p) := by
  cases k with
  | schema source =>
      rw [run, Target.writeSchema, Target.executeWith_of_check_error hcheck]
      rfl
  | relationships tuples version =>
      rw [run, Target.writeRelationships, Target.executeWith_of_check_error hcheck]
      rfl
  | deletion filter =>
      rw [run, Target.deleteRelationships, Target.executeWith_of_check_error hcheck]
      rfl

/-- A write whose payload cannot be made does nothing at all. -/
theorem run_of_call_error {t : Target Req Ans} {k : WriteKind} {f : Failure}
    (hcheck : t.check = .ok ()) (hcall : k.call = .error f) : k.run t = Dialogue.fail f := by
  cases k with
  | schema source =>
      have hpayload : (Schema.sourceText source).mapError Failure.parameter = .error f :=
        eq_error_of_bind_pure hcall
      rw [run, Target.writeSchema, Target.executeWith_of_payload_error hcheck hpayload]
      rfl
  | relationships tuples version =>
      rw [run, Target.writeRelationships]
      cases hrecords : Relationship.required tuples with
      | error g =>
          rw [call, hrecords] at hcall
          cases hcall
          rw [Target.executeWith_of_payload_error hcheck rfl]
          rfl
      | ok records =>
          rw [call, hrecords] at hcall
          have hpayload : Relationship.payload records = .error f := eq_error_of_bind_pure hcall
          rw [Target.executeWith_of_payload hcheck rfl, Target.sendRelationships, hpayload]
          rfl
  | deletion filter =>
      have hpayload : Filter.required filter = .error f := eq_error_of_bind_pure hcall
      rw [run, Target.deleteRelationships, Target.executeWith_of_payload_error hcheck hpayload]
      rfl

/-- A write that sends anything has passed its checks and made its payload. -/
theorem exists_call_of_sent {t : Target Req Ans} {k : WriteKind} {answers : List Ans}
    (h : (k.run t answers).requests ≠ []) : t.check = .ok () ∧ ∃ call, k.call = .ok call := by
  cases hcheck : t.check with
  | error p =>
      rw [run_of_check_error hcheck] at h
      exact absurd rfl h
  | ok u =>
      cases hcall : k.call with
      | error f =>
          rw [run_of_call_error hcheck hcall] at h
          exact absurd rfl h
      | ok call => exact ⟨rfl, call, rfl⟩

/-- **A write of each kind runs as the workflow around its one call.** -/
theorem runs_run_of_call {t : Target Req Ans} {k : WriteKind} {call : Value → Call Value}
    (hcheck : t.check = .ok ()) (hcall : k.call = .ok call) (answers : List Ans) :
    Runs (k.run t) answers (t.execute (.asking call) answers).requests
      (t.execute (.asking call) answers).ending.void (t.execute (.asking call) answers).rest := by
  have hexecute := Runs.self (t.execute (.asking call)) answers
  rcases payload_of_call hcall with ⟨source, text, rfl, hpayload, rfl⟩ |
    ⟨tuples, version, records, payload, rfl, hrecords, hpayload, rfl⟩ |
    ⟨filter, wire, rfl, hpayload, rfl⟩
  · rw [run, Target.writeSchema, Target.executeWith_of_payload hcheck hpayload, bind_assoc]
    refine hexecute.bind_quiet fun outcome => ?_
    exact ((Runs.log _ _ _ _).bind (Runs.pure _ _)).bind (Runs.pure _ _)
  · rw [run, Target.writeRelationships, Target.executeWith_of_payload hcheck hrecords,
      Target.sendRelationships, hpayload, bind_assoc]
    refine (Runs.ofExcept_ok payload answers).bind ?_
    rw [bind_assoc]
    refine hexecute.bind_quiet fun outcome => ?_
    exact ((Runs.log _ _ _ _).bind (Runs.pure _ _)).bind (Runs.pure _ _)
  · rw [run, Target.deleteRelationships, Target.executeWith_of_payload hcheck hpayload, bind_assoc]
    refine hexecute.bind_quiet fun outcome => ?_
    exact ((Runs.log _ _ _ _).bind (Runs.pure _ _)).bind (Runs.pure _ _)

/-- A write to a rejected target sends nothing. Which failure it reports depends on whether its
payload is looked at first. -/
theorem exists_failure_of_rejects {t : Target Req Ans} {f : Failure} (hf : t.Rejects f)
    (k : WriteKind) (answers : List Ans) :
    ∃ g, (t.Rejects g ∨ k.call = .error g) ∧ Runs (k.run t) answers [] (.failed g) answers := by
  cases hcheck : t.check with
  | error p =>
      refine ⟨.parameter p, Or.inl (Or.inl ⟨p, hcheck, rfl⟩), ?_⟩
      rw [run_of_check_error hcheck]
      exact Runs.fail _ _
  | ok u =>
      cases hcall : k.call with
      | error g =>
          refine ⟨g, Or.inr rfl, ?_⟩
          rw [run_of_call_error hcheck hcall]
          exact Runs.fail _ _
      | ok call =>
          refine ⟨f, Or.inl hf, ?_⟩
          have hrun := runs_run_of_call hcheck hcall answers
          rw [Target.execute_of_rejects hf] at hrun
          exact hrun

end WriteKind

end Rebac
