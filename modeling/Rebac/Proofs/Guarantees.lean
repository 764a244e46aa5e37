import Rebac.Proofs.Exchanges

set_option autoImplicit false

/-!
# Guarantees about how a dialogue ends

A dialogue guarantees failures of some kind and results of some kind if, on answers of some kind,
it fails and returns with nothing else and leaves answers of that kind. There is one rule for each
way to compose dialogues, and one for each operation of a client: what a client guarantees of its
calls, a whole write guarantees (`guarantees_execute`), provided that the kind of failures is closed
under what a write makes of them (`Failure.ClosedUnderWrites`).
-/

namespace Rebac

/-- An ending fails with such a failure or returns such a result, unless it waits. -/
def Ending.Meets {α : Type} (P : Failure → Prop) (R : α → Prop) : Ending α → Prop
  | .returned a => R a
  | .failed f => P f
  | .waiting => True

theorem Ending.Meets.void {α : Type} {P : Failure → Prop} {R : α → Prop} {e : Ending α}
    (h : e.Meets P R) : e.void.Meets P fun _ => True := by
  cases e with
  | returned a => exact trivial
  | failed f => exact h
  | waiting => exact trivial

namespace Dialogue

variable {Req Ans α β : Type} {Q : Ans → Prop} {P : Failure → Prop} {R : α → Prop} {S : β → Prop}
variable {d : Dialogue Req Ans α} {k : α → Dialogue Req Ans β}
variable {answers rest : List Ans} {requests : List Req}

/-- On these answers, all of one kind, a dialogue ends as it should and leaves answers of that
kind. -/
def GuaranteesOn (d : Dialogue Req Ans α) (Q : Ans → Prop) (P : Failure → Prop) (R : α → Prop)
    (answers : List Ans) : Prop :=
  (∀ a ∈ answers, Q a) → (d answers).ending.Meets P R ∧ ∀ a ∈ (d answers).rest, Q a

/-- On all answers of one kind, a dialogue ends as it should and leaves answers of that kind. -/
def Guarantees (d : Dialogue Req Ans α) (Q : Ans → Prop) (P : Failure → Prop) (R : α → Prop) :
    Prop :=
  ∀ answers, d.GuaranteesOn Q P R answers

/-- A guarantee is one about the run: this is how the rules for runs are used. -/
theorem GuaranteesOn.of_runs {ending : Ending α} (h : Runs d answers requests ending rest)
    (hend : (∀ a ∈ answers, Q a) → ending.Meets P R ∧ ∀ a ∈ rest, Q a) :
    d.GuaranteesOn Q P R answers := by
  obtain ⟨-, rfl, rfl⟩ := h
  exact hend

theorem guarantees_pure {a : α} (ha : R a) : (pure a : Dialogue Req Ans α).Guarantees Q P R :=
  fun answers => .of_runs (Runs.pure a answers) fun hQ => ⟨ha, hQ⟩

theorem guarantees_fail {f : Failure} (hf : P f) :
    (fail f : Dialogue Req Ans α).Guarantees Q P R :=
  fun answers => .of_runs (Runs.fail f answers) fun hQ => ⟨hf, hQ⟩

theorem guarantees_log (severity : Severity) (component : Component) (message : String) :
    (log severity component message : Dialogue Req Ans Unit).Guarantees Q P fun _ => True :=
  fun answers => .of_runs (Runs.log severity component message answers) fun hQ => ⟨trivial, hQ⟩

theorem guarantees_ofExcept {x : Except Failure α} (hok : ∀ a, x = .ok a → R a)
    (herror : ∀ f, x = .error f → P f) :
    (ofExcept x : Dialogue Req Ans α).Guarantees Q P R := by
  cases x with
  | ok a => exact guarantees_pure (hok a rfl)
  | error f => exact guarantees_fail (herror f rfl)

theorem GuaranteesOn.bind (hd : d.GuaranteesOn Q P R answers)
    (hk : ∀ a, (d answers).ending = .returned a → R a →
      (k a).GuaranteesOn Q P S (d answers).rest) :
    (d >>= k).GuaranteesOn Q P S answers := by
  intro hQ
  -- What follows runs on the answers that are left, which are of the kind again.
  obtain ⟨hend, hrest⟩ := hd hQ
  cases he : (d answers).ending with
  | returned a =>
      rw [he] at hend
      have hrun := (Runs.of_ending he).bind (Runs.self (k a) (d answers).rest)
      rw [hrun.ending_eq, hrun.rest_eq]
      exact hk a he hend hrest
  | failed f =>
      rw [he] at hend
      have hrun : Runs (d >>= k) answers _ _ _ := (Runs.of_ending he).bind_failed
      rw [hrun.ending_eq, hrun.rest_eq]
      exact ⟨hend, hrest⟩
  | waiting =>
      have hrun : Runs (d >>= k) answers _ _ _ := (Runs.of_ending he).bind_waiting
      rw [hrun.ending_eq, hrun.rest_eq]
      exact ⟨trivial, hrest⟩

/-- What follows a dialogue may count on its results. -/
theorem Guarantees.bind (hd : d.Guarantees Q P R) (hk : ∀ a, R a → (k a).Guarantees Q P S) :
    (d >>= k).Guarantees Q P S :=
  fun answers => (hd answers).bind fun a _ ha => hk a ha _

/-- What an attempt returns is a result or a failure that the dialogue guarantees. -/
theorem Guarantees.attempt (hd : d.Guarantees Q P R) (P' : Failure → Prop) :
    d.attempt.Guarantees Q P' fun result =>
      match result with
      | .ok a => R a
      | .error f => P f := by
  intro answers hQ
  obtain ⟨hend, hrest⟩ := hd answers hQ
  cases he : (d answers).ending with
  | returned a =>
      rw [he] at hend
      have hrun := (Runs.of_ending he).attempt_returned
      rw [hrun.ending_eq, hrun.rest_eq]
      exact ⟨hend, hrest⟩
  | failed f =>
      rw [he] at hend
      have hrun := (Runs.of_ending he).attempt_failed
      rw [hrun.ending_eq, hrun.rest_eq]
      exact ⟨hend, hrest⟩
  | waiting =>
      have hrun := (Runs.of_ending he).attempt_waiting
      rw [hrun.ending_eq, hrun.rest_eq]
      exact ⟨trivial, hrest⟩

theorem Guarantees.closing (hd : d.Guarantees Q P R) : d.closing.Guarantees Q P R :=
  fun answers => .of_runs (Runs.self d answers).closing (hd answers)

end Dialogue

open Dialogue

/-! ## Clients -/

/-- A kind of failures that a write stays in: a tenant that is missing, and the compensations of
failures of this kind. -/
structure Failure.ClosedUnderWrites (P : Failure → Prop) : Prop where
  tenantNotFound : ∀ tenant, P (.tenantNotFound tenant)
  rolledBack : ∀ tenant f, P f → P (f.withCompensation (.rolledBack tenant f))
  rollbackFailed : ∀ tenant f g, P f → P g → P (f.withCompensation (.rollbackFailed tenant f g))

namespace Client

variable {Req Ans α : Type} {Q : Ans → Prop} {P : Failure → Prop} {c : Client Req Ans}

/-- A client refuses requests, and reads answers of this kind, with such failures only. -/
structure FailsWithin (c : Client Req Ans) (Q : Ans → Prop) (P : Failure → Prop) : Prop where
  request : ∀ {α : Type} (call : Call α) f, c.request call = .error f → P f
  reply : ∀ {α : Type} (call : Call α) a f, Q a → (c.reply call a).2 = .error f → P f

theorem FailsWithin.ask (hc : c.FailsWithin Q P) (call : Call α) :
    (c.ask call).Guarantees Q P fun _ => True := by
  intro answers hQ
  cases hr : c.request call with
  | error f =>
      rw [ask_of_error hr]
      exact ⟨hc.request call f hr, hQ⟩
  | ok r =>
      cases answers with
      | nil =>
          rw [Client.ask, hr]
          exact ⟨trivial, hQ⟩
      | cons a rest =>
          obtain ⟨ha, hrest⟩ := List.forall_mem_cons.1 hQ
          rw [ask_cons hr]
          refine ⟨?_, hrest⟩
          cases hreply : (c.reply call a).2 with
          | ok v => exact trivial
          | error f => exact hc.reply call a f ha hreply

/-- A search fails as the calls for its pages do. -/
theorem FailsWithin.searchFrom (hc : c.FailsWithin Q P) (tenant pageSize : Value)
    (answers : List Ans) : ∀ (token : Value) (pages : Nat),
      (Client.searchFrom c tenant pageSize token pages).GuaranteesOn Q P (fun _ => True)
        answers := by
  -- The search goes on with the answers that its first page leaves.
  induction answers with
  | nil =>
      intro token pages
      rw [searchFrom_eq]
      refine (hc.ask _ []).bind fun page hpage _ => ?_
      -- Without an answer there is no page, so nothing follows.
      have hnone := hpage
      rw [Client.ask] at hnone
      split at hnone
      · cases hnone
      · cases hnone
  | cons a rest ih =>
      intro token pages
      rw [searchFrom_eq]
      refine (hc.ask _ _).bind fun page hpage _ => ?_
      cases hr : c.request (.listTenants pageSize token) with
      | error f =>
          rw [ask_of_error hr] at hpage
          cases hpage
      | ok r =>
          rw [ask_cons hr]
          dsimp only
          split
          · exact ((guarantees_log _ _ _).bind fun _ _ => guarantees_pure trivial) rest
          · split
            · exact ih page.token (pages + 1)
            · exact ((guarantees_log _ _ _).bind fun _ _ => guarantees_pure trivial) rest

theorem FailsWithin.createTenant (hc : c.FailsWithin Q P) (tenant : Value) :
    (c.createTenant tenant).Guarantees Q P fun _ => True := by
  refine ((hc.ask _).attempt P).bind fun result hresult => ?_
  cases result with
  | ok v => exact (guarantees_log _ _ _).bind fun _ _ => guarantees_pure trivial
  | error f =>
      dsimp only
      split
      · exact (guarantees_log _ _ _).bind fun _ _ => guarantees_pure trivial
      · exact guarantees_fail hresult

theorem FailsWithin.resolveTenant (hc : c.FailsWithin Q P) (hP : Failure.ClosedUnderWrites P)
    (tenant : Value) (create : Bool) :
    (c.resolveTenant tenant create).Guarantees Q P fun _ => True := by
  cases create with
  | true => exact hc.createTenant tenant
  | false =>
      refine Guarantees.bind (fun answers => hc.searchFrom _ _ answers _ _) fun found _ => ?_
      cases found with
      | true => exact guarantees_pure trivial
      | false => exact guarantees_fail (hP.tenantNotFound tenant)

end Client

/-! ## Writes -/

namespace Write

variable {Req Ans α : Type} {Q : Ans → Prop} {P : Failure → Prop} {c : Client Req Ans}

/-- A rollback reports failures of the same kind as that of the operation. -/
theorem guarantees_rollBack (hc : c.FailsWithin Q P) (hP : Failure.ClosedUnderWrites P)
    (tenant : Value) {cause : Failure} (hcause : P cause) :
    (rollBack c tenant cause).Guarantees Q P P := by
  refine (guarantees_log _ _ _).bind fun _ _ => (guarantees_log _ _ _).bind fun _ _ => ?_
  refine ((hc.ask _).attempt P).bind fun result hresult => ?_
  cases result with
  | ok v =>
      exact (guarantees_log _ _ _).bind fun _ _ => guarantees_pure (hP.rolledBack _ _ hcause)
  | error f =>
      dsimp only
      split
      · exact (guarantees_log _ _ _).bind fun _ _ => (guarantees_log _ _ _).bind fun _ _ =>
          guarantees_pure (hP.rollbackFailed _ _ _ hcause hresult)
      · exact guarantees_fail hresult

theorem guarantees_runWith (hc : c.FailsWithin Q P) (hP : Failure.ClosedUnderWrites P)
    {operation : WriteOperation Req Ans α} (tenant : Value) (create : Bool)
    (hoperation : (operation c tenant).Guarantees Q P fun _ => True) :
    (runWith c tenant create operation).Guarantees Q P fun _ => True := by
  refine (guarantees_log _ _ _).bind fun _ _ =>
    (hc.resolveTenant hP tenant create).bind fun status _ => ?_
  refine (guarantees_log _ _ _).bind fun _ _ => (guarantees_log _ _ _).bind fun _ _ => ?_
  refine (hoperation.attempt P).bind fun result hresult => ?_
  cases result with
  | ok a => exact (guarantees_log _ _ _).bind fun _ _ => guarantees_pure trivial
  | error f =>
      dsimp only
      split
      · exact (guarantees_rollBack hc hP tenant hresult).bind fun g hg => guarantees_fail hg
      · exact guarantees_fail hresult

end Write

namespace Target

variable {Req Ans α : Type} {Q : Ans → Prop} {P : Failure → Prop} {c : Client Req Ans}
variable {t : Target Req Ans}

theorem guarantees_use {s : Source Req Ans} (hs : s.Gives c)
    {d : Client Req Ans → Dialogue Req Ans α} {R : α → Prop} (hd : (d c).Guarantees Q P R) :
    (s.use d).Guarantees Q P R :=
  fun answers => .of_runs (Source.runs_use hs (Runs.self (d c) answers)) (hd answers)

/-- **A write fails as its client and its operation do.** -/
theorem guarantees_execute (hcheck : t.check = .ok ()) (hs : t.source.Gives c)
    (hc : c.FailsWithin Q P) (hP : Failure.ClosedUnderWrites P)
    {operation : WriteOperation Req Ans α}
    (hoperation : (operation c t.tenant).Guarantees Q P fun _ => True) :
    (t.execute operation).Guarantees Q P fun _ => True := by
  rw [execute, hcheck]
  exact guarantees_use hs (Write.guarantees_runWith hc hP t.tenant t.create hoperation)

end Target

/-- **A write of each kind fails as its client does, once its payload is made.** -/
theorem WriteKind.guarantees_run {Req Ans : Type} {Q : Ans → Prop} {P : Failure → Prop}
    {c : Client Req Ans} {t : Target Req Ans} {k : WriteKind} {call : Value → Call Value}
    (hcheck : t.check = .ok ()) (hs : t.source.Gives c) (hcall : k.call = .ok call)
    (hc : c.FailsWithin Q P) (hP : Failure.ClosedUnderWrites P) :
    (k.run t).Guarantees Q P fun _ => True := by
  have hask : (WriteOperation.asking call c t.tenant).Guarantees Q P fun _ => True :=
    hc.ask (call t.tenant)
  intro answers
  refine .of_runs (runs_run_of_call hcheck hcall answers) fun hQ => ?_
  obtain ⟨hend, hrest⟩ := Target.guarantees_execute hcheck hs hc hP hask answers hQ
  exact ⟨hend.void, hrest⟩

end Rebac
