import Rebac.Proofs.TenantResolution
import Rebac.Proofs.WriteKind
import Rebac.Write.Operations

set_option autoImplicit false

/-!
# Requests with their answers

The answers of a run belong to its requests one by one, so a run can be read as a list of exchanges:
a request and what came back. A dialogue is orderly if nothing but its requests takes an answer.
Every write is orderly (`isOrderly_execute`), and the exchanges of two dialogues in a row are those
of the first and then those of the second (`exchanges_bind`).
-/

namespace Rebac

/-- Requests behind others get the answers that those leave. -/
theorem zip_append_of_length_le {α β : Type} (first second : List α) (answers : List β)
    (h : first.length ≤ answers.length) :
    (first ++ second).zip answers =
      first.zip answers ++ second.zip (answers.drop first.length) := by
  induction first generalizing answers with
  | nil => rfl
  | cons r first ih =>
      cases answers with
      | nil => exact absurd h (by simp)
      | cons a answers =>
          have hle : first.length ≤ answers.length := by simpa using h
          simpa using ih answers hle

namespace Dialogue

variable {Req Ans α β : Type} {d : Dialogue Req Ans α} {k : α → Dialogue Req Ans β}
variable {answers rest : List Ans} {requests : List Req}

/-- The requests of a run with their answers, in order. A request that waits for its answer is not
among them. -/
def exchanges (d : Dialogue Req Ans α) (answers : List Ans) : List (Req × Ans) :=
  (d answers).requests.zip answers

/-- On these answers, each request of a dialogue takes one answer, and nothing else does. -/
def OrderlyOn (d : Dialogue Req Ans α) (answers : List Ans) : Prop :=
  (d answers).ending ≠ .waiting →
    (d answers).requests.length ≤ answers.length ∧
      (d answers).rest = answers.drop (d answers).requests.length

/-- On all answers, each request takes one answer, and nothing else does. -/
def IsOrderly (d : Dialogue Req Ans α) : Prop := ∀ answers, d.OrderlyOn answers

/-- What is exchanged is a request and an answer of the run. -/
theorem mem_of_mem_exchanges {e : Req × Ans} (h : e ∈ d.exchanges answers) :
    e.1 ∈ (d answers).requests ∧ e.2 ∈ answers :=
  List.of_mem_zip h

theorem exchanges_of_runs {ending : Ending α} (h : Runs d answers requests ending rest) :
    d.exchanges answers = requests.zip answers := by
  rw [← h.requests_eq]
  rfl

/-- Requests behind those of an orderly dialogue get the answers that the dialogue leaves. -/
theorem OrderlyOn.zip_append (hd : d.OrderlyOn answers) (hend : (d answers).ending ≠ .waiting)
    (requests : List Req) :
    ((d answers).requests ++ requests).zip answers =
      d.exchanges answers ++ requests.zip (d answers).rest := by
  obtain ⟨hle, hrest⟩ := hd hend
  rw [hrest]
  exact zip_append_of_length_le _ _ _ hle

/-- **The exchanges of two dialogues in a row.** -/
theorem exchanges_bind {a : α} (hd : d.OrderlyOn answers)
    (hend : (d answers).ending = .returned a) :
    (d >>= k).exchanges answers = d.exchanges answers ++ (k a).exchanges (d answers).rest := by
  rw [exchanges_of_runs ((Runs.of_ending hend).bind (Runs.self (k a) (d answers).rest))]
  exact hd.zip_append (by simp [hend]) _

/-- A dialogue that does not return has no exchanges after its own. -/
theorem exchanges_bind_of_not_returned (hend : ∀ a, (d answers).ending ≠ .returned a) :
    (d >>= k).exchanges answers = d.exchanges answers := by
  cases he : (d answers).ending with
  | returned a => exact absurd he (hend a)
  | failed f => exact exchanges_of_runs (Runs.of_ending he).bind_failed
  | waiting => exact exchanges_of_runs (Runs.of_ending he).bind_waiting

/-- What sends nothing afterwards adds no exchanges. -/
theorem exchanges_bind_of_quiet (hd : d.OrderlyOn answers)
    (hk : ∀ a answers, (k a).exchanges answers = []) :
    (d >>= k).exchanges answers = d.exchanges answers := by
  cases he : (d answers).ending with
  | returned a => rw [exchanges_bind hd he, hk, List.append_nil]
  | failed f => exact exchanges_bind_of_not_returned (by simp [he])
  | waiting => exact exchanges_bind_of_not_returned (by simp [he])

/-! ## Orderly dialogues -/

/-- A dialogue is orderly if its run is: this is how the rules for runs are used. -/
theorem OrderlyOn.of_runs {ending : Ending α} (h : Runs d answers requests ending rest)
    (horderly : ending ≠ .waiting →
      requests.length ≤ answers.length ∧ rest = answers.drop requests.length) :
    d.OrderlyOn answers := by
  obtain ⟨rfl, rfl, rfl⟩ := h
  exact horderly

/-- What sends nothing takes no answer. -/
theorem OrderlyOn.of_quiet {ending : Ending α} (h : Runs d answers [] ending answers) :
    d.OrderlyOn answers :=
  .of_runs h fun _ => ⟨Nat.zero_le _, rfl⟩

theorem OrderlyOn.bind (hd : d.OrderlyOn answers)
    (hk : ∀ a, (d answers).ending = .returned a → (k a).OrderlyOn (d answers).rest) :
    (d >>= k).OrderlyOn answers := by
  cases he : (d answers).ending with
  | returned a =>
      refine .of_runs ((Runs.of_ending he).bind (Runs.self (k a) _)) fun hwaiting => ?_
      obtain ⟨hle, hrest⟩ := hd (by simp [he])
      obtain ⟨hle', hrest'⟩ := hk a he hwaiting
      have hlength := congrArg List.length hrest
      rw [List.length_drop] at hlength
      rw [List.length_append]
      refine ⟨by omega, ?_⟩
      rw [hrest', ← List.drop_drop]
      exact congrArg _ hrest
  | failed f =>
      refine .of_runs (Runs.of_ending he).bind_failed fun _ => hd ?_
      simp [he]
  | waiting => exact .of_runs (Runs.of_ending he).bind_waiting fun h => absurd rfl h

theorem OrderlyOn.attempt (hd : d.OrderlyOn answers) : d.attempt.OrderlyOn answers := by
  cases he : (d answers).ending with
  | returned a =>
      refine .of_runs (Runs.of_ending he).attempt_returned fun _ => hd ?_
      simp [he]
  | failed f =>
      refine .of_runs (Runs.of_ending he).attempt_failed fun _ => hd ?_
      simp [he]
  | waiting => exact .of_runs (Runs.of_ending he).attempt_waiting fun h => absurd rfl h

theorem IsOrderly.of_quiet (h : ∀ answers, ∃ ending, Runs d answers [] ending answers) :
    d.IsOrderly := by
  intro answers
  obtain ⟨ending, hrun⟩ := h answers
  exact .of_quiet hrun

theorem isOrderly_pure (a : α) : (pure a : Dialogue Req Ans α).IsOrderly :=
  .of_quiet fun answers => ⟨_, Runs.pure a answers⟩

theorem isOrderly_fail (f : Failure) : (fail f : Dialogue Req Ans α).IsOrderly :=
  .of_quiet fun answers => ⟨_, Runs.fail f answers⟩

theorem isOrderly_log (severity : Severity) (component : Component) (message : String) :
    (log severity component message : Dialogue Req Ans Unit).IsOrderly :=
  .of_quiet fun answers => ⟨_, Runs.log severity component message answers⟩

theorem IsOrderly.bind (hd : d.IsOrderly) (hk : ∀ a, (k a).IsOrderly) : (d >>= k).IsOrderly :=
  fun answers => (hd answers).bind fun a _ => hk a _

theorem IsOrderly.attempt (hd : d.IsOrderly) : d.attempt.IsOrderly :=
  fun answers => (hd answers).attempt

theorem IsOrderly.closing (hd : d.IsOrderly) : d.closing.IsOrderly :=
  fun answers => .of_runs (Runs.self d answers).closing (hd answers)

end Dialogue

open Dialogue

/-! ## Calls -/

namespace Client

variable {Req Ans α : Type} {c : Client Req Ans}

/-- What a call exchanges, and how it ends: the client refuses to make the request, the request
waits for its answer, or the answer is what it ends with. -/
inductive Asked (c : Client Req Ans) (call : Call α) : List (Req × Ans) → Ending α → Prop
  | refused {f : Failure} (h : c.request call = .error f) : Asked c call [] (.failed f)
  | unanswered {r : Req} (h : c.request call = .ok r) : Asked c call [] .waiting
  | answered {r : Req} (h : c.request call = .ok r) (a : Ans) :
      Asked c call [(r, a)] (.ofExcept (c.reply call a).2)

theorem asked (c : Client Req Ans) (call : Call α) (answers : List Ans) :
    Asked c call ((c.ask call).exchanges answers) (c.ask call answers).ending := by
  cases h : c.request call with
  | error f =>
      rw [exchanges, ask_of_error h]
      exact .refused h
  | ok r =>
      rw [exchanges, requests_ask, sent_of_ok h]
      cases answers with
      | nil =>
          rw [ask, h]
          exact .unanswered h
      | cons a rest =>
          rw [ask_cons h]
          exact .answered h a

/-- What a call exchanges is its request, and it ends as the answer says. -/
theorem Asked.of_mem {call : Call α} {log : List (Req × Ans)} {ending : Ending α} {e : Req × Ans}
    (h : c.Asked call log ending) (he : e ∈ log) :
    log = [e] ∧ c.request call = .ok e.1 ∧ ending = .ofExcept (c.reply call e.2).2 := by
  cases h with
  | refused _ => exact absurd he List.not_mem_nil
  | unanswered _ => exact absurd he List.not_mem_nil
  | answered hr a =>
      rw [List.mem_singleton.1 he]
      exact ⟨rfl, hr, rfl⟩

/-- A call returns what its answer is read as. -/
theorem Asked.of_returned {call : Call α} {log : List (Req × Ans)} {v : α}
    (h : c.Asked call log (.returned v)) :
    ∃ r a, log = [(r, a)] ∧ c.request call = .ok r ∧ (c.reply call a).2 = .ok v := by
  generalize hending : Ending.returned v = ending at h
  cases h with
  | refused _ => cases hending
  | unanswered _ => cases hending
  | answered hr a =>
      refine ⟨_, a, rfl, hr, ?_⟩
      cases hreply : (c.reply call a).2 with
      | ok w =>
          rw [hreply] at hending
          cases hending
          rfl
      | error f =>
          rw [hreply] at hending
          cases hending

/-- A call fails as its request is refused or as its answer is read. -/
theorem Asked.of_failed {call : Call α} {log : List (Req × Ans)} {f : Failure}
    (h : c.Asked call log (.failed f)) :
    (log = [] ∧ c.request call = .error f) ∨
      ∃ r a, log = [(r, a)] ∧ c.request call = .ok r ∧ (c.reply call a).2 = .error f := by
  generalize hending : Ending.failed f = ending at h
  cases h with
  | refused hrefused =>
      cases hending
      exact Or.inl ⟨rfl, hrefused⟩
  | unanswered _ => cases hending
  | answered hr a =>
      refine Or.inr ⟨_, a, rfl, hr, ?_⟩
      cases hreply : (c.reply call a).2 with
      | ok w =>
          rw [hreply] at hending
          cases hending
      | error g =>
          rw [hreply] at hending
          cases hending
          rfl

theorem isOrderly_ask (c : Client Req Ans) (call : Call α) : (c.ask call).IsOrderly := by
  intro answers
  cases h : c.request call with
  | error f =>
      have hrun : Runs (c.ask call) answers [] (.failed f) answers := by
        refine ⟨?_, ?_, ?_⟩
        · rw [ask_of_error h]
          rfl
        · rw [ask_of_error h]
        · rw [ask_of_error h]
      exact .of_quiet hrun
  | ok r =>
      cases answers with
      | nil =>
          intro hend
          exact absurd (by rw [ask, h]) hend
      | cons a rest =>
          refine .of_runs (runs_ask rfl) fun _ => ?_
          rw [sent_of_ok h, ask_cons h]
          exact ⟨Nat.succ_le_succ (Nat.zero_le _), rfl⟩

/-- A search takes one answer for each page. -/
theorem orderlyOn_searchFrom (c : Client Req Ans) (tenant pageSize : Value) (answers : List Ans) :
    ∀ (token : Value) (pages : Nat),
      (searchFrom c tenant pageSize token pages).OrderlyOn answers := by
  induction answers with
  | nil =>
      intro token pages
      rw [searchFrom_eq]
      refine (isOrderly_ask c _ []).bind fun page hpage => ?_
      rw [ask] at hpage
      cases hr : c.request (.listTenants pageSize token) with
      | error f =>
          rw [hr] at hpage
          cases hpage
      | ok r =>
          rw [hr] at hpage
          cases hpage
  | cons a rest ih =>
      intro token pages
      rw [searchFrom_eq]
      refine (isOrderly_ask c _ _).bind fun page hpage => ?_
      cases hr : c.request (.listTenants pageSize token) with
      | error f =>
          rw [ask_of_error hr] at hpage
          cases hpage
      | ok r =>
          rw [ask_cons hr]
          dsimp only
          split
          · exact ((isOrderly_log _ _ _).bind fun _ => isOrderly_pure true) rest
          · split
            · exact ih page.token (pages + 1)
            · exact ((isOrderly_log _ _ _).bind fun _ => isOrderly_pure false) rest

theorem isOrderly_createTenant (c : Client Req Ans) (tenant : Value) :
    (c.createTenant tenant).IsOrderly := by
  refine (isOrderly_ask c _).attempt.bind fun result => ?_
  cases result with
  | ok v => exact (isOrderly_log _ _ _).bind fun _ => isOrderly_pure _
  | error f =>
      dsimp only
      split
      · exact (isOrderly_log _ _ _).bind fun _ => isOrderly_pure _
      · exact isOrderly_fail f

theorem isOrderly_resolveTenant (c : Client Req Ans) (tenant : Value) (create : Bool) :
    (c.resolveTenant tenant create).IsOrderly := by
  cases create with
  | true => exact c.isOrderly_createTenant tenant
  | false =>
      refine IsOrderly.bind (fun answers => c.orderlyOn_searchFrom _ _ answers _ _) fun found => ?_
      cases found with
      | true => exact isOrderly_pure _
      | false => exact isOrderly_fail _

/-- A tenant that is to be created is resolved by the call that creates it. -/
theorem exists_asked_creation (c : Client Req Ans) (tenant : Value) (answers : List Ans) :
    ∃ ending, c.Asked (.createTenant tenant tenant)
        ((c.resolveTenant tenant true).exchanges answers) ending ∧
      (c.resolveTenant tenant true answers).ending = ending.ofCreation := by
  have hrun := c.runs_resolveTenant_create tenant answers
  refine ⟨_, ?_, hrun.ending_eq⟩
  rw [exchanges_of_runs hrun, ← c.requests_ask (.createTenant tenant tenant) answers]
  exact c.asked (.createTenant tenant tenant) answers

/-- A tenant that is not to be created is resolved by the search for it. -/
theorem exchanges_resolveTenant_search (c : Client Req Ans) (tenant : Value)
    (answers : List Ans) :
    (c.resolveTenant tenant false).exchanges answers =
      (c.hasTenant tenant defaultPageSize).exchanges answers :=
  exchanges_of_runs (c.runs_resolveTenant_search tenant answers)

/-- Records of the log are no requests. -/
theorem filterMap_logged (records : List LogRecord) :
    (records.map (Event.logged : LogRecord → Event Req)).filterMap Event.request? = [] := by
  simp [Event.request?]

/-- A search exchanges pages of tenants and nothing else. -/
theorem exists_token_of_mem_search {tenant pageSize : Value} {answers : List Ans}
    {e : Req × Ans} (h : e ∈ (c.hasTenant tenant pageSize).exchanges answers) :
    ∃ token, c.request (.listTenants pageSize token) = .ok e.1 := by
  obtain ⟨tokens, htokens⟩ := c.requests_hasTenant tenant pageSize answers
  have hmem := (mem_of_mem_exchanges h).1
  rw [htokens] at hmem
  exact exists_token_of_mem_pagesSent hmem

/-- A search that finds a tenant has had an answer with a page that lists it. -/
theorem exists_page_of_searchFrom (c : Client Req Ans) (tenant pageSize : Value)
    (answers : List Ans) : ∀ (token : Value) (pages : Nat),
      (searchFrom c tenant pageSize token pages answers).ending = .returned true →
        ∃ e ∈ (searchFrom c tenant pageSize token pages).exchanges answers, ∃ token page,
          c.request (.listTenants pageSize token) = .ok e.1 ∧
            (c.reply (.listTenants pageSize token) e.2).2 = .ok page ∧
              page.lists tenant = true := by
  induction answers with
  | nil =>
      intro token pages hfound
      rw [searchFrom] at hfound
      cases hr : c.request (.listTenants pageSize token) with
      | error f => simp [hr] at hfound
      | ok r => simp [hr] at hfound
  | cons a rest ih =>
      intro token pages hfound
      rw [exchanges]
      rw [searchFrom] at hfound ⊢
      cases hr : c.request (.listTenants pageSize token) with
      | error f => simp [hr] at hfound
      | ok r =>
          simp only [hr] at hfound ⊢
          cases hpage : (c.reply (.listTenants pageSize token) a).2 with
          | error f => simp [hpage] at hfound
          | ok page =>
              simp only [hpage] at hfound ⊢
              by_cases hl : page.lists tenant = true
              · refine ⟨(r, a), ?_, token, page, hr, hpage, hl⟩
                simp [hl, Run.requests, Event.request?]
              · rw [if_neg hl] at hfound ⊢
                by_cases ht : page.token.truthy = true
                · rw [if_pos ht] at hfound ⊢
                  obtain ⟨e, he, hfacts⟩ := ih page.token (pages + 1) hfound
                  refine ⟨e, ?_, hfacts⟩
                  rw [requests_prepend, List.filterMap_cons, filterMap_logged]
                  exact List.mem_cons_of_mem _ he
                · simp [if_neg ht] at hfound

end Client

/-! ## Writes -/

namespace Write

variable {Req Ans α : Type}

theorem isOrderly_rollBack (c : Client Req Ans) (tenant : Value) (cause : Failure) :
    (rollBack c tenant cause).IsOrderly := by
  refine (isOrderly_log _ _ _).bind fun _ => (isOrderly_log _ _ _).bind fun _ => ?_
  refine (c.isOrderly_ask _).attempt.bind fun result => ?_
  cases result with
  | ok v => exact (isOrderly_log _ _ _).bind fun _ => isOrderly_pure _
  | error f =>
      dsimp only
      split
      · exact (isOrderly_log _ _ _).bind fun _ => (isOrderly_log _ _ _).bind fun _ =>
          isOrderly_pure _
      · exact isOrderly_fail f

theorem isOrderly_runWith {operation : WriteOperation Req Ans α}
    (hoperation : ∀ c tenant, (operation c tenant).IsOrderly) (c : Client Req Ans) (tenant : Value)
    (create : Bool) : (runWith c tenant create operation).IsOrderly := by
  refine (isOrderly_log _ _ _).bind fun _ =>
    (c.isOrderly_resolveTenant tenant create).bind fun status => ?_
  refine (isOrderly_log _ _ _).bind fun _ => (isOrderly_log _ _ _).bind fun _ => ?_
  refine (hoperation c tenant).attempt.bind fun result => ?_
  cases result with
  | ok a => exact (isOrderly_log _ _ _).bind fun _ => isOrderly_pure _
  | error f =>
      dsimp only
      split
      · exact (isOrderly_rollBack c tenant f).bind fun g => isOrderly_fail g
      · exact isOrderly_fail f

end Write

namespace Target

variable {Req Ans α β : Type}

theorem isOrderly_use {s : Source Req Ans} {d : Client Req Ans → Dialogue Req Ans α}
    (hd : ∀ c, (d c).IsOrderly) : (s.use d).IsOrderly := by
  cases s with
  | established client => exact hd client
  | settings connect endpoint options =>
      rw [Source.use]
      split
      · exact isOrderly_fail _
      · exact (hd _).closing

/-- **A write takes one answer for each of its requests.** -/
theorem isOrderly_execute (t : Target Req Ans) {operation : WriteOperation Req Ans α}
    (hoperation : ∀ c tenant, (operation c tenant).IsOrderly) :
    (t.execute operation).IsOrderly := by
  rw [execute]
  split
  · exact isOrderly_fail _
  · exact isOrderly_use fun c => Write.isOrderly_runWith hoperation c _ _

theorem isOrderly_executeWith (t : Target Req Ans) (payload : Except Failure β)
    {k : β → Dialogue Req Ans α} (hk : ∀ b, (k b).IsOrderly) :
    (t.executeWith payload k).IsOrderly := by
  unfold executeWith
  split
  · exact isOrderly_fail _
  · split
    · exact isOrderly_fail _
    · exact hk _

theorem isOrderly_deleteRelationships (t : Target Req Ans) (filter : Value) :
    (t.deleteRelationships filter).IsOrderly := by
  refine t.isOrderly_executeWith _ fun wire => ?_
  refine (t.isOrderly_execute fun c tenant => c.isOrderly_ask _).bind fun outcome => ?_
  exact (isOrderly_log _ _ _).bind fun _ => isOrderly_pure _

end Target

end Rebac
