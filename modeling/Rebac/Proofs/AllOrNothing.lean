import Rebac.Proofs.CreatedTenant
import Rebac.Proofs.HttpAnswers

set_option autoImplicit false

/-!
# All or nothing for a new tenant

The exchanges of a write, replayed over the tenants of a truthful server, lead from one store to
another. What the parts of a write do to the store is put together along the exchanges: resolution
adds the tenant, empty, or leaves the store as it is (`replay_resolution`), a call that writes
changes the data of the tenant only (`replay_writing`), and a deletion that returns removes the
tenant (`replay_deletion`). So a write that reports a rollback leaves the store as it was, and a
write that returns leaves the tenant there (`all_or_nothing`).
-/

namespace Rebac

open Dialogue Write

namespace Http

variable {α : Type} {conn : Connection} {tenant : Value} {create : Bool}
variable {s s' m : TenantStore} {log : List (Request × Answer)} {answers : List Answer}
variable {change : TenantStore → Operation → Answer → TenantStore → Prop}

/-! ## The effect of a resolution -/

/-- A creation that fails finds the tenant existing only by what the failure says. -/
theorem isDuplicate_of_existing {f : Failure}
    (h : (Ending.failed f : Ending α).ofCreation = .returned .existing) : f.isDuplicate = true := by
  simp only [Ending.ofCreation] at h
  split at h
  · rename_i hdup
    exact (Bool.and_eq_true_iff.1 hdup).2
  · cases h

/-- A creation adds the tenant exactly if it returns. If it finds the tenant existing, the tenant
does exist, unless nothing can be written to it. -/
theorem replay_creation {ending : Ending Value} (hread : ∀ e ∈ log, e.2.IsReadable)
    (hcall : (client conn).Asked (.createTenant tenant tenant) log ending)
    (hlog : Replay (Takes conn tenant (Truthful conn tenant)) s log m) :
    (ending.ofCreation = .returned .created ∧ s tenant = none ∧
        s.Sets m tenant (some {})) ∨
      (ending.ofCreation ≠ .returned .created ∧ m = s ∧
        (ending.ofCreation = .returned .existing → Writable conn tenant → s tenant ≠ none)) := by
  rcases replay_asked hcall hlog with ⟨rfl, ⟨f, hf, rfl⟩ | rfl⟩ | ⟨r, a, hr, rfl, rfl, htakes⟩
  · refine Or.inr ⟨by simp [Ending.ofCreation_eq_created_iff], rfl, fun hexisting hwritable => ?_⟩
    exact absurd hwritable (not_writable_of_refused hf (isDuplicate_of_existing hexisting))
  · exact Or.inr ⟨by simp [Ending.ofCreation], rfl, by simp [Ending.ofCreation]⟩
  · have haccepts : (∃ v, (reply conn (.createTenant tenant tenant) a).2 = .ok v) ↔ a.Accepts :=
      exists_creation_iff_accepts (hread (r, a) (List.mem_singleton_self _))
    have hchange := htakes.change (asks_create hr)
    cases hreply : (reply conn (.createTenant tenant tenant) a).2 with
    | ok v =>
        have ha : a.Accepts := haccepts.1 ⟨v, hreply⟩
        cases hchange with
        | created habsent hs _ => exact Or.inl ⟨rfl, habsent, hs⟩
        | notCreated hnot _ => exact absurd ha hnot
    | error f =>
        have ha : ¬ a.Accepts := by
          intro ha
          obtain ⟨v, hv⟩ := haccepts.2 ha
          rw [hreply] at hv
          cases hv
        cases hchange with
        | created _ _ haccepted => exact absurd haccepted ha
        | notCreated _ htrue =>
            refine Or.inr ⟨?_, rfl, fun hexisting _ => htrue ⟨f, hreply, ?_⟩⟩
            · simp [Ending.ofExcept, Ending.ofCreation_eq_created_iff]
            · exact isDuplicate_of_existing hexisting

/-- Pages of tenants change nothing, and each of them lists tenants of the store. -/
theorem replay_pages (hlist : ∀ e ∈ log, Asks conn tenant e.1 .list)
    (hlog : Replay (Takes conn tenant (Truthful conn tenant)) s log m) :
    m = s ∧ ∀ e ∈ log, ∀ size token page,
      (reply conn (.listTenants size token) e.2).2 = .ok page →
        ∀ t ∈ page.tenants, s t.id ≠ none := by
  induction hlog with
  | nil s => exact ⟨rfl, fun e he => absurd he (List.not_mem_nil)⟩
  | cons htakes _ ih =>
      have hchange := htakes.change (hlist _ List.mem_cons_self)
      cases hchange with
      | listed hpages =>
          obtain ⟨rfl, hrest⟩ := ih fun e he => hlist e (List.mem_cons_of_mem _ he)
          refine ⟨rfl, fun e he => ?_⟩
          rcases List.mem_cons.1 he with rfl | he
          · exact hpages
          · exact hrest e he

/-- A value that is the same as a text is that text. -/
theorem eq_text_of_same {n : String} {v : Value} (h : v.same (.text n) = true) : v = .text n := by
  cases v with
  | text m =>
      rw [Value.same, beq_iff_eq] at h
      rw [h]
  | _ => simp [Value.same, Value.integer?] at h

/-- A search changes nothing, and a tenant that it finds is there, unless nothing can be written to
it. -/
theorem replay_search
    (hlog : Replay (Takes conn tenant (Truthful conn tenant)) s
      (((client conn).hasTenant tenant defaultPageSize).exchanges answers) m) :
    m = s ∧ (((client conn).hasTenant tenant defaultPageSize answers).ending = .returned true →
      Writable conn tenant → s tenant ≠ none) := by
  have hlist : ∀ e ∈ ((client conn).hasTenant tenant defaultPageSize).exchanges answers,
      Asks conn tenant e.1 .list := by
    intro e he
    obtain ⟨token, htoken⟩ := Client.exists_token_of_mem_search he
    exact asks_list htoken
  obtain ⟨hsame, hpages⟩ := replay_pages hlist hlog
  refine ⟨hsame, fun hfound hwritable => ?_⟩
  obtain ⟨e, he, token, page, -, hpage, hlists⟩ :=
    (client conn).exists_page_of_searchFrom tenant defaultPageSize answers _ _ hfound
  obtain ⟨t, ht, hid⟩ := List.any_eq_true.1 hlists
  have hthere := hpages e he _ _ page hpage t ht
  obtain ⟨n, rfl⟩ := hwritable.exists_name
  rw [eq_text_of_same hid] at hthere
  exact hthere

/-- **What a resolution does to the store.** It adds the tenant, empty, exactly if it reports that
it created the tenant. If it reports that the tenant existed, the tenant is there, unless nothing
can be written to it. -/
theorem replay_resolution
    (hread : ∀ e ∈ ((client conn).resolveTenant tenant create).exchanges answers, e.2.IsReadable)
    (hlog : Replay (Takes conn tenant (Truthful conn tenant)) s
      (((client conn).resolveTenant tenant create).exchanges answers) m) :
    (((client conn).resolveTenant tenant create answers).ending = .returned .created ∧
        s tenant = none ∧ s.Sets m tenant (some {})) ∨
      (((client conn).resolveTenant tenant create answers).ending ≠ .returned .created ∧ m = s ∧
        (((client conn).resolveTenant tenant create answers).ending = .returned .existing →
          Writable conn tenant → s tenant ≠ none)) := by
  cases create with
  | true =>
      obtain ⟨ending, hcall, hending⟩ := (client conn).exists_asked_creation tenant answers
      rw [hending]
      exact replay_creation hread hcall hlog
  | false =>
      rw [(client conn).exchanges_resolveTenant_search] at hlog
      rw [((client conn).runs_resolveTenant_search tenant answers).ending_eq]
      obtain ⟨rfl, hfound⟩ := replay_search hlog
      refine Or.inr ⟨Ending.ofSearch_ne_created _ _, rfl, fun hexisting => hfound ?_⟩
      cases he : ((client conn).hasTenant tenant defaultPageSize answers).ending with
      | returned found =>
          rw [he] at hexisting
          cases found with
          | true => rfl
          | false => cases hexisting
      | failed f =>
          rw [he] at hexisting
          cases hexisting
      | waiting =>
          rw [he] at hexisting
          cases hexisting

/-! ## The effect of a write and of a deletion -/

/-- A call that writes changes at most the data of its tenant. -/
theorem replay_writing {call : Call α} {ending : Ending α} (hwrite : call.isWrite = true)
    (htenant : call.tenant? = some tenant) (hcall : (client conn).Asked call log ending)
    (hlog : Replay (Takes conn tenant (Truthful conn tenant)) s log s') :
    s.SameBut s' tenant := by
  rcases replay_asked hcall hlog with ⟨rfl, -⟩ | ⟨r, a, hr, -, -, htakes⟩
  · exact .refl s' tenant
  · obtain ⟨op, hasks, rfl | ⟨data, rfl⟩⟩ := asks_of_isWrite hwrite htenant hr
    · cases htakes.change hasks with
      | removed hs => exact hs
    · cases htakes.change hasks with
      | written hs => exact hs

/-- A deletion that returns removes its tenant. -/
theorem replay_deletion {v : Value}
    (hcall : (client conn).Asked (.deleteTenant tenant) log (.returned v))
    (hlog : Replay (Takes conn tenant (Truthful conn tenant)) s log s') :
    s.Sets s' tenant none := by
  obtain ⟨r, a, rfl, hr, hreply⟩ := hcall.of_returned
  have htakes := Replay.singleton_iff.1 hlog
  cases htakes.change (asks_delete hr) with
  | deleted hs _ => exact hs
  | notDeleted hnot => exact absurd (accepts_of_reply_ok hreply) hnot

/-! ## Reports of a rollback -/

/-- A call fails with the report of a rollback only if the transport raises it. -/
theorem raised_of_asked {call : Call α} {f : Failure}
    (hcall : (client conn).Asked call log (.failed f)) (hf : f.TellsRollback) :
    ∃ e ∈ log, e.2 = .raised f := by
  rcases hcall.of_failed with ⟨-, hrefused⟩ | ⟨r, a, rfl, -, hreply⟩
  · exact absurd hf (not_tellsRollback_of_request hrefused)
  · exact ⟨_, List.mem_singleton_self _, raised_of_reply_error hreply hf⟩

/-- A write that rolls back reports a rollback only if its deletion returns, or if the transport
raises the report. -/
theorem returned_of_tellsRollback {f g : Failure} {ending : Ending Value}
    (hcall : (client conn).Asked (.deleteTenant tenant) log ending)
    (hend : ending.ofDeletion tenant f = .failed g) (hg : g.TellsRollback) :
    (∃ v, ending = .returned v) ∨ ∃ e ∈ log, e.2 = .raised g := by
  cases ending with
  | returned v => exact Or.inl ⟨v, rfl⟩
  | waiting => cases hend
  | failed r =>
      rw [Ending.ofDeletion] at hend
      split at hend
      · cases hend
        cases f with
        | _ => exact hg.elim
      · cases hend
        exact Or.inr (raised_of_asked hcall hg)

/-! ## Writes -/

/-- A tenant that is resolved and was not created existed. -/
theorem existing_of_ne_created {ending : Ending TenantResolution} {status : TenantResolution}
    (h : ending = .returned status) (hne : ending ≠ .returned .created) :
    ending = .returned .existing := by
  cases status with
  | created => exact absurd h hne
  | existing => exact h

section Outcome

variable {call : Call α} {ending : Ending Unit}

/-- What a write has done to the store, by how it ends. -/
structure Outcome (conn : Connection) (tenant : Value) (create : Bool) (answers : List Answer)
    (s s' : TenantStore) (log : List (Request × Answer)) (ending : Ending Unit) : Prop where
  /-- A reported rollback leaves the store as it was. -/
  rolledBack : ∀ f, ending = .failed f → f.TellsRollback → (∀ e ∈ log, e.2 ≠ .raised f) → s' = s
  /-- So does a tenant that is not resolved. -/
  unresolved : ¬ Resolves (client conn) tenant create answers → s' = s
  /-- A write that returns leaves its tenant there. -/
  returned : ending = .returned () → s' tenant ≠ none

/-- A write whose tenant is not resolved changes nothing. -/
theorem outcome_of_unresolved
    (hread : ∀ e ∈ ((client conn).resolveTenant tenant create).exchanges answers, e.2.IsReadable)
    (hres : ¬ Resolves (client conn) tenant create answers)
    (hlog : Replay (Takes conn tenant (Truthful conn tenant)) s
      (((client conn).resolveTenant tenant create).exchanges answers) s') :
    Outcome conn tenant create answers s s'
      (((client conn).resolveTenant tenant create).exchanges answers)
      ((client conn).resolveTenant tenant create answers).ending.void := by
  rcases replay_resolution hread hlog with ⟨hcreated, -⟩ | ⟨-, rfl, -⟩
  · exact absurd ⟨_, hcreated⟩ hres
  · refine ⟨fun _ _ _ _ => rfl, fun _ => rfl, fun hreturned => ?_⟩
    exact absurd (Ending.exists_returned_of_void_eq hreturned) hres

/-- A write that ends with its call reports no rollback, and the tenant of a call that returns is
there. -/
theorem outcome_of_kept {status : TenantResolution} {writing : List (Request × Answer)}
    {ending : Ending α}
    (hread : ∀ e ∈ ((client conn).resolveTenant tenant create).exchanges answers, e.2.IsReadable)
    (hwrite : call.isWrite = true) (htenant : call.tenant? = some tenant)
    (hres : ((client conn).resolveTenant tenant create answers).ending = .returned status)
    (hcall : (client conn).Asked call writing ending)
    (hlog : Replay (Takes conn tenant (Truthful conn tenant)) s
      (((client conn).resolveTenant tenant create).exchanges answers ++ writing) s') :
    Outcome conn tenant create answers s s'
      (((client conn).resolveTenant tenant create).exchanges answers ++ writing) ending.void := by
  obtain ⟨m, hresolution, hwriting⟩ := Replay.append_iff.1 hlog
  have hsame := replay_writing hwrite htenant hcall hwriting
  refine ⟨?_, fun hnot => absurd ⟨_, hres⟩ hnot, ?_⟩
  · intro f hf htells hraised
    have hfailed : ending = .failed f := Ending.eq_failed_of_void_eq hf
    rw [hfailed] at hcall
    obtain ⟨e, he, hraise⟩ := raised_of_asked hcall htells
    exact absurd hraise (hraised e (List.mem_append_right _ he))
  · intro hreturned
    refine hsame.ne_none ?_
    rcases replay_resolution hread hresolution with ⟨-, -, hput⟩ | ⟨hne, rfl, hexisting⟩
    · rw [hput.own]
      exact Option.some_ne_none _
    · obtain ⟨v, rfl⟩ := Ending.exists_returned_of_void_eq hreturned
      obtain ⟨r, -, -, hr, -⟩ := hcall.of_returned
      exact hexisting (existing_of_ne_created hres hne) ⟨_, call, r, hwrite, htenant, hr⟩

/-- A write that rolls back leaves the store as it was if its deletion returns. -/
theorem outcome_of_undone {f : Failure} {writing deleting : List (Request × Answer)}
    {ending : Ending Value}
    (hread : ∀ e ∈ ((client conn).resolveTenant tenant create).exchanges answers, e.2.IsReadable)
    (hwrite : call.isWrite = true) (htenant : call.tenant? = some tenant)
    (hres : ((client conn).resolveTenant tenant create answers).ending = .returned .created)
    (hcall : (client conn).Asked call writing (.failed f))
    (hdelete : (client conn).Asked (.deleteTenant tenant) deleting ending)
    (hlog : Replay (Takes conn tenant (Truthful conn tenant)) s
      (((client conn).resolveTenant tenant create).exchanges answers ++ (writing ++ deleting)) s') :
    Outcome conn tenant create answers s s'
      (((client conn).resolveTenant tenant create).exchanges answers ++ (writing ++ deleting))
      (ending.ofDeletion tenant f) := by
  obtain ⟨m, hresolution, hrest⟩ := Replay.append_iff.1 hlog
  obtain ⟨m', hwriting, hdeleting⟩ := Replay.append_iff.1 hrest
  have hsame := replay_writing hwrite htenant hcall hwriting
  refine ⟨?_, fun hnot => absurd ⟨_, hres⟩ hnot, ?_⟩
  · intro g hg htells hraised
    rcases returned_of_tellsRollback hdelete hg htells with ⟨v, rfl⟩ | ⟨e, he, hraise⟩
    · -- The tenant was added, changed and removed.
      rcases replay_resolution hread hresolution with ⟨-, habsent, hput⟩ | ⟨hnot, -⟩
      · exact hput.undone habsent hsame (replay_deletion hdelete hdeleting)
      · exact absurd hres hnot
    · exact absurd hraise (hraised e (List.mem_append_right _ (List.mem_append_right _ he)))
  · intro hreturned
    exact absurd hreturned (Ending.ofDeletion_ne_returned _ _ _)

theorem outcome_of_log (hread : ∀ e ∈ log, e.2.IsReadable) (hwrite : call.isWrite = true)
    (htenant : call.tenant? = some tenant)
    (h : WriteLog (client conn) tenant create call answers log ending)
    (hlog : Replay (Takes conn tenant (Truthful conn tenant)) s log s') :
    Outcome conn tenant create answers s s' log ending := by
  cases h with
  | unresolved hres => exact outcome_of_unresolved hread hres hlog
  | kept hres hcall _ =>
      exact outcome_of_kept (fun e he => hread e (List.mem_append_left _ he)) hwrite htenant hres
        hcall hlog
  | undone hres hcall hdelete =>
      exact outcome_of_undone (fun e he => hread e (List.mem_append_left _ he)) hwrite htenant hres
        hcall hdelete hlog

end Outcome

/-- **All or nothing.** Let a write run against a truthful server whose answers of success can be
read. If the write reports a rollback that the transport has not raised itself, the store is as it
was before. So it is if the operation of the write is not started. If the write returns, its tenant
is there. At no point does the entry of any other tenant change. -/
theorem all_or_nothing (t : HttpTarget) (k : WriteKind) (answers : List Answer)
    (s s' : TenantStore) (hread : ∀ e ∈ (k.run t.toTarget).exchanges answers, e.2.IsReadable)
    (hreplay : Replay (Takes t.connection t.tenant (Truthful t.connection t.tenant)) s
      ((k.run t.toTarget).exchanges answers) s') :
    (∀ f, (k.run t.toTarget answers).ending = .failed f → f.TellsRollback →
        (∀ e ∈ (k.run t.toTarget).exchanges answers, e.2 ≠ .raised f) → s' = s) ∧
      (¬ k.Starts t.toTarget answers → s' = s) ∧
      ((k.run t.toTarget answers).ending = .returned () → s' t.tenant ≠ none) ∧
      ∀ log m, log <+: (k.run t.toTarget).exchanges answers →
        Replay (Takes t.connection t.tenant (Truthful t.connection t.tenant)) s log m →
          ∀ v, v ≠ t.tenant → m v = s v := by
  have hothers : ∀ log m, log <+: (k.run t.toTarget).exchanges answers →
      Replay (Takes t.connection t.tenant (Truthful t.connection t.tenant)) s log m →
        ∀ v, v ≠ t.tenant → m v = s v := by
    intro log m _ hlog v hv
    refine hlog.invariant (P := fun u => u v = s v) (fun u e u' _ htakes hu => ?_) rfl
    obtain ⟨op, -, hchange⟩ := htakes
    exact (hchange.changes.others hv).trans hu
  rcases k.log_run t.toTarget answers with
    ⟨hnot, g, hrun⟩ | ⟨c, call, hcheck, hc, hcall, hlog⟩
  · rw [exchanges_of_runs hrun] at hreplay
    have hsame := Replay.nil_iff.1 hreplay
    refine ⟨fun _ _ _ _ => hsame, fun _ => hsame, fun hreturned => ?_, hothers⟩
    rw [hrun.ending_eq] at hreturned
    cases hreturned
  · have hclient := t.isClient c hc
    rw [hclient] at hlog hc
    have houtcome := outcome_of_log hread (WriteKind.isWrite_of_call hcall _)
      (WriteKind.tenant?_of_call hcall _) hlog hreplay
    refine ⟨houtcome.rolledBack, fun hnot => houtcome.unresolved fun hres => hnot ?_,
      houtcome.returned, hothers⟩
    exact ⟨hcheck, ⟨call, hcall⟩, _, hc, hres⟩

/-! ## A rejected schema -/

/-- The target of a tenant that is to be created, with its connection. -/
def createdHttpTarget : HttpTarget where
  toTarget := createdTarget
  connection := localConnection
  isClient _ hc := hc.symm

/-- The request that creates the tenant. -/
def acmeCreation : Request where
  method := .post
  url := "http://localhost:3476/v1/tenants/create"
  headers := []
  timeout := none
  body := some (.object [("id", .text "acme"), ("name", .text "acme")])

/-- The request that writes its schema. -/
def acmeSchema : Request where
  method := .post
  url := "http://localhost:3476/v1/tenants/acme/schemas/write"
  headers := []
  timeout := none
  body := some (.object [("schema", .text "entity user {}")])

/-- The request that deletes it. -/
def acmeDeletion : Request where
  method := .delete
  url := "http://localhost:3476/v1/tenants/acme"
  headers := []
  timeout := none
  body := none

theorem asks_acmeCreation : Asks localConnection (.text "acme") acmeCreation .create :=
  asks_create (by rfl)

theorem asks_acmeSchema : Asks localConnection (.text "acme") acmeSchema
    (.write { schemas := [.text "entity user {}"] }) := by
  refine ⟨_, .writeSchema (.text "acme") (.text "entity user {}"), by rfl, by rfl, ?_⟩
  intro v hv
  cases hv
  rfl

theorem asks_acmeDeletion : Asks localConnection (.text "acme") acmeDeletion .delete :=
  asks_delete (by rfl)

/-- The answers to a write whose schema is rejected. -/
def rejectingAnswers : List Answer := [.response 200 [], .response 500 [], .response 200 []]

/-- A server that holds one tenant at most. -/
def onlyAcme (d : Option TenantData) : TenantStore
  | .text "acme" => d
  | _ => none

theorem onlyAcme_sets (d d' : Option TenantData) :
    (onlyAcme d).Sets (onlyAcme d') (.text "acme") d' := by
  refine ⟨rfl, fun v hv => ?_⟩
  unfold onlyAcme
  split
  · exact absurd rfl hv
  · rfl

theorem response_of_mem_rejecting {e : Request × Answer}
    (he : e ∈ (schemaWrite.run createdTarget).exchanges rejectingAnswers) :
    ∃ status, e.2 = .response status [] := by
  have hmem := (mem_of_mem_exchanges he).2
  simp only [rejectingAnswers, List.mem_cons, List.not_mem_nil, or_false] at hmem
  rcases hmem with h | h | h
  · exact ⟨_, h⟩
  · exact ⟨_, h⟩
  · exact ⟨_, h⟩

/-- The server takes half of a schema that it rejects, and the tenant is removed with it. -/
theorem rejected_schema_leaves_nothing :
    (∀ e ∈ (schemaWrite.run createdTarget).exchanges rejectingAnswers, e.2.IsReadable) ∧
      Replay (Takes localConnection createdTarget.tenant
          (Truthful localConnection createdTarget.tenant)) (fun _ => none)
        ((schemaWrite.run createdTarget).exchanges rejectingAnswers) (onlyAcme none) ∧
      (∃ f, (schemaWrite.run createdTarget rejectingAnswers).ending = .failed f ∧
        f.TellsRollback) ∧
      onlyAcme none = fun _ => none := by
  have hread : ∀ e ∈ (schemaWrite.run createdTarget).exchanges rejectingAnswers,
      e.2.IsReadable := by
    intro e he status bytes heq _
    obtain ⟨status', hresponse⟩ := response_of_mem_rejecting he
    rw [hresponse] at heq
    cases heq
    exact ⟨_, rfl⟩
  have hreplay : Replay (Takes localConnection createdTarget.tenant
      (Truthful localConnection createdTarget.tenant)) (fun _ => none)
      ((schemaWrite.run createdTarget).exchanges rejectingAnswers) (onlyAcme none) := by
    have hput : TenantStore.Sets (fun _ => none) (onlyAcme (some {})) createdTarget.tenant
        (some {}) := by
      refine ⟨rfl, fun v hv => ?_⟩
      rw [(onlyAcme_sets none (some {})).others v hv]
      unfold onlyAcme
      split
      · rfl
      · rfl
    have hhalf : (onlyAcme (some {})).SameBut
        (onlyAcme (some { schemas := [.text "entity user"] })) createdTarget.tenant :=
      ⟨by simp [createdTarget, onlyAcme], (onlyAcme_sets _ _).others⟩
    refine .cons ⟨_, asks_acmeCreation, .created rfl hput rfl⟩ ?_
    refine .cons ⟨_, asks_acmeSchema, .written hhalf _ _⟩ ?_
    exact .cons ⟨_, asks_acmeDeletion, .deleted (onlyAcme_sets _ _) rfl⟩ (.nil _)
  have hfail : ∃ f, (schemaWrite.run createdTarget rejectingAnswers).ending = .failed f ∧
      f.TellsRollback := ⟨_, rfl, trivial⟩
  refine ⟨hread, hreplay, hfail, ?_⟩
  obtain ⟨f, hf, htells⟩ := hfail
  refine (all_or_nothing createdHttpTarget schemaWrite rejectingAnswers _ _ hread hreplay).1 f hf
    htells fun e he hraised => ?_
  obtain ⟨status, hresponse⟩ := response_of_mem_rejecting he
  rw [hresponse] at hraised
  cases hraised

end Http

end Rebac
