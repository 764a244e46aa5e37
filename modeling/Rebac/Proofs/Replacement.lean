import Rebac.Proofs.ParameterFaults
import Rebac.Proofs.Seeding
import Rebac.Proofs.TenantPages

set_option autoImplicit false

/-!
# Seeding that replaces

A replacement reads all relationships, searches for the tenant, deletes every relationship of it and
then writes those that have been read. The search belongs to the deletion and never creates a
tenant; the write resolves the tenant once more and may. Each part starts only if the one before it
has succeeded (`Replacement.InOrder`), so a fault anywhere before the deletion leaves the tenant as
it was, and a result that says that relationships were replaced follows a deletion and a write that
were both accepted (`replacement_in_order`).
-/

namespace Rebac

open Dialogue Write Http

/-! ## The parts of a replacement -/

/-- The requests of a replacement, by what they are for. -/
structure Replacement (Req : Type) where
  searching : List Req
  clearing : List Req
  writing : List Req

/-- All requests of a replacement, in the order in which they are sent. -/
def Replacement.all {Req : Type} (p : Replacement Req) : List Req :=
  p.searching ++ (p.clearing ++ p.writing)

/-- The call that deletes every relationship of a tenant. -/
def Call.clearing (tenant : Value) : Call Value := .deleteRelationships tenant (.map [])

/-- These relationships are there to replace others: the parameters are accepted, there is a client,
every relationship has been read, and there is one. -/
structure Target.Replaces {Req Ans : Type} (t : Target Req Ans) (tuples : Value)
    (records : List Value) : Prop where
  check : t.check = .ok ()
  client : ∃ c, t.source.Gives c
  read : Relationship.recordsOf (tuples.orElse (.tuple [])) = .ok records
  nonempty : records ≠ []

/-- The search for the tenant of a target. -/
def HttpTarget.search (t : HttpTarget) (answers : List Answer) : Run Request Answer Bool :=
  (client t.connection).hasTenant t.tenant defaultPageSize answers

namespace Http

variable {α : Type}

/-- The request of a call was answered with success, and the answer has a result. -/
def Succeeds (conn : Connection) (call : Call α) (e : Request × Answer) : Prop :=
  request conn call = .ok e.1 ∧ e.2.Accepts ∧ ∃ v, (reply conn call e.2).2 = .ok v

end Http

namespace Replacement

variable (t : HttpTarget) (tuples : Value) (answers : List Answer) (p : Replacement Request)

/-- The deletion of every relationship was answered with success. -/
def Cleared : Prop :=
  ∃ e ∈ p.clearing.zip (answers.drop p.searching.length),
    Succeeds t.connection (.clearing t.tenant) e

/-- The write of all relationships was answered with success. -/
def Written : Prop :=
  ∃ e ∈ p.writing.zip (answers.drop (p.searching ++ p.clearing).length), ∃ records payload,
    t.Replaces tuples records ∧ Relationship.payload records = .ok payload ∧
      Succeeds t.connection (.writeRelationships t.tenant payload (.text "")) e

/-- The order of a replacement: a search for the tenant, the deletion of every relationship, and the
write of the relationships that have been read. -/
structure InOrder : Prop where
  /-- Nothing is sent before every relationship has been read, nor if there is none. -/
  read : p.all ≠ [] → ∃ records, t.Replaces tuples records
  /-- The tenant is looked for on the first page, and then on others. -/
  search : p.searching ≠ [] →
    ∃ tokens, p.searching = (client t.connection).pagesSent defaultPageSize (.text "" :: tokens)
  /-- Everything is deleted by one request. -/
  clearing : p.clearing = [] ∨
    ∃ r, request t.connection (.clearing t.tenant) = .ok r ∧ p.clearing = [r]
  /-- Everything is deleted only if a page of the search listed the tenant. -/
  listed : p.clearing ≠ [] → ∃ e ∈ p.searching.zip answers, ∃ token page,
    request t.connection (.listTenants defaultPageSize token) = .ok e.1 ∧
      (reply t.connection (.listTenants defaultPageSize token) e.2).2 = .ok page ∧
        page.lists t.tenant = true
  /-- When everything is deleted. -/
  clearing_iff : p.clearing ≠ [] ↔ (∃ records, t.Replaces tuples records) ∧
    (t.search answers).ending = .returned true ∧
      ∃ r, request t.connection (.clearing t.tenant) = .ok r
  /-- No tenant is created until everything is deleted. -/
  not_created : ∀ r ∈ p.searching ++ p.clearing, r.operation? ≠ some .create
  /-- Nothing else is deleted. -/
  once : ∀ r ∈ p.searching ++ p.writing, r.operation? ≠ some .remove
  /-- What is sent once everything is deleted is what a write of these relationships sends. -/
  written : p.Cleared t answers → ∀ records, t.Replaces tuples records →
    p.writing = (t.writeRelationships (.list records) (.text "")
      (answers.drop (p.searching ++ p.clearing).length)).requests
  /-- Nothing is written unless everything is deleted. -/
  not_written : ¬ p.Cleared t answers → p.writing = []

end Replacement

/-! Each part of a replacement by itself. -/

section Parts

variable {t : HttpTarget} {tuples v version : Value} {records : List Value}
variable {answers : List Answer} {r : Request}

/-- A write of relationships does not ask to remove any. -/
theorem not_remove_of_mem_writeRelationships
    (hr : r ∈ (t.writeRelationships v version answers).requests) :
    r.operation? ≠ some .remove := by
  have hrun := (Runs.self (t.writeRelationships v version) answers).bind_quiet
    fun _ => Runs.pure () _
  have hmem : r ∈ ((WriteKind.relationships v version).run t.toTarget answers).requests := by
    rw [← hrun.requests_eq] at hr
    exact hr
  obtain ⟨c, call, hc, hcall, hcases⟩ := WriteKind.cases_of_mem_requests hmem
  cases t.isClient c hc
  rcases hcases with hcreation | ⟨token, hpage⟩ | hcalled | hdeletion
  · simp [operation?_of_request hcreation rfl]
  · simp [operation?_of_request hpage rfl]
  · rcases WriteKind.payload_of_call hcall with ⟨_, _, ⟨⟩, -⟩ |
      ⟨_, _, _, payload, ⟨⟩, -, -, rfl⟩ | ⟨_, _, ⟨⟩, -⟩
    rcases operation?_of_isWrite rfl hcalled with hremove | ⟨data, hwrite⟩
    · simp [Call.operation?] at hremove
    · simp [operation?_of_request hcalled hwrite]
  · simp [operation?_of_request hdeletion rfl]

/-- **Clearing a tenant** ends without its call, if the search does not find the tenant, or it sends
its call last and ends as that does. -/
theorem clear_cases (hcheck : t.check = .ok ()) (hc : t.source.Gives (client t.connection))
    (answers : List Answer) :
    ((t.search answers).ending ≠ .returned true ∧
      (t.clear answers).requests = (t.search answers).requests ∧
        (t.clear answers).ending ≠ .returned ()) ∨
    ((t.search answers).ending = .returned true ∧
      (t.clear answers).requests =
        (t.search answers).requests ++ (client t.connection).sent (.clearing t.tenant) ∧
      ∃ called, (client t.connection).Asked (.clearing t.tenant)
          (((client t.connection).sent (.clearing t.tenant)).zip (t.search answers).rest) called ∧
        (t.clear answers).ending = called.void) := by
  -- The deletion belongs to a target that is not created, so its resolution is a search.
  have hcheck' : ({ t.toTarget with create := false } : Target _ _).check = .ok () := hcheck
  have hcall : (WriteKind.deletion everyRelationship).call = .ok Call.clearing := rfl
  have hcourse := Target.course_execute hcheck' hc (.asking Call.clearing) answers
  have hclear := runs_clear (WriteKind.runs_run_of_call hcheck' hcall answers)
  rw [hclear.requests_eq, hclear.ending_eq]
  rcases hcourse.of_search with ⟨hlost, hrequests, hnot⟩ | ⟨hfound, hrequests, hcalled⟩
  · refine Or.inl ⟨hlost, hrequests, fun hreturned => ?_⟩
    obtain ⟨w, hw⟩ := Ending.exists_returned_of_void_eq hreturned
    exact hnot w hw
  · exact Or.inr ⟨hfound, hrequests, hcalled⟩

/-- A search that finds its tenant leaves the answers that it has not asked for. -/
theorem rest_search (hfound : (t.search answers).ending = .returned true) :
    (t.search answers).rest = answers.drop (t.search answers).requests.length := by
  have horderly := (client t.connection).orderlyOn_searchFrom t.tenant defaultPageSize answers
    (.text "") 0
  refine (horderly ?_).2
  intro hwaiting
  cases hfound.symm.trans hwaiting

variable {p : Replacement Request}

/-- Everything is deleted exactly if the call for it returns. -/
theorem cleared_iff {called : Ending Value} (hfound : (t.search answers).ending = .returned true)
    (hsearching : p.searching = (t.search answers).requests)
    (hclearing : p.clearing = (client t.connection).sent (.clearing t.tenant))
    (hcalled : (client t.connection).Asked (.clearing t.tenant)
      (((client t.connection).sent (.clearing t.tenant)).zip (t.search answers).rest) called) :
    p.Cleared t answers ↔ ∃ v, called = .returned v := by
  rw [Replacement.Cleared, hsearching, hclearing, ← rest_search hfound]
  constructor
  · rintro ⟨e, he, -, -, v, hv⟩
    obtain ⟨-, -, rfl⟩ := hcalled.of_mem he
    exact ⟨v, congrArg Ending.ofExcept hv⟩
  · rintro ⟨v, rfl⟩
    obtain ⟨r, a, hlog, hr, hv⟩ := hcalled.of_returned
    rw [hlog]
    exact ⟨(r, a), List.mem_singleton_self _, hr, accepts_of_reply_ok hv, v, hv⟩

/-- A replacement is in order if its parts are those of a search, a deletion and a write, each after
the one before it. -/
theorem inOrder_of_parts (hreplaces : t.Replaces tuples records)
    (hsearching : p.searching = (t.search answers).requests)
    (hfound : (t.search answers).ending = .returned true →
      p.clearing = (client t.connection).sent (.clearing t.tenant))
    (hlost : (t.search answers).ending ≠ .returned true → p.clearing = [])
    (hwritten : p.Cleared t answers →
      p.writing = (t.writeRelationships (.list records) (.text "")
        (answers.drop (p.searching ++ p.clearing).length)).requests)
    (hnot : ¬ p.Cleared t answers → p.writing = []) : p.InOrder t tuples answers := by
  have hsearch : ∃ tokens, p.searching =
      (client t.connection).pagesSent defaultPageSize (.text "" :: tokens) := by
    rw [hsearching]
    exact (client t.connection).requests_hasTenant t.tenant defaultPageSize answers
  -- What each request asks for tells the parts apart: pages, one removal, and no removal.
  have hpage : ∀ r ∈ p.searching, r.operation? = some .list := by
    intro r hr
    obtain ⟨tokens, htokens⟩ := hsearch
    rw [htokens] at hr
    obtain ⟨token, htoken⟩ := Client.exists_token_of_mem_pagesSent hr
    exact operation?_of_request htoken rfl
  have hclearing : p.clearing = [] ∨ (t.search answers).ending = .returned true ∧
      ∃ r, request t.connection (.clearing t.tenant) = .ok r ∧ p.clearing = [r] := by
    by_cases hend : (t.search answers).ending = .returned true
    · rw [hfound hend]
      exact ((client t.connection).sent_eq_nil_or _).imp_right fun hsent => ⟨hend, hsent⟩
    · exact Or.inl (hlost hend)
  constructor
  case read => exact fun _ => ⟨records, hreplaces⟩
  case search => exact fun _ => hsearch
  case clearing => exact hclearing.imp_right And.right
  case listed =>
    intro hne
    obtain ⟨hend, -⟩ := hclearing.resolve_left hne
    rw [hsearching]
    exact (client t.connection).exists_page_of_searchFrom t.tenant defaultPageSize answers
      (.text "") 0 hend
  case clearing_iff =>
    constructor
    · intro hne
      obtain ⟨hend, r, hr, -⟩ := hclearing.resolve_left hne
      exact ⟨⟨records, hreplaces⟩, hend, r, hr⟩
    · rintro ⟨-, hend, r, hr⟩
      rw [hfound hend]
      exact Client.sent_ne_nil_iff.2 ⟨r, hr⟩
  case not_created =>
    intro r hr
    rcases List.mem_append.1 hr with hr | hr
    · simp [hpage r hr]
    · rcases hclearing with hnone | ⟨-, q, hq, hone⟩
      · rw [hnone] at hr
        cases hr
      · rw [hone, List.mem_singleton] at hr
        rw [hr, operation?_of_request hq rfl]
        simp
  case once =>
    intro r hr
    rcases List.mem_append.1 hr with hr | hr
    · simp [hpage r hr]
    · by_cases hcleared : p.Cleared t answers
      · rw [hwritten hcleared] at hr
        exact not_remove_of_mem_writeRelationships hr
      · rw [hnot hcleared] at hr
        cases hr
  case written =>
    intro hcleared records' hreplaces'
    cases hreplaces.read.symm.trans hreplaces'.read
    exact hwritten hcleared
  case not_written => exact hnot

/-- Nothing is in order if there is nothing to replace others. -/
theorem inOrder_of_nothing (h : ¬ ∃ records, t.Replaces tuples records) :
    Replacement.InOrder t tuples answers ⟨[], [], []⟩ where
  read hne := absurd rfl hne
  search hne := absurd rfl hne
  clearing := Or.inl rfl
  listed hne := absurd rfl hne
  clearing_iff := ⟨fun hne => absurd rfl hne, fun hreplaces => absurd hreplaces.1 h⟩
  not_created _ hr := absurd hr List.not_mem_nil
  once _ hr := absurd hr List.not_mem_nil
  written _ records hreplaces := absurd ⟨records, hreplaces⟩ h
  not_written _ := rfl

/-- A write of relationships that returns has sent them, and they were accepted. -/
theorem exists_accepted_of_returned {w : RelationshipsWritten}
    (h : (t.writeRelationships v version answers).ending = .returned w) :
    ∃ e ∈ (t.writeRelationships v version answers).requests.zip answers, ∃ records payload,
      Relationship.recordsOf v = .ok records ∧ Relationship.payload records = .ok payload ∧
        Succeeds t.connection (.writeRelationships t.tenant payload version) e := by
  obtain ⟨c, records, payload, outcome, hc, hread, hpayload, rfl, hcourse⟩ :=
    Target.course_of_returned h
  cases t.isClient c hc
  obtain ⟨hres, hcalled, hrequests⟩ := hcourse.of_returned
  obtain ⟨r, a, hlog, hr, hv⟩ := (asked_operation hcalled).of_returned
  refine ⟨(r, a), ?_, records, payload, hread, hpayload, hr, accepts_of_reply_ok hv, _, hv⟩
  rw [hrequests, zip_of_resolved hres, hlog]
  exact List.mem_append_right _ (List.mem_singleton_self _)

/-- Relationships that are added are sent by a write. -/
theorem runs_seedRecords_append (hne : records ≠ []) :
    Runs (t.seedRecords .append records) answers
      (t.writeRelationships (.list records) (.text "") answers).requests
      ((t.writeRelationships (.list records) (.text "") answers).ending.map
        fun w => { w with replaced := false })
      (t.writeRelationships (.list records) (.text "") answers).rest := by
  rw [t.seedRecords_append hne]
  exact (Runs.self _ answers).bind_map fun w => Runs.pure _ _

/-- A replacement goes on with its write once everything is deleted. -/
theorem runs_seedRecords_of_cleared (hne : records ≠ [])
    (hcleared : (t.clear answers).ending = .returned ()) :
    Runs (t.seedRecords .replace records) answers
      ((t.clear answers).requests ++
        (t.writeRelationships (.list records) (.text "") (t.clear answers).rest).requests)
      ((t.writeRelationships (.list records) (.text "") (t.clear answers).rest).ending.map
        fun w => { w with replaced := true })
      (t.writeRelationships (.list records) (.text "") (t.clear answers).rest).rest := by
  rw [t.seedRecords_replace hne]
  exact (Runs.of_ending hcleared).bind ((Runs.self _ _).bind_map fun w => Runs.pure _ _)

/-- A replacement in which everything is deleted is in order, and if it returns, the relationships
have been written. -/
theorem exists_inOrder_of_cleared {v : Value} (hreplaces : t.Replaces tuples records)
    (hfound : (t.search answers).ending = .returned true)
    (hrequests : (t.clear answers).requests =
      (t.search answers).requests ++ (client t.connection).sent (.clearing t.tenant))
    (hcalled : (client t.connection).Asked (.clearing t.tenant)
      (((client t.connection).sent (.clearing t.tenant)).zip (t.search answers).rest)
        (.returned v))
    (hend : (t.clear answers).ending = .returned ()) :
    ∃ p : Replacement Request, (t.seedRecords .replace records answers).requests = p.all ∧
      p.InOrder t tuples answers ∧
        ∀ w, (t.seedRecords .replace records answers).ending = .returned w →
          w.replaced = true ∧ p.Cleared t answers ∧ p.Written t tuples answers := by
  have hrun := runs_seedRecords_of_cleared hreplaces.nonempty hend
  -- The write gets the answers that the search and the deletion have left.
  have hrest : (t.clear answers).rest = answers.drop ((t.search answers).requests ++
      (client t.connection).sent (.clearing t.tenant)).length := by
    rw [← hrequests]
    exact (t.isOrderly_clear answers (by simp [hend])).2
  let write := t.writeRelationships (.list records) (.text "")
  let p : Replacement Request :=
    ⟨(t.search answers).requests, (client t.connection).sent (.clearing t.tenant),
      (write (t.clear answers).rest).requests⟩
  have hcleared : p.Cleared t answers := (cleared_iff hfound rfl rfl hcalled).2 ⟨v, rfl⟩
  refine ⟨p, ?_, ?_, fun w hw => ?_⟩
  · rw [hrun.requests_eq, hrequests, List.append_assoc]
    rfl
  · refine inOrder_of_parts hreplaces rfl (fun _ => rfl) (fun hlost => absurd hfound hlost) ?_
      fun hnot => absurd hcleared hnot
    intro _
    exact congrArg (fun rest => (write rest).requests) hrest
  · rw [hrun.ending_eq] at hw
    obtain ⟨w', hwritten, rfl⟩ := Ending.exists_returned_of_map_eq hw
    obtain ⟨e, he, records', payload, hread, hpayload, hsucceeds⟩ :=
      exists_accepted_of_returned hwritten
    -- The write reads the records once more, and they are still the same.
    cases (Relationship.recordsOf_records hreplaces.read).symm.trans hread
    have hwriting : e ∈ p.writing.zip (t.clear answers).rest := he
    rw [hrest] at hwriting
    exact ⟨rfl, hcleared, e, hwriting, records, payload, hreplaces, hpayload, hsucceeds⟩

/-- **Every replacement is in order**, and if it returns, what was there has been deleted and the
relationships have been written. -/
theorem exists_inOrder_of_replaces (hreplaces : t.Replaces tuples records)
    (answers : List Answer) :
    ∃ p : Replacement Request, (t.seedRecords .replace records answers).requests = p.all ∧
      p.InOrder t tuples answers ∧
        ∀ w, (t.seedRecords .replace records answers).ending = .returned w →
          w.replaced = true ∧ p.Cleared t answers ∧ p.Written t tuples answers := by
  obtain ⟨c, hc⟩ := hreplaces.client
  cases t.isClient c hc
  have hstopped (hnot : ∀ u, (t.clear answers).ending ≠ .returned u) :
      (t.seedRecords .replace records answers).requests = (t.clear answers).requests ∧
        ∀ w, (t.seedRecords .replace records answers).ending ≠ .returned w := by
    rw [t.seedRecords_replace hreplaces.nonempty]
    exact Runs.bind_of_not_returned hnot
  -- The tenant is not found, or its deletion succeeds, or the deletion ends in another way.
  rcases clear_cases hreplaces.check hc answers with
    ⟨hlost, hrequests, hnot⟩ | ⟨hfound, hrequests, called, hcalled, hend⟩
  · obtain ⟨hsent, hfails⟩ := hstopped fun _ => hnot
    refine ⟨⟨(t.search answers).requests, [], []⟩, ?_, ?_, fun w hw => absurd hw (hfails w)⟩
    · rw [hsent, hrequests]
      simp [Replacement.all]
    · refine inOrder_of_parts hreplaces rfl (fun hfound => absurd hfound hlost) (fun _ => rfl) ?_
        fun _ => rfl
      rintro ⟨e, he, -⟩
      cases he
  · by_cases hreturns : ∃ v, called = .returned v
    · obtain ⟨v, rfl⟩ := hreturns
      exact exists_inOrder_of_cleared hreplaces hfound hrequests hcalled hend
    · have hnot : ∀ u, (t.clear answers).ending ≠ .returned u := by
        intro u hu
        rw [hend] at hu
        exact hreturns (Ending.exists_returned_of_void_eq hu)
      obtain ⟨hsent, hfails⟩ := hstopped hnot
      refine ⟨⟨(t.search answers).requests, (client t.connection).sent (.clearing t.tenant), []⟩,
        ?_, ?_, fun w hw => absurd hw (hfails w)⟩
      · rw [hsent, hrequests, Replacement.all, List.append_nil]
      · refine inOrder_of_parts hreplaces rfl (fun _ => rfl) (fun hlost => absurd hfound hlost) ?_
          fun _ => rfl
        intro hcleared
        exact absurd ((cleared_iff hfound rfl rfl hcalled).1 hcleared) hreturns

variable {mode : Value}

/-- Seeding no relationships sends nothing and replaces nothing. -/
theorem runs_seedRecords_nil (t : Target Request Answer) (m : SeedingMode)
    (answers : List Answer) :
    Runs (t.seedRecords m []) answers [] (.returned { count := 0 }) answers :=
  (Runs.log _ _ _ answers).bind (Runs.pure _ _)

/-- If there is nothing to replace others, nothing is sent and nothing replaced. -/
theorem nothing_of_not_replaces (hmode : SeedingMode.ofValue? mode = some .replace)
    (h : ¬ ∃ records, t.Replaces tuples records) (answers : List Answer) :
    (t.seedRelationships tuples mode answers).requests = [] ∧
      ∀ w, (t.seedRelationships tuples mode answers).ending = .returned w →
        w.replaced = false := by
  rcases t.seedRelationships_cases tuples mode with
    ⟨f, hfail⟩ | ⟨hcheck, m, records, hm, hread, hseed⟩
  · rw [hfail]
    exact ⟨rfl, nofun⟩
  · cases hmode.symm.trans hm
    rw [hseed]
    by_cases hnil : records = []
    · have hrun := runs_seedRecords_nil t.toTarget .replace answers
      rw [hnil, hrun.requests_eq, hrun.ending_eq]
      refine ⟨rfl, fun w hw => ?_⟩
      cases hw
      rfl
    · rcases t.source.gives_or_refuses with hc | ⟨f, hf⟩
      · exact absurd ⟨records, hcheck, hc, hread, hnil⟩ h
      · -- Without a client the deletion fails, and the write is not reached.
        obtain ⟨g, hclear⟩ := exists_runs_clear (Or.inr ⟨hcheck, hf⟩) answers
        have hrun : Runs (t.seedRecords .replace records) answers [] (.failed g) answers := by
          rw [t.seedRecords_replace hnil]
          exact hclear.bind_failed
        rw [hrun.requests_eq, hrun.ending_eq]
        exact ⟨rfl, nofun⟩

/-- Relationships are removed only if there are others to replace them. -/
theorem not_remove_of_mem_seedRelationships
    (h : SeedingMode.ofValue? mode = some .append ∨
      Relationship.recordsOf (tuples.orElse (.tuple [])) = .ok [])
    (hr : r ∈ (t.seedRelationships tuples mode answers).requests) :
    r.operation? ≠ some .remove := by
  rcases t.seedRelationships_cases tuples mode with
    ⟨f, hfail⟩ | ⟨-, m, records, hm, hread, hseed⟩
  · rw [hfail] at hr
    cases hr
  · rw [hseed] at hr
    by_cases hnil : records = []
    · rw [hnil, (runs_seedRecords_nil t.toTarget m answers).requests_eq] at hr
      cases hr
    · rcases h with happend | hnone
      · cases happend.symm.trans hm
        rw [(runs_seedRecords_append hnil).requests_eq] at hr
        exact not_remove_of_mem_writeRelationships hr
      · cases hread.symm.trans hnone
        exact absurd rfl hnil

end Parts

/-- **Replacing deletes first, and only if the write can follow.** A replacement searches for its
tenant, deletes every relationship and writes the relationships that have been read, in this order;
it stops where a step fails, and it reports that it has replaced what was there exactly if the
deletion and the write were both answered with success. Nothing is deleted if relationships are
added, or if there are none. -/
theorem replacement_in_order (t : HttpTarget) (tuples mode : Value) (answers : List Answer) :
    (SeedingMode.ofValue? mode = some .replace →
      ∃ p : Replacement Request, (t.seedRelationships tuples mode answers).requests = p.all ∧
        p.InOrder t tuples answers ∧
        ∀ w, (t.seedRelationships tuples mode answers).ending = .returned w →
          (w.replaced = true ↔ p.Cleared t answers ∧ p.Written t tuples answers)) ∧
    (SeedingMode.ofValue? mode = some .append ∨
        Relationship.recordsOf (tuples.orElse (.tuple [])) = .ok [] →
      ∀ r ∈ (t.seedRelationships tuples mode answers).requests, r.operation? ≠ some .remove) := by
  refine ⟨fun hmode => ?_, fun h r => not_remove_of_mem_seedRelationships h⟩
  by_cases hreplaces : ∃ records, t.Replaces tuples records
  · obtain ⟨records, hreplaces⟩ := hreplaces
    obtain ⟨p, hsent, hinOrder, hreturned⟩ := exists_inOrder_of_replaces hreplaces answers
    rw [Target.seedRelationships_of_recordsOf hreplaces.check hmode hreplaces.read]
    exact ⟨p, hsent, hinOrder, fun w hw => iff_of_true (hreturned w hw).1 (hreturned w hw).2⟩
  · obtain ⟨hnone, hkept⟩ := nothing_of_not_replaces hmode hreplaces answers
    refine ⟨⟨[], [], []⟩, hnone, inOrder_of_nothing hreplaces, fun w hw => ?_⟩
    rw [hkept w hw]
    refine iff_of_false Bool.false_ne_true ?_
    rintro ⟨⟨e, he, -⟩, -⟩
    cases he

/-! ## A replacement that is accepted -/

section Accepted

variable {t : HttpTarget} {a b : Answer} {page : TenantPage} {q r : Request} {v : Value}

/-- A tenant on the first page is found by one request. -/
theorem runs_search_of_page
    (hq : request t.connection (.listTenants defaultPageSize (.text "")) = .ok q)
    (hpage : (reply t.connection (.listTenants defaultPageSize (.text "")) a).2 = .ok page)
    (hlists : page.lists t.tenant = true) (answers : List Answer) :
    Runs t.search (a :: answers) [q] (.returned true) answers := by
  have hturn : (client t.connection).turn defaultPageSize (.text "") a = .ok page :=
    Client.turn_eq_ok_iff.2 ⟨⟨q, hq⟩, hpage⟩
  have hask := Client.runs_ask_page hturn answers
  rw [Client.sent_of_ok hq] at hask
  change Runs (Client.searchFrom _ _ _ _ _) _ _ _ _
  rw [Client.searchFrom_eq, ← List.append_nil [q]]
  refine hask.bind ?_
  rw [hlists]
  exact (Runs.log _ _ _ _).bind (Runs.pure true _)

/-- A tenant on the first page is cleared by a second request. -/
theorem runs_clear_of_page (hcheck : t.check = .ok ())
    (hc : t.source.Gives (client t.connection))
    (hq : request t.connection (.listTenants defaultPageSize (.text "")) = .ok q)
    (hpage : (reply t.connection (.listTenants defaultPageSize (.text "")) a).2 = .ok page)
    (hlists : page.lists t.tenant = true)
    (hr : request t.connection (.clearing t.tenant) = .ok r)
    (hv : (reply t.connection (.clearing t.tenant) b).2 = .ok v) (answers : List Answer) :
    Runs t.clear (a :: b :: answers) [q, r] (.returned ()) answers := by
  have hsearch := runs_search_of_page hq hpage hlists (b :: answers)
  have hclear := clear_cases hcheck hc (a :: b :: answers)
  rw [hsearch.ending_eq, hsearch.requests_eq, hsearch.rest_eq,
    Client.sent_of_ok (c := client t.connection) hr] at hclear
  obtain ⟨-, hrequests, called, hcalled, hend⟩ := hclear.resolve_left fun h => h.1 rfl
  obtain ⟨-, -, rfl⟩ := hcalled.of_mem (e := (r, b)) List.mem_cons_self
  have hreply : ((client t.connection).reply (.clearing t.tenant) b).2 = .ok v := hv
  rw [hreply] at hend
  refine ⟨hrequests, hend, ?_⟩
  have horderly := t.isOrderly_clear (a :: b :: answers)
  rw [(horderly (by simp [hend, Ending.ofExcept, Ending.void])).2, hrequests]
  rfl

/-- A replacement in which every step is accepted returns. -/
theorem returned_of_page {tuples mode : Value} {records : List Value} {answers : List Answer}
    {w : RelationshipsWritten} (hreplaces : t.Replaces tuples records)
    (hmode : SeedingMode.ofValue? mode = some .replace)
    (hq : request t.connection (.listTenants defaultPageSize (.text "")) = .ok q)
    (hpage : (reply t.connection (.listTenants defaultPageSize (.text "")) a).2 = .ok page)
    (hlists : page.lists t.tenant = true)
    (hr : request t.connection (.clearing t.tenant) = .ok r)
    (hv : (reply t.connection (.clearing t.tenant) b).2 = .ok v)
    (hw : (t.writeRelationships (.list records) (.text "") answers).ending = .returned w) :
    (t.seedRelationships tuples mode (a :: b :: answers)).ending =
      .returned { w with replaced := true } := by
  obtain ⟨c, hc⟩ := hreplaces.client
  cases t.isClient c hc
  have hclear := runs_clear_of_page hreplaces.check hc hq hpage hlists hr hv answers
  have hrun := runs_seedRecords_of_cleared hreplaces.nonempty hclear.ending_eq
  rw [Target.seedRelationships_of_recordsOf hreplaces.check hmode hreplaces.read, hrun.ending_eq,
    hclear.rest_eq, hw]
  rfl

end Accepted

/-- The answers to a replacement: a page that lists the tenant, and three of success. -/
def replacementAnswers : List Answer :=
  [.response 200 acmePage, .response 200 [], .response 200 [], .response 200 []]

/-- A relationship replaces all others, and an empty list replaces none. -/
theorem membersEdit_replaces :
    SeedingMode.ofValue? (.seedingMode .replace) = some .replace ∧
      (∃ w p, (createdHttpTarget.seedRelationships (.list [membersEdit.toRecord])
          (.seedingMode .replace) replacementAnswers).ending = .returned w ∧ w.replaced = true ∧
        Replacement.InOrder createdHttpTarget (.list [membersEdit.toRecord]) replacementAnswers p ∧
        p.Cleared createdHttpTarget replacementAnswers ∧
        p.Written createdHttpTarget (.list [membersEdit.toRecord]) replacementAnswers) ∧
      Relationship.recordsOf ((Value.list []).orElse (.tuple [])) = .ok [] ∧
      ∀ r ∈ (createdHttpTarget.seedRelationships (.list []) (.seedingMode .replace)
        replacementAnswers).requests, r.operation? ≠ some .remove := by
  have hreplaces : createdHttpTarget.Replaces (.list [membersEdit.toRecord])
      [membersEdit.toRecord] := ⟨rfl, ⟨_, rfl⟩, rfl, List.cons_ne_nil _ _⟩
  have hreturned : (createdHttpTarget.seedRelationships (.list [membersEdit.toRecord])
      (.seedingMode .replace) replacementAnswers).ending = .returned _ :=
    returned_of_page hreplaces rfl (by rfl) (reply_of_readPage readResult_acmePage (by rfl))
      (by decide) (by rfl) (by rfl) (by rfl)
  obtain ⟨p, -, hinOrder, hreplaced⟩ := (replacement_in_order createdHttpTarget
    (.list [membersEdit.toRecord]) (.seedingMode .replace) replacementAnswers).1 rfl
  obtain ⟨hcleared, hwritten⟩ := (hreplaced _ hreturned).1 rfl
  exact ⟨rfl, ⟨_, p, hreturned, rfl, hinOrder, hcleared, hwritten⟩, rfl,
    (replacement_in_order createdHttpTarget (.list []) (.seedingMode .replace)
      replacementAnswers).2 (Or.inr rfl)⟩

end Rebac
