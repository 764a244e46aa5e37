import Mathlib
import Rebac.Proofs.HttpAnswers
import Rebac.Proofs.TenantPaths

set_option autoImplicit false

/-!
# Searches page by page

A server may go on answering for ever, so a search is run on the beginnings of a stream of answers.
The first page is asked for with the empty token, and each later one with the token of the page
before it. A search ends at the first turn at which it fails, the page lists the tenant, or the
token is empty; until then it sends one request in each turn. Without such a turn it is waiting
after every number of answers (`Client.search_exact`). So a tenant is found exactly if it is on one
of the pages that a server cuts its list into.

A token is whatever the server says, also a number that no request can carry. Such a token ends the
search before the page is asked for (`Http.infinite_token_ends_search`).
-/

namespace Rebac

namespace Client

variable {Req Ans : Type}

/-! ## Turns -/

/-- The outcome of asking for the page of a token: the request cannot be made, or the answer is a
failure or a page. -/
def turn (c : Client Req Ans) (size token : Value) (a : Ans) : Except Failure TenantPage := do
  let _ ← c.request (.listTenants size token)
  (c.reply (.listTenants size token) a).2

/-- The token that a turn leaves: that of the page. -/
def nextToken : Except Failure TenantPage → Value
  | .ok page => page.token
  | .error _ => .text ""

/-- The token with which a search asks for a page: the first one is given, and each later one is
that of the page before. -/
def tokenAt (c : Client Req Ans) (size first : Value) (s : Stream' Ans) : Nat → Value
  | 0 => first
  | i + 1 => nextToken (c.turn size (c.tokenAt size first s i) (s.get i))

/-- The outcome of a turn of a search. -/
def pageAt (c : Client Req Ans) (size first : Value) (s : Stream' Ans) (i : Nat) :
    Except Failure TenantPage :=
  c.turn size (c.tokenAt size first s i) (s.get i)

/-- A turn is the last one: it fails, the page lists the tenant, or the token is empty. -/
def IsLast (tenant : Value) : Except Failure TenantPage → Prop
  | .error _ => True
  | .ok page => page.lists tenant = true ∨ page.token.truthy = false

/-- The first of the turns of a search that is a last one. -/
structure EndsAt (c : Client Req Ans) (tenant size first : Value) (s : Stream' Ans) (n : Nat) :
    Prop where
  last : IsLast tenant (c.pageAt size first s n)
  before : ∀ i < n, ¬ IsLast tenant (c.pageAt size first s i)

/-- These are requests for the pages of these tokens, one for each. -/
def AsksFor (c : Client Req Ans) (size : Value) (tokens : List Value) (requests : List Req) :
    Prop :=
  List.Forall₂ (fun token r => c.request (.listTenants size token) = .ok r) tokens requests

variable {c : Client Req Ans} {tenant size token first : Value} {s : Stream' Ans}

theorem turn_eq_ok_iff {a : Ans} {page : TenantPage} : c.turn size token a = .ok page ↔
    (∃ r, c.request (.listTenants size token) = .ok r) ∧
      (c.reply (.listTenants size token) a).2 = .ok page := by
  constructor
  · intro h
    obtain ⟨r, hr, hpage⟩ := exists_of_bind_eq_ok h
    exact ⟨⟨r, hr⟩, hpage⟩
  · rintro ⟨⟨r, hr⟩, hpage⟩
    rw [turn, hr]
    exact hpage

theorem exists_page_of_not_isLast {outcome : Except Failure TenantPage}
    (h : ¬ IsLast tenant outcome) :
    ∃ page, outcome = .ok page ∧ page.lists tenant = false ∧ page.token.truthy = true := by
  cases outcome with
  | error f => exact absurd trivial h
  | ok page =>
      rw [IsLast, not_or, Bool.not_eq_true, Bool.not_eq_false] at h
      exact ⟨page, rfl, h⟩

/-- The request of a turn that is not the last one can be made. -/
theorem exists_request_of_not_isLast {i : Nat} (h : ¬ IsLast tenant (c.pageAt size first s i)) :
    ∃ r, c.request (.listTenants size (c.tokenAt size first s i)) = .ok r := by
  obtain ⟨page, hpage, -⟩ := exists_page_of_not_isLast h
  exact (turn_eq_ok_iff.1 hpage).1

/-- The turns after the first are those of a search from its token on. -/
theorem tokenAt_succ (c : Client Req Ans) (size first : Value) (s : Stream' Ans) (i : Nat) :
    c.tokenAt size first s (i + 1) =
      c.tokenAt size (nextToken (c.turn size first s.head)) s.tail i := by
  induction i with
  | zero => rfl
  | succ i ih =>
      rw [tokenAt, ih]
      rfl

theorem pageAt_succ {page : TenantPage} (h : c.pageAt size first s 0 = .ok page) (i : Nat) :
    c.pageAt size first s (i + 1) = c.pageAt size page.token s.tail i := by
  have hturn : c.turn size first s.head = .ok page := h
  rw [pageAt, tokenAt_succ, hturn]
  rfl

/-- The requests of a search are the first one and those of a search from its token on. -/
theorem pagesSent_succ {page : TenantPage} (h : c.pageAt size first s 0 = .ok page) (n : Nat) :
    c.pagesSent size ((List.range (n + 1)).map (c.tokenAt size first s)) =
      c.sent (.listTenants size first) ++
        c.pagesSent size ((List.range n).map (c.tokenAt size page.token s.tail)) := by
  have hturn : c.turn size first s.head = .ok page := h
  have htokens : (List.range n).map (c.tokenAt size first s ∘ Nat.succ) =
      (List.range n).map (c.tokenAt size page.token s.tail) :=
    List.map_congr_left fun i _ => by
      rw [Function.comp_apply, Nat.succ_eq_add_one, tokenAt_succ, hturn]
      rfl
  rw [List.range_succ_eq_map, List.map_cons, List.map_map, htokens]
  rfl

theorem pagesSent_one (c : Client Req Ans) (size first : Value) (s : Stream' Ans) :
    c.pagesSent size ((List.range 1).map (c.tokenAt size first s)) =
      c.sent (.listTenants size first) :=
  List.append_nil _

/-! ## Runs -/

/-- A call for a page that is answered ends as its turn. -/
theorem runs_ask_turn (c : Client Req Ans) (size token : Value) (a : Ans) (answers : List Ans) :
    Runs (c.ask (.listTenants size token)) (a :: answers) (c.sent (.listTenants size token))
      (.ofExcept (c.turn size token a)) (c.ask (.listTenants size token) (a :: answers)).rest := by
  refine runs_ask ?_
  cases h : c.request (.listTenants size token) with
  | error f =>
      rw [ask_of_error h, turn, h]
      rfl
  | ok r =>
      rw [ask_cons h, turn, h]
      rfl

/-- A call for a page leaves the other answers. -/
theorem runs_ask_page {a : Ans} {page : TenantPage} (h : c.turn size token a = .ok page)
    (answers : List Ans) :
    Runs (c.ask (.listTenants size token)) (a :: answers) (c.sent (.listTenants size token))
      (.returned page) answers := by
  obtain ⟨⟨r, hr⟩, -⟩ := turn_eq_ok_iff.1 h
  have hrun := c.runs_ask_turn size token a answers
  rw [h, ask_cons hr] at hrun
  exact hrun

/-- A turn that is not the last one is followed by the search from its token on. -/
theorem runs_searchFrom_step {a : Ans} {page : TenantPage} {answers rest : List Ans} {pages : Nat}
    {requests : List Req} {ending : Ending Bool} (h : c.turn size token a = .ok page)
    (hlists : page.lists tenant = false) (htoken : page.token.truthy = true)
    (hrun : Runs (searchFrom c tenant size page.token (pages + 1)) answers requests ending rest) :
    Runs (searchFrom c tenant size token pages) (a :: answers)
      (c.sent (.listTenants size token) ++ requests) ending rest := by
  rw [searchFrom_eq]
  refine (runs_ask_page h answers).bind ?_
  rw [hlists, htoken]
  exact hrun

/-- The run of a search whose next turn is the last one. -/
theorem runs_searchFrom_last {a : Ans} (h : IsLast tenant (c.turn size token a)) (pages : Nat)
    (answers : List Ans) : ∃ rest,
      Runs (searchFrom c tenant size token pages) (a :: answers) (c.sent (.listTenants size token))
        (.ofExcept ((c.turn size token a).map (·.lists tenant))) rest := by
  rw [searchFrom_eq]
  cases hturn : c.turn size token a with
  | error f =>
      have hask := c.runs_ask_turn size token a answers
      rw [hturn] at hask
      exact ⟨_, hask.bind_failed⟩
  | ok page =>
      rw [hturn] at h
      rw [← List.append_nil (c.sent _)]
      refine ⟨answers, (runs_ask_page hturn answers).bind ?_⟩
      -- A page that is the last one and does not list the tenant has no token.
      change Runs _ _ [] (.returned (page.lists tenant)) _
      cases hlists : page.lists tenant with
      | true => exact (Runs.log _ _ _ _).bind (Runs.pure true _)
      | false =>
          rw [h.resolve_left (by simp [hlists])]
          exact (Runs.log _ _ _ _).bind (Runs.pure false _)

/-- A search asks for one page after the other until the last turn, and ends as that. -/
theorem runs_searchFrom_of_endsAt {n : Nat} : ∀ {first : Value} {s : Stream' Ans} {k : Nat},
    c.EndsAt tenant size first s n → n < k → ∀ pages, ∃ rest,
      Runs (searchFrom c tenant size first pages) (s.take k)
        (c.pagesSent size ((List.range (n + 1)).map (c.tokenAt size first s)))
        (.ofExcept ((c.pageAt size first s n).map (·.lists tenant))) rest := by
  -- After a turn, what is left is a search from the next token on, with one turn less to come.
  induction n with
  | zero =>
      intro first s k hends hk pages
      obtain ⟨k, rfl⟩ := Nat.exists_eq_succ_of_ne_zero (Nat.ne_zero_of_lt hk)
      rw [Stream'.take_succ, pagesSent_one]
      exact runs_searchFrom_last hends.last pages (s.tail.take k)
  | succ n ih =>
      intro first s k hends hk pages
      obtain ⟨k, rfl⟩ := Nat.exists_eq_succ_of_ne_zero (Nat.ne_zero_of_lt hk)
      obtain ⟨page, hpage, hlists, htoken⟩ :=
        exists_page_of_not_isLast (hends.before 0 (Nat.succ_pos n))
      have hpages := pageAt_succ hpage
      have hrest : c.EndsAt tenant size page.token s.tail n := by
        refine ⟨?_, fun i hi => ?_⟩
        · rw [← hpages]
          exact hends.last
        · rw [← hpages]
          exact hends.before (i + 1) (Nat.succ_lt_succ hi)
      obtain ⟨rest, hrun⟩ := ih hrest (Nat.lt_of_succ_lt_succ hk) (pages + 1)
      refine ⟨rest, ?_⟩
      rw [Stream'.take_succ, pagesSent_succ hpage, hpages]
      exact runs_searchFrom_step hpage hlists htoken hrun

/-- A search without a last turn asks for one page more than there are answers, and waits. -/
theorem runs_searchFrom_of_endless (k : Nat) : ∀ {first : Value} {s : Stream' Ans},
    (∀ i, ¬ IsLast tenant (c.pageAt size first s i)) → ∀ pages, ∃ rest,
      Runs (searchFrom c tenant size first pages) (s.take k)
        (c.pagesSent size ((List.range (k + 1)).map (c.tokenAt size first s))) .waiting rest := by
  induction k with
  | zero =>
      intro first s hendless pages
      obtain ⟨r, hr⟩ := exists_request_of_not_isLast (hendless 0)
      rw [tokenAt] at hr
      have hask : (c.ask (.listTenants size first) []).ending = .waiting := by
        rw [ask, hr]
      -- The first request is sent without an answer to it.
      rw [Stream'.take_zero, pagesSent_one, searchFrom_eq]
      exact ⟨_, (runs_ask hask).bind_waiting⟩
  | succ k ih =>
      intro first s hendless pages
      obtain ⟨page, hpage, hlists, htoken⟩ := exists_page_of_not_isLast (hendless 0)
      have hrest : ∀ i, ¬ IsLast tenant (c.pageAt size page.token s.tail i) := fun i => by
        rw [← pageAt_succ hpage]
        exact hendless (i + 1)
      obtain ⟨rest, hrun⟩ := ih hrest (pages + 1)
      refine ⟨rest, ?_⟩
      rw [Stream'.take_succ, pagesSent_succ hpage]
      exact runs_searchFrom_step hpage hlists htoken hrun

/-! ## Requests -/

/-- If the requests for the pages can all be made, each of them is sent. -/
theorem asksFor_pagesSent (c : Client Req Ans) (size : Value) (tokens : List Value)
    (h : ∀ token ∈ tokens, ∃ r, c.request (.listTenants size token) = .ok r) :
    c.AsksFor size tokens (c.pagesSent size tokens) := by
  induction tokens with
  | nil => exact .nil
  | cons token tokens ih =>
      obtain ⟨⟨r, hr⟩, hrest⟩ := List.forall_mem_cons.1 h
      change c.AsksFor size _ (c.sent (.listTenants size token) ++ c.pagesSent size tokens)
      rw [sent_of_ok hr]
      exact .cons hr (ih hrest)

/-- One page is asked for in each turn before the last. -/
theorem asksFor_of_not_isLast {n : Nat} (h : ∀ i < n, ¬ IsLast tenant (c.pageAt size first s i)) :
    c.AsksFor size ((List.range n).map (c.tokenAt size first s))
      (c.pagesSent size ((List.range n).map (c.tokenAt size first s))) := by
  refine c.asksFor_pagesSent size _ fun token htoken => ?_
  obtain ⟨i, hi, rfl⟩ := List.mem_map.1 htoken
  exact exists_request_of_not_isLast (h i (List.mem_range.1 hi))

/-- The requests of a search are those before a turn and the one of the turn. -/
theorem pagesSent_concat (c : Client Req Ans) (size first : Value) (s : Stream' Ans) (n : Nat) :
    c.pagesSent size ((List.range (n + 1)).map (c.tokenAt size first s)) =
      c.pagesSent size ((List.range n).map (c.tokenAt size first s)) ++
        c.sent (.listTenants size (c.tokenAt size first s n)) := by
  rw [List.range_succ, List.map_append, pagesSent, List.flatMap_append]
  exact congrArg _ (List.append_nil _)

/-! ## Servers -/

/-- A turn that is a last one is not before the first such turn. -/
theorem exists_endsAt_of_isLast {i : Nat} (h : IsLast tenant (c.pageAt size first s i)) :
    ∃ n ≤ i, c.EndsAt tenant size first s n := by
  classical
  let hex : ∃ n, IsLast tenant (c.pageAt size first s n) := ⟨i, h⟩
  exact ⟨Nat.find hex, Nat.find_min' hex h, Nat.find_spec hex, fun j => Nat.find_min hex⟩

/-- A stream of answers is that of a server with these pages: all of them but the last one have a
token. -/
structure Serves (c : Client Req Ans) (size : Value) (s : Stream' Ans) (pages : List TenantPage) :
    Prop where
  nonempty : pages ≠ []
  page : ∀ (i : Nat) (h : i < pages.length), c.pageAt size (.text "") s i = .ok pages[i]
  more : ∀ (i : Nat) (h : i < pages.length), pages[i].token.truthy = true ↔ i + 1 < pages.length

/-- A tenant is on the list that a server cuts into pages. -/
def IsListed (tenant : Value) (pages : List TenantPage) : Prop :=
  ∃ t ∈ pages.flatMap (·.tenants), t.id.same tenant = true

theorem isListed_iff {pages : List TenantPage} :
    IsListed tenant pages ↔ ∃ page ∈ pages, page.lists tenant = true := by
  simp only [IsListed, TenantPage.lists, List.mem_flatMap, List.any_eq_true]
  constructor
  · rintro ⟨t, ⟨page, hpage, ht⟩, hsame⟩
    exact ⟨page, hpage, t, ht, hsame⟩
  · rintro ⟨page, hpage, t, ht, hsame⟩
    exact ⟨t, ⟨page, hpage, ht⟩, hsame⟩

/-- A search of the pages of a server ends at one of them. -/
theorem Serves.exists_endsAt {pages : List TenantPage} (h : c.Serves size s pages)
    (tenant : Value) : ∃ n < pages.length, c.EndsAt tenant size (.text "") s n := by
  have hlength := List.length_pos_of_ne_nil h.nonempty
  have hlast : pages.length - 1 < pages.length := Nat.sub_one_lt_of_lt hlength
  -- If nothing ends the search before, the missing token of the last page does.
  have hempty : pages[pages.length - 1].token.truthy = false := by
    rw [Bool.eq_false_iff, ne_eq, h.more _ hlast]
    omega
  obtain ⟨n, hn, hends⟩ : ∃ n ≤ pages.length - 1, c.EndsAt tenant size (.text "") s n := by
    refine exists_endsAt_of_isLast ?_
    rw [h.page _ hlast]
    exact Or.inr hempty
  exact ⟨n, by omega, hends⟩

/-- Where a search of the pages of a server ends, the tenant is listed exactly if it is listed at
all. -/
theorem Serves.lists_iff {pages : List TenantPage} {n : Nat} (h : c.Serves size s pages)
    (hn : n < pages.length) (hends : c.EndsAt tenant size (.text "") s n) :
    pages[n].lists tenant = true ↔ IsListed tenant pages := by
  rw [isListed_iff]
  refine ⟨fun hlists => ⟨_, List.getElem_mem hn, hlists⟩, ?_⟩
  rintro ⟨page, hpage, hlists⟩
  obtain ⟨i, hi, rfl⟩ := List.getElem_of_mem hpage
  rcases Nat.lt_trichotomy i n with hbefore | rfl | hbehind
  · -- The search would have ended at this page.
    have hlast : ¬ IsLast tenant (.ok pages[i]) := by
      rw [← h.page i hi]
      exact hends.before i hbefore
    exact absurd (Or.inl hlists) hlast
  · exact hlists
  · -- There is a page behind this one, so the search ends for no other reason.
    have hlast : IsLast tenant (.ok pages[n]) := by
      rw [← h.page n hn]
      exact hends.last
    have htoken : pages[n].token.truthy = true := (h.more n hn).2 (by omega)
    exact hlast.resolve_right (by simp [htoken])

/-- A search of the pages of a server finds a tenant exactly if it is listed. -/
theorem Serves.hasTenant_ending {pages : List TenantPage} (h : c.Serves size s pages)
    (tenant : Value) {k : Nat} (hk : pages.length ≤ k) :
    ∃ found, (c.hasTenant tenant size (s.take k)).ending = .returned found ∧
      (found = true ↔ IsListed tenant pages) := by
  obtain ⟨n, hn, hends⟩ := h.exists_endsAt tenant
  obtain ⟨rest, hrun⟩ := runs_searchFrom_of_endsAt hends (Nat.lt_of_lt_of_le hn hk) 0
  refine ⟨pages[n].lists tenant, ?_, h.lists_iff hn hends⟩
  rw [hasTenant, hrun.ending_eq, h.page n hn]
  rfl

/-- **How a search ends.** At the first turn that fails, lists the tenant or has no token, a search
fails, finds the tenant or does not find it. It has asked for one page in each turn with the token
of the page before, except in the last turn if that request cannot be made. Without such a turn it
asks for one page after the other and never ends. So it finds a tenant exactly if the tenant is on
the list that a server cuts into pages, and a tenant that has to exist is missed exactly if it is
not on that list. -/
theorem search_exact (c : Client Req Ans) (tenant size : Value) (s : Stream' Ans) :
    (∀ n, c.EndsAt tenant size (.text "") s n → ∀ k > n,
      let run := c.hasTenant tenant size (s.take k)
      let token := c.tokenAt size (.text "") s
      run.ending = .ofExcept ((c.pageAt size (.text "") s n).map (·.lists tenant)) ∧
        ((∃ r, c.request (.listTenants size (token n)) = .ok r) →
          c.AsksFor size ((List.range (n + 1)).map token) run.requests) ∧
        ∀ f, c.request (.listTenants size (token n)) = .error f →
          c.AsksFor size ((List.range n).map token) run.requests ∧ run.ending = .failed f) ∧
    ((∀ i, ¬ IsLast tenant (c.pageAt size (.text "") s i)) → ∀ k,
      let run := c.hasTenant tenant size (s.take k)
      run.ending = .waiting ∧ c.AsksFor size
        ((List.range (k + 1)).map (c.tokenAt size (.text "") s)) run.requests) ∧
    (∀ pages, c.Serves size s pages → ∀ k ≥ pages.length,
      ∃ found, (c.hasTenant tenant size (s.take k)).ending = .returned found ∧
        (found = true ↔ IsListed tenant pages)) ∧
    ∀ pages, c.Serves defaultPageSize s pages → ∀ k ≥ pages.length,
      ((c.resolveTenant tenant false (s.take k)).ending = .failed (.tenantNotFound tenant) ↔
        ¬ IsListed tenant pages) ∧
      ((c.resolveTenant tenant false (s.take k)).ending = .returned .existing ↔
        IsListed tenant pages) := by
  refine ⟨fun n hends k hk => ?_, fun hendless k => ?_,
    fun pages hserves k hk => hserves.hasTenant_ending tenant hk, fun pages hserves k hk => ?_⟩
  · obtain ⟨rest, hrun⟩ := runs_searchFrom_of_endsAt hends hk 0
    have hbefore := asksFor_of_not_isLast hends.before
    have hrequests := hrun.requests_eq
    rw [pagesSent_concat] at hrequests
    refine ⟨hrun.ending_eq, ?_, fun f hf => ?_⟩
    · rintro ⟨r, hr⟩
      rw [hasTenant, hrequests, sent_of_ok hr, List.range_succ, List.map_append]
      exact List.rel_append hbefore (.cons hr .nil)
    · -- The refusal of the request is the failure of the turn, and nothing is sent for it.
      have hrefused : c.pageAt size (.text "") s n = .error f := by
        rw [pageAt, turn, hf]
        rfl
      rw [hasTenant, hrequests, hrun.ending_eq, hrefused, sent, hf, List.append_nil]
      exact ⟨hbefore, rfl⟩
  · obtain ⟨rest, hrun⟩ := runs_searchFrom_of_endless k hendless 0
    refine ⟨hrun.ending_eq, ?_⟩
    rw [hasTenant, hrun.requests_eq]
    exact asksFor_of_not_isLast fun i _ => hendless i
  · obtain ⟨found, hending, hlisted⟩ := hserves.hasTenant_ending tenant hk
    rw [(c.runs_resolveTenant_search tenant _).ending_eq, hending, ← hlisted]
    cases found with
    | true => simp [Ending.ofSearch]
    | false => simp [Ending.ofSearch]

end Client

namespace Http

variable {conn : Connection} {bytes : List UInt8} {data : Value}

/-! ## Pages of an HTTP server -/

theorem exists_body_page_iff {size token : Value} :
    (∃ b, body (.listTenants size token) = .ok b) ↔
      (∃ j, size.toJson = .ok j) ∧ ∃ j, token.toJson = .ok j := by
  constructor
  · rintro ⟨b, hb⟩
    obtain ⟨j, hj, -⟩ := exists_of_bind_eq_ok hb
    obtain ⟨vs, -, _ | ⟨hsize, _ | ⟨htoken, -⟩⟩⟩ :=
      Value.exists_of_toJson_record (mapError_eq_ok_iff.1 hj)
    exact ⟨⟨_, hsize⟩, _, htoken⟩
  · rintro ⟨⟨j, hj⟩, k, hk⟩
    refine ⟨some (Json.ofFields [("page_size", j), ("continuous_token", k)]), ?_⟩
    simp only [body, payload, Value.record, List.map_cons, List.map_nil, Value.toJson,
      Value.toJsonFields, hj, hk]
    rfl

/-- **Which pages can be asked for.** If the first page can be, every other one can whose token is
data, as each text is. -/
theorem exists_page_request_iff {size token : Value} :
    (∃ r, request conn (.listTenants size token) = .ok r) ↔
      (conn.base.IsReadable ∧ conn.base.Fits "/v1/tenants/list") ∧
        (∃ j, size.toJson = .ok j) ∧ ∃ j, token.toJson = .ok j := by
  rw [exists_request_iff rfl, exists_body_page_iff]

/-- The page in the data of an answer. -/
theorem reply_of_readPage {size token : Value} {page : TenantPage}
    (hdata : readResult bytes = .ok data) (hpage : readPage data = .ok page) :
    (reply conn (.listTenants size token) (.response 200 bytes)).2 = .ok page := by
  rw [reply_of_success rfl, hdata]
  change (readPage data).mapError Failure.access = .ok page
  rw [hpage]
  rfl

/-- The turn of an answer with a page in its data. -/
theorem turn_of_readResult {size token : Value} {page : TenantPage} {r : Request}
    (hr : request conn (.listTenants size token) = .ok r) (hdata : readResult bytes = .ok data)
    (hpage : readPage data = .ok page) :
    (client conn).turn size token (.response 200 bytes) = .ok page := by
  have hreply : (reply conn (.listTenants size token) (.response 200 bytes)).2 = .ok page :=
    reply_of_readPage hdata hpage
  exact Client.turn_eq_ok_iff.2 ⟨⟨r, hr⟩, hreply⟩

/-- A page of the server on this machine can be asked for by every token that is a text. -/
theorem exists_request_page (token : String) :
    ∃ r, request localServer (.listTenants defaultPageSize (.text token)) = .ok r := by
  have hfirst : ∃ r, request localServer (.listTenants defaultPageSize (.text "")) = .ok r :=
    ⟨_, by rfl⟩
  rw [exists_page_request_iff] at hfirst ⊢
  exact ⟨hfirst.1, hfirst.2.1, _, Value.toJson_text token⟩

/-- A page with another tenant, and a token for the next one. -/
def otherPage : List UInt8 :=
  Text.Utf8.encode
    "\x7b\"tenants\": [\x7b\"id\": \"other\"\x7d], \"continuous_token\": \"2\"\x7d".toList

/-- The last page, with the tenant that is looked for. -/
def acmePage : List UInt8 :=
  Text.Utf8.encode "\x7b\"tenants\": [\x7b\"id\": \"acme\"\x7d]\x7d".toList

/-- An empty page, with a number as the token for the next one. -/
def infinitePage : List UInt8 := Text.Utf8.encode "\x7b\"continuous_token\": 1e999\x7d".toList

theorem readResult_otherPage : readResult otherPage =
    .ok (.map [(.text "tenants", .list [.map [(.text "id", .text "other")]]),
      (.text "continuous_token", .text "2")]) := by cbv

theorem readResult_acmePage : readResult acmePage =
    .ok (.map [(.text "tenants", .list [.map [(.text "id", .text "acme")]])]) := by cbv

theorem readResult_infinitePage : readResult infinitePage =
    .ok (.map [(.text "continuous_token", .float (.infinite false))]) := by cbv

/-- The pages of a server that has two tenants, each on a page of its own. -/
def twoPages : List TenantPage :=
  [⟨[⟨.text "other", .text "", .none⟩], .text "2"⟩, ⟨[⟨.text "acme", .text "", .none⟩], .text ""⟩]

/-- The answers of that server. -/
def twoPageAnswers : Stream' Answer :=
  .cons (.response 200 otherPage) (.const (.response 200 acmePage))

theorem twoPages_served : (client localServer).Serves defaultPageSize twoPageAnswers twoPages := by
  have hfirst : (client localServer).pageAt defaultPageSize (.text "") twoPageAnswers 0 =
      .ok twoPages[0] :=
    turn_of_readResult (by rfl) readResult_otherPage (by rfl)
  have hsecond : (client localServer).pageAt defaultPageSize (.text "") twoPageAnswers 1 =
      .ok twoPages[1] := by
    rw [Client.pageAt_succ hfirst]
    exact turn_of_readResult (by rfl) readResult_acmePage (by rfl)
  refine ⟨List.cons_ne_nil _ _, fun i hi => ?_, fun i hi => ?_⟩
  · match i, hi with
    | 0, _ => exact hfirst
    | 1, _ => exact hsecond
  · match i, hi with
    | 0, _ => exact iff_of_true rfl (by decide)
    | 1, _ => exact iff_of_false Bool.false_ne_true (by decide)

/-- A server that answers with the same page for ever is searched for ever. -/
theorem otherPage_endless (i : Nat) : ∀ first : String,
    ¬ Client.IsLast (.text "acme") ((client localServer).pageAt defaultPageSize (.text first)
      (.const (.response 200 otherPage)) i) := by
  have hpage : ∀ first : String, (client localServer).pageAt defaultPageSize (.text first)
      (.const (.response 200 otherPage)) 0 = .ok twoPages[0] := fun first => by
    obtain ⟨r, hr⟩ := exists_request_page first
    exact turn_of_readResult hr readResult_otherPage (by rfl)
  induction i with
  | zero =>
      intro first
      rw [hpage]
      exact not_or.2 ⟨by decide, Bool.noConfusion⟩
  | succ i ih =>
      intro first
      rw [Client.pageAt_succ (hpage first), Stream'.tail_const]
      exact ih "2"

/-- The tenant on the second page is found there, and on a server that answers with the first page
for ever it is looked for without end. -/
theorem acme_found_on_second_page :
    ((client localServer).EndsAt (.text "acme") defaultPageSize (.text "") twoPageAnswers 1 ∧
      let run := (client localServer).hasTenant (.text "acme") defaultPageSize
        (twoPageAnswers.take 2)
      run.ending = .returned true ∧
        (client localServer).AsksFor defaultPageSize [.text "", .text "2"] run.requests) ∧
    ((∀ i, ¬ Client.IsLast (.text "acme") ((client localServer).pageAt defaultPageSize (.text "")
        (.const (.response 200 otherPage)) i)) ∧
      ((client localServer).hasTenant (.text "acme") defaultPageSize
        (Stream'.take 3 (.const (.response 200 otherPage)))).ending = .waiting) ∧
    (client localServer).Serves defaultPageSize twoPageAnswers twoPages ∧
      ((client localServer).resolveTenant (.text "acme") false (twoPageAnswers.take 2)).ending =
        .returned .existing ∧
      ((client localServer).resolveTenant (.text "ghost") false (twoPageAnswers.take 2)).ending =
        .failed (.tenantNotFound (.text "ghost")) := by
  have hserves := twoPages_served
  have hpage := hserves.page
  have hends : (client localServer).EndsAt (.text "acme") defaultPageSize (.text "")
      twoPageAnswers 1 := by
    refine ⟨?_, fun i hi => ?_⟩
    · rw [hpage 1 (by decide)]
      exact Or.inl (by decide)
    · obtain rfl := Nat.lt_one_iff.1 hi
      rw [hpage 0 (by decide)]
      exact not_or.2 ⟨by decide, Bool.noConfusion⟩
  have htoken : (client localServer).tokenAt defaultPageSize (.text "") twoPageAnswers 1 =
      .text "2" := by
    change Client.nextToken ((client localServer).pageAt _ _ _ 0) = _
    rw [hpage 0 (by decide)]
    rfl
  have hendless := fun i => otherPage_endless i ""
  obtain ⟨hfound, -, -, hresolved⟩ :=
    (client localServer).search_exact (.text "acme") defaultPageSize twoPageAnswers
  obtain ⟨-, hwaits, -, -⟩ := (client localServer).search_exact (.text "acme") defaultPageSize
    (.const (.response 200 otherPage))
  obtain ⟨-, -, -, hmissed⟩ :=
    (client localServer).search_exact (.text "ghost") defaultPageSize twoPageAnswers
  obtain ⟨hending, hrequests, -⟩ := hfound 1 hends 2 (by decide)
  rw [hpage 1 (by decide)] at hending
  rw [htoken] at hrequests
  have hasks := hrequests (exists_request_page "2")
  refine ⟨⟨hends, hending, ?_⟩, ⟨hendless, (hwaits hendless 3).1⟩, hserves,
    (hresolved _ hserves 2 (by decide)).2.2 ?_, (hmissed _ hserves 2 (by decide)).1.2 ?_⟩
  · rw [← htoken]
    exact hasks
  · rw [Client.IsListed]
    decide
  · rw [Client.IsListed]
    decide

/-- **A token that no request can carry ends a search before its page is asked for.** Another page
would list the tenant, but only one request is sent, and the search fails. -/
theorem infinite_token_ends_search :
    ∃ first second r, (reply localServer (.listTenants defaultPageSize (.text ""))
          (.response 200 infinitePage)).2 = .ok first ∧
      first.lists (.text "acme") = false ∧ first.token.truthy = true ∧
      (reply localServer (.listTenants defaultPageSize first.token)
          (.response 200 acmePage)).2 = .ok second ∧
      second.lists (.text "acme") = true ∧
      ∃ rest, Runs ((client localServer).hasTenant (.text "acme") defaultPageSize)
        [.response 200 infinitePage, .response 200 acmePage] [r]
        (.failed (.encode .outOfRange)) rest := by
  obtain ⟨r, hr⟩ := exists_request_page ""
  have hturn : (client localServer).turn defaultPageSize (.text "") (.response 200 infinitePage) =
      .ok ⟨[], .float (.infinite false)⟩ :=
    turn_of_readResult hr readResult_infinitePage (by rfl)
  have hrefused : request localServer
      (.listTenants defaultPageSize (.float (.infinite false))) = .error (.encode .outOfRange) := by
    rfl
  refine ⟨⟨[], .float (.infinite false)⟩, twoPages[1], r, (Client.turn_eq_ok_iff.1 hturn).2, by rfl,
    by rfl, reply_of_readPage readResult_acmePage (by rfl), by decide,
    [.response 200 acmePage], ?_⟩
  have hfails : Runs ((client localServer).searchFrom (.text "acme") defaultPageSize
      (.float (.infinite false)) 1) [.response 200 acmePage] [] (.failed (.encode .outOfRange))
      [.response 200 acmePage] := by
    have hask := Client.ask_of_error (c := client localServer) hrefused [.response 200 acmePage]
    rw [Client.searchFrom_eq]
    exact .bind_failed ⟨by rw [hask]; rfl, by rw [hask], by rw [hask]⟩
  have hrun := Client.runs_searchFrom_step hturn (by rfl) (by rfl) hfails
  rw [Client.sent_of_ok hr] at hrun
  exact hrun

end Http

end Rebac
