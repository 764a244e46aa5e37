import Rebac.Proofs.HttpAnswers

set_option autoImplicit false

/-!
# Calls that share a server

Any number of calls run against one server, each with its own client, tenant and answers. What the
server sees is one list of exchanges in which the exchanges of each call stand in their order
(`Interleaves`). A server knows nothing of calls: it takes one exchange after the other
(`Caller.Shares`).

Each call by itself keeps to two rules, whatever the answers are. A deletion comes after a creation
that was answered with success in the same call (`Caller.isGuarded_log`), and a write ends with it
(`deletion_of_writeLog`).
-/

namespace Rebac

open Dialogue Write

/-- What a caller does with its target: a write, or the seeding of relationships. -/
inductive Task
  | write (kind : WriteKind)
  | seed (tuples mode : Value)

/-- Runs a task on a target, without its result. -/
def Task.run {Req Ans : Type} (t : Target Req Ans) : Task → Dialogue Req Ans Unit
  | .write k => k.run t
  | .seed tuples mode => do
      let _ ← t.seedRelationships tuples mode
      return ()

/-- A call with everything that determines its run. -/
structure Caller extends HttpTarget where
  task : Task
  answers : List Http.Answer

namespace Caller

/-- What a call exchanges with the server. -/
def log (c : Caller) : List (Http.Request × Http.Answer) :=
  (c.task.run c.toTarget).exchanges c.answers

/-- How a call ends. -/
def ending (c : Caller) : Ending Unit := (c.task.run c.toTarget c.answers).ending

end Caller

namespace Http

variable {α : Type} {conn : Connection} {tenant : Value} {create : Bool}
variable {log log' : List (Request × Answer)} {answers : List Answer} {e : Request × Answer}

/-! ## Creations and deletions -/

/-- A creation that is answered with success. -/
def Created (conn : Connection) (tenant : Value) (e : Request × Answer) : Prop :=
  Asks conn tenant e.1 .create ∧ e.2.Accepts

/-- Every deletion comes after a creation that was answered with success. -/
def IsGuarded (conn : Connection) (tenant : Value) (log : List (Request × Answer)) : Prop :=
  ∀ before e after, log = before ++ e :: after → Asks conn tenant e.1 .delete →
    ∃ e' ∈ before, Created conn tenant e'

theorem isGuarded_nil : IsGuarded conn tenant [] := by
  intro before e after h
  simp at h

theorem IsGuarded.append (h : IsGuarded conn tenant log) (h' : IsGuarded conn tenant log') :
    IsGuarded conn tenant (log ++ log') := by
  intro before e after hsplit hdelete
  rcases List.append_eq_append_iff.1 hsplit with ⟨first, rfl, hfirst⟩ | ⟨second, hsecond, hrest⟩
  · obtain ⟨e', he', hcreated⟩ := h' first e after hfirst hdelete
    exact ⟨e', List.mem_append_right _ he', hcreated⟩
  · cases second with
    | nil =>
        rw [List.append_nil] at hsecond
        obtain ⟨e', he', -⟩ := h' [] e after hrest.symm hdelete
        exact absurd he' List.not_mem_nil
    | cons e₀ second =>
        cases hrest
        exact h before e second hsecond hdelete

/-! ## One write -/

/-- The requests of a resolution create a tenant or list tenants. -/
theorem asks_of_mem_resolution
    (he : e ∈ ((client conn).resolveTenant tenant create).exchanges answers) :
    Asks conn tenant e.1 .create ∨ Asks conn tenant e.1 .list := by
  cases create with
  | true =>
      obtain ⟨ending, hcall, -⟩ := (client conn).exists_asked_creation tenant answers
      exact Or.inl (asks_create (hcall.of_mem he).2.1)
  | false =>
      rw [(client conn).exchanges_resolveTenant_search] at he
      obtain ⟨token, htoken⟩ := Client.exists_token_of_mem_search he
      exact Or.inr (asks_list htoken)

/-- A tenant that was created was so by an answer of success. -/
theorem exists_created_of_resolution
    (hres : ((client conn).resolveTenant tenant create answers).ending = .returned .created) :
    ∃ e ∈ ((client conn).resolveTenant tenant create).exchanges answers,
      Created conn tenant e := by
  obtain ⟨rfl, -⟩ := ((client conn).resolveTenant_created_iff tenant create answers).1 hres
  obtain ⟨ending, hcall, hending⟩ := (client conn).exists_asked_creation tenant answers
  rw [hending, Ending.ofCreation_eq_created_iff] at hres
  obtain ⟨v, rfl⟩ := hres
  obtain ⟨r, a, hlog, hr, hreply⟩ := hcall.of_returned
  rw [hlog]
  exact ⟨_, List.mem_singleton_self _, asks_create hr, accepts_of_reply_ok hreply⟩

/-- A call that writes asks for no deletion. -/
theorem not_delete_of_writing {call : Call α} {ending : Ending α} (hwrite : call.isWrite = true)
    (hcall : (client conn).Asked call log ending) (he : e ∈ log) :
    ¬ Asks conn tenant e.1 .delete := by
  intro hdelete
  rcases operation?_of_isWrite hwrite (hcall.of_mem he).2.1 with hop | ⟨data, hop⟩
  · cases hdelete.operation?.symm.trans (operation?_of_request (hcall.of_mem he).2.1 hop)
  · cases hdelete.operation?.symm.trans (operation?_of_request (hcall.of_mem he).2.1 hop)

theorem not_delete_of_resolution
    (he : e ∈ ((client conn).resolveTenant tenant create).exchanges answers) :
    ¬ Asks conn tenant e.1 .delete := by
  intro hdelete
  rcases asks_of_mem_resolution he with hop | hop
  · cases hdelete.unique hop
  · cases hdelete.unique hop

/-- A deletion behind exchanges that are none is the exchange of the last call. -/
theorem deletion_of_split {before after : List (Request × Answer)} {call : Call α}
    {ending : Ending α} (hnot : ∀ e ∈ log, ¬ Asks conn tenant e.1 .delete)
    (hcall : (client conn).Asked call log' ending)
    (hsplit : log ++ log' = before ++ e :: after) (hdelete : Asks conn tenant e.1 .delete) :
    before = log ∧ after = [] := by
  have hlast : ∀ first, log' = first ++ e :: after → first = [] ∧ after = [] := by
    intro first hfirst
    have he : e ∈ log' := by
      rw [hfirst]
      exact List.mem_append_right _ List.mem_cons_self
    have hsingle := (hcall.of_mem he).1.symm.trans hfirst
    rw [List.singleton_eq_append_iff] at hsingle
    rcases hsingle with ⟨hnil, hcons⟩ | ⟨-, hcons⟩
    · cases hcons
      exact ⟨hnil, rfl⟩
    · cases hcons
  rcases List.append_eq_append_iff.1 hsplit with ⟨first, rfl, hfirst⟩ | ⟨second, rfl, hsecond⟩
  · obtain ⟨rfl, hafter⟩ := hlast first hfirst
    exact ⟨List.append_nil _, hafter⟩
  · cases second with
    | nil => exact ⟨(List.append_nil _).symm, (hlast [] hsecond.symm).2⟩
    | cons e₀ second =>
        cases hsecond
        exact absurd hdelete (hnot e (List.mem_append_right _ List.mem_cons_self))

/-- **A write deletes only what it created, and ends with it.** -/
theorem deletion_of_writeLog {call : Call α} {ending : Ending Unit}
    {before after : List (Request × Answer)} (hwrite : call.isWrite = true)
    (h : WriteLog (client conn) tenant create call answers log ending)
    (hsplit : log = before ++ e :: after) (hdelete : Asks conn tenant e.1 .delete) :
    after = [] ∧ ∃ e' ∈ before, Created conn tenant e' := by
  have he : e ∈ log := by
    rw [hsplit]
    exact List.mem_append_right _ List.mem_cons_self
  cases h with
  | unresolved _ => exact absurd hdelete (not_delete_of_resolution he)
  | kept _ hcall _ =>
      rcases List.mem_append.1 he with he | he
      · exact absurd hdelete (not_delete_of_resolution he)
      · exact absurd hdelete (not_delete_of_writing hwrite hcall he)
  | @undone f writing deleting ending hres hcall hdeletion =>
      have hnot : ∀ e ∈ ((client conn).resolveTenant tenant create).exchanges answers ++ writing,
          ¬ Asks conn tenant e.1 .delete := by
        intro e he
        rcases List.mem_append.1 he with he | he
        · exact not_delete_of_resolution he
        · exact not_delete_of_writing hwrite hcall he
      rw [← List.append_assoc] at hsplit
      obtain ⟨rfl, hafter⟩ := deletion_of_split hnot hdeletion hsplit hdelete
      obtain ⟨e', he', hcreated⟩ := exists_created_of_resolution hres
      exact ⟨hafter, e', List.mem_append_left _ he', hcreated⟩

/-- What any write exchanges is guarded. -/
theorem isGuarded_of_isWriteLog {t : HttpTarget}
    (h : IsWriteLog t.source t.tenant log) : IsGuarded t.connection t.tenant log := by
  rcases h with rfl | ⟨c, create, answers, ending, call, hc, hwrite, -, hlog⟩
  · exact isGuarded_nil
  · rw [t.isClient c hc] at hlog
    intro before e after hsplit hdelete
    exact (deletion_of_writeLog hwrite hlog hsplit hdelete).2

end Http

open Http

/-- **Every call deletes only what it created itself.** -/
theorem Caller.isGuarded_log (c : Caller) : IsGuarded c.connection c.tenant c.log := by
  unfold Caller.log
  cases c.task with
  | write k => exact isGuarded_of_isWriteLog (c.isWriteLog_run k c.answers)
  | seed tuples mode =>
      obtain ⟨first, second, hlog, hfirst, hsecond⟩ := c.log_seed tuples mode c.answers
      have hrun := (Runs.self (c.seedRelationships tuples mode) c.answers).bind_quiet
        fun _ => Runs.pure () _
      rw [Task.run, exchanges_of_runs hrun]
      change IsGuarded _ _ ((c.seedRelationships tuples mode).exchanges c.answers)
      rw [hlog]
      exact (isGuarded_of_isWriteLog hfirst).append (isGuarded_of_isWriteLog hsecond)

/-! ## Interleavings -/

section Interleavings

variable {ι ε : Type} [DecidableEq ι] {i j : ι} {x y : ε} {events before after : List (ι × ε)}

/-- The events of one index, in order. -/
def eventsOf (i : ι) (events : List (ι × ε)) : List ε :=
  events.filterMap fun e => if e.1 = i then some e.2 else none

/-- A merge of lists, one for each index. -/
def Interleaves (logs : ι → List ε) (events : List (ι × ε)) : Prop :=
  ∀ i, eventsOf i events = logs i

theorem eventsOf_append (i : ι) (before after : List (ι × ε)) :
    eventsOf i (before ++ after) = eventsOf i before ++ eventsOf i after :=
  List.filterMap_append

theorem eventsOf_cons_self (i : ι) (x : ε) (events : List (ι × ε)) :
    eventsOf i ((i, x) :: events) = x :: eventsOf i events :=
  List.filterMap_cons_some (if_pos rfl)

theorem mem_eventsOf : x ∈ eventsOf i events ↔ (i, x) ∈ events := by
  rw [eventsOf, List.mem_filterMap]
  constructor
  · rintro ⟨⟨j, y⟩, hmem, hy⟩
    dsimp only at hy
    split at hy
    · rename_i hj
      cases hj
      cases hy
      exact hmem
    · cases hy
  · intro hmem
    exact ⟨(i, x), hmem, if_pos rfl⟩

theorem not_mem_of_eventsOf_eq_nil (h : eventsOf i events = []) (x : ε) : (i, x) ∉ events := by
  intro hmem
  have hx : x ∈ eventsOf i events := mem_eventsOf.2 hmem
  rw [h] at hx
  exact List.not_mem_nil hx

/-- What stands in a list stands in the merge. -/
theorem Interleaves.mem_iff {logs : ι → List ε} (h : Interleaves logs events) :
    x ∈ logs i ↔ (i, x) ∈ events := by
  rw [← h i]
  exact mem_eventsOf

/-- Where a list is split, the merge can be split. -/
theorem exists_of_eventsOf_eq {before' after' : List ε}
    (h : eventsOf i events = before' ++ x :: after') :
    ∃ before after, events = before ++ (i, x) :: after ∧ eventsOf i before = before' ∧
      eventsOf i after = after' := by
  obtain ⟨first, rest, rfl, hfirst, hrest⟩ := List.filterMap_eq_append_iff.1 h
  obtain ⟨foreign, ⟨j, y⟩, after, rfl, hforeign, hx, hafter⟩ := List.filterMap_eq_cons_iff.1 hrest
  dsimp only at hx
  split at hx
  · rename_i hj
    cases hj
    cases hx
    refine ⟨first ++ foreign, after, (List.append_assoc _ _ _).symm, ?_, hafter⟩
    have hnone : eventsOf i foreign = [] := List.filterMap_eq_nil_iff.2 hforeign
    rw [eventsOf_append, hnone, List.append_nil]
    exact hfirst
  · cases hx

/-- An event stands in its own list behind what stands before it in the merge. -/
theorem Interleaves.split {logs : ι → List ε}
    (h : Interleaves logs (before ++ (i, x) :: after)) :
    logs i = eventsOf i before ++ x :: eventsOf i after := by
  rw [← h i, eventsOf_append, eventsOf_cons_self]

end Interleavings

/-- What a server does that is shared by calls: it takes the exchanges of all of them. -/
def Caller.Shares {ι : Type} (callers : ι → Caller)
    (change : Caller → TenantStore → Operation → Http.Answer → TenantStore → Prop)
    (s : TenantStore) (event : ι × Http.Request × Http.Answer) (s' : TenantStore) : Prop :=
  Takes (callers event.1).connection (callers event.1).tenant (change (callers event.1)) s event.2
    s'

end Rebac
