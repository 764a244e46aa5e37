import Rebac.Proofs.Survival

set_option autoImplicit false

/-!
# Two writes to one tenant

A tenant that one write creates may be found by another one, and the first write does not know of
it: if its own operation fails, it deletes the tenant with all that was written to it. Callers are
not coordinated in any other way than that an existing tenant is no failure.

The data of an accepted write stays as long as no deletion is accepted (`holds_of_replay`), a tenant
appears only by a creation (`absent_of_replay`), and without deletions there is one creation at most
(`creates_unique`). For two writes, this leaves one way to lose what was written: the write that
returned had found the tenant that the other one created and then deleted
(`committed_write_kept_iff`).
-/

namespace Rebac

open Dialogue Write

namespace Http

/-- How a store changes if what is written is added to it. A creation succeeds exactly if the tenant
is absent, a write succeeds only if it is there, and a deletion that succeeds removes the tenant
with all its data. A write that fails may still add something, and a deletion that fails removes
nothing. Nothing but tenants is ever removed. -/
inductive Accumulates (tenant : Value) (s : TenantStore) : Operation → Answer → TenantStore → Prop
  | listed (a : Answer) : Accumulates tenant s .list a s
  | created {s' : TenantStore} {a : Answer} (habsent : s tenant = none)
      (hs : s.Sets s' tenant (some {})) (ha : a.Accepts) : Accumulates tenant s .create a s'
  | notCreated {a : Answer} (hthere : s tenant ≠ none) (ha : ¬ a.Accepts) :
      Accumulates tenant s .create a s
  | written {s' : TenantStore} {data : TenantData} (hthere : s tenant ≠ none)
      (hs : s.Grows s' tenant) (hdata : s'.Holds tenant data) (a : Answer) :
      Accumulates tenant s (.write data) a s'
  | notWritten {s' : TenantStore} {a : Answer} (hs : s.Grows s' tenant) (data : TenantData)
      (ha : ¬ a.Accepts) : Accumulates tenant s (.write data) a s'
  | deleted {s' : TenantStore} {a : Answer} (hs : s.Sets s' tenant none) (ha : a.Accepts) :
      Accumulates tenant s .delete a s'
  | notDeleted {a : Answer} (ha : ¬ a.Accepts) : Accumulates tenant s .delete a s

/-- A deletion that is answered with success. -/
def Deleted (conn : Connection) (tenant : Value) (e : Request × Answer) : Prop :=
  Asks conn tenant e.1 .delete ∧ e.2.Accepts

variable {conn : Connection} {tenant : Value} {s s' : TenantStore} {e : Request × Answer}

/-! ## One exchange -/

/-- What a tenant holds it holds until it is deleted. -/
theorem Takes.holds {data : TenantData} (h : Takes conn tenant (Accumulates tenant) s e s')
    (hkept : ¬ Deleted conn tenant e) (hs : s.Holds tenant data) : s'.Holds tenant data := by
  obtain ⟨op, hop, hchange⟩ := h
  cases hchange with
  | listed => exact hs
  | created habsent _ _ => exact absurd habsent hs.ne_none
  | notCreated _ _ => exact hs
  | written _ hgrows _ => exact hgrows.keeps hs
  | notWritten hgrows _ _ => exact hgrows.keeps hs
  | deleted _ ha => exact absurd ⟨hop, ha⟩ hkept
  | notDeleted _ => exact hs

/-- A tenant is absent until it is created. -/
theorem Takes.absent (h : Takes conn tenant (Accumulates tenant) s e s')
    (hnot : ¬ Created conn tenant e) (hs : s tenant = none) : s' tenant = none := by
  obtain ⟨op, hop, hchange⟩ := h
  cases hchange with
  | listed => exact hs
  | created _ _ ha => exact absurd ⟨hop, ha⟩ hnot
  | notCreated hthere _ => exact hs
  | written hthere _ _ => exact absurd hs hthere
  | notWritten hgrows _ _ => exact hgrows.present.2 hs
  | deleted hgone _ => exact hgone.own
  | notDeleted _ => exact hs

/-- A creation finds its tenant absent, and leaves it there. -/
theorem Takes.created (h : Takes conn tenant (Accumulates tenant) s e s')
    (hcreated : Created conn tenant e) : s tenant = none ∧ s'.Holds tenant {} := by
  cases h.change hcreated.1 with
  | created habsent hs _ => exact ⟨habsent, {}, hs.own, List.Subset.refl _, List.Subset.refl _⟩
  | notCreated _ ha => exact absurd hcreated.2 ha

/-- A deletion leaves its tenant absent. -/
theorem Takes.deleted (h : Takes conn tenant (Accumulates tenant) s e s')
    (hdeleted : Deleted conn tenant e) : s' tenant = none := by
  cases h.change hdeleted.1 with
  | deleted hs _ => exact hs.own
  | notDeleted ha => exact absurd hdeleted.2 ha

/-- A write that is accepted finds its tenant there, and leaves its data in it. -/
theorem Takes.written {op : Operation} (h : Takes conn tenant (Accumulates tenant) s e s')
    (hop : op = .remove ∨ ∃ data, op = .write data) (hasks : Asks conn tenant e.1 op)
    (ha : e.2.Accepts) : ∃ data, op = .write data ∧ s tenant ≠ none ∧ s'.Holds tenant data := by
  rcases hop with rfl | ⟨data, rfl⟩
  · cases h.change hasks
  · refine ⟨data, rfl, ?_⟩
    cases h.change hasks with
    | written hthere _ hdata => exact ⟨hthere, hdata⟩
    | notWritten _ _ hnot => exact absurd ha hnot

end Http

open Http

/-! ## Any number of exchanges -/

section Sharing

variable {ι : Type} {callers : ι → Caller} {tenant : Value} {s s' : TenantStore}
variable {events : List (ι × Request × Answer)} {x y : ι × Request × Answer}

/-- A call creates the tenant with this exchange. -/
def Creates (callers : ι → Caller) (tenant : Value) (x : ι × Request × Answer) : Prop :=
  Created (callers x.1).connection tenant x.2

/-- A call deletes the tenant with this exchange. -/
def Deletes (callers : ι → Caller) (tenant : Value) (x : ι × Request × Answer) : Prop :=
  Deleted (callers x.1).connection tenant x.2

/-- An exchange of a call to a tenant is one about that tenant. -/
theorem takes_of_shares (htenant : ∀ i, (callers i).tenant = tenant)
    (h : Caller.Shares callers (fun c => Accumulates c.tenant) s x s') :
    Takes (callers x.1).connection tenant (Accumulates tenant) s x.2 s' := by
  rw [← htenant x.1]
  exact h

/-- **What a tenant holds it holds as long as it is not deleted.** -/
theorem holds_of_replay {data : TenantData} (htenant : ∀ i, (callers i).tenant = tenant)
    (h : Replay (Caller.Shares callers fun c => Accumulates c.tenant) s events s')
    (hkept : ∀ x ∈ events, ¬ Deletes callers tenant x) (hs : s.Holds tenant data) :
    s'.Holds tenant data := by
  refine h.invariant (P := fun m => m.Holds tenant data) (fun m x m' hx hstep hm => ?_) hs
  exact (takes_of_shares htenant hstep).holds (hkept x hx) hm

/-- **A tenant is absent as long as it is not created.** -/
theorem absent_of_replay (htenant : ∀ i, (callers i).tenant = tenant)
    (h : Replay (Caller.Shares callers fun c => Accumulates c.tenant) s events s')
    (hnot : ∀ x ∈ events, ¬ Creates callers tenant x) (hs : s tenant = none) :
    s' tenant = none := by
  refine h.invariant (P := fun m => m tenant = none) (fun m x m' hx hstep hm => ?_) hs
  exact (takes_of_shares htenant hstep).absent (hnot x hx) hm

/-- A tenant that is there is not created before it is deleted. -/
theorem not_creates_of_holds {data : TenantData} (htenant : ∀ i, (callers i).tenant = tenant)
    (h : Replay (Caller.Shares callers fun c => Accumulates c.tenant) s events s')
    (hkept : ∀ x ∈ events, ¬ Deletes callers tenant x) (hs : s.Holds tenant data)
    (hx : x ∈ events) : ¬ Creates callers tenant x := by
  intro hcreates
  obtain ⟨before, after, rfl⟩ := List.append_of_mem hx
  obtain ⟨m, hbefore, _ | ⟨hstep, -⟩⟩ := Replay.append_iff.1 h
  have hthere : m.Holds tenant data :=
    holds_of_replay htenant hbefore (fun y hy => hkept y (List.mem_append_left _ hy)) hs
  exact hthere.ne_none ((takes_of_shares htenant hstep).created hcreates).1

/-- **Without deletions, a tenant is created once at most.** -/
theorem creates_unique (htenant : ∀ i, (callers i).tenant = tenant)
    (h : Replay (Caller.Shares callers fun c => Accumulates c.tenant) s events s')
    (hkept : ∀ x ∈ events, ¬ Deletes callers tenant x) (hx : x ∈ events) (hy : y ∈ events)
    (hcreates : Creates callers tenant x) (hcreates' : Creates callers tenant y) : x = y := by
  induction h with
  | nil s => exact absurd hx List.not_mem_nil
  | @cons s m s' z events hstep hrest ih =>
      have hkept' : ∀ x ∈ events, ¬ Deletes callers tenant x := by
        intro x hx
        exact hkept x (List.mem_cons_of_mem _ hx)
      -- Behind the creation at the head there is no other one.
      have hhead : Creates callers tenant z → ∀ x ∈ events, ¬ Creates callers tenant x := by
        intro hz x hx
        have hthere := ((takes_of_shares htenant hstep).created hz).2
        exact not_creates_of_holds htenant hrest hkept' hthere hx
      rcases List.mem_cons.1 hx with rfl | hx'
      · rcases List.mem_cons.1 hy with rfl | hy'
        · rfl
        · exact absurd hcreates' (hhead hcreates y hy')
      · rcases List.mem_cons.1 hy with rfl | hy'
        · exact absurd hcreates (hhead hcreates' x hx')
        · exact ih hkept' hx' hy'

end Sharing

/-! ## One call -/

namespace Caller

variable {c : Caller} {k : WriteKind} {e : Request × Answer}

/-- A write ends with its deletion, which comes after its own creation. -/
theorem deletion_of_write {before after : List (Request × Answer)} (htask : c.task = .write k)
    (hsplit : c.log = before ++ e :: after) (hdelete : Asks c.connection c.tenant e.1 .delete) :
    after = [] ∧ ∃ e' ∈ before, Created c.connection c.tenant e' := by
  rw [log, htask, Task.run] at hsplit
  rcases k.log_run c.toTarget c.answers with ⟨-, g, hrun⟩ | ⟨client, call, -, hc, hcall, hlog⟩
  · rw [exchanges_of_runs hrun] at hsplit
    cases before with
    | nil => cases hsplit
    | cons e₀ before => cases hsplit
  · rw [c.isClient client hc] at hlog
    exact deletion_of_writeLog (WriteKind.isWrite_of_call hcall _) hlog hsplit hdelete

/-- **What a write that returns has done.** Its last request writes its data, is answered with
success, and nothing is deleted. -/
theorem write_of_returned (htask : c.task = .write k) (hreturned : c.ending = .returned ()) :
    ∃ resolution w op, c.log = resolution ++ [w] ∧ Asks c.connection c.tenant w.1 op ∧
      (op = .remove ∨ ∃ data, op = .write data) ∧ w.2.Accepts ∧
        ∀ e ∈ c.log, ¬ Asks c.connection c.tenant e.1 .delete := by
  rw [ending, htask, Task.run] at hreturned
  rw [log, htask, Task.run]
  rcases k.log_run c.toTarget c.answers with ⟨-, g, hrun⟩ | ⟨client, call, -, hc, hcall, hlog⟩
  · rw [hrun.ending_eq] at hreturned
    cases hreturned
  · rw [c.isClient client hc] at hlog
    have hwrite := WriteKind.isWrite_of_call hcall c.tenant
    have htenant := WriteKind.tenant?_of_call hcall c.tenant
    obtain ⟨status, writing, v, -, hasked, hsplit⟩ := hlog.of_returned hreturned
    have hnot : ∀ e ∈ (k.run c.toTarget).exchanges c.answers,
        ¬ Asks c.connection c.tenant e.1 .delete := by
      intro e he
      rw [hsplit] at he
      rcases List.mem_append.1 he with he | he
      · exact not_delete_of_resolution he
      · exact not_delete_of_writing hwrite hasked he
    obtain ⟨r, a, rfl, hr, hreply⟩ := hasked.of_returned
    obtain ⟨op, hasks, hop⟩ := asks_of_isWrite hwrite htenant hr
    exact ⟨_, (r, a), op, hsplit, hasks, hop, accepts_of_reply_ok hreply, hnot⟩

end Caller

/-! ## Two calls -/

/-- Which of two calls. -/
inductive Party
  | first
  | second
  deriving DecidableEq

/-- Two calls. -/
def Caller.pair (a b : Caller) : Party → Caller
  | .first => a
  | .second => b

section Pair

variable {a b : Caller} {k : WriteKind} {tenant : Value} {s s' : TenantStore}
variable {e : Request × Answer} {before after : List (Party × Request × Answer)}

/-- The first call ends with its deletion, which comes after its own creation. -/
theorem deletion_of_first (ha : a.task = .write k)
    (htenant : ∀ i, (Caller.pair a b i).tenant = tenant)
    (hmerge : Interleaves (fun i => (Caller.pair a b i).log) (before ++ (.first, e) :: after))
    (hdelete : Asks a.connection tenant e.1 .delete) :
    (∀ e, (.first, e) ∉ after) ∧ ∃ e', (.first, e') ∈ before ∧ Created a.connection tenant e' := by
  have hown : a.tenant = tenant := htenant .first
  rw [← hown] at hdelete ⊢
  obtain ⟨hnil, e', he', hcreated⟩ := Caller.deletion_of_write ha hmerge.split hdelete
  exact ⟨not_mem_of_eventsOf_eq_nil hnil, e', mem_eventsOf.1 he', hcreated⟩

/-- **A deletion when the second call is over is the last exchange.** It removes the tenant, which
the first call had created and the second one had not. -/
theorem lost_of_deletion (ha : a.task = .write k)
    (htenant : ∀ i, (Caller.pair a b i).tenant = tenant)
    (hmerge : Interleaves (fun i => (Caller.pair a b i).log) (before ++ after))
    (hreplay : Replay (Caller.Shares (Caller.pair a b) fun c => Accumulates c.tenant) s
      (before ++ after) s')
    (hb : ∀ e ∈ b.log, ¬ Asks b.connection tenant e.1 .delete)
    (hafter : ∀ e, (.second, e) ∉ after) (he : (.first, e) ∈ after)
    (hdeleted : Deleted a.connection tenant e) :
    s' tenant = none ∧ ∀ e ∈ b.log, ¬ Created b.connection tenant e := by
  obtain ⟨between, last, rfl⟩ := List.append_of_mem he
  rw [← List.append_assoc] at hmerge hreplay
  obtain ⟨hlast, e₁, he₁, hcreated⟩ := deletion_of_first ha htenant hmerge hdeleted.1
  have hnil : last = [] := by
    rw [List.eq_nil_iff_forall_not_mem]
    rintro ⟨i, e'⟩ hmem
    cases i with
    | first => exact hlast e' hmem
    | second => exact hafter e' (List.mem_append_right _ (List.mem_cons_of_mem _ hmem))
  subst hnil
  obtain ⟨m, hbefore, hstep⟩ := Replay.append_iff.1 hreplay
  have hgone : s' tenant = none :=
    (takes_of_shares htenant (Replay.singleton_iff.1 hstep)).deleted hdeleted
  -- It is the only deletion, so the creation of the first call is the only creation before it.
  have hkept : ∀ x ∈ before ++ between, ¬ Deletes (Caller.pair a b) tenant x := by
    rintro ⟨i, e'⟩ hmem hdeletes
    cases i with
    | first =>
        obtain ⟨start, rest, hsplit⟩ := List.append_of_mem hmem
        rw [hsplit, List.append_assoc, List.cons_append] at hmerge
        refine (deletion_of_first ha htenant hmerge hdeletes.1).1 e ?_
        exact List.mem_append_right _ (List.mem_singleton_self _)
    | second =>
        have hlog : e' ∈ b.log := (hmerge.mem_iff (i := .second)).2 (List.mem_append_left _ hmem)
        exact hb e' hlog hdeletes.1
  refine ⟨hgone, fun e₂ he₂ hcreated₂ => ?_⟩
  rcases List.mem_append.1 ((hmerge.mem_iff (i := .second)).1 he₂) with hmem | hmem
  · cases creates_unique htenant hbefore hkept he₁ hmem hcreated hcreated₂
  · cases List.mem_singleton.1 hmem

/-- **A tenant that is there after the first call has deleted it was created by the second one.** -/
theorem created_of_deletion (ha : a.task = .write k)
    (htenant : ∀ i, (Caller.pair a b i).tenant = tenant)
    (hmerge : Interleaves (fun i => (Caller.pair a b i).log) (before ++ after))
    (hreplay : Replay (Caller.Shares (Caller.pair a b) fun c => Accumulates c.tenant) s before s')
    (he : (.first, e) ∈ before) (hdeleted : Deleted a.connection tenant e)
    (hthere : s' tenant ≠ none) : ∃ e ∈ b.log, Created b.connection tenant e := by
  obtain ⟨start, between, rfl⟩ := List.append_of_mem he
  rw [List.append_assoc, List.cons_append] at hmerge
  obtain ⟨hlast, -⟩ := deletion_of_first ha htenant hmerge hdeleted.1
  obtain ⟨m, -, _ | ⟨hstep, hbetween⟩⟩ := Replay.append_iff.1 hreplay
  have hgone := (takes_of_shares htenant hstep).deleted hdeleted
  by_contra hnone
  refine hthere (absent_of_replay htenant hbetween ?_ hgone)
  rintro ⟨i, e'⟩ hmem hcreates
  cases i with
  | first => exact hlast e' (List.mem_append_left _ hmem)
  | second =>
      refine hnone ⟨e', (hmerge.mem_iff (i := .second)).2 ?_, hcreates⟩
      exact List.mem_append_right _ (List.mem_cons_of_mem _ (List.mem_append_left _ hmem))

/-- **What becomes of an accepted write when another call writes to the same tenant.** Let two
writes of data to one tenant share a server that keeps what is added to it, and let the second one
return. At the end the tenant is there with the data of that write if and only if the write created
the tenant itself, or no deletion of the other call was answered with success. Otherwise the tenant
is gone. -/
theorem committed_write_kept_iff (a b : Caller) (ka kb : WriteKind) (s s' : TenantStore)
    (events : List (Party × Request × Answer)) (ha : a.task = .write ka) (hb : b.task = .write kb)
    (htenant : a.tenant = b.tenant)
    (hmerge : Interleaves (fun i => (Caller.pair a b i).log) events)
    (hreplay : Replay (Caller.Shares (Caller.pair a b) fun c => Accumulates c.tenant) s events s')
    (hreturned : b.ending = .returned ()) :
    ∃ data, (∃ e ∈ b.log, Asks b.connection b.tenant e.1 (.write data)) ∧
      (s'.Holds b.tenant data ↔
        (∃ e ∈ b.log, Created b.connection b.tenant e) ∨
          ∀ e ∈ a.log, ¬ Deleted a.connection a.tenant e) ∧
      (s'.Holds b.tenant data ∨ s' b.tenant = none) := by
  have hboth : ∀ i, (Caller.pair a b i).tenant = b.tenant := by
    intro i
    cases i with
    | first => exact htenant
    | second => rfl
  obtain ⟨resolution, w, op, hlog, hasks, hop, haccepts, hnot⟩ :=
    Caller.write_of_returned hb hreturned
  -- Everything is before the write of the second call or after it.
  obtain ⟨before, after, rfl, -, hover⟩ :=
    exists_of_eventsOf_eq ((hmerge .second).trans hlog)
  have hafter : ∀ e, (.second, e) ∉ after := not_mem_of_eventsOf_eq_nil hover
  obtain ⟨m, hbefore, _ | ⟨hstep, hrest⟩⟩ := Replay.append_iff.1 hreplay
  obtain ⟨data, rfl, hthere, hheld⟩ :=
    (takes_of_shares hboth hstep).written hop hasks haccepts
  have hw : w ∈ b.log := by
    rw [hlog]
    exact List.mem_append_right _ (List.mem_singleton_self _)
  refine ⟨data, ⟨w, hw, hasks⟩, ?_⟩
  rw [htenant]
  by_cases hlast : ∃ e, (.first, e) ∈ after ∧ Deleted a.connection b.tenant e
  · obtain ⟨e, he, hdeleted⟩ := hlast
    have hlog : e ∈ a.log := (hmerge.mem_iff (i := .first)).2
      (List.mem_append_right _ (List.mem_cons_of_mem _ he))
    rw [List.append_cons] at hmerge hreplay
    obtain ⟨hgone, hnone⟩ := lost_of_deletion ha hboth hmerge hreplay hnot hafter he hdeleted
    refine ⟨⟨fun hholds => absurd hgone hholds.ne_none, ?_⟩, Or.inr hgone⟩
    rintro (⟨e', he', hcreated⟩ | hkept)
    · exact absurd hcreated (hnone e' he')
    · exact absurd hdeleted (hkept e hlog)
  · have hkept : s'.Holds b.tenant data := by
      refine holds_of_replay hboth hrest ?_ hheld
      rintro ⟨i, e⟩ hmem hdeletes
      cases i with
      | first => exact hlast ⟨e, hmem, hdeletes⟩
      | second => exact hafter e hmem
    refine ⟨⟨fun _ => ?_, fun _ => hkept⟩, Or.inl hkept⟩
    by_cases hdeleted : ∃ e ∈ a.log, Deleted a.connection b.tenant e
    · -- The deletion was before the write, which found the tenant there nevertheless.
      obtain ⟨e, he, hdeleted⟩ := hdeleted
      rcases List.mem_append.1 ((hmerge.mem_iff (i := .first)).1 he) with hmem | hmem
      · exact Or.inl (created_of_deletion ha hboth hmerge hbefore hmem hdeleted hthere)
      · rcases List.mem_cons.1 hmem with hhead | hmem
        · cases hhead
        · exact absurd ⟨e, hmem, hdeleted⟩ hlast
    · exact Or.inr fun e he hdel => hdeleted ⟨e, he, hdel⟩

end Pair

/-! ## A schema that is kept and one that is lost -/

/-- The store with the schema in it that the calls write. -/
def acmeWritten : TenantStore := onlyAcme (some { schemas := [.text "entity user {}"] })

/-- A schema that is added to the empty tenant. -/
theorem acmeWritten_of_empty :
    Accumulates (.text "acme") (onlyAcme (some {})) (.write { schemas := [.text "entity user {}"] })
      (.response 200 []) acmeWritten := by
  have hholds : acmeWritten.Holds (.text "acme") { schemas := [.text "entity user {}"] } :=
    ⟨_, rfl, List.Subset.refl _, List.Subset.refl _⟩
  have hgrows : (onlyAcme (some {})).Grows acmeWritten (.text "acme") := by
    refine ⟨⟨by simp [acmeWritten, onlyAcme], (onlyAcme_sets _ _).others⟩, ?_⟩
    rintro d ⟨⟩
    exact ⟨_, rfl, List.nil_subset _, List.nil_subset _⟩
  exact .written (by simp [onlyAcme]) hgrows hholds _

/-- A schema that is rejected as a whole. -/
theorem acme_of_rejected (d : TenantData) :
    Accumulates (.text "acme") (onlyAcme (some d)) (.write { schemas := [.text "entity user {}"] })
      (.response 500 []) (onlyAcme (some d)) := by
  refine .notWritten ⟨.refl _ _, fun d' hd => ?_⟩ _ (not_accepts_of_status rfl)
  exact ⟨d', hd, List.Subset.refl _, List.Subset.refl _⟩

/-- A call that finds the tenant existing, and whose schema is rejected. -/
def rejectedCall : Caller := schemaCaller [.response 409 [], .response 500 []]

/-- A call that creates the tenant and writes its schema. -/
def creatingCall : Caller := schemaCaller [.response 200 [], .response 200 []]

/-- The exchanges of these two calls: the tenant is created for the second one. -/
def keptEvents : List (Party × Request × Answer) :=
  [(.second, acmeCreation, .response 200 []), (.first, acmeCreation, .response 409 []),
    (.first, acmeSchema, .response 500 []), (.second, acmeSchema, .response 200 [])]

/-- The schema of the call that created the tenant is kept. -/
theorem committed_write_kept :
    rejectedCall.task = .write schemaWrite ∧ creatingCall.task = .write schemaWrite ∧
      rejectedCall.tenant = creatingCall.tenant ∧
      Interleaves (fun i => (Caller.pair rejectedCall creatingCall i).log) keptEvents ∧
      Replay (Caller.Shares (Caller.pair rejectedCall creatingCall) fun c => Accumulates c.tenant)
        (onlyAcme none) keptEvents acmeWritten ∧
      creatingCall.ending = .returned () ∧
      ∃ data, acmeWritten.Holds creatingCall.tenant data ∧ ∃ e ∈ creatingCall.log,
        Asks creatingCall.connection creatingCall.tenant e.1 (.write data) := by
  have hmerge :
      Interleaves (fun i => (Caller.pair rejectedCall creatingCall i).log) keptEvents := by
    intro i
    cases i with
    | first => rfl
    | second => rfl
  have hreplay : Replay
      (Caller.Shares (Caller.pair rejectedCall creatingCall) fun c => Accumulates c.tenant)
      (onlyAcme none) keptEvents acmeWritten := by
    refine .cons ⟨_, asks_acmeCreation, .created rfl (onlyAcme_sets _ _) rfl⟩ ?_
    refine .cons ⟨_, asks_acmeCreation, .notCreated ?_ (not_accepts_of_status rfl)⟩ ?_
    · exact Option.some_ne_none _
    refine .cons ⟨_, asks_acmeSchema, acme_of_rejected _⟩ ?_
    exact .cons ⟨_, asks_acmeSchema, acmeWritten_of_empty⟩ (.nil _)
  have hreturned : creatingCall.ending = .returned () := rfl
  obtain ⟨data, hdata, hkept, -⟩ := committed_write_kept_iff rejectedCall creatingCall schemaWrite
    schemaWrite _ _ _ rfl rfl rfl hmerge hreplay hreturned
  have hcreated : ∃ e ∈ creatingCall.log, Created creatingCall.connection creatingCall.tenant e :=
    ⟨(acmeCreation, .response 200 []), (hmerge.mem_iff (i := .second)).2 List.mem_cons_self,
      asks_acmeCreation, rfl⟩
  exact ⟨rfl, rfl, rfl, hmerge, hreplay, hreturned, data, hkept.2 (Or.inl hcreated), hdata⟩

/-- A call that creates the tenant, and deletes it when its schema is rejected. -/
def deletingCall : Caller :=
  schemaCaller [.response 200 [], .response 500 [], .response 200 []]

/-- A call that finds the tenant existing, and whose schema is accepted. -/
def findingCall : Caller := schemaCaller [.response 409 [], .response 200 []]

/-- The exchanges of these two calls: the schema of the second one is written before that of the
first one is rejected. -/
def lostEvents : List (Party × Request × Answer) :=
  [(.first, acmeCreation, .response 200 []), (.second, acmeCreation, .response 409 []),
    (.second, acmeSchema, .response 200 []), (.first, acmeSchema, .response 500 []),
    (.first, acmeDeletion, .response 200 [])]

/-- The schema of the call that found the tenant is lost: the call returns, and at the end there is
no tenant. -/
theorem committed_write_lost :
    Interleaves (fun i => (Caller.pair deletingCall findingCall i).log) lostEvents ∧
      Replay (Caller.Shares (Caller.pair deletingCall findingCall) fun c => Accumulates c.tenant)
        (onlyAcme none) lostEvents (onlyAcme none) ∧
      findingCall.ending = .returned () ∧ (∃ f, deletingCall.ending = .failed f) ∧
      onlyAcme none findingCall.tenant = none := by
  have hmerge : Interleaves (fun i => (Caller.pair deletingCall findingCall i).log) lostEvents := by
    intro i
    cases i with
    | first => rfl
    | second => rfl
  have hreplay : Replay
      (Caller.Shares (Caller.pair deletingCall findingCall) fun c => Accumulates c.tenant)
      (onlyAcme none) lostEvents (onlyAcme none) := by
    refine .cons ⟨_, asks_acmeCreation, .created rfl (onlyAcme_sets _ _) rfl⟩ ?_
    refine .cons ⟨_, asks_acmeCreation, .notCreated ?_ (not_accepts_of_status rfl)⟩ ?_
    · exact Option.some_ne_none _
    refine .cons ⟨_, asks_acmeSchema, acmeWritten_of_empty⟩ ?_
    refine .cons ⟨_, asks_acmeSchema, acme_of_rejected _⟩ ?_
    exact .cons ⟨_, asks_acmeDeletion, .deleted (onlyAcme_sets _ _) rfl⟩ (.nil _)
  exact ⟨hmerge, hreplay, rfl, ⟨_, rfl⟩, rfl⟩

end Rebac
