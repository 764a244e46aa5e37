import Mathlib.Data.List.Induction
import Rebac.Proofs.AllOrNothing
import Rebac.Proofs.Interleaving

set_option autoImplicit false

/-!
# Tenants that exist survive

Calls that share a server delete tenants, but never one that was there before all of them. The
invariant is that such a tenant is there and that no creation of it has been answered with success:
a server creates only what is absent, and a call deletes only what it created itself
(`keeps_of_shares`). It holds at every point of every interleaving (`existing_tenants_survive`).
-/

namespace Rebac

open Http

variable {ι : Type} {callers : ι → Caller} {tenant : Value} {s s' m : TenantStore}
variable {before : List (ι × Request × Answer)}

/-- So far, a tenant has been there, and no call has created it. -/
structure Keeps (callers : ι → Caller) (tenant : Value) (m : TenantStore)
    (before : List (ι × Request × Answer)) : Prop where
  present : m tenant ≠ none
  notCreated : ∀ i e, (i, e) ∈ before → (callers i).tenant = tenant →
    ¬ Created (callers i).connection (callers i).tenant e

/-- A request changes the store as what it asks for, unless it deletes the tenant. -/
theorem Keeps.present_of_changes {c : Caller} {op : Operation} {a : Answer} (h : m tenant ≠ none)
    (hchange : Changes c.tenant m op a s') (hdelete : op = .delete → c.tenant ≠ tenant) :
    s' tenant ≠ none := by
  cases hchange with
  | listed => exact h
  | created habsent hs =>
      have hne : tenant ≠ c.tenant := by
        intro heq
        rw [heq] at h
        exact h habsent
      rw [hs.others tenant hne]
      exact h
  | notCreated _ => exact h
  | written hs => exact hs.ne_none h
  | removed hs => exact hs.ne_none h
  | deleted hs =>
      rw [hs.others tenant (hdelete rfl).symm]
      exact h
  | notDeleted _ => exact h

/-- A tenant that is there is not created. -/
theorem Keeps.not_created_of_changes {c : Caller} {e : Request × Answer} (h : m tenant ≠ none)
    (htakes : Takes c.connection c.tenant (Changes c.tenant) m e s') (htenant : c.tenant = tenant) :
    ¬ Created c.connection c.tenant e := by
  rintro ⟨hcreate, haccepts⟩
  cases htakes.change hcreate with
  | created habsent _ =>
      rw [htenant] at habsent
      exact h habsent
  | notCreated hnot => exact hnot haccepts

variable [DecidableEq ι]

/-- **What one exchange preserves.** -/
theorem keeps_of_shares {i : ι} {e : Request × Answer} {after : List (ι × Request × Answer)}
    (hmerge : Interleaves (fun i => (callers i).log) (before ++ (i, e) :: after))
    (hstep : Caller.Shares callers (fun c => Changes c.tenant) m (i, e) s')
    (h : Keeps callers tenant m before) : Keeps callers tenant s' (before ++ [(i, e)]) := by
  obtain ⟨op, hop, hchange⟩ := hstep
  refine ⟨Keeps.present_of_changes h.present hchange ?_, fun j x hmem htenant => ?_⟩
  · -- A deletion of the tenant would come after a creation of it by the same call.
    rintro rfl htenant
    obtain ⟨x, hx, hcreated⟩ := (callers i).isGuarded_log _ _ _ hmerge.split hop
    exact h.notCreated i x (mem_eventsOf.1 hx) htenant hcreated
  · rcases List.mem_append.1 hmem with hmem | hmem
    · exact h.notCreated j x hmem htenant
    · cases List.mem_singleton.1 hmem
      exact Keeps.not_created_of_changes h.present ⟨op, hop, hchange⟩ htenant

/-- What every exchange preserves holds after any number of them. -/
theorem keeps_of_replay {after : List (ι × Request × Answer)}
    (hmerge : Interleaves (fun i => (callers i).log) (before ++ after)) (hs : s tenant ≠ none)
    (hreplay : Replay (Caller.Shares callers fun c => Changes c.tenant) s before m) :
    Keeps callers tenant m before := by
  -- The induction is on the exchanges so far, from the last one on.
  induction before using List.reverseRecOn generalizing m after with
  | nil =>
      rw [Replay.nil_iff.1 hreplay]
      exact ⟨hs, fun i e hmem => absurd hmem List.not_mem_nil⟩
  | append_singleton before event ih =>
      obtain ⟨i, e⟩ := event
      obtain ⟨m', hbefore, hstep⟩ := Replay.append_iff.1 hreplay
      rw [List.append_assoc] at hmerge
      exact keeps_of_shares hmerge (Replay.singleton_iff.1 hstep) (ih hmerge hbefore)

/-- **A tenant that exists before the calls start survives them.** Let any number of writes and
seedings share a server that creates only absent tenants. Then every tenant of the store that they
find is there at every point of every interleaving of their exchanges. -/
theorem existing_tenants_survive (callers : ι → Caller) (s : TenantStore)
    (events : List (ι × Request × Answer))
    (hmerge : Interleaves (fun i => (callers i).log) events) :
    ∀ before m, before <+: events →
      Replay (Caller.Shares callers fun c => Changes c.tenant) s before m →
        ∀ tenant, s tenant ≠ none → m tenant ≠ none := by
  rintro before m ⟨after, rfl⟩ hreplay tenant hs
  exact (keeps_of_replay hmerge hs hreplay).present

/-! ## Two calls -/

/-- A call that writes a schema to a tenant, which is created if it is absent. -/
def schemaCaller (answers : List Answer) : Caller where
  toHttpTarget := createdHttpTarget
  task := .write schemaWrite
  answers := answers

/-- Two calls that find the tenant existing. The schema of one is rejected. -/
def twoCallers : Bool → Caller
  | true => schemaCaller [.response 409 [], .response 500 []]
  | false => schemaCaller [.response 409 [], .response 200 []]

/-- The exchanges of the two calls, as the server sees them. -/
def twoCallsEvents : List (Bool × Request × Answer) :=
  [(true, acmeCreation, .response 409 []), (false, acmeCreation, .response 409 []),
    (false, acmeSchema, .response 200 []), (true, acmeSchema, .response 500 [])]

/-- Neither of two calls removes the tenant that they find. -/
theorem found_tenant_survives :
    Interleaves (fun i => (twoCallers i).log) twoCallsEvents ∧
      Replay (Caller.Shares twoCallers fun c => Changes c.tenant) (onlyAcme (some {}))
        twoCallsEvents (onlyAcme (some { schemas := [.text "entity user {}"] })) ∧
      onlyAcme (some {}) (.text "acme") ≠ none ∧
      onlyAcme (some { schemas := [.text "entity user {}"] }) (.text "acme") ≠ none := by
  have hmerge : Interleaves (fun i => (twoCallers i).log) twoCallsEvents := by
    intro i
    cases i with
    | false => rfl
    | true => rfl
  have hwrite : (onlyAcme (some {})).SameBut
      (onlyAcme (some { schemas := [.text "entity user {}"] })) (.text "acme") :=
    ⟨by simp [onlyAcme], (onlyAcme_sets _ _).others⟩
  have hreplay : Replay (Caller.Shares twoCallers fun c => Changes c.tenant) (onlyAcme (some {}))
      twoCallsEvents (onlyAcme (some { schemas := [.text "entity user {}"] })) := by
    refine .cons ⟨_, asks_acmeCreation, .notCreated (not_accepts_of_status rfl)⟩ ?_
    refine .cons ⟨_, asks_acmeCreation, .notCreated (not_accepts_of_status rfl)⟩ ?_
    refine .cons ⟨_, asks_acmeSchema, .written hwrite _ _⟩ ?_
    exact .cons ⟨_, asks_acmeSchema, .written (.refl _ _) _ _⟩ (.nil _)
  have hthere : onlyAcme (some {}) (.text "acme") ≠ none := Option.some_ne_none _
  exact ⟨hmerge, hreplay, hthere, existing_tenants_survive twoCallers _ _ hmerge _ _
    (List.prefix_refl _) hreplay _ hthere⟩

end Rebac
