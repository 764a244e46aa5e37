import Mathlib.Data.List.Forall2
import Rebac.Proofs.HttpRequests
import Rebac.Tenant

set_option autoImplicit false

/-!
# The tenants of a server

A server holds tenants by their identifiers, each with the versions of its schema and its
relationships.
A request asks for one operation on the tenant that it is about, and its method and its body tell
which one (`Asks.unique`). How a store changes is a relation between a store, an operation, the
answer and the next store; it says nothing about answers that are not a client's concern. Exchanges
are replayed over a store one by one (`Replay`).

Two such relations are stated here. `Http.Changes` is what every server has in common that creates
only what is absent. `Http.Truthful` adds that the answers tell the truth about the store.
-/

namespace Rebac

/-! ## Stores -/

/-- The data of a tenant: the versions of its schema, and its relationships. -/
structure TenantData where
  schemas : List Json := []
  tuples : List Json := []

namespace TenantData

/-- All of some data is among other data. -/
structure Within (d e : TenantData) : Prop where
  schemas : d.schemas ⊆ e.schemas
  tuples : d.tuples ⊆ e.tuples

theorem Within.trans {d e f : TenantData} (h : d.Within e) (h' : e.Within f) : d.Within f :=
  ⟨fun _ hj => h'.schemas (h.schemas hj), fun _ hj => h'.tuples (h.tuples hj)⟩

end TenantData

/-- The tenants of a server with their data, by their identifiers. -/
abbrev TenantStore := Value → Option TenantData

namespace TenantStore

variable {s m s' : TenantStore} {tenant : Value} {d : Option TenantData}

/-- One store is another one with this entry for a tenant. -/
structure Sets (s s' : TenantStore) (tenant : Value) (d : Option TenantData) : Prop where
  own : s' tenant = d
  others : ∀ v, v ≠ tenant → s' v = s v

/-- One store is another one with other data of a tenant that is there, or the same store. -/
structure SameBut (s s' : TenantStore) (tenant : Value) : Prop where
  present : s' tenant = none ↔ s tenant = none
  others : ∀ v, v ≠ tenant → s' v = s v

theorem SameBut.refl (s : TenantStore) (tenant : Value) : s.SameBut s tenant :=
  ⟨Iff.rfl, fun _ _ => rfl⟩

theorem SameBut.ne_none (h : s.SameBut s' tenant) {v : Value} (hv : s v ≠ none) : s' v ≠ none := by
  by_cases htenant : v = tenant
  · rw [htenant] at hv ⊢
    exact fun hnone => hv (h.present.1 hnone)
  · rw [h.others v htenant]
    exact hv

/-- A tenant is there, and this data is among its data. -/
def Holds (s : TenantStore) (tenant : Value) (data : TenantData) : Prop :=
  ∃ d, s tenant = some d ∧ data.Within d

theorem Holds.ne_none {data : TenantData} (h : s.Holds tenant data) : s tenant ≠ none := by
  obtain ⟨d, hd, -⟩ := h
  rw [hd]
  exact Option.some_ne_none d

/-- One store is another one with more data of a tenant that is there, or the same store. -/
structure Grows (s s' : TenantStore) (tenant : Value) : Prop extends s.SameBut s' tenant where
  holds : ∀ d, s tenant = some d → s'.Holds tenant d

/-- What a tenant holds it holds when its data grows. -/
theorem Grows.keeps {data : TenantData} (h : s.Grows s' tenant) (hdata : s.Holds tenant data) :
    s'.Holds tenant data := by
  obtain ⟨d, hd, hwithin⟩ := hdata
  obtain ⟨d', hd', hwithin'⟩ := h.holds d hd
  exact ⟨d', hd', hwithin.trans hwithin'⟩

/-- Removing a tenant undoes what was done with it since it was added. -/
theorem Sets.undone {m' : TenantStore} (habsent : s tenant = none) (hput : s.Sets m tenant d)
    (hwrite : m.SameBut m' tenant) (hdelete : m'.Sets s' tenant none) : s' = s := by
  funext v
  by_cases hv : v = tenant
  · rw [hv, hdelete.own, habsent]
  · rw [hdelete.others v hv, hwrite.others v hv, hput.others v hv]

end TenantStore

/-! ## Replaying -/

/-- Events in a row lead from one state to another. -/
inductive Replay {σ ε : Type} (step : σ → ε → σ → Prop) : σ → List ε → σ → Prop
  | nil (s : σ) : Replay step s [] s
  | cons {s m s' : σ} {e : ε} {es : List ε} (h : step s e m) (hs : Replay step m es s') :
      Replay step s (e :: es) s'

namespace Replay

variable {σ ε : Type} {step : σ → ε → σ → Prop} {s s' : σ} {e : ε} {es es' : List ε}

theorem nil_iff : Replay step s [] s' ↔ s' = s := by
  constructor
  · rintro ⟨⟩
    rfl
  · rintro rfl
    exact .nil s'

theorem singleton_iff : Replay step s [e] s' ↔ step s e s' := by
  constructor
  · rintro (_ | ⟨h, ⟨⟩⟩)
    exact h
  · intro h
    exact .cons h (.nil s')

theorem append_iff :
    Replay step s (es ++ es') s' ↔ ∃ m, Replay step s es m ∧ Replay step m es' s' := by
  induction es generalizing s with
  | nil =>
      constructor
      · intro h
        exact ⟨s, .nil s, h⟩
      · rintro ⟨m, hm, h⟩
        rw [nil_iff.1 hm] at h
        exact h
  | cons e es ih =>
      constructor
      · rintro (_ | ⟨h, hs⟩)
        obtain ⟨m, hm, hm'⟩ := ih.1 hs
        exact ⟨m, .cons h hm, hm'⟩
      · rintro ⟨m, _ | ⟨h, hs⟩, hm'⟩
        exact .cons h (ih.2 ⟨m, hs, hm'⟩)

/-- **What every step preserves holds all the way.** -/
theorem invariant {P : σ → Prop} (h : Replay step s es s')
    (hstep : ∀ s e s', e ∈ es → step s e s' → P s → P s') (hs : P s) : P s' := by
  induction h with
  | nil s => exact hs
  | cons h _ ih =>
      exact ih (fun s e s' he => hstep s e s' (List.mem_cons_of_mem _ he))
        (hstep _ _ _ List.mem_cons_self h hs)

end Replay

/-! ## Operations -/

/-- What can be asked of the store of a server, apart from for which tenant. -/
inductive Operation
  | list
  | create
  | delete
  | write (data : TenantData)
  | remove

/-- The items of an array. -/
def Json.items : Json → List Json
  | .array js => js
  | _ => []

/-- What a call asks of a store. A check asks for nothing. -/
def Call.operation? {α : Type} : Call α → Option Operation
  | .listTenants _ _ => some .list
  | .createTenant _ _ => some .create
  | .deleteTenant _ => some .delete
  | .writeSchema _ schema => schema.toJson.toOption.map fun j => .write { schemas := [j] }
  | .writeRelationships _ tuples _ =>
      tuples.toJson.toOption.map fun j => .write { tuples := j.items }
  | .deleteRelationships _ _ => some .remove
  | .checkPermission _ _ => none

/-- An object has no field but those that it was made from. -/
theorem Json.field?_ofFields_eq_none {fields : List (String × Json)} {name : String}
    (h : name ∉ fields.map (·.1)) : (ofFields fields).field? name = none := by
  have hnames : ∀ acc : List (String × Json), name ∉ acc.map (·.1) →
      name ∉ (fields.foldl (fun acc f => putField f.1 f.2 acc) acc).map (·.1) := by
    induction fields with
    | nil => exact fun acc hacc => hacc
    | cons f rest ih =>
        rw [List.map_cons, List.mem_cons, not_or] at h
        intro acc hacc
        refine ih h.2 _ ?_
        rw [map_fst_putField]
        split
        · exact hacc
        · simp [hacc, h.1]
  rw [ofFields, field?, Option.map_eq_none_iff, List.find?_eq_none]
  intro f hf heq
  exact hnames [] List.not_mem_nil (List.mem_map.2 ⟨f, hf, eq_of_beq heq⟩)

namespace Value

/-- The fields of a record as data, one by one. -/
theorem toJsonFields_record {fs : List (String × Value)} {js : List (String × Json)}
    (h : toJsonFields (fs.map fun f => (.text f.1, f.2)) = .ok js) :
    ∃ vs, js = List.zipWith (fun f v => (f.1, v)) fs vs ∧
      List.Forall₂ (fun f v => f.2.toJson = .ok v) fs vs := by
  induction fs generalizing js with
  | nil =>
      cases h
      exact ⟨[], rfl, .nil⟩
  | cons f fs ih =>
      rw [List.map_cons, toJsonFields] at h
      obtain ⟨name, hname, h⟩ := exists_of_bind_eq_ok h
      obtain ⟨v, hv, h⟩ := exists_of_bind_eq_ok h
      obtain ⟨rest, hrest, h⟩ := exists_of_bind_eq_ok h
      obtain ⟨vs, rfl, hvs⟩ := ih hrest
      cases hname
      cases h
      exact ⟨v :: vs, rfl, .cons hv hvs⟩

/-- The data of a record is an object. -/
theorem exists_of_toJson_record {fs : List (String × Value)} {j : Json}
    (h : (record fs).toJson = .ok j) :
    ∃ vs, j = Json.ofFields (List.zipWith (fun f v => (f.1, v)) fs vs) ∧
      List.Forall₂ (fun f v => f.2.toJson = .ok v) fs vs := by
  rw [record, toJson] at h
  obtain ⟨js, hjs, h⟩ := exists_of_bind_eq_ok h
  obtain ⟨vs, rfl, hvs⟩ := toJsonFields_record hjs
  cases h
  exact ⟨vs, rfl, hvs⟩

end Value

namespace Http

/-- What a request asks of a store, read off its method and the fields of its body. -/
def Request.operation? (r : Request) : Option Operation :=
  match r.method, r.body with
  | .delete, _ => some .delete
  | .post, none => none
  | .post, some b =>
      if (b.field? "page_size").isSome then some .list
      else if (b.field? "id").isSome then some .create
      else if (b.field? "tuple_filter").isSome then some .remove
      else
        match b.field? "schema", b.field? "tuples" with
        | some j, _ => some (.write { schemas := [j] })
        | none, some j => some (.write { tuples := j.items })
        | none, none => none

/-- The body of a call whose payload is a record has the fields of the record. -/
theorem exists_body_of_request {α : Type} {conn : Connection} {call : Call α} {r : Request}
    {fs : List (String × Value)} (h : request conn call = .ok r)
    (hfs : payload call = some (.record fs)) :
    ∃ vs, r.body = some (Json.ofFields (List.zipWith (fun f v => (f.1, v)) fs vs)) ∧
      List.Forall₂ (fun f v => f.2.toJson = .ok v) fs vs := by
  obtain ⟨p, a, b, -, -, hb, rfl⟩ := request_eq_ok_iff.1 h
  rw [body, hfs] at hb
  obtain ⟨j, hj, hb⟩ := exists_of_bind_eq_ok hb
  obtain ⟨vs, rfl, hvs⟩ := Value.exists_of_toJson_record (mapError_eq_ok_iff.1 hj)
  cases hb
  exact ⟨vs, rfl, hvs⟩

/-- The body of a call has no field that its payload has not. -/
theorem field?_of_request {α : Type} {conn : Connection} {call : Call α} {r : Request}
    {fs : List (String × Value)} {name : String} (h : request conn call = .ok r)
    (hfs : payload call = some (.record fs)) (hname : name ∉ fs.map (·.1)) :
    r.body.bind (·.field? name) = none := by
  obtain ⟨vs, hb, hvs⟩ := exists_body_of_request h hfs
  have hnames : (List.zipWith (fun f v => (f.1, v)) fs vs).map (·.1) = fs.map (·.1) := by
    clear h hfs hname hb
    induction hvs with
    | nil => rfl
    | cons _ _ ih => simpa using ih
  rw [hb]
  exact Json.field?_ofFields_eq_none (by rwa [hnames])

/-- A request says what its call asks of a store. -/
theorem operation?_of_request {α : Type} {conn : Connection} {call : Call α} {r : Request}
    {op : Operation} (h : request conn call = .ok r) (hop : call.operation? = some op) :
    r.operation? = some op := by
  have hfields := fun fs => @exists_body_of_request _ _ _ _ fs h
  obtain ⟨p, a, b, -, -, -, rfl⟩ := request_eq_ok_iff.1 h
  -- With the fields of the body at hand, the reading of the request is a computation.
  cases call with
  | listTenants size token =>
      obtain ⟨vs, rfl, _ | ⟨-, _ | ⟨-, ⟨⟩⟩⟩⟩ := hfields _ rfl
      cases hop
      rfl
  | createTenant tenant name =>
      obtain ⟨vs, rfl, _ | ⟨-, _ | ⟨-, ⟨⟩⟩⟩⟩ := hfields _ rfl
      cases hop
      rfl
  | deleteTenant tenant =>
      cases hop
      rfl
  | writeSchema tenant schema =>
      obtain ⟨vs, rfl, _ | ⟨hschema, ⟨⟩⟩⟩ := hfields _ rfl
      rw [Call.operation?, hschema] at hop
      cases hop
      rfl
  | writeRelationships tenant tuples version =>
      obtain ⟨vs, rfl, _ | ⟨-, _ | ⟨htuples, _ | ⟨-, ⟨⟩⟩⟩⟩⟩ := hfields _ rfl
      rw [Call.operation?, htuples] at hop
      cases hop
      rfl
  | deleteRelationships tenant filter =>
      obtain ⟨vs, rfl, _ | ⟨-, _ | ⟨-, ⟨⟩⟩⟩⟩ := hfields _ rfl
      cases hop
      rfl
  | checkPermission tenant check => cases hop

/-- A request of a call about this tenant, or about none, that asks for this operation. -/
def Asks (conn : Connection) (tenant : Value) (r : Request) (op : Operation) : Prop :=
  ∃ (α : Type) (call : Call α), request conn call = .ok r ∧ call.operation? = some op ∧
    ∀ v, call.tenant? = some v → v = tenant

theorem Asks.operation? {conn : Connection} {tenant : Value} {r : Request} {op : Operation}
    (h : Asks conn tenant r op) : r.operation? = some op := by
  obtain ⟨α, call, hr, hop, -⟩ := h
  exact operation?_of_request hr hop

/-- **A request asks for one operation.** -/
theorem Asks.unique {conn conn' : Connection} {tenant tenant' : Value} {r : Request}
    {op op' : Operation} (h : Asks conn tenant r op) (h' : Asks conn' tenant' r op') :
    op = op' :=
  Option.some.inj (h.operation?.symm.trans h'.operation?)

/-- A request of a call about this tenant asks for what the call asks for. -/
theorem asks_of_request {α : Type} {conn : Connection} {tenant : Value} {call : Call α}
    {r : Request} {op : Operation}
    (hr : request conn call = .ok r) (hop : call.operation? = some op)
    (htenant : ∀ v, call.tenant? = some v → v = tenant) : Asks conn tenant r op :=
  ⟨α, call, hr, hop, htenant⟩

theorem asks_create {conn : Connection} {tenant : Value} {r : Request}
    (hr : request conn (.createTenant tenant tenant) = .ok r) :
    Asks conn tenant r .create :=
  asks_of_request hr rfl fun v hv => by cases hv; rfl

theorem asks_delete {conn : Connection} {tenant : Value} {r : Request}
    (hr : request conn (.deleteTenant tenant) = .ok r) :
    Asks conn tenant r .delete :=
  asks_of_request hr rfl fun v hv => by cases hv; rfl

theorem asks_list {conn : Connection} {tenant size token : Value} {r : Request}
    (hr : request conn (.listTenants size token) = .ok r) : Asks conn tenant r .list :=
  asks_of_request hr rfl fun v hv => by cases hv

/-! ## Answers and changes -/

/-- An answer with a status of success. -/
def Answer.Accepts : Answer → Prop
  | .response status _ => isSuccess status = true
  | _ => False

theorem not_accepts_of_status {status : Nat} {bytes : List UInt8}
    (h : isSuccess status = false) : ¬ (Answer.response status bytes).Accepts := by
  intro haccepts
  rw [Answer.Accepts, h] at haccepts
  cases haccepts

/-- An answer to the creation of a tenant that reads as if the tenant existed. -/
def Answer.ReportsExisting (conn : Connection) (tenant : Value) (a : Answer) : Prop :=
  ∃ f, (reply conn (.createTenant tenant tenant) a).2 = .error f ∧ f.isDuplicate = true

/-- How a store may change by an operation on a tenant, with the answer that is given. Only absent
tenants are created. An answer that is no success may come although the operation took place. -/
inductive Changes (tenant : Value) (s : TenantStore) : Operation → Answer → TenantStore → Prop
  | listed (a : Answer) : Changes tenant s .list a s
  | created {s' : TenantStore} (habsent : s tenant = none) (hs : s.Sets s' tenant (some {}))
      (a : Answer) : Changes tenant s .create a s'
  | notCreated {a : Answer} (ha : ¬ a.Accepts) : Changes tenant s .create a s
  | written {s' : TenantStore} (hs : s.SameBut s' tenant) (data : TenantData) (a : Answer) :
      Changes tenant s (.write data) a s'
  | removed {s' : TenantStore} (hs : s.SameBut s' tenant) (a : Answer) :
      Changes tenant s .remove a s'
  | deleted {s' : TenantStore} (hs : s.Sets s' tenant none) (a : Answer) :
      Changes tenant s .delete a s'
  | notDeleted {a : Answer} (ha : ¬ a.Accepts) : Changes tenant s .delete a s

/-- How a store changes if the answers tell the truth. A creation and a deletion take place exactly
if they are answered with success, an answer that reads as if a tenant existed is given only if it
does, and only tenants of the store are listed. A write may change the data of its tenant whatever
the answer is. -/
inductive Truthful (conn : Connection) (tenant : Value) (s : TenantStore) :
    Operation → Answer → TenantStore → Prop
  | listed {a : Answer}
      (hpages : ∀ size token page, (reply conn (.listTenants size token) a).2 = .ok page →
        ∀ t ∈ page.tenants, s t.id ≠ none) :
      Truthful conn tenant s .list a s
  | created {s' : TenantStore} {a : Answer} (habsent : s tenant = none)
      (hs : s.Sets s' tenant (some {})) (ha : a.Accepts) : Truthful conn tenant s .create a s'
  | notCreated {a : Answer} (ha : ¬ a.Accepts)
      (hexisting : a.ReportsExisting conn tenant → s tenant ≠ none) :
      Truthful conn tenant s .create a s
  | written {s' : TenantStore} (hs : s.SameBut s' tenant) (data : TenantData) (a : Answer) :
      Truthful conn tenant s (.write data) a s'
  | removed {s' : TenantStore} (hs : s.SameBut s' tenant) (a : Answer) :
      Truthful conn tenant s .remove a s'
  | deleted {s' : TenantStore} {a : Answer} (hs : s.Sets s' tenant none) (ha : a.Accepts) :
      Truthful conn tenant s .delete a s'
  | notDeleted {a : Answer} (ha : ¬ a.Accepts) : Truthful conn tenant s .delete a s

/-- A server takes a request with its answer as one of these changes of its store. -/
def Takes (conn : Connection) (tenant : Value)
    (change : TenantStore → Operation → Answer → TenantStore → Prop) (s : TenantStore)
    (e : Request × Answer) (s' : TenantStore) : Prop :=
  ∃ op, Asks conn tenant e.1 op ∧ change s op e.2 s'

/-- What a server does with a request that is known to ask for an operation. -/
theorem Takes.change {conn : Connection} {tenant : Value}
    {change : TenantStore → Operation → Answer → TenantStore → Prop} {s s' : TenantStore}
    {e : Request × Answer} {op : Operation} (h : Takes conn tenant change s e s')
    (hop : Asks conn tenant e.1 op) : change s op e.2 s' := by
  obtain ⟨op', hop', hchange⟩ := h
  rw [hop.unique hop']
  exact hchange

/-- What a truthful server does is what any server may do. -/
theorem Truthful.changes {conn : Connection} {tenant : Value} {s s' : TenantStore}
    {op : Operation} {a : Answer} (h : Truthful conn tenant s op a s') :
    Changes tenant s op a s' := by
  cases h with
  | listed _ => exact .listed a
  | created habsent hs _ => exact .created habsent hs a
  | notCreated ha _ => exact .notCreated ha
  | written hs data => exact .written hs data a
  | removed hs => exact .removed hs a
  | deleted hs _ => exact .deleted hs a
  | notDeleted ha => exact .notDeleted ha

/-- No other tenant's entry changes. -/
theorem Changes.others {tenant : Value} {s s' : TenantStore} {op : Operation} {a : Answer}
    (h : Changes tenant s op a s') {v : Value} (hv : v ≠ tenant) : s' v = s v := by
  cases h with
  | listed => rfl
  | created _ hs => exact hs.others v hv
  | notCreated _ => rfl
  | written hs => exact hs.others v hv
  | removed hs => exact hs.others v hv
  | deleted hs => exact hs.others v hv
  | notDeleted _ => rfl

end Http

end Rebac
