import Mathlib.Data.List.Forall2
import Rebac.Check
import Rebac.Write.Operations

set_option autoImplicit false

/-!
# Runs that differ in their requests only

Two dialogues are alike, up to a relation on requests, if on the same answers they send related
requests, write the same log, end alike and leave the same answers. Everything that is put together
from alike dialogues is alike, and so is every operation with alike clients: whatever else
distinguishes the clients has no influence on what is written, returned or reported.
-/

namespace Rebac

universe u v

/-- Two results agree: they are the same failure, or results that are related. -/
inductive Agree {ε : Type} {α β : Type u} (S : α → β → Prop) : Except ε α → Except ε β → Prop
  | error (e : ε) : Agree S (.error e) (.error e)
  | ok {a : α} {b : β} (h : S a b) : Agree S (.ok a) (.ok b)

/-- Computations that go on alike after the same first step agree. -/
theorem Agree.bind {ε γ α β : Type} {S : α → β → Prop} (x : Except ε γ) {k : γ → Except ε α}
    {k' : γ → Except ε β} (h : ∀ c, Agree S (k c) (k' c)) : Agree S (x >>= k) (x >>= k') := by
  cases x with
  | error e => exact .error e
  | ok c => exact h c

theorem Agree.map {ε : Type} {α β : Type u} {γ δ : Type v} {S : α → β → Prop} {S' : γ → δ → Prop}
    {x : Except ε α} {x' : Except ε β} {f : α → γ} {g : β → δ} (h : Agree S x x')
    (hS : ∀ a b, S a b → S' (f a) (g b)) : Agree S' (x.map f) (x'.map g) := by
  cases h with
  | error e => exact .error e
  | ok h => exact .ok (hS _ _ h)

variable {Req Ans α β : Type} {R : Req → Req → Prop}

/-- Events are alike: related requests, the same record, or both the closing of a connection. -/
inductive Event.Alike (R : Req → Req → Prop) : Event Req → Event Req → Prop
  | sent {r r' : Req} (h : R r r') : Alike R (.sent r) (.sent r')
  | logged (record : LogRecord) : Alike R (.logged record) (.logged record)
  | closed : Alike R .closed .closed

/-- Runs are alike: so are their events, and they end with the same and leave the same answers. -/
structure Run.Alike (R : Req → Req → Prop) (run run' : Run Req Ans α) : Prop where
  events : List.Forall₂ (Event.Alike R) run.events run'.events
  ending : run.ending = run'.ending
  rest : run.rest = run'.rest

/-- Dialogues are alike: so are their runs, on all answers. -/
def Dialogue.Alike (R : Req → Req → Prop) (d d' : Dialogue Req Ans α) : Prop :=
  ∀ answers, (d answers).Alike R (d' answers)

/-! ## Combinators -/

/-- Records of the log are alike if they are the same. -/
theorem forall₂_logged (records : List LogRecord) :
    List.Forall₂ (Event.Alike R) (records.map .logged) (records.map .logged) := by
  rw [List.forall₂_map_left_iff, List.forall₂_map_right_iff, List.forall₂_same]
  exact fun record _ => .logged record

theorem Run.Alike.prepend {events events' : List (Event Req)} {run run' : Run Req Ans α}
    (hevents : List.Forall₂ (Event.Alike R) events events') (h : run.Alike R run') :
    (run.prepend events).Alike R (run'.prepend events') :=
  ⟨List.rel_append hevents h.events, h.ending, h.rest⟩

namespace Dialogue.Alike

/-- A dialogue that sends nothing is alike to itself. -/
theorem of_quiet {d : Dialogue Req Ans α}
    (h : ∀ answers, ∃ records : List LogRecord, (d answers).events = records.map .logged) :
    d.Alike R d := by
  intro answers
  obtain ⟨records, hrecords⟩ := h answers
  refine ⟨?_, rfl, rfl⟩
  rw [hrecords]
  exact forall₂_logged records

theorem pure (a : α) : Dialogue.Alike R (Pure.pure a : Dialogue Req Ans α) (Pure.pure a) :=
  of_quiet fun _ => ⟨[], rfl⟩

theorem fail (f : Failure) : Dialogue.Alike R (Dialogue.fail f : Dialogue Req Ans α) (.fail f) :=
  of_quiet fun _ => ⟨[], rfl⟩

theorem ofExcept (r : Except Failure α) :
    Dialogue.Alike R (Dialogue.ofExcept r : Dialogue Req Ans α) (.ofExcept r) :=
  of_quiet fun _ => ⟨[], rfl⟩

theorem log (severity : Severity) (component : Component) (message : String) :
    Dialogue.Alike R (Dialogue.log severity component message : Dialogue Req Ans Unit)
      (.log severity component message) :=
  of_quiet fun _ => ⟨[⟨severity, component, message⟩], rfl⟩

/-- Dialogues that go on alike whatever the first returns are alike. -/
theorem bind {d d' : Dialogue Req Ans α} {k k' : α → Dialogue Req Ans β} (h : d.Alike R d')
    (hk : ∀ a, (k a).Alike R (k' a)) : (d >>= k).Alike R (d' >>= k') := by
  intro answers
  obtain ⟨hevents, hending, hrest⟩ := h answers
  rw [bind_apply, bind_apply, ← hending, ← hrest]
  cases (d answers).ending with
  | returned a => exact (hk a _).prepend hevents
  | failed f => exact ⟨hevents, rfl, rfl⟩
  | waiting => exact ⟨hevents, rfl, rfl⟩

theorem attempt {d d' : Dialogue Req Ans α} (h : d.Alike R d') : d.attempt.Alike R d'.attempt := by
  intro answers
  obtain ⟨hevents, hending, hrest⟩ := h answers
  unfold Dialogue.attempt
  dsimp only
  rw [← hending, ← hrest]
  cases (d answers).ending with
  | returned a => exact ⟨hevents, rfl, rfl⟩
  | failed f => exact ⟨hevents, rfl, rfl⟩
  | waiting => exact ⟨hevents, rfl, rfl⟩

theorem closing {d d' : Dialogue Req Ans α} (h : d.Alike R d') : d.closing.Alike R d'.closing := by
  intro answers
  obtain ⟨hevents, hending, hrest⟩ := h answers
  have hclosed : List.Forall₂ (Event.Alike R) ((d answers).events ++ [.closed])
      ((d' answers).events ++ [.closed]) := List.rel_append hevents (.cons .closed .nil)
  unfold Dialogue.closing
  dsimp only
  rw [← hending]
  cases (d answers).ending with
  | returned a => exact ⟨hclosed, rfl, hrest⟩
  | failed f => exact ⟨hclosed, rfl, hrest⟩
  | waiting => exact h answers

/-- What begins with results that agree goes on with related ones, or ends with the same failure. -/
theorem ofExcept_bind {γ : Type} {S : α → β → Prop} {x : Except Failure α} {x' : Except Failure β}
    {k : α → Dialogue Req Ans γ} {k' : β → Dialogue Req Ans γ} (h : Agree S x x')
    (hk : ∀ a b, S a b → (k a).Alike R (k' b)) :
    Dialogue.Alike R (Dialogue.ofExcept x >>= k) (Dialogue.ofExcept x' >>= k') := by
  cases h with
  | error f => exact fail f
  | ok h => exact hk _ _ h

end Dialogue.Alike

/-! ## Clients -/

/-- Clients are alike: for every call both fail alike to make a request or make related ones, and
both read every answer alike. -/
structure Client.Alike (R : Req → Req → Prop) (c c' : Client Req Ans) : Prop where
  request : ∀ {α : Type} (call : Call α), Agree R (c.request call) (c'.request call)
  reply : ∀ {α : Type} (call : Call α) (a : Ans), c.reply call a = c'.reply call a

namespace Client.Alike

variable {c c' : Client Req Ans}

/-- Alike clients make a call alike. -/
theorem ask (h : Client.Alike R c c') (call : Call α) : (c.ask call).Alike R (c'.ask call) := by
  intro answers
  have hrequest := h.request call
  unfold Client.ask
  generalize c.request call = x at hrequest
  generalize c'.request call = x' at hrequest
  cases hrequest with
  | error f => exact ⟨.nil, rfl, rfl⟩
  | ok hR =>
      cases answers with
      | nil => exact ⟨.cons (.sent hR) .nil, rfl, rfl⟩
      | cons a rest =>
          dsimp only
          rw [h.reply call a]
          exact ⟨.cons (.sent hR) (forall₂_logged _), rfl, rfl⟩

/-- Alike clients search for a tenant alike: page by page, they get the same answers. -/
theorem searchFrom (h : Client.Alike R c c') (tenant pageSize token : Value) (pages : Nat) :
    (c.searchFrom tenant pageSize token pages).Alike R
      (c'.searchFrom tenant pageSize token pages) := by
  intro answers
  induction answers generalizing token pages with
  | nil =>
      have hrequest := h.request (.listTenants pageSize token)
      rw [Client.searchFrom, Client.searchFrom]
      generalize c.request _ = x at hrequest
      generalize c'.request _ = x' at hrequest
      cases hrequest with
      | error f => exact ⟨.nil, rfl, rfl⟩
      | ok hR => exact ⟨.cons (.sent hR) .nil, rfl, rfl⟩
  | cons a rest ih =>
      have hrequest := h.request (.listTenants pageSize token)
      rw [Client.searchFrom, Client.searchFrom]
      generalize c.request _ = x at hrequest
      generalize c'.request _ = x' at hrequest
      cases hrequest with
      | error f => exact ⟨.nil, rfl, rfl⟩
      | ok hR =>
          dsimp only
          rw [h.reply _ a]
          have hevents : List.Forall₂ (Event.Alike R) _ _ :=
            .cons (.sent hR) (forall₂_logged (c'.reply (.listTenants pageSize token) a).1)
          cases (c'.reply (.listTenants pageSize token) a).2 with
          | error f => exact ⟨hevents, rfl, rfl⟩
          | ok page =>
              dsimp only
              split
              · exact ⟨List.rel_append hevents (forall₂_logged [foundRecord tenant (pages + 1)]),
                  rfl, rfl⟩
              · split
                · exact (ih page.token (pages + 1)).prepend hevents
                · exact ⟨List.rel_append hevents
                    (forall₂_logged [missingRecord tenant (pages + 1)]), rfl, rfl⟩

theorem createTenant (h : Client.Alike R c c') (tenant : Value) :
    (c.createTenant tenant).Alike R (c'.createTenant tenant) := by
  refine .bind (h.ask _).attempt fun outcome => ?_
  cases outcome with
  | ok v => exact .bind (.log _ _ _) fun _ => .pure _
  | error f =>
      dsimp only
      split
      · exact .bind (.log _ _ _) fun _ => .pure _
      · exact .fail f

theorem resolveTenant (h : Client.Alike R c c') (tenant : Value) (create : Bool) :
    (c.resolveTenant tenant create).Alike R (c'.resolveTenant tenant create) := by
  cases create with
  | true => exact h.createTenant tenant
  | false =>
      refine .bind (h.searchFrom _ _ _ _) fun found => ?_
      cases found with
      | true => exact .pure _
      | false => exact .fail _

theorem checkPermission (h : Client.Alike R c c') (tenant : Value) (q : PermissionQuery) :
    (c.checkPermission tenant q).Alike R (c'.checkPermission tenant q) := by
  unfold Client.checkPermission
  split
  · exact .fail _
  · split
    · exact .fail _
    · exact .bind (.ofExcept _) fun request => .bind (h.ask _) fun data =>
        .bind (.ofExcept _) fun result => .bind (.log _ _ _) fun _ => .pure _

end Client.Alike

/-! ## Writes -/

namespace Write

variable {c c' : Client Req Ans}

/-- A deletion that compensates for a failure is alike, and so is the failure that is reported. -/
theorem alike_rollBack (h : Client.Alike R c c') (tenant : Value) (cause : Failure) :
    (rollBack c tenant cause).Alike R (rollBack c' tenant cause) := by
  refine .bind (.log _ _ _) fun _ => .bind (.log _ _ _) fun _ => .bind (h.ask _).attempt ?_
  intro outcome
  cases outcome with
  | ok v => exact .bind (.log _ _ _) fun _ => .pure _
  | error f =>
      dsimp only
      split
      · exact .bind (.log _ _ _) fun _ => .bind (.log _ _ _) fun _ => .pure _
      · exact .fail f

theorem alike_runWith {operation operation' : WriteOperation Req Ans α}
    (h : Client.Alike R c c') (tenant : Value) (create : Bool)
    (hoperation : (operation c tenant).Alike R (operation' c' tenant)) :
    (runWith c tenant create operation).Alike R (runWith c' tenant create operation') := by
  refine .bind (.log _ _ _) fun _ => .bind (h.resolveTenant tenant create) fun status => ?_
  refine .bind (.log _ _ _) fun _ => .bind (.log _ _ _) fun _ => .bind hoperation.attempt ?_
  intro outcome
  cases outcome with
  | ok result => exact .bind (.log _ _ _) fun _ => .pure _
  | error f =>
      dsimp only
      split
      · exact .bind (alike_rollBack h tenant f) fun failure => .fail failure
      · exact .fail f

end Write

/-- Sources are alike: both give alike clients, or their settings are refused with the same
failure. -/
inductive Source.Alike (R : Req → Req → Prop) : Source Req Ans → Source Req Ans → Prop
  | established {c c' : Client Req Ans} (h : Client.Alike R c c') :
      Alike R (.established c) (.established c')
  | settings {connect connect' : ConnectionSettings → Except Failure (Client Req Ans)}
      {endpoint endpoint' : Option String} {options options' : Option ConnectionSettings}
      (hnames : Source.namesEndpoint endpoint options = Source.namesEndpoint endpoint' options')
      (h : Agree (Client.Alike R) (connect (ConnectionSettings.effective endpoint options))
        (connect' (ConnectionSettings.effective endpoint' options'))) :
      Alike R (.settings connect endpoint options) (.settings connect' endpoint' options')

theorem Source.Alike.isUsable_eq {s s' : Source Req Ans} (h : s.Alike R s') :
    s.isUsable = s'.isUsable := by
  cases h with
  | established h => rfl
  | settings hnames h => exact hnames

theorem Source.Alike.use {s s' : Source Req Ans} (h : s.Alike R s')
    {d d' : Client Req Ans → Dialogue Req Ans α}
    (hd : ∀ c c', Client.Alike R c c' → (d c).Alike R (d' c')) :
    (s.use d).Alike R (s'.use d') := by
  cases h with
  | established h => exact hd _ _ h
  | @settings connect connect' _ _ _ _ hnames h =>
      unfold Source.use
      dsimp only
      generalize connect _ = x at h
      generalize connect' _ = x' at h
      cases h with
      | error f => exact .fail f
      | ok h => exact (hd _ _ h).closing

/-- Targets are alike: they differ in their sources only, and these are alike. -/
structure Target.Alike (R : Req → Req → Prop) (t t' : Target Req Ans) : Prop where
  tenant : t.tenant = t'.tenant
  create : t.create = t'.create
  source : t.source.Alike R t'.source

namespace Target.Alike

variable {t t' : Target Req Ans}

theorem check_eq (h : t.Alike R t') : t.check = t'.check := by
  unfold Target.check
  rw [h.source.isUsable_eq, h.tenant]

/-- Operations that alike clients run alike are executed alike on alike targets. -/
theorem execute (h : t.Alike R t') {operation operation' : WriteOperation Req Ans α}
    (hoperation : ∀ c c' tenant, Client.Alike R c c' →
      (operation c tenant).Alike R (operation' c' tenant)) :
    (t.execute operation).Alike R (t'.execute operation') := by
  unfold Target.execute
  rw [h.check_eq]
  cases t'.check with
  | error f => exact .fail _
  | ok _ =>
      dsimp only
      rw [h.tenant, h.create]
      exact h.source.use fun c c' hc => Write.alike_runWith hc _ _ (hoperation c c' _ hc)

theorem executeWith (h : t.Alike R t') (payload : Except Failure β)
    {k k' : β → Dialogue Req Ans α} (hk : ∀ b, (k b).Alike R (k' b)) :
    (t.executeWith payload k).Alike R (t'.executeWith payload k') := by
  unfold Target.executeWith
  rw [h.check_eq]
  cases t'.check with
  | error f => exact .fail _
  | ok _ =>
      cases payload with
      | error f => exact .fail f
      | ok b => exact hk b

theorem writeSchema (h : t.Alike R t') (schema : Value) :
    (t.writeSchema schema).Alike R (t'.writeSchema schema) := by
  unfold Target.writeSchema
  rw [h.tenant]
  exact h.executeWith _ fun text => .bind (h.execute fun c c' tenant hc => hc.ask _) fun outcome =>
    .bind (.log _ _ _) fun _ => .pure _

theorem sendRelationships (h : t.Alike R t') (records : List Value) (version : Value) :
    (t.sendRelationships records version).Alike R (t'.sendRelationships records version) := by
  unfold Target.sendRelationships
  rw [h.tenant]
  exact .bind (.ofExcept _) fun tuples => .bind (h.execute fun c c' tenant hc => hc.ask _)
    fun outcome => .bind (.log _ _ _) fun _ => .pure _

theorem writeRelationships (h : t.Alike R t') (tuples version : Value) :
    (t.writeRelationships tuples version).Alike R (t'.writeRelationships tuples version) :=
  h.executeWith _ fun records => h.sendRelationships records version

theorem deleteRelationships (h : t.Alike R t') (filter : Value) :
    (t.deleteRelationships filter).Alike R (t'.deleteRelationships filter) := by
  unfold Target.deleteRelationships
  rw [h.tenant]
  exact h.executeWith _ fun wire => .bind (h.execute fun c c' tenant hc => hc.ask _) fun outcome =>
    .bind (.log _ _ _) fun _ => .pure _

theorem seedRelationships (h : t.Alike R t') (tuples mode : Value) :
    (t.seedRelationships tuples mode).Alike R (t'.seedRelationships tuples mode) := by
  have hclear : t.clear.Alike R t'.clear := by
    unfold Target.clear
    rw [h.tenant]
    have hkept : Target.Alike R { tenant := t'.tenant, source := t.source }
        { tenant := t'.tenant, source := t'.source } := ⟨rfl, rfl, h.source⟩
    exact .bind (.log _ _ _) fun _ => .bind (hkept.deleteRelationships _) fun _ => .pure _
  have hwrite : ∀ records replaced,
      Dialogue.Alike R
        (t.writeRelationships (.list records) >>= fun w => pure { w with replaced := replaced })
        (t'.writeRelationships (.list records) >>= fun w => pure { w with replaced := replaced }) :=
    fun records replaced => .bind (h.writeRelationships _ _) fun _ => .pure _
  unfold Target.seedRelationships
  refine h.executeWith _ fun ⟨m, records⟩ => ?_
  dsimp only
  cases records with
  | nil =>
      rw [Target.seedRecords, Target.seedRecords, h.tenant]
      exact .bind (.log _ _ _) fun _ => .pure _
  | cons record records =>
      cases m with
      | append => exact hwrite _ false
      | replace => exact .bind hclear fun _ => hwrite _ true

end Target.Alike

end Rebac
