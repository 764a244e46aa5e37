import Rebac.Client.Http
import Rebac.Config
import Rebac.Proofs.AlikeRuns

set_option autoImplicit false

/-!
# The token of a connection

The token of connection settings goes into the authorization of requests and nowhere else. Two
connections that differ in their tokens have the same headers apart from authorization
(`agree_connect`), so their clients are alike up to authorization, and with them every
procedure (`token_only_authorizes`).
-/

namespace Rebac

namespace Http

/-! ## Headers in order -/

theorem headerLe_iff {a b : String × String} :
    headerLe a b = true ↔ a.1 < b.1 ∨ a.1 = b.1 ∧ a.2 ≤ b.2 := by
  simp only [headerLe, Bool.or_eq_true, Bool.and_eq_true, decide_eq_true_eq, beq_iff_eq,
    Bool.not_eq_true', decide_eq_false_iff_not, String.not_lt]

theorem headerLe_trans (a b c : String × String) (hab : headerLe a b = true)
    (hbc : headerLe b c = true) : headerLe a c = true := by
  rw [headerLe_iff] at *
  rcases hab with hab | ⟨hab, hab'⟩
  · rcases hbc with hbc | ⟨hbc, -⟩
    · exact Or.inl (String.lt_trans hab hbc)
    · exact Or.inl (hbc ▸ hab)
  · rw [hab]
    exact hbc.imp_right fun hbc => ⟨hbc.1, String.le_trans hab' hbc.2⟩

theorem headerLe_total (a b : String × String) : (headerLe a b || headerLe b a) = true := by
  rw [Bool.or_eq_true, headerLe_iff, headerLe_iff]
  by_cases hab : a.1 < b.1
  · exact Or.inl (Or.inl hab)
  by_cases hba : b.1 < a.1
  · exact Or.inr (Or.inl hba)
  have heq : a.1 = b.1 := String.le_antisymm (String.not_lt.1 hba) (String.not_lt.1 hab)
  exact (String.le_total a.2 b.2).imp (fun h => Or.inr ⟨heq, h⟩) fun h => Or.inr ⟨heq.symm, h⟩

theorem headerLe_antisymm {a b : String × String} (hab : headerLe a b = true)
    (hba : headerLe b a = true) : a = b := by
  rw [headerLe_iff] at *
  rcases hab with hab | ⟨heq, hab⟩
  · rcases hba with hba | ⟨heq, -⟩
    · exact absurd (String.lt_trans hab hba) (String.lt_irrefl _)
    · exact absurd (heq ▸ hab) (String.lt_irrefl _)
  · rcases hba with hba | ⟨-, hba⟩
    · exact absurd (heq ▸ hba) (String.lt_irrefl _)
    · exact Prod.ext heq (String.le_antisymm hab hba)

/-- Headers can be left out before they are sorted or afterwards. -/
theorem filter_mergeSort (p : String × String → Bool) (hs : List (String × String)) :
    (hs.mergeSort headerLe).filter p = (hs.filter p).mergeSort headerLe := by
  have hsorted := List.pairwise_mergeSort headerLe_trans headerLe_total
  refine List.Perm.eq_of_pairwise (fun a b _ _ => headerLe_antisymm) ((hsorted hs).filter p)
    (hsorted _) ?_
  exact ((List.mergeSort_perm hs headerLe).filter p).trans (List.mergeSort_perm _ _).symm

/-! ## Headers other than authorization -/

/-- A header other than authorization, with its name in lower case. -/
def isOther (h : String × String) : Bool := h.1 != "authorization"

/-- Whether a header is kept depends on its name only. -/
theorem isOther_eq_of_name {g h : String × String} (hname : g.1 = h.1) : isOther g = isOther h := by
  rw [isOther, isOther, hname]

/-- A header is added to the other headers if it is one itself. -/
theorem filter_addHeader (hs : List (String × String)) (h : String × String) :
    (addHeader hs h).filter isOther =
      if isOther h then addHeader (hs.filter isOther) h else hs.filter isOther := by
  induction hs with
  | nil => cases hh : isOther h <;> simp [addHeader, hh]
  | cons g hs ih =>
      rw [addHeader]
      split
      · rename_i hname
        have hg : isOther g = isOther h := isOther_eq_of_name hname
        have hjoined : isOther (g.1, g.2 ++ ", " ++ h.2) = isOther h := isOther_eq_of_name hname
        rw [List.filter_cons, List.filter_cons, hg, hjoined]
        cases isOther h with
        | true => simp [addHeader, hname]
        | false => rfl
      · rename_i hname
        rw [List.filter_cons, List.filter_cons, ih]
        cases hg : isOther g with
        | false => rfl
        | true =>
            cases isOther h with
            | false => rfl
            | true => simp [addHeader, hname]

theorem filter_foldl_addHeader (acc hs : List (String × String)) :
    (hs.foldl addHeader acc).filter isOther =
      (hs.filter isOther).foldl addHeader (acc.filter isOther) := by
  induction hs generalizing acc with
  | nil => rfl
  | cons h hs ih =>
      rw [List.foldl_cons, ih, filter_addHeader, List.filter_cons]
      cases isOther h with
      | true => rfl
      | false => rfl

/-- A header with its name in lower case. -/
def lowered (h : String × String) : String × String := (lower h.1, h.2)

/-- The headers other than authorization that are sent are determined by those that are set. -/
theorem filter_sentHeaders (hs : List (String × String)) :
    (sentHeaders hs).filter isOther =
      ((((hs.map lowered).filter isOther).foldl addHeader []).filter
        fun h => !ownHeaders.contains h.1).mergeSort headerLe := by
  change ((((hs.map lowered).foldl addHeader []).filter
    fun h => !ownHeaders.contains h.1).mergeSort headerLe).filter isOther = _
  rw [filter_mergeSort, List.filter_comm, filter_foldl_addHeader]
  rfl

/-- Setting the authorization changes no other header. -/
theorem filter_putHeader (value : String) (hs : List (String × String)) :
    ((ConnectionSettings.putHeader "Authorization" value hs).map lowered).filter isOther =
      (hs.map lowered).filter isOther := by
  have hlower : lower "Authorization" = "authorization" := by decide
  have hnot : ∀ v, isOther (lowered ("Authorization", v)) = false := by
    intro v
    rw [isOther, lowered, hlower, bne_self_eq_false]
  induction hs with
  | nil => rw [ConnectionSettings.putHeader, List.map_singleton, List.filter_singleton, hnot]; rfl
  | cons h hs ih =>
      rw [ConnectionSettings.putHeader]
      split
      · rename_i hname
        have hh : isOther (lowered h) = false := by
          rw [← hnot h.2, ← hname]
        rw [List.map_cons, List.map_cons, List.filter_cons, List.filter_cons, hnot, hh]
        rfl
      · rw [List.map_cons, List.map_cons, List.filter_cons, List.filter_cons, ih]

/-- User information in an address decides the authorization and no other header. -/
theorem filter_authorized (a : Address) {hs hs' : List (String × String)}
    (h : hs.filter isOther = hs'.filter isOther) :
    (authorized a hs).filter isOther = (authorized a hs').filter isOther := by
  unfold authorized
  cases a.credentials? with
  | none => exact h
  | some credentials =>
      change ((_ :: hs.filter isOther).mergeSort headerLe).filter isOther =
        ((_ :: hs'.filter isOther).mergeSort headerLe).filter isOther
      rw [h]

/-! ## Connections that differ in their tokens -/

/-- Requests are the same apart from their authorization. -/
structure Request.SameButAuthorization (r r' : Request) : Prop where
  method : r.method = r'.method
  url : r.url = r'.url
  timeout : r.timeout = r'.timeout
  body : r.body = r'.body
  headers : r.headers.filter isOther = r'.headers.filter isOther

/-- Connections are the same apart from the authorization of their requests. -/
structure Connection.SameButAuthorization (c c' : Connection) : Prop where
  endpoint : c.endpoint = c'.endpoint
  base : c.base = c'.base
  timeout : c.timeout = c'.timeout
  headers : c.headers.filter isOther = c'.headers.filter isOther

theorem Connection.SameButAuthorization.agree_request {c c' : Connection} {α : Type}
    (h : c.SameButAuthorization c') (call : Call α) :
    Agree Request.SameButAuthorization (request c call) (request c' call) := by
  obtain ⟨-, hbase, htimeout, hheaders⟩ := h
  unfold request
  rw [hbase]
  exact .bind _ fun p => .bind _ fun url => .bind _ fun body =>
    .ok ⟨rfl, rfl, htimeout, rfl, hheaders⟩

/-- The clients of such connections are alike up to authorization. -/
theorem Connection.SameButAuthorization.alike_client {c c' : Connection}
    (h : c.SameButAuthorization c') :
    Client.Alike Request.SameButAuthorization (client c) (client c') where
  request call := h.agree_request call
  reply call a := by
    change reply c call a = reply c' call a
    unfold reply
    rw [h.endpoint]

end Http

namespace ConnectionSettings

/-- Connection settings with a token. -/
def withToken (o : ConnectionSettings) (token : String) : ConnectionSettings :=
  { o with authToken := some token }

variable {o : ConnectionSettings} {token : String}

theorem headers_withToken (h : token ≠ "") :
    (o.withToken token).headers = putHeader "Authorization" ("Bearer " ++ token) o.metadata := by
  have hgiven : given? (some token) = some token := by simp [given?, h]
  rw [headers, withToken, hgiven]

/-- What holds of both values of a header holds of all headers with either value. -/
theorem all_putHeader {p : String × String → Bool} {name value value' : String}
    (h : p (name, value) = p (name, value')) (hs : List (String × String)) :
    (putHeader name value hs).all p = (putHeader name value' hs).all p := by
  induction hs with
  | nil => simp [putHeader, h]
  | cons g hs ih =>
      rw [putHeader, putHeader]
      split
      · simp [h]
      · simp [ih]

theorem effective_withToken (endpoint : Option String) :
    effective endpoint (some (o.withToken token)) =
      (effective endpoint (some o)).withToken token := by
  unfold effective
  cases given? endpoint with
  | none => rfl
  | some e => rfl

end ConnectionSettings

namespace Http

theorem isAscii_bearer {token : String} (h : isAscii token = true) :
    isAscii ("Bearer " ++ token) = true := by
  rw [isAscii, String.toList_append, List.all_append, Bool.and_eq_true]
  exact ⟨by decide, h⟩

/-- **Connections with different tokens.** Settings with two tokens are refused alike, or they give
connections that differ in their authorization. -/
theorem agree_connect {files : String → Bool} {o : ConnectionSettings} {t t' : String}
    (ht : t ≠ "") (ht' : t' ≠ "") (hascii : isAscii t = true) (hascii' : isAscii t' = true) :
    Agree Connection.SameButAuthorization (connect files (o.withToken t))
      (connect files (o.withToken t')) := by
  have hall : (o.withToken t).headers.all (fun h => isAscii h.1 && isAscii h.2) =
      (o.withToken t').headers.all (fun h => isAscii h.1 && isAscii h.2) := by
    rw [ConnectionSettings.headers_withToken ht, ConnectionSettings.headers_withToken ht']
    refine ConnectionSettings.all_putHeader ?_ _
    rw [isAscii_bearer hascii, isAscii_bearer hascii']
  have hothers : (sentHeaders (o.withToken t).headers).filter isOther =
      (sentHeaders (o.withToken t').headers).filter isOther := by
    rw [ConnectionSettings.headers_withToken ht, ConnectionSettings.headers_withToken ht',
      filter_sentHeaders, filter_sentHeaders, filter_putHeader, filter_putHeader]
  -- Nothing else in the settings depends on the token.
  have hendpoint : ∀ t, (o.withToken t).endpoint = o.endpoint := fun _ => rfl
  unfold connect
  rw [hall, hendpoint, hendpoint]
  cases ConnectionSettings.given? o.endpoint with
  | none => exact .error _
  | some endpoint =>
      dsimp only
      split
      · exact .error _
      · refine .bind _ fun timeout => ?_
        have hfiles : (o.withToken t).files = (o.withToken t').files := rfl
        rw [hfiles]
        split
        · exact .error _
        · refine .bind _ fun address => .bind _ fun base => ?_
          split
          · exact .error _
          · exact .ok ⟨rfl, rfl, rfl, filter_authorized base hothers⟩

/-! ## Procedures with two tokens -/

/-- A procedure on a tenant, by the kind of its result. -/
inductive Procedure : Type → Type
  | writeSchema (schema : Value) : Procedure SchemaWritten
  | writeRelationships (tuples version : Value) : Procedure RelationshipsWritten
  | deleteRelationships (filter : Value) : Procedure RelationshipsDeleted
  | seedRelationships (tuples mode : Value) : Procedure RelationshipsWritten

/-- Runs a procedure on a target. -/
def Procedure.run {α : Type} (t : Target Request Answer) :
    Procedure α → Dialogue Request Answer α
  | .writeSchema schema => t.writeSchema schema
  | .writeRelationships tuples version => t.writeRelationships tuples version
  | .deleteRelationships filter => t.deleteRelationships filter
  | .seedRelationships tuples mode => t.seedRelationships tuples mode

/-- How connection settings come to a procedure: the caller connects and passes the client on, or
it passes the settings on, possibly with another endpoint. -/
inductive Handover
  | client
  | settings (endpoint : Option String)

/-- Runs a procedure on a tenant with connection settings. -/
def Procedure.runWith {α : Type} (p : Procedure α) (files : String → Bool)
    (o : ConnectionSettings) (via : Handover) (tenant : Value) (create : Bool) :
    Dialogue Request Answer α :=
  match via with
  | .client => do
      let conn ← Dialogue.ofExcept (connect files o)
      p.run { tenant := tenant, create := create, source := .established (client conn) }
  | .settings endpoint =>
      p.run {
        tenant := tenant
        create := create
        source := .settings (fun s => (connect files s).map client) endpoint (some o) }

/-- Connects with settings and asks whether a subject has a permission on an entity of a tenant. -/
def checkWith (files : String → Bool) (o : ConnectionSettings) (tenant : Value)
    (q : PermissionQuery) : Dialogue Request Answer Bool := do
  let conn ← Dialogue.ofExcept (connect files o)
  (client conn).checkPermission tenant q

theorem Procedure.alike_run {R : Request → Request → Prop} {α : Type} (p : Procedure α)
    {t t' : Target Request Answer} (h : t.Alike R t') : (p.run t).Alike R (p.run t') := by
  cases p with
  | writeSchema schema => exact h.writeSchema schema
  | writeRelationships tuples version => exact h.writeRelationships tuples version
  | deleteRelationships filter => exact h.deleteRelationships filter
  | seedRelationships tuples mode => exact h.seedRelationships tuples mode

section Tokens

variable {files : String → Bool} {o : ConnectionSettings} {t t' : String}
variable (ht : t ≠ "") (ht' : t' ≠ "") (hascii : isAscii t = true) (hascii' : isAscii t' = true)
include ht ht' hascii hascii'

theorem Procedure.alike_runWith {α : Type} (p : Procedure α) (via : Handover) (tenant : Value)
    (create : Bool) :
    (p.runWith files (o.withToken t) via tenant create).Alike Request.SameButAuthorization
      (p.runWith files (o.withToken t') via tenant create) := by
  cases via with
  | client =>
      refine .ofExcept_bind (agree_connect ht ht' hascii hascii') fun conn conn' h => ?_
      exact p.alike_run ⟨rfl, rfl, .established h.alike_client⟩
  | settings endpoint =>
      refine p.alike_run ⟨rfl, rfl, .settings rfl ?_⟩
      rw [ConnectionSettings.effective_withToken, ConnectionSettings.effective_withToken]
      exact (agree_connect ht ht' hascii hascii').map fun conn conn' h => h.alike_client

/-- **The token of a connection shows nowhere but in the authorization.** With two tokens that are
not empty and in ASCII, and otherwise the same settings, every procedure on a tenant and every check
of a permission runs alike on the same answers: the requests are the same apart from their
authorization, and so are the log, the result or the failure with all that it says, and the answers
that are left. Validation does not look at the token at all. -/
theorem token_only_authorizes :
    (∀ {α : Type} (p : Procedure α) (via : Handover) (tenant : Value) (create : Bool),
      (p.runWith files (o.withToken t) via tenant create).Alike Request.SameButAuthorization
        (p.runWith files (o.withToken t') via tenant create)) ∧
    (∀ (tenant : Value) (q : PermissionQuery),
      (checkWith files (o.withToken t) tenant q).Alike Request.SameButAuthorization
        (checkWith files (o.withToken t') tenant q)) ∧
    ∀ (tree : FileTree) (c : Configuration),
      Configuration.validate tree (some { c with client := some (o.withToken t) }) =
        Configuration.validate tree (some { c with client := some (o.withToken t') }) := by
  refine ⟨fun p via tenant create => p.alike_runWith ht ht' hascii hascii' via tenant create,
    fun tenant q => ?_, fun tree c => rfl⟩
  exact .ofExcept_bind (agree_connect ht ht' hascii hascii') fun conn conn' h =>
    h.alike_client.checkPermission tenant q

end Tokens

/-- Settings for a server on this machine, with a token. -/
def tokenSettings (token : String) : ConnectionSettings :=
  ConnectionSettings.withToken { endpoint := some "localhost:3476" } token

/-- **Two tokens.** The headers of the settings are different, a connection can be established, and
the runs of a write are alike. -/
theorem two_tokens_alike :
    ("alpha" ≠ "" ∧ "beta" ≠ "" ∧ isAscii "alpha" = true ∧ isAscii "beta" = true) ∧
    (tokenSettings "alpha").headers ≠ (tokenSettings "beta").headers ∧
    (connect (fun _ => true) (tokenSettings "alpha")).isOk = true ∧
    ∀ answers, ((Procedure.writeSchema (.text "entity user \x7b\x7d")).runWith (fun _ => true)
        (tokenSettings "alpha") .client (.text "acme") true answers).Alike
      Request.SameButAuthorization
      ((Procedure.writeSchema (.text "entity user \x7b\x7d")).runWith (fun _ => true)
        (tokenSettings "beta") .client (.text "acme") true answers) := by
  have htokens : "alpha" ≠ "" ∧ "beta" ≠ "" ∧ isAscii "alpha" = true ∧ isAscii "beta" = true := by
    decide
  obtain ⟨ht, ht', hascii, hascii'⟩ := htokens
  obtain ⟨hprocedures, -, -⟩ := @token_only_authorizes (fun _ => true)
    { endpoint := some "localhost:3476" } "alpha" "beta" ht ht' hascii hascii'
  refine ⟨⟨ht, ht', hascii, hascii'⟩, by decide, by rfl, ?_⟩
  exact hprocedures (.writeSchema (.text "entity user \x7b\x7d")) .client (.text "acme") true

end Http

end Rebac
