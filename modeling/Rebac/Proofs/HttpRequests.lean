import Rebac.Client.Http
import Rebac.Proofs.Computations
import Rebac.Proofs.Runs

set_option autoImplicit false

/-!
# Which HTTP requests can be made

The address of a resource is that of the server with a path behind it, and every part of an address
has a greatest length. A server whose address takes one path takes every other path that fits
(`exists_resolve_iff`). Hence, once the creation of a tenant could be sent, its deletion can be sent
exactly if the path of the tenant fits (`exists_deletion_iff`). The segment of a tenant is at least
as long as its name, so the path of an overlong name never fits.
-/

namespace Rebac

namespace Text.Percent

theorem one_le_length_encodeByte (b : UInt8) : 1 ≤ (encodeByte b).length := by
  simp only [encodeByte]
  split
  · exact Nat.le_refl 1
  · exact (by decide : 1 ≤ 3)

/-- A text is at most as long as its segment. -/
theorem length_le_length_encode (s : List Char) : s.length ≤ (encode s).length := by
  induction s with
  | nil => exact Nat.zero_le _
  | cons c rest ih =>
      have hfirst : 1 ≤ (encode [c]).length := by
        obtain ⟨b, bytes, hb⟩ : ∃ b bytes, String.utf8EncodeChar c = b :: bytes := by
          cases h : String.utf8EncodeChar c with
          | nil =>
              have hlen := String.length_utf8EncodeChar c
              rw [h] at hlen
              exact absurd hlen.symm (Nat.pos_iff_ne_zero.1 c.utf8Size_pos)
          | cons b bytes => exact ⟨b, bytes, rfl⟩
        have hbyte := one_le_length_encodeByte b
        simp only [encode, Utf8.encode, List.flatMap_cons, List.flatMap_nil, List.append_nil, hb,
          List.length_append]
        omega
      have happend : encode (c :: rest) = encode [c] ++ encode rest := encode_append [c] rest
      rw [happend, List.length_append, List.length_cons]
      omega

end Text.Percent

/-! ## Addresses of resources -/

namespace Address

/-- The path and the query of the resource at a path, as parts of the address of the server. -/
def parts (base : Address) (path : String) : List Char × Option (List Char) :=
  cut '?' (base.target ++ path.toList.dropWhile (· == '/'))

/-- A path fits behind the address of a server: no part gets too long. -/
def Fits (base : Address) (path : String) : Prop :=
  path.length ≤ maxLength ∧ (base.parts path).1.length ≤ maxLength ∧
    ((base.parts path).2.getD []).length ≤ maxLength

/-- A server can be addressed at all: its authority is not too long, and its host can be read. -/
def IsReadable (base : Address) : Prop :=
  base.userinfo.length + 1 + base.authority.length ≤ maxLength ∧
    ∃ host, readHost base.shownHost = .ok host

/-- A resource has an address exactly if its server can be addressed and its path fits. -/
theorem exists_resolve_iff (base : Address) (path : String) :
    (∃ a, base.resolve path = .ok a) ↔ base.IsReadable ∧ base.Fits path := by
  unfold resolve withTarget IsReadable Fits parts
  rcases cut '?' (base.target ++ path.toList.dropWhile (· == '/')) with ⟨p, q⟩
  dsimp only
  by_cases hpath : maxLength < path.length
  · simp [if_pos hpath, Nat.not_le.2 hpath, throw, throwThe, MonadExceptOf.throw]
  by_cases hauthority : maxLength < base.userinfo.length + 1 + base.authority.length
  · simp [if_neg hpath, if_pos hauthority, Nat.not_le.2 hauthority, throw, throwThe,
      MonadExceptOf.throw]
  by_cases hp : maxLength < p.length
  · simp [if_neg hpath, if_neg hauthority, if_pos hp, Nat.not_le.2 hp, throw, throwThe,
      MonadExceptOf.throw]
  by_cases hq : maxLength < (q.getD []).length
  · simp [if_neg hpath, if_neg hauthority, if_neg hp, if_pos hq, Nat.not_le.2 hq, throw, throwThe,
      MonadExceptOf.throw]
  rw [if_neg hpath, if_neg hauthority, if_neg hp, if_neg hq]
  cases hhost : readHost base.shownHost with
  | error f => simp [bind, Except.bind]
  | ok host =>
      simp [bind, Except.bind, pure, Except.pure, Nat.not_lt.1 hpath, Nat.not_lt.1 hauthority,
        Nat.not_lt.1 hp, Nat.not_lt.1 hq]

/-- A server that can be addressed refuses a path only for the length of an address. -/
theorem resolve_error_of_isReadable {base : Address} {path : String} {f : AddressFault}
    (hbase : base.IsReadable) (h : base.resolve path = .error f) :
    f = .tooLong ∨ f = .partTooLong "path" ∨ f = .partTooLong "query" := by
  obtain ⟨hauthority, host, hhost⟩ := hbase
  unfold resolve withTarget at h
  split at h
  · cases h
    exact Or.inl rfl
  · rcases cut '?' (base.target ++ path.toList.dropWhile (· == '/')) with ⟨p, q⟩
    dsimp only at h
    rw [if_neg (Nat.not_lt.2 hauthority)] at h
    split at h
    · cases h
      exact Or.inr (Or.inl rfl)
    · split at h
      · cases h
        exact Or.inr (Or.inr rfl)
      · rw [hhost] at h
        cases h

end Address

/-! ## Requests -/

namespace Http

variable {α : Type} {conn : Connection} {call : Call α}

/-- A request is made of the method, the address and the body of its call. -/
theorem request_eq_ok_iff {r : Request} : request conn call = .ok r ↔
    ∃ p a b, path call = .ok p ∧ conn.base.resolve p = .ok a ∧ body call = .ok b ∧
      r = ⟨method call, a.text, conn.headers, conn.timeout, b⟩ := by
  constructor
  · intro h
    obtain ⟨p, hp, h⟩ := exists_of_bind_eq_ok h
    obtain ⟨a, ha, h⟩ := exists_of_bind_eq_ok h
    obtain ⟨b, hb, h⟩ := exists_of_bind_eq_ok h
    cases h
    exact ⟨p, a, b, hp, mapError_eq_ok_iff.1 ha, hb, rfl⟩
  · rintro ⟨p, a, b, hp, ha, hb, rfl⟩
    rw [request, hp]
    change (conn.base.resolve p).mapError addressFailure >>= _ = _
    rw [mapError_eq_ok_iff.2 ha]
    change body call >>= _ = _
    rw [hb]
    rfl

/-- A request that cannot be made fails at its path, its address or its body. -/
theorem request_error_cases {f : Failure} (h : request conn call = .error f) :
    path call = .error f ∨
      (∃ p g, path call = .ok p ∧ conn.base.resolve p = .error g ∧ f = addressFailure g) ∨
      body call = .error f := by
  rcases error_or_ok_of_bind_eq_error h with hpath | ⟨p, hp, h⟩
  · exact Or.inl hpath
  · rcases error_or_ok_of_bind_eq_error h with haddress | ⟨a, -, h⟩
    · obtain ⟨g, hg, rfl⟩ := exists_of_mapError_eq_error haddress
      exact Or.inr (Or.inl ⟨p, g, hp, hg, rfl⟩)
    · exact Or.inr (Or.inr (eq_error_of_bind_pure h))

/-- A request can be made exactly if the server can be addressed, the path fits, and the body can be
made. -/
theorem exists_request_iff {p : String} (hp : path call = .ok p) :
    (∃ r, request conn call = .ok r) ↔
      (conn.base.IsReadable ∧ conn.base.Fits p) ∧ ∃ b, body call = .ok b := by
  rw [← Address.exists_resolve_iff]
  constructor
  · rintro ⟨r, hr⟩
    obtain ⟨q, a, b, hq, ha, hb, -⟩ := request_eq_ok_iff.1 hr
    rw [hp] at hq
    cases hq
    exact ⟨⟨a, ha⟩, b, hb⟩
  · rintro ⟨⟨a, ha⟩, b, hb⟩
    exact ⟨_, request_eq_ok_iff.2 ⟨p, a, b, hp, ha, hb, rfl⟩⟩

/-- A request that could be made is one to a server that can be addressed. -/
theorem isReadable_of_request {r : Request} (h : request conn call = .ok r) :
    conn.base.IsReadable := by
  obtain ⟨p, a, b, hp, -, -, -⟩ := request_eq_ok_iff.1 h
  exact ((exists_request_iff hp).1 ⟨r, h⟩).1.1

/-- A request has the method of its call. -/
theorem method_of_request {r : Request} (h : request conn call = .ok r) :
    r.method = method call := by
  obtain ⟨p, a, b, -, -, -, rfl⟩ := request_eq_ok_iff.1 h
  rfl

/-- The deletion of a tenant has no body. -/
theorem body_of_tenantDeletion {tenant : Value} {r : Request}
    (h : request conn (.deleteTenant tenant) = .ok r) : r.body = none := by
  obtain ⟨p, a, b, -, -, hb, rfl⟩ := request_eq_ok_iff.1 h
  cases hb
  rfl

/-- No call with an overlong path can be requested. -/
theorem request_of_overlong {p : String} (hp : path call = .ok p)
    (h : Address.maxLength < p.length) :
    request conn call = .error (addressFailure .tooLong) := by
  have hresolve : conn.base.resolve p = .error .tooLong := by
    rw [Address.resolve, if_pos h]
    rfl
  rw [request, hp]
  change (conn.base.resolve p).mapError addressFailure >>= _ = _
  rw [hresolve]
  rfl

/-! ## Requests for tenants -/

/-- The path of a tenant. -/
def deletionPath (name : String) : String :=
  "/v1/tenants/" ++ String.ofList (Text.Percent.encode name.toList)

theorem path_deleteTenant (name : String) :
    path (.deleteTenant (.text name)) = .ok (deletionPath name) := by
  simp [path, tenantPath, segment, deletionPath, pure, Except.pure, bind, Except.bind]

theorem length_le_length_path (name rest : String) :
    name.length ≤ ("/v1/tenants/" ++ String.ofList (Text.Percent.encode name.toList) ++
      rest).length := by
  have hsegment := Text.Percent.length_le_length_encode name.toList
  rw [String.length_toList] at hsegment
  simp only [String.length_append, String.length_ofList]
  omega

/-- **Once any request could be made, the deletion of a tenant can be made exactly if the path of
the tenant fits.** -/
theorem exists_deletion_iff {r : Request} (h : request conn call = .ok r) (name : String) :
    (∃ d, request conn (.deleteTenant (.text name)) = .ok d) ↔
      conn.base.Fits (deletionPath name) := by
  rw [exists_request_iff (path_deleteTenant name)]
  constructor
  · rintro ⟨⟨-, hfits⟩, -⟩
    exact hfits
  · intro hfits
    exact ⟨⟨isReadable_of_request h, hfits⟩, _, rfl⟩

theorem exists_body_createTenant (name : String) :
    ∃ b, body (.createTenant (.text name) (.text name)) = .ok b := by
  simp only [body, payload, Value.orElse, ite_self, Value.record]
  exact ⟨_, rfl⟩

/-- The creation of a tenant can be requested from every server that can be addressed at its
path. -/
theorem exists_creation_iff (conn : Connection) (name : String) :
    (∃ r, request conn (.createTenant (.text name) (.text name)) = .ok r) ↔
      conn.base.IsReadable ∧ conn.base.Fits "/v1/tenants/create" := by
  rw [exists_request_iff rfl]
  exact and_iff_left (exists_body_createTenant name)

/-! ## Answers to a creation -/

/-- A creation that is answered with a status of success returns exactly if the body can be
read. -/
theorem creation_returned_iff {tenant : Value} {r : Request}
    (hr : request conn (.createTenant tenant tenant) = .ok r) {status : Nat} {bytes : List UInt8}
    (hstatus : isSuccess status = true) (rest : List Answer) :
    (∃ v, ((client conn).ask (.createTenant tenant tenant)
        (.response status bytes :: rest)).ending = .returned v) ↔
      ∃ v, readResult bytes = .ok v := by
  have hreply : ((client conn).reply (.createTenant tenant tenant) (.response status bytes)).2 =
      (readResult bytes).bind fun _ => .ok .none := by
    simp only [client, reply, receive, hstatus, if_true]
    rfl
  rw [Client.ask_cons (c := client conn) hr, hreply]
  cases readResult bytes with
  | error f => simp [Except.bind, Ending.ofExcept]
  | ok v => simp [Except.bind, Ending.ofExcept]

end Http

end Rebac
