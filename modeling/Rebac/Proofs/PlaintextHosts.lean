import Mathlib
import Rebac.Proofs.TenantPaths

set_option autoImplicit false

/-!
# Hosts that are contacted in plain text

Whether a connection is encrypted follows from the first letters of the endpoint, and the host of a
request is what reading the address makes of it: the part behind user information and in front of
the port, in lower case and in ASCII. A host is read as the name of this machine exactly if it is
this name already, in some case (`Address.isLocal_of_readHost`), since neither an escape nor a name
outside ASCII is read as one of plain letters, and numeric hosts have dots or colons. So without the
flag for plain text a request is in plain text exactly if the flag is not set and the endpoint
begins with the name of this machine, and it goes to this machine exactly if the endpoint names it
as its host (`Http.plaintext_iff`). A token is sent in plain text to another host whose name begins
in the same way (`Http.longerName_in_plaintext`).
-/

namespace Rebac

open ConnectionSettings (localName)

/-! ## The name of this machine -/

/-- A host is this machine by its name, in whatever case. -/
def IsLocal (host : List Char) : Prop := host.map Char.toLower = localName

instance (host : List Char) : Decidable (IsLocal host) :=
  inferInstanceAs (Decidable (host.map Char.toLower = localName))

namespace IsLocal

variable {host : List Char} {c : Char}

/-- The name of this machine has no other characters than its letters. -/
theorem not_mem (h : IsLocal host) (hc : c.toLower ∉ localName) : c ∉ host := by
  intro hmem
  refine hc ?_
  rw [← h]
  exact List.mem_map_of_mem hmem

theorem head? (h : IsLocal host) : host.head?.map Char.toLower = some 'l' := by
  rw [← List.head?_map, h]
  rfl

end IsLocal

namespace Text

theorem toLower_of_not_ascii {c : Char} (h : 0x80 ≤ c.toNat) : c.toLower = c := by
  refine Char.toLower_eq_of_not_isUpper fun hupper => ?_
  have hle : c ≤ 'Z' := (of_decide_eq_true hupper).2
  have hascii := Text.Percent.ascii_of_le hle (by decide)
  omega

/-- Characters outside ASCII are no letters of the name of this machine. -/
theorem not_mem_localName_of_not_ascii {c : Char} (h : 0x80 ≤ c.toNat) :
    c.toLower ∉ localName := by
  rw [toLower_of_not_ascii h]
  have hascii : localName.all (fun d => d.toNat < 0x80) = true := by decide
  intro hmem
  have hlt := of_decide_eq_true (List.all_eq_true.1 hascii c hmem)
  omega

theorem not_mem_localName_ofNat {n : Nat} (h : 0x80 ≤ n) : (Char.ofNat n).toLower ∉ localName := by
  by_cases hvalid : n.isValidChar
  · refine not_mem_localName_of_not_ascii ?_
    rwa [Char.toNat_ofNat, if_pos hvalid]
  · rw [Char.ofNat, dif_neg hvalid]
    decide

/-- The lower case of a letter outside ASCII is outside ASCII as well, apart from that of the sign
for kelvins. -/
theorem caseRuns_outside : caseRuns.all (fun r => r.last < 0x80 ||
    (r.first == r.last && r.first + r.distance == 'k'.toNat) ||
      decide ((0x80 : Int) ≤ r.first + r.distance)) = true := by
  decide +kernel

/-- The lower case of a character outside ASCII has a character that is no letter of the name of
this machine. -/
theorem exists_mem_lower {c : Char} (h : 0x80 ≤ c.toNat) :
    ∃ d ∈ lower c, d.toLower ∉ localName := by
  rw [lower]
  by_cases hdotted : c.toNat = 0x130
  · rw [if_pos hdotted]
    exact ⟨'i', by simp, by decide⟩
  rw [if_neg hdotted]
  cases hr : caseRuns.find? (fun r => r.toRun.holds c.toNat) with
  | none => exact ⟨c, by simp, not_mem_localName_of_not_ascii h⟩
  | some r =>
      have hrun := List.all_eq_true.1 caseRuns_outside r (List.mem_of_find?_eq_some hr)
      have hholds := List.find?_some hr
      simp only [Run.holds, Bool.and_eq_true, decide_eq_true_eq] at hholds
      obtain ⟨⟨hfirst, hlast⟩, -⟩ := hholds
      simp only [Bool.or_eq_true, Bool.and_eq_true, decide_eq_true_eq, beq_iff_eq] at hrun
      refine ⟨_, List.mem_singleton_self _, ?_⟩
      rcases hrun with (hascii | ⟨hone, hkelvin⟩) | hfar
      · omega
      · have hsign : (c.toNat : Int) + r.distance = 'k'.toNat := by omega
        rw [hsign]
        decide
      · exact not_mem_localName_ofNat (by omega)

theorem exists_mem_lowerFrom {c : Char} {s : List Char} (hc : c ∈ s) (h : 0x80 ≤ c.toNat)
    (within : Bool) : ∃ d ∈ lowerFrom within s, d.toLower ∉ localName := by
  induction s generalizing within with
  | nil => cases hc
  | cons x s ih =>
      rw [lowerFrom]
      rcases List.mem_cons.1 hc with rfl | hc
      · obtain ⟨d, hd, hother⟩ : ∃ d ∈ (if c = capitalSigma then
            [if within && !startsCased s then finalSigma else smallSigma] else lower c),
              d.toLower ∉ localName := by
          split
          · refine ⟨_, List.mem_singleton_self _, ?_⟩
            split
            · decide
            · decide
          · exact exists_mem_lower h
        exact ⟨d, List.mem_append_left _ hd, hother⟩
      · obtain ⟨d, hd, hother⟩ := ih hc _
        exact ⟨d, List.mem_append_right _ hd, hother⟩

/-- **A text with a character outside ASCII is not the name of this machine in lower case.** -/
theorem not_isLocal_toLower {c : Char} {s : List Char} (hc : c ∈ s) (h : 0x80 ≤ c.toNat) :
    ¬ IsLocal (toLower s) := by
  obtain ⟨d, hd, hother⟩ := exists_mem_lowerFrom hc h false
  exact fun hlocal => hlocal.not_mem hother hd

end Text

/-! ## Hosts in normal form -/

namespace Host

variable {host name label : List Char}

/-- A label in ASCII is written as it is, and any other one begins with a mark. -/
theorem encodeLabel?_eq_some (h : encodeLabel? label = some name) :
    name = label ∨ asciiMark <+: name := by
  unfold encodeLabel? at h
  split at h
  · cases h
  split at h
  · split at h
    · cases h
      exact Or.inl rfl
    · cases h
  · dsimp only at h
    split at h
    · cases h
      exact Or.inr (List.prefix_append _ _)
    · cases h

theorem exists_of_mapM_eq_singleton {α β : Type} {f : α → Option β} {as : List α} {b : β}
    (h : as.mapM f = some [b]) : ∃ a, as = [a] ∧ f a = some b := by
  cases as with
  | nil => cases h
  | cons a rest =>
      rw [List.mapM_cons] at h
      obtain ⟨first, hfirst, h⟩ := Option.bind_eq_some_iff.1 h
      obtain ⟨others, hothers, h⟩ := Option.bind_eq_some_iff.1 h
      cases h
      cases rest with
      | nil => exact ⟨a, rfl, hfirst⟩
      | cons x xs =>
          rw [List.mapM_cons] at hothers
          obtain ⟨_, -, hothers⟩ := Option.bind_eq_some_iff.1 hothers
          obtain ⟨_, -, hothers⟩ := Option.bind_eq_some_iff.1 hothers
          cases hothers

/-- A name without dots is one label. -/
theorem exists_label_of_encodeName? (h : encodeName? host = some name) (hdot : '.' ∉ name) :
    encodeLabel? (Text.toLower host) = some name := by
  obtain ⟨encoded, hencoded, h⟩ := Option.bind_eq_some_iff.1 h
  dsimp only at h
  split at h
  · cases h
  next hsome =>
  cases h
  rw [List.mem_append, not_or] at hdot
  obtain ⟨hdot, hend⟩ := hdot
  split at hend
  · exact absurd (List.mem_singleton_self _) hend
  next hrooted =>
  rw [if_neg hrooted] at hencoded ⊢
  match encoded with
  | [] => simp at hsome
  | first :: second :: rest =>
      rw [List.intercalate_cons_cons] at hdot
      exact absurd (by simp) hdot
  | [one] =>
      obtain ⟨label, hpieces, hlabel⟩ := exists_of_mapM_eq_singleton hencoded
      obtain ⟨start, hstart, hnone⟩ := Text.exists_append_of_pieces
        (hpieces.trans (List.nil_append _).symm)
      rw [hstart, hnone rfl, List.nil_append, List.intercalate_singleton, List.append_nil]
      exact hlabel

/-- A name outside ASCII is never written as the name of this machine. -/
theorem not_isLocal_of_encodeName? {c : Char} (h : encodeName? host = some name) (hc : c ∈ host)
    (hnot : 0x80 ≤ c.toNat) : ¬ IsLocal name := by
  intro hlocal
  have hlabel := exists_label_of_encodeName? h (hlocal.not_mem (by decide))
  rcases encodeLabel?_eq_some hlabel with rfl | ⟨rest, rfl⟩
  · exact Text.not_isLocal_toLower hc hnot hlocal
  · exact absurd hlocal.head? (by simp [asciiMark])

/-! Numeric hosts have dots or colons. -/

theorem mem_of_length_pieces {c : Char} (h : 2 ≤ (Text.pieces (· == c) host).length) :
    c ∈ host := by
  rw [Text.length_pieces] at h
  obtain ⟨d, hd, heq⟩ := List.countP_pos_iff.1 (Nat.le_of_succ_le_succ h)
  rwa [beq_iff_eq.1 heq] at hd

theorem mem_of_isIpv4Shaped (h : isIpv4Shaped host = true) : '.' ∈ host := by
  refine mem_of_length_pieces ?_
  rw [beq_iff_eq.1 (Bool.and_eq_true_iff.1 h).1]
  decide

theorem mem_of_mem_withoutZone {c : Char} {s : List Char} (h : withoutZone host = some s)
    (hc : c ∈ s) : c ∈ host := by
  unfold withoutZone at h
  split at h
  · next hpieces =>
    cases h
    obtain ⟨start, rfl, -⟩ := Text.exists_append_of_pieces
      (hpieces.trans (List.nil_append _).symm)
    exact List.mem_append_right _ hc
  · next before zone hpieces =>
    have hone : host.countP (· == '%') = 1 := by
      have hlength := Text.length_pieces (· == '%') host
      rw [hpieces] at hlength
      exact (Nat.succ.inj hlength).symm
    rw [Text.pieces_of_countP_eq_one hone] at hpieces
    split at h
    · cases h
    · cases h
      rw [← (List.cons.inj hpieces).1] at hc
      exact List.takeWhile_subset _ hc
  · cases h

theorem mem_of_isIpv6 (h : isIpv6 host = true) : ':' ∈ host := by
  unfold isIpv6 at h
  split at h
  · cases h
  next s hzone =>
  refine mem_of_mem_withoutZone hzone (mem_of_length_pieces ?_)
  dsimp only at h
  split at h
  · cases h
  split at h
  · obtain ⟨⟨⟨hlength, -⟩, -⟩, -⟩ : ((_ ∧ _) ∧ _) ∧ _ := by
      simpa only [Bool.and_eq_true] using h
    exact Nat.le_of_succ_le (of_decide_eq_true hlength)
  · obtain ⟨⟨hlength, -⟩, -⟩ : (_ ∧ _) ∧ _ := by
      simpa only [Bool.and_eq_true] using h
    exact Nat.le_of_succ_le (of_decide_eq_true hlength)

end Host

namespace Address

variable {host read : List Char}

theorem toLower_toLower (s : List Char) :
    (s.map Char.toLower).map Char.toLower = s.map Char.toLower := by
  rw [List.map_map]
  exact List.map_congr_left fun c _ => Char.toLower_toLower_eq_toLower c

/-- A host that is this machine once it is in lower case and escaped has nothing to escape. -/
theorem eq_of_isLocal_escape (h : IsLocal (escape hostSafe (host.map Char.toLower))) :
    IsLocal host ∧ escape hostSafe (host.map Char.toLower) = localName := by
  have hself := escape_eq_self_of_not_mem (h.not_mem (by decide))
  rw [hself, IsLocal, toLower_toLower] at h
  exact ⟨h, hself.trans h⟩

/-- **Reading a host keeps whether it is this machine**, and brings its name into lower case. -/
theorem isLocal_of_readHost (h : readHost host = .ok read) :
    (IsLocal read ↔ IsLocal host) ∧ (IsLocal read → read = localName) := by
  unfold readHost at h
  split at h
  · next hempty =>
    cases h
    rw [List.isEmpty_iff.1 hempty]
    exact ⟨Iff.rfl, fun hlocal => absurd hlocal (by decide)⟩
  split at h
  · next hshaped =>
    -- A numeric host has dots, and so has what is read of it.
    split at h
    · cases h
      have hnot : ¬ IsLocal host := fun hlocal =>
        hlocal.not_mem (by decide) (Host.mem_of_isIpv4Shaped hshaped)
      exact ⟨Iff.rfl, fun hlocal => absurd hlocal hnot⟩
    · cases h
  split at h
  · next hbrackets =>
    dsimp only at h
    split at h
    · next hipv6 =>
      cases h
      have hnot : ¬ IsLocal (host.drop 1).dropLast := fun hlocal =>
        hlocal.not_mem (by decide) (Host.mem_of_isIpv6 hipv6)
      have hhost : ¬ IsLocal host := fun hlocal => by
        have hhead := hlocal.head?
        rw [beq_iff_eq.1 (Bool.and_eq_true_iff.1 hbrackets).1] at hhead
        exact absurd hhead (by decide)
      exact ⟨iff_of_false hnot hhost, fun hlocal => absurd hlocal hnot⟩
    · cases h
  split at h
  · cases h
    refine ⟨⟨fun hlocal => (eq_of_isLocal_escape hlocal).1, fun hlocal => ?_⟩,
      fun hlocal => (eq_of_isLocal_escape hlocal).2⟩
    rw [hlocal]
    decide
  · next hascii =>
    obtain ⟨c, hc, hnot⟩ : ∃ c ∈ host, 0x80 ≤ c.toNat := by
      simpa using hascii
    split at h
    · next name hname =>
      cases h
      have hread := Host.not_isLocal_of_encodeName? hname hc hnot
      have hhost : ¬ IsLocal host := fun hlocal =>
        hlocal.not_mem (Text.not_mem_localName_of_not_ascii hnot) hc
      exact ⟨iff_of_false hread hhost, fun hlocal => absurd hlocal hread⟩
    · cases h

/-! ## Servers -/

/-- The host that an endpoint names: behind user information and in front of a port. -/
def namedHost (endpoint : List Char) : List Char :=
  let server := (cut '?' (cut '#' endpoint).1).1
  (splitHost (splitUserinfo (server.takeWhile (· != '/'))).2).1

/-- Two addresses are reached in the same way: by the same scheme, and at this machine or not. -/
def SameReach (a b : Address) : Prop := b.scheme = a.scheme ∧ (IsLocal b.host ↔ IsLocal a.host)

section Reach

variable {a b base : Address} {scheme path : String} {endpoint target : List Char}

/-- An address that is read has the host that its endpoint names. -/
theorem host_of_read (h : Address.read scheme endpoint = .ok a) :
    a.scheme = scheme ∧ readHost (namedHost endpoint) = .ok a.host := by
  unfold Address.read at h
  dsimp only at h
  split at h
  · cases h
  split at h
  · cases h
  obtain ⟨host, hhost, h⟩ := exists_of_bind_eq_ok h
  obtain ⟨port, -, h⟩ := exists_of_bind_eq_ok h
  cases h
  exact ⟨rfl, hhost⟩

theorem isLocal_shownHost_iff (a : Address) : IsLocal a.shownHost ↔ IsLocal a.host := by
  rw [shownHost]
  split
  · next hcolon =>
    have hnot : ¬ IsLocal a.host := fun hlocal =>
      hlocal.not_mem (by decide) (List.contains_iff_mem.1 hcolon)
    have hshown : ¬ IsLocal ('[' :: a.host ++ [']']) := fun hlocal =>
      hlocal.not_mem (by decide) List.mem_cons_self
    exact iff_of_false hshown hnot
  · exact Iff.rfl

/-- An address that is taken to another path is reached as before. Its host is read once more. -/
theorem sameReach_of_withTarget (h : a.withTarget target = .ok b) :
    a.SameReach b ∧ (IsLocal b.host → b.host = localName) := by
  obtain ⟨host, hhost, rfl⟩ := exists_host_of_withTarget h
  obtain ⟨hlocal, hname⟩ := isLocal_of_readHost hhost
  exact ⟨⟨rfl, hlocal.trans a.isLocal_shownHost_iff⟩, hname⟩

theorem sameReach_of_asBase (h : a.asBase = .ok base) : a.SameReach base := by
  unfold asBase at h
  split at h
  · cases h
    exact ⟨rfl, Iff.rfl⟩
  · exact (sameReach_of_withTarget h).1

/-- A resource is at this machine exactly if its server is, and then under its proper name. -/
theorem host_of_resolve (h : base.resolve path = .ok a) :
    a.scheme = base.scheme ∧ (a.host = localName ↔ IsLocal base.host) := by
  unfold resolve at h
  split at h
  · cases h
  obtain ⟨⟨hscheme, hlocal⟩, hname⟩ := sameReach_of_withTarget h
  refine ⟨hscheme, fun hhost => hlocal.1 ?_, fun hbase => hname (hlocal.2 hbase)⟩
  rw [hhost]
  decide

end Reach

end Address

/-! ## Schemes -/

namespace ConnectionSettings

variable {o : ConnectionSettings} {e : String}

theorem scheme_eq (o : ConnectionSettings) : o.scheme = "http" ∨ o.scheme = "https" := by
  rw [scheme]
  split
  · exact Or.inl rfl
  · exact Or.inr rfl

theorem scheme_eq_http_iff : o.scheme = "http" ↔ o.useInsecure = true := by
  rw [scheme]
  split
  · next h => exact iff_of_true rfl h
  · next h => exact iff_of_false (by decide) h

/-- A connection is in plain text by its flag, or if it is not set by the beginning of its
endpoint. -/
theorem useInsecure_eq_true_iff (he : o.endpoint = some e) : o.useInsecure = true ↔
    o.insecure = some true ∨ o.insecure = none ∧ localName <+: e.toList := by
  rw [useInsecure, he]
  cases hflag : o.insecure with
  | none => simp
  | some b => simp

/-- Without the flag, a connection is in plain text only by the beginning of its endpoint. -/
theorem useInsecure_iff (h : o.insecure ≠ some true) (he : o.endpoint = some e) :
    o.useInsecure = true ↔ o.insecure = none ∧ localName <+: e.toList :=
  (useInsecure_eq_true_iff he).trans (or_iff_right h)

end ConnectionSettings

/-! ## Requests in plain text -/

namespace Http

open Address

/-- The server of a connection has the scheme of its settings. -/
theorem scheme_of_connect {files : String → Bool} {o : ConnectionSettings} {conn : Connection}
    (h : connect files o = .ok conn) : conn.base.scheme = o.scheme := by
  obtain ⟨e, address, -, hread, hbase, -⟩ := exists_address_of_connect h
  exact (sameReach_of_asBase hbase).1.trans (host_of_read hread).1

/-- **Which requests are in plain text, and where they go.** Without the flag for plain text, a
request goes over an encrypted connection unless the flag is not set at all and the endpoint begins
with the name of this machine. It goes to this machine exactly if the endpoint names it as its host,
in whatever case. -/
theorem plaintext_iff {files : String → Bool} {o : ConnectionSettings} {conn : Connection}
    {α : Type} {call : Call α} {r : Request} (hconnect : connect files o = .ok conn)
    (hflag : o.insecure ≠ some true) (hr : request conn call = .ok r) :
    ∃ e p a, o.endpoint = some e ∧ path call = .ok p ∧ conn.base.resolve p = .ok a ∧
      r.url = a.text ∧ (a.scheme = "http" ∨ a.scheme = "https") ∧
      (a.scheme = "http" ↔ o.insecure = none ∧ localName <+: e.toList) ∧
      (a.host = localName ↔ IsLocal (namedHost e.toList)) := by
  obtain ⟨e, address, he, hread, hbase, -⟩ := exists_address_of_connect hconnect
  obtain ⟨p, a, b, hp, ha, -, rfl⟩ := request_eq_ok_iff.1 hr
  have hendpoint : o.endpoint = some e := (Option.filter_eq_some_iff.1 he).1
  obtain ⟨-, hhost⟩ := host_of_read hread
  obtain ⟨-, hsame⟩ := sameReach_of_asBase hbase
  obtain ⟨hresource, hlocal⟩ := host_of_resolve ha
  have hall : a.scheme = o.scheme := hresource.trans (scheme_of_connect hconnect)
  refine ⟨e, p, a, hendpoint, hp, ha, rfl, ?_, ?_, ?_⟩
  · rw [hall]
    exact o.scheme_eq
  · rw [hall, ConnectionSettings.scheme_eq_http_iff]
    exact ConnectionSettings.useInsecure_iff hflag hendpoint
  · exact hlocal.trans (hsame.trans (isLocal_of_readHost hhost).1)

/-- A request to this machine is in plain text. -/
theorem localServer_in_plaintext :
    ∃ (r : Request) (a : Address), (connect (fun _ => true) localSettings = .ok localServer ∧
        localSettings.insecure ≠ some true ∧
        request localServer (.deleteTenant (.text "acme")) = .ok r) ∧
      r.url = a.text ∧ a.scheme = "http" ∧ a.host = localName := by
  obtain ⟨r, hr⟩ : ∃ r, request localServer (.deleteTenant (.text "acme")) = .ok r := ⟨_, by rfl⟩
  have hflag : localSettings.insecure ≠ some true := by decide
  obtain ⟨e, p, a, he, -, -, hurl, -, hscheme, hhost⟩ :=
    plaintext_iff connect_localSettings hflag hr
  cases he
  exact ⟨r, a, ⟨connect_localSettings, hflag, hr⟩, hurl, hscheme.2 ⟨rfl, by decide⟩,
    hhost.2 (by decide)⟩

/-- The settings of a server with a token. Its name begins with that of this machine. -/
def longerNameSettings : ConnectionSettings where
  endpoint := some "localhost.example.com:3476"
  authToken := some "s3cret"

/-- The connection to it. -/
def longerNameServer : Connection where
  endpoint := "localhost.example.com:3476"
  base :=
    { scheme := "http", host := "localhost.example.com".toList, port := some 3476, path := [] }
  headers := sentHeaders longerNameSettings.headers
  timeout := none

/-- The address of a tenant on it. -/
def longerNameTenant : Address := { longerNameServer.base with path := "/v1/tenants/acme".toList }

/-- **A token is sent in plain text to a host whose name begins with that of this machine**, with no
flag set. -/
theorem longerName_in_plaintext :
    longerNameSettings.insecure = none ∧
      connect (fun _ => true) longerNameSettings = .ok longerNameServer ∧
      longerNameServer.base.resolve "/v1/tenants/acme" = .ok longerNameTenant ∧
      longerNameTenant.scheme = "http" ∧ longerNameTenant.host ≠ localName ∧
      ∃ r, request longerNameServer (.deleteTenant (.text "acme")) = .ok r ∧
        r.url = longerNameTenant.text ∧
        r.url = "http://localhost.example.com:3476/v1/tenants/acme" ∧
        r.headers = [("authorization", "Bearer s3cret")] := by
  have hheaders : longerNameServer.headers = [("authorization", "Bearer s3cret")] := by
    decide +kernel
  exact ⟨rfl, by rfl, by rfl, rfl, by decide, _, by rfl, by rfl, by rfl, hheaders⟩

end Http

end Rebac
