import Rebac.Proofs.HttpRequests
import Rebac.Proofs.NormalPaths

set_option autoImplicit false

/-!
# Where requests for a tenant go

A call about a tenant names the tenant by one segment of its path. The path is put behind that of
the server, and dot segments are removed from the whole. So the request reaches the tenant exactly
if the name of the tenant is neither a dot nor two dots and the address of the server has no query
(`Http.request_reaches_tenant_iff`). The deletion of a tenant that is named by two dots is sent to
the root of the interface (`Http.deletion_of_dots_misses`).
-/

namespace Rebac

namespace Text.Percent

/-- The segment of a text is plain, unless the text is a dot segment. -/
theorem isPlain_encode {s : List Char} (h : Address.IsNoDots s) : Address.IsPlain (encode s) := by
  have hself : ∀ t : List Char, decode t = some t → encode s = t → s = t := by
    rintro t ht rfl
    rw [decode_encode] at ht
    exact Option.some.inj ht
  refine ⟨not_mem_encode (by decide) (by decide) s, ⟨fun hdot => ?_, fun hdots => ?_⟩,
    fun c hc => ?_⟩
  · exact h.1 (hself _ (by decide) hdot)
  · exact h.2 (hself _ (by decide) hdots)
  · rcases isUnreserved_or_percent_of_mem_encode hc with hunreserved | rfl
    · exact Address.pathSafe_of_isUnreserved hunreserved
    · decide

end Text.Percent

namespace Http

variable {α : Type} {call : Call α} {tenant : Value} {name suffix : String}

/-! ## Calls about a tenant -/

/-- The tenant that a call is about, and what follows it in the path. -/
def resource? {α : Type} : Call α → Option (Value × String)
  | .listTenants _ _ | .createTenant _ _ => none
  | .deleteTenant tenant => some (tenant, "")
  | .writeSchema tenant _ => some (tenant, "/schemas/write")
  | .writeRelationships tenant _ _ => some (tenant, "/data/write")
  | .deleteRelationships tenant _ => some (tenant, "/data/delete")
  | .checkPermission tenant _ => some (tenant, "/permissions/check")

/-- The path of a call about a tenant. -/
theorem path_of_resource (h : resource? call = some (tenant, suffix)) :
    path call = tenantPath tenant suffix := by
  cases call <;> cases h <;> rfl

/-- What follows the tenant are plain segments. -/
theorem exists_segments_of_resource (h : resource? call = some (tenant, suffix)) :
    ∃ segs, suffix.toList = Address.rooted segs ∧ ∀ s ∈ segs, Address.IsPlain s := by
  cases call with
  | listTenants size token => cases h
  | createTenant tenant name => cases h
  | deleteTenant tenant =>
      cases h
      exact ⟨[], by decide, by decide⟩
  | writeSchema tenant schema =>
      cases h
      exact ⟨["schemas".toList, "write".toList], by decide, by decide⟩
  | writeRelationships tenant tuples version =>
      cases h
      exact ⟨["data".toList, "write".toList], by decide, by decide⟩
  | deleteRelationships tenant filter =>
      cases h
      exact ⟨["data".toList, "delete".toList], by decide, by decide⟩
  | checkPermission tenant request =>
      cases h
      exact ⟨["permissions".toList, "check".toList], by decide, by decide⟩

theorem path_of_text (h : resource? call = some (.text name, suffix)) :
    path call = .ok ("/v1/tenants/" ++ String.ofList (Text.Percent.encode name.toList) ++ suffix) :=
  (path_of_resource h).trans rfl

/-! ## The paths of tenants -/

/-- A path of a server that leads to a tenant: that of the server, and behind it the tenant as one
segment, and what follows it. -/
def LeadsTo (base : Address) (name suffix : String) (path : List Char) : Prop :=
  ∃ seg, path = base.root ++ "v1/tenants/".toList ++ seg ++ suffix.toList ∧ '/' ∉ seg ∧
    Text.Percent.decode seg = some name.toList

/-- The segments that are left of the path of a tenant. -/
def reachedSegments (name : String) : List (List Char) :=
  if name = "." then ["v1".toList, "tenants".toList]
  else if name = ".." then ["v1".toList]
  else ["v1".toList, "tenants".toList, Text.Percent.encode name.toList]

theorem reachedSegments_ne_nil (name : String) : reachedSegments name ≠ [] := by
  unfold reachedSegments
  split
  · exact List.cons_ne_nil _ _
  split <;> exact List.cons_ne_nil _ _

/-- The path that the request of a call about a tenant goes to: behind a query it gets lost. -/
def reachedPath (base : Address) (name suffix : String) : List Char :=
  if base.query = none then
    base.root ++ Address.joinSegments (reachedSegments name) ++ suffix.toList
  else base.root

/-- If a dot segment is removed from a path, too little is left of it to lead to a tenant. -/
theorem leadsTo_reachedPath_iff (base : Address) (name suffix : String) :
    LeadsTo base name suffix (reachedPath base name suffix) ↔
      base.query = none ∧ name ≠ "." ∧ name ≠ ".." := by
  -- What is left behind the path of the server is compared by its length: `v1/tenants/` has eleven
  -- characters, and what dot segments leave of it has fewer.
  have hlength : ∀ path, LeadsTo base name suffix path →
      base.root.length + 11 + suffix.toList.length ≤ path.length := by
    rintro path ⟨seg, rfl, -, -⟩
    have hfixed : "v1/tenants/".toList.length = 11 := by decide
    rw [List.length_append, List.length_append, List.length_append, hfixed]
    omega
  have hmisses : ∀ (segs : List (List Char)), (Address.joinSegments segs).length < 11 →
      ¬ LeadsTo base name suffix
        (base.root ++ Address.joinSegments segs ++ suffix.toList) := by
    intro segs hshort hleads
    have hlong := hlength _ hleads
    rw [List.length_append, List.length_append] at hlong
    omega
  unfold reachedPath reachedSegments
  by_cases hquery : base.query = none
  · rw [if_pos hquery]
    by_cases hdot : name = "."
    · rw [if_pos hdot]
      exact iff_of_false (hmisses _ (by decide)) fun h => h.2.1 hdot
    rw [if_neg hdot]
    by_cases hdots : name = ".."
    · rw [if_pos hdots]
      exact iff_of_false (hmisses _ (by decide)) fun h => h.2.2 hdots
    rw [if_neg hdots]
    refine iff_of_true ⟨Text.Percent.encode name.toList, ?_,
      Text.Percent.not_mem_encode (by decide) (by decide) _, Text.Percent.decode_encode _⟩
      ⟨hquery, hdot, hdots⟩
    simp [Address.joinSegments_cons]
  · rw [if_neg hquery]
    refine iff_of_false (fun hleads => ?_) fun h => hquery h.1
    have hlong := hlength _ hleads
    omega

/-- The path of a tenant behind that of a server, in normal form. -/
theorem normal_of_tenant {before rest : List (List Char)}
    (hbefore : ∀ s ∈ before, Address.IsPlain s) (hrest : ∀ s ∈ rest, Address.IsPlain s)
    (name : String) :
    Address.escape Address.pathSafe (Address.removeDots (Address.rooted (before ++
        "v1".toList :: "tenants".toList :: Text.Percent.encode name.toList :: rest))) =
      Address.rooted (before ++ reachedSegments name ++ rest) := by
  have hparts : ∀ {segs : List (List Char)}, (∀ s ∈ segs, Address.IsPlain s) →
      ∀ s ∈ segs, '/' ∉ s ∧ Address.IsNoDots s := fun h s hs => ⟨(h s hs).noSlash, (h s hs).noDots⟩
  have hfront : ∀ front, (∀ s ∈ front, Address.IsPlain s) →
      ∀ s ∈ before ++ front, Address.IsPlain s := fun front h =>
    List.forall_mem_append.2 ⟨hbefore, h⟩
  have hall : ∀ front, (∀ s ∈ front, Address.IsPlain s) →
      ∀ s ∈ before ++ front ++ rest, Address.IsPlain s := fun front h =>
    List.forall_mem_append.2 ⟨hfront front h, hrest⟩
  unfold reachedSegments
  -- Dots are unreserved, so that a name of dots becomes a dot segment, which the encoding of any
  -- other name is not.
  by_cases hdot : name = "."
  · have hsegment : Text.Percent.encode name.toList = ['.'] := by
      rw [hdot]
      decide
    have hsplit : before ++ "v1".toList :: "tenants".toList :: ['.'] :: rest =
        (before ++ ["v1".toList, "tenants".toList]) ++ ['.'] :: rest := by simp
    rw [if_pos hdot, hsegment, hsplit,
      Address.removeDots_dot (hparts (hfront _ (by decide))) (hparts hrest),
      Address.escape_rooted_of_isPlain (hall _ (by decide))]
  rw [if_neg hdot]
  by_cases hdots : name = ".."
  · have hsegment : Text.Percent.encode name.toList = ['.', '.'] := by
      rw [hdots]
      decide
    have hsplit : before ++ "v1".toList :: "tenants".toList :: ['.', '.'] :: rest =
        (before ++ ["v1".toList]) ++ "tenants".toList :: ['.', '.'] :: rest := by simp
    rw [if_pos hdots, hsegment, hsplit,
      Address.removeDots_dots (hparts (hfront _ (by decide))) (hparts hrest) (by decide),
      Address.escape_rooted_of_isPlain (hall _ (by decide))]
  · have hplain : Address.IsPlain (Text.Percent.encode name.toList) :=
      Text.Percent.isPlain_encode ⟨fun h => hdot (String.toList_injective h),
        fun h => hdots (String.toList_injective h)⟩
    have hsplit : before ++ "v1".toList :: "tenants".toList ::
        Text.Percent.encode name.toList :: rest = before ++
          ["v1".toList, "tenants".toList, Text.Percent.encode name.toList] ++ rest := by simp
    rw [if_neg hdots, hsplit]
    refine Address.normal_rooted (hall _ ?_)
    exact List.forall_mem_cons.2
      ⟨by decide, List.forall_mem_cons.2 ⟨by decide, by simpa using hplain⟩⟩

/-- **The request of a call about a tenant goes to the path that the name gives.** -/
theorem path_eq_reachedPath {base a : Address} {segs : List (List Char)} {p : String}
    (hbase : base.IsBase segs) (hcall : resource? call = some (.text name, suffix))
    (hp : path call = .ok p) (ha : base.resolve p = .ok a) :
    a.path = reachedPath base name suffix := by
  obtain ⟨rest, hsuffix, hrest⟩ := exists_segments_of_resource hcall
  rw [path_of_text hcall] at hp
  cases hp
  have hchars : ("/v1/tenants/" ++ String.ofList (Text.Percent.encode name.toList) ++
      suffix).toList = '/' :: 'v' :: ("1/tenants/".toList ++ (Text.Percent.encode name.toList ++
        Address.rooted rest)) := by
    simp [hsuffix]
  unfold reachedPath
  by_cases hquery : base.query = none
  · -- The path is put behind that of the server, and the whole is brought into normal form.
    rw [if_pos hquery]
    obtain ⟨before, rfl⟩ := hbase.slash hquery
    have hbefore : ∀ s ∈ before, Address.IsPlain s := (List.forall_mem_append.1 hbase.plain).1
    have hquestion : '?' ∉ 'v' :: ("1/tenants/".toList ++ (Text.Percent.encode name.toList ++
        Address.rooted rest)) := by
      have hsegment := Text.Percent.not_mem_encode (c := '?') (by decide) (by decide) name.toList
      have hbehind := Address.not_mem_rooted hrest (c := '?') (by decide) (by decide)
      simp [hsegment, hbehind]
    have hwhole : base.root ++ 'v' :: ("1/tenants/".toList ++ (Text.Percent.encode name.toList ++
        Address.rooted rest)) = Address.rooted (before ++ "v1".toList :: "tenants".toList ::
          Text.Percent.encode name.toList :: rest) := by
      simp [hbase.root]
    rw [Address.path_of_resolve_of_query_eq_none hchars (by decide) ha hbase hquery hquestion,
      hwhole, normal_of_tenant hbefore hrest, hbase.root, hsuffix]
    obtain ⟨s, others, hreached⟩ := List.exists_cons_of_ne_nil (reachedSegments_ne_nil name)
    simp [hreached, Address.joinSegments_cons]
  · -- The path of the call becomes part of the query, and that of the server stays.
    rw [if_neg hquery]
    exact Address.path_of_resolve_of_query_ne_none hchars (by decide) ha hbase hquery

/-- **Which requests reach the tenant that they name.** A connection that was made sends the request
of a call about a tenant to a path that the name gives, and that path leads to the tenant exactly if
the address of the server has no query and the name is no dot segment. -/
theorem request_reaches_tenant_iff {files : String → Bool} {o : ConnectionSettings}
    {conn : Connection} {r : Request} (hconn : connect files o = .ok conn)
    (hcall : resource? call = some (.text name, suffix)) (hr : request conn call = .ok r) :
    ∃ p a, path call = .ok p ∧ conn.base.resolve p = .ok a ∧ r.url = a.text ∧
      a.path = reachedPath conn.base name suffix ∧
      (LeadsTo conn.base name suffix a.path ↔
        conn.base.query = none ∧ name ≠ "." ∧ name ≠ "..") := by
  obtain ⟨segs, hbase⟩ := exists_isBase_of_connect hconn
  obtain ⟨p, a, b, hp, ha, -, rfl⟩ := request_eq_ok_iff.1 hr
  have hpath := path_eq_reachedPath hbase hcall hp ha
  refine ⟨p, a, hp, ha, rfl, hpath, ?_⟩
  rw [hpath]
  exact leadsTo_reachedPath_iff conn.base name suffix

/-- The settings of a server on this machine. -/
def localSettings : ConnectionSettings := { endpoint := some "localhost:3476" }

/-- The connection to it. -/
def localServer : Connection where
  endpoint := "localhost:3476"
  base := { scheme := "http", host := "localhost".toList, port := some 3476, path := [] }
  headers := sentHeaders localSettings.headers
  timeout := none

theorem connect_localSettings : connect (fun _ => true) localSettings = .ok localServer := by rfl

/-- A tenant whose name holds a slash is reached. -/
theorem slashTenant_reached :
    ∃ (r : Request) (a : Address), (connect (fun _ => true) localSettings = .ok localServer ∧
        resource? (.deleteTenant (.text "a/b")) = some (.text "a/b", "") ∧
        request localServer (.deleteTenant (.text "a/b")) = .ok r) ∧
      r.url = "http://localhost:3476/v1/tenants/a%2Fb" ∧ r.url = a.text ∧
      LeadsTo localServer.base "a/b" "" a.path := by
  have hcall : resource? (.deleteTenant (.text "a/b")) = some (.text "a/b", "") := rfl
  obtain ⟨r, hr, hurl⟩ : ∃ r, request localServer (.deleteTenant (.text "a/b")) = .ok r ∧
      r.url = "http://localhost:3476/v1/tenants/a%2Fb" := ⟨_, by rfl, by rfl⟩
  obtain ⟨p, a, -, -, htext, -, hleads⟩ := request_reaches_tenant_iff connect_localSettings hcall hr
  exact ⟨r, a, ⟨connect_localSettings, hcall, hr⟩, hurl, htext,
    hleads.2 ⟨rfl, by decide, by decide⟩⟩

/-- The root of the interface of the server. -/
def interfaceRoot : Address := { localServer.base with path := "/v1".toList }

/-- **The deletion of a tenant that is named by two dots is sent to the root of the interface.** -/
theorem deletion_of_dots_misses :
    connect (fun _ => true) localSettings = .ok localServer ∧
      localServer.base.resolve "/v1/tenants/.." = .ok interfaceRoot ∧
      ¬ LeadsTo localServer.base ".." "" interfaceRoot.path ∧
      ∃ r, request localServer (.deleteTenant (.text "..")) = .ok r ∧ r.method = .delete ∧
        r.url = interfaceRoot.text ∧ r.url = "http://localhost:3476/v1" := by
  refine ⟨connect_localSettings, by rfl, ?_, _, by rfl, rfl, by rfl, by rfl⟩
  rintro ⟨seg, hpath, -, -⟩
  -- A path that leads to a tenant is longer.
  have hlength : 3 = 1 + 11 + seg.length + 0 := by
    have hlengths := congrArg List.length hpath
    rwa [List.length_append, List.length_append, List.length_append] at hlengths
  omega

end Http

end Rebac
