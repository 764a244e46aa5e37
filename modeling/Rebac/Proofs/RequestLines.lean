import Rebac.Proofs.TenantPaths

set_option autoImplicit false

/-!
# The lines of requests

What a server tells requests apart by is the line of a request: its method and its path. A line can
be read back as the operation and the tenant that it asks for (`Http.readLine_of_path`). A tenant is
one segment, whatever its name is, so it can imitate neither the fixed path of another operation nor
what follows the tenant there. Hence requests with the same line ask for the same operation on the
same tenant (`Http.request_lines_distinct`).
-/

namespace Rebac

namespace Text.Percent

/-- A text in the strict form of segments: unreserved characters, and percent signs that are
followed by two digits in base 16. -/
inductive IsSegment : List Char → Prop
  | nil : IsSegment []
  | unreserved {c : Char} {rest : List Char} (hc : isUnreserved c = true) (h : IsSegment rest) :
      IsSegment (c :: rest)
  | escaped {a b : Char} {rest : List Char} (ha : (hexValue? a).isSome = true)
      (hb : (hexValue? b).isSome = true) (h : IsSegment rest) : IsSegment ('%' :: a :: b :: rest)

theorem isSegment_encodeByte (b : UInt8) {rest : List Char} (h : IsSegment rest) :
    IsSegment (encodeByte b ++ rest) := by
  have hsize : b.toNat < 256 := b.toNat_lt
  rw [encodeByte]
  split
  · next hself => exact .unreserved (Bool.and_eq_true_iff.1 hself).2 h
  · refine .escaped ?_ ?_ h
    · rw [hexValue?_hexDigit (by omega)]
      rfl
    · rw [hexValue?_hexDigit (by omega)]
      rfl

/-- Every text is encoded as a segment. -/
theorem isSegment_encode (s : List Char) : IsSegment (encode s) := by
  rw [encode]
  induction Utf8.encode s with
  | nil => exact .nil
  | cons b bytes ih =>
      rw [List.flatMap_cons]
      exact isSegment_encodeByte b ih

end Text.Percent

namespace Http

variable {α β : Type}

/-- The tenant that the path of a call carries, if it carries one. -/
def tenantInPath? (call : Call α) : Option Value := (resource? call).map (·.1)

/-! ## Reading lines -/

/-- The operation on a tenant that a method and the part behind the tenant ask for. -/
def tenantOperation? : Method → Option (List Char) → Option String
  | .delete, none => some "delete_tenant"
  | .post, some rest =>
      if rest = "schemas/write".toList then some "write_schema"
      else if rest = "data/write".toList then some "write_relationships"
      else if rest = "data/delete".toList then some "delete_relationships"
      else if rest = "permissions/check".toList then some "check_permission"
      else none
  | _, _ => none

/-- The operation that a line asks for, and the tenant if the path carries it. The first segment
behind `/v1/tenants/` is either the tenant or the name of an operation on no tenant in
particular. -/
def readLine (m : Method) (path : List Char) : Option (String × Option Value) :=
  let (segment, rest) := Address.cut '/' (path.drop "/v1/tenants/".length)
  match tenantOperation? m rest with
  | some operation =>
      (Text.Percent.decode segment).map fun name => (operation, some (.text (String.ofList name)))
  | none =>
      if segment = "list".toList then some ("list_tenants", none)
      else if segment = "create".toList then some ("create_tenant", none)
      else none

/-- A call that carries a tenant and has a path names the tenant by a text. -/
theorem exists_name_of_path {call : Call α} {tenant : Value} {suffix p : String}
    (hcall : resource? call = some (tenant, suffix)) (hp : path call = .ok p) :
    ∃ name, tenant = .text name ∧
      p = "/v1/tenants/" ++ String.ofList (Text.Percent.encode name.toList) ++ suffix := by
  rw [path_of_resource hcall] at hp
  cases tenant with
  | text name =>
      cases hp
      exact ⟨name, rfl, rfl⟩
  | _ => cases hp

/-- The path of a tenant is read as an operation on it. -/
theorem readLine_of_resource {call : Call α} {tenant : Value} {suffix p operation : String}
    {rest : Option (List Char)} (hcall : resource? call = some (tenant, suffix))
    (hp : path call = .ok p)
    (hrest : ∀ s, '/' ∉ s → Address.cut '/' (s ++ suffix.toList) = (s, rest))
    (hoperation : tenantOperation? (method call) rest = some operation) :
    readLine (method call) p.toList = some (operation, some tenant) := by
  obtain ⟨name, rfl, rfl⟩ := exists_name_of_path hcall hp
  have hslash : '/' ∉ Text.Percent.encode name.toList :=
    Text.Percent.not_mem_encode (by decide) (by decide) name.toList
  have hdrop : ("/v1/tenants/" ++ String.ofList (Text.Percent.encode name.toList) ++
      suffix).toList.drop "/v1/tenants/".length =
        Text.Percent.encode name.toList ++ suffix.toList := by
    simp only [String.toList_append, String.toList_ofList, List.append_assoc]
    exact List.drop_left' rfl
  rw [readLine, hdrop, hrest _ hslash]
  dsimp only
  rw [hoperation]
  dsimp only
  rw [Text.Percent.decode_encode, Option.map_some, String.ofList_toList]

/-- **A line is read back.** The line of a call says which operation it is, and on which tenant if
the path carries one. -/
theorem readLine_of_path {call : Call α} {p : String} (hp : path call = .ok p) :
    readLine (method call) p.toList = some (call.text.name, tenantInPath? call) := by
  have hwhole : ∀ s : List Char, '/' ∉ s →
      Address.cut '/' (s ++ "".toList) = (s, none) := by
    intro s hs
    rw [String.toList_empty, List.append_nil]
    exact Address.cut_of_not_mem hs
  cases call with
  | listTenants size token =>
      cases hp
      rfl
  | createTenant tenant name =>
      cases hp
      rfl
  | deleteTenant tenant => exact readLine_of_resource rfl hp hwhole rfl
  | writeSchema tenant schema =>
      exact readLine_of_resource rfl hp (fun s hs => Address.cut_append hs _) rfl
  | writeRelationships tenant tuples version =>
      exact readLine_of_resource rfl hp (fun s hs => Address.cut_append hs _) rfl
  | deleteRelationships tenant filter =>
      exact readLine_of_resource rfl hp (fun s hs => Address.cut_append hs _) rfl
  | checkPermission tenant check =>
      exact readLine_of_resource rfl hp (fun s hs => Address.cut_append hs _) rfl

/-! ## Lines of calls -/

/-- **Requests do not collide.** Calls with the same method and the same path are the same
operation, on the same tenant if the path carries one. A tenant of any name has a path, in which it
is one segment that denotes the name. -/
theorem request_lines_distinct :
    (∀ {α β : Type} (c : Call α) (d : Call β) (p : String), method c = method d →
      path c = .ok p → path d = .ok p →
        c.text.name = d.text.name ∧ tenantInPath? c = tenantInPath? d) ∧
    (∀ {α : Type} (c : Call α) (name suffix : String),
      resource? c = some (.text name, suffix) → ∃ segment,
        path c = .ok ("/v1/tenants/" ++ String.ofList segment ++ suffix) ∧
          Text.Percent.IsSegment segment ∧ Text.Percent.decode segment = some name.toList) := by
  constructor
  · intro α β c d p hmethod hc hd
    have hread := readLine_of_path hc
    rw [hmethod, readLine_of_path hd] at hread
    obtain ⟨hname, htenant⟩ := Prod.mk.inj (Option.some.inj hread)
    exact ⟨hname.symm, htenant.symm⟩
  · intro α c name suffix hcall
    exact ⟨_, path_of_text hcall, Text.Percent.isSegment_encode _, Text.Percent.decode_encode _⟩

/-- A tenant that is named like the path of an operation has a path of its own. -/
theorem imitating_tenant_line :
    (∃ p, path (.writeSchema (.text "acme/data/write") .none) = .ok p ∧
      path (.writeSchema (.text "acme/data/write") (.text "entity user \x7b\x7d")) = .ok p ∧
      tenantInPath? (.writeSchema (.text "acme/data/write") .none) =
        tenantInPath? (.writeSchema (.text "acme/data/write") (.text "entity user \x7b\x7d"))) ∧
    (∃ segment, path (.writeSchema (.text "acme/data/write") .none) =
        .ok ("/v1/tenants/" ++ String.ofList segment ++ "/schemas/write") ∧
      Text.Percent.decode segment = some "acme/data/write".toList) := by
  obtain ⟨segment, hpath, -, hdecode⟩ :=
    request_lines_distinct.2 (.writeSchema (.text "acme/data/write") .none) _ _ rfl
  exact ⟨⟨_, hpath, hpath, (request_lines_distinct.1 _ _ _ rfl hpath hpath).2⟩,
    segment, hpath, hdecode⟩

end Http

end Rebac
