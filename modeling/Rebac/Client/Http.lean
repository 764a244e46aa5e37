import Rebac.Client.Call
import Rebac.Client.Settings
import Rebac.Json.Reader
import Rebac.Text.Encoding

set_option autoImplicit false

/-!
# The HTTP client

Each call is one HTTP request with a JSON body, and each answer is read as JSON. An answer with a
status from 200 to 299 is a result; any other is a rejection with the status and the code in its
body. Whatever goes wrong on the way to the server is a failed connection.
-/

namespace Rebac.Http

/-- The methods of requests. -/
inductive Method
  | post
  | delete
deriving DecidableEq

/-- The name of a method. -/
def Method.name : Method → String
  | .post => "POST"
  | .delete => "DELETE"

/-- A request as it is sent. -/
structure Request where
  method : Method
  url : String
  headers : List (String × String)
  timeout : Option Binary64
  body : Option Json

/-- What comes back: an answer with a status and a body, no connection to the server, or a failure
that has nothing to do with the connection. -/
inductive Answer
  | response (status : Nat) (body : List UInt8)
  | unreachable (message : String)
  | raised (failure : Failure)

/-- An established client: its endpoint, the address that paths are appended to, and what every
request carries. -/
structure Connection where
  endpoint : String
  base : Address
  headers : List (String × String)
  timeout : Option Binary64

/-! ## Headers -/

/-- Headers that every request has and that are not part of what a caller sets. -/
def ownHeaders : List String :=
  ["host", "accept", "accept-encoding", "connection", "user-agent", "content-length",
    "content-type"]

/-- A name in lower case. -/
def lower (s : String) : String := String.ofList (s.toList.map Char.toLower)

/-- Adds a header; the values of one name are joined by commas. -/
def addHeader (hs : List (String × String)) (h : String × String) : List (String × String) :=
  match hs with
  | [] => [h]
  | g :: rest => if g.1 = h.1 then (g.1, g.2 ++ ", " ++ h.2) :: rest else g :: addHeader rest h

/-- Whether one header stands before another. -/
def headerLe (a b : String × String) : Bool := a.1 < b.1 || (a.1 == b.1 && !(b.2 < a.2))

/-- The headers that the caller sets, with names in lower case, sorted. -/
def sentHeaders (hs : List (String × String)) : List (String × String) :=
  let merged := (hs.map (fun h => (lower h.1, h.2))).foldl addHeader []
  (merged.filter (fun h => !ownHeaders.contains h.1)).mergeSort headerLe

/-- Whether a text is ASCII. -/
def isAscii (s : String) : Bool := s.toList.all (fun c => c.toNat < 0x80)

/-! ## Connecting -/

/-- The failure for an address. -/
def addressFailure (f : AddressFault) : Failure := .address f.message

/-- The header for user information in an address. -/
def basicAuthorization (user password : List Char) : String :=
  "Basic " ++ String.ofList
    (Text.Base64.encode (Text.Utf8.encode (user ++ ':' :: password)))

/-- The headers of requests to an address: user information in it replaces any authorization. -/
def authorized (a : Address) (hs : List (String × String)) : List (String × String) :=
  match a.credentials? with
  | some (user, password) =>
      (("authorization", basicAuthorization user password) ::
        hs.filter (fun h => h.1 != "authorization")).mergeSort headerLe
  | none => hs

/-- Establishes a client. Nothing is sent, but the settings have to be usable: an endpoint with a
port, a timeout in range, files that exist, a valid address and headers in ASCII. -/
def connect (fileExists : String → Bool) (o : ConnectionSettings) : Except Failure Connection :=
  match ConnectionSettings.given? o.endpoint with
  | none => throw (.parameter .noEndpoint)
  | some endpoint =>
      if !endpoint.toList.contains ':' then throw (.parameter .noPort)
      else do
        -- The order of these checks decides which of two faults is reported.
        let timeout ← o.timeout
        if !o.files.all fileExists then throw .missingFile
        let address ← (Address.read o.scheme endpoint.toList).mapError addressFailure
        let base ← address.asBase.mapError addressFailure
        if !o.headers.all (fun h => isAscii h.1 && isAscii h.2) then throw .header
        return ⟨endpoint, base, authorized base (sentHeaders o.headers), timeout⟩

/-! ## Requests -/

/-- A tenant as a segment of a path. -/
def segment (tenant : Value) : Except Failure String :=
  match tenant with
  | .text s => pure (String.ofList (Text.Percent.encode s.toList))
  | _ => throw .noSegment

/-- The path of a resource of a tenant. -/
def tenantPath (tenant : Value) (rest : String) : Except Failure String := do
  return "/v1/tenants/" ++ (← segment tenant) ++ rest

/-- The method of a call. -/
def method {α : Type} : Call α → Method
  | .deleteTenant _ => .delete
  | _ => .post

/-- The path of a call. -/
def path {α : Type} : Call α → Except Failure String
  | .listTenants _ _ => pure "/v1/tenants/list"
  | .createTenant _ _ => pure "/v1/tenants/create"
  | .deleteTenant tenant => tenantPath tenant ""
  | .writeSchema tenant _ => tenantPath tenant "/schemas/write"
  | .writeRelationships tenant _ _ => tenantPath tenant "/data/write"
  | .deleteRelationships tenant _ => tenantPath tenant "/data/delete"
  | .checkPermission tenant _ => tenantPath tenant "/permissions/check"

/-- The body of a call as a value; deleting a tenant has none. A tenant without a name is named by
its identifier. -/
def payload {α : Type} : Call α → Option Value
  | .listTenants size token => some (.record [("page_size", size), ("continuous_token", token)])
  | .createTenant tenant name => some (.record [("id", tenant), ("name", name.orElse tenant)])
  | .deleteTenant _ => none
  | .writeSchema _ schema => some (.record [("schema", schema)])
  | .writeRelationships _ tuples version =>
      some (.record [("metadata", .record [("schema_version", version)]), ("tuples", tuples),
        ("attributes", .list [])])
  | .deleteRelationships _ filter =>
      some (.record [("tuple_filter", filter), ("attribute_filter", .map [])])
  | .checkPermission _ request =>
      match request with
      | .none => none
      | r => some r

/-- The body of a call as data. -/
def body {α : Type} (call : Call α) : Except Failure (Option Json) :=
  match payload call with
  | none => pure none
  | some v => do return some (← v.toJson.mapError Failure.encode)

/-- The request for a call. -/
def request {α : Type} (c : Connection) (call : Call α) : Except Failure Request := do
  let p ← path call
  let url ← (c.base.resolve p).mapError addressFailure
  return {
    method := method call
    url := url.text
    headers := c.headers
    timeout := c.timeout
    body := ← body call }

/-! ## Answers -/

/-- The data of a body. -/
def readBody (bytes : List UInt8) : Except Failure Value :=
  match Json.decodeBytes bytes with
  | .error f => throw (.undecodable f)
  | .ok document =>
      match Json.read document with
      | .error f => throw (.unreadable f document)
      | .ok j => pure (.ofJson j)

/-- The result of a request: the data of the body, or no data at all for an empty body. -/
def readResult (bytes : List UInt8) : Except Failure Value :=
  if bytes.isEmpty then pure (.map []) else readBody bytes

/-- The fields of a body that is an object. -/
def errorFields (bytes : List UInt8) : Option (List (Key × Value)) :=
  match readBody bytes with
  | .ok (.map es) => some es
  | _ => none

/-- The failure of a body that cannot be read even leniently: its arrays and objects are within too
many others. -/
def bodyFailure? (bytes : List UInt8) : Option Failure :=
  match readBody bytes with
  | .error (.unreadable ⟨.tooDeep isObject, position⟩ document) =>
      some (.unreadable ⟨.tooDeep isObject, position⟩ document)
  | _ => none

/-- The message of a rejection: what the object in the body says, else the body, else the status. -/
def errorMessage (status : Nat) (bytes : List UInt8) : Value :=
  let bodyText : Value := .text (String.ofList (Text.Utf8.decodeLossy bytes))
  let stated := match errorFields bytes with
    | some es => ((Entries.get? es (.text "message")).getD .none).orElse bodyText
    | none => bodyText
  stated.orElse (.text ("HTTP " ++ toString status))

/-- The code of a rejection, if the body is an object that has one. -/
def errorCode (bytes : List UInt8) : Value :=
  match errorFields bytes with
  | some es => (Entries.get? es (.text "code")).getD .none
  | none => .none

/-- Statuses of success. -/
def isSuccess (status : Nat) : Bool := 200 ≤ status && status < 300

/-- What an answer to a request means, and what is written to the log. -/
def receive (endpoint : String) (m : Method) (path : String) :
    Answer → List LogRecord × Except Failure Value
  | .unreachable message =>
      ([], throw (.connection ("Failed to reach Permify at " ++ endpoint ++ ": " ++ message)
        (.text endpoint)))
  | .raised f => ([], throw f)
  | .response status bytes =>
      if isSuccess status then ([], readResult bytes)
      else
        match bodyFailure? bytes with
        | some f => ([], throw f)
        -- The body of a rejection is read leniently: whether it is JSON or not, it is a rejection.
        | none =>
            ([⟨.debug, .client,
                "Permify " ++ m.name ++ " " ++ path ++ " failed with HTTP " ++ toString status⟩],
              throw (.rejected (errorMessage status bytes).display (.int status)
                (errorCode bytes)))

/-- A tenant in an answer. -/
def readTenant (v : Value) : Except AccessFault Tenant := do
  return ⟨← v.item "id", ← v.find "name" (.text ""), ← v.find "created_at" .none⟩

/-- The page of tenants in an answer. -/
def readPage (data : Value) : Except AccessFault TenantPage := do
  let listed ← data.find "tenants" (.list [])
  let tenants ← (← listed.items).mapM readTenant
  return ⟨tenants, (← data.find "continuous_token" .none).orElse (.text "")⟩

/-- What the data of an answer means to a call. -/
def readReply {α : Type} (call : Call α) (data : Value) : Except Failure α :=
  match call with
  | .listTenants _ _ => (readPage data).mapError Failure.access
  | .createTenant _ _ => pure .none
  | .deleteTenant _ => pure .none
  | .writeSchema _ _ => (data.find "schema_version" (.text "")).mapError Failure.access
  | .writeRelationships _ _ _ => (data.find "snap_token" (.text "")).mapError Failure.access
  | .deleteRelationships _ _ => (data.find "snap_token" (.text "")).mapError Failure.access
  | .checkPermission _ _ => pure data

/-- What an answer means to a call. -/
def reply {α : Type} (c : Connection) (call : Call α) (a : Answer) :
    List LogRecord × Except Failure α :=
  let (records, data) := receive c.endpoint (method call) ((path call).toOption.getD "") a
  (records, data.bind (readReply call))

/-- The client of a connection. -/
def client (c : Connection) : Client Request Answer where
  request := request c
  reply := reply c

theorem isSuccess_iff (status : Nat) : isSuccess status = true ↔ 200 ≤ status ∧ status < 300 := by
  simp [isSuccess]

end Rebac.Http
