import Rebac.Value.Choice
import Rebac.Json.Reader
import Rebac.Choice
import Rebac.Relationship
import Rebac.Schema.Declaration
import Rebac.Text.Encoding
import Rebac.Value.Data
import Rebac.Value.Shown

set_option autoImplicit false

/-!
# Failures

Every way in which an operation of this library can end without a result. A failure is a cause, and
its text is derived from the cause. The failures of the library itself are reported with a code and
details; others come from the caller's own operations, from the transport or from data of the wrong
shape, and are passed on as they are.

A failed write to a tenant that was created for it ends in a compensation failure, which holds the
failure of the write.
-/

namespace Rebac

/-- Parameters that are missing or malformed. -/
inductive ParameterFault
  | noClient
  | noTenant
  | noPermission
  | noSchema
  | noTuples
  | noFilter
  | noEndpoint
  | noPort
  | invalidTuple (data : Value) (cause : AccessFault)
  | invalidFilter (data : Value) (cause : AccessFault)
  | invalidMode (mode : Value)

namespace ParameterFault

/-- The name of the parameter. -/
def parameter : ParameterFault → String
  | .noClient => "client"
  | .noTenant => "tenant_id"
  | .noPermission => "permission"
  | .noSchema => "schema"
  | .noTuples | .invalidTuple _ _ => "tuples"
  | .noFilter | .invalidFilter _ _ => "filter"
  | .noEndpoint | .noPort => "endpoint"
  | .invalidMode _ => "mode"

/-- The message for a parameter. -/
def message : ParameterFault → String
  | .noClient => "Either endpoint or client must be provided"
  | .noTenant => "Tenant ID is required"
  | .noPermission => "Permission is required"
  | .noSchema => "Schema is required"
  | .noTuples => "Relationship tuples are required"
  | .noFilter => "Relationship filter is required"
  | .noEndpoint => "Permify client requires an endpoint"
  | .noPort => "Permify endpoint must include host:port"
  | .invalidTuple data cause => Relationship.faultMessage data cause
  | .invalidFilter data cause => Filter.faultMessage data cause
  | .invalidMode mode =>
      "Invalid seeding mode: " ++ mode.display ++ ". Must be one of: " ++ SeedingMode.choices

end ParameterFault

/-- What a schema file is called. -/
def schemaFileEnding : String := ".perm"

/-- Settings that are missing or invalid. -/
inductive ConfigFault
  | noConfig
  | clientEndpoint
  | tenant
  | noSchema
  | schemaKind
  | schemaNotFound (path : String)
  | schemaExtension (path : String)
  | schemaEmpty (path : String)
  | seedFile
  | seedingMode
  | logLevel (level : Value)
  | logFormat

namespace ConfigFault

/-- The name of the setting, unless the configuration as a whole is at fault. -/
def setting? : ConfigFault → Option String
  | .noConfig => none
  | .clientEndpoint => some "client.endpoint"
  | .tenant => some "tenant"
  | .noSchema | .schemaKind | .schemaNotFound _ | .schemaExtension _ | .schemaEmpty _ =>
      some "schema"
  | .seedFile => some "relationships.seed_file"
  | .seedingMode => some "relationships.mode"
  | .logLevel _ => some "logging.level"
  | .logFormat => some "logging.format"

/-- The message for a setting. -/
def message : ConfigFault → String
  | .noConfig => "Configuration must be a ToolkitConfig"
  | .clientEndpoint => "Client endpoint must be a string"
  | .tenant => "Tenant must be a non-empty string"
  | .noSchema => "Schema must be provided"
  | .schemaKind => "Schema must be a SchemaHandle or a schema file path"
  | .schemaNotFound path => "Schema file not found: " ++ path
  | .schemaExtension path =>
      "Schema file must have a " ++ schemaFileEnding ++ " extension: " ++ path
  | .schemaEmpty path => "Schema file cannot be empty: " ++ path
  | .seedFile => "Relationships seed_file must be a string"
  | .seedingMode => "Relationships mode must be one of: " ++ SeedingMode.choices
  | .logLevel level => "Unknown log level: " ++ level.display
  | .logFormat => "Log format must be one of: " ++ LogFormat.choices

end ConfigFault

/-- The status that a remote procedure call reports: none, one that cannot be asked for, or a
named one. -/
inductive RpcStatus
  | absent
  | unusable
  | named (name : String)
deriving DecidableEq

/-- How an operation can end without a result. -/
inductive Failure
  | malformed (cause : Malformed)
  | dangling (cause : Dangling)
  | parameter (cause : ParameterFault)
  | config (cause : ConfigFault)
  /-- The tenant does not exist and was not to be created. -/
  | tenantNotFound (tenant : Value)
  /-- The server cannot be reached. -/
  | connection (message : String) (address : Value)
  /-- The server rejects a request, with the status of the answer and the code in its body. -/
  | rejected (message : String) (status code : Value)
  /-- A write failed, and the tenant that was created for it is deleted again. The write failure is
  the cause of this one if `chained`. -/
  | rolledBack (tenant : Value) (cause : Failure) (chained : Bool)
  /-- A write failed, and deleting the tenant that was created for it failed, too. -/
  | rollbackFailed (tenant : Value) (cause rollback : Failure) (chained : Bool)
  /-- The operation was cancelled. -/
  | cancelled (message : String)
  /-- The operation was cancelled, and the tenant that was created for it has been dealt with. -/
  | compensated (message : String) (outcome : Failure)
  /-- The program was interrupted. -/
  | interrupted (message : String)
  /-- A remote procedure call failed. -/
  | rpc (message : String) (status : RpcStatus)
  /-- Any other failure of an operation that the caller passed in, or of the transport. -/
  | raised (kind message : String)
  /-- A value does not have the shape that its use needs. -/
  | access (cause : AccessFault)
  | mapping (cause : MappingFault)
  | encode (cause : EncodeFault)
  /-- A value that a message is to show has no text. -/
  | noText (cause : TextFault)
  /-- An answer is no JSON. -/
  | unreadable (cause : Json.ReadFault) (document : List Char)
  /-- An answer is no text. -/
  | undecodable (cause : Text.DecodeFault)
  /-- An answer denotes no result of a check. -/
  | result (cause : ResultFault)
  /-- A tenant that is no text cannot be part of an address. -/
  | noSegment
  /-- The address of the server is invalid. -/
  | address (message : String)
  /-- A file that the connection needs does not exist. -/
  | missingFile
  /-- A header holds characters outside ASCII. -/
  | header
  /-- A timeout is too large. -/
  | timeout

/-- A failure of the library as its callers see it. -/
structure Report where
  kind : String
  message : String
  code : String
  details : List (String × Value)

namespace Report

/-- A failure without a class of its own. -/
def general (message : String) (code details : Value) : Report where
  kind := "PermifyToolkitError"
  message := message
  code := (code.orElse (.text "PERMIFY_TOOLKIT_ERROR")).display
  details := match details with
    | .map es => es.map (fun e => (e.1.display, e.2))
    | _ => []

/-- A malformed declaration. -/
def structural (message : String) (entity : Value) : Report :=
  ⟨"StructuralError", message, "STRUCTURAL_ERROR", [("entity", entity)]⟩

/-- A dangling reference. -/
def reference (message : String) (entity member identifier : Value) : Report :=
  ⟨"ReferenceError", message, "REFERENCE_ERROR",
    [("entity", entity), ("member", member), ("identifier", identifier)]⟩

/-- A parameter at fault. -/
def parameter (message : String) (parameter : Value) : Report :=
  ⟨"ParameterError", message, "PARAMETER_ERROR", [("parameter", parameter)]⟩

/-- A tenant that does not exist. -/
def tenantNotFound (tenant : Value) : Report :=
  ⟨"TenantNotFoundError",
    "Tenant \"" ++ tenant.display ++ "\" not found. " ++
      "Enable create_tenant_if_not_exists to create it automatically.",
    "TENANT_NOT_FOUND", [("tenant_id", tenant)]⟩

/-- A server that cannot be reached. -/
def connection (message : String) (address : Value) : Report :=
  ⟨"ConnectionError", message, "CONNECTION_ERROR", [("address", address)]⟩

/-- A rejected request. -/
def rejected (message : String) (status code : Value) : Report :=
  ⟨"PermifyApiError", message, "API_ERROR", [("status_code", status), ("grpc_code", code)]⟩

/-- A failed write whose tenant is deleted again. -/
def rolledBack (tenant : Value) (cause : String) : Report :=
  ⟨"TenantRolledBackError",
    "Operation failed: " ++ cause ++ ". Tenant " ++ tenant.display ++
      " was rolled back (deleted).",
    "TENANT_ROLLED_BACK", [("tenant_id", tenant), ("original_error", .text cause)]⟩

/-- A failed write whose tenant could not be deleted. -/
def rollbackFailed (tenant : Value) (cause rollback : String) : Report :=
  ⟨"RollbackFailedError",
    "Operation failed: " ++ cause ++ ". Rollback failed: " ++ rollback ++ ". Tenant " ++
      tenant.display ++ " may be in an inconsistent state.",
    "ROLLBACK_FAILED",
    [("tenant_id", tenant), ("original_error", .text cause),
      ("rollback_error", .text rollback)]⟩

/-- An invalid setting. -/
def config (message : String) (setting : Value) : Report :=
  ⟨"ConfigError", message, "CONFIG_ERROR", [("setting", setting)]⟩

end Report

namespace Failure

/-- The class of a failure. -/
def kind : Failure → String
  | .malformed _ => "StructuralError"
  | .dangling _ => "ReferenceError"
  | .parameter _ => "ParameterError"
  | .config _ => "ConfigError"
  | .tenantNotFound _ => "TenantNotFoundError"
  | .connection _ _ => "ConnectionError"
  | .rejected _ _ _ => "PermifyApiError"
  | .rolledBack _ _ _ => "TenantRolledBackError"
  | .rollbackFailed _ _ _ _ => "RollbackFailedError"
  | .cancelled _ | .compensated _ _ => "CancelledError"
  | .interrupted _ => "KeyboardInterrupt"
  | .rpc _ _ => "RpcError"
  | .raised kind _ => kind
  | .access f => f.className
  | .mapping (.wrongSize _ _) => "ValueError"
  | .mapping _ => "TypeError"
  | .encode .outOfRange | .encode .tooLong => "ValueError"
  | .encode _ => "TypeError"
  | .noText f => f.className
  | .unreadable ⟨.tooLong _, _⟩ _ => "ValueError"
  | .unreadable ⟨.tooDeep _, _⟩ _ => "RecursionError"
  | .unreadable _ _ => "JSONDecodeError"
  | .undecodable _ => "UnicodeDecodeError"
  | .result _ => "ValueError"
  | .noSegment => "TypeError"
  | .address _ => "InvalidURL"
  | .missingFile => "FileNotFoundError"
  | .header => "UnicodeEncodeError"
  | .timeout => "OverflowError"

/-- A text, or the class of a failure in place of an empty one. -/
def orKind (message kind : String) : String := if message.isEmpty then kind else message

/-- What a failure says. -/
def text : Failure → String
  | .malformed f => f.message
  | .dangling f => f.message
  | .parameter f => f.message
  | .config f => f.message
  | .tenantNotFound t => (Report.tenantNotFound t).message
  | .connection m _ => m
  | .rejected m _ _ => m
  | .rolledBack t o _ => (Report.rolledBack t (orKind o.text o.kind)).message
  | .rollbackFailed t o r _ =>
      (Report.rollbackFailed t (orKind o.text o.kind) (orKind r.text r.kind)).message
  | .cancelled m | .compensated m _ | .interrupted m => m
  | .rpc m _ => m
  | .raised _ m => m
  | .access f => f.message
  | .mapping f => f.message
  | .encode f => f.message
  | .noText f => f.message
  | .unreadable f document => f.message document
  | .undecodable f => f.message
  | .result f => f.message
  | .noSegment => "quote_from_bytes() expected bytes"
  | .address m => m
  | .missingFile => "[Errno 2] No such file or directory"
  | .header => "'ascii' codec can't encode character: ordinal not in range(128)"
  | .timeout => "integer division result too large for a float"

/-- What a failure says, or its class if it says nothing. -/
def describe (f : Failure) : String := orKind f.text f.kind

/-- The report of a failure of the library; other failures have none. -/
def report? : Failure → Option Report
  | .malformed f => some (.structural f.message (f.entity?.elim .none Value.ofKey))
  | .dangling f =>
      some (.reference f.message (.ofKey f.entity) (.ofKey f.holder) (.text f.identifier))
  | .parameter f => some (.parameter f.message (.text f.parameter))
  | .config f => some (.config f.message (f.setting?.elim .none Value.text))
  | .tenantNotFound t => some (.tenantNotFound t)
  | .connection m a => some (.connection m a)
  | .rejected m s c => some (.rejected m s c)
  | .rolledBack t o _ => some (.rolledBack t o.describe)
  | .rollbackFailed t o r _ => some (.rollbackFailed t o.describe r.describe)
  | _ => none

/-- Whether a failure is a cancellation. -/
def isCancellation : Failure → Bool
  | .cancelled _ | .compensated _ _ => true
  | _ => false

/-- Whether a failure is an ordinary one: neither a cancellation nor an interruption. -/
def isOrdinary : Failure → Bool
  | .cancelled _ | .compensated _ _ | .interrupted _ => false
  | _ => true

/-- The failure of building a schema. -/
def ofBuild : BuildFault → Failure
  | .malformed f => .malformed f
  | .access f => .access f

/-- The failure of defining a schema. -/
def ofDefine : DefineFault → Failure
  | .build f => ofBuild f
  | .dangling f => .dangling f

theorem kind_ne_empty_of_report (f : Failure) (h : f.report?.isSome = true) :
    f.kind ≠ "" := by
  cases f <;> simp [report?, kind] at *

end Failure

end Rebac
