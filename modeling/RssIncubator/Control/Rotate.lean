import RssIncubator.Control.Login
import RssIncubator.Product.Requests

/-!
# The commands of the control (`rotation-control`)

A command logs in, checks a policy, has the service accept one, asks it for the status of a device, or checks what was printed
of an accepted policy.  It ends with one output or one error.
-/

namespace RssIncubator.Control

open Lib Lib.Dialogue
open Agent (Uuid utf8)
open Product

/-! ### Commands -/

structure RotateArgs (Url : Type) where
  auth : AuthArgs Url
  rssBaseUrl : Url
  deviceId : Uuid
  input : String
  expectedGeneration : ℕ
  idempotencyKey : Option Uuid

structure StatusArgs (Url : Type) where
  auth : AuthArgs Url
  rssBaseUrl : Url
  deviceId : Uuid

inductive Command (Url : Type) where
  | login (auth : AuthArgs Url)
  | policyCheck (input : String)
  | rotate (args : RotateArgs Url)
  | status (args : StatusArgs Url)
  | audit (input : String)

structure PolicyInput where
  keyUsages : List KeyUsage
  renewBeforeSeconds : ℕ
  sans : List String
  validitySeconds : ℕ
  deriving DecidableEq

structure RotateRecord where
  schemaVersion : String
  operation : String
  outcome : String
  requestId : Uuid
  correlationId : Uuid
  authorizationReceiptId : Uuid
  acceptedGeneration : ℕ
  condition : String
  deriving DecidableEq

namespace RotateRecord

/-- The names of its fields in JSON. -/
def names : List String :=
  ["schemaVersion", "operation", "outcome", "requestId", "correlationId", "authorizationReceiptId", "acceptedGeneration",
    "condition"]

/-- A field that is there once. -/
def field (fields : List (String × Value)) (name : String) : Option Value :=
  match fields.filter (·.1 = name) with
  | [(_, value)] => some value
  | _ => none

/-- The derived `Deserialize`, of an object: with all of its fields, and no other. -/
def deserialize (parseUuid : String → Option Uuid) (fields : List (String × Value)) : Option RotateRecord := do
  if ∃ f ∈ fields, f.1 ∉ names then none
  let schemaVersion ← (field fields "schemaVersion").bind Value.asStr
  let operation ← (field fields "operation").bind Value.asStr
  let outcome ← (field fields "outcome").bind Value.asStr
  let requestId ← ((field fields "requestId").bind Value.asStr).bind parseUuid
  let correlationId ← ((field fields "correlationId").bind Value.asStr).bind parseUuid
  let authorizationReceiptId ← ((field fields "authorizationReceiptId").bind Value.asStr).bind parseUuid
  let acceptedGeneration ← (field fields "acceptedGeneration").bind Value.asU64
  let condition ← (field fields "condition").bind Value.asStr
  some ⟨schemaVersion, operation, outcome, requestId, correlationId, authorizationReceiptId, acceptedGeneration, condition⟩

end RotateRecord

/-- What a command that succeeds has to say. -/
inductive Output where
  | authenticated
  | valid (validitySeconds renewBeforeSeconds keyUsageCount sanCount : ℕ)
  | accepted (record : RotateRecord)
  | observed (requestId correlationId : Uuid) (projection : StatusProjection)
  | validated (requestId correlationId authorizationReceiptId : Uuid) (acceptedGeneration : ℕ)
  deriving DecidableEq

/-- An `Option` as JSON. -/
def Value.ofOption {α : Type} (toValue : α → Value) (value : Option α) : Value := value.elim .null toValue

def Value.ofUuid (id : Uuid) : Value := .string id.hyphenated

def Value.ofNat (value : ℕ) : Value := .number (.posInt value)

/-- The JSON a command prints. -/
def Output.toValue : Output → Value
  | authenticated =>
    .object [("schemaVersion", .string "1"), ("operation", .string "login"), ("outcome", .string "authenticated"),
      ("tokenPersisted", .bool false)]
  | valid validitySeconds renewBeforeSeconds keyUsageCount sanCount =>
    .object [("schemaVersion", .string "1"), ("operation", .string "policy.check"), ("outcome", .string "valid"),
      ("validitySeconds", .ofNat validitySeconds), ("renewBeforeSeconds", .ofNat renewBeforeSeconds),
      ("keyUsageCount", .ofNat keyUsageCount), ("sanCount", .ofNat sanCount)]
  | accepted record =>
    .object [("schemaVersion", .string record.schemaVersion), ("operation", .string record.operation),
      ("outcome", .string record.outcome), ("requestId", .ofUuid record.requestId),
      ("correlationId", .ofUuid record.correlationId), ("authorizationReceiptId", .ofUuid record.authorizationReceiptId),
      ("acceptedGeneration", .ofNat record.acceptedGeneration), ("condition", .string record.condition)]
  | observed requestId correlationId value =>
    .object [("schemaVersion", .string "1"), ("operation", .string "status"), ("outcome", .string "observed"),
      ("requestId", .ofUuid requestId), ("correlationId", .ofUuid correlationId),
      ("desiredGeneration", .ofOption .ofNat value.desiredGeneration),
      ("authorizationReceiptId", .ofOption .ofUuid value.authorizationReceiptId),
      ("observedGeneration", .ofNat value.observedGeneration),
      ("activeCommand", .ofOption (fun item =>
        .object [("fenceEpoch", .ofNat item.fenceEpoch), ("state", .string item.state.asStr)]) value.activeCommand),
      ("conditions", .array (value.conditions.map fun item =>
        .object [("observedGeneration", .ofNat item.observedGeneration), ("reason", .string item.reason.asStr),
          ("status", .string item.status.asStr), ("type", .string item.type.asStr),
          ("lastTransitionAt", .number (.ofInt item.lastTransitionAt))]))]
  | validated requestId correlationId authorizationReceiptId acceptedGeneration =>
    .object [("schemaVersion", .string "1"), ("operation", .string "audit"), ("outcome", .string "validated"),
      ("requestId", .ofUuid requestId), ("correlationId", .ofUuid correlationId),
      ("authorizationReceiptId", .ofUuid authorizationReceiptId), ("acceptedGeneration", .ofNat acceptedGeneration),
      ("durableAuditQueried", .bool false)]

/-- The rest of what the commands use of other crates: of the contracts, of `http`, `uuid` and `serde_json`. -/
structure Service extends Crates where
  requests : Requests
  responses : Responses Bytes
  /-- `Method::from_bytes` takes it. -/
  method : String → Bool
  /-- `HeaderValue::from_str` takes it. -/
  headerValue : String → Bool
  policyInput : Bytes → Option PolicyInput
  rotateRecord : Bytes → Option RotateRecord
  parseUuid : String → Option Uuid
  /-- `Display` of a `Value`. -/
  display : Value → String

def AppError.fromDiagnostic (value : Diagnostic) : AppError where
  code := value.kind.code
  errorClass :=
    match value.kind with
    | .unauthorized | .forbidden => .auth
    | .validation | .notFound | .conflict => .typed
    | .rateLimited | .upstream => .transport
    | .malformed | .unknownStatus => .untrusted
  stage := .api
  requestId := value.requestId
  retryable := value.retryable

/-- The record of an acceptance. -/
def acceptedRecord (requestId correlationId : Uuid) (value : PolicyAcceptedProjection) : RotateRecord :=
  ⟨"1", "rotate", "accepted", requestId, correlationId, value.receiptId, value.generation, value.condition.asStr⟩

def apiHeaders (token tenant : String) (requestId correlationId : Uuid) : HeaderMap :=
  [("authorization", "Bearer " ++ token), ("x-tenant-id", tenant), ("x-request-id", requestId.hyphenated),
    ("x-correlation-id", correlationId.hyphenated)]

namespace Service

variable (service : Service)

/-- `fs::read`, of a file that is no longer than a response. -/
def readInput (answer : Option Bytes) : Session service.Url Bytes := do
  let bytes ← ofExcept (okOr answer (.input "input_unreadable"))
  ofExcept (refuse (maxResponseBytes < bytes.length) (.input "input_oversize"))
  pure bytes

def readPolicy (path : String) : Session service.Url RotationPolicy := do
  let answer ← (call (Call.read path) : Session service.Url (Option Bytes))
  let bytes ← service.readInput answer
  let input ← ofExcept (okOr (service.policyInput bytes) (.input "invalid_policy_json"))
  ofExcept (okOr (RotationPolicy.tryNew input.keyUsages input.renewBeforeSeconds input.sans input.validitySeconds)
    (.input "invalid_policy"))

/-- Status and body of the reply. -/
def sendApi (base : service.Url) (prepared : PreparedRequest) (token tenant : String) (requestId correlationId : Uuid) :
    Session service.Url HttpReply := do
  let url ← ofExcept (okOr (service.join base prepared.path) (.input "invalid_rss_url"))
  ofExcept (refuse (service.method prepared.method = false) (.untrusted "invalid_operation"))
  ofExcept (refuse (service.headerValue ("Bearer " ++ token) = false) (.auth "token_invalid"))
  ofExcept (refuse (service.headerValue tenant = false) (.input "invalid_tenant"))
  let headers := apiHeaders token tenant requestId correlationId
  let reply ← (call (Call.send prepared.method url headers prepared.body) : Session service.Url (Except AppError HttpReply))
  ofExcept (reply.mapError fun error => error.atStage .api)

/-- `rotate` and `rotate_with_ports`. -/
def rotate (args : RotateArgs service.Url) : Session service.Url Output := do
  service.newHttpPort args.auth.caCertificate
  ofExcept (service.validateRssBaseUrl args.rssBaseUrl)
  let policy ← service.readPolicy args.input
  let token ← service.authenticate args.auth
  let requestId ← (call Call.newV4 : Session service.Url Uuid)
  let correlationId ← (call Call.newV4 : Session service.Url Uuid)
  let idempotencyKey ← args.idempotencyKey.elim (call Call.newV4 : Session service.Url Uuid) pure
  let prepared ← ofExcept ((preparePolicyPut service.requests args.deviceId args.expectedGeneration idempotencyKey
    policy).mapError fun _ => .input "invalid_policy")
  let response ← service.sendApi args.rssBaseUrl prepared token args.auth.tenantId requestId correlationId
  ofExcept (match decodePolicyResponse service.responses response.status response.body with
    | .accepted value => .ok (.accepted (acceptedRecord requestId correlationId value))
    | .rejected error => .error (.fromDiagnostic error))

/-- `status` and `status_with_ports`. -/
def status (args : StatusArgs service.Url) : Session service.Url Output := do
  service.newHttpPort args.auth.caCertificate
  ofExcept (service.validateRssBaseUrl args.rssBaseUrl)
  let token ← service.authenticate args.auth
  let requestId ← (call Call.newV4 : Session service.Url Uuid)
  let correlationId ← (call Call.newV4 : Session service.Url Uuid)
  let prepared := prepareStatusGet service.requests args.deviceId
  let response ← service.sendApi args.rssBaseUrl prepared token args.auth.tenantId requestId correlationId
  ofExcept (match decodeStatusResponse service.responses response.status response.body with
    | .observed value => .ok (.observed requestId correlationId value)
    | .rejected error => .error (.fromDiagnostic error))

/-- The checks of `audit` on what it has read. -/
def auditRecord (bytes : Bytes) : Except AppError Output := do
  let record ← okOr (service.rotateRecord bytes) (.input "invalid_rotate_record")
  refuse (record.schemaVersion ≠ "1" ∨ record.operation ≠ "rotate" ∨ record.outcome ≠ "accepted" ∨
    record.acceptedGeneration = 0 ∨ ¬ (record.condition = "Reconciling" ∨ record.condition = "PendingDevice"))
    (.input "invalid_rotate_record")
  pure (.validated record.requestId record.correlationId record.authorizationReceiptId record.acceptedGeneration)

def audit (input : String) : Session service.Url Output := do
  let answer ← if input = "-" then (call (Call.stdin (maxResponseBytes + 1)) : Session service.Url (Option Bytes))
    else (call (Call.read input) : Session service.Url (Option Bytes))
  let bytes ← service.readInput answer
  ofExcept (service.auditRecord bytes)

def run (command : Command service.Url) : Session service.Url Output :=
  match command with
  | .login auth => do
    let _ ← service.login auth
    pure .authenticated
  | .policyCheck input => do
    let policy ← service.readPolicy input
    pure (.valid policy.validitySeconds policy.renewBeforeSeconds policy.keyUsages.length policy.sans.length)
  | .rotate args => service.rotate args
  | .status args => service.status args
  | .audit input => service.audit input

/-- What stands on the standard output after a command that succeeded. -/
def println (output : Output) : Bytes := utf8 (service.display output.toValue ++ "\n")

end Service

/-- The exit code of a command that was run. -/
def exitCode : Except AppError Output → ℕ
  | .ok _ => 0
  | .error error => error.exitCode

end RssIncubator.Control
