import RssIncubator.Product.Mapping

/-!
# What the product reads from the service (`rss-device-security-client`, `rotation-model`)

The answers of the service to a policy and to a status request, and the receipts it sends, as closed projections of the
public contracts.  Of an error only its kind, its request and whether it may be tried again are kept.

`Responses` has the decoders of the contract crate, `Contract` its enumerations.
-/

namespace RssIncubator.Product

open Agent

abbrev AuthorizationReceiptRef := Reference "authorization_receipt_ref"
abbrev IngressEnvelopeRef := Reference "ingress_envelope_ref"

/-! ### The contracts -/

namespace Contract

inductive PolicyCondition where
  | reconciling
  | pendingDevice
  deriving DecidableEq

/-- The data of `IdentityDeviceCertificatePolicyPutResponse`. -/
structure PolicyPut where
  authorizationReceiptId : Uuid
  acceptedGeneration : ℕ+
  condition : PolicyCondition
  deriving DecidableEq

/-- `IdentityDeviceCertificatePolicyPutConflictError`. -/
inductive PolicyPutConflict where
  | errCoreVersionConflict (requestId : String) (retryable : Bool)
  | errCoreConflict (requestId : String) (retryable : Bool)
  deriving DecidableEq

inductive ActiveCommandState where
  | queued
  | published
  | received
  deriving DecidableEq

inductive ConditionStatus where
  | true
  | false
  | unknown
  deriving DecidableEq

inductive ConditionType where
  | ready
  | reconciling
  | pendingDevice
  | degraded
  | quarantined
  | deleting
  deriving DecidableEq

inductive ConditionReason where
  | desiredAccepted
  | commandQueued
  | awaitingDevice
  | deviceReported
  | stateMatches
  | stateDrift
  | commandRejected
  | commandTimedOut
  | protocolViolation
  | quarantinedByOperator
  | deletionPending
  | deletionComplete
  | artifactUnavailable
  | transportUnavailable
  deriving DecidableEq

structure ActiveCommand where
  fenceEpoch : ℕ+
  state : ActiveCommandState
  deriving DecidableEq

structure Desired where
  generation : ℕ+
  authorizationReceiptId : Uuid
  activeCommand : Option ActiveCommand
  deriving DecidableEq

structure Condition where
  observedGeneration : ℤ
  reason : ConditionReason
  status : ConditionStatus
  type : ConditionType
  lastTransitionAt : ℤ
  deriving DecidableEq

/-- The data of `IdentityDeviceCertificateStatusGetResponse`. -/
structure StatusGet where
  desired : Option Desired
  observedGeneration : ℤ
  conditions : List Condition
  deriving DecidableEq

inductive StaleReason where
  | generationStale
  | fenceEpochStale
  | deviceSequenceStale
  deriving DecidableEq

inductive RejectedReason where
  | notAccepted
  | schemaRejected
  | protocolViolation
  deriving DecidableEq

/-- The fields of a receipt with an accepted lineage. -/
structure Receipted where
  deviceId : Uuid
  ingressEnvelopeId : String
  authorizationReceiptId : Uuid
  desiredGeneration : ℕ+
  committedAt : ℤ
  deriving DecidableEq

/-- `IdentityDeviceIngressReceiptedPayload`.  The outcome of each branch is the branch, and so is the reason of the first
two. -/
inductive ReceiptedPayload where
  | committedPayload (fields : Receipted)
  | duplicatePayload (fields : Receipted)
  | stalePayload (fields : Receipted) (reason : StaleReason)
  | rejectedPayload (deviceId : Uuid) (ingressEnvelopeId : String) (reason : RejectedReason) (committedAt : ℤ)
  deriving DecidableEq

end Contract

/-- The contract crate: how it reads the bodies of responses.  Of the bodies of errors it is the request. -/
structure Responses (Body : Type) where
  policyPut : Body → Option Contract.PolicyPut
  policyPutValidation : Body → Option String
  policyPutNotFound : Body → Option String
  policyPutConflict : Body → Option Contract.PolicyPutConflict
  statusGet : Body → Option Contract.StatusGet

/-! ### Diagnostics -/

inductive DiagnosticKind where
  | validation
  | notFound
  | conflict
  | unauthorized
  | forbidden
  | rateLimited
  | upstream
  | malformed
  | unknownStatus
  deriving DecidableEq

def DiagnosticKind.code : DiagnosticKind → String
  | .validation => "validation_failed"
  | .notFound => "not_found"
  | .conflict => "conflict"
  | .unauthorized => "unauthorized"
  | .forbidden => "forbidden"
  | .rateLimited => "rate_limited"
  | .upstream => "upstream_failure"
  | .malformed => "malformed_response"
  | .unknownStatus => "unknown_status"

def DiagnosticKind.retryable (kind : DiagnosticKind) : Bool := kind = .rateLimited || kind = .upstream

structure Diagnostic where
  kind : DiagnosticKind
  requestId : Option String
  retryable : Bool
  deriving DecidableEq

def Diagnostic.new (kind : DiagnosticKind) (requestId : Option String) : Diagnostic := ⟨kind, requestId, kind.retryable⟩

def Diagnostic.conflict (requestId : String) (retryable : Bool) : Diagnostic := ⟨.conflict, some requestId, retryable⟩

/-! ### The answer to a policy -/

inductive PolicyCondition where
  | reconciling
  | pendingDevice
  deriving DecidableEq

def PolicyCondition.asStr : PolicyCondition → String
  | .reconciling => "Reconciling"
  | .pendingDevice => "PendingDevice"

structure PolicyAcceptedProjection where
  receiptId : Uuid
  generation : ℕ
  condition : PolicyCondition
  deriving DecidableEq

inductive PolicyResponse where
  | accepted (projection : PolicyAcceptedProjection)
  | rejected (diagnostic : Diagnostic)
  deriving DecidableEq

section

variable {Body : Type} (contracts : Responses Body)

def policyCondition : Contract.PolicyCondition → PolicyCondition
  | .reconciling => .reconciling
  | .pendingDevice => .pendingDevice

def decodePolicyResponse (status : ℕ) (body : Body) : PolicyResponse :=
  let malformed := PolicyResponse.rejected (.new .malformed none)
  if status = 200 then
    match contracts.policyPut body with
    | none => malformed
    | some data => .accepted ⟨data.authorizationReceiptId, data.acceptedGeneration, policyCondition data.condition⟩
  else if status = 400 then
    match contracts.policyPutValidation body with
    | none => malformed
    | some requestId => .rejected (.new .validation (some requestId))
  else if status = 404 then
    match contracts.policyPutNotFound body with
    | none => malformed
    | some requestId => .rejected (.new .notFound (some requestId))
  else if status = 409 then
    match contracts.policyPutConflict body with
    | none => malformed
    | some (.errCoreVersionConflict requestId retryable) => .rejected (.conflict requestId retryable)
    | some (.errCoreConflict requestId retryable) => .rejected (.conflict requestId retryable)
  else if status = 401 then .rejected (.new .unauthorized none)
  else if status = 403 then .rejected (.new .forbidden none)
  else if status = 429 then .rejected (.new .rateLimited none)
  else if 500 ≤ status ∧ status ≤ 599 then .rejected (.new .upstream none)
  else .rejected (.new .unknownStatus none)

end

/-! ### The answer to a status request -/

inductive ActiveCommandState where
  | queued
  | published
  | received
  deriving DecidableEq

inductive ConditionStatus where
  | true
  | false
  | unknown
  deriving DecidableEq

inductive ConditionType where
  | ready
  | reconciling
  | pendingDevice
  | degraded
  | quarantined
  | deleting
  deriving DecidableEq

inductive ConditionReason where
  | desiredAccepted
  | commandQueued
  | awaitingDevice
  | deviceReported
  | stateMatches
  | stateDrift
  | commandRejected
  | commandTimedOut
  | protocolViolation
  | quarantinedByOperator
  | deletionPending
  | deletionComplete
  | artifactUnavailable
  | transportUnavailable
  deriving DecidableEq

def ActiveCommandState.asStr : ActiveCommandState → String
  | .queued => "queued"
  | .published => "published"
  | .received => "received"

def ConditionStatus.asStr : ConditionStatus → String
  | .true => "True"
  | .false => "False"
  | .unknown => "Unknown"

def ConditionType.asStr : ConditionType → String
  | .ready => "Ready"
  | .reconciling => "Reconciling"
  | .pendingDevice => "PendingDevice"
  | .degraded => "Degraded"
  | .quarantined => "Quarantined"
  | .deleting => "Deleting"

def ConditionReason.asStr : ConditionReason → String
  | .desiredAccepted => "DesiredAccepted"
  | .commandQueued => "CommandQueued"
  | .awaitingDevice => "AwaitingDevice"
  | .deviceReported => "DeviceReported"
  | .stateMatches => "StateMatches"
  | .stateDrift => "StateDrift"
  | .commandRejected => "CommandRejected"
  | .commandTimedOut => "CommandTimedOut"
  | .protocolViolation => "ProtocolViolation"
  | .quarantinedByOperator => "QuarantinedByOperator"
  | .deletionPending => "DeletionPending"
  | .deletionComplete => "DeletionComplete"
  | .artifactUnavailable => "ArtifactUnavailable"
  | .transportUnavailable => "TransportUnavailable"

structure ActiveCommandProjection where
  fenceEpoch : ℕ
  state : ActiveCommandState
  deriving DecidableEq

structure ConditionProjection where
  observedGeneration : ℕ
  reason : ConditionReason
  status : ConditionStatus
  type : ConditionType
  lastTransitionAt : ℤ
  deriving DecidableEq

structure StatusProjection where
  desiredGeneration : Option ℕ
  authorizationReceiptId : Option Uuid
  observedGeneration : ℕ
  activeCommand : Option ActiveCommandProjection
  conditions : List ConditionProjection
  deriving DecidableEq

inductive StatusResponse where
  | observed (projection : StatusProjection)
  | rejected (diagnostic : Diagnostic)
  deriving DecidableEq

def activeCommandState : Contract.ActiveCommandState → ActiveCommandState
  | .queued => .queued
  | .published => .published
  | .received => .received

def conditionStatus : Contract.ConditionStatus → ConditionStatus
  | .true => .true
  | .false => .false
  | .unknown => .unknown

def conditionType : Contract.ConditionType → ConditionType
  | .ready => .ready
  | .reconciling => .reconciling
  | .pendingDevice => .pendingDevice
  | .degraded => .degraded
  | .quarantined => .quarantined
  | .deleting => .deleting

def conditionReason : Contract.ConditionReason → ConditionReason
  | .desiredAccepted => .desiredAccepted
  | .commandQueued => .commandQueued
  | .awaitingDevice => .awaitingDevice
  | .deviceReported => .deviceReported
  | .stateMatches => .stateMatches
  | .stateDrift => .stateDrift
  | .commandRejected => .commandRejected
  | .commandTimedOut => .commandTimedOut
  | .protocolViolation => .protocolViolation
  | .quarantinedByOperator => .quarantinedByOperator
  | .deletionPending => .deletionPending
  | .deletionComplete => .deletionComplete
  | .artifactUnavailable => .artifactUnavailable
  | .transportUnavailable => .transportUnavailable

/-- `u64::try_from` of an `i64`. -/
def unsignedOf (value : ℤ) : Option ℕ := if 0 ≤ value then some value.toNat else none

def conditionOf (c : Contract.Condition) : Option ConditionProjection :=
  (unsignedOf c.observedGeneration).map fun generation =>
    ⟨generation, conditionReason c.reason, conditionStatus c.status, conditionType c.type, c.lastTransitionAt⟩

/-- The part of `decode_status_response` that follows the decoder. -/
def statusOf (data : Contract.StatusGet) : Option StatusProjection := do
  let desiredGeneration := data.desired.map fun desired => (desired.generation : ℕ)
  let authorizationReceiptId := data.desired.map (·.authorizationReceiptId)
  let activeCommand := (data.desired.bind (·.activeCommand)).map fun command =>
    ⟨command.fenceEpoch, activeCommandState command.state⟩
  let observedGeneration ← unsignedOf data.observedGeneration
  let conditions ← data.conditions.mapM conditionOf
  some ⟨desiredGeneration, authorizationReceiptId, observedGeneration, activeCommand, conditions⟩

def decodeStatusResponse {Body : Type} (contracts : Responses Body) (status : ℕ) (body : Body) : StatusResponse :=
  if status ≠ 200 then
    let kind :=
      if status = 401 then DiagnosticKind.unauthorized
      else if status = 403 then .forbidden
      else if status = 404 then .notFound
      else if status = 429 then .rateLimited
      else if 500 ≤ status ∧ status ≤ 599 then .upstream
      else .unknownStatus
    .rejected (.new kind none)
  else match (contracts.statusGet body).bind statusOf with
    | none => .rejected (.new .malformed none)
    | some projection => .observed projection

/-! ### Acceptance and receipts in the product model -/

inductive AcceptanceCondition where
  | reconciling
  | pendingDevice
  deriving DecidableEq

structure RotationAccepted where
  coordinates : RotationCoordinates
  authorizationReceipt : AuthorizationReceiptRef
  acceptedGeneration : ℕ+
  condition : AcceptanceCondition
  deriving DecidableEq

inductive ApplicationStaleReason where
  | generationStale
  | fenceEpochStale
  | deviceSequenceStale
  deriving DecidableEq

inductive ApplicationRejectionReason where
  | notAccepted
  | schemaRejected
  | protocolViolation
  deriving DecidableEq

structure ReceiptLineage where
  authorizationReceipt : AuthorizationReceiptRef
  desiredGeneration : ℕ+
  deriving DecidableEq

inductive ApplicationReceiptOutcome where
  | committed (lineage : ReceiptLineage)
  | duplicate (lineage : ReceiptLineage)
  | stale (lineage : ReceiptLineage) (reason : ApplicationStaleReason)
  | rejected (reason : ApplicationRejectionReason)
  deriving DecidableEq

structure ApplicationReceiptObservation where
  coordinates : RotationCoordinates
  event : EventRef
  ingressEnvelope : IngressEnvelopeRef
  outcome : ApplicationReceiptOutcome
  committedAt : ℤ
  deriving DecidableEq

def receiptRef (value : Uuid) : Except MappingError AuthorizationReceiptRef :=
  (Reference.tryFrom "authorization_receipt_ref" value.hyphenated).mapError .invalidProductReference

def acceptanceCondition : Contract.PolicyCondition → AcceptanceCondition
  | .reconciling => .reconciling
  | .pendingDevice => .pendingDevice

def mapPolicySuccess (context : MappingContext) (response : Contract.PolicyPut) : Except MappingError RotationAccepted := do
  let receipt ← receiptRef response.authorizationReceiptId
  let acceptedGeneration ← (generation response.acceptedGeneration).mapError .invalidProductReference
  .ok ⟨context.coordinates, receipt, acceptedGeneration, acceptanceCondition response.condition⟩

def lineage (authorizationReceipt : Uuid) (desiredGeneration : ℕ) : Except MappingError ReceiptLineage := do
  let receipt ← receiptRef authorizationReceipt
  let desired ← (generation desiredGeneration).mapError .invalidProductReference
  .ok ⟨receipt, desired⟩

def receipt (context : MappingContext) (event : EventRef) (ingressEnvelope : String) (outcome : ApplicationReceiptOutcome)
    (committedAt : ℤ) : Except MappingError ApplicationReceiptObservation := do
  let envelope ← (Reference.tryFrom "ingress_envelope_ref" ingressEnvelope).mapError .invalidProductReference
  .ok ⟨context.coordinates, event, envelope, outcome, committedAt⟩

def staleReason : Contract.StaleReason → ApplicationStaleReason
  | .generationStale => .generationStale
  | .fenceEpochStale => .fenceEpochStale
  | .deviceSequenceStale => .deviceSequenceStale

def applicationRejection : Contract.RejectedReason → ApplicationRejectionReason
  | .notAccepted => .notAccepted
  | .schemaRejected => .schemaRejected
  | .protocolViolation => .protocolViolation

def mapReceipt (context : MappingContext) (event : EventRef) :
    Contract.ReceiptedPayload → Except MappingError ApplicationReceiptObservation
  | .committedPayload fields => do
    context.requireDevice fields.deviceId
    let accepted ← lineage fields.authorizationReceiptId fields.desiredGeneration
    receipt context event fields.ingressEnvelopeId (.committed accepted) fields.committedAt
  | .duplicatePayload fields => do
    context.requireDevice fields.deviceId
    let accepted ← lineage fields.authorizationReceiptId fields.desiredGeneration
    receipt context event fields.ingressEnvelopeId (.duplicate accepted) fields.committedAt
  | .stalePayload fields reason => do
    context.requireDevice fields.deviceId
    let accepted ← lineage fields.authorizationReceiptId fields.desiredGeneration
    receipt context event fields.ingressEnvelopeId (.stale accepted (staleReason reason)) fields.committedAt
  | .rejectedPayload deviceId ingressEnvelopeId reason committedAt => do
    context.requireDevice deviceId
    receipt context event ingressEnvelopeId (.rejected (applicationRejection reason)) committedAt

end RssIncubator.Product
