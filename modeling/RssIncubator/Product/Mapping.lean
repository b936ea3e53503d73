import RssIncubator.Agent.Types
import Mathlib.Data.PNat.Notation
import Mathlib.Data.PNat.Defs

/-!
# Facts of the device in the product model (`wire.rs`, `rss-device-security-client`, `rotation-model`)

The device encodes an acknowledgement or a report into a payload of the public contracts, and the product maps the
payload it has decoded into a model with rules of its own.  The contracts themselves are not part of the repository:
`Contracts` has what their identifiers and digests accept and their JSON form.

Values of `u64` and `i64` are naturals and integers, `NonZeroU64` is `ℕ+`.
-/

namespace RssIncubator.Product

open Agent

/-! ### The product model -/

inductive RotationModelError where
  | emptyReference (kind : String)
  | controlCharacter (kind : String)
  | zeroGeneration
  | zeroFenceEpoch
  deriving DecidableEq

/-- `char::is_whitespace`: the property `White_Space`. -/
def isWhitespace (c : Char) : Bool :=
  (0x09 ≤ c.toNat && c.toNat ≤ 0x0D) || c.toNat = 0x20 || c.toNat = 0x85 || c.toNat = 0xA0 || c.toNat = 0x1680 ||
    (0x2000 ≤ c.toNat && c.toNat ≤ 0x200A) || c.toNat = 0x2028 || c.toNat = 0x2029 || c.toNat = 0x202F ||
    c.toNat = 0x205F || c.toNat = 0x3000

/-- Nothing is left of the text once it is trimmed. -/
def blank (value : String) : Bool := value.toList.all isWhitespace

def validateReference (value kind : String) : Except RotationModelError Unit :=
  if blank value then .error (.emptyReference kind)
  else if value.toList.any isControl then .error (.controlCharacter kind)
  else .ok ()

/-- The opaque references, one type for each kind. -/
structure Reference (kind : String) where
  expose : String
  valid : validateReference expose kind = .ok ()
  deriving DecidableEq

def Reference.tryFrom (kind value : String) : Except RotationModelError (Reference kind) :=
  match h : validateReference value kind with
  | .ok () => .ok ⟨value, h⟩
  | .error e => .error e

abbrev RotationId := Reference "rotation_id"
abbrev TenantRef := Reference "tenant_ref"
abbrev DeviceRef := Reference "device_ref"
abbrev CommandRef := Reference "command_ref"
abbrev EventRef := Reference "event_ref"
abbrev StateHash := Reference "state_hash"
abbrev ArtifactDigest := Reference "artifact_digest"

/-- `NonZeroU64::new`. -/
def nonZero (value : ℕ) : Option ℕ+ := if h : 0 < value then some ⟨value, h⟩ else none

/-- `Generation::try_from`. -/
def generation (value : ℕ) : Except RotationModelError ℕ+ := (nonZero value).elim (.error .zeroGeneration) .ok

/-- `FenceEpoch::try_from`. -/
def fenceEpoch (value : ℕ) : Except RotationModelError ℕ+ := (nonZero value).elim (.error .zeroFenceEpoch) .ok

structure RotationCoordinates where
  rotationId : RotationId
  tenant : TenantRef
  device : DeviceRef
  deriving DecidableEq

inductive CommandRejectionReason where
  | artifactUnavailable
  | artifactDigestMismatch
  | policyRejected
  | generationStale
  | fenceEpochStale
  | malformedCommand
  | deviceFailure
  deriving DecidableEq

inductive CommandAcknowledgementOutcome where
  | received
  | rejected (reason : CommandRejectionReason)
  deriving DecidableEq

structure CommandAckPosition where
  desiredGeneration : ℕ+
  fenceEpoch : ℕ+
  deviceSequence : ℕ
  observedAt : ℤ
  deriving DecidableEq

structure CommandAcknowledgement where
  coordinates : RotationCoordinates
  event : EventRef
  command : CommandRef
  position : CommandAckPosition
  outcome : CommandAcknowledgementOutcome
  deriving DecidableEq

structure ReportPosition where
  observedGeneration : ℕ+
  fenceEpoch : ℕ+
  deviceSequence : ℕ
  observedAt : ℤ
  deriving DecidableEq

structure CredentialReport where
  coordinates : RotationCoordinates
  event : EventRef
  position : ReportPosition
  stateHash : StateHash
  artifactDigest : ArtifactDigest
  expiresAt : Option ℤ
  deriving DecidableEq

/-! ### The payloads of the contracts -/

inductive ReceivedReason where
  | none
  deriving DecidableEq

inductive ReceivedResult where
  | received
  deriving DecidableEq

inductive RejectedReason where
  | artifactUnavailable
  | artifactDigestMismatch
  | policyRejected
  | generationStale
  | fenceEpochStale
  | malformedCommand
  | deviceFailure
  deriving DecidableEq

inductive RejectedResult where
  | rejected
  deriving DecidableEq

/-- `IdentityDeviceCommandAckedReceivedPayload`, and with the other reasons and results
`IdentityDeviceCommandAckedRejectedPayload`. -/
structure AckedFields (Reason Result : Type) where
  commandId : String
  desiredGeneration : ℕ+
  deviceId : Uuid
  deviceSequence : ℤ
  fenceEpoch : ℕ+
  observedAt : ℤ
  reason : Reason
  result : Result
  deriving DecidableEq

/-- `IdentityDeviceCommandAckedPayload`. -/
inductive AckedPayload where
  | receivedPayload (payload : AckedFields ReceivedReason ReceivedResult)
  | rejectedPayload (payload : AckedFields RejectedReason RejectedResult)
  deriving DecidableEq

/-- `IdentityDeviceCertificateReportedPayload`. -/
structure ReportedPayload where
  artifactDigest : String
  deviceId : Uuid
  deviceSequence : ℤ
  expiresAt : Option ℤ
  fenceEpoch : ℕ+
  observedAt : ℤ
  observedGeneration : ℕ+
  stateHash : String
  deriving DecidableEq

/-- The contract crate: what its newtypes accept, and its payloads in JSON. -/
structure Contracts (Text : Type) where
  receivedCommandId : String → Bool
  rejectedCommandId : String → Bool
  reportedStateHash : String → Bool
  reportedArtifactDigest : String → Bool
  ackedToVec : AckedPayload → Option Text
  ackedFromSlice : Text → Option AckedPayload
  reportedToVec : ReportedPayload → Option Text
  reportedFromSlice : Text → Option ReportedPayload

/-! ### The encoder of the device -/

section Encoder

variable {Text : Type} (contracts : Contracts Text)

/-- `i64::try_from` of a `u64`. -/
def signed (value : ℕ) : Option ℤ := if value ≤ i64Max then some value else none

theorem signed_eq_some {value : ℕ} {z : ℤ} : signed value = some z ↔ value ≤ i64Max ∧ z = value := by
  unfold signed
  by_cases h : value ≤ i64Max <;> simp [h, eq_comm]

/-- `try_from` of a newtype over a text. -/
def accepted (accepts : String → Bool) (value : String) : Option String := if accepts value then some value else none

def rejectionReason : CommandRejection → RejectedReason
  | .artifactUnavailable => .artifactUnavailable
  | .artifactDigestMismatch => .artifactDigestMismatch
  | .policyRejected => .policyRejected
  | .generationStale => .generationStale
  | .fenceEpochStale => .fenceEpochStale
  | .malformedCommand => .malformedCommand
  | .deviceFailure => .deviceFailure

def encodeAck (identity : DeviceIdentity) (fact : AckFact) : Option Text := do
  let desiredGeneration ← nonZero fact.desiredGeneration
  let fenceEpoch ← nonZero fact.fenceEpoch
  let deviceSequence ← signed fact.deviceSequence
  let payload ← match fact.rejection with
    | none => do
      let commandId ← accepted contracts.receivedCommandId fact.commandId
      some (.receivedPayload ⟨commandId, desiredGeneration, identity.device, deviceSequence, fenceEpoch, fact.observedAt,
        .none, .received⟩)
    | some rejection => do
      let commandId ← accepted contracts.rejectedCommandId fact.commandId
      some (.rejectedPayload ⟨commandId, desiredGeneration, identity.device, deviceSequence, fenceEpoch, fact.observedAt,
        rejectionReason rejection, .rejected⟩)
  contracts.ackedToVec payload

def encodeReport (identity : DeviceIdentity) (fact : ReportFact) : Option Text := do
  let artifactDigest ← accepted contracts.reportedArtifactDigest fact.artifactDigest
  let deviceSequence ← signed fact.deviceSequence
  let fenceEpoch ← nonZero fact.fenceEpoch
  let observedGeneration ← nonZero fact.observedGeneration
  let stateHash ← accepted contracts.reportedStateHash fact.stateHash
  contracts.reportedToVec ⟨artifactDigest, identity.device, deviceSequence, fact.expiresAt, fenceEpoch, fact.observedAt,
    observedGeneration, stateHash⟩

def encodeOutbound (identity : DeviceIdentity) : OutboundFact → Option Text
  | .commandAcknowledged _ payload => encodeAck contracts identity payload
  | .certificateReported _ payload => encodeReport contracts identity payload

end Encoder

/-! ### The mapper of the product -/

inductive MappingError where
  | deviceMismatch (expected actual : Uuid)
  | negativeDeviceSequence (value : ℤ)
  | invalidProductReference (error : RotationModelError)
  deriving DecidableEq

structure MappingContext where
  coordinates : RotationCoordinates
  expectedDeviceId : Uuid

def MappingContext.requireDevice (context : MappingContext) (actual : Uuid) : Except MappingError Unit :=
  if actual = context.expectedDeviceId then .ok () else .error (.deviceMismatch context.expectedDeviceId actual)

def sequence (value : ℤ) : Except MappingError ℕ :=
  if 0 ≤ value then .ok value.toNat else .error (.negativeDeviceSequence value)

/-- The common part of the two branches. -/
def ack {Reason Result : Type} (context : MappingContext) (event : EventRef) (payload : AckedFields Reason Result)
    (outcome : CommandAcknowledgementOutcome) : Except MappingError CommandAcknowledgement := do
  let command ← (Reference.tryFrom "command_ref" payload.commandId).mapError .invalidProductReference
  let desiredGeneration ← (generation payload.desiredGeneration).mapError .invalidProductReference
  let fence ← (fenceEpoch payload.fenceEpoch).mapError .invalidProductReference
  let deviceSequence ← sequence payload.deviceSequence
  .ok ⟨context.coordinates, event, command, ⟨desiredGeneration, fence, deviceSequence, payload.observedAt⟩, outcome⟩

def productReason : RejectedReason → CommandRejectionReason
  | .artifactUnavailable => .artifactUnavailable
  | .artifactDigestMismatch => .artifactDigestMismatch
  | .policyRejected => .policyRejected
  | .generationStale => .generationStale
  | .fenceEpochStale => .fenceEpochStale
  | .malformedCommand => .malformedCommand
  | .deviceFailure => .deviceFailure

def mapAcknowledgement (context : MappingContext) (event : EventRef) : AckedPayload → Except MappingError CommandAcknowledgement
  | .receivedPayload payload => do
    context.requireDevice payload.deviceId
    let outcome := match payload.result, payload.reason with
      | .received, .none => CommandAcknowledgementOutcome.received
    ack context event payload outcome
  | .rejectedPayload payload => do
    context.requireDevice payload.deviceId
    let outcome := match payload.result with
      | .rejected => CommandAcknowledgementOutcome.rejected (productReason payload.reason)
    ack context event payload outcome

def mapReport (context : MappingContext) (event : EventRef) (payload : ReportedPayload) : Except MappingError CredentialReport := do
  context.requireDevice payload.deviceId
  let observedGeneration ← (generation payload.observedGeneration).mapError .invalidProductReference
  let fence ← (fenceEpoch payload.fenceEpoch).mapError .invalidProductReference
  let deviceSequence ← sequence payload.deviceSequence
  let stateHash ← (Reference.tryFrom "state_hash" payload.stateHash).mapError .invalidProductReference
  let artifactDigest ← (Reference.tryFrom "artifact_digest" payload.artifactDigest).mapError .invalidProductReference
  .ok ⟨context.coordinates, event, ⟨observedGeneration, fence, deviceSequence, payload.observedAt⟩, stateHash, artifactDigest,
    payload.expiresAt⟩

end RssIncubator.Product
