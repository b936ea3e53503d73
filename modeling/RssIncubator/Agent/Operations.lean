import RssIncubator.Agent.Store

/-!
# The operations of the agent (`agent.rs`)

An operation works on the state directory and on the state in memory.  The disk comes first: the state
in memory changes only after the new document has been persisted.
-/

namespace RssIncubator.Agent

open Lib Prog

inductive AgentError where
  | store (error : StoreError)
  | credential (error : CredentialError)
  | initialArtifactUnavailable
  | unknownOutbound
  | unexpectedReconnect
  | unexpectedDelivery
  | rotationInFlight
  deriving DecidableEq

/-- What an operation works on. -/
structure World where
  tree : Disk
  state : StateV1

abbrev AgentProg := Prog World AgentError

/-- Run a program of the store. -/
def onDisk {α : Type} (x : StoreProg α) : AgentProg α :=
  zoom World.tree (fun tree w => { w with tree := tree }) (mapErr .store x)

/-- The result of a check of the document. -/
def checked {α : Type} (x : Except StoreError α) : AgentProg α := ofExcept (x.mapError .store)

/-- The state in memory. -/
def current : AgentProg StateV1 := fun w => (.ok w.state, w)

/-! ### Fingerprints -/

def commandPreimage (c : DeviceCommand) : Bytes :=
  utf8 "rss.reference-device-agent.command.v1\x00" ++
    [c.commandId.expose, c.artifactId.expose, c.artifactDigest.expose, c.intentDigest.expose,
      c.policyHash.expose].flatMap (fun value => utf8 value ++ [0]) ++
    c.deviceId.bytes ++ c.authorizationReceiptId.bytes ++
    [c.deadlineEpochSeconds.1, c.desiredGeneration.1, c.fenceEpoch.1].flatMap beBytes

def commandFingerprint (c : DeviceCommand) : String := digestText (commandPreimage c)

def malformedPreimage (topic commandId : String) (payload : Bytes) : Bytes :=
  utf8 "rss.reference-device-agent.malformed-command.v1\x00" ++ utf8 topic ++ [0] ++ utf8 commandId ++ [0] ++
    sha256 payload

def malformedFingerprint (topic commandId : String) (payload : Bytes) : String :=
  digestText (malformedPreimage topic commandId payload)

def catalogRejection : CatalogError → CommandRejection
  | .notFound | .unavailable => .artifactUnavailable
  | .digestMismatch => .artifactDigestMismatch
  | .bindingMismatch | .revoked => .policyRejected
  | .credential .untrusted | .credential .identityMismatch => .policyRejected
  | .malformed => .malformedCommand
  | .credential .unavailable | .credential .malformed | .credential .insecurePrivateKey => .deviceFailure

/-! ### Operations -/

section Operations

variable (pki : Pki) (retention : NonZeroU32) (faults : Faults)

def retentionDeadline (observedAt : ℤ) : ℕ := saturatingAdd (unsigned observedAt) retention.1

def persistCandidate (candidate : StateV1) : AgentProg Unit := do
  checked candidate.validate
  onDisk (persist faults candidate)
  update fun w => { w with state := candidate }

def commit (command : DeviceCommand) (fingerprint : String) (artifact : ResolvedArtifact) (observedAt : ℤ) :
    AgentProg ApplyOutcome := do
  let s ← current
  let candidate := s.expireCommandJournal (unsigned observedAt)
  checked (candidate.reserveOutbox 2)
  checked candidate.reserveCommandJournal
  let revision ← checked candidate.nextRevision
  onDisk (installRevision faults revision.1 artifact.credential)
  let candidate ← checked (candidate.accept {
    commandId := command.commandId.expose
    fingerprint := fingerprint
    generation := command.desiredGeneration.1
    fence := command.fenceEpoch.1
    credentialGeneration := artifact.credentialGeneration.1
    revision := revision.1
    artifactDigest := artifact.digest.expose
    expiresAt := artifact.credential.expiresAt
    observedAt := observedAt
    retainUntilEpochSeconds := retentionDeadline retention observedAt })
  persistCandidate faults candidate
  pure .accepted

def persistRejection (command : DeviceCommand) (fingerprint : String) (rejection : CommandRejection)
    (observedAt : ℤ) : AgentProg ApplyOutcome := do
  let s ← current
  let candidate := s.expireCommandJournal (unsigned observedAt)
  checked (candidate.reserveOutbox 1)
  checked candidate.reserveCommandJournal
  persistCandidate faults (candidate.reject {
    commandId := command.commandId.expose
    fingerprint := fingerprint
    generation := command.desiredGeneration.1
    fence := command.fenceEpoch.1
    rejection := rejection
    observedAt := observedAt
    retainUntilEpochSeconds := retentionDeadline retention observedAt })
  pure (.rejected rejection)

def persistRawRejection (commandId fingerprint : String) (now : ℕ) : AgentProg ApplyOutcome := do
  let s ← current
  let candidate := s.expireCommandJournal now
  checked (candidate.reserveOutbox 1)
  checked candidate.reserveCommandJournal
  persistCandidate faults (candidate.reject {
    commandId := commandId
    fingerprint := fingerprint
    generation := s.current.desiredGeneration
    fence := s.current.fenceEpoch
    rejection := .malformedCommand
    observedAt := observedAt now
    retainUntilEpochSeconds := retentionDeadline retention (observedAt now) })
  pure (.rejected .malformedCommand)

/-- The same payload again: its acknowledgement is queued unless one is outstanding. -/
def replay (commandId fingerprint : String) : AgentProg ApplyOutcome := do
  let s ← current
  if ¬ s.hasCommandAck commandId then
    checked (s.reserveOutbox 1)
    let candidate ← checked (s.replayCommand commandId fingerprint)
    persistCandidate faults candidate
    pure .duplicate
  else pure .duplicate

/-- Another payload under a journalled command: it is rejected once. -/
def conflict (commandId fingerprint : String) (generation fence : ℕ) (observedAt : ℤ) :
    AgentProg ApplyOutcome := do
  let s ← current
  if s.hasConflictingReplay commandId fingerprint then pure (.rejected .malformedCommand)
  else
    checked (s.reserveOutbox 1)
    persistCandidate faults (s.rejectConflictingReplay commandId fingerprint generation fence observedAt)
    pure (.rejected .malformedCommand)

/-- The checks of a command that is not in the journal, in their order. -/
def evaluate (topic : String) (command : DeviceCommand) (fingerprint : String) (now : ℕ)
    (catalog : ArtifactCatalog) : AgentProg ApplyOutcome := do
  let s ← current
  if s.rotationInFlight then fail .rotationInFlight
  else
    let identity ← checked s.currentIdentity
    let rejectAs := fun rejection =>
      persistRejection retention faults command fingerprint rejection (observedAt now)
    if topic ≠ identity.commandTopic ∨ command.deviceId ≠ identity.device then rejectAs .malformedCommand
    else if command.deadlineEpochSeconds.1 ≤ now then rejectAs .policyRejected
    else match catalog.resolve pki identity command now with
      | .error error => rejectAs (catalogRejection error)
      | .ok artifact =>
        if command.fenceEpoch.1 < s.current.fenceEpoch then rejectAs .fenceEpochStale
        else if command.desiredGeneration.1 < s.current.desiredGeneration then rejectAs .generationStale
        else if command.desiredGeneration.1 = s.current.desiredGeneration ∨
            artifact.credentialGeneration.1 ≤ s.identity.credentialGeneration then
          rejectAs .malformedCommand
        else commit retention faults command fingerprint artifact (observedAt now)

def applyCommand (topic : String) (command : DeviceCommand) (now : ℕ) (catalog : ArtifactCatalog) :
    AgentProg ApplyOutcome := do
  let s ← current
  let fingerprint := commandFingerprint command
  match s.commandMatch command.commandId.expose fingerprint now with
  | some true => replay faults command.commandId.expose fingerprint
  | some false =>
    conflict faults command.commandId.expose fingerprint command.desiredGeneration.1 command.fenceEpoch.1
      (observedAt now)
  | none => evaluate pki retention faults topic command fingerprint now catalog

def rejectMalformedDelivery (topic commandId : String) (payload : Bytes) (now : ℕ) : AgentProg ApplyOutcome := do
  let s ← current
  let identity ← checked s.currentIdentity
  if topic ≠ identity.commandTopic ∧ s.pendingInbound.map (·.topic) ≠ some topic then fail .unexpectedDelivery
  else
    let fingerprint := malformedFingerprint topic commandId payload
    match s.commandMatch commandId fingerprint now with
    | some true => replay faults commandId fingerprint
    | some false =>
      conflict faults commandId fingerprint s.current.desiredGeneration s.current.fenceEpoch (observedAt now)
    | none => persistRawRejection retention faults commandId fingerprint now

/-- Persist the candidate of a change that may not apply. -/
def persistChange (change : StateV1 → Option StateV1) (error : AgentError) : AgentProg Unit := do
  let s ← current
  match change s with
  | none => fail error
  | some candidate => persistCandidate faults candidate

def confirmOutbound (event : String) : AgentProg Unit :=
  persistChange faults (·.confirmOutbound event) .unknownOutbound

def markCurrentCredentialConnected (revision : NonZeroU64) : AgentProg Unit :=
  persistChange faults (·.markReconnected revision.1) .unexpectedReconnect

def persistInboundSettlement (token : Option String) : AgentProg Unit :=
  persistChange faults (·.markInboundSettled token) .unexpectedDelivery

def markPendingInboundSettled (token : String) : AgentProg Unit := persistInboundSettlement faults (some token)

def markPendingInboundAbsent : AgentProg Unit := persistInboundSettlement faults none

end Operations

/-! ### Opening -/

/-- What the bootstrap credential files hold when the agent is opened. -/
structure CredentialFiles where
  keyMode : Option ℕ
  file : MaterialFile → Option Bytes

structure AgentConfig where
  identity : DeviceIdentity
  initialPosition : InstalledCredentialPosition
  initialCredentials : CredentialFiles
  commandRetentionSeconds : NonZeroU32

def requirePrivateKeyMode (mode : Option ℕ) : Except CredentialError Unit :=
  match mode with
  | none => .error .unavailable
  | some mode => if mode &&& 0o077 = 0 then .ok () else .error .insecurePrivateKey

/-- The bytes of a credential file. -/
def Content.asBytes : Content → Option Bytes
  | .bytes b => some b
  | _ => none

section Opening

variable (pki : Pki) (faults : Faults)

/-- `validate_credential` on the bootstrap files. -/
def CredentialFiles.validate (files : CredentialFiles) (identity : DeviceIdentity) (now : ℕ) :
    Except CredentialError ValidatedCredential := do
  requirePrivateKeyMode files.keyMode
  let ca ← ((files.file .ca).elim (.error .unavailable) .ok : Except CredentialError Bytes)
  let certificate ← ((files.file .certificate).elim (.error .unavailable) .ok : Except CredentialError Bytes)
  let privateKey ← ((files.file .privateKey).elim (.error .unavailable) .ok : Except CredentialError Bytes)
  validateCredentialBytes pki ca certificate privateKey identity now

/-- `compute_artifact_digest` on the bootstrap files. -/
def CredentialFiles.digest (files : CredentialFiles) : Except AgentError Sha256Digest :=
  match files.file .ca, files.file .certificate, files.file .privateKey with
  | some ca, some certificate, some privateKey => .ok (computeArtifactDigestBytes ca certificate privateKey)
  | _, _, _ => .error .initialArtifactUnavailable

/-- Read one file of a revision. -/
def readMaterial {ε : Type} (e : ε) (v : Verdict) (root : Path) (f : MaterialFile) : Prog Disk ε Bytes := do
  match (← mapErr (fun _ => e) (readFile v (root ++ [f.name]))).asBytes with
  | some b => pure b
  | none => fail e

/-- `validate_credential` on a revision. -/
def validateRevision (root : Path) (identity : DeviceIdentity) (now : ℕ) :
    Prog Disk CredentialError ValidatedCredential := do
  let mode ← mapErr (fun _ => .unavailable) (fileMode (faults .keyMode) (root ++ [MaterialFile.privateKey.name]))
  ofExcept (requirePrivateKeyMode (some mode))
  let ca ← readMaterial .unavailable (faults (.material .ca)) root .ca
  let certificate ← readMaterial .unavailable (faults (.material .certificate)) root .certificate
  let privateKey ← readMaterial .unavailable (faults (.material .privateKey)) root .privateKey
  ofExcept (validateCredentialBytes pki ca certificate privateKey identity now)

/-- `compute_artifact_digest` on a revision. -/
def digestRevision (root : Path) : Prog Disk AgentError Sha256Digest := do
  let ca ← readMaterial .initialArtifactUnavailable (faults (.digest .ca)) root .ca
  let certificate ← readMaterial .initialArtifactUnavailable (faults (.digest .certificate)) root .certificate
  let privateKey ← readMaterial .initialArtifactUnavailable (faults (.digest .privateKey)) root .privateKey
  pure (computeArtifactDigestBytes ca certificate privateKey)

/-- `ReferenceDeviceAgent::open`, on a directory whose lock may be held; it yields the state in memory. -/
def openAgent (held : Bool) (config : AgentConfig) (now : ℕ) : Prog Disk AgentError StateV1 := do
  if ← pathExists (faults .stateExists) statePath then
    let s ← mapErr .store (load faults held config.identity)
    let identity ← mapErr .store (ofExcept s.currentIdentity)
    let root := revisionRoot s.current.credentialRevision
    let _ ← mapErr .credential (validateRevision pki faults root identity now)
    let digest ← digestRevision faults root
    if digest.expose ≠ s.current.artifactDigest then fail (.store .invalidState) else pure s
  else
    let initial ← ofExcept ((config.initialCredentials.validate pki config.identity now).mapError .credential)
    let digest ← ofExcept config.initialCredentials.digest
    mapErr .store (openOrInitialize faults held config.identity config.initialPosition initial digest)

end Opening

end RssIncubator.Agent
