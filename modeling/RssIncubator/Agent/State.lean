import RssIncubator.Agent.Types

/-!
# The durable state of the agent (`state.rs`)

The version-1 document, the checks it must pass before it is written or used, and the operations that
turn one document into the next.  The `&mut self` methods of the source return the new document; the
ones that answer `false` without a change return `none`.
-/

namespace RssIncubator.Agent

open Lib

inductive StoreError where
  | unavailable
  | invalidState
  | outboxFull
  | revisionConflict
  | alreadyOpen
  | commandJournalFull
  deriving DecidableEq

def outboxLimit : ℕ := 128

def commandJournalLimit : ℕ := 1024

/-! ### The document -/

structure StoredIdentity where
  tenantId : Uuid
  deviceId : Uuid
  credentialGeneration : ℕ
  deriving DecidableEq

structure StoredCurrent where
  desiredGeneration : ℕ
  fenceEpoch : ℕ
  credentialRevision : ℕ
  artifactDigest : String
  expiresAt : ℤ
  deriving DecidableEq

/-- A recorded acknowledgement; the stored rejections are those of the public contract. -/
structure StoredAck where
  commandId : String
  eventCause : String
  desiredGeneration : ℕ
  fenceEpoch : ℕ
  deviceSequence : ℕ
  observedAt : ℤ
  rejection : Option CommandRejection
  activatesRevision : Option ℕ
  settledReplay : Bool
  deriving DecidableEq

structure StoredReport where
  commandId : String
  observedGeneration : ℕ
  fenceEpoch : ℕ
  deviceSequence : ℕ
  observedAt : ℤ
  stateHash : String
  artifactDigest : String
  expiresAt : Option ℤ
  credentialGeneration : ℕ
  credentialRevision : ℕ
  deriving DecidableEq

structure StoredCommand where
  commandId : String
  fingerprint : String
  acknowledgement : StoredAck
  retainUntilEpochSeconds : ℕ
  deriving DecidableEq

inductive StoredOutbound where
  | ack (eventId : String) (payload : StoredAck)
  | reportBlocked (eventId : String) (payload : StoredReport)
  | reportReady (eventId : String) (payload : StoredReport)
  deriving DecidableEq

structure StoredInboundSettlement where
  topic : String
  commandId : String
  fingerprint : String
  credentialGeneration : ℕ
  settlementToken : String
  settled : Bool
  deriving DecidableEq

structure StateV1 where
  schemaVersion : ℕ
  identity : StoredIdentity
  current : StoredCurrent
  deviceSequence : ℕ
  commandJournal : List StoredCommand
  outbox : List StoredOutbound
  reconnectRevision : Option ℕ
  pendingInbound : Option StoredInboundSettlement
  deriving DecidableEq

/-! ### Event identities and hashes -/

/-- The kinds of event the agent derives identities for. -/
inductive EventKind where
  | ack
  | report
  | rejected
  | settlement
  deriving DecidableEq

def EventKind.text : EventKind → String
  | .ack => "ack"
  | .report => "report"
  | .rejected => "rejected"
  | .settlement => "settlement"

/-- What is hashed for an event. -/
def eventPreimage (kind : EventKind) (commandId : String) : Bytes :=
  utf8 "rss.reference-device-agent.event.v1\x00" ++ utf8 kind.text ++ [0] ++ utf8 commandId

def eventId (kind : EventKind) (commandId : String) : String :=
  "reference-" ++ kind.text ++ "-" ++ hex (sha256 (eventPreimage kind commandId))

def settlementToken (topic commandId fingerprint : String) : String :=
  eventId .settlement (topic ++ "\x00" ++ commandId ++ "\x00" ++ fingerprint)

/-- The event source of the rejection of a conflicting replay. -/
def conflictSource (commandId fingerprint : String) : String := commandId ++ "\x00" ++ fingerprint

def stateHash (tenant device : Uuid) (credentialGeneration desiredGeneration fence revision : ℕ)
    (artifactDigest : String) : String :=
  digestText (utf8 "rss.reference-device-agent.state.v1\x00" ++ tenant.bytes ++ device.bytes ++
    [credentialGeneration, desiredGeneration, fence, revision].flatMap beBytes ++ utf8 artifactDigest)

/-! ### Entries -/

/-- The three admissible combinations of rejection, activation and replay. -/
def StoredAck.Shape (a : StoredAck) : Prop :=
  match a.rejection, a.activatesRevision, a.settledReplay with
  | some _, none, false => True
  | none, some _, false => True
  | none, none, true => True
  | _, _, _ => False

instance (a : StoredAck) : Decidable a.Shape := by unfold StoredAck.Shape; split <;> infer_instance

def StoredAck.SemanticValid (a : StoredAck) : Prop :=
  a.commandId ≠ "" ∧ a.eventCause ≠ "" ∧ 0 < a.desiredGeneration ∧ 0 < a.fenceEpoch ∧
    0 < a.deviceSequence ∧ 0 ≤ a.observedAt ∧ (∀ revision ∈ a.activatesRevision, 0 < revision) ∧ a.Shape

instance (a : StoredAck) : Decidable a.SemanticValid := inferInstanceAs (Decidable (_ ∧ _))

def StoredAck.toFact (a : StoredAck) : AckFact :=
  ⟨a.commandId, a.desiredGeneration, a.fenceEpoch, a.deviceSequence, a.observedAt, a.rejection⟩

def StoredReport.SemanticValid (r : StoredReport) : Prop :=
  r.commandId ≠ "" ∧ 0 < r.observedGeneration ∧ 0 < r.fenceEpoch ∧ 0 < r.deviceSequence ∧
    0 ≤ r.observedAt ∧ (∃ expiresAt ∈ r.expiresAt, 0 < expiresAt) ∧ 0 < r.credentialGeneration ∧
    0 < r.credentialRevision ∧ validDigest r.artifactDigest ∧ validDigest r.stateHash

instance (r : StoredReport) : Decidable r.SemanticValid := inferInstanceAs (Decidable (_ ∧ _))

def StoredReport.toFact (r : StoredReport) : ReportFact :=
  ⟨r.observedGeneration, r.fenceEpoch, r.deviceSequence, r.observedAt, r.stateHash, r.artifactDigest, r.expiresAt⟩

def StoredCommand.SemanticValid (c : StoredCommand) : Prop :=
  c.commandId = c.acknowledgement.commandId ∧ c.commandId ≠ "" ∧ validDigest c.fingerprint ∧
    c.acknowledgement.SemanticValid ∧ 0 < c.retainUntilEpochSeconds

instance (c : StoredCommand) : Decidable c.SemanticValid := inferInstanceAs (Decidable (_ ∧ _))

namespace StoredOutbound

def eventId : StoredOutbound → String
  | .ack e _ | .reportBlocked e _ | .reportReady e _ => e

def readyFact : StoredOutbound → Option OutboundFact
  | .ack e payload => some (.commandAcknowledged e payload.toFact)
  | .reportReady e payload => some (.certificateReported e payload.toFact)
  | .reportBlocked _ _ => none

def sequence : StoredOutbound → ℕ
  | .ack _ payload => payload.deviceSequence
  | .reportBlocked _ payload | .reportReady _ payload => payload.deviceSequence

/-- The event identity an acknowledgement must carry. -/
def ackEvent (payload : StoredAck) : String :=
  Agent.eventId (if payload.eventCause = payload.commandId then .ack else .rejected) payload.eventCause

def SemanticValid : StoredOutbound → Prop
  | .ack e payload => e = ackEvent payload ∧ payload.SemanticValid
  | .reportBlocked e payload | .reportReady e payload =>
    e = Agent.eventId .report payload.commandId ∧ payload.SemanticValid

instance : (o : StoredOutbound) → Decidable o.SemanticValid
  | .ack _ _ => inferInstanceAs (Decidable (_ ∧ _))
  | .reportBlocked _ _ => inferInstanceAs (Decidable (_ ∧ _))
  | .reportReady _ _ => inferInstanceAs (Decidable (_ ∧ _))

def reportPayload : StoredOutbound → Option StoredReport
  | .reportBlocked _ payload | .reportReady _ payload => some payload
  | .ack _ _ => none

def isReportReady : StoredOutbound → Bool
  | .reportReady _ _ => true
  | _ => false

/-- The payload of an acknowledgement. -/
def ackPayload : StoredOutbound → Option StoredAck
  | .ack _ payload => some payload
  | _ => none

/-- The payload of a report that waits for its acknowledgement and for the new session. -/
def blockedPayload : StoredOutbound → Option StoredReport
  | .reportBlocked _ payload => some payload
  | _ => none

end StoredOutbound

/-! ### The checks -/

/-- Fail with `InvalidState` unless the condition holds. -/
def require (p : Prop) [Decidable p] : Except StoreError Unit := if p then .ok () else .error .invalidState

namespace StateV1

def CoordinatesValid (s : StateV1) (identity : DeviceIdentity) : Prop :=
  s.schemaVersion = 1 ∧ s.identity.tenantId = identity.tenant ∧ s.identity.deviceId = identity.device ∧
    0 < s.identity.credentialGeneration ∧ 0 < s.current.desiredGeneration ∧ 0 < s.current.fenceEpoch ∧
    0 < s.current.credentialRevision ∧ 0 < s.current.expiresAt ∧ validDigest s.current.artifactDigest ∧
    s.outbox.length ≤ outboxLimit ∧ s.commandJournal.length ≤ commandJournalLimit

instance (s : StateV1) (identity : DeviceIdentity) : Decidable (s.CoordinatesValid identity) :=
  inferInstanceAs (Decidable (_ ∧ _))

/-- A report describes the installed credential. -/
def ReportCurrent (s : StateV1) (report : StoredReport) : Prop :=
  report.stateHash = stateHash s.identity.tenantId s.identity.deviceId report.credentialGeneration
      report.observedGeneration report.fenceEpoch report.credentialRevision report.artifactDigest ∧
    report.credentialRevision = s.current.credentialRevision ∧
    report.observedGeneration = s.current.desiredGeneration ∧ report.fenceEpoch = s.current.fenceEpoch ∧
    report.artifactDigest = s.current.artifactDigest

instance (s : StateV1) (report : StoredReport) : Decidable (s.ReportCurrent report) :=
  inferInstanceAs (Decidable (_ ∧ _))

/-- The loop over the outbox, with the event identities and sequences inserted so far. -/
def verifyOutbox (s : StateV1) : List String → List ℕ → List StoredOutbound → Except StoreError Unit
  | _, _, [] => .ok ()
  | eventIds, sequences, entry :: rest => do
    require (entry.eventId ∉ eventIds)
    require (¬ (entry.sequence = 0 ∨ s.deviceSequence < entry.sequence ∨ entry.sequence ∈ sequences ∨
      ¬ entry.SemanticValid))
    require (∀ report ∈ entry.reportPayload, s.ReportCurrent report)
    s.verifyOutbox (entry.eventId :: eventIds) (entry.sequence :: sequences) rest

/-- The loop over the command journal, with the command identities inserted so far. -/
def verifyJournal : List String → List StoredCommand → Except StoreError Unit
  | _, [] => .ok ()
  | commandIds, command :: rest => do
    require (command.commandId ∉ commandIds ∧ command.SemanticValid)
    verifyJournal (command.commandId :: commandIds) rest

/-- The check of the pending delivery against the identity it arrived under. -/
def PendingValid (s : StateV1) (pending : StoredInboundSettlement) (identity : DeviceIdentity) : Prop :=
  pending.commandId ≠ "" ∧ validDigest pending.fingerprint ∧ pending.topic = identity.commandTopic ∧
    pending.settlementToken = settlementToken pending.topic pending.commandId pending.fingerprint ∧
    ∃ command ∈ s.commandJournal,
      command.commandId = pending.commandId ∧ command.fingerprint = pending.fingerprint

instance (s : StateV1) (pending : StoredInboundSettlement) (identity : DeviceIdentity) :
    Decidable (s.PendingValid pending identity) := inferInstanceAs (Decidable (_ ∧ _))

def verifyPending (s : StateV1) : Except StoreError Unit :=
  match s.pendingInbound with
  | none => .ok ()
  | some pending => do
    let generation ← (NonZeroU64.tryFrom pending.credentialGeneration).mapError fun _ => .invalidState
    let identity ← (DeviceIdentity.tryNew s.identity.tenantId s.identity.deviceId generation).mapError
      fun _ => .invalidState
    require (s.PendingValid pending identity)

/-- The number of reports in the outbox. -/
def reports (s : StateV1) : ℕ := s.outbox.countP fun entry => entry.reportPayload.isSome

/-- The rules between one outbox entry, the rest of the outbox and the reconnect marker. -/
def PhaseValid (s : StateV1) : StoredOutbound → Prop
  | .ack _ payload => ∀ revision ∈ payload.activatesRevision,
    revision = s.current.credentialRevision ∧
      (∃ entry ∈ s.outbox, ∃ report ∈ entry.blockedPayload,
        report.credentialRevision = revision ∧ report.commandId = payload.commandId) ∧
      s.reconnectRevision = none
  | .reportBlocked _ payload =>
    ¬ ((∃ entry ∈ s.outbox, ∃ ack ∈ entry.ackPayload,
        ack.activatesRevision = some payload.credentialRevision ∧ ack.commandId = payload.commandId) ↔
      s.reconnectRevision.isSome) ∧
    ∀ revision ∈ s.reconnectRevision, revision = payload.credentialRevision
  | .reportReady _ _ => s.reconnectRevision = none

instance (s : StateV1) : (entry : StoredOutbound) → Decidable (s.PhaseValid entry)
  | .ack _ payload => inferInstanceAs (Decidable (∀ revision ∈ payload.activatesRevision, _))
  | .reportBlocked _ _ => inferInstanceAs (Decidable (_ ∧ _))
  | .reportReady _ _ => inferInstanceAs (Decidable (_ = _))

/-- The loop over the phase rules. -/
def verifyPhases (s : StateV1) : List StoredOutbound → Except StoreError Unit
  | [] => .ok ()
  | entry :: rest => do
    require (s.PhaseValid entry)
    s.verifyPhases rest

def verify (s : StateV1) (identity : DeviceIdentity) : Except StoreError Unit := do
  require (s.CoordinatesValid identity)
  s.verifyOutbox [] [] s.outbox
  verifyJournal [] s.commandJournal
  s.verifyPending
  require (s.reports ≤ 1)
  require (s.pendingInbound.isSome = decide (s.reports = 1))
  s.verifyPhases s.outbox
  require (¬ (s.reconnectRevision.isSome ∧ s.reports ≠ 1))
  require (∀ revision ∈ s.reconnectRevision, revision = s.current.credentialRevision)

def currentIdentity (s : StateV1) : Except StoreError DeviceIdentity := do
  let generation ← (NonZeroU64.tryFrom s.identity.credentialGeneration).mapError fun _ => .invalidState
  (DeviceIdentity.tryNew s.identity.tenantId s.identity.deviceId generation).mapError fun _ => .invalidState

def validate (s : StateV1) : Except StoreError Unit := do
  let identity ← s.currentIdentity
  s.verify identity

/-! ### Reading the document -/

def rotationInFlight (s : StateV1) : Bool := s.outbox.any fun entry => entry.reportPayload.isSome

/-- The journalled answer for a command whose retention has not run out: is the payload the same? -/
def commandMatch (s : StateV1) (commandId fingerprint : String) (now : ℕ) : Option Bool :=
  (s.commandJournal.find? fun command =>
    command.commandId = commandId ∧ now < command.retainUntilEpochSeconds).map
      fun command => decide (command.fingerprint = fingerprint)

def pendingSettled (s : StateV1) : Bool := s.pendingInbound.any fun pending => pending.settled

def reserveCommandJournal (s : StateV1) : Except StoreError Unit :=
  if s.commandJournal.length < commandJournalLimit then .ok () else .error .commandJournalFull

def reserveOutbox (s : StateV1) (count : ℕ) : Except StoreError Unit :=
  if s.outbox.length + count ≤ outboxLimit then .ok () else .error .outboxFull

def hasConflictingReplay (s : StateV1) (commandId fingerprint : String) : Bool :=
  s.outbox.any fun entry => entry.eventId = eventId .rejected (conflictSource commandId fingerprint)

def hasCommandAck (s : StateV1) (commandId : String) : Bool :=
  s.outbox.any fun entry => entry.ackPayload.any fun payload => payload.commandId = commandId

def nextOutbound (s : StateV1) : Option OutboundFact :=
  s.outbox.findSome? fun entry => if entry.isReportReady ∧ ¬ s.pendingSettled then none else entry.readyFact

def nextRevision (s : StateV1) : Except StoreError NonZeroU64 :=
  if s.current.credentialRevision + 1 ≤ u64Max then
    (NonZeroU64.tryFrom (s.current.credentialRevision + 1)).mapError fun _ => .invalidState
  else .error .invalidState

/-! ### Operations -/

/-- The document of a freshly provisioned device. -/
def initial (identity : DeviceIdentity) (desiredGeneration fenceEpoch credentialRevision : NonZeroU64)
    (digest : Sha256Digest) (expiresAt : ℤ) : StateV1 where
  schemaVersion := 1
  identity := ⟨identity.tenant, identity.device, identity.credentialGeneration.1⟩
  current := ⟨desiredGeneration.1, fenceEpoch.1, credentialRevision.1, digest.expose, expiresAt⟩
  deviceSequence := 0
  commandJournal := []
  outbox := []
  reconnectRevision := none
  pendingInbound := none

/-- Drop what is past its retention; the pending command stays. -/
def expireCommandJournal (s : StateV1) (now : ℕ) : StateV1 :=
  let pendingCommand := s.pendingInbound.map fun pending => pending.commandId
  { s with commandJournal := s.commandJournal.filter fun command =>
      now < command.retainUntilEpochSeconds ∨ pendingCommand = some command.commandId }

end StateV1

structure AcceptedCommand where
  commandId : String
  fingerprint : String
  generation : ℕ
  fence : ℕ
  credentialGeneration : ℕ
  revision : ℕ
  artifactDigest : String
  expiresAt : ℤ
  observedAt : ℤ
  retainUntilEpochSeconds : ℕ

structure RejectedCommand where
  commandId : String
  fingerprint : String
  generation : ℕ
  fence : ℕ
  rejection : CommandRejection
  observedAt : ℤ
  retainUntilEpochSeconds : ℕ

/-- The acknowledgement of an accepted command. -/
def AcceptedCommand.acknowledgement (c : AcceptedCommand) (sequence : ℕ) : StoredAck where
  commandId := c.commandId
  eventCause := c.commandId
  desiredGeneration := c.generation
  fenceEpoch := c.fence
  deviceSequence := sequence
  observedAt := c.observedAt
  rejection := none
  activatesRevision := some c.revision
  settledReplay := false

/-- The report of an accepted command, for the device it was accepted on. -/
def AcceptedCommand.report (c : AcceptedCommand) (identity : StoredIdentity) (sequence : ℕ) : StoredReport where
  commandId := c.commandId
  observedGeneration := c.generation
  fenceEpoch := c.fence
  deviceSequence := sequence
  observedAt := c.observedAt
  stateHash := stateHash identity.tenantId identity.deviceId c.credentialGeneration c.generation c.fence
    c.revision c.artifactDigest
  artifactDigest := c.artifactDigest
  expiresAt := some c.expiresAt
  credentialGeneration := c.credentialGeneration
  credentialRevision := c.revision

/-- The delivery of an accepted command, pending on the topic of the identity it arrived under. -/
def AcceptedCommand.pending (c : AcceptedCommand) (previous : DeviceIdentity) : StoredInboundSettlement where
  topic := previous.commandTopic
  commandId := c.commandId
  fingerprint := c.fingerprint
  credentialGeneration := previous.credentialGeneration.1
  settlementToken := settlementToken previous.commandTopic c.commandId c.fingerprint
  settled := false

/-- The acknowledgement of a rejected command. -/
def RejectedCommand.acknowledgement (c : RejectedCommand) (sequence : ℕ) : StoredAck where
  commandId := c.commandId
  eventCause := c.commandId
  desiredGeneration := c.generation
  fenceEpoch := c.fence
  deviceSequence := sequence
  observedAt := c.observedAt
  rejection := some c.rejection
  activatesRevision := none
  settledReplay := false

/-- The rejection of a payload that conflicts with a journalled command. -/
def conflictAck (commandId fingerprint : String) (generation fence sequence : ℕ) (observedAt : ℤ) : StoredAck where
  commandId := commandId
  eventCause := conflictSource commandId fingerprint
  desiredGeneration := generation
  fenceEpoch := fence
  deviceSequence := sequence
  observedAt := observedAt
  rejection := some .malformedCommand
  activatesRevision := none
  settledReplay := false

/-- The acknowledgement of a journalled command as it is replayed. -/
def StoredAck.replayed (a : StoredAck) : StoredAck :=
  if a.rejection = none then { a with activatesRevision := none, settledReplay := true } else a

namespace StateV1

/-- The document after an accepted command that arrived under the identity `previous`. -/
def accepted (s : StateV1) (previous : DeviceIdentity) (c : AcceptedCommand) : StateV1 :=
  let ackSequence := saturatingAdd s.deviceSequence 1
  let reportSequence := saturatingAdd ackSequence 1
  let acknowledgement := c.acknowledgement ackSequence
  { s with
    identity := { s.identity with credentialGeneration := c.credentialGeneration }
    current := ⟨c.generation, c.fence, c.revision, c.artifactDigest, c.expiresAt⟩
    deviceSequence := reportSequence
    commandJournal := s.commandJournal ++
      [⟨c.commandId, c.fingerprint, acknowledgement, c.retainUntilEpochSeconds⟩]
    outbox := s.outbox ++ [.ack (eventId .ack c.commandId) acknowledgement,
      .reportBlocked (eventId .report c.commandId) (c.report s.identity reportSequence)]
    pendingInbound := some (c.pending previous) }

def accept (s : StateV1) (c : AcceptedCommand) : Except StoreError StateV1 := do
  let previous ← s.currentIdentity
  .ok (s.accepted previous c)

def reject (s : StateV1) (c : RejectedCommand) : StateV1 :=
  let sequence := saturatingAdd s.deviceSequence 1
  let acknowledgement := c.acknowledgement sequence
  { s with
    deviceSequence := sequence
    commandJournal := s.commandJournal ++
      [⟨c.commandId, c.fingerprint, acknowledgement, c.retainUntilEpochSeconds⟩]
    outbox := s.outbox ++ [.ack (eventId .ack c.commandId) acknowledgement] }

def rejectConflictingReplay (s : StateV1) (commandId fingerprint : String) (generation fence : ℕ)
    (observedAt : ℤ) : StateV1 :=
  let sequence := saturatingAdd s.deviceSequence 1
  { s with
    deviceSequence := sequence
    outbox := s.outbox ++ [.ack (eventId .rejected (conflictSource commandId fingerprint))
      (conflictAck commandId fingerprint generation fence sequence observedAt)] }

/-- The document after the acknowledgement of a journalled command is queued again. -/
def replayed (s : StateV1) (command : StoredCommand) : StateV1 :=
  { s with outbox := s.outbox ++ [.ack (eventId .ack command.commandId) command.acknowledgement.replayed] }

def replayCommand (s : StateV1) (commandId fingerprint : String) : Except StoreError StateV1 :=
  match s.commandJournal.find? fun command =>
    command.commandId = commandId ∧ command.fingerprint = fingerprint with
  | none => .error .invalidState
  | some command => .ok (s.replayed command)

/-- Remove a published entry.  The last step of an acknowledgement that activates a revision is the
reconnect; the pending delivery ends with its report. -/
def confirmOutbound (s : StateV1) (event : String) : Option StateV1 :=
  match s.outbox.find? fun entry => entry.eventId = event with
  | none => none
  | some confirmed =>
    if confirmed.isReportReady ∧ ¬ s.pendingSettled then none
    else
      let outbox := s.outbox.eraseP fun entry => entry.eventId = event
      let activated := (confirmed.ackPayload.bind fun payload => payload.activatesRevision).filter
        fun revision => ∃ entry ∈ outbox, ∃ report ∈ entry.blockedPayload, report.credentialRevision = revision
      some { s with
        outbox := outbox
        reconnectRevision := activated.or s.reconnectRevision
        pendingInbound := if confirmed.isReportReady then none else s.pendingInbound }

/-- A blocked report becomes publishable. -/
def unblock : StoredOutbound → StoredOutbound
  | .reportBlocked e payload => .reportReady e payload
  | entry => entry

def markReconnected (s : StateV1) (revision : ℕ) : Option StateV1 :=
  if s.reconnectRevision ≠ some revision then none
  else some { s with outbox := s.outbox.map unblock, reconnectRevision := none }

def markInboundSettled (s : StateV1) (token : Option String) : Option StateV1 :=
  match s.pendingInbound with
  | none => none
  | some pending =>
    if token.any fun t => t ≠ pending.settlementToken then none
    else some { s with pendingInbound := some { pending with settled := true } }

end StateV1

end RssIncubator.Agent
