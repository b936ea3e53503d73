import RssIncubator.Agent.Device

/-!
# What a session asks the agent

The questions of `agent.rs` that change nothing: the revision that must open the next session, the scope in
which a pending delivery may come again, and whether there is room for another command.
-/

namespace RssIncubator.Agent

open Lib

/-- The old command topic under which the pending delivery may come again. -/
structure RecoveryCommandScope where
  identity : DeviceIdentity
  topic : String
  commandId : String
  deriving DecidableEq

/-- Room in the journal, or an entry that may be dropped. -/
def StateV1.commandJournalHasCapacity (s : StateV1) (now : ℕ) : Bool :=
  s.commandJournal.length < commandJournalLimit ||
    s.commandJournal.any fun command => command.retainUntilEpochSeconds ≤ now ∧
      s.pendingInbound.all fun pending => pending.commandId ≠ command.commandId

namespace Running

def nextOutbound (a : Running) : Option OutboundFact := a.state.nextOutbound

def reconnectRevision (a : Running) : Except AgentError (Option NonZeroU64) :=
  match a.state.reconnectRevision with
  | none => .ok none
  | some revision => ((NonZeroU64.tryFrom revision).map some).mapError fun _ => .store .invalidState

def rotationInFlight (a : Running) : Bool := a.state.rotationInFlight

def commandIntakeOpen (a : Running) (now : ℕ) : Bool :=
  (a.state.reserveOutbox 2).isOk && a.state.commandJournalHasCapacity now

def currentIdentity (a : Running) : Except AgentError DeviceIdentity := a.state.currentIdentity.mapError .store

def pendingCommandScope (a : Running) : Except AgentError (Option RecoveryCommandScope) :=
  match a.state.pendingInbound with
  | none => .ok none
  | some pending => do
    let current ← a.currentIdentity
    let generation ← (NonZeroU64.tryFrom pending.credentialGeneration).mapError fun _ => .store .invalidState
    let identity ← (DeviceIdentity.tryNew current.tenant current.device generation).mapError
      fun _ => .store .invalidState
    .ok (some ⟨identity, pending.topic, pending.commandId⟩)

def pendingInboundSettled (a : Running) : Bool := a.state.pendingInbound.all fun pending => pending.settled

/-- The settlement token of the pending delivery, by its topic and its command. -/
def pendingDeliverySettlementToken (a : Running) (topic commandId : String) : Option String :=
  a.state.pendingInbound.bind fun pending =>
    if pending.topic = topic ∧ pending.commandId = commandId then some pending.settlementToken else none

end Running

end RssIncubator.Agent
