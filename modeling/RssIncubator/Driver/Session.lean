import RssIncubator.Driver.Mqtt

/-!
# The session driver (`main.rs`)

One session from its opening to its end.  `SessionDriver.turn` is one round of the loop of `run`: what `poll_next`
came back with, the handler of the event, and then the head of the next round, which publishes what may be published
and ends a shutdown that has nothing left to wait for.

A handler asks the agent for at most one change and queues at most one request, so one pattern of failures for the
store and one answer of the request queue are all it can meet.  What happens is kept as a list of deeds, which no
handler reads.
-/

namespace RssIncubator.Driver

open Agent Lib Prog

/-! ### State -/

inductive PublishState where
  | idle
  | pending
  deriving DecidableEq

inductive SubscriptionState where
  | inactive
  | active
  | unsubscribing
  deriving DecidableEq

inductive ConnectionState where
  | connecting
  | connected
  deriving DecidableEq

inductive RecoveryObservation where
  | notObserved
  | observed
  deriving DecidableEq

inductive ReconnectState where
  | dormant
  | ready
  deriving DecidableEq

structure SessionState where
  publish : PublishState := .idle
  subscription : SubscriptionState := .inactive
  connection : ConnectionState := .connecting
  pendingCommandAck : Option (CommandDelivery × Option String) := none
  recoveryObservation : RecoveryObservation := .notObserved
  reconnect : ReconnectState := .dormant
  /-- Set once shutdown has started. -/
  shutdownDeadline : Bool := false
  deriving DecidableEq

namespace SessionState

def unsubscribePending (s : SessionState) : Bool := s.subscription = .unsubscribing

def canPublish (s : SessionState) : Bool :=
  s.connection = .connected && s.publish = .idle && s.reconnect = .dormant && !s.unsubscribePending

def canUnsubscribe (s : SessionState) : Bool := s.connection = .connected && s.subscription = .active

def canSubscribe (s : SessionState) : Bool := s.subscription = .inactive && !s.shutdownDeadline

def transportIsQuiescent (s : SessionState) : Bool :=
  s.shutdownDeadline && s.connection = .connected && s.publish = .idle && s.pendingCommandAck.isNone &&
    !s.unsubscribePending

def shutdownIsQuiescent (s : SessionState) (agent : Running) : Bool :=
  s.transportIsQuiescent && agent.nextOutbound.isNone

end SessionState

structure SessionDriver where
  session : MqttSession
  sessionIdentity : DeviceIdentity
  recoveryCommand : Option RecoveryCommandScope
  state : SessionState
  deriving DecidableEq

inductive SessionError where
  | agent (error : AgentError)
  | mqtt (error : MqttError)
  | wire
  deriving DecidableEq

inductive SessionCompletion where
  | reconnect
  | shutdown
  deriving DecidableEq

inductive DriverControl where
  | proceed
  | reconnect
  deriving DecidableEq

def shouldHoldCommandAck (accepted intakeOpen shuttingDown : Bool) : Bool := accepted || !intakeOpen || shuttingDown

inductive UnsubscribeCompletion where
  | exit
  | subscribe
  | wait
  deriving DecidableEq

def unsubscribeCompletion (reconnectReady inboundFlushed rotationInFlight : Bool) : UnsubscribeCompletion :=
  if reconnectReady && inboundFlushed then .exit else if !rotationInFlight then .subscribe else .wait

/-- What happens in a process: a session is opened on a state, a packet is polled, the agent is asked for a change and
answers with its state after it, a request is queued, a session ends. -/
inductive Deed where
  | opened (driver : SessionDriver) (state : StateV1)
  | polled (packet : Packet) (event : MqttEvent)
  | asked (call : Call) (state : StateV1)
  | answered (call : Call) (reply : Reply) (state : StateV1)
  | queued (request : Request)
  | ended (result : Except SessionError SessionCompletion)

/-- The agent and the driver that has it. -/
structure Host where
  tree : Disk
  agent : Running
  driver : SessionDriver
  deeds : List Deed

/-- What surrounds one round: the clock when a command is applied and when intake is looked at, the catalog, what fails
in the store, and whether the client takes a request. -/
structure Ambient where
  now : ℕ
  later : ℕ
  catalog : ArtifactCatalog
  faults : Faults
  queueing : Bool

abbrev DriverProg := Prog Host SessionError

/-! ### Steps -/

section Handlers

variable (pki : Pki) (wire : Wire) (ambient : Ambient)

/-- The host after the agent was asked for a change. -/
def Host.asked (h : Host) (call : Call) (w : World) (answer : List Deed) : Host where
  tree := w.tree
  agent := { h.agent with state := w.state }
  driver := h.driver
  deeds := h.deeds ++ .asked call h.agent.state :: answer

/-- A change of the agent. -/
def ask (call : Call) : DriverProg Reply := fun h =>
  match perform pki h.agent.retention ambient.faults call ⟨h.tree, h.agent.state⟩ with
  | (.ok reply, w) => (.ok reply, h.asked call w [.answered call reply w.state])
  | (.err e, w) => (.err (.agent e), h.asked call w [])
  | (.crash, w) => (.crash, h.asked call w [])

/-- The host after a request was queued and noted in the session. -/
def Host.sent (h : Host) (r : Request) (note : MqttSession → MqttSession) : Host :=
  { h with driver := { h.driver with session := note h.driver.session }, deeds := h.deeds ++ [.queued r] }

/-- Hand a request to the client. -/
def request (r : Request) (note : MqttSession → MqttSession) : DriverProg Unit := fun h =>
  if ambient.queueing then (.ok (), h.sent r note) else (.err (.mqtt .request), h)

/-- The host in another state of its session. -/
def Host.set (h : Host) (f : SessionState → SessionState) : Host :=
  { h with driver := { h.driver with state := f h.driver.state } }

def modify (f : SessionState → SessionState) : DriverProg Unit := update fun h => h.set f

def agent : DriverProg Running := fun h => (.ok h.agent, h)

def driver : DriverProg SessionDriver := fun h => (.ok h.driver, h)

def subscribe : DriverProg Unit := do
  let d ← driver
  request ambient (.subscribe d.session.topics.commandTopic) fun m => { m with subscribing := m.subscribing + 1 }

def unsubscribe (topic : String) : DriverProg Unit :=
  request ambient (.unsubscribe topic) fun m => { m with unsubscribing := m.unsubscribing ++ [topic] }

def unsubscribeCommand : DriverProg Unit := do
  let d ← driver
  unsubscribe ambient d.session.topics.commandTopic

def unsubscribeRecovery : DriverProg Unit := do
  let d ← driver
  match d.session.recoveryCommand with
  | none => fail (.mqtt .invalidCommandFrame)
  | some scope => unsubscribe ambient scope.topic

def publish (fact : OutboundFact) (payload : Bytes) : DriverProg Unit := do
  let d ← driver
  let topic := match fact with
    | .commandAcknowledged _ _ => commandAcknowledgedTopic d.session.topics
    | .certificateReported _ _ => certificateReportedTopic d.session.topics
  request ambient (.publish topic fact payload) fun m => { m with
    awaitingPacketId := m.awaitingPacketId ++ [fact.eventId] }

def acknowledgeCommand (delivery : CommandDelivery) (settlementToken : Option String) : DriverProg Unit :=
  request ambient (.ack delivery) fun m => { m with
    inboundAcknowledgements := PacketMap.insert m.inboundAcknowledgements delivery.publish.pkid settlementToken }

def disconnect : DriverProg Unit := request ambient .disconnect id

/-! ### Handlers -/

def publishNext : DriverProg Unit := do
  let d ← driver
  let a ← agent
  if d.state.canPublish then
    match a.nextOutbound with
    | none => pure ()
    | some outbound =>
      match wire.encodeOutbound d.sessionIdentity outbound with
      | none => fail .wire
      | some payload => do
        publish ambient outbound payload
        modify fun s => { s with publish := .pending }
  else pure ()

def startShutdown : DriverProg Unit := do
  modify fun s => { s with shutdownDeadline := true }
  let d ← driver
  if d.state.canUnsubscribe then
    unsubscribeCommand ambient
    modify fun s => { s with subscription := .unsubscribing }
  else pure ()

/-- `reconnect_revision`, with the error of the agent. -/
def reconnectRevision : DriverProg (Option NonZeroU64) := do
  let a ← agent
  ofExcept (a.reconnectRevision.mapError .agent)

/-- `on_connected`, first half: the agent learns that its new credential is connected. -/
def markConnected : DriverProg Unit := do
  match ← reconnectRevision with
  | none => pure ()
  | some revision => do
    let _ ← ask pki ambient (.markCurrentCredentialConnected revision)

/-- `on_connected`, second half: an old subscription is ended, or the new one requested. -/
def listen : DriverProg Unit := do
  let d ← driver
  let a ← agent
  if d.recoveryCommand.isSome then
    unsubscribeRecovery ambient
    modify fun s => { s with subscription := .unsubscribing }
  else if !d.state.shutdownDeadline && !a.rotationInFlight && a.commandIntakeOpen ambient.later then
    subscribe ambient
  else pure ()

def onConnected : DriverProg Unit := do
  modify fun s => { s with connection := .connected, subscription := .inactive }
  markConnected pki ambient
  listen ambient

/-- The call a delivery leads to. -/
def commandCall (delivery : CommandDelivery) : Call :=
  match wire.decodeCommand delivery.identity delivery.commandId delivery.publish.payload with
  | some command => .applyCommand delivery.topic command ambient.now ambient.catalog
  | none => .rejectMalformedDelivery delivery.topic delivery.commandId.expose delivery.publish.payload ambient.now

/-- `on_command`, first lines: a delivery on the old topic is noticed. -/
def observe (delivery : CommandDelivery) : DriverProg Unit := do
  let d ← driver
  if d.recoveryCommand.any fun scope => scope.topic = delivery.topic then
    modify fun s => { s with recoveryObservation := .observed }
  else pure ()

def onCommand (delivery : CommandDelivery) : DriverProg Unit := do
  observe delivery
  let outcome ← ask pki ambient (commandCall wire ambient delivery)
  let d ← driver
  let a ← agent
  let settlementToken := a.pendingDeliverySettlementToken delivery.topic delivery.commandId.expose
  if shouldHoldCommandAck (outcome = .outcome .accepted) (a.commandIntakeOpen ambient.later) d.state.shutdownDeadline then
    unsubscribeCommand ambient
    modify fun s => { s with subscription := .unsubscribing, pendingCommandAck := some (delivery, settlementToken) }
  else acknowledgeCommand ambient delivery settlementToken

/-- `on_outbound_acknowledged`, from the look at the reconnect marker on. -/
def afterConfirm : DriverProg DriverControl := do
  let revision ← reconnectRevision
  let d ← driver
  let a ← agent
  if revision.isSome then
    if !d.state.unsubscribePending && a.pendingInboundSettled then pure .reconnect
    else
      modify fun s => { s with reconnect := .ready }
      if d.state.canUnsubscribe then
        unsubscribeCommand ambient
        modify fun s => { s with subscription := .unsubscribing }
        pure .proceed
      else pure .proceed
  else if d.state.canSubscribe && a.commandIntakeOpen ambient.later then
    subscribe ambient
    pure .proceed
  else pure .proceed

def onOutboundAcknowledged (eventId : String) : DriverProg DriverControl := do
  let d ← driver
  if d.state.publish ≠ .pending then fail (.agent .unknownOutbound)
  else
    modify fun s => { s with publish := .idle }
    let _ ← ask pki ambient (.confirmOutbound eventId)
    afterConfirm ambient

/-- `on_unsubscribed`: a recovery scope under which nothing came again settles the pending delivery. -/
def markAbsent : DriverProg Unit := do
  let d ← driver
  let a ← agent
  if d.recoveryCommand.isSome && d.state.recoveryObservation = .notObserved && !a.pendingInboundSettled then
    let _ ← ask pki ambient .markPendingInboundAbsent
  else pure ()

/-- `on_unsubscribed`, its last lines. -/
def complete : DriverProg DriverControl := do
  let d ← driver
  let a ← agent
  match unsubscribeCompletion (d.state.reconnect = .ready) a.pendingInboundSettled a.rotationInFlight with
  | .exit => pure .reconnect
  | .subscribe =>
    if d.state.canSubscribe && a.commandIntakeOpen ambient.later then
      subscribe ambient
      pure .proceed
    else pure .proceed
  | .wait => pure .proceed

def onUnsubscribed : DriverProg DriverControl := do
  modify fun s => { s with subscription := .inactive }
  let d ← driver
  match d.state.pendingCommandAck with
  | some (delivery, settlementToken) =>
    modify fun s => { s with pendingCommandAck := none }
    acknowledgeCommand ambient delivery settlementToken
    pure .proceed
  | none =>
    markAbsent pki ambient
    complete ambient

def onInboundAcknowledged (settlementToken : Option String) : DriverProg DriverControl := do
  match settlementToken with
  | none => pure .proceed
  | some token =>
    let _ ← ask pki ambient (.markPendingInboundSettled token)
    let d ← driver
    if d.state.reconnect = .ready && !d.state.unsubscribePending then pure .reconnect else pure .proceed

def handleEvent : MqttEvent → DriverProg DriverControl
  | .connected => do
    onConnected pki ambient
    pure .proceed
  | .subscribed => do
    modify fun s => { s with subscription := .active }
    pure .proceed
  | .command delivery => do
    onCommand pki wire ambient delivery
    pure .proceed
  | .outboundAcknowledged eventId => onOutboundAcknowledged pki ambient eventId
  | .unsubscribed => onUnsubscribed pki ambient
  | .inboundAcknowledged settlementToken => onInboundAcknowledged pki ambient settlementToken
  | .transportProgress => pure .proceed

/-! ### One round -/

/-- What `poll_next` comes back with. -/
inductive Poll where
  | packet (p : Packet)
  | failed (error : ConnectionError)
  | shutdown
  | deadline

/-- The host after a packet was polled. -/
def Host.polled (h : Host) (p : Packet) (event : MqttEvent) (session : MqttSession) : Host :=
  { h with driver := { h.driver with session := session }, deeds := h.deeds ++ [.polled p event] }

/-- The event of a packet. -/
def pollSession (p : Packet) : DriverProg MqttEvent := fun h =>
  match h.driver.session.poll wire p with
  | .error e => (.err (.mqtt e), h)
  | .ok (event, session) => (.ok event, h.polled p event session)

/-- The head of the loop of `run`. -/
def head : DriverProg (Option SessionCompletion) := do
  publishNext wire ambient
  let d ← driver
  let a ← agent
  if d.state.shutdownIsQuiescent a then
    disconnect ambient
    pure (some .shutdown)
  else pure none

/-- One round of the loop.  The signal is seen once, and a deadline passes only after it. -/
def turn : Poll → DriverProg (Option SessionCompletion)
  | .packet p => do
    let event ← pollSession wire p
    match ← handleEvent pki wire ambient event with
    | .reconnect => pure (some .reconnect)
    | .proceed => head wire ambient
  | .failed error => fail (.mqtt (.connection error))
  | .shutdown => do
    let d ← driver
    if d.state.shutdownDeadline then pure none
    else
      startShutdown ambient
      head wire ambient
  | .deadline => do
    let d ← driver
    if d.state.shutdownDeadline then pure (some .shutdown) else pure none

end Handlers

end RssIncubator.Driver
