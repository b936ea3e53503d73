import RssIncubator.Agent.Queries

/-!
# The MQTT session (`mqtt.rs`)

A session queues requests to its client and polls it for events.  What it keeps is the correlation: which event a
packet identifier stands for, and which settlement token a PUBACK that has not left yet will carry.  `Packet` is what
the client reports, `MqttSession.poll` makes an event of it.

Three fields stand for the other end of the line and are read by no function of the source: the subscriptions and
unsubscriptions the broker has not answered, and the deliveries it has not seen a PUBACK for.
-/

namespace RssIncubator.Driver

open Agent

/-! ### Packets -/

inductive QoS where
  | atMostOnce
  | atLeastOnce
  | exactlyOnce
  deriving DecidableEq

/-- An incoming publication. -/
structure Publish where
  pkid : ℕ
  topic : Lib.Bytes
  qos : QoS
  retain : Bool
  payload : Lib.Bytes
  correlationData : Option Lib.Bytes
  userProperties : List (String × String)
  deriving DecidableEq

inductive SubscribeReasonCode where
  | success (qos : QoS)
  | failure
  deriving DecidableEq

inductive UnsubAckReason where
  | success
  | noSubscriptionExisted
  | failure
  deriving DecidableEq

/-- What the client reports: packets from the broker, and publications and PUBACKs it has sent.  The topic of an
UNSUBACK is that of the request it answers; the source does not look at it. -/
inductive Packet where
  | connAck
  | subAck (returnCodes : List SubscribeReasonCode)
  | unsubAck (topic : String) (reasons : List UnsubAckReason)
  | publish (p : Publish)
  | pubAck (pkid : ℕ)
  | sentPublish (pkid : ℕ)
  | sentPubAck (pkid : ℕ)
  | other
  deriving DecidableEq

/-! ### Errors -/

inductive ConnectReturnCode where
  | serviceUnavailable
  | serverUnavailable
  | serverBusy
  | quotaExceeded
  | connectionRateExceeded
  | other
  deriving DecidableEq

inductive ConnectionError where
  | timeout
  | io
  | connectionRefused (code : ConnectReturnCode)
  | other
  deriving DecidableEq

inductive MqttError where
  | credentialUnavailable
  | request
  | connection (error : ConnectionError)
  | invalidCommandFrame
  | unknownPubAck
  | subscriptionRejected
  | assertionRejected
  deriving DecidableEq

def MqttError.isRetryable : MqttError → Bool
  | .request => true
  | .connection .timeout | .connection .io => true
  | .connection (.connectionRefused .other) => false
  | .connection (.connectionRefused _) => true
  | _ => false

/-! ### Commands -/

/-- What the session needs of the wire format and of the broker's signature: the adapters of `wire.rs` over the
published contracts, and the verifier of broker assertions. -/
structure Wire where
  decodeCommand : DeviceIdentity → CommandId → Lib.Bytes → Option DeviceCommand
  encodeOutbound : DeviceIdentity → OutboundFact → Option Lib.Bytes
  verifyCommand : DeviceIdentity → Publish → Bool
  /-- A command is decoded under the name it came with. -/
  decodeCommand_id : ∀ {identity commandId payload command},
    decodeCommand identity commandId payload = some command → command.commandId = commandId

/-- Broker-asserted command delivery. -/
structure CommandDelivery where
  publish : Publish
  topic : String
  commandId : CommandId
  identity : DeviceIdentity
  deriving DecidableEq

inductive MqttEvent where
  | connected
  | subscribed
  | unsubscribed
  | command (delivery : CommandDelivery)
  | outboundAcknowledged (eventId : String)
  | inboundAcknowledged (settlementToken : Option String)
  | transportProgress

/-- What the session asks the client to send. -/
inductive Request where
  | subscribe (topic : String)
  | unsubscribe (topic : String)
  | publish (topic : String) (fact : OutboundFact) (payload : Lib.Bytes)
  | ack (delivery : CommandDelivery)
  | disconnect
  deriving DecidableEq

/-! ### The session -/

/-- The command topic of `TopicSet::new` is that of the identity; these are the two others. -/
def commandAcknowledgedTopic (i : DeviceIdentity) : String :=
  "rss/v1/" ++ i.tenant.hyphenated ++ "/" ++ i.device.hyphenated ++ "/" ++ toString i.credentialGeneration.1 ++
    "/uplink/" ++ "identity.device-command-acked"

def certificateReportedTopic (i : DeviceIdentity) : String :=
  "rss/v1/" ++ i.tenant.hyphenated ++ "/" ++ i.device.hyphenated ++ "/" ++ toString i.credentialGeneration.1 ++
    "/uplink/" ++ "identity.device-certificate-reported"

/-- A map from packet identifiers, at most one entry each. -/
abbrev PacketMap (α : Type) := List (ℕ × α)

namespace PacketMap

variable {α : Type}

def remove (m : PacketMap α) (pkid : ℕ) : Option (α × PacketMap α) :=
  (m.lookup pkid).map fun a => (a, m.filter fun entry => entry.1 ≠ pkid)

def insert (m : PacketMap α) (pkid : ℕ) (a : α) : PacketMap α := (pkid, a) :: m.filter fun entry => entry.1 ≠ pkid

/-- A map of one entry gives that entry away. -/
theorem remove_one {m rest : PacketMap α} {pkid : ℕ} {a : α} (h : remove m pkid = some (a, rest))
    (hlen : m.length ≤ 1) : m = [(pkid, a)] ∧ rest = [] := by
  obtain ⟨b, hlookup, hpair⟩ := Option.map_eq_some_iff.1 h
  cases hpair
  match m with
  | [] => cases hlookup
  | [(k, v)] =>
    by_cases hk : pkid = k
    · subst hk
      simp at hlookup
      simp [hlookup]
    · rw [List.lookup_cons, beq_false_of_ne hk] at hlookup
      cases hlookup
  | _ :: _ :: _ => simp at hlen

end PacketMap

structure MqttSession where
  /-- The identity of the topics. -/
  topics : DeviceIdentity
  /-- The revision whose files the session was opened with. -/
  credentials : ℕ
  awaitingPacketId : List String
  packetEvents : PacketMap String
  inboundAcknowledgements : PacketMap (Option String)
  recoveryCommand : Option RecoveryCommandScope
  /-- Subscriptions without a SUBACK. -/
  subscribing : ℕ
  /-- The topics of the unsubscriptions without an UNSUBACK. -/
  unsubscribing : List String
  /-- Deliveries whose PUBACK has not left. -/
  inflight : ℕ
  deriving DecidableEq

/-- `String::from_utf8` on the bytes of a packet. -/
def fromUtf8 (b : Lib.Bytes) : Option String := String.fromUTF8? ⟨b.toArray⟩

theorem fromUtf8_utf8 (s : String) : fromUtf8 (utf8 s) = some s := by
  have hbytes : (⟨(utf8 s).toArray⟩ : ByteArray) = s.toUTF8 := by simp [utf8]
  unfold fromUtf8 String.fromUTF8?
  rw [hbytes]
  exact dif_pos s.isValidUTF8

theorem fromUtf8_eq_some {b : Lib.Bytes} {s : String} : fromUtf8 b = some s ↔ utf8 s = b := by
  constructor
  · intro h
    unfold fromUtf8 String.fromUTF8? at h
    split at h
    · cases h
      rfl
    · cases h
  · rintro rfl
    exact fromUtf8_utf8 s

namespace MqttSession

def new (topics : DeviceIdentity) (credentials : ℕ) (recoveryCommand : Option RecoveryCommandScope) : MqttSession where
  topics := topics
  credentials := credentials
  awaitingPacketId := []
  packetEvents := []
  inboundAcknowledgements := []
  recoveryCommand := recoveryCommand
  subscribing := 0
  unsubscribing := []
  inflight := 0

def acceptsCommand (m : MqttSession) (topic : String) : Bool := topic = m.topics.commandTopic

/-- The identity a command on this topic is for. -/
def commandIdentity (m : MqttSession) (topic commandId : String) : Option DeviceIdentity :=
  if m.acceptsCommand topic then some m.topics
  else (m.recoveryCommand.filter fun scope => scope.topic = topic ∧ scope.commandId = commandId).map (·.identity)

def commandDelivery (wire : Wire) (m : MqttSession) (p : Publish) : Except MqttError CommandDelivery :=
  match fromUtf8 p.topic with
  | none => .error .invalidCommandFrame
  | some topic =>
    if p.qos ≠ .atLeastOnce then .error .invalidCommandFrame
    else match p.correlationData.bind fromUtf8 with
      | none => .error .invalidCommandFrame
      | some text =>
        match CommandId.tryFrom text with
        | .error _ => .error .invalidCommandFrame
        | .ok commandId =>
          match m.commandIdentity topic commandId.expose with
          | none => .error .invalidCommandFrame
          | some identity =>
            if wire.verifyCommand identity p then .ok ⟨p, topic, commandId, identity⟩ else .error .assertionRejected

/-- A publication that is well framed, in scope and signed is a delivery. -/
theorem commandDelivery_ok {wire : Wire} {m : MqttSession} {p : Publish} {topic : String} {commandId : CommandId}
    {identity : DeviceIdentity} (htopic : fromUtf8 p.topic = some topic) (hqos : p.qos = .atLeastOnce)
    (hid : p.correlationData.bind fromUtf8 = some commandId.expose)
    (hscope : m.commandIdentity topic commandId.expose = some identity) (hsigned : wire.verifyCommand identity p = true) :
    m.commandDelivery wire p = .ok ⟨p, topic, commandId, identity⟩ := by
  have hname : CommandId.tryFrom commandId.expose = .ok commandId := dif_pos commandId.valid
  unfold commandDelivery
  simp only [htopic, hqos, hid, hname, hscope, hsigned, ne_eq, not_true, if_false, if_true]

theorem commandDelivery_publish {wire : Wire} {m : MqttSession} {p : Publish} {delivery : CommandDelivery}
    (h : m.commandDelivery wire p = .ok delivery) : delivery.publish = p := by
  unfold commandDelivery at h
  split at h
  · cases h
  split_ifs at h
  split at h
  · cases h
  split at h
  · cases h
  split at h
  · cases h
  split_ifs at h
  cases h
  rfl

def validateSuback : List SubscribeReasonCode → Bool
  | [.success .atLeastOnce] => true
  | _ => false

def validateUnsuback : List UnsubAckReason → Bool
  | [.success] | [.noSubscriptionExisted] => true
  | _ => false

/-- One correlated event, and the session after it. -/
def poll (wire : Wire) (m : MqttSession) : Packet → Except MqttError (MqttEvent × MqttSession)
  | .connAck => .ok (.connected, m)
  | .subAck codes =>
    if validateSuback codes then .ok (.subscribed, { m with subscribing := m.subscribing - 1 })
    else .error .subscriptionRejected
  | .unsubAck topic reasons =>
    if validateUnsuback reasons then .ok (.unsubscribed, { m with unsubscribing := m.unsubscribing.erase topic })
    else .error .subscriptionRejected
  | .publish p => (m.commandDelivery wire p).map fun delivery => (.command delivery, { m with inflight := m.inflight + 1 })
  | .pubAck pkid =>
    match PacketMap.remove m.packetEvents pkid with
    | none => .error .unknownPubAck
    | some (eventId, packetEvents) => .ok (.outboundAcknowledged eventId, { m with packetEvents := packetEvents })
  | .sentPublish pkid =>
    match m.awaitingPacketId with
    | [] => .error .unknownPubAck
    | eventId :: awaiting =>
      if (m.packetEvents.lookup pkid).isSome then .error .unknownPubAck
      else .ok (.transportProgress, { m with
        awaitingPacketId := awaiting, packetEvents := PacketMap.insert m.packetEvents pkid eventId })
  | .sentPubAck pkid =>
    match PacketMap.remove m.inboundAcknowledgements pkid with
    | none => .error .unknownPubAck
    | some (token, acknowledgements) => .ok (.inboundAcknowledged token, { m with
        inboundAcknowledgements := acknowledgements, inflight := m.inflight - 1 })
  | .other => .ok (.transportProgress, m)

/-- All that a poll can report. -/
inductive Polls (wire : Wire) (m : MqttSession) : Packet → MqttEvent → MqttSession → Prop
  | connected : Polls wire m .connAck .connected m
  | subscribed {codes} : Polls wire m (.subAck codes) .subscribed { m with subscribing := m.subscribing - 1 }
  | unsubscribed {topic reasons} :
      Polls wire m (.unsubAck topic reasons) .unsubscribed { m with unsubscribing := m.unsubscribing.erase topic }
  | command {p delivery} (h : m.commandDelivery wire p = .ok delivery) :
      Polls wire m (.publish p) (.command delivery) { m with inflight := m.inflight + 1 }
  | outbound {pkid eventId rest} (h : PacketMap.remove m.packetEvents pkid = some (eventId, rest)) :
      Polls wire m (.pubAck pkid) (.outboundAcknowledged eventId) { m with packetEvents := rest }
  | published {pkid eventId awaiting} (h : m.awaitingPacketId = eventId :: awaiting) :
      Polls wire m (.sentPublish pkid) .transportProgress { m with
        awaitingPacketId := awaiting, packetEvents := PacketMap.insert m.packetEvents pkid eventId }
  | inbound {pkid token rest} (h : PacketMap.remove m.inboundAcknowledgements pkid = some (token, rest)) :
      Polls wire m (.sentPubAck pkid) (.inboundAcknowledged token) { m with
        inboundAcknowledgements := rest, inflight := m.inflight - 1 }
  | other : Polls wire m .other .transportProgress m

theorem poll_cases {wire : Wire} {m m' : MqttSession} {p : Packet} {event : MqttEvent}
    (h : m.poll wire p = .ok (event, m')) : Polls wire m p event m' := by
  cases p with
  | connAck =>
    cases h
    exact .connected
  | subAck codes =>
    simp only [poll] at h
    split_ifs at h
    cases h
    exact .subscribed
  | unsubAck topic reasons =>
    simp only [poll] at h
    split_ifs at h
    cases h
    exact .unsubscribed
  | publish p =>
    simp only [poll] at h
    rcases hd : m.commandDelivery wire p with e | delivery <;> rw [hd] at h <;> cases h
    exact .command hd
  | pubAck pkid =>
    simp only [poll] at h
    split at h
    · cases h
    · rename_i hremove
      cases h
      exact .outbound hremove
  | sentPublish pkid =>
    simp only [poll] at h
    split at h
    · cases h
    · rename_i hawaiting
      split_ifs at h
      cases h
      exact .published hawaiting
  | sentPubAck pkid =>
    simp only [poll] at h
    split at h
    · cases h
    · rename_i hremove
      cases h
      exact .inbound hremove
  | other =>
    cases h
    exact .other

end MqttSession

/-- A delivery is well framed, for the identity of its topic, and verified. -/
theorem commandDelivery_cases {wire : Wire} {m : MqttSession} {p : Publish} {delivery : CommandDelivery}
    (h : m.commandDelivery wire p = .ok delivery) : fromUtf8 p.topic = some delivery.topic ∧
    (∃ correlation, p.correlationData = some correlation ∧ fromUtf8 correlation = some delivery.commandId.expose) ∧
    m.commandIdentity delivery.topic delivery.commandId.expose = some delivery.identity ∧
    wire.verifyCommand delivery.identity p = true := by
  unfold MqttSession.commandDelivery at h
  split at h
  · cases h
  rename_i topic htopic
  split_ifs at h
  split at h
  · cases h
  rename_i text htext
  split at h
  · cases h
  rename_i commandId hid
  split at h
  · cases h
  rename_i identity hidentity
  split_ifs at h with hverify
  cases h
  obtain ⟨correlation, hcorrelation, hutf8⟩ := Option.bind_eq_some_iff.1 htext
  obtain rfl : text = commandId.expose := by
    unfold CommandId.tryFrom at hid
    split at hid <;> cases hid
    rfl
  exact ⟨htopic, ⟨correlation, hcorrelation, hutf8⟩, hidentity, hverify⟩

end RssIncubator.Driver
