import RssIncubator.Broker.Signing
import RssIncubator.Driver.Reachable
import RssIncubator.Lib.Json

/-!
# Rounds in which nothing fails

The other direction of the inversion: where the client takes every request, a handler does what `Handled` says, and
the round goes on to its head.  So a run can be followed step by step without a look at the handlers.
-/

namespace RssIncubator.Driver

open Agent Lib Prog

section

variable {pki : Pki} {wire : Wire} {ambient : Ambient} {h h₁ h' : Host} {control : DriverControl}

/-! ### Handlers -/

theorem request_sent (hq : ambient.queueing = true) (r : Request) (note : MqttSession → MqttSession) :
    request ambient r note h = (.ok (), h.sent r note) := by
  unfold request
  rw [if_pos hq]

theorem subscribe_sent (hq : ambient.queueing = true) : subscribe ambient h = (.ok (), h.subscribes) := by
  unfold subscribe
  rw [driver_bind, request_sent hq]
  rfl

theorem unsubscribe_sent (hq : ambient.queueing = true) (topic : String) (f : SessionState → SessionState) :
    (unsubscribe ambient topic >>= fun _ => modify f) h = (.ok (), (h.sent (.unsubscribe topic) fun m => { m with
      unsubscribing := m.unsubscribing ++ [topic] }).set f) := by
  unfold unsubscribe
  rw [bind_apply, request_sent hq]
  rfl

theorem reconnectRevision_ok {α : Type} {revision : Option NonZeroU64} (hrec : h.agent.reconnectRevision = .ok revision)
    (f : Option NonZeroU64 → DriverProg α) : (reconnectRevision >>= f) h = f revision h := by
  rw [bind_apply]
  unfold reconnectRevision
  rw [agent_bind, hrec]
  rfl

theorem Marks.runs (hm : Marks pki ambient h h') : markConnected pki ambient h = (.ok (), h') := by
  unfold markConnected
  cases hm with
  | unmarked hrec => rw [reconnectRevision_ok hrec]; rfl
  | marked hrec hask =>
    rw [reconnectRevision_ok hrec]
    dsimp only
    rw [bind_apply, hask]
    rfl

theorem Listens.runs (hq : ambient.queueing = true) (hl : Listens ambient h h') : listen ambient h = (.ok (), h') := by
  unfold listen
  rw [driver_bind, agent_bind]
  cases hl with
  | recovery hdriver hscope =>
    rw [if_pos (Option.isSome_iff_ne_none.2 hdriver)]
    unfold unsubscribeRecovery
    rw [bind_assoc, driver_bind, hscope]
    exact unsubscribe_sent hq _ _
  | subscribe hdriver hshut hflight hopen =>
    rw [hdriver, hshut, hflight, hopen]
    exact subscribe_sent hq
  | wait hdriver hno =>
    rw [hdriver, if_neg (by simp), if_neg]
    · rfl
    · simp only [Bool.and_eq_true, Bool.not_eq_true', not_and, Bool.not_eq_true]
      exact fun hshut => hno hshut.1 hshut.2

theorem Absents.runs (ha : Absents pki ambient h h') : markAbsent pki ambient h = (.ok (), h') := by
  unfold markAbsent
  rw [driver_bind, agent_bind]
  cases ha with
  | absent hscope hobs hset hask =>
    rw [if_pos (by simp [Option.isSome_iff_ne_none, hscope, hobs, hset]), bind_apply, hask]
    rfl
  | present hno =>
    rw [if_neg]
    · rfl
    · simp only [Bool.and_eq_true, Bool.not_eq_true', decide_eq_true_eq, Option.isSome_iff_ne_none, not_and,
        Bool.not_eq_false, and_imp]
      exact hno

theorem Absents.driver (ha : Absents pki ambient h h') : h'.driver = h.driver := by
  cases ha with
  | absent hscope hobs hset hask => exact ask_driver hask
  | present hno => rfl

theorem Confirms.runs (hq : ambient.queueing = true) (hc : Confirms ambient h h' control) :
    afterConfirm ambient h = (.ok control, h') := by
  unfold afterConfirm
  cases hc with
  | exit hrec hsub hset =>
    rw [reconnectRevision_ok hrec, driver_bind, agent_bind, if_pos (by rfl),
      if_pos (by simp [SessionState.unsubscribePending, hsub, hset])]
    rfl
  | unsubscribe hrec hset hcan =>
    rw [reconnectRevision_ok hrec, driver_bind, agent_bind, if_pos (by rfl), if_neg (by simp [hset]), modify_bind, if_pos hcan]
    simp only [unsubscribeCommand, bind_assoc, driver_bind]
    unfold Driver.unsubscribe
    rw [bind_apply, request_sent hq]
    rfl
  | ready hrec hno hcan =>
    rw [reconnectRevision_ok hrec, driver_bind, agent_bind, if_pos (by rfl), if_neg, modify_bind, hcan]
    · rfl
    · simp only [SessionState.unsubscribePending, Bool.and_eq_true, Bool.not_eq_true', decide_eq_false_iff_not, not_and,
        Bool.not_eq_true]
      exact hno.resolve_left
  | subscribe hrec hsub hshut hopen =>
    rw [reconnectRevision_ok hrec, driver_bind, agent_bind, if_neg (by simp),
      if_pos (by simp [SessionState.canSubscribe, hsub, hshut, hopen]), bind_apply, subscribe_sent hq]
    rfl
  | idle hrec hno =>
    rw [reconnectRevision_ok hrec, driver_bind, agent_bind, if_neg (by simp), if_neg]
    · rfl
    · simp only [SessionState.canSubscribe, Bool.and_eq_true, Bool.not_eq_true', decide_eq_true_eq, not_and,
        Bool.not_eq_true, and_imp]
      exact hno

theorem Completes.runs (hq : ambient.queueing = true) (hsub : h.driver.state.subscription = .inactive)
    (hc : Completes ambient h h' control) : complete ambient h = (.ok control, h') := by
  unfold complete
  rw [driver_bind, agent_bind]
  cases hc with
  | exit hready hset =>
    rw [hready, hset]
    rfl
  | subscribe hwait hflight hshut hopen =>
    have hcompletion : unsubscribeCompletion (h.driver.state.reconnect = .ready) h.agent.pendingInboundSettled
        h.agent.rotationInFlight = .subscribe := by
      rw [hflight]
      simpa [unsubscribeCompletion] using hwait
    rw [hcompletion]
    dsimp only
    rw [if_pos (by simp [SessionState.canSubscribe, hsub, hshut, hopen]), bind_apply, subscribe_sent hq]
    rfl
  | idle hwait hclosed =>
    rcases hflight : h.agent.rotationInFlight with _ | _
    · have hcompletion : unsubscribeCompletion (h.driver.state.reconnect = .ready) h.agent.pendingInboundSettled false =
          .subscribe := by
        simpa [unsubscribeCompletion] using hwait
      rw [hcompletion]
      dsimp only
      rw [if_neg]
      · rfl
      · simp only [SessionState.canSubscribe, hsub, Bool.and_eq_true, Bool.not_eq_true', decide_true, true_and, not_and,
          Bool.not_eq_true]
        exact hclosed hflight
    · have hcompletion : unsubscribeCompletion (h.driver.state.reconnect = .ready) h.agent.pendingInboundSettled true =
          .wait := by
        simpa [unsubscribeCompletion] using hwait
      rw [hcompletion]
      rfl

theorem commandCall_decoded {delivery : CommandDelivery} {command : DeviceCommand}
    (hdecode : wire.decodeCommand delivery.identity delivery.commandId delivery.publish.payload = some command) :
    commandCall wire ambient delivery = .applyCommand delivery.topic command ambient.now ambient.catalog := by
  unfold commandCall
  rw [hdecode]

theorem commandCall_malformed {delivery : CommandDelivery}
    (hdecode : wire.decodeCommand delivery.identity delivery.commandId delivery.publish.payload = none) :
    commandCall wire ambient delivery =
      .rejectMalformedDelivery delivery.topic delivery.commandId.expose delivery.publish.payload ambient.now := by
  unfold commandCall
  rw [hdecode]

theorem observes_unscoped {delivery : CommandDelivery} (hscope : h.driver.recoveryCommand = none) :
    h.observes delivery = h := by
  unfold Host.observes
  rw [hscope]
  rfl

/-- **A handler whose requests are taken does what is said of it.** -/
theorem Handled.runs {event : MqttEvent} (hq : ambient.queueing = true) (hh : Handled pki wire ambient h event h' control) :
    handleEvent pki wire ambient event h = (.ok control, h') := by
  cases hh with
  | connected hmark hlisten =>
    simp only [handleEvent, onConnected, bind_assoc, modify_bind]
    have hmarked := hmark.runs
    unfold Host.connects at hmarked
    rw [bind_apply, hmarked]
    dsimp only
    rw [bind_apply, hlisten.runs hq]
    rfl
  | subscribed => rfl
  | held hask hhold =>
    simp only [handleEvent, onCommand, bind_assoc]
    rw [bind_apply, observe_apply]
    dsimp only
    rw [bind_apply, hask]
    dsimp only
    rw [driver_bind, agent_bind, if_pos]
    · rw [bind_apply]
      simp only [unsubscribeCommand, bind_assoc, driver_bind]
      rw [unsubscribe_sent hq]
      rfl
    · simp only [shouldHoldCommandAck, Bool.or_eq_true, decide_eq_true_eq, Bool.not_eq_true', or_assoc]
      exact hhold
  | acked hask hreply hopen hshut =>
    simp only [handleEvent, onCommand, bind_assoc]
    rw [bind_apply, observe_apply]
    dsimp only
    rw [bind_apply, hask]
    dsimp only
    rw [driver_bind, agent_bind, if_neg (by simp [shouldHoldCommandAck, hreply, hopen, hshut]), bind_apply]
    unfold acknowledgeCommand
    rw [request_sent hq]
    rfl
  | confirmed hpending hask hnext =>
    simp only [handleEvent, onOutboundAcknowledged, driver_bind]
    rw [if_neg (by simp [hpending]), modify_bind, bind_apply, hask]
    exact hnext.runs hq
  | released hheld =>
    rename_i delivery token
    have hheld' : (h.set fun s => { s with subscription := .inactive }).driver.state.pendingCommandAck =
        some (delivery, token) := hheld
    simp only [handleEvent, onUnsubscribed, modify_bind, driver_bind, hheld']
    unfold acknowledgeCommand
    rw [bind_apply, request_sent hq]
    rfl
  | unsubscribed hheld habsent hnext =>
    rename_i h₁
    have hheld' : (h.set fun s => { s with subscription := .inactive }).driver.state.pendingCommandAck = none := hheld
    simp only [handleEvent, onUnsubscribed, modify_bind, driver_bind, hheld']
    have hsub : h₁.driver.state.subscription = .inactive := by
      rw [habsent.driver]
      rfl
    rw [bind_apply, habsent.runs]
    exact hnext.runs hq hsub
  | inboundOther => rfl
  | inboundSettled hask hcontrol =>
    simp only [handleEvent, onInboundAcknowledged]
    rw [bind_apply, hask]
    dsimp only
    rw [driver_bind, hcontrol]
    by_cases hexit : h'.driver.state.reconnect = .ready ∧ h'.driver.state.subscription ≠ .unsubscribing
    · rw [if_pos hexit, if_pos (by simp [SessionState.unsubscribePending, hexit])]
      rfl
    · rw [if_neg hexit, if_neg]
      · rfl
      · simp only [SessionState.unsubscribePending, Bool.and_eq_true, decide_eq_true_eq, Bool.not_eq_true',
          decide_eq_false_iff_not]
        exact hexit
  | progress => rfl

/-! ### Rounds -/

theorem turn_proceeds {p : Packet} {event : MqttEvent} {session : MqttSession} (hq : ambient.queueing = true)
    (hpoll : h.driver.session.poll wire p = .ok (event, session))
    (hh : Handled pki wire ambient (h.polled p event session) event h₁ .proceed) :
    turn pki wire ambient (.packet p) h = head wire ambient h₁ := by
  simp only [turn, bind_apply, pollSession, hpoll, hh.runs hq]

/-- A handler that asks for the next session ends this one. -/
theorem turn_switches {p : Packet} {event : MqttEvent} {session : MqttSession} (hq : ambient.queueing = true)
    (hpoll : h.driver.session.poll wire p = .ok (event, session))
    (hh : Handled pki wire ambient (h.polled p event session) event h₁ .reconnect) :
    turn pki wire ambient (.packet p) h = (.ok (some .reconnect), h₁) := by
  simp only [turn, bind_apply, pollSession, hpoll, hh.runs hq]
  rfl

/-- A delivery that the agent refuses ends the session. -/
theorem turn_refused {p : Packet} {delivery : CommandDelivery} {session : MqttSession} {e : SessionError}
    (hpoll : h.driver.session.poll wire p = .ok (.command delivery, session))
    (hask : ask pki ambient (commandCall wire ambient delivery) ((h.polled p (.command delivery) session).observes delivery) =
      (.err e, h₁)) : turn pki wire ambient (.packet p) h = (.err e, h₁) := by
  simp only [turn, bind_apply, pollSession, hpoll, handleEvent, onCommand, observe_apply, hask]

theorem head_publishes {fact : OutboundFact} {payload : Bytes} (hq : ambient.queueing = true)
    (hcan : h.driver.state.canPublish = true) (hnext : h.agent.nextOutbound = some fact)
    (hencode : wire.encodeOutbound h.driver.sessionIdentity fact = some payload) :
    head wire ambient h = (.ok none, h.publishes fact payload) := by
  have hpublish : publishNext wire ambient h = (.ok (), h.publishes fact payload) := by
    unfold publishNext
    rw [driver_bind, agent_bind, if_pos hcan, hnext]
    dsimp only
    rw [hencode]
    dsimp only [publish]
    rw [bind_assoc, driver_bind, bind_apply, request_sent hq]
    cases fact <;> rfl
  unfold head
  rw [bind_apply, hpublish]
  dsimp only
  rw [driver_bind, agent_bind, if_neg]
  · rfl
  · simp [SessionState.shutdownIsQuiescent, SessionState.transportIsQuiescent, Host.publishes, Host.set, Host.sent]

theorem head_quiet (hshut : h.driver.state.shutdownDeadline = false)
    (hno : h.driver.state.canPublish = true → h.agent.nextOutbound = none) : head wire ambient h = (.ok none, h) := by
  have hpublish : publishNext wire ambient h = (.ok (), h) := by
    unfold publishNext
    rw [driver_bind, agent_bind]
    split_ifs with hcan
    · rw [hno hcan]
      rfl
    · rfl
  unfold head
  rw [bind_apply, hpublish]
  dsimp only
  rw [driver_bind, agent_bind, if_neg]
  · rfl
  · simp [SessionState.shutdownIsQuiescent, SessionState.transportIsQuiescent, hshut]

/-- A change that the device makes is answered in the session. -/
theorem ask_answered {call : Call} {reply : Reply} {faults : Faults} (c : StateV1) (hfaults : ambient.faults = faults)
    (hreply : (h.device.step pki (.call call faults)).1 = some (.ok reply))
    (hagent : (h.device.step pki (.call call faults)).2.agent = some { h.agent with state := c }) :
    ∃ tree, ask pki ambient call h = (.ok reply, h.asked call ⟨tree, c⟩ [.answered call reply c]) := by
  subst hfaults
  have hstep : h.device.step pki (.call call ambient.faults) =
      Device.afterCall h.agent (perform pki h.agent.retention ambient.faults call ⟨h.tree, h.agent.state⟩) := rfl
  rw [hstep] at hreply hagent
  unfold ask
  generalize perform pki h.agent.retention ambient.faults call ⟨h.tree, h.agent.state⟩ = r at hreply hagent ⊢
  obtain ⟨reply' | e | _, w⟩ := r <;> cases hreply
  have hw : w.state = c := congrArg Running.state (Option.some.inj hagent)
  refine ⟨w.tree, ?_⟩
  rw [← hw]

/-- A change that the device refuses is refused in the session. -/
theorem ask_refused {call : Call} {faults : Faults} {e : AgentError} (hfaults : ambient.faults = faults)
    (hreply : (h.device.step pki (.call call faults)).1 = some (.err e)) :
    ∃ w, ask pki ambient call h = (.err (.agent e), h.asked call w []) := by
  subst hfaults
  have hstep : h.device.step pki (.call call ambient.faults) =
      Device.afterCall h.agent (perform pki h.agent.retention ambient.faults call ⟨h.tree, h.agent.state⟩) := rfl
  rw [hstep] at hreply
  unfold ask
  generalize perform pki h.agent.retention ambient.faults call ⟨h.tree, h.agent.state⟩ = r at hreply ⊢
  obtain ⟨reply' | e' | _, w⟩ := r <;> cases hreply
  exact ⟨w, rfl⟩

end

/-! ### Runs -/

section Stands

variable {pki : Pki} {wire : Wire} {E : Broker} {ambient : Ambient} {inputs : List Input} {h h' : Host}

/-- A run that has come to this host, with no signal seen. -/
structure Stands (pki : Pki) (wire : Wire) (E : Broker) (inputs : List Input) (h : Host) : Prop where
  run : Process.fresh.run pki wire inputs = ⟨h.device, .session h.driver, false, h.deeds⟩
  along : Along pki wire E inputs

theorem trivial_inductive : Inductive pki wire E (fun _ _ => True) (fun _ => True) :=
  ⟨trivial, fun _ _ => trivial, fun _ _ => trivial, fun _ _ _ => ⟨trivial, trivial⟩, fun _ _ _ _ _ => ⟨trivial, fun _ => trivial⟩⟩

theorem Stands.good (hs : Stands pki wire E inputs h) : h.Good pki := by
  have hp := trivial_inductive.run hs.along
  rw [hs.run] at hp
  exact hp.good rfl

theorem Stands.meets {poll : Poll} (hs : Stands pki wire E inputs h) (hE : E h poll ambient) :
    Along pki wire E (inputs ++ [.turn poll ambient]) := by
  refine atEvery_concat.2 ⟨hs.along, ?_⟩
  rw [hs.run]
  rintro _ _ _ _ ⟨⟩ ⟨⟩ ⟨⟩
  exact hE

theorem Stands.step {p : Packet} (hs : Stands pki wire E inputs h) :
    Process.fresh.run pki wire (inputs ++ [.turn (.packet p) ambient]) =
      Process.after ⟨h.device, .session h.driver, false, h.deeds⟩ (turn pki wire ambient (.packet p) h) := by
  rw [Process.run_concat, hs.run]
  rfl

theorem Stands.turn {p : Packet} (hs : Stands pki wire E inputs h) (hE : E h (.packet p) ambient)
    (hturn : turn pki wire ambient (.packet p) h = (.ok none, h')) :
    Stands pki wire E (inputs ++ [.turn (.packet p) ambient]) h' := by
  refine ⟨?_, hs.meets hE⟩
  rw [hs.step, hturn]
  rfl

/-- A run whose session has ended on this host, with another to follow. -/
structure Closes (pki : Pki) (wire : Wire) (E : Broker) (inputs : List Input) (h : Host) : Prop where
  run : ∃ stage, (∀ driver, stage ≠ .session driver) ∧
    Process.fresh.run pki wire inputs = ⟨h.device, stage, false, h.deeds⟩
  along : Along pki wire E inputs

/-- The transport is lost. -/
theorem Stands.loses (hs : Stands pki wire E inputs h) (hE : E h (.failed .io) ambient) :
    Closes pki wire E (inputs ++ [.turn (.failed .io) ambient])
      { h with deeds := h.deeds ++ [.ended (.error (.mqtt (.connection .io)))] } := by
  refine ⟨⟨.retrying, fun _ h => (by cases h), ?_⟩, hs.meets hE⟩
  rw [Process.run_concat, hs.run]
  rfl

/-- The session asks to be followed by another. -/
theorem Stands.switches {p : Packet} (hs : Stands pki wire E inputs h) (hE : E h (.packet p) ambient)
    (hturn : Driver.turn pki wire ambient (.packet p) h = (.ok (some .reconnect), h')) :
    Closes pki wire E (inputs ++ [.turn (.packet p) ambient]) { h' with deeds := h'.deeds ++ [.ended (.ok .reconnect)] } := by
  refine ⟨⟨.opening, fun _ h => (by cases h), ?_⟩, hs.meets hE⟩
  rw [hs.step, hturn]
  rfl

/-- The next session is opened. -/
theorem Closes.opens {driver : SessionDriver} (hs : Closes pki wire E inputs h)
    (hcreate : SessionDriver.create h.agent true = .ok driver) : Stands pki wire E (inputs ++ [.connect true])
      { h with driver := driver, deeds := h.deeds ++ [.opened driver h.agent.state] } := by
  obtain ⟨⟨stage, hstage, hrun⟩, halong⟩ := hs
  refine ⟨?_, atEvery_concat.2 ⟨halong, fun _ _ _ _ _ _ h => by cases h⟩⟩
  rw [Process.run_concat, hrun]
  have hconnect : ∀ p : Process, p.device = h.device → p.stage = stage →
      p.step pki wire (.connect true) = p.connect h.agent true := by
    rintro ⟨device, stage', cancelled, deeds⟩ hdevice hstage'
    dsimp only at hdevice hstage'
    subst hdevice hstage'
    cases stage' with
    | session d => exact absurd rfl (hstage d)
    | opening => rfl
    | retrying => rfl
  rw [hconnect _ rfl rfl]
  unfold Process.connect
  rw [hcreate]
  rfl

end Stands

/-! ### A device and its broker -/

namespace Fixture

open Agent.Fixture
open Json (textMember numberMember)

/-- The members of a command in JSON; its name travels beside it. -/
def commandMembers (command : DeviceCommand) : List Json.Member :=
  [textMember "artifactDigest" command.artifactDigest.expose, textMember "artifactId" command.artifactId.expose,
    textMember "authorizationReceiptId" command.authorizationReceiptId.hyphenated,
    numberMember "deadlineEpochSeconds" command.deadlineEpochSeconds.1,
    numberMember "desiredGeneration" command.desiredGeneration.1, textMember "deviceId" command.deviceId.hyphenated,
    numberMember "fenceEpoch" command.fenceEpoch.1, textMember "intentDigest" command.intentDigest.expose,
    textMember "policyHash" command.policyHash.expose]

/-- The JSON text of the command that installs the next credential with a serial number. -/
def commandPayload (serial : UInt8) : Bytes := utf8 (Json.encode (commandMembers (command serial)))

def reasonText : Option CommandRejection → String
  | none => "None"
  | some .artifactUnavailable => "ArtifactUnavailable"
  | some .artifactDigestMismatch => "ArtifactDigestMismatch"
  | some .policyRejected => "PolicyRejected"
  | some .generationStale => "GenerationStale"
  | some .fenceEpochStale => "FenceEpochStale"
  | some .malformedCommand => "MalformedCommand"
  | some .deviceFailure => "DeviceFailure"

/-- The members of a fact in JSON. -/
def factMembers (identity : DeviceIdentity) : OutboundFact → List Json.Member
  | .commandAcknowledged _ f =>
    [textMember "commandId" f.commandId, numberMember "desiredGeneration" f.desiredGeneration,
      textMember "deviceId" identity.device.hyphenated, numberMember "deviceSequence" f.deviceSequence,
      numberMember "fenceEpoch" f.fenceEpoch, numberMember "observedAt" f.observedAt,
      textMember "reason" (reasonText f.rejection),
      textMember "result" (if f.rejection = none then "received" else "rejected")]
  | .certificateReported _ f =>
    [textMember "artifactDigest" f.artifactDigest, textMember "deviceId" identity.device.hyphenated,
      numberMember "deviceSequence" f.deviceSequence, ("expiresAt".toList, f.expiresAt.elim .null .number),
      numberMember "fenceEpoch" f.fenceEpoch, numberMember "observedAt" f.observedAt,
      numberMember "observedGeneration" f.observedGeneration, textMember "stateHash" f.stateHash]

/-- The JSON text of a fact. -/
def factPayload (identity : DeviceIdentity) (fact : OutboundFact) : Bytes := utf8 (Json.encode (factMembers identity fact))

/-- The two commands are all that decodes; what names its principal counts as signed. -/
def wire : Wire where
  decodeCommand _ commandId payload :=
    if payload = commandPayload 0 then some { command 0 with commandId := commandId }
    else if payload = commandPayload 1 then some { command 1 with commandId := commandId } else none
  encodeOutbound identity fact := some (factPayload identity fact)
  verifyCommand identity p := !p.retain && p.userProperties.lookup principalKey = some identity.principalUrn
  decodeCommand_id := by
    intro identity commandId payload command h
    dsimp only at h
    split_ifs at h <;> cases h <;> rfl

/-- Nothing fails, and the clock stands. -/
def ambient : Ambient := ⟨now, now, catalog 0, clean, true⟩

theorem ambient_faults : ambient.faults = clean := rfl

/-- What the client reports next. -/
def packet (p : Packet) : Input := .turn (.packet p) ambient

/-- What the broker signs for a command of an identity. -/
def frameBytes (identity : DeviceIdentity) (commandId : CommandId) (payload : Bytes) : Bytes :=
  assertionDomain ++ (signedFields (utf8 identity.principalUrn) (utf8 identity.commandTopic) (utf8 commandId.expose)
    (sha256 payload) 1 false).flatMap (counted 4)

/-- A signature of two digests. -/
def signature (signed : Bytes) : Bytes := sha256 signed ++ sha256 signed

/-- A publication on the command topic of an identity, as the broker sends it on. -/
def publish (identity : DeviceIdentity) (commandId : CommandId) (payload : Bytes) : Publish where
  pkid := 1
  topic := utf8 identity.commandTopic
  qos := .atLeastOnce
  retain := false
  payload := payload
  correlationData := some (utf8 commandId.expose)
  userProperties := [] ++ [(versionKey, assertionVersion), (principalKey, identity.principalUrn),
    (signatureKey, Broker.signatureText (signature (frameBytes identity commandId payload)))]

def delivery (identity : DeviceIdentity) (commandId : CommandId) (payload : Bytes) : CommandDelivery :=
  ⟨publish identity commandId payload, identity.commandTopic, commandId, identity⟩

theorem verify_publish {owner identity : DeviceIdentity} {commandId : CommandId} {payload : Bytes} :
    wire.verifyCommand identity (publish owner commandId payload) = true ↔ identity.principalUrn = owner.principalUrn := by
  have hversion : (principalKey == versionKey) = false := by decide
  simp [wire, publish, List.lookup_cons, hversion, eq_comm]

theorem poll_publish {m : MqttSession} {identity : DeviceIdentity} {commandId : CommandId} (payload : Bytes)
    (hscope : m.commandIdentity identity.commandTopic commandId.expose = some identity) :
    m.poll wire (.publish (publish identity commandId payload)) =
      .ok (.command (delivery identity commandId payload), { m with inflight := m.inflight + 1 }) := by
  have hok : m.commandDelivery wire (publish identity commandId payload) = .ok (delivery identity commandId payload) :=
    MqttSession.commandDelivery_ok (fromUtf8_utf8 _) rfl (fromUtf8_utf8 _) hscope (verify_publish.2 rfl)
  simp only [MqttSession.poll, hok]
  rfl

theorem poll_unsubAck {m : MqttSession} {topic : String} (hasked : m.unsubscribing = [topic]) :
    m.poll wire (.unsubAck topic [.success]) = .ok (.unsubscribed, { m with unsubscribing := [] }) := by
  simp [MqttSession.poll, MqttSession.validateUnsuback, hasked]

/-- The process after a run on this device. -/
abbrev run (inputs : List Input) : Process := Process.fresh.run Agent.Fixture.pki wire inputs

/-- A run that has come to this document and this session. -/
def At (E : Broker) (inputs : List Input) (s : StateV1) (d : SessionDriver) (deeds : List Deed) : Prop :=
  ∃ tree, Stands Agent.Fixture.pki wire E inputs ⟨tree, ⟨s, retention⟩, d, deeds⟩

variable {E : Broker} {inputs : List Input} {s s' : StateV1} {d d' : SessionDriver} {deeds deeds' : List Deed}

theorem At.turns {around : Ambient} {p : Packet} {event : MqttEvent} {session : MqttSession} (hat : At E inputs s d deeds)
    (hq : around.queueing = true) (hE : ∀ tree, E ⟨tree, ⟨s, retention⟩, d, deeds⟩ (.packet p) around)
    (hpoll : d.session.poll wire p = .ok (event, session))
    (hround : ∀ tree, Host.Good Agent.Fixture.pki ⟨tree, ⟨s, retention⟩, d, deeds⟩ → ∃ tree' h₁,
      Handled Agent.Fixture.pki wire around (Host.polled ⟨tree, ⟨s, retention⟩, d, deeds⟩ p event session) event h₁ .proceed ∧
        head wire around h₁ = (.ok none, ⟨tree', ⟨s', retention⟩, d', deeds'⟩)) :
    At E (inputs ++ [.turn (.packet p) around]) s' d' deeds' := by
  obtain ⟨tree, hs⟩ := hat
  obtain ⟨tree', h₁, hhandled, hhead⟩ := hround tree hs.good
  exact ⟨tree', hs.turn (hE tree) ((turn_proceeds hq hpoll hhandled).trans hhead)⟩

theorem At.proceeds {p : Packet} {event : MqttEvent} {session : MqttSession} (hat : At E inputs s d deeds)
    (hE : ∀ tree, E ⟨tree, ⟨s, retention⟩, d, deeds⟩ (.packet p) ambient)
    (hpoll : d.session.poll wire p = .ok (event, session))
    (hround : ∀ tree, Host.Good Agent.Fixture.pki ⟨tree, ⟨s, retention⟩, d, deeds⟩ → ∃ tree' h₁,
      Handled Agent.Fixture.pki wire ambient (Host.polled ⟨tree, ⟨s, retention⟩, d, deeds⟩ p event session) event h₁ .proceed ∧
        head wire ambient h₁ = (.ok none, ⟨tree', ⟨s', retention⟩, d', deeds'⟩)) :
    At E (inputs ++ [packet p]) s' d' deeds' := hat.turns rfl hE hpoll hround

/-- The first session. -/
def opened : SessionDriver := ⟨MqttSession.new (identity one) 1 none, identity one, none, {}⟩

/-- It is connected and has its subscription. -/
def listening : SessionDriver := { opened with state := { connection := .connected, subscription := .active } }

def starting : List Input := [.start config now clean] ++ [.connect true]

theorem at_opened : At E starting first opened [.opened opened first] := by
  have hstart : Process.fresh.run Agent.Fixture.pki wire [.start config now clean] =
      ⟨Device.fresh.run Agent.Fixture.pki [start], .opening, false, []⟩ := rfl
  have hmeets : Along Agent.Fixture.pki wire E starting :=
    atEvery_concat.2 ⟨atEvery_concat.2 ⟨atEvery_nil, fun _ _ _ _ _ _ h => by cases h⟩, fun _ _ _ _ _ _ h => by cases h⟩
  have hcreate : SessionDriver.create ⟨first, retention⟩ true = .ok opened := by
    decide +kernel
  have hagent := run_start
  generalize Device.fresh.run Agent.Fixture.pki [start] = device at hstart hagent
  obtain ⟨tree, agent⟩ := device
  cases hagent
  refine ⟨tree, ?_, hmeets⟩
  unfold starting
  rw [Process.run_concat, hstart]
  show Process.connect _ ⟨first, retention⟩ true = _
  unfold Process.connect
  rw [hcreate]
  rfl

/-- The broker has this behaviour where MQTT does, deliveries aside. -/
def Admits (E : Broker) : Prop := ∀ h p ambient, Allowed h (.packet p) ambient → (∀ q, p ≠ .publish q) → E h (.packet p) ambient

theorem allowed_connected {h : Host} {p : Packet} {ambient : Ambient} (hconn : h.driver.state.connection = .connected)
    (hne : p ≠ .connAck) (hpublish : ∀ q, p = .publish q → h.driver.session.inflight = 0)
    (hsub : ∀ codes, p = .subAck codes → 0 < h.driver.session.subscribing)
    (hunsub : ∀ topic reasons, p = .unsubAck topic reasons → topic ∈ h.driver.session.unsubscribing) :
    Allowed h (.packet p) ambient := by
  refine ⟨?_, fun q hq => hpublish q (by cases hq; rfl), fun codes hq => hsub codes (by cases hq; rfl),
    fun topic reasons hq => hunsub topic reasons (by cases hq; rfl)⟩
  rintro _ ⟨⟩
  simp [hne, hconn]

theorem allowed_publish {h : Host} {q : Publish} {ambient : Ambient} (hconn : h.driver.state.connection = .connected)
    (hfree : h.driver.session.inflight = 0) : Allowed h (.packet (.publish q)) ambient :=
  allowed_connected hconn (fun h => by cases h) (fun _ _ => hfree) (fun _ h => by cases h) fun _ _ h => by cases h

theorem allowed_unsubAck {h : Host} {topic : String} {reasons : List UnsubAckReason} {ambient : Ambient}
    (hconn : h.driver.state.connection = .connected) (hasked : topic ∈ h.driver.session.unsubscribing) :
    Allowed h (.packet (.unsubAck topic reasons)) ambient := by
  refine allowed_connected hconn (fun h => by cases h) (fun _ h => by cases h) (fun _ h => by cases h) ?_
  rintro _ _ ⟨⟩
  exact hasked

/-- Only a delivery, an UNSUBACK and the like are subject to a rule. -/
theorem allowed_acknowledgement {h : Host} {pkid : ℕ} {p : Packet} {ambient : Ambient}
    (hconn : h.driver.state.connection = .connected)
    (hp : p = .sentPubAck pkid ∨ p = .sentPublish pkid ∨ p = .pubAck pkid) : Allowed h (.packet p) ambient := by
  refine allowed_connected hconn ?_ ?_ ?_ ?_ <;> rcases hp with rfl | rfl | rfl <;> simp

theorem allowed_connAck {h : Host} {ambient : Ambient} (hconn : h.driver.state.connection = .connecting) :
    Allowed h (.packet .connAck) ambient := by
  refine ⟨?_, fun _ h => (by cases h), fun _ h => (by cases h), fun _ _ h => by cases h⟩
  rintro _ ⟨⟩
  simp [hconn]

theorem allowed_subAck {h : Host} {codes : List SubscribeReasonCode} {ambient : Ambient}
    (hconn : h.driver.state.connection = .connected) (hasked : 0 < h.driver.session.subscribing) :
    Allowed h (.packet (.subAck codes)) ambient :=
  allowed_connected hconn (fun h => by cases h) (fun _ h => by cases h) (fun _ _ => hasked) fun _ _ h => by cases h

/-- A subscription is granted, with nothing to publish. -/
theorem At.subscribes (hat : At E inputs s d deeds)
    (hE : ∀ tree, E ⟨tree, ⟨s, retention⟩, d, deeds⟩ (.packet (.subAck [.success .atLeastOnce])) ambient)
    (hshut : d.state.shutdownDeadline = false) (hnext : s.nextOutbound = none) :
    At E (inputs ++ [packet (.subAck [.success .atLeastOnce])]) s
      { d with
        session := { d.session with subscribing := d.session.subscribing - 1 }
        state := { d.state with subscription := .active } }
      (deeds ++ [.polled (.subAck [.success .atLeastOnce]) .subscribed]) :=
  hat.proceeds hE rfl fun tree _ => ⟨tree, _, .subscribed, head_quiet hshut fun _ => hnext⟩

/-- The subscription is requested and granted. -/
def listen : List Input := starting ++ [packet .connAck] ++ [packet (.subAck [.success .atLeastOnce])]

theorem at_listens (hconn : ∀ h, h.agent = ⟨first, retention⟩ → Allowed h (.packet .connAck) ambient →
      E h (.packet .connAck) ambient)
    (hsub : ∀ h codes, Allowed h (.packet (.subAck codes)) ambient → E h (.packet (.subAck codes)) ambient) :
    At E listen first listening [.opened opened first, .polled .connAck .connected, .queued (.subscribe topic),
      .polled (.subAck [.success .atLeastOnce]) .subscribed] := by
  have hidle : first.rotationInFlight = false := by decide +kernel
  have hopen : Running.commandIntakeOpen ⟨first, retention⟩ now = true := by decide +kernel
  have hconnected : At E (starting ++ [packet .connAck]) first
      { opened with session := { opened.session with subscribing := 1 }, state := { connection := .connected } }
      [.opened opened first, .polled .connAck .connected, .queued (.subscribe topic)] :=
    at_opened.proceeds (fun _ => hconn _ rfl (allowed_connAck rfl)) rfl fun tree hg =>
      ⟨tree, _, .connected (.unmarked rfl) (.subscribe rfl rfl hidle hopen), head_quiet rfl fun _ => rfl⟩
  exact hconnected.subscribes (fun _ => hsub _ _ (allowed_subAck rfl Nat.one_pos)) rfl rfl

theorem at_listening (hE : Admits E) : At E listen first listening [.opened opened first, .polled .connAck .connected,
    .queued (.subscribe topic), .polled (.subAck [.success .atLeastOnce]) .subscribed] :=
  at_listens (fun _ _ ha => hE _ _ _ ha fun _ h => by cases h) fun _ _ ha => hE _ _ _ ha fun _ h => by cases h

/-! ### Commands that do not decode -/

/-- The names of the commands that are sent without a payload that decodes, 1024 of them. -/
def name (n : ℕ) : CommandId where
  expose := String.ofList ['c', Char.ofNat (64 + n / 32 % 32), Char.ofNat (64 + n % 32)]
  valid := by
    have hletter : ∀ i : Fin 32, isControl (Char.ofNat (64 + i)) = false := by decide +kernel
    have hhigh := hletter ⟨n / 32 % 32, Nat.mod_lt _ (by decide)⟩
    have hlow := hletter ⟨n % 32, Nat.mod_lt _ (by decide)⟩
    simp only at hhigh hlow
    simp [validCommandId, hhigh, hlow, show isControl 'c' = false by decide]

theorem name_inj {n m : ℕ} (hn : n < 1024) (hm : m < 1024) (h : (name n).expose = (name m).expose) : n = m := by
  have hletter : ∀ i j : Fin 32, Char.ofNat (64 + i) = Char.ofNat (64 + j) → i = j := by decide +kernel
  have hlist := String.ofList_inj.1 h
  simp only [List.cons.injEq, and_true, true_and] at hlist
  have hhigh := congrArg Fin.val (hletter ⟨n / 32 % 32, Nat.mod_lt _ (by decide)⟩ ⟨m / 32 % 32, Nat.mod_lt _ (by decide)⟩ hlist.1)
  have hlow := congrArg Fin.val (hletter ⟨n % 32, Nat.mod_lt _ (by decide)⟩ ⟨m % 32, Nat.mod_lt _ (by decide)⟩ hlist.2)
  simp only at hhigh hlow
  omega

/-- What is recorded of one of them. -/
def rejection (n : ℕ) : RejectedCommand :=
  rejectedCommand retention (name n).expose (malformedFingerprint topic (name n).expose []) 1 1 .malformedCommand now

def journalEntry (n : ℕ) : StoredCommand :=
  ⟨(name n).expose, malformedFingerprint topic (name n).expose [], (rejection n).acknowledgement (n + 1), now + 300⟩

def rejectionEntry (n : ℕ) : StoredOutbound := .ack (eventId .ack (name n).expose) ((rejection n).acknowledgement (n + 1))

/-- The document with the first of them in its journal, and these in its outbox. -/
def resting (n : ℕ) (outbox : List StoredOutbound) : StateV1 :=
  { first with deviceSequence := n, commandJournal := (List.range n).map journalEntry, outbox := outbox }

theorem resting_expire (n : ℕ) (outbox : List StoredOutbound) : (resting n outbox).expireCommandJournal now = resting n outbox := by
  have hkeep : (resting n outbox).commandJournal.filter (fun c => now < c.retainUntilEpochSeconds ∨
      (none : Option String) = some c.commandId) = (resting n outbox).commandJournal := by
    refine List.filter_eq_self.2 fun c hc => ?_
    obtain ⟨k, -, rfl⟩ := List.mem_map.1 hc
    simp [journalEntry]
  exact congrArg (fun journal => { resting n outbox with commandJournal := journal }) hkeep

theorem resting_reject {n : ℕ} (hn : n < 1024) :
    ((resting n []).expireCommandJournal now).reject (rejection n) = resting (n + 1) [rejectionEntry n] := by
  have hsum : saturatingAdd n 1 = n + 1 := saturatingAdd_one_of_lt (lt_trans hn (by decide))
  have hdeadline : (rejection n).retainUntilEpochSeconds = now + 300 := rfl
  rw [resting_expire]
  unfold StateV1.reject
  simp only [resting, hsum, hdeadline, List.range_succ, List.map_append]
  rfl

/-- The empty payload does not decode. -/
theorem decode_empty (identity : DeviceIdentity) (commandId : CommandId) : wire.decodeCommand identity commandId [] = none := by
  have hne : ∀ serial, [] ≠ commandPayload serial := by
    intro serial h
    have hpos := Char.utf8Size_pos '\x7b'
    have hlen := congrArg List.length h
    rw [commandPayload, Json.encode, utf8_ofList, commandMembers, Json.print, List.flatMap_cons, List.length_append,
      String.length_utf8EncodeChar, List.length_nil] at hlen
    omega
  simp only [wire, if_neg (hne 0), if_neg (hne 1)]

theorem ask_malformed {n : ℕ} (hn : n < 1024) {h : Host} (hg : h.Good Agent.Fixture.pki)
    (hagent : h.agent = ⟨resting n [], retention⟩) : ∃ tree,
      ask Agent.Fixture.pki ambient (.rejectMalformedDelivery topic (name n).expose [] now) h =
        (.ok (.outcome (.rejected .malformedCommand)), h.asked (.rejectMalformedDelivery topic (name n).expose [] now)
          ⟨tree, resting (n + 1) [rejectionEntry n]⟩ [.answered (.rejectMalformedDelivery topic (name n).expose [] now)
            (.outcome (.rejected .malformedCommand)) (resting (n + 1) [rejectionEntry n])]) := by
  obtain ⟨tree, agent, d, deeds⟩ := h
  obtain rfl : agent = ⟨resting n [], retention⟩ := hagent
  have hs := hg.coherent.consistent
  have hnew : ∀ c ∈ (resting n []).commandJournal, c.commandId = (name n).expose → c.retainUntilEpochSeconds ≤ now := by
    intro c hc hname
    obtain ⟨k, hk, rfl⟩ := List.mem_map.1 hc
    have hkn := List.mem_range.1 hk
    exact absurd (name_inj (lt_trans hkn hn) hn hname) (Nat.ne_of_lt hkn)
  have hroom : ((resting n []).expireCommandJournal now).commandJournal.length < commandJournalLimit := by
    rw [resting_expire]
    have hlen : (resting n []).commandJournal.length = n := by simp [resting]
    rw [hlen]
    exact hn
  have htopic : topic = hs.identity.commandTopic := rfl
  have hlinger : ¬ (resting n []).Lingers (name n).expose := by
    rintro (⟨o, ho, -⟩ | ⟨p, hp, -⟩)
    · cases ho
    · cases hp
  have hseq : (resting n []).deviceSequence < u64Max := show n < 18446744073709551615 by omega
  have hstate : ((resting n []).expireCommandJournal now).reject (rejectedCommand retention (name n).expose
      (malformedFingerprint topic (name n).expose []) (resting n []).current.desiredGeneration (resting n []).current.fenceEpoch
      .malformedCommand now) = resting (n + 1) [rejectionEntry n] := resting_reject hn
  obtain ⟨hreply, hafter⟩ := hg.sound.step_malformed positiveExpiry rfl hs htopic
    (ne_empty_of_validCommandId (name n).valid) hnew hlinger (show 0 < 128 by decide) hroom hseq
  rw [hstate] at hafter
  exact ask_answered (resting (n + 1) [rejectionEntry n]) ambient_faults hreply hafter

/-- The call such a delivery leads to. -/
def badCall (n : ℕ) : Call := .rejectMalformedDelivery topic (name n).expose [] now

def badDelivery (n : ℕ) : CommandDelivery := delivery (identity one) (name n) []

theorem commandCall_bad (n : ℕ) : commandCall wire ambient (badDelivery n) = badCall n :=
  commandCall_malformed (decode_empty _ _)

/-- The acknowledgement of its rejection, as it is published. -/
def badFact (n : ℕ) : OutboundFact :=
  .commandAcknowledged (eventId .ack (name n).expose) ((rejection n).acknowledgement (n + 1)).toFact

/-- With room in the journal and in the outbox, intake is open. -/
theorem intakeOpen_of_room {s : StateV1} {retention : NonZeroU32} {now : ℕ} (hjournal : s.commandJournal.length < 1024)
    (hout : s.outbox.length ≤ 126) : Running.commandIntakeOpen ⟨s, retention⟩ now = true := by
  have hroom : s.reserveOutbox 2 = .ok () := if_pos (show s.outbox.length + 2 ≤ 128 by omega)
  have hcapacity : s.commandJournalHasCapacity now = true := by
    unfold StateV1.commandJournalHasCapacity
    rw [Bool.or_eq_true, decide_eq_true_eq]
    exact .inl hjournal
  unfold Running.commandIntakeOpen
  rw [hroom, hcapacity]
  rfl

theorem resting_open {n : ℕ} {outbox : List StoredOutbound} (hn : n < 1024) (hout : outbox.length ≤ 126) :
    Running.commandIntakeOpen ⟨resting n outbox, retention⟩ now = true :=
  intakeOpen_of_room (by simpa [resting] using hn) hout

/-- What may be published is confirmed. -/
theorem ask_confirms {s : StateV1} {entry : StoredOutbound} {h : Host} (hg : h.Good Agent.Fixture.pki)
    (hagent : h.agent = ⟨s, retention⟩) (hmem : entry ∈ s.outbox) (hblocked : entry.blockedPayload = none)
    (hready : entry.isReportReady = true → s.pendingSettled = true) : ∃ tree,
      ask Agent.Fixture.pki ambient (.confirmOutbound entry.eventId) h = (.ok .done, h.asked (.confirmOutbound entry.eventId)
        ⟨tree, s.confirmed entry⟩ [.answered (.confirmOutbound entry.eventId) .done (s.confirmed entry)]) := by
  obtain ⟨tree, agent, d, deeds⟩ := h
  obtain rfl : agent = ⟨s, retention⟩ := hagent
  obtain ⟨hreply, hafter⟩ := hg.sound.step_confirm rfl (hg.sound.expires positiveExpiry rfl) hmem hblocked hready
  exact ask_answered _ ambient_faults hreply hafter

/-- The session while the PUBACK and the acknowledgement are on their way. -/
def answering (n : ℕ) : SessionDriver where
  session := { opened.session with
    inboundAcknowledgements := [(1, none)], awaitingPacketId := [(badFact n).eventId], inflight := 1 }
  sessionIdentity := identity one
  recoveryCommand := none
  state := { connection := .connected, subscription := .active, publish := .pending }

/-- While there is room, such a delivery is answered, its PUBACK queued and its acknowledgement published. -/
theorem At.answers {n : ℕ} (hn : n + 1 < 1024) (hat : At E inputs (resting n []) listening deeds)
    (hE : ∀ tree, E ⟨tree, ⟨resting n [], retention⟩, listening, deeds⟩ (.packet (.publish (badDelivery n).publish)) ambient) :
    At E (inputs ++ [packet (.publish (badDelivery n).publish)]) (resting (n + 1) [rejectionEntry n]) (answering n)
      (deeds ++ [.polled (.publish (badDelivery n).publish) (.command (badDelivery n))] ++ [.asked (badCall n) (resting n []),
        .answered (badCall n) (.outcome (.rejected .malformedCommand)) (resting (n + 1) [rejectionEntry n])] ++
        [.queued (.ack (badDelivery n))] ++ [.queued (.publish (commandAcknowledgedTopic (identity one)) (badFact n)
          (factPayload (identity one) (badFact n)))]) := by
  refine hat.proceeds hE (poll_publish [] (if_pos (by decide))) fun tree hg => ?_
  obtain ⟨tree', hask⟩ := ask_malformed (lt_trans (Nat.lt_succ_self n) hn) (hg.polled (.publish (badDelivery n).publish)
    (.command (badDelivery n)) { listening.session with inflight := 1 }) rfl
  rw [← badCall, ← commandCall_bad] at hask
  have hopen : Running.commandIntakeOpen ⟨resting (n + 1) [rejectionEntry n], retention⟩ now = true :=
    resting_open hn (show 1 ≤ 126 by decide)
  refine ⟨tree', _, .acked hask (fun h => by cases h) hopen rfl, ?_⟩
  rw [commandCall_bad]
  exact head_publishes rfl rfl rfl rfl

end Fixture

end RssIncubator.Driver
