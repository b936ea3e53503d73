import RssIncubator.Driver.Process

/-!
# All that can happen in a round

The inversion of `turn`: one constructor for each way a handler can come to its end, with the guards it has passed and
the host it leaves.  `turn_cases` puts the poll before the handler and the head of the loop after it.  Everything proved
about the driver goes through it.
-/

namespace RssIncubator.Driver

open Agent Lib Prog

/-! ### The hosts that requests leave -/

namespace Host

/-- The subscription to the command topic is requested. -/
def subscribes (h : Host) : Host :=
  h.sent (.subscribe h.driver.session.topics.commandTopic) fun m => { m with subscribing := m.subscribing + 1 }

/-- The end of a subscription is requested. -/
def unsubscribes (h : Host) (topic : String) : Host :=
  (h.sent (.unsubscribe topic) fun m => { m with unsubscribing := m.unsubscribing ++ [topic] }).set
    fun s => { s with subscription := .unsubscribing }

/-- A delivery is kept back until the subscription has ended. -/
def holds (h : Host) (delivery : CommandDelivery) (token : Option String) : Host :=
  (h.unsubscribes h.driver.session.topics.commandTopic).set fun s => { s with pendingCommandAck := some (delivery, token) }

/-- The PUBACK of a delivery is queued. -/
def acks (h : Host) (delivery : CommandDelivery) (token : Option String) : Host :=
  h.sent (.ack delivery) fun m => { m with
    inboundAcknowledgements := PacketMap.insert m.inboundAcknowledgements delivery.publish.pkid token }

/-- The topic of a fact. -/
def factTopic (h : Host) : OutboundFact → String
  | .commandAcknowledged _ _ => commandAcknowledgedTopic h.driver.session.topics
  | .certificateReported _ _ => certificateReportedTopic h.driver.session.topics

/-- A fact is published. -/
def publishes (h : Host) (fact : OutboundFact) (payload : Bytes) : Host :=
  (h.sent (.publish (h.factTopic fact) fact payload) fun m => { m with
    awaitingPacketId := m.awaitingPacketId ++ [fact.eventId] }).set fun s => { s with publish := .pending }

/-- A delivery on the old topic is noticed. -/
def observes (h : Host) (delivery : CommandDelivery) : Host :=
  if h.driver.recoveryCommand.any fun scope => scope.topic = delivery.topic then
    h.set fun s => { s with recoveryObservation := .observed }
  else h

/-- The connection stands. -/
def connects (h : Host) : Host := h.set fun s => { s with connection := .connected, subscription := .inactive }

end Host

/-! ### Handlers -/

section Handlers

variable (pki : Pki) (wire : Wire) (ambient : Ambient)

/-- The change a handler asks the agent for. -/
inductive Asks (h : Host) : MqttEvent → Call → Prop
  | mark {revision} (hrec : h.agent.reconnectRevision = .ok (some revision)) :
      Asks h .connected (.markCurrentCredentialConnected revision)
  | command (delivery : CommandDelivery) : Asks h (.command delivery) (commandCall wire ambient delivery)
  | confirm {event} (hpending : h.driver.state.publish = .pending) : Asks h (.outboundAcknowledged event) (.confirmOutbound event)
  | absent (hheld : h.driver.state.pendingCommandAck = none) (hscope : h.driver.recoveryCommand ≠ none)
      (hobs : h.driver.state.recoveryObservation = .notObserved) (hset : h.agent.pendingInboundSettled = false) :
      Asks h .unsubscribed .markPendingInboundAbsent
  | settle {token} : Asks h (.inboundAcknowledged (some token)) (.markPendingInboundSettled token)

/-- At CONNACK the revision that asked for the session is reported to the agent. -/
inductive Marks (h : Host) : Host → Prop
  | unmarked (hrec : h.agent.reconnectRevision = .ok none) : Marks h h
  | marked {revision reply h₁} (hrec : h.agent.reconnectRevision = .ok (some revision))
      (hask : ask pki ambient (.markCurrentCredentialConnected revision) h = (.ok reply, h₁)) : Marks h h₁

/-- Then the old subscription is ended, or a new one requested. -/
inductive Listens (h : Host) : Host → Prop
  | recovery {scope} (hdriver : h.driver.recoveryCommand ≠ none) (hscope : h.driver.session.recoveryCommand = some scope) :
      Listens h (h.unsubscribes scope.topic)
  | subscribe (hdriver : h.driver.recoveryCommand = none) (hshut : h.driver.state.shutdownDeadline = false)
      (hflight : h.agent.rotationInFlight = false) (hopen : h.agent.commandIntakeOpen ambient.later = true) :
      Listens h h.subscribes
  | wait (hdriver : h.driver.recoveryCommand = none) (hno : h.driver.state.shutdownDeadline = false →
      h.agent.rotationInFlight = false → h.agent.commandIntakeOpen ambient.later = false) : Listens h h

/-- At UNSUBACK a recovery scope that has seen nothing settles the pending delivery. -/
inductive Absents (h : Host) : Host → Prop
  | absent {reply h₁} (hscope : h.driver.recoveryCommand ≠ none)
      (hobs : h.driver.state.recoveryObservation = .notObserved) (hset : h.agent.pendingInboundSettled = false)
      (hask : ask pki ambient .markPendingInboundAbsent h = (.ok reply, h₁)) : Absents h h₁
  | present (hno : h.driver.recoveryCommand ≠ none → h.driver.state.recoveryObservation = .notObserved →
      h.agent.pendingInboundSettled = true) : Absents h h

/-- After the PUBACK of a fact: the switch is due, or the subscription may come back. -/
inductive Confirms (h : Host) : Host → DriverControl → Prop
  | exit {revision} (hrec : h.agent.reconnectRevision = .ok (some revision))
      (hsub : h.driver.state.subscription ≠ .unsubscribing) (hset : h.agent.pendingInboundSettled = true) :
      Confirms h h .reconnect
  | unsubscribe {revision} (hrec : h.agent.reconnectRevision = .ok (some revision))
      (hset : h.agent.pendingInboundSettled = false) (hcan : h.driver.state.canUnsubscribe = true) :
      Confirms h ((h.set fun s => { s with reconnect := .ready }).unsubscribes h.driver.session.topics.commandTopic) .proceed
  | ready {revision} (hrec : h.agent.reconnectRevision = .ok (some revision))
      (hno : h.driver.state.subscription = .unsubscribing ∨ h.agent.pendingInboundSettled = false)
      (hcan : h.driver.state.canUnsubscribe = false) : Confirms h (h.set fun s => { s with reconnect := .ready }) .proceed
  | subscribe (hrec : h.agent.reconnectRevision = .ok none) (hsub : h.driver.state.subscription = .inactive)
      (hshut : h.driver.state.shutdownDeadline = false) (hopen : h.agent.commandIntakeOpen ambient.later = true) :
      Confirms h h.subscribes .proceed
  | idle (hrec : h.agent.reconnectRevision = .ok none) (hno : h.driver.state.subscription = .inactive →
      h.driver.state.shutdownDeadline = false → h.agent.commandIntakeOpen ambient.later = false) : Confirms h h .proceed

/-- After an UNSUBACK that releases nothing: the switch is due, or the subscription may come back. -/
inductive Completes (h : Host) : Host → DriverControl → Prop
  | exit (hready : h.driver.state.reconnect = .ready) (hset : h.agent.pendingInboundSettled = true) :
      Completes h h .reconnect
  | subscribe (hno : h.driver.state.reconnect = .ready → h.agent.pendingInboundSettled = false)
      (hflight : h.agent.rotationInFlight = false) (hshut : h.driver.state.shutdownDeadline = false)
      (hopen : h.agent.commandIntakeOpen ambient.later = true) : Completes h h.subscribes .proceed
  | idle (hno : h.driver.state.reconnect = .ready → h.agent.pendingInboundSettled = false)
      (hclosed : h.agent.rotationInFlight = false → h.driver.state.shutdownDeadline = false →
        h.agent.commandIntakeOpen ambient.later = false) : Completes h h .proceed

/-- A handler that comes to its end. -/
inductive Handled (h : Host) : MqttEvent → Host → DriverControl → Prop
  | connected {h₁ h₂} (hmark : Marks pki ambient h.connects h₁) (hlisten : Listens ambient h₁ h₂) :
      Handled h .connected h₂ .proceed
  | subscribed : Handled h .subscribed (h.set fun s => { s with subscription := .active }) .proceed
  | held {delivery reply h₁}
      (hask : ask pki ambient (commandCall wire ambient delivery) (h.observes delivery) = (.ok reply, h₁))
      (hhold : reply = .outcome .accepted ∨ h₁.agent.commandIntakeOpen ambient.later = false ∨
        h₁.driver.state.shutdownDeadline = true) :
      Handled h (.command delivery)
        (h₁.holds delivery (h₁.agent.pendingDeliverySettlementToken delivery.topic delivery.commandId.expose)) .proceed
  | acked {delivery reply h₁}
      (hask : ask pki ambient (commandCall wire ambient delivery) (h.observes delivery) = (.ok reply, h₁))
      (hreply : reply ≠ .outcome .accepted) (hopen : h₁.agent.commandIntakeOpen ambient.later = true)
      (hshut : h₁.driver.state.shutdownDeadline = false) :
      Handled h (.command delivery)
        (h₁.acks delivery (h₁.agent.pendingDeliverySettlementToken delivery.topic delivery.commandId.expose)) .proceed
  | confirmed {event reply h₁ h₂ control} (hpending : h.driver.state.publish = .pending)
      (hask : ask pki ambient (.confirmOutbound event) (h.set fun s => { s with publish := .idle }) = (.ok reply, h₁))
      (hnext : Confirms ambient h₁ h₂ control) : Handled h (.outboundAcknowledged event) h₂ control
  | released {delivery token} (hheld : h.driver.state.pendingCommandAck = some (delivery, token)) :
      Handled h .unsubscribed
        ((h.set fun s => { s with subscription := .inactive, pendingCommandAck := none }).acks delivery token) .proceed
  | unsubscribed {h₁ h₂ control} (hheld : h.driver.state.pendingCommandAck = none)
      (habsent : Absents pki ambient (h.set fun s => { s with subscription := .inactive }) h₁)
      (hnext : Completes ambient h₁ h₂ control) : Handled h .unsubscribed h₂ control
  | inboundOther : Handled h (.inboundAcknowledged none) h .proceed
  | inboundSettled {token reply h₁ control}
      (hask : ask pki ambient (.markPendingInboundSettled token) h = (.ok reply, h₁))
      (hcontrol : control = if h₁.driver.state.reconnect = .ready ∧ h₁.driver.state.subscription ≠ .unsubscribing
        then .reconnect else .proceed) : Handled h (.inboundAcknowledged (some token)) h₁ control
  | progress : Handled h .transportProgress h .proceed

/-- A host from which nothing has been sent: at most one change was made. -/
inductive Before (h : Host) (event : MqttEvent) : Host → Prop
  | unasked (f : SessionState → SessionState) : Before h event (h.set f)
  | asked {f call reply h₁} (g : SessionState → SessionState) (hasks : Asks wire ambient h event call)
      (hask : ask pki ambient call (h.set f) = (.ok reply, h₁)) : Before h event (h₁.set g)

/-- A handler that fails: the agent refused the change, or something else went wrong before a request was queued. -/
inductive Broken (h : Host) (event : MqttEvent) : SessionError → Host → Prop
  | refused {f call e h₁} (hasks : Asks wire ambient h event call)
      (hask : ask pki ambient call (h.set f) = (.err (.agent e), h₁)) : Broken h event (.agent e) h₁
  | unqueued {h₁} (hbefore : Before pki wire ambient h event h₁) : Broken h event (.mqtt .request) h₁
  | unknown {h₁} (hbefore : Before pki wire ambient h event h₁) : Broken h event (.agent .unknownOutbound) h₁
  | invalid {h₁} (hbefore : Before pki wire ambient h event h₁) : Broken h event (.agent (.store .invalidState)) h₁
  | unscoped {h₁} (hbefore : Before pki wire ambient h event h₁) (hdriver : h₁.driver.recoveryCommand ≠ none)
      (hscope : h₁.driver.session.recoveryCommand = none) : Broken h event (.mqtt .invalidCommandFrame) h₁

/-- A handler under which the machine stops. -/
inductive Crashed (h : Host) (event : MqttEvent) : Host → Prop
  | crashed {f call h₁} (hasks : Asks wire ambient h event call)
      (hask : ask pki ambient call (h.set f) = (.crash, h₁)) : Crashed h event h₁

/-- The three ways a handler ends. -/
abbrev HandlerEnd (h : Host) (event : MqttEvent) : Outcome SessionError DriverControl × Host → Prop :=
  Ends (fun control h' => Handled pki wire ambient h event h' control) (fun e h' => Broken pki wire ambient h event e h')
    (fun h' => Crashed pki wire ambient h event h')

end Handlers

/-! ### Their inversion -/

section Inversion

variable {pki : Pki} {wire : Wire} {ambient : Ambient} {h h₁ : Host} {event : MqttEvent} {α : Type}

theorem driver_bind (f : SessionDriver → DriverProg α) : (driver >>= f) h = f h.driver h := rfl

theorem agent_bind (f : Running → DriverProg α) : (agent >>= f) h = f h.agent h := rfl

theorem modify_bind (g : SessionState → SessionState) (f : Unit → DriverProg α) : (modify g >>= f) h = f () (h.set g) := rfl

/-- The agent only refuses with its own errors. -/
theorem ask_err {call : Call} {e : SessionError} (hask : ask pki ambient call h = (.err e, h₁)) : ∃ e', e = .agent e' := by
  unfold ask at hask
  generalize perform pki h.agent.retention ambient.faults call ⟨h.tree, h.agent.state⟩ = r at hask
  obtain ⟨_ | e' | _, w⟩ := r
  · cases hask
  · cases hask
    exact ⟨e', rfl⟩
  · cases hask

theorem ask_driver {call : Call} {o : Outcome SessionError Reply} (hask : ask pki ambient call h = (o, h₁)) :
    h₁.driver = h.driver := by
  unfold ask at hask
  generalize perform pki h.agent.retention ambient.faults call ⟨h.tree, h.agent.state⟩ = r at hask
  obtain ⟨_ | e' | _, w⟩ := r <;> cases hask <;> rfl

theorem ask_ends (call : Call) : Ends (fun reply h₁ => ask pki ambient call h = (.ok reply, h₁))
    (fun e h₁ => ∃ e', e = .agent e' ∧ ask pki ambient call h = (.err (.agent e'), h₁))
    (fun h₁ => ask pki ambient call h = (.crash, h₁)) (ask pki ambient call h) := by
  rcases hask : ask pki ambient call h with ⟨_ | e | _, h₁⟩
  · exact rfl
  · obtain ⟨e', rfl⟩ := ask_err hask
    exact ⟨e', rfl, rfl⟩
  · exact rfl

theorem request_ends (r : Request) (note : MqttSession → MqttSession) : Ends (fun _ h₁ => h₁ = h.sent r note)
    (fun e h₁ => e = .mqtt .request ∧ h₁ = h) (fun _ => False) (request ambient r note h) := by
  unfold request
  split_ifs
  · exact rfl
  · exact ⟨rfl, rfl⟩

theorem subscribe_ends : Ends (fun _ h₁ => h₁ = h.subscribes) (fun e h₁ => e = .mqtt .request ∧ h₁ = h)
    (fun _ => False) (subscribe ambient h) := by
  unfold subscribe
  rw [driver_bind]
  exact request_ends _ _

theorem unsubscribe_ends (topic : String) : Ends (fun _ h₁ => h₁ = h.sent (.unsubscribe topic) fun m => { m with
      unsubscribing := m.unsubscribing ++ [topic] })
    (fun e h₁ => e = .mqtt .request ∧ h₁ = h) (fun _ => False) (unsubscribe ambient topic h) := request_ends _ _

/-- The marker is a revision of the document, or the document is not valid. -/
theorem reconnectRevision_error {a : Running} {e : AgentError} (h : a.reconnectRevision = .error e) :
    e = .store .invalidState := by
  unfold Running.reconnectRevision at h
  split at h
  · cases h
  · obtain ⟨e', -, rfl⟩ := mapError_eq_error.1 h
    rfl

theorem reconnectRevision_eq_some {a : Running} {revision : NonZeroU64} :
    a.reconnectRevision = .ok (some revision) ↔ a.state.reconnectRevision = some revision.1 := by
  unfold Running.reconnectRevision
  rcases a.state.reconnectRevision with _ | n
  · simp
  · simp only [mapError_eq_ok]
    constructor
    · intro h
      rcases hm : NonZeroU64.tryFrom n with e | m <;> rw [hm] at h <;> cases h
      rw [NonZeroU64.tryFrom_eq_ok.1 hm]
    · rintro ⟨⟩
      rw [NonZeroU64.tryFrom_val]
      rfl

theorem reconnectRevision_eq_none {a : Running} : a.reconnectRevision = .ok none ↔ a.state.reconnectRevision = none := by
  unfold Running.reconnectRevision
  rcases a.state.reconnectRevision with _ | n
  · simp
  · simp only [mapError_eq_ok, reduceCtorEq, iff_false]
    intro h
    rcases hm : NonZeroU64.tryFrom n with e | m <;> rw [hm] at h <;> cases h

theorem Before.set (hb : Before pki wire ambient h event h₁) (g : SessionState → SessionState) :
    Before pki wire ambient h event (h₁.set g) := by
  cases hb with
  | unasked f => exact .unasked fun s => g (f s)
  | asked g' hasks hask => exact .asked (fun s => g (g' s)) hasks hask

theorem before_asked {f : SessionState → SessionState} {call : Call} {reply : Reply} (hasks : Asks wire ambient h event call)
    (hask : ask pki ambient call (h.set f) = (.ok reply, h₁)) : Before pki wire ambient h event h₁ := .asked id hasks hask

theorem reconnectRevision_ends (hb : Before pki wire ambient h event h₁) :
    Ends (fun revision h' => h' = h₁ ∧ h₁.agent.reconnectRevision = .ok revision)
      (fun e h' => Broken pki wire ambient h event e h') (fun _ => False) (reconnectRevision h₁) := by
  unfold reconnectRevision
  rw [agent_bind]
  rcases hrec : h₁.agent.reconnectRevision with e | revision
  · obtain rfl := reconnectRevision_error hrec
    exact .invalid hb
  · exact ⟨rfl, rfl⟩

theorem markConnected_ends (f : SessionState → SessionState) : Ends (fun _ h₁ => Marks pki ambient (h.set f) h₁)
    (fun e h₁ => Broken pki wire ambient h .connected e h₁) (fun h₁ => Crashed pki wire ambient h .connected h₁)
    (markConnected pki ambient (h.set f)) := by
  refine .bind ((reconnectRevision_ends (.unasked f)).mono ?_ (fun _ _ h => h) fun _ h => h.elim)
  rintro (_ | revision) h' ⟨rfl, hrec⟩
  · exact .unmarked hrec
  · refine .bind ((ask_ends _).mono ?_ ?_ ?_)
    · intro reply h₁ hask
      exact .marked hrec hask
    · rintro - h₁ ⟨e, rfl, hask⟩
      exact .refused (.mark hrec) hask
    · intro h₁ hask
      exact .crashed (.mark hrec) hask

theorem Marks.before {f : SessionState → SessionState} (hm : Marks pki ambient (h.set f) h₁) :
    Before pki wire ambient h .connected h₁ := by
  cases hm with
  | unmarked hrec => exact .unasked f
  | marked hrec hask => exact before_asked (.mark hrec) hask

theorem listen_ends (hb : Before pki wire ambient h event h₁) : Ends (fun _ h₂ => Listens ambient h₁ h₂)
    (fun e h₂ => Broken pki wire ambient h event e h₂) (fun h₂ => Crashed pki wire ambient h event h₂) (listen ambient h₁) := by
  unfold listen
  rw [driver_bind, agent_bind]
  split_ifs with hdriver hcan
  · have hne : h₁.driver.recoveryCommand ≠ none := Option.isSome_iff_ne_none.1 hdriver
    unfold unsubscribeRecovery
    rw [bind_assoc, driver_bind]
    rcases hscope : h₁.driver.session.recoveryCommand with _ | scope
    · exact .unscoped hb hne hscope
    · refine .bind ((unsubscribe_ends scope.topic).mono ?_ ?_ fun _ h => h.elim)
      · rintro - _ rfl
        exact .recovery hne hscope
      · rintro _ _ ⟨rfl, rfl⟩
        exact .unqueued hb
  · simp only [Option.not_isSome_iff_eq_none, Bool.and_eq_true, Bool.not_eq_true'] at hdriver hcan
    refine subscribe_ends.mono ?_ ?_ fun _ h => h.elim
    · rintro - _ rfl
      exact .subscribe hdriver hcan.1.1 hcan.1.2 hcan.2
    · rintro _ _ ⟨rfl, rfl⟩
      exact .unqueued hb
  · simp only [Bool.and_eq_true, Bool.not_eq_true', not_and, Bool.not_eq_true] at hcan
    exact .wait (Option.not_isSome_iff_eq_none.1 hdriver) fun hshut hflight => hcan ⟨hshut, hflight⟩

theorem connected_ends : HandlerEnd pki wire ambient h .connected (handleEvent pki wire ambient .connected h) := by
  simp only [handleEvent, onConnected, bind_assoc, modify_bind]
  refine .bind ((markConnected_ends _).mono ?_ (fun _ _ h => h) fun _ h => h)
  intro _ h₁ hmark
  refine .bind ((listen_ends hmark.before).mono ?_ (fun _ _ h => h) fun _ h => h)
  intro _ h₂ hlisten
  exact .connected hmark hlisten

theorem observes_eq (h : Host) (delivery : CommandDelivery) : ∃ f, h.observes delivery = h.set f := by
  unfold Host.observes
  split_ifs
  · exact ⟨_, rfl⟩
  · exact ⟨id, rfl⟩

theorem observe_apply (delivery : CommandDelivery) : observe delivery h = (.ok (), h.observes delivery) := by
  unfold observe Host.observes
  rw [driver_bind]
  split_ifs
  · rfl
  · rfl

theorem command_ends (delivery : CommandDelivery) :
    HandlerEnd pki wire ambient h (.command delivery) (handleEvent pki wire ambient (.command delivery) h) := by
  simp only [handleEvent, onCommand, bind_assoc]
  rw [bind_ok (observe_apply delivery)]
  obtain ⟨f, hf⟩ := observes_eq h delivery
  refine .bind ((ask_ends _).mono ?_ ?_ ?_)
  · intro reply h₁ hask
    have hb : Before pki wire ambient h (.command delivery) h₁ := before_asked (.command delivery) (hf ▸ hask)
    rw [driver_bind, agent_bind]
    have hhold : shouldHoldCommandAck (reply = .outcome .accepted) (h₁.agent.commandIntakeOpen ambient.later)
        h₁.driver.state.shutdownDeadline = true ↔ reply = .outcome .accepted ∨
          h₁.agent.commandIntakeOpen ambient.later = false ∨ h₁.driver.state.shutdownDeadline = true := by
      simp [shouldHoldCommandAck, or_assoc]
    refine .bind ?_
    split_ifs with hcond
    · simp only [unsubscribeCommand, bind_assoc, driver_bind]
      refine .bind ((unsubscribe_ends _).mono ?_ ?_ fun _ h => h.elim)
      · rintro - _ rfl
        exact .held hask (hhold.1 hcond)
      · rintro _ _ ⟨rfl, rfl⟩
        exact .unqueued hb
    · rw [hhold, not_or, not_or, Bool.not_eq_false, Bool.not_eq_true] at hcond
      refine (request_ends _ _).mono ?_ ?_ fun _ h => h.elim
      · rintro - _ rfl
        exact .acked hask hcond.1 hcond.2.1 hcond.2.2
      · rintro _ _ ⟨rfl, rfl⟩
        exact .unqueued hb
  · rintro - h₁ ⟨e, rfl, hask⟩
    exact .refused (.command delivery) (hf ▸ hask)
  · intro h₁ hask
    exact .crashed (.command delivery) (hf ▸ hask)

theorem afterConfirm_ends (hb : Before pki wire ambient h event h₁) :
    Ends (fun control h₂ => Confirms ambient h₁ h₂ control) (fun e h₂ => Broken pki wire ambient h event e h₂)
      (fun h₂ => Crashed pki wire ambient h event h₂) (afterConfirm ambient h₁) := by
  refine .bind ((reconnectRevision_ends hb).mono ?_ (fun _ _ h => h) fun _ h => h.elim)
  rintro (_ | revision) h₁ ⟨rfl, hrec⟩ <;> rw [driver_bind, agent_bind]
  · rw [if_neg (by simp)]
    split_ifs with hcan
    · simp only [SessionState.canSubscribe, Bool.and_eq_true, decide_eq_true_eq, Bool.not_eq_true'] at hcan
      refine .bind (subscribe_ends.mono ?_ ?_ fun _ h => h.elim)
      · rintro - _ rfl
        exact .subscribe hrec hcan.1.1 hcan.1.2 hcan.2
      · rintro _ _ ⟨rfl, rfl⟩
        exact .unqueued hb
    · simp only [SessionState.canSubscribe, Bool.and_eq_true, decide_eq_true_eq, Bool.not_eq_true', not_and,
        Bool.not_eq_true] at hcan
      exact .idle hrec fun hsub hshut => hcan ⟨hsub, hshut⟩
  · rw [if_pos Option.isSome_some]
    by_cases hexit : (!h₁.driver.state.unsubscribePending && h₁.agent.pendingInboundSettled) = true
    · rw [if_pos hexit]
      simp only [SessionState.unsubscribePending, Bool.and_eq_true, Bool.not_eq_true', decide_eq_false_iff_not] at hexit
      exact .exit hrec hexit.1 hexit.2
    · rw [if_neg hexit, modify_bind]
      simp only [SessionState.unsubscribePending, Bool.and_eq_true, Bool.not_eq_true', decide_eq_false_iff_not, not_and,
        Bool.not_eq_true] at hexit
      split_ifs with hcan
      · simp only [unsubscribeCommand, bind_assoc, driver_bind]
        have hsub : h₁.driver.state.subscription = .active := by
          simp only [SessionState.canUnsubscribe, Bool.and_eq_true, decide_eq_true_eq] at hcan
          exact hcan.2
        refine .bind ((unsubscribe_ends _).mono ?_ ?_ fun _ h => h.elim)
        · rintro - _ rfl
          exact .unsubscribe hrec (hexit (by rw [hsub]; decide)) hcan
        · rintro _ _ ⟨rfl, rfl⟩
          exact .unqueued (hb.set _)
      · refine .ready hrec ?_ (by simpa using hcan)
        by_cases hsub : h₁.driver.state.subscription = .unsubscribing
        · exact .inl hsub
        · exact .inr (hexit hsub)

theorem outboundAcknowledged_ends (event : String) : HandlerEnd pki wire ambient h (.outboundAcknowledged event)
    (handleEvent pki wire ambient (.outboundAcknowledged event) h) := by
  simp only [handleEvent, onOutboundAcknowledged, driver_bind]
  split_ifs with hpending
  · exact .unknown (.unasked id)
  · rw [not_not] at hpending
    rw [modify_bind]
    refine .bind ((ask_ends _).mono ?_ ?_ ?_)
    · intro reply h₁ hask
      refine (afterConfirm_ends (before_asked (.confirm hpending) hask)).mono ?_ (fun _ _ h => h) fun _ h => h
      intro control h₂ hnext
      exact .confirmed hpending hask hnext
    · rintro - h₁ ⟨e, rfl, hask⟩
      exact .refused (.confirm hpending) hask
    · intro h₁ hask
      exact .crashed (.confirm hpending) hask

theorem markAbsent_ends (f : SessionState → SessionState) (hheld : h.driver.state.pendingCommandAck = none)
    (hobs : (f h.driver.state).recoveryObservation = h.driver.state.recoveryObservation) :
    Ends (fun _ h₁ => Absents pki ambient (h.set f) h₁) (fun e h₁ => Broken pki wire ambient h .unsubscribed e h₁)
      (fun h₁ => Crashed pki wire ambient h .unsubscribed h₁) (markAbsent pki ambient (h.set f)) := by
  unfold markAbsent
  rw [driver_bind, agent_bind]
  split_ifs with habsent
  · simp only [Bool.and_eq_true, decide_eq_true_eq, Bool.not_eq_true', Option.isSome_iff_ne_none] at habsent
    have hasks : Asks wire ambient h .unsubscribed .markPendingInboundAbsent :=
      .absent hheld habsent.1.1 (hobs ▸ habsent.1.2) habsent.2
    refine .bind ((ask_ends _).mono ?_ ?_ ?_)
    · intro reply h₁ hask
      exact .absent habsent.1.1 habsent.1.2 habsent.2 hask
    · rintro - h₁ ⟨e, rfl, hask⟩
      exact .refused hasks hask
    · intro h₁ hask
      exact .crashed hasks hask
  · simp only [Bool.and_eq_true, decide_eq_true_eq, Bool.not_eq_true', Option.isSome_iff_ne_none, not_and,
      Bool.not_eq_false] at habsent
    exact .present fun hscope hno => habsent ⟨hscope, hno⟩

theorem Absents.before {f : SessionState → SessionState} (ha : Absents pki ambient (h.set f) h₁)
    (hheld : h.driver.state.pendingCommandAck = none)
    (hobs' : (f h.driver.state).recoveryObservation = h.driver.state.recoveryObservation) :
    Before pki wire ambient h .unsubscribed h₁ := by
  cases ha with
  | absent hscope hobs hset hask => exact before_asked (.absent hheld hscope (hobs' ▸ hobs) hset) hask
  | present hno => exact .unasked f

theorem unsubscribeCompletion_cases (ready flushed flight : Bool) :
    match unsubscribeCompletion ready flushed flight with
      | .exit => ready = true ∧ flushed = true
      | .subscribe => (ready = true → flushed = false) ∧ flight = false
      | .wait => (ready = true → flushed = false) ∧ flight = true := by
  cases ready <;> cases flushed <;> cases flight <;> simp [unsubscribeCompletion]

theorem complete_ends (hb : Before pki wire ambient h event h₁) (hsub : h₁.driver.state.subscription = .inactive) :
    Ends (fun control h₂ => Completes ambient h₁ h₂ control) (fun e h₂ => Broken pki wire ambient h event e h₂)
      (fun h₂ => Crashed pki wire ambient h event h₂) (complete ambient h₁) := by
  unfold complete
  rw [driver_bind, agent_bind]
  have hcases := unsubscribeCompletion_cases (h₁.driver.state.reconnect = .ready) h₁.agent.pendingInboundSettled
    h₁.agent.rotationInFlight
  generalize unsubscribeCompletion _ _ _ = completion at hcases ⊢
  cases completion with
  | exit => exact .exit (by simpa using hcases.1) hcases.2
  | subscribe =>
    obtain ⟨hno, hflight⟩ := hcases
    rw [decide_eq_true_iff] at hno
    dsimp only
    split_ifs with hcan
    · simp only [SessionState.canSubscribe, Bool.and_eq_true, decide_eq_true_eq, Bool.not_eq_true'] at hcan
      refine .bind (subscribe_ends.mono ?_ ?_ fun _ h => h.elim)
      · rintro - _ rfl
        exact .subscribe hno hflight hcan.1.2 hcan.2
      · rintro _ _ ⟨rfl, rfl⟩
        exact .unqueued hb
    · simp only [SessionState.canSubscribe, hsub, Bool.and_eq_true, decide_true, true_and, Bool.not_eq_true', not_and,
        Bool.not_eq_true] at hcan
      exact .idle hno fun _ hshut => hcan hshut
  | wait =>
    obtain ⟨hno, hflight⟩ := hcases
    rw [decide_eq_true_iff] at hno
    exact .idle hno fun hidle => absurd (hidle.symm.trans hflight) (by decide)

theorem unsubscribed_ends : HandlerEnd pki wire ambient h .unsubscribed (handleEvent pki wire ambient .unsubscribed h) := by
  simp only [handleEvent, onUnsubscribed, modify_bind, driver_bind]
  rcases hheld : h.driver.state.pendingCommandAck with _ | ⟨delivery, token⟩
  · have hheld' : (h.set fun s => { s with subscription := .inactive }).driver.state.pendingCommandAck = none := hheld
    rw [hheld']
    refine .bind ((markAbsent_ends _ hheld rfl).mono ?_ (fun _ _ h => h) fun _ h => h)
    intro _ h₁ habsent
    have hsub : h₁.driver.state.subscription = .inactive := by
      cases habsent with
      | absent hscope hobs hset hask => rw [ask_driver hask]; rfl
      | present hno => rfl
    refine (complete_ends (habsent.before hheld rfl) hsub).mono ?_ (fun _ _ h => h) fun _ h => h
    intro control h₂ hnext
    exact .unsubscribed hheld habsent hnext
  · have hheld' : (h.set fun s => { s with subscription := .inactive }).driver.state.pendingCommandAck =
        some (delivery, token) := hheld
    rw [hheld']
    dsimp only
    rw [modify_bind]
    refine .bind ((request_ends _ _).mono ?_ ?_ fun _ h => h.elim)
    · rintro - _ rfl
      exact .released hheld
    · rintro _ _ ⟨rfl, rfl⟩
      exact .unqueued (.unasked fun s => { s with subscription := .inactive, pendingCommandAck := none })

theorem inboundAcknowledged_ends (token : Option String) : HandlerEnd pki wire ambient h (.inboundAcknowledged token)
    (handleEvent pki wire ambient (.inboundAcknowledged token) h) := by
  rcases token with _ | token
  · exact .inboundOther
  · simp only [handleEvent, onInboundAcknowledged]
    refine .bind ((ask_ends _).mono ?_ ?_ ?_)
    · intro reply h₁ hask
      rw [driver_bind]
      split_ifs with hexit
      · refine .inboundSettled hask ?_
        simp only [SessionState.unsubscribePending, Bool.and_eq_true, decide_eq_true_eq, Bool.not_eq_true',
          decide_eq_false_iff_not] at hexit
        rw [if_pos hexit]
      · refine .inboundSettled hask ?_
        simp only [SessionState.unsubscribePending, Bool.and_eq_true, decide_eq_true_eq, Bool.not_eq_true',
          decide_eq_false_iff_not] at hexit
        rw [if_neg hexit]
    · rintro - h₁ ⟨e, rfl, hask⟩
      exact .refused (f := id) .settle hask
    · intro h₁ hask
      exact .crashed (f := id) .settle hask

/-- **All that a handler can do.** -/
theorem handleEvent_ends (event : MqttEvent) :
    HandlerEnd pki wire ambient h event (handleEvent pki wire ambient event h) := by
  cases event with
  | connected => exact connected_ends
  | subscribed => exact .subscribed
  | unsubscribed => exact unsubscribed_ends
  | command delivery => exact command_ends delivery
  | outboundAcknowledged event => exact outboundAcknowledged_ends event
  | inboundAcknowledged token => exact inboundAcknowledged_ends token
  | transportProgress => exact .progress

end Inversion

/-! ### Rounds -/

section Rounds

variable (pki : Pki) (wire : Wire) (ambient : Ambient)

/-- The head of the loop. -/
inductive Heads (h : Host) : Outcome SessionError (Option SessionCompletion) → Host → Prop
  | published {fact payload} (hcan : h.driver.state.canPublish = true) (hnext : h.agent.nextOutbound = some fact)
      (hencode : wire.encodeOutbound h.driver.sessionIdentity fact = some payload) :
      Heads h (.ok none) (h.publishes fact payload)
  | quiet : Heads h (.ok none) h
  | disconnected : Heads h (.ok (some .shutdown)) (h.sent .disconnect id)
  | failed {e} (he : e = .wire ∨ e = .mqtt .request) : Heads h (.err e) h

/-- The start of a shutdown. -/
inductive Stops (h : Host) : Host → Prop
  | unsubscribe (hcan : h.driver.state.canUnsubscribe = true) :
      Stops h ((h.set fun s => { s with shutdownDeadline := true }).unsubscribes h.driver.session.topics.commandTopic)
  | wait : Stops h (h.set fun s => { s with shutdownDeadline := true })

/-- One round of the loop. -/
inductive Rounds (h : Host) : Poll → Outcome SessionError (Option SessionCompletion) → Host → Prop
  | lost (e : ConnectionError) : Rounds h (.failed e) (.err (.mqtt (.connection e))) h
  | refused {p e} (hpoll : h.driver.session.poll wire p = .error e) : Rounds h (.packet p) (.err (.mqtt e)) h
  | broken {p event session e h'} (hpoll : h.driver.session.poll wire p = .ok (event, session))
      (hbroken : Broken pki wire ambient (h.polled p event session) event e h') : Rounds h (.packet p) (.err e) h'
  | crashed {p event session h'} (hpoll : h.driver.session.poll wire p = .ok (event, session))
      (hcrash : Crashed pki wire ambient (h.polled p event session) event h') : Rounds h (.packet p) .crash h'
  | switched {p event session h'} (hpoll : h.driver.session.poll wire p = .ok (event, session))
      (hhandled : Handled pki wire ambient (h.polled p event session) event h' .reconnect) :
      Rounds h (.packet p) (.ok (some .reconnect)) h'
  | handled {p event session h₁ o h'} (hpoll : h.driver.session.poll wire p = .ok (event, session))
      (hhandled : Handled pki wire ambient (h.polled p event session) event h₁ .proceed) (hhead : Heads wire h₁ o h') :
      Rounds h (.packet p) o h'
  | stopping {h₁ o h'} (hstop : Stops h h₁) (hhead : Heads wire h₁ o h') : Rounds h .shutdown o h'
  | unstopped : Rounds h .shutdown (.err (.mqtt .request)) (h.set fun s => { s with shutdownDeadline := true })
  | expired (hshut : h.driver.state.shutdownDeadline = true) : Rounds h .deadline (.ok (some .shutdown)) h
  | nothing {poll} (hpoll : ∀ p, poll ≠ .packet p) : Rounds h poll (.ok none) h

variable {pki wire ambient} {h : Host}

theorem publishNext_ends : Ends
    (fun _ h₁ => (∃ fact payload, h.driver.state.canPublish = true ∧ h.agent.nextOutbound = some fact ∧
      wire.encodeOutbound h.driver.sessionIdentity fact = some payload ∧ h₁ = h.publishes fact payload) ∨ h₁ = h)
    (fun e h₁ => (e = .wire ∨ e = .mqtt .request) ∧ h₁ = h) (fun _ => False) (publishNext wire ambient h) := by
  unfold publishNext
  rw [driver_bind, agent_bind]
  split_ifs with hcan
  · rcases hnext : h.agent.nextOutbound with _ | fact
    · exact .inr rfl
    · dsimp only
      rcases hencode : wire.encodeOutbound h.driver.sessionIdentity fact with _ | payload
      · exact ⟨.inl rfl, rfl⟩
      · dsimp only [publish]
        rw [bind_assoc, driver_bind]
        refine .bind ((request_ends _ _).mono ?_ ?_ fun _ h => h.elim)
        · rintro - _ rfl
          refine .inl ⟨fact, payload, hcan, rfl, hencode, ?_⟩
          cases fact with
          | commandAcknowledged e f => rfl
          | certificateReported e f => rfl
        · rintro _ _ ⟨rfl, rfl⟩
          exact ⟨.inr rfl, rfl⟩
  · exact .inr rfl

theorem head_ends : Heads wire h (head wire ambient h).1 (head wire ambient h).2 := by
  have hends : Ends (fun o h₁ => Heads wire h (.ok o) h₁) (fun e h₁ => Heads wire h (.err e) h₁) (fun _ => False)
      (head wire ambient h) := by
    refine .bind (publishNext_ends.mono ?_ ?_ fun _ h => h)
    · rintro - h₁ (⟨fact, payload, hcan, hnext, hencode, rfl⟩ | rfl) <;> rw [driver_bind, agent_bind]
      · -- with a publication on its way nothing is quiescent
        rw [if_neg (by simp [SessionState.shutdownIsQuiescent, SessionState.transportIsQuiescent, Host.publishes,
          Host.set, Host.sent])]
        exact .published hcan hnext hencode
      · split_ifs with hquiet
        · refine .bind ((request_ends _ _).mono ?_ ?_ fun _ h => h)
          · rintro - _ rfl
            exact .disconnected
          · rintro _ _ ⟨rfl, rfl⟩
            exact .failed (.inr rfl)
        · exact .quiet
    · rintro e _ ⟨he, rfl⟩
      exact .failed he
  rcases hr : head wire ambient h with ⟨_ | _ | _, h'⟩ <;> rw [hr] at hends
  · exact hends
  · exact hends
  · exact hends.elim

theorem startShutdown_ends : Ends (fun _ h₁ => Stops h h₁)
    (fun e h₁ => e = .mqtt .request ∧ h₁ = h.set fun s => { s with shutdownDeadline := true }) (fun _ => False)
    (startShutdown ambient h) := by
  unfold startShutdown
  rw [modify_bind, driver_bind]
  split_ifs with hcan
  · simp only [unsubscribeCommand, bind_assoc, driver_bind]
    refine .bind ((unsubscribe_ends _).mono ?_ (fun _ _ h => h) fun _ h => h)
    rintro - _ rfl
    exact .unsubscribe hcan
  · exact .wait

/-- **All that can happen in a round.** -/
theorem turn_cases (poll : Poll) : Rounds pki wire ambient h poll (turn pki wire ambient poll h).1
    (turn pki wire ambient poll h).2 := by
  cases poll with
  | packet p =>
    simp only [turn, bind_apply, pollSession]
    rcases hpoll : h.driver.session.poll wire p with e | ⟨event, session⟩
    · exact .refused hpoll
    · dsimp only
      have hends : HandlerEnd pki wire ambient (h.polled p event session) event _ := handleEvent_ends event
      rcases hr : handleEvent pki wire ambient event (h.polled p event session) with ⟨control | e | _, h₁⟩ <;> rw [hr] at hends
      · cases control with
        | proceed => exact .handled hpoll hends head_ends
        | reconnect => exact .switched hpoll hends
      · exact .broken hpoll hends
      · exact .crashed hpoll hends
  | failed e => exact .lost e
  | shutdown =>
    simp only [turn, driver_bind]
    split_ifs with hshut
    · exact .nothing fun _ h => (by cases h)
    · rw [bind_apply]
      have hends : Ends (fun _ h₁ => Stops h h₁) _ _ (startShutdown ambient h) := startShutdown_ends
      rcases hr : startShutdown ambient h with ⟨_ | e | _, h₁⟩ <;> rw [hr] at hends
      · exact .stopping hends head_ends
      · obtain ⟨rfl, rfl⟩ := hends
        exact .unstopped
      · exact hends.elim
  | deadline =>
    simp only [turn, driver_bind]
    split_ifs with hshut
    · exact .expired hshut
    · exact .nothing fun _ h => (by cases h)

end Rounds

end RssIncubator.Driver
