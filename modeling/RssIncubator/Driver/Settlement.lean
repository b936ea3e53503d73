import RssIncubator.Driver.Rotation
import RssIncubator.Driver.Tokens

/-!
# What settles the pending delivery

The settlement token of the pending delivery goes to whatever comes under its topic and its name, and the recovery scope
of a session stays when the delivery it was taken from is gone.  `Exact` is what a broker must do so that neither
matters: then the pending delivery is settled by its own PUBACK, or by the end of its old subscription in a session that
has not seen it again.
-/

namespace RssIncubator.Driver

open Agent Lib StateV1 StoredOutbound

/-! ### Deliveries -/

/-- The fingerprint under which a delivery is journalled. -/
def CommandDelivery.fingerprint (wire : Wire) (delivery : CommandDelivery) : String :=
  match wire.decodeCommand delivery.identity delivery.commandId delivery.publish.payload with
  | some command => commandFingerprint command
  | none => malformedFingerprint delivery.topic delivery.commandId.expose delivery.publish.payload

/-- The delivery is the pending one: its topic, its name and its payload. -/
structure Matches (wire : Wire) (delivery : CommandDelivery) (p : StoredInboundSettlement) : Prop where
  topic : delivery.topic = p.topic
  commandId : delivery.commandId.expose = p.commandId
  fingerprint : delivery.fingerprint wire = p.fingerprint

/-- No command was accepted. -/
def NoneAccepted (deeds : List Deed) : Prop := ∀ call s, .answered call (.outcome .accepted) s ∉ deeds

/-- What comes under the topic and the name of a pending delivery that is not settled is that delivery.  An UNSUBACK that
would settle it for want of a redelivery answers the end of the old subscription, in a session that has accepted nothing. -/
structure Exact (wire : Wire) (h : Host) (poll : Poll) (_ : Ambient) : Prop where
  payload : ∀ p delivery pending, poll = .packet (.publish p) → h.driver.session.commandDelivery wire p = .ok delivery →
    h.agent.state.pendingInbound = some pending → pending.settled = false → delivery.topic = pending.topic →
    delivery.commandId.expose = pending.commandId → delivery.fingerprint wire = pending.fingerprint
  barrier : ∀ topic reasons scope, poll = .packet (.unsubAck topic reasons) → h.driver.state.pendingCommandAck = none →
    h.driver.recoveryCommand = some scope → h.driver.state.recoveryObservation = .notObserved →
    h.agent.pendingInboundSettled = false → topic = scope.topic ∧ NoneAccepted (lastSession h.deeds)

theorem commandCall_fingerprint (wire : Wire) (ambient : Ambient) (delivery : CommandDelivery) :
    (commandCall wire ambient delivery).delivery.map (·.fingerprint) = some (delivery.fingerprint wire) := by
  unfold commandCall CommandDelivery.fingerprint
  cases wire.decodeCommand delivery.identity delivery.commandId delivery.publish.payload <;> rfl

/-! ### What a session hears -/

section Hears

variable {pki : Pki} {wire : Wire} {ambient : Ambient} {h h₁ h' : Host} {event : MqttEvent} {control : DriverControl}

/-- All that a round that goes on can add to the deliveries received, to what is observed, and to the PUBACKs on their
way. -/
inductive Hears (pki : Pki) (wire : Wire) (ambient : Ambient) (h : Host) : Poll → Host → Prop
  | quiet {poll h'} (hno : ∀ p, poll ≠ .packet (.publish p))
      (hdeeds : ∃ new, h'.deeds = h.deeds ++ new ∧ ∀ deed ∈ new, deed.isOpened = false ∧ deed.delivery = none)
      (hobs : h'.driver.state.recoveryObservation = h.driver.state.recoveryObservation)
      (hacks : ∀ entry ∈ h'.driver.session.inboundAcknowledgements, entry ∈ h.driver.session.inboundAcknowledgements ∨
        ∃ delivery token, h.driver.state.pendingCommandAck = some (delivery, token) ∧ delivery.publish.pkid = entry.1) :
      Hears pki wire ambient h poll h'
  | heard {p delivery reply h'} (hdelivery : h.driver.session.commandDelivery wire p = .ok delivery)
      (hdeeds : ∃ new, h'.deeds = h.deeds ++ new ∧ (∀ deed ∈ new, deed.isOpened = false) ∧ received new = [delivery] ∧
        .answered (commandCall wire ambient delivery) reply h'.agent.state ∈ new)
      (hanswers : Answers pki h.agent.retention (commandCall wire ambient delivery) h.agent.state h'.agent.state reply)
      (hobs : h'.driver.state.recoveryObservation = .notObserved → h.driver.state.recoveryObservation = .notObserved ∧
        ∀ scope, h.driver.recoveryCommand = some scope → delivery.topic ≠ scope.topic)
      (hacks : ∀ entry ∈ h'.driver.session.inboundAcknowledgements, delivery.publish.pkid = entry.1) :
      Hears pki wire ambient h (.packet (.publish p)) h'

theorem Marks.observation (hm : Marks pki ambient h h') :
    h'.driver.state.recoveryObservation = h.driver.state.recoveryObservation := by
  cases hm with
  | unmarked hrec => rfl
  | marked hrec hask => rw [ask_driver hask]

theorem Listens.observation (hl : Listens ambient h h') :
    h'.driver.state.recoveryObservation = h.driver.state.recoveryObservation := by
  cases hl <;> rfl

theorem Confirms.observation (hc : Confirms ambient h h' control) :
    h'.driver.state.recoveryObservation = h.driver.state.recoveryObservation := by
  cases hc <;> rfl

theorem Completes.observation (hc : Completes ambient h h' control) :
    h'.driver.state.recoveryObservation = h.driver.state.recoveryObservation := by
  cases hc <;> rfl

theorem Stops.observation (hs : Stops h h') : h'.driver.state.recoveryObservation = h.driver.state.recoveryObservation := by
  cases hs <;> rfl

theorem Heads.observation {o : Outcome SessionError (Option SessionCompletion)} (hh : Heads wire h o h') :
    h'.driver.state.recoveryObservation = h.driver.state.recoveryObservation := by
  cases hh <;> rfl

/-- A delivery on the old topic does not go unnoticed. -/
theorem observes_notObserved {delivery : CommandDelivery}
    (hobs : (h.observes delivery).driver.state.recoveryObservation = .notObserved) :
    h.driver.state.recoveryObservation = .notObserved ∧
      ∀ scope, h.driver.recoveryCommand = some scope → delivery.topic ≠ scope.topic := by
  unfold Host.observes at hobs
  split_ifs at hobs with hany
  · cases hobs
  · refine ⟨hobs, fun scope hscope heq => hany ?_⟩
    rw [hscope]
    exact decide_eq_true heq.symm

/-- No handler opens a session or receives a delivery. -/
theorem Handled.unheard (hg : h.Good pki) (hh : Handled pki wire ambient h event h' control) :
    ∃ new, h'.deeds = h.deeds ++ new ∧ ∀ deed ∈ new, deed.isOpened = false ∧ deed.delivery = none := by
  obtain ⟨h₁, hbefore, hsends⟩ := hh.before
  obtain ⟨new, hnew, hquestions⟩ := hbefore.questions hg
  obtain ⟨queued, hqueued⟩ := hsends.deeds
  refine ⟨new ++ queued.map .queued, by rw [hqueued, hnew, List.append_assoc], fun deed hmem => ?_⟩
  rcases List.mem_append.1 hmem with hmem | hmem
  · exact ⟨(hquestions.silent deed hmem).1, (hquestions.silent deed hmem).2.1⟩
  · obtain ⟨r, -, rfl⟩ := List.mem_map.1 hmem
    exact ⟨rfl, rfl⟩

/-- A round that is no delivery. -/
theorem Handled.quiet {p : Packet} {session : MqttSession} (hg : h.Good pki) (hevent : ∀ d, event ≠ .command d)
    (hpolls : MqttSession.Polls wire h.driver.session p event session)
    (hh : Handled pki wire ambient (h.polled p event session) event h' control)
    (hobs : h'.driver.state.recoveryObservation = h.driver.state.recoveryObservation)
    (hacks : ∀ entry ∈ h'.driver.session.inboundAcknowledgements, entry ∈ h.driver.session.inboundAcknowledgements ∨
      ∃ delivery token, h.driver.state.pendingCommandAck = some (delivery, token) ∧ delivery.publish.pkid = entry.1) :
    Hears pki wire ambient h (.packet p) h' := by
  obtain ⟨new, hnew, hunheard⟩ := hh.unheard (hg.polled _ _ _)
  refine .quiet ?_ ⟨.polled p event :: new, by rw [hnew]; simp [Host.polled], fun deed hmem => ?_⟩ hobs hacks
  · rintro q ⟨⟩
    cases hpolls with
    | command hdelivery => exact hevent _ rfl
  · rcases List.mem_cons.1 hmem with rfl | hmem
    · cases event with
      | command d => exact absurd rfl (hevent d)
      | _ => exact ⟨rfl, rfl⟩
    · exact hunheard deed hmem

/-- A round that is one. -/
theorem Tracks.hears {p : Publish} {delivery : CommandDelivery} {reply : Reply} {r : Request} (ht : Tracks wire h)
    (hg : h.Good pki) (hfree : h.driver.session.inflight = 0) (hdelivery : h.driver.session.commandDelivery wire p = .ok delivery)
    (hask : ask pki ambient (commandCall wire ambient delivery) ((h.polled (.publish p) (.command delivery)
      { h.driver.session with inflight := h.driver.session.inflight + 1 }).observes delivery) = (.ok reply, h₁))
    (hagent : h'.agent = h₁.agent) (hdeeds : h'.deeds = h₁.deeds ++ [.queued r])
    (hobs : h'.driver.state.recoveryObservation = h₁.driver.state.recoveryObservation)
    (hacks : ∀ entry ∈ h'.driver.session.inboundAcknowledgements, delivery.publish.pkid = entry.1) :
    Hears pki wire ambient h (.packet (.publish p)) h' := by
  obtain ⟨-, hanswers⟩ := ht.answers hg hfree hask
  have hgo : ((h.polled (.publish p) (.command delivery) { h.driver.session with
      inflight := h.driver.session.inflight + 1 }).observes delivery).Good pki :=
    (hg.polled _ _ _).congr (observes_tree _ _) (observes_agent _ _)
  have hc := hgo.ask hask
  have hnew : h'.deeds = h.deeds ++ [.polled (.publish p) (.command delivery), .asked (commandCall wire ambient delivery)
      h.agent.state, .answered (commandCall wire ambient delivery) reply h'.agent.state, .queued r] := by
    rw [hdeeds, hc.deeds, observes_deeds, observes_agent, hagent]
    simp [Host.polled]
  refine .heard hdelivery ⟨_, hnew, by simp [Deed.isOpened], rfl, by simp⟩ (hagent ▸ hanswers) (fun hnot => ?_) hacks
  rw [hobs, hc.driver] at hnot
  have hunseen := observes_notObserved hnot
  exact hunseen

theorem Handled.hears {p : Packet} {session : MqttSession} (hg : h.Good pki) (ht : Tracks wire h)
    (hrm : ReceiveMaximum h (.packet p) ambient) (hpolls : MqttSession.Polls wire h.driver.session p event session)
    (hh : Handled pki wire ambient (h.polled p event session) event h' control) : Hears pki wire ambient h (.packet p) h' := by
  have hg' : (h.polled p event session).Good pki := hg.polled _ _ _
  have hquiet := fun hevent => hh.quiet hg hevent hpolls
  have hsame : h'.driver.session.inboundAcknowledgements = h.driver.session.inboundAcknowledgements →
      ∀ entry ∈ h'.driver.session.inboundAcknowledgements, entry ∈ h.driver.session.inboundAcknowledgements ∨
        ∃ delivery token, h.driver.state.pendingCommandAck = some (delivery, token) ∧ delivery.publish.pkid = entry.1 :=
    fun heq entry hmem => .inl (heq ▸ hmem)
  have hnone : h'.driver.session.inboundAcknowledgements = [] →
      ∀ entry ∈ h'.driver.session.inboundAcknowledgements, entry ∈ h.driver.session.inboundAcknowledgements ∨
        ∃ delivery token, h.driver.state.pendingCommandAck = some (delivery, token) ∧ delivery.publish.pkid = entry.1 := by
    intro heq entry hmem
    rw [heq] at hmem
    cases hmem
  cases hh with
  | connected hmark hlisten =>
    cases hpolls
    refine hquiet (fun _ h => by cases h) (hlisten.observation.trans hmark.observation) (hsame ?_)
    exact ((hmark.passes (hg'.set _)).trans hlisten.passes).acks
  | subscribed =>
    cases hpolls
    exact hquiet (fun _ h => by cases h) rfl (hsame rfl)
  | held hask hhold =>
    cases hpolls with
    | command hdelivery =>
      have htaken := ht.taken hg (hrm _ rfl) hask
      rename_i h₁ _
      refine ht.hears hg (hrm _ rfl) hdelivery hask rfl rfl rfl fun entry hmem => ?_
      have hmem' : entry ∈ h₁.driver.session.inboundAcknowledgements := hmem
      rw [htaken.unsent] at hmem'
      cases hmem'
  | acked hask hreply hopen hshut =>
    cases hpolls with
    | command hdelivery =>
      have htaken := ht.taken hg (hrm _ rfl) hask
      rename_i h₁ _
      refine ht.hears hg (hrm _ rfl) hdelivery hask rfl rfl rfl fun entry hmem => ?_
      have hmem' : entry ∈ PacketMap.insert h₁.driver.session.inboundAcknowledgements _ _ := hmem
      rw [htaken.unsent] at hmem'
      rw [List.mem_singleton.1 hmem']
  | confirmed hpending hask hnext =>
    cases hpolls with
    | outbound hremove =>
      have hc := (hg'.set _).ask hask
      refine hquiet (fun _ h => by cases h) ?_ (hsame (hc.passes_confirm.trans hnext.passes).acks)
      rw [hnext.observation, hc.driver]
      rfl
  | released hheld =>
    cases hpolls
    have hheld' : h.driver.state.pendingCommandAck = _ := hheld
    refine hquiet (fun _ h => by cases h) rfl fun entry hmem => .inr ?_
    have hmem' : entry ∈ PacketMap.insert h.driver.session.inboundAcknowledgements _ _ := hmem
    rw [ht.unsent hheld'] at hmem'
    rw [List.mem_singleton.1 hmem']
    exact ⟨_, _, hheld', rfl⟩
  | unsubscribed hheld habsent hnext =>
    cases hpolls
    refine hquiet (fun _ h => by cases h) ?_ (hsame ((habsent.passes (hg'.set _) hheld).trans hnext.passes).acks)
    rw [hnext.observation, habsent.driver]
    rfl
  | inboundOther =>
    cases hpolls with
    | inbound hremove =>
      obtain ⟨-, rfl⟩ := PacketMap.remove_one hremove (by rw [(ht.flushed hremove).2.2]; rfl)
      exact hquiet (fun _ h => by cases h) rfl (hnone rfl)
  | inboundSettled hask hcontrol =>
    cases hpolls with
    | inbound hremove =>
      obtain ⟨-, rfl⟩ := PacketMap.remove_one hremove (by rw [(ht.flushed hremove).2.2]; rfl)
      refine hquiet (fun _ h => by cases h) ?_ (hnone ?_)
      · rw [ask_driver hask]
        rfl
      · rw [ask_driver hask]
        rfl
  | progress =>
    cases hpolls with
    | published hawaiting => exact hquiet (fun _ h => by cases h) rfl (hsame rfl)
    | other => exact hquiet (fun _ h => by cases h) rfl (hsame rfl)

theorem unheard_queued (queued : List Request) :
    ∀ deed ∈ queued.map Deed.queued, deed.isOpened = false ∧ deed.delivery = none := by
  intro deed hmem
  obtain ⟨r, -, rfl⟩ := List.mem_map.1 hmem
  exact ⟨rfl, rfl⟩

/-- Requests that are queued change nothing of it. -/
theorem Hears.sends {poll : Poll} (hh : Hears pki wire ambient h poll h₁) (hs : Sends h₁ h')
    (hobs : h'.driver.state.recoveryObservation = h₁.driver.state.recoveryObservation)
    (hacks : h'.driver.session.inboundAcknowledgements = h₁.driver.session.inboundAcknowledgements) :
    Hears pki wire ambient h poll h' := by
  obtain ⟨queued, hqueued⟩ := hs.deeds
  have hunheard := unheard_queued queued
  cases hh with
  | quiet hno hdeeds hobs' hacks' =>
    obtain ⟨new, hnew, hnone⟩ := hdeeds
    refine .quiet hno ⟨new ++ queued.map .queued, by rw [hqueued, hnew, List.append_assoc], fun deed hmem => ?_⟩
      (hobs.trans hobs') (hacks ▸ hacks')
    rcases List.mem_append.1 hmem with hmem | hmem
    · exact hnone deed hmem
    · exact hunheard deed hmem
  | heard hdelivery hdeeds hanswers hobs' hacks' =>
    obtain ⟨new, hnew, hopened, hreceived, hmem⟩ := hdeeds
    refine .heard hdelivery ⟨new ++ queued.map .queued, by rw [hqueued, hnew, List.append_assoc], fun deed hmem => ?_, ?_, ?_⟩
      (hs.agent ▸ hanswers) (fun h => hobs' (hobs ▸ h)) (hacks ▸ hacks')
    · rcases List.mem_append.1 hmem with hmem | hmem
      · exact hopened deed hmem
      · exact (hunheard deed hmem).1
    · rw [received_append, hreceived]
      exact congrArg (_ :: ·) (List.filterMap_eq_nil_iff.2 fun deed hmem => (hunheard deed hmem).2)
    · rw [hs.agent]
      exact List.mem_append_left _ hmem

theorem Rounds.hears {poll : Poll} (hg : h.Good pki) (ht : Tracks wire h) (hrm : ReceiveMaximum h poll ambient)
    (hr : Rounds pki wire ambient h poll (.ok none) h') : Hears pki wire ambient h poll h' := by
  have hrefl : (∀ p, poll ≠ .packet p) → Hears pki wire ambient h poll h := fun hno =>
    .quiet (fun p => hno _) ⟨[], by simp, by simp⟩ rfl fun entry hmem => .inl hmem
  cases hr with
  | handled hpoll hhandled hhead =>
    exact (hhandled.hears hg ht hrm (MqttSession.poll_cases hpoll)).sends hhead.sends hhead.observation hhead.passes.acks
  | stopping hstop hhead =>
    exact ((hrefl fun _ h => by cases h).sends hstop.sends hstop.observation hstop.passes.acks).sends hhead.sends
      hhead.observation hhead.passes.acks
  | nothing hpoll => exact hrefl hpoll

end Hears

/-! ### What a token stands for -/

/-- The delivery received last. -/
def lastReceived (deeds : List Deed) : Option CommandDelivery := (received (lastSession deeds)).getLast?

/-- The tokens of an unsettled pending delivery are for that delivery, which was received last; what the session was
opened with is still what it recovers, as long as nothing was accepted. -/
structure Attributes (wire : Wire) (h : Host) : Prop where
  token : ∀ token ∈ h.tokens, ∀ p, h.agent.state.pendingInbound = some p → p.settled = false →
    ∃ delivery, lastReceived h.deeds = some delivery ∧ Matches wire delivery p
  named : ∀ entry ∈ h.driver.session.inboundAcknowledgements,
    ∃ delivery, lastReceived h.deeds = some delivery ∧ delivery.publish.pkid = entry.1
  scope : NoneAccepted (lastSession h.deeds) → ∀ scope p, h.driver.recoveryCommand = some scope →
    h.agent.state.pendingInbound = some p → p.settled = false → scope.topic = p.topic ∧ scope.commandId = p.commandId
  unobserved : h.driver.state.recoveryObservation = .notObserved → ∀ scope, h.driver.recoveryCommand = some scope →
    ∀ delivery ∈ received (lastSession h.deeds), delivery.topic ≠ scope.topic
  opened : ∃ driver s earlier, LastOpened h.deeds driver s earlier ∧ driver.recoveryCommand = h.driver.recoveryCommand

section Attributes

variable {pki : Pki} {wire : Wire} {ambient : Ambient} {h h' : Host} {poll : Poll}

theorem lastReceived_concat {deeds new : List Deed} {delivery : CommandDelivery} (hopened : ∀ deed ∈ new, deed.isOpened = false)
    (hreceived : received new = [delivery]) : lastReceived (deeds ++ new) = some delivery := by
  unfold lastReceived
  rw [lastSession_append hopened, received_append, hreceived, List.getLast?_concat]

theorem received_unheard {deeds new : List Deed} (hnew : ∀ deed ∈ new, deed.isOpened = false ∧ deed.delivery = none) :
    received (lastSession (deeds ++ new)) = received (lastSession deeds) := by
  have hnone : received new = [] := List.filterMap_eq_nil_iff.2 fun deed hmem => (hnew deed hmem).2
  rw [lastSession_append fun deed hmem => (hnew deed hmem).1, received_append, hnone, List.append_nil]

theorem NoneAccepted.before {deeds new : List Deed} (hopened : ∀ deed ∈ new, deed.isOpened = false)
    (hnone : NoneAccepted (lastSession (deeds ++ new))) : NoneAccepted (lastSession deeds) := by
  intro call s hmem
  rw [lastSession_append hopened] at hnone
  exact hnone call s (List.mem_append_left _ hmem)

/-- A pending delivery that is not settled was so before, or was just accepted. -/
theorem Answers.unsettled {s s' : StateV1} {retention : NonZeroU32} {delivery : CommandDelivery} {reply : Reply}
    {p : StoredInboundSettlement} (ha : Answers pki retention (commandCall wire ambient delivery) s s' reply) (hs : s.Coherent)
    (hp : s'.pendingInbound = some p) : s.pendingInbound = some p ∨
      reply = .outcome .accepted ∧ p.commandId = delivery.commandId.expose ∧ p.fingerprint = delivery.fingerprint wire := by
  obtain ⟨d, hd, hid, -⟩ := commandCall_delivery wire ambient delivery
  have hdelivers := ha.delivery hs hd
  by_cases hreply : reply = .outcome .accepted
  · obtain ⟨p', hp', hname, hfp, -⟩ := (hdelivers.accepted hreply).pending
    obtain rfl := Option.some.inj (hp'.symm.trans hp)
    have hfingerprint := commandCall_fingerprint wire ambient delivery
    rw [hd] at hfingerprint
    exact .inr ⟨hreply, hname.trans hid, hfp.trans (Option.some.inj hfingerprint)⟩
  · exact .inl ((hdelivers.other hreply).pendingInbound ▸ hp)

/-- A pending delivery that no delivery made pending was pending before. -/
theorem Shifts.unsettled (hs : Shifts pki wire ambient h poll h') (hno : ∀ p, poll ≠ .packet (.publish p))
    {p : StoredInboundSettlement} (hp : h'.agent.state.pendingInbound = some p) (hset : p.settled = false) :
    h.agent.state.pendingInbound = some p := by
  cases hs with
  | same htokens hpending => exact hpending ▸ hp
  | taken => exact absurd rfl (hno _)
  | confirmed hevent hanswers htokens =>
    obtain ⟨entry, -, -, -, hs'⟩ := hanswers.confirm
    have hpend : h'.agent.state.pendingInbound = if entry.isReportReady = true then none else h.agent.state.pendingInbound := by
      rw [hs']
      rfl
    rw [hpend] at hp
    split_ifs at hp
    exact hp
  | absent hheld hscope hobs hunset hanswers htokens =>
    obtain ⟨p', -, hs'⟩ := hanswers.absent
    rw [hs'] at hp
    cases hp
    cases hset
  | settled hacks hanswers htokens =>
    obtain ⟨p', -, -, hs'⟩ := hanswers.settle
    rw [hs'] at hp
    cases hp
    cases hset

/-- **One round keeps the tokens where they belong.** -/
theorem Rounds.attributes (hg : h.Good pki) (ht : Tracks wire h) (hrm : ReceiveMaximum h poll ambient) (hk : Attributes wire h)
    (hE : Exact wire h poll ambient) (hr : Rounds pki wire ambient h poll (.ok none) h') : Attributes wire h' := by
  have hfixed := hr.fixed
  have hshifts := hr.shifts hg ht hrm
  obtain ⟨driver, s, earlier, hopened, hdriver⟩ := hk.opened
  cases hr.hears hg ht hrm with
  | quiet hno hdeeds hobs hacks =>
    obtain ⟨new, hnew, hunheard⟩ := hdeeds
    have hreceived : received (lastSession h'.deeds) = received (lastSession h.deeds) := hnew ▸ received_unheard hunheard
    have hlast : lastReceived h'.deeds = lastReceived h.deeds := congrArg List.getLast? hreceived
    have hclosed : ∀ deed ∈ new, deed.isOpened = false := fun deed hmem => (hunheard deed hmem).1
    have hbefore := fun {p} => hshifts.unsettled (p := p) hno
    refine ⟨fun token htoken p hp hset => ?_, fun entry hmem => ?_, fun hnone scope p hscope hp hset => ?_, ?_,
      driver, s, earlier, hnew ▸ hopened.append hclosed, hdriver.trans hfixed.driver.symm⟩
    · rw [hlast]
      refine hk.token token ?_ p (hbefore hp hset) hset
      cases hshifts with
      | same htokens hpending => exact htokens ▸ htoken
      | taken => exact absurd rfl (hno _)
      | confirmed hevent hanswers htokens => exact htokens ▸ htoken
      | absent hheld hscope hobs hunset hanswers htokens => exact htokens ▸ htoken
      | settled hacks hanswers htokens =>
        rw [htokens] at htoken
        cases htoken
    · rw [hlast]
      rcases hacks entry hmem with hmem | ⟨delivery, token, hheld, hpkid⟩
      · exact hk.named entry hmem
      · refine ⟨delivery, ?_, hpkid⟩
        unfold lastReceived
        rw [ht.received, hheld]
        exact List.getLast?_concat
    · exact hk.scope (hnew ▸ hnone |>.before hclosed) scope p (hfixed.driver ▸ hscope) (hbefore hp hset) hset
    · rw [hobs, hfixed.driver, hreceived]
      exact hk.unobserved
  | heard hdelivery hdeeds hanswers hobs hacks =>
    rename_i q delivery reply
    obtain ⟨new, hnew, hclosed, hreceived, hanswered⟩ := hdeeds
    have hlast : lastReceived h'.deeds = some delivery := hnew ▸ lastReceived_concat hclosed hreceived
    refine ⟨fun token htoken p hp hset => ⟨delivery, hlast, ?_⟩, fun entry hmem => ⟨delivery, hlast, hacks entry hmem⟩,
      fun hnone scope p hscope hp hset => ?_, fun hnot scope hscope d hmem => ?_,
      driver, s, earlier, hnew ▸ hopened.append hclosed, hdriver.trans hfixed.driver.symm⟩
    · cases hshifts with
      | same htokens hpending =>
        obtain ⟨hheld, hunsent⟩ := ht.free (hrm _ rfl)
        rw [htokens, tokens_nil hheld hunsent] at htoken
        cases htoken
      | taken hdelivery' hfree _ htokens =>
        obtain rfl := Except.ok.inj (hdelivery'.symm.trans hdelivery)
        rw [htokens, Option.mem_toList] at htoken
        obtain ⟨p', hp', -, htopic, hname⟩ := settlementToken_pending htoken
        obtain rfl := Option.some.inj (hp'.symm.trans hp)
        refine ⟨htopic.symm, hname.symm, ?_⟩
        rcases hanswers.unsettled hg.coherent hp with hold | ⟨-, -, hfp⟩
        · exact hE.payload _ _ _ rfl hdelivery hold hset htopic.symm hname.symm
        · exact hfp.symm
    · rcases hanswers.unsettled hg.coherent hp with hold | ⟨rfl, -⟩
      · exact hk.scope (hnew ▸ hnone |>.before hclosed) scope p (hfixed.driver ▸ hscope) hold hset
      · rw [hnew, lastSession_append hclosed] at hnone
        exact absurd (List.mem_append_right _ hanswered) (hnone _ _)
    · obtain ⟨hbefore, hne⟩ := hobs hnot
      rw [hfixed.driver] at hscope
      rw [hnew, lastSession_append hclosed, received_append, hreceived, List.mem_append, List.mem_singleton] at hmem
      rcases hmem with hmem | rfl
      · exact hk.unobserved hbefore scope hscope d hmem
      · exact hne scope hscope

end Attributes

/-! ### Every run -/

section Runs

variable {pki : Pki} {wire : Wire} {ambient : Ambient} {h h' : Host}

/-- A session is opened with the pending delivery as what it recovers. -/
theorem pendingCommandScope_pending {a : Running} {scope : RecoveryCommandScope} {p : StoredInboundSettlement}
    (h : a.pendingCommandScope = .ok (some scope)) (hp : a.state.pendingInbound = some p) :
    scope.topic = p.topic ∧ scope.commandId = p.commandId := by
  unfold Running.pendingCommandScope at h
  rw [hp] at h
  simp only [except_bind_ok] at h
  obtain ⟨_, _, _, _, _, _, heq⟩ := h
  cases heq
  exact ⟨rfl, rfl⟩

theorem attributes_inductive : Inductive pki wire (fun h poll ambient => (ReceiveMaximum h poll ambient ∧
    Exact wire h poll ambient) ∧ Tracks wire h) (fun _ _ => True) (Attributes wire) where
  fresh := trivial
  first _ _ := trivial
  ended _ _ := trivial
  opened {h readable} hg hcreate _ := by
    obtain ⟨tree, a, driver, deeds⟩ := h
    dsimp only at hcreate
    obtain ⟨identity, recoveryCommand, -, hscope, rfl⟩ := create_cases hcreate
    refine ⟨trivial, ?_, ?_, ?_, ?_, _, _, _, ⟨[], rfl, by simp⟩, rfl⟩
    · intro token htoken
      cases htoken
    · intro entry hmem
      cases hmem
    · rintro - scope p heq hp -
      exact pendingCommandScope_pending (hscope.trans (congrArg _ heq)) hp
    · rintro - scope - d hmem
      rw [lastSession_opened] at hmem
      cases hmem
  round hg _ hk hE hr := by
    refine ⟨trivial, fun ho => ?_⟩
    subst ho
    exact hr.attributes hg hE.2 hE.1.1 hk hE.1.2

/-- Only two changes settle the pending delivery. -/
theorem Asks.settles {p : Packet} {session : MqttSession} {event : MqttEvent} {call : Call} {s' : StateV1} {reply : Reply}
    (hg : h.Good pki) (hasks : Asks wire ambient (h.polled p event session) event call)
    (hanswers : Answers pki h.agent.retention call h.agent.state s' reply) (hunset : h.agent.state.pendingSettled = false)
    (hset : s'.pendingSettled = true) : ∃ pending, h.agent.state.pendingInbound = some pending ∧ pending.settled = false ∧
      s'.pendingInbound = some { pending with settled := true } ∧
      ((∃ token, event = .inboundAcknowledged (some token)) ∨ event = .unsubscribed ∧
        h.driver.state.pendingCommandAck = none ∧ h.driver.recoveryCommand ≠ none ∧
        h.driver.state.recoveryObservation = .notObserved ∧ h.agent.pendingInboundSettled = false) := by
  have hunsettled : ∀ pending, h.agent.state.pendingInbound = some pending → pending.settled = false := by
    intro pending hp
    simpa [StateV1.pendingSettled, hp] using hunset
  have hsame : s'.pendingInbound ≠ h.agent.state.pendingInbound := by
    intro heq
    rw [StateV1.pendingSettled, heq] at hset
    exact Bool.false_ne_true (hunset.symm.trans hset)
  cases hasks with
  | mark hrec =>
    obtain ⟨-, hs'⟩ := hanswers.mark
    exact absurd (by rw [hs']) hsame
  | command delivery =>
    obtain ⟨d, hd, -, -⟩ := commandCall_delivery wire ambient delivery
    have hdelivers := hanswers.delivery hg.coherent hd
    by_cases hreply : reply = .outcome .accepted
    · obtain ⟨p', hp', -, -, hfalse, -⟩ := (hdelivers.accepted hreply).pending
      simp [StateV1.pendingSettled, hp', hfalse] at hset
    · exact absurd (hdelivers.other hreply).pendingInbound hsame
  | confirm hpending =>
    obtain ⟨entry, -, -, -, hs'⟩ := hanswers.confirm
    have hpend : s'.pendingInbound = if entry.isReportReady = true then none else h.agent.state.pendingInbound := by
      rw [hs']
      rfl
    split_ifs at hpend
    · simp [StateV1.pendingSettled, hpend] at hset
    · exact absurd hpend hsame
  | absent hheld hscope hobs hunset' =>
    obtain ⟨pending, hp, hs'⟩ := hanswers.absent
    exact ⟨pending, hp, hunsettled pending hp, by rw [hs'], .inr ⟨rfl, hheld, hscope, hobs, hunset'⟩⟩
  | settle =>
    obtain ⟨pending, hp, -, hs'⟩ := hanswers.settle
    exact ⟨pending, hp, hunsettled pending hp, by rw [hs'], .inl ⟨_, rfl⟩⟩

/-- The PUBACK of this delivery, the last one that was queued, leaves the client. -/
def Flushes (wire : Wire) (deeds : List Deed) (pending : StoredInboundSettlement) (poll : Poll) : Prop := ∃ pkid delivery,
  poll = .packet (.sentPubAck pkid) ∧ (pubacked (lastSession deeds)).getLast? = some delivery ∧
    delivery.publish.pkid = pkid ∧ Matches wire delivery pending

/-- The UNSUBACK for its topic comes to a session that was opened to recover it and that has received nothing on the
topic. -/
def Misses (deeds : List Deed) (pending : StoredInboundSettlement) (poll : Poll) : Prop := ∃ reasons driver s earlier scope,
  poll = .packet (.unsubAck pending.topic reasons) ∧ LastOpened deeds driver s earlier ∧ driver.recoveryCommand = some scope ∧
    scope.topic = pending.topic ∧ scope.commandId = pending.commandId ∧
    ∀ delivery ∈ received (lastSession deeds), delivery.topic ≠ pending.topic

theorem Rounds.settles {poll : Poll} {o : Outcome SessionError (Option SessionCompletion)} {s' : StateV1} (hg : h.Good pki)
    (ht : Tracks wire h) (hk : Attributes wire h) (hE : Exact wire h poll ambient) (hr : Rounds pki wire ambient h poll o h')
    (hm : manifest h'.tree = some s') (hunset : h.agent.state.pendingSettled = false) (hset : s'.pendingSettled = true) :
    ∃ pending, h.agent.state.pendingInbound = some pending ∧ s'.pendingInbound = some { pending with settled := true } ∧
      (Flushes wire h.deeds pending poll ∨ Misses h.deeds pending poll) := by
  have hsame : manifest h'.tree ≠ some h.agent.state := by
    intro heq
    obtain rfl := Option.some.inj (hm.symm.trans heq)
    exact Bool.false_ne_true (hunset.symm.trans hset)
  cases hr.trace hg with
  | unpolled queued hdeeds hm' => exact absurd hm' hsame
  | polled hp hpoll queued hdeeds hm' => exact absurd hm' hsame
  | asked hp hpoll hasks answer hanswer queued hdeeds hm' =>
    obtain ⟨c, reply, hc, hcommits⟩ := hm'.resolve_left hsame
    obtain rfl := Option.some.inj (hm.symm.trans hc)
    obtain ⟨pending, hpending, hfalse, hpending', hhow⟩ := hasks.settles hg (.inr hcommits) hunset hset
    subst hp
    refine ⟨pending, hpending, hpending', ?_⟩
    rcases hhow with ⟨token, rfl⟩ | ⟨rfl, hheld, hscope, hobs, hunsettled⟩
    · cases MqttSession.poll_cases hpoll with
      | inbound hremove =>
        rename_i pkid rest
        obtain ⟨-, hheld, hacks⟩ := ht.flushed hremove
        have htoken : token ∈ h.tokens := by
          rw [tokens_eq hheld hacks]
          exact List.mem_singleton_self _
        obtain ⟨delivery, hlast, hmatches⟩ := hk.token token htoken pending hpending hfalse
        obtain ⟨delivery', hlast', hpkid⟩ := hk.named (pkid, some token) (hacks ▸ List.mem_singleton_self _)
        obtain rfl := Option.some.inj (hlast.symm.trans hlast')
        refine .inl ⟨pkid, delivery, rfl, ?_, hpkid, hmatches⟩
        have hreceived := ht.received
        rw [hheld] at hreceived
        unfold lastReceived at hlast
        rw [hreceived] at hlast
        simpa using hlast
    · cases MqttSession.poll_cases hpoll with
      | unsubscribed =>
        rename_i topic reasons
        obtain ⟨scope, hsome⟩ := Option.ne_none_iff_exists'.1 hscope
        obtain ⟨driver, s, earlier, hopened, hdriver⟩ := hk.opened
        obtain ⟨rfl, hnone⟩ := hE.barrier _ _ scope rfl hheld hsome hobs hunsettled
        obtain ⟨htopic, hname⟩ := hk.scope hnone scope pending hsome hpending hfalse
        refine .inr ⟨reasons, driver, s, earlier, scope, by rw [htopic], hopened, hdriver.trans hsome, htopic, hname, ?_⟩
        rw [← htopic]
        exact hk.unobserved hobs scope hsome

/-- What is on disk changes in a round, or is written first. -/
theorem Process.step_manifest {J : Option StateV1 → List Deed → Prop} {K : Host → Prop} {p : Process} {input : Input}
    {s : StateV1} (hp : p.Holds pki J K) (hno : ∀ poll ambient, input ≠ .turn poll ambient)
    (hm : manifest p.device.tree = some s) : manifest (p.step pki wire input).device.tree = some s := by
  cases input with
  | start config now faults =>
    simp only [Process.step]
    rcases ha : p.device.agent with _ | a
    · have hcopied := hp.sound.copied (.openAgent config now faults)
      show manifest (p.device.step pki (.openAgent config now faults)).2.tree = some s
      generalize (p.device.step pki (.openAgent config now faults)).2.standing = next at hcopied
      generalize manifest (p.device.step pki (.openAgent config now faults)).2.tree = disk at hcopied ⊢
      cases hcopied with
      | same => exact hm
      | dropped => exact hm
      | first hnone hb =>
        rw [hm] at hnone
        cases hnone
      | commits ha' =>
        rw [ha] at ha'
        cases ha'
      | unsynced ha' =>
        rw [ha] at ha'
        cases ha'
    · exact hm
  | kill => exact hm
  | signal =>
    simp only [Process.step]
    split <;> exact hm
  | connect readable =>
    simp only [Process.step]
    split
    · exact hm
    · unfold Process.connect
      split
      · exact hm
      · rw [(p.conclude_deeds _).2.1]
        exact hm
    · exact hm
  | turn poll ambient => exact absurd rfl (hno poll ambient)

/-- **Exact settlement**, over every run of processes and sessions in which nothing else comes under the topic and the name
of the pending delivery, and in which an UNSUBACK that finds nothing seen answers the end of the old subscription, in a
session that has accepted nothing: when the pending delivery becomes settled on disk, its own PUBACK has just left the
client, or the UNSUBACK for its topic has come to a session that was opened to recover it and has not received it. -/
theorem exact_settlement {inputs : List Input} {input : Input} (hrun : Along pki wire (fun h poll ambient =>
      Allowed h poll ambient ∧ Exact wire h poll ambient) (inputs ++ [input])) :
    let p := Process.fresh.run pki wire inputs
    let q := Process.fresh.run pki wire (inputs ++ [input])
    ∀ s s', manifest p.device.tree = some s → manifest q.device.tree = some s' → s.pendingSettled = false →
      s'.pendingSettled = true → ∃ pending poll ambient, s.pendingInbound = some pending ∧
        s'.pendingInbound = some { pending with settled := true } ∧ input = .turn poll ambient ∧
        (Flushes wire p.deeds pending poll ∨ Misses p.deeds pending poll) := by
  obtain ⟨hbefore, hmeets⟩ := atEvery_concat.1 hrun
  change Along pki wire _ inputs at hbefore
  have htracks := (hbefore.mono fun _ _ _ h => (⟨h.1.receiveMaximum, h.2⟩ : _ ∧ Exact _ _ _ _)).tracks fun _ _ _ h => h.1
  have hk := attributes_inductive.run htracks
  have ht := tracks_inductive.run (hbefore.mono fun _ _ _ h => h.1.receiveMaximum)
  rw [Process.run_concat]
  dsimp only
  generalize Process.fresh.run pki wire inputs = p at hk ht hmeets ⊢
  intro s s' hm hm' hunset hset
  have hchanged : ¬ manifest (p.step pki wire input).device.tree = some s := by
    intro heq
    obtain rfl := Option.some.inj (hm'.symm.trans heq)
    exact Bool.false_ne_true (hunset.symm.trans hset)
  by_cases hturn : ∃ poll ambient, input = .turn poll ambient
  · obtain ⟨poll, ambient, rfl⟩ := hturn
    simp only [Process.step] at hm' hchanged
    split at hm'
    · rename_i a driver ha hstage
      have hg : (p.host a driver).Good pki := hk.good ha
      have hstate : s = (p.host a driver).agent.state := Option.some.inj (hm.symm.trans hg.agrees)
      obtain ⟨hallowed, hexact⟩ := hmeets a driver poll ambient ha hstage rfl
      have hr : Rounds pki wire ambient (p.host a driver) poll _ _ := turn_cases poll
      split_ifs at hm' with hpossible
      · have htree := (p.after_cases (Driver.turn pki wire ambient poll (p.host a driver)).1
          (Driver.turn pki wire ambient poll (p.host a driver)).2).deeds.1
        obtain ⟨pending, hpending, hpending', hhow⟩ := hr.settles hg (ht.session a driver ha hstage)
          (hk.session a driver ha hstage) hexact ((congrArg manifest htree).symm.trans hm') (hstate ▸ hunset) hset
        exact ⟨pending, poll, ambient, hstate ▸ hpending, hpending', rfl, hhow⟩
      · obtain rfl := Option.some.inj (hm.symm.trans hm')
        exact absurd (hunset.symm.trans hset) Bool.false_ne_true
    · obtain rfl := Option.some.inj (hm.symm.trans hm')
      exact absurd (hunset.symm.trans hset) Bool.false_ne_true
  · exact absurd (Process.step_manifest hk (fun poll ambient h => hturn ⟨poll, ambient, h⟩) hm) hchanged

end Runs

/-! ### A payload under another's name -/

namespace Fixture

open Agent.Fixture

variable {E : Broker} {inputs : List Input} {s : StateV1} {d d' : SessionDriver} {deeds : List Deed} {artifact : ResolvedArtifact}

/-- The session that has seen a payload under the name it recovers, with its PUBACK on its way. -/
def misled : SessionDriver :=
  { recovering with
    session := { recovering.session with unsubscribing := [topic], inboundAcknowledgements := [(1, some token)], inflight := 1 }
    state := { connection := .connected, subscription := .unsubscribing, recoveryObservation := .observed } }

/-- The payload does not decode. -/
def stray : CommandDelivery := delivery (identity one) commandId []

def strayFingerprint : String := malformedFingerprint topic commandId.expose []

def strayCall : Call := .rejectMalformedDelivery topic commandId.expose [] now

theorem commandCall_stray : commandCall wire ambient stray = strayCall := commandCall_malformed (decode_empty _ _)

/-- The document once the payload is rejected. -/
def conflicted (artifact : ResolvedArtifact) : StateV1 :=
  (turning 0 artifact [turningAck 0 artifact, turningReport 0 artifact] none false).rejectConflictingReplay commandId.expose
    strayFingerprint 2 2 (observedAt now)

theorem strayFingerprint_ne : commandFingerprint (command 0) ≠ strayFingerprint := by decide +kernel

theorem ask_stray {h : Host} (hg : h.Good Agent.Fixture.pki) (hagent : h.agent =
      ⟨turning 0 artifact [turningAck 0 artifact, turningReport 0 artifact] none false, retention⟩) : ∃ tree,
    ask Agent.Fixture.pki ambient strayCall h = (.ok (.outcome (.rejected .malformedCommand)), h.asked strayCall
      ⟨tree, conflicted artifact⟩ [.answered strayCall (.outcome (.rejected .malformedCommand)) (conflicted artifact)]) := by
  obtain ⟨tree, agent, d, deeds⟩ := h
  obtain rfl : agent = ⟨turning 0 artifact [turningAck 0 artifact, turningReport 0 artifact] none false, retention⟩ := hagent
  have hs := hg.coherent.consistent
  have htopic : (turning 0 artifact [turningAck 0 artifact, turningReport 0 artifact] none false).pendingInbound.map (·.topic) =
      some topic := rfl
  -- the journal knows the command with another fingerprint
  have hm : (turning 0 artifact [turningAck 0 artifact, turningReport 0 artifact] none false).commandMatch commandId.expose
      strayFingerprint now = some false := by
    have hret : now < (acceptedCommand retention (command 0) artifact two now).retainUntilEpochSeconds := by
      show now < retentionDeadline retention (observedAt now)
      decide
    unfold StateV1.commandMatch
    show Option.map _ (List.find? _ ([] ++ [_])) = _
    rw [List.nil_append, List.find?_cons_of_pos]
    · exact congrArg some (decide_eq_false strayFingerprint_ne)
    · rw [decide_eq_true_eq]
      exact ⟨rfl, hret⟩
  have hknown : (turning 0 artifact [turningAck 0 artifact, turningReport 0 artifact] none false).hasConflictingReplay
      commandId.expose strayFingerprint = false := by
    refine hasConflictingReplay_eq_false.2 fun o ho he => ?_
    rcases List.mem_pair.1 ho with rfl | rfl
    · cases eventId_kind he
    · cases eventId_kind he
  obtain ⟨hreply, hafter⟩ := hg.sound.step_conflicting positiveExpiry rfl hs (.inr htopic)
    (ne_empty_of_validCommandId commandId.valid) hm hknown (show 2 < 128 by decide) (show 2 < 18446744073709551615 by decide)
  exact ask_answered (conflicted artifact) ambient_faults hreply hafter

theorem conflicted_token : Running.pendingDeliverySettlementToken ⟨conflicted artifact, retention⟩ topic commandId.expose =
    some token := @turning_token artifact 0 [] none false

theorem conflicted_open : Running.commandIntakeOpen ⟨conflicted artifact, retention⟩ now = true :=
  intakeOpen_of_room (show 1 < 1024 by decide) (show 3 ≤ 126 by decide)

/-- The session takes the payload for the one it recovers. -/
theorem At.misleads (hat : At E inputs (turning 0 artifact [turningAck 0 artifact, turningReport 0 artifact] none false) ending
      deeds)
    (hE : ∀ h, Allowed h (.packet (.publish stray.publish)) ambient → E h (.packet (.publish stray.publish)) ambient) :
    At E (inputs ++ [packet (.publish stray.publish)]) (conflicted artifact) misled
      (deeds ++ [.polled (.publish stray.publish) (.command stray)] ++ [.asked strayCall
        (turning 0 artifact [turningAck 0 artifact, turningReport 0 artifact] none false),
        .answered strayCall (.outcome (.rejected .malformedCommand)) (conflicted artifact)] ++ [.queued (.ack stray)]) := by
  refine hat.proceeds (fun _ => hE _ (allowed_publish rfl rfl)) (poll_publish [] ending_scope) fun tree hg => ?_
  let h : Host := ⟨tree, ⟨turning 0 artifact [turningAck 0 artifact, turningReport 0 artifact] none false, retention⟩, ending,
    deeds⟩
  have hobserves : (h.polled (.publish stray.publish) (.command stray) { ending.session with inflight := 1 }).observes stray =
      (h.polled (.publish stray.publish) (.command stray) { ending.session with inflight := 1 }).set
        fun s => { s with recoveryObservation := .observed } := by
    refine if_pos ?_
    simp [h, Host.polled, ending, recovering, oldScope, stray, delivery]
    rfl
  obtain ⟨tree', hask⟩ := ask_stray ((hg.polled (.publish stray.publish) (.command stray)
    { ending.session with inflight := 1 }).set fun s => { s with recoveryObservation := .observed }) rfl
  rw [← commandCall_stray] at hask
  have hhandled : Handled _ wire _ _ _ _ _ := Handled.acked (h := h.polled (.publish stray.publish) (.command stray)
    { ending.session with inflight := 1 }) ((congrArg (ask Agent.Fixture.pki ambient _) hobserves).trans hask)
    (fun h => by cases h) conflicted_open rfl
  change Handled _ _ _ _ _ (Host.acks _ _ (Running.pendingDeliverySettlementToken ⟨conflicted artifact, retention⟩
    topic commandId.expose)) _ at hhandled
  rw [conflicted_token, commandCall_stray] at hhandled
  exact ⟨tree', _, hhandled, head_quiet rfl fun h => by cases h⟩

/-- A command is accepted, the transport is lost, and another payload comes under its name to the session that recovers it. -/
def mistaken : List Input :=
  listen ++ [packet (.publish (named commandId).publish)] ++ [.turn (.failed .io) ambient] ++ [.connect true] ++
    [packet .connAck] ++ [packet (.publish stray.publish)]

end Fixture

open Fixture Agent.Fixture in
/-- A command that is accepted, and its PUBACK. -/
theorem exact_settlement_accepted : ∃ s s' pending,
    manifest (run admitting).device.tree = some s ∧ manifest (run (admitting ++ [packet (.sentPubAck 1)])).device.tree = some s' ∧
      s.pendingInbound = some pending ∧ s'.pendingInbound = some { pending with settled := true } ∧
      Flushes Fixture.wire (run admitting).deeds pending (.packet (.sentPubAck 1)) := by
  have hE : ∀ h p, (∀ q, p ≠ .publish q) → (∀ topic reasons, p = .unsubAck topic reasons → h.driver.recoveryCommand = none) →
      Allowed h (.packet p) ambient → Allowed h (.packet p) ambient ∧ Exact Fixture.wire h (.packet p) ambient := by
    intro h p hpublish hscope hallowed
    refine ⟨hallowed, ?_, ?_⟩
    · rintro q delivery pending ⟨⟩
      exact absurd rfl (hpublish q)
    · rintro topic reasons scope ⟨⟩ - hsome
      cases (hscope topic reasons rfl).symm.trans hsome
  have hlistening : At (fun h poll ambient => Allowed h poll ambient ∧ Exact Fixture.wire h poll ambient) Fixture.listen
      (resting 0 []) listening _ :=
    at_listens (fun _ _ ha => hE _ _ (fun _ h => by cases h) (fun _ _ h => by cases h) ha)
      fun _ _ ha => hE _ _ (fun _ h => by cases h) (fun _ _ h => by cases h) ha
  obtain ⟨artifact, -, htaken⟩ := hlistening.takes (by decide) vacant_listen fun _ => by
    refine ⟨allowed_publish rfl rfl, ?_, ?_⟩
    · rintro q delivery pending - - hpending
      cases hpending
    · rintro topic reasons scope ⟨⟩
  have hreleased : At _ admitting _ _ _ := htaken.releases fun h hd ha =>
    hE h _ (fun _ h => by cases h) (fun _ _ _ => congrArg SessionDriver.recoveryCommand hd) ha
  have hsettled := hreleased.settles fun h ha => hE h _ (fun _ h => by cases h) (fun _ _ h => by cases h) ha
  obtain ⟨tree, hs⟩ := hreleased
  obtain ⟨tree', hs'⟩ := hsettled
  have hm : manifest (run admitting).device.tree = some (turning 0 artifact [turningAck 0 artifact, turningReport 0 artifact] none
      false) := by
    rw [run, hs.run]
    exact hs.good.agrees
  have hm' : manifest (run (admitting ++ [packet (.sentPubAck 1)])).device.tree = some (turning 0 artifact
      [turningAck 0 artifact, turningReport 0 artifact] none true) := by
    rw [run, hs'.run]
    exact hs'.good.agrees
  have hrun : Along Agent.Fixture.pki Fixture.wire _ (admitting ++ [packet (.sentPubAck 1)]) := hs'.along
  have hexact := exact_settlement hrun
  dsimp only at hexact
  unfold run at hm hm' ⊢
  obtain ⟨pending, poll, ambient, hpending, hpending', hinput, hflushes | ⟨reasons, driver, s, earlier, scope, hpoll, -⟩⟩ :=
    hexact _ _ hm hm' rfl rfl
  all_goals obtain ⟨rfl, -⟩ := Input.turn.inj hinput
  · exact ⟨_, _, pending, hm, hm', hpending, hpending', hflushes⟩
  · cases hpoll

open Fixture Agent.Fixture in
/-- **What the PUBACK of another delivery does.**  Another payload under the topic and the name of the accepted command gets
its settlement token; when its PUBACK leaves, the command is settled. -/
theorem settlement_mistaken : Along Agent.Fixture.pki Fixture.wire Allowed (mistaken ++ [packet (.sentPubAck stray.publish.pkid)]) ∧
    (pubacked (lastSession (run mistaken).deeds)).getLast? = some stray ∧
    ∃ s s' pending, manifest (run mistaken).device.tree = some s ∧
      manifest (run (mistaken ++ [packet (.sentPubAck stray.publish.pkid)])).device.tree = some s' ∧
      s.pendingInbound = some pending ∧ s.pendingSettled = false ∧ s'.pendingSettled = true ∧
      stray.topic = pending.topic ∧ stray.commandId.expose = pending.commandId ∧
      stray.fingerprint Fixture.wire ≠ pending.fingerprint := by
  have hlistening : At Allowed Fixture.listen (resting 0 []) listening _ := at_listens (fun _ _ h => h) fun _ _ h => h
  obtain ⟨artifact, htwo, htaken⟩ := hlistening.takes (by decide) vacant_listen fun _ => allowed_publish rfl rfl
  have hopened := (htaken.loses fun _ => allowed_failed).opens (create_turning htwo _ _ _ _)
  have hending := hopened.recovers fun _ => allowed_connAck rfl
  have hmisled : At Allowed mistaken _ _ _ := hending.misleads fun _ h => h
  have hsettled := hmisled.flushes (p := (acceptedCommand retention (command 0) artifact two now).pending (identity one))
    (fun _ h => h) rfl rfl rfl rfl rfl rfl
  obtain ⟨tree, hs⟩ := hmisled
  obtain ⟨tree', hs'⟩ := hsettled
  have hfingerprint : stray.fingerprint Fixture.wire = strayFingerprint := by
    have hcall := commandCall_fingerprint Fixture.wire ambient stray
    rw [commandCall_stray] at hcall
    exact (Option.some.inj hcall).symm
  refine ⟨hs'.along, ?_, conflicted artifact,
    { conflicted artifact with pendingInbound := some { (acceptedCommand retention (command 0) artifact two now).pending
      (identity one) with settled := true } }, (acceptedCommand retention (command 0) artifact two now).pending (identity one),
    ?_, ?_, rfl, rfl, rfl, rfl, rfl, ?_⟩
  · rw [run, hs.run]
    rfl
  · rw [run, hs.run]
    exact hs.good.agrees
  · have hrun : run (mistaken ++ [packet (.sentPubAck stray.publish.pkid)]) = _ := hs'.run
    rw [hrun]
    exact hs'.good.agrees
  · rw [hfingerprint]
    exact strayFingerprint_ne.symm

end RssIncubator.Driver
