import RssIncubator.Driver.Puback
import RssIncubator.Driver.Scope

/-!
# Settlement tokens

The PUBACK of the pending delivery carries its settlement token through the session: first with the delivery that is
held, then with the PUBACK on its way.  `Shifts` is all that a round can do to the tokens of a session and to the pending
delivery, and `Tokened` what then holds as long as no report is confirmed with a token on its way.
-/

namespace RssIncubator.Driver

open Agent Lib StateV1 StoredOutbound

/-- The settlement tokens that are held or on their way. -/
def Host.tokens (h : Host) : List String :=
  (h.driver.state.pendingCommandAck.bind Prod.snd).toList ++ h.driver.session.inboundAcknowledgements.filterMap Prod.snd

/-- All that a round that goes on can do to the tokens and to the pending delivery. -/
inductive Shifts (pki : Pki) (wire : Wire) (ambient : Ambient) (h : Host) : Poll → Host → Prop
  | same {poll h'} (htokens : h'.tokens = h.tokens)
      (hpending : h'.agent.state.pendingInbound = h.agent.state.pendingInbound) : Shifts pki wire ambient h poll h'
  | taken {p delivery reply h'} (hdelivery : h.driver.session.commandDelivery wire p = .ok delivery)
      (hfree : h.tokens = []) (hanswers : Answers pki h.agent.retention (commandCall wire ambient delivery) h.agent.state
        h'.agent.state reply)
      (htokens : h'.tokens = (h'.agent.pendingDeliverySettlementToken delivery.topic delivery.commandId.expose).toList) :
      Shifts pki wire ambient h (.packet (.publish p)) h'
  | confirmed {pkid event rest reply h'} (hevent : PacketMap.remove h.driver.session.packetEvents pkid = some (event, rest))
      (hanswers : Answers pki h.agent.retention (.confirmOutbound event) h.agent.state h'.agent.state reply)
      (htokens : h'.tokens = h.tokens) : Shifts pki wire ambient h (.packet (.pubAck pkid)) h'
  | absent {topic reasons reply h'} (hheld : h.driver.state.pendingCommandAck = none)
      (hscope : h.driver.recoveryCommand ≠ none) (hobs : h.driver.state.recoveryObservation = .notObserved)
      (hset : h.agent.pendingInboundSettled = false)
      (hanswers : Answers pki h.agent.retention .markPendingInboundAbsent h.agent.state h'.agent.state reply)
      (htokens : h'.tokens = h.tokens) : Shifts pki wire ambient h (.packet (.unsubAck topic reasons)) h'
  | settled {pkid token reply h'} (hacks : h.driver.session.inboundAcknowledgements = [(pkid, some token)])
      (hanswers : Answers pki h.agent.retention (.markPendingInboundSettled token) h.agent.state h'.agent.state reply)
      (htokens : h'.tokens = []) : Shifts pki wire ambient h (.packet (.sentPubAck pkid)) h'

section

variable {pki : Pki} {wire : Wire} {ambient : Ambient} {h h₁ h' : Host} {control : DriverControl}

theorem Sends.pending (hs : Sends h h') : h'.agent.state.pendingInbound = h.agent.state.pendingInbound := by rw [hs.agent]

theorem Passes.tokens (hp : Passes h h') : h'.tokens = h.tokens := by
  unfold Host.tokens
  rw [hp.held, hp.acks]

theorem tokens_eq {held : Option (CommandDelivery × Option String)} {acks : PacketMap (Option String)}
    (hheld : h.driver.state.pendingCommandAck = held) (hacks : h.driver.session.inboundAcknowledgements = acks) :
    h.tokens = (held.bind Prod.snd).toList ++ acks.filterMap Prod.snd := by rw [Host.tokens, hheld, hacks]

theorem tokens_nil (hheld : h.driver.state.pendingCommandAck = none) (hacks : h.driver.session.inboundAcknowledgements = []) :
    h.tokens = [] := tokens_eq hheld hacks

theorem tokens_holds {delivery : CommandDelivery} {token : Option String}
    (hacks : h.driver.session.inboundAcknowledgements = []) : (h.holds delivery token).tokens = token.toList := by
  show token.toList ++ h.driver.session.inboundAcknowledgements.filterMap Prod.snd = _
  rw [hacks]
  exact List.append_nil _

theorem tokens_acks {delivery : CommandDelivery} {token : Option String} (hheld : h.driver.state.pendingCommandAck = none)
    (hacks : h.driver.session.inboundAcknowledgements = []) : (h.acks delivery token).tokens = token.toList := by
  show (h.driver.state.pendingCommandAck.bind Prod.snd).toList ++
    (PacketMap.insert h.driver.session.inboundAcknowledgements _ token).filterMap Prod.snd = _
  rw [hheld, hacks]
  cases token <;> rfl

/-- While a delivery is held no PUBACK is on its way. -/
theorem Tracks.unsent {held : CommandDelivery × Option String} (ht : Tracks wire h)
    (hheld : h.driver.state.pendingCommandAck = some held) : h.driver.session.inboundAcknowledgements = [] := by
  have hsum := ht.inflight
  have hone := ht.one
  rw [hheld, Option.toList_some, List.length_singleton] at hsum
  exact List.length_eq_zero_iff.1 (by omega)

/-- A delivery is taken with no token on its way. -/
theorem Tracks.answers {p : Publish} {delivery : CommandDelivery} {reply : Reply} (ht : Tracks wire h) (hg : h.Good pki)
    (hfree : h.driver.session.inflight = 0)
    (hask : ask pki ambient (commandCall wire ambient delivery) ((h.polled (.publish p) (.command delivery)
      { h.driver.session with inflight := h.driver.session.inflight + 1 }).observes delivery) = (.ok reply, h₁)) :
    h.tokens = [] ∧
    Answers pki h.agent.retention (commandCall wire ambient delivery) h.agent.state h₁.agent.state reply := by
  obtain ⟨hheld, hacks⟩ := ht.free hfree
  have hgo : ((h.polled (.publish p) (.command delivery) { h.driver.session with
      inflight := h.driver.session.inflight + 1 }).observes delivery).Good pki :=
    (hg.polled _ _ _).congr (observes_tree _ _) (observes_agent _ _)
  have hanswers := (hgo.ask hask).answers
  rw [observes_agent] at hanswers
  exact ⟨tokens_nil hheld hacks, hanswers⟩

theorem Handled.shifts {p : Packet} {event : MqttEvent} {session : MqttSession} (hg : h.Good pki) (ht : Tracks wire h)
    (hrm : ReceiveMaximum h (.packet p) ambient) (hpolls : MqttSession.Polls wire h.driver.session p event session)
    (hh : Handled pki wire ambient (h.polled p event session) event h' control) : Shifts pki wire ambient h (.packet p) h' := by
  have hg' : (h.polled p event session).Good pki := hg.polled _ _ _
  cases hh with
  | connected hmark hlisten =>
    cases hpolls
    refine .same ?_ ?_
    · exact ((hmark.passes (hg'.set _)).trans hlisten.passes).tokens
    · rw [hlisten.sends.agent]
      cases hmark with
      | unmarked hrec => rfl
      | marked hrec hask =>
        obtain ⟨-, hs'⟩ := ((hg'.set _).ask hask).answers.mark
        rw [hs']
        rfl
  | subscribed =>
    cases hpolls
    exact .same rfl rfl
  | held hask hhold =>
    cases hpolls with
    | command hdelivery =>
      have htaken := ht.taken hg (hrm _ rfl) hask
      obtain ⟨hfree, hanswers⟩ := ht.answers hg (hrm _ rfl) hask
      exact .taken hdelivery hfree hanswers (tokens_holds htaken.unsent)
  | acked hask hreply hopen hshut =>
    cases hpolls with
    | command hdelivery =>
      have htaken := ht.taken hg (hrm _ rfl) hask
      obtain ⟨hfree, hanswers⟩ := ht.answers hg (hrm _ rfl) hask
      exact .taken hdelivery hfree hanswers (tokens_acks htaken.held htaken.unsent)
  | confirmed hpending hask hnext =>
    cases hpolls with
    | outbound hremove =>
      have hc := (hg'.set _).ask hask
      have hanswers := hc.answers
      rw [← hnext.sends.agent] at hanswers
      exact .confirmed hremove hanswers (hc.passes_confirm.trans hnext.passes).tokens
  | released hheld =>
    cases hpolls
    have hheld' : h.driver.state.pendingCommandAck = _ := hheld
    refine .same ?_ rfl
    rw [tokens_eq hheld' (ht.unsent hheld'), List.filterMap_nil, List.append_nil]
    exact tokens_acks rfl (ht.unsent hheld')
  | unsubscribed hheld habsent hnext =>
    cases hpolls
    have hpass := (habsent.passes (hg'.set _) hheld).trans hnext.passes
    cases habsent with
    | absent hscope hobs hset hask =>
      have hanswers := ((hg'.set _).ask hask).answers
      rw [← hnext.sends.agent] at hanswers
      exact .absent hheld hscope hobs hset hanswers hpass.tokens
    | present hno => exact .same hpass.tokens hnext.sends.pending
  | inboundOther =>
    cases hpolls with
    | inbound hremove =>
      obtain ⟨htracks, hheld, hacks⟩ := ht.flushed hremove
      refine .same ?_ rfl
      rw [tokens_eq hheld hacks]
      obtain ⟨-, rfl⟩ := PacketMap.remove_one hremove (by rw [hacks]; rfl)
      exact tokens_nil hheld rfl
  | inboundSettled hask hcontrol =>
    cases hpolls with
    | inbound hremove =>
      obtain ⟨htracks, hheld, hacks⟩ := ht.flushed hremove
      have hc := hg'.ask hask
      obtain ⟨-, rfl⟩ := PacketMap.remove_one hremove (by rw [hacks]; rfl)
      refine .settled hacks hc.answers (tokens_nil ?_ ?_)
      · rw [hc.driver]
        exact hheld
      · rw [hc.driver]
        rfl
  | progress =>
    cases hpolls with
    | published hawaiting => exact .same rfl rfl
    | other => exact .same rfl rfl

theorem Shifts.passes {poll : Poll} (hs : Shifts pki wire ambient h poll h₁) (hp : Passes h₁ h') (hagent : h'.agent = h₁.agent) :
    Shifts pki wire ambient h poll h' := by
  have htok := hp.tokens
  cases hs with
  | same htokens hpending => exact .same (htok.trans htokens) (by rw [hagent, hpending])
  | taken hdelivery hfree hanswers htokens =>
    exact .taken hdelivery hfree (hagent ▸ hanswers) (by rw [htok, htokens, hagent])
  | confirmed hevent hanswers htokens => exact .confirmed hevent (hagent ▸ hanswers) (htok.trans htokens)
  | absent hheld hscope hobs hset hanswers htokens =>
    exact .absent hheld hscope hobs hset (hagent ▸ hanswers) (htok.trans htokens)
  | settled hacks hanswers htokens => exact .settled hacks (hagent ▸ hanswers) (htok.trans htokens)

theorem Rounds.shifts {poll : Poll} (hg : h.Good pki) (ht : Tracks wire h) (hrm : ReceiveMaximum h poll ambient)
    (hr : Rounds pki wire ambient h poll (.ok none) h') : Shifts pki wire ambient h poll h' := by
  cases hr with
  | handled hpoll hhandled hhead =>
    exact (hhandled.shifts hg ht hrm (MqttSession.poll_cases hpoll)).passes hhead.passes hhead.sends.agent
  | stopping hstop hhead =>
    exact .same (hstop.passes.trans hhead.passes).tokens (hstop.sends.trans hhead.sends).pending
  | nothing hpoll => exact .same rfl rfl

/-! ### Tokens of the pending delivery -/

/-- Every token belongs to the pending delivery. -/
def Tokened (h : Host) : Prop := ∀ token ∈ h.tokens, ∃ p, h.agent.state.pendingInbound = some p ∧ p.settlementToken = token

/-- The PUBACK of a report that is ready does not overtake a settlement token. -/
def TokensFirst : Broker := fun h poll _ => ∀ pkid event rest, poll = .packet (.pubAck pkid) →
  PacketMap.remove h.driver.session.packetEvents pkid = some (event, rest) →
  (∃ entry ∈ h.agent.state.outbox, entry.eventId = event ∧ entry.isReportReady = true) → h.tokens = []

theorem settlementToken_pending {a : Running} {topic commandId token : String}
    (h : a.pendingDeliverySettlementToken topic commandId = some token) :
    ∃ p, a.state.pendingInbound = some p ∧ p.settlementToken = token ∧ p.topic = topic ∧ p.commandId = commandId := by
  unfold Running.pendingDeliverySettlementToken at h
  obtain ⟨p, hp, heq⟩ := Option.bind_eq_some_iff.1 h
  split_ifs at heq with hmatch
  cases heq
  exact ⟨p, hp, rfl, hmatch.1, hmatch.2⟩

theorem Shifts.tokened {poll : Poll} (hs : Shifts pki wire ambient h poll h') (hk : Tokened h)
    (hfirst : TokensFirst h poll ambient) : Tokened h' := by
  intro token htoken
  cases hs with
  | same htokens hpending =>
    rw [htokens] at htoken
    rw [hpending]
    exact hk token htoken
  | taken hdelivery hfree hanswers htokens =>
    rw [htokens, Option.mem_toList] at htoken
    obtain ⟨p, hp, ht, -⟩ := settlementToken_pending htoken
    exact ⟨p, hp, ht⟩
  | confirmed hevent hanswers htokens =>
    obtain ⟨entry, hmem, hname, -, hs'⟩ := hanswers.confirm
    rw [htokens] at htoken
    rw [hs']
    by_cases hready : entry.isReportReady = true
    · rw [hfirst _ _ _ rfl hevent ⟨entry, hmem, hname, hready⟩] at htoken
      cases htoken
    · show ∃ p, (if entry.isReportReady = true then none else h.agent.state.pendingInbound) = some p ∧ _
      rw [if_neg hready]
      exact hk token htoken
  | absent hheld hscope hobs hset hanswers htokens =>
    rw [htokens] at htoken
    obtain ⟨p, hp, hs'⟩ := hanswers.absent
    obtain ⟨p', hp', ht⟩ := hk token htoken
    obtain rfl := Option.some.inj (hp.symm.trans hp')
    exact ⟨{ p with settled := true }, by rw [hs'], ht⟩
  | settled hacks hanswers htokens =>
    rw [htokens] at htoken
    cases htoken

end

section Runs

variable {pki : Pki} {wire : Wire}

theorem Along.tracks {E : Broker} {inputs : List Input} (hE : Along pki wire E inputs)
    (hrm : ∀ h poll ambient, E h poll ambient → ReceiveMaximum h poll ambient) :
    Along pki wire (fun h poll ambient => E h poll ambient ∧ Tracks wire h) inputs :=
  hE.and (((hE.mono hrm) |> tracks_inductive.along).mono fun _ _ _ h => h.2.2)

/-- While tokens come first, every token belongs to the pending delivery. -/
theorem tokened_inductive : Inductive pki wire (fun h poll ambient => (ReceiveMaximum h poll ambient ∧
    TokensFirst h poll ambient) ∧ Tracks wire h) (fun _ _ => True) Tokened where
  fresh := trivial
  first _ _ := trivial
  ended _ _ := trivial
  opened {h readable} hg hcreate _ := by
    obtain ⟨identity, recoveryCommand, -, -, hdriver⟩ := create_cases hcreate
    refine ⟨trivial, fun token htoken => ?_⟩
    have hnone : Host.tokens { h with deeds := h.deeds ++ [.opened h.driver h.agent.state] } = [] := by
      unfold Host.tokens
      rw [hdriver]
      rfl
    rw [hnone] at htoken
    cases htoken
  round hg _ hk hE hr := by
    refine ⟨trivial, fun ho => ?_⟩
    subst ho
    exact (hr.shifts hg hE.2 hE.1.1).tokened hk hE.1.2

end Runs

end RssIncubator.Driver
