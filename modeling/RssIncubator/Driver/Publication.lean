import RssIncubator.Driver.Credential
import Mathlib.Logic.Relation

/-!
# What is published is confirmed

A session publishes one fact at a time and asks the agent to confirm the one whose PUBACK comes.  It knows it by a packet
identifier that the client assigns when the publication leaves.  `InTransit` compares what the session keeps of this
with the deeds: the publications are those whose PUBACK has come and the one that is on its way, in this order, the agent
has confirmed what has its PUBACK, and it still offers the fact that is on its way.
-/

namespace RssIncubator.Driver

open Agent Lib StateV1

/-! ### The ledger of a session -/

namespace Deed

/-- The fact that is published. -/
def publication : Deed → Option OutboundFact
  | .queued (.publish _ fact _) => some fact
  | _ => none

/-- The event whose PUBACK has come. -/
def acknowledgement : Deed → Option String
  | .polled _ (.outboundAcknowledged eventId) => some eventId
  | _ => none

/-- The event that the agent has confirmed. -/
def confirmation : Deed → Option String
  | .answered (.confirmOutbound eventId) _ _ => some eventId
  | _ => none

end Deed

/-- The facts published, in their order. -/
def publications (deeds : List Deed) : List OutboundFact := deeds.filterMap Deed.publication

/-- The events whose PUBACK has come, in that order. -/
def acknowledgements (deeds : List Deed) : List String := deeds.filterMap Deed.acknowledgement

/-- The events that the agent has confirmed, in that order. -/
def confirmations (deeds : List Deed) : List String := deeds.filterMap Deed.confirmation

/-- Deeds that neither publish nor tell of a PUBACK. -/
def Unsent (new : List Deed) : Prop :=
  ∀ deed ∈ new, deed.isOpened = false ∧ deed.publication = none ∧ deed.acknowledgement = none

/-- Deeds that say nothing about publications. -/
def Unpublished (new : List Deed) : Prop := Unsent new ∧ confirmations new = []

section

variable {deeds new new' : List Deed}

theorem publications_append : publications (deeds ++ new) = publications deeds ++ publications new := List.filterMap_append ..

theorem acknowledgements_append : acknowledgements (deeds ++ new) = acknowledgements deeds ++ acknowledgements new :=
  List.filterMap_append ..

theorem confirmations_append : confirmations (deeds ++ new) = confirmations deeds ++ confirmations new :=
  List.filterMap_append ..

theorem unsent_nil : Unsent [] := fun _ h => by cases h

theorem Unsent.append (h : Unsent new) (h' : Unsent new') : Unsent (new ++ new') := by
  intro deed hmem
  rcases List.mem_append.1 hmem with hmem | hmem
  · exact h deed hmem
  · exact h' deed hmem

theorem Unsent.publications (h : Unsent new) : publications new = [] :=
  List.filterMap_eq_nil_iff.2 fun deed hmem => (h deed hmem).2.1

theorem Unsent.acknowledgements (h : Unsent new) : acknowledgements new = [] :=
  List.filterMap_eq_nil_iff.2 fun deed hmem => (h deed hmem).2.2

theorem Unsent.lastSession (h : Unsent new) : lastSession (deeds ++ new) = lastSession deeds ++ new :=
  lastSession_append fun deed hmem => (h deed hmem).1

theorem unpublished_nil : Unpublished [] := ⟨unsent_nil, rfl⟩

theorem Unpublished.append (h : Unpublished new) (h' : Unpublished new') : Unpublished (new ++ new') :=
  ⟨h.1.append h'.1, by rw [confirmations_append, h.2, h'.2]; rfl⟩

theorem Questions.unsent (hq : Questions new) : Unsent new := by
  cases hq with
  | none => exact unsent_nil
  | asked h =>
    rcases h with rfl | ⟨reply, s', rfl⟩ <;> simp [Unsent, Deed.isOpened, Deed.publication, Deed.acknowledgement]

theorem unpublished_queued {r : Request} (h : ∀ topic fact payload, r ≠ .publish topic fact payload) :
    Unpublished [.queued r] := by
  refine ⟨fun deed hmem => ?_, rfl⟩
  obtain rfl := List.mem_singleton.1 hmem
  cases r with
  | publish topic fact payload => exact absurd rfl (h _ _ _)
  | _ => exact ⟨rfl, rfl, rfl⟩

end

/-- The deeds of what an event leads to, up to the requests: only a PUBACK of the broker leads to a confirmation. -/
structure Inquires (event : MqttEvent) (new : List Deed) : Prop where
  unsent : Unsent new
  confirms : confirmations new = [] ∨ ∃ eventId, event = .outboundAcknowledged eventId ∧ confirmations new = [eventId]

section

variable {pki : Pki} {wire : Wire} {ambient : Ambient} {h h₁ h' : Host} {event : MqttEvent} {call : Call} {answer : List Deed}

theorem inquires_nil : Inquires event [] := ⟨unsent_nil, .inl rfl⟩

theorem Inquires.unpublished {new : List Deed} (hi : Inquires event new)
    (hevent : ∀ eventId, event ≠ .outboundAcknowledged eventId) : Unpublished new :=
  ⟨hi.unsent, hi.confirms.resolve_right fun ⟨eventId, heq, _⟩ => hevent eventId heq⟩

theorem Asks.inquires {s : StateV1} (hasks : Asks wire ambient h event call)
    (hanswer : answer = [] ∨ ∃ reply s, answer = [.answered call reply s]) : Inquires event (.asked call s :: answer) := by
  refine ⟨(Questions.asked hanswer).unsent, ?_⟩
  rcases hanswer with rfl | ⟨reply, s', rfl⟩
  · exact .inl rfl
  · cases hasks with
    | mark hrec => exact .inl rfl
    | command delivery =>
      refine .inl (List.filterMap_eq_nil_iff.2 fun deed hmem => ?_)
      rcases List.mem_pair.1 hmem with rfl | rfl
      · rfl
      · have hne := commandCall_ne_confirm wire ambient delivery
        generalize commandCall wire ambient delivery = call at hne
        cases call with
        | confirmOutbound eventId => exact absurd rfl (hne _)
        | _ => rfl
    | confirm hpending => exact .inr ⟨_, rfl, rfl⟩
    | absent hheld hscope hobs hset => exact .inl rfl
    | settle => exact .inl rfl

theorem Before.inquires (hb : Before pki wire ambient h event h₁) (hg : h.Good pki) :
    ∃ new, h₁.deeds = h.deeds ++ new ∧ Inquires event new := by
  cases hb with
  | unasked f => exact ⟨[], by simp [Host.set], inquires_nil⟩
  | asked g hasks hask =>
    obtain ⟨-, -, answer, hanswer, hdeeds⟩ := (hg.set _).asked hask
    exact ⟨_, hdeeds, hasks.inquires hanswer⟩

theorem Broken.inquires {e : SessionError} (hb : Broken pki wire ambient h event e h') (hg : h.Good pki) :
    ∃ new, h'.deeds = h.deeds ++ new ∧ Inquires event new := by
  cases hb with
  | refused hasks hask =>
    obtain ⟨-, -, answer, hanswer, hdeeds⟩ := (hg.set _).asked hask
    exact ⟨_, hdeeds, hasks.inquires hanswer⟩
  | unqueued hbefore => exact hbefore.inquires hg
  | unknown hbefore => exact hbefore.inquires hg
  | invalid hbefore => exact hbefore.inquires hg
  | unscoped hbefore hdriver hscope => exact hbefore.inquires hg

theorem Crashed.inquires (hc : Crashed pki wire ambient h event h') (hg : h.Good pki) :
    ∃ new, h'.deeds = h.deeds ++ new ∧ Inquires event new := by
  obtain ⟨hasks, hask⟩ := hc
  obtain ⟨-, -, answer, hanswer, hdeeds⟩ := (hg.set _).asked hask
  exact ⟨_, hdeeds, hasks.inquires hanswer⟩

end

/-! ### What the agent offers -/

/-- An entry of this name may be published. -/
def Offers (s : StateV1) (eventId : String) : Prop := ∃ o ∈ s.outbox, o.eventId = eventId ∧ s.Publishable o

section

variable {pki : Pki} {retention : NonZeroU32} {s s' : StateV1} {call : Call} {reply : Reply}

theorem offers_mono (h : ∀ o ∈ s.outbox, s.Publishable o → ∃ o' ∈ s'.outbox, o'.eventId = o.eventId ∧ s'.Publishable o')
    {eventId : String} (he : Offers s eventId) : Offers s' eventId := by
  obtain ⟨o, ho, rfl, hpub⟩ := he
  exact h o ho hpub

theorem Publishable.of_settled {o : StoredOutbound} (h : s.Publishable o)
    (hsettled : s.pendingSettled = true → s'.pendingSettled = true) : s'.Publishable o := by
  rw [publishable_iff] at h ⊢
  exact ⟨h.1, fun hready => hsettled (h.2 hready)⟩

/-- What is offered is offered until it is confirmed. -/
theorem Answers.offers (h : Answers pki retention call s s' reply) (hs : s.Coherent)
    (hcall : ∀ event, call ≠ .confirmOutbound event) {eventId : String} (he : Offers s eventId) : Offers s' eventId := by
  rcases h with ⟨rfl, -⟩ | ⟨dec, hp, hc, -⟩
  · exact he
  have appended : ∀ {new : List StoredOutbound}, s'.outbox = s.outbox ++ new →
      s'.pendingInbound = s.pendingInbound → Offers s' eventId := by
    intro new hout hpend
    refine offers_mono (fun o ho hpub => ⟨o, by rw [hout]; exact List.mem_append_left _ ho, rfl, ?_⟩) he
    exact Publishable.of_settled hpub (by unfold pendingSettled; rw [hpend]; exact id)
  have settled : ∀ {p : StoredInboundSettlement}, s' = { s with pendingInbound := some { p with settled := true } } →
      Offers s' eventId := by
    intro p hs'
    refine offers_mono (fun o ho hpub => ⟨o, by rw [hs']; exact ho, rfl, ?_⟩) he
    exact Publishable.of_settled hpub fun _ => by rw [hs']; rfl
  cases plan_cases hs.consistent hp with
  | duplicate hdel hm hack => cases hc
  | conflicting hdel hm hknown => cases hc
  | replay hdel hm hack hroom hfind =>
    cases hc
    exact appended rfl rfl
  | conflict hdel hm hknown hroom hgen hfence =>
    cases hc
    exact appended rfl rfl
  | reject hdel hm hgen hfence hexpiry hroom hjournal =>
    cases hc
    exact appended rfl rfl
  | accept hm hflight hid htopic hdevice hdeadline hres hfence hgen hcred hroom hjournal hrev =>
    cases hc
    -- no report is in the outbox, and an acknowledgement waits for nothing
    refine offers_mono (fun o ho hpub => ⟨o, List.mem_append_left _ ho, rfl, ?_⟩) he
    have hno := rotationInFlight_eq_false.1 hflight o ho
    cases o with
    | ack e p => trivial
    | reportBlocked e r => cases hno
    | reportReady e r => cases hno
  | confirm hconf => exact absurd rfl (hcall _)
  | reconnect hrec =>
    cases hc
    obtain ⟨-, rfl⟩ := markReconnected_eq_some.1 hrec
    refine offers_mono (fun o ho hpub => ⟨unblock o, List.mem_map_of_mem ho, ?_, ?_⟩) he
    · cases o <;> rfl
    · cases o with
      | ack e p => trivial
      | reportBlocked e r => exact hpub.elim
      | reportReady e r => exact hpub
  | settled hset =>
    cases hc
    obtain ⟨p, -, -, hs'⟩ := markInboundSettled_eq_some hset
    exact settled hs'
  | absent hset =>
    cases hc
    obtain ⟨p, -, -, hs'⟩ := markInboundSettled_eq_some hset
    exact settled hs'

/-- What is offered can be confirmed. -/
theorem Offers.confirms {eventId : String} (he : Offers s eventId) (hs : s.Coherent) : ∃ c, s.confirmOutbound eventId = some c := by
  obtain ⟨o, ho, rfl, hpub⟩ := he
  obtain ⟨-, hready⟩ := publishable_iff.1 hpub
  have hfind : s.outbox.find? (fun entry => entry.eventId = o.eventId) = some o := by
    rcases hf : s.outbox.find? (fun entry => entry.eventId = o.eventId) with _ | o'
    · exact absurd (List.find?_eq_none.1 hf o ho) (by simp)
    · have he' : o'.eventId = o.eventId := by simpa using List.find?_some hf
      exact hf.trans (congrArg some (hs.consistent.outbox_unique (List.mem_of_find?_eq_some hf) ho he'))
  unfold StateV1.confirmOutbound
  rw [hfind]
  exact ⟨_, if_neg fun hno => absurd (hready hno.1) hno.2⟩

end

/-! ### What a handler is made of -/

/-- A move that neither publishes nor confirms nor queues a PUBACK. -/
inductive Move (pki : Pki) (h : Host) : Host → Prop
  | set (f : SessionState → SessionState) (hf : (f h.driver.state).publish = h.driver.state.publish) : Move pki h (h.set f)
  | subscribe : Move pki h h.subscribes
  | unsubscribe (topic : String) :
      Move pki h (h.sent (.unsubscribe topic) fun m => { m with unsubscribing := m.unsubscribing ++ [topic] })
  | changed {call reply h'} (hg : h.Good pki) (hcall : ∀ event, call ≠ .confirmOutbound event) (hc : Changed pki h call reply h') :
      Move pki h h'

abbrev Moves (pki : Pki) : Host → Host → Prop := Relation.ReflTransGen (Move pki)

section

variable {pki : Pki} {wire : Wire} {ambient : Ambient} {h h₁ h' : Host} {event : MqttEvent} {call : Call} {reply : Reply}

theorem moves_set (h : Host) (f : SessionState → SessionState) (hf : (f h.driver.state).publish = h.driver.state.publish) :
    Moves pki h (h.set f) := .single (.set f hf)

theorem moves_unsubscribes (h : Host) (topic : String) : Moves pki h (h.unsubscribes topic) :=
  (Relation.ReflTransGen.single (.unsubscribe topic)).tail (.set _ rfl)

theorem moves_holds (h : Host) (delivery : CommandDelivery) (token : Option String) : Moves pki h (h.holds delivery token) :=
  (moves_unsubscribes _ _).tail (.set _ rfl)

theorem moves_observes (h : Host) (delivery : CommandDelivery) : Moves pki h (h.observes delivery) := by
  unfold Host.observes
  split_ifs
  · exact moves_set _ _ rfl
  · exact .refl

variable (pki) in
theorem Stops.moves (hs : Stops h h') : Moves pki h h' := by
  cases hs with
  | unsubscribe hcan => exact (moves_set _ _ rfl).trans (moves_unsubscribes _ _)
  | wait => exact moves_set _ _ rfl

variable (pki) in
theorem Listens.moves (hl : Listens ambient h h') : Moves pki h h' := by
  cases hl with
  | recovery hdriver hscope => exact moves_unsubscribes _ _
  | subscribe hdriver hshut hflight hopen => exact .single .subscribe
  | wait hdriver hno => exact .refl

variable (pki) in
theorem Confirms.moves {control : DriverControl} (hc : Confirms ambient h h' control) : Moves pki h h' := by
  cases hc with
  | exit hrec hsub hset => exact .refl
  | unsubscribe hrec hset hcan => exact (moves_set _ _ rfl).trans (moves_unsubscribes _ _)
  | ready hrec hno hcan => exact moves_set _ _ rfl
  | subscribe hrec hsub hshut hopen => exact .single .subscribe
  | idle hrec hno => exact .refl

variable (pki) in
theorem Completes.moves {control : DriverControl} (hc : Completes ambient h h' control) : Moves pki h h' := by
  cases hc with
  | exit hready hset => exact .refl
  | subscribe hno hflight hshut hopen => exact .single .subscribe
  | idle hno hclosed => exact .refl

theorem Marks.moves (hm : Marks pki ambient h h') (hg : h.Good pki) : Moves pki h h' := by
  cases hm with
  | unmarked hrec => exact .refl
  | marked hrec hask => exact .single (.changed hg (fun _ h => by cases h) (hg.ask hask))

theorem Absents.moves (ha : Absents pki ambient h h') (hg : h.Good pki) : Moves pki h h' := by
  cases ha with
  | absent hscope hobs hset hask => exact .single (.changed hg (fun _ h => by cases h) (hg.ask hask))
  | present hno => exact .refl

theorem Host.Good.observes (hg : h.Good pki) (delivery : CommandDelivery) : (h.observes delivery).Good pki :=
  hg.congr (observes_tree h delivery) (observes_agent h delivery)

/-- A delivery is put to the agent. -/
theorem moves_command (hg : h.Good pki) {delivery : CommandDelivery}
    (hask : ask pki ambient (commandCall wire ambient delivery) (h.observes delivery) = (.ok reply, h₁)) : Moves pki h h₁ :=
  (moves_observes h delivery).tail
    (.changed (hg.observes _) (commandCall_ne_confirm wire ambient delivery) ((hg.observes _).ask hask))

/-- A handler of any event but a PUBACK of the broker moves, and may queue a PUBACK at its end. -/
theorem Handled.moves {control : DriverControl} (hg : h.Good pki) (hh : Handled pki wire ambient h event h' control)
    (hevent : ∀ eventId, event ≠ .outboundAcknowledged eventId) :
    Moves pki h h' ∨ ((∃ delivery, event = .command delivery) ∨ h.driver.state.pendingCommandAck ≠ none) ∧
      ∃ h₁ delivery token, Moves pki h h₁ ∧ h' = h₁.acks delivery token := by
  cases hh with
  | connected hmark hlisten =>
    exact .inl (((moves_set _ _ rfl).trans (hmark.moves (hg.set _))).trans (hlisten.moves pki))
  | subscribed => exact .inl (moves_set _ _ rfl)
  | held hask hhold => exact .inl ((moves_command hg hask).trans (moves_holds _ _ _))
  | acked hask hreply hopen hshut => exact .inr ⟨.inl ⟨_, rfl⟩, _, _, _, moves_command hg hask, rfl⟩
  | confirmed hpending hask hnext => exact absurd rfl (hevent _)
  | released hheld => exact .inr ⟨.inr (by rw [hheld]; simp), _, _, _, moves_set _ _ rfl, rfl⟩
  | unsubscribed hheld habsent hnext =>
    exact .inl (((moves_set _ _ rfl).trans (habsent.moves (hg.set _))).trans (hnext.moves pki))
  | inboundOther => exact .inl .refl
  | inboundSettled hask hcontrol => exact .inl (.single (.changed hg (fun _ h => by cases h) (hg.ask hask)))
  | progress => exact .inl .refl

end

/-! ### What is on its way -/

/-- The events that are published and not confirmed. -/
def Host.transit (h : Host) : List String := h.driver.session.packetEvents.map Prod.snd ++ h.driver.session.awaitingPacketId

/-- What a session knows of its publications. -/
structure InTransit (h : Host) : Prop where
  ledger : (publications (lastSession h.deeds)).map OutboundFact.eventId = acknowledgements (lastSession h.deeds) ++ h.transit
  confirmed : confirmations (lastSession h.deeds) = acknowledgements (lastSession h.deeds)
  pending : h.transit.length = if h.driver.state.publish = .pending then 1 else 0
  offered : ∀ eventId ∈ h.transit, Offers h.agent.state eventId

/-- Nothing is published or confirmed. -/
structure Still (h h' : Host) : Prop where
  named : h'.driver.sessionIdentity = h.driver.sessionIdentity ∧ h'.driver.session.topics = h.driver.session.topics
  transit : h'.transit = h.transit
  publish : h'.driver.state.publish = h.driver.state.publish
  deeds : ∃ new, h'.deeds = h.deeds ++ new ∧ Unpublished new
  offers : ∀ eventId, Offers h.agent.state eventId → Offers h'.agent.state eventId

section

variable {pki : Pki} {wire : Wire} {ambient : Ambient} {h h₁ h' : Host} {event : MqttEvent} {call : Call} {reply : Reply}

theorem Still.refl (h : Host) : Still h h := ⟨⟨rfl, rfl⟩, rfl, rfl, ⟨[], by simp, unpublished_nil⟩, fun _ => id⟩

theorem Still.trans (hs : Still h h₁) (hs' : Still h₁ h') : Still h h' := by
  obtain ⟨new, hnew, hun⟩ := hs.deeds
  obtain ⟨new', hnew', hun'⟩ := hs'.deeds
  exact ⟨⟨hs'.named.1.trans hs.named.1, hs'.named.2.trans hs.named.2⟩, hs'.transit.trans hs.transit, hs'.publish.trans hs.publish,
    ⟨new ++ new', by rw [hnew', hnew, List.append_assoc], hun.append hun'⟩, fun e he => hs'.offers e (hs.offers e he)⟩

theorem InTransit.still (ht : InTransit h) (hs : Still h h') : InTransit h' := by
  obtain ⟨new, hnew, hun, hnone⟩ := hs.deeds
  refine ⟨?_, ?_, ?_, ?_⟩
  · rw [hnew, hun.lastSession, publications_append, acknowledgements_append, hun.publications, hun.acknowledgements,
      List.append_nil, List.append_nil, hs.transit]
    exact ht.ledger
  · rw [hnew, hun.lastSession, confirmations_append, acknowledgements_append, hnone, hun.acknowledgements, List.append_nil,
      List.append_nil]
    exact ht.confirmed
  · rw [hs.transit, hs.publish]
    exact ht.pending
  · intro eventId he
    rw [hs.transit] at he
    exact hs.offers _ (ht.offered _ he)

theorem still_set (h : Host) (f : SessionState → SessionState) (hf : (f h.driver.state).publish = h.driver.state.publish) :
    Still h (h.set f) := ⟨⟨rfl, rfl⟩, rfl, hf, ⟨[], by simp [Host.set], unpublished_nil⟩, fun _ => id⟩

theorem still_sent (h : Host) (r : Request) (note : MqttSession → MqttSession)
    (hr : ∀ topic fact payload, r ≠ .publish topic fact payload) (htopics : (note h.driver.session).topics = h.driver.session.topics)
    (hevents : (note h.driver.session).packetEvents = h.driver.session.packetEvents)
    (hawaiting : (note h.driver.session).awaitingPacketId = h.driver.session.awaitingPacketId) : Still h (h.sent r note) := by
  refine ⟨⟨rfl, htopics⟩, ?_, rfl, ⟨_, rfl, unpublished_queued hr⟩, fun _ => id⟩
  show List.map Prod.snd (note h.driver.session).packetEvents ++ (note h.driver.session).awaitingPacketId = _
  rw [hevents, hawaiting]
  rfl

theorem still_acks (h : Host) (delivery : CommandDelivery) (token : Option String) : Still h (h.acks delivery token) :=
  still_sent _ _ _ (fun _ _ _ h => by cases h) rfl rfl rfl

theorem Changed.still (hc : Changed pki h call reply h') (hg : h.Good pki) (hcall : ∀ event, call ≠ .confirmOutbound event) :
    Still h h' := by
  refine ⟨by rw [hc.driver]; exact ⟨rfl, rfl⟩, ?_, by rw [hc.driver], ⟨_, hc.deeds, ?_⟩, fun _ he =>
    hc.answers.offers hg.coherent hcall he⟩
  · unfold Host.transit
    rw [hc.driver]
  · refine ⟨Questions.unsent (.asked (.inr ⟨reply, _, rfl⟩)), ?_⟩
    cases call with
    | confirmOutbound eventId => exact absurd rfl (hcall _)
    | _ => rfl

theorem Moves.still (hm : Moves pki h h') : Still h h' := by
  induction hm with
  | refl => exact .refl _
  | tail _ hstep ih =>
    refine ih.trans ?_
    cases hstep with
    | set f hf => exact still_set _ f hf
    | subscribe => exact still_sent _ _ _ (fun _ _ _ h => by cases h) rfl rfl rfl
    | unsubscribe topic => exact still_sent _ _ _ (fun _ _ _ h => by cases h) rfl rfl rfl
    | changed hg hcall hc => exact hc.still hg hcall

/-- Only a PUBACK of the broker confirms. -/
theorem Handled.still {control : DriverControl} (hg : h.Good pki) (hh : Handled pki wire ambient h event h' control)
    (hevent : ∀ eventId, event ≠ .outboundAcknowledged eventId) : Still h h' := by
  rcases hh.moves hg hevent with hm | ⟨-, h₁, delivery, token, hm, rfl⟩
  · exact hm.still
  · exact hm.still.trans (still_acks _ _ _)

/-! ### One round -/

/-- The publications of a session are confirmed by the agent in their order, and all but the last one are. -/
def Ledger (deeds : List Deed) : Prop :=
  confirmations deeds <+: (publications deeds).map OutboundFact.eventId ∧
    (publications deeds).length ≤ (confirmations deeds).length + 1

theorem InTransit.length_le (ht : InTransit h) : h.transit.length ≤ 1 := by
  rw [ht.pending]
  split_ifs
  · exact le_rfl
  · exact Nat.zero_le _

theorem InTransit.packetEvents_le (ht : InTransit h) : h.driver.session.packetEvents.length ≤ 1 := by
  have hle := ht.length_le
  simp only [Host.transit, List.length_append, List.length_map] at hle
  omega

/-- What is on its way is what one packet identifier stands for. -/
theorem InTransit.removed (ht : InTransit h) {pkid : ℕ} {eventId : String} {rest : PacketMap String}
    (hremove : PacketMap.remove h.driver.session.packetEvents pkid = some (eventId, rest)) :
    h.transit = [eventId] ∧ rest = [] ∧ h.driver.session.awaitingPacketId = [] := by
  obtain ⟨hone, hrest⟩ := PacketMap.remove_one hremove ht.packetEvents_le
  have hle := ht.length_le
  simp only [Host.transit, hone, List.map_cons, List.map_nil, List.singleton_append, List.length_cons] at hle ⊢
  have hnone : h.driver.session.awaitingPacketId = [] := List.length_eq_zero_iff.1 (by omega)
  rw [hnone]
  exact ⟨rfl, hrest, rfl⟩

theorem InTransit.shows (ht : InTransit h) : Ledger (lastSession h.deeds) := by
  have hle := ht.length_le
  have hlen := congrArg List.length ht.ledger
  rw [List.length_map, List.length_append] at hlen
  unfold Ledger
  rw [ht.confirmed]
  exact ⟨ht.ledger ▸ List.prefix_append _ _, by omega⟩

theorem Ledger.append {deeds new : List Deed} (hl : Ledger (lastSession deeds)) (hun : Unpublished new) :
    Ledger (lastSession (deeds ++ new)) := by
  obtain ⟨hun, hnone⟩ := hun
  unfold Ledger
  rw [hun.lastSession, publications_append, confirmations_append, hun.publications, hnone, List.append_nil, List.append_nil]
  exact hl

theorem MqttSession.Polls.topics {m m' : MqttSession} {p : Packet} (hp : MqttSession.Polls wire m p event m') :
    m'.topics = m.topics := by cases hp <;> rfl

/-- A packet that is no PUBACK of the broker moves at most one event, to its packet identifier. -/
theorem InTransit.polled {p : Packet} {session : MqttSession} (ht : InTransit h)
    (hp : MqttSession.Polls wire h.driver.session p event session)
    (hevent : ∀ eventId, event ≠ .outboundAcknowledged eventId) : Still h (h.polled p event session) := by
  have hdeeds : ∃ new, (h.polled p event session).deeds = h.deeds ++ new ∧ Unpublished new := by
    refine ⟨[.polled p event], rfl, fun deed hmem => ?_, rfl⟩
    obtain rfl := List.mem_singleton.1 hmem
    cases event with
    | outboundAcknowledged eventId => exact absurd rfl (hevent _)
    | _ => exact ⟨rfl, rfl, rfl⟩
  refine ⟨⟨rfl, hp.topics⟩, ?_, rfl, hdeeds, fun _ => id⟩
  cases hp with
  | published hawaiting =>
    rename_i pkid eventId awaiting
    have hle := ht.length_le
    simp only [Host.transit, hawaiting, List.length_append, List.length_map, List.length_cons] at hle
    have hevents : h.driver.session.packetEvents = [] := List.length_eq_zero_iff.1 (by omega)
    have hrest : awaiting = [] := List.length_eq_zero_iff.1 (by omega)
    simp [Host.transit, Host.polled, PacketMap.insert, hevents, hawaiting, hrest]
  | outbound hremove => exact absurd rfl (hevent _)
  | _ => rfl

/-- After its PUBACK nothing is on its way, and the agent has it to confirm. -/
theorem InTransit.acknowledged {p : Packet} {eventId : String} {session : MqttSession} (ht : InTransit h)
    (hp : MqttSession.Polls wire h.driver.session p (.outboundAcknowledged eventId) session) :
    h.transit = [eventId] ∧ (h.polled p (.outboundAcknowledged eventId) session).transit = [] ∧
    (publications (lastSession (h.polled p (.outboundAcknowledged eventId) session).deeds)).map OutboundFact.eventId =
      acknowledgements (lastSession (h.polled p (.outboundAcknowledged eventId) session).deeds) ∧
    acknowledgements (lastSession (h.polled p (.outboundAcknowledged eventId) session).deeds) =
      confirmations (lastSession (h.polled p (.outboundAcknowledged eventId) session).deeds) ++ [eventId] := by
  cases hp with | outbound hremove =>
  rename_i pkid rest
  obtain ⟨htransit, hrest, hawaiting⟩ := ht.removed hremove
  have hdeeds : (h.polled (.pubAck pkid) (.outboundAcknowledged eventId) { h.driver.session with packetEvents := rest }).deeds =
      h.deeds ++ [.polled (.pubAck pkid) (.outboundAcknowledged eventId)] := rfl
  refine ⟨htransit, ?_, ?_, ?_⟩
  · simp [Host.transit, Host.polled, hrest, hawaiting]
  · rw [hdeeds, lastSession_append (by simp [Deed.isOpened]), publications_append, acknowledgements_append, List.map_append,
      ht.ledger, htransit]
    simp [publications, acknowledgements, Deed.publication, Deed.acknowledgement]
  · rw [hdeeds, lastSession_append (by simp [Deed.isOpened]), acknowledgements_append, confirmations_append, ht.confirmed]
    simp [confirmations, acknowledgements, Deed.confirmation, Deed.acknowledgement]

/-- Whatever the head of the loop does, at most one publication is on its way. -/
theorem Heads.inTransit {o : Outcome SessionError (Option SessionCompletion)} (hh : Heads wire h o h') (ht : InTransit h) :
    InTransit h' := by
  cases hh with
  | published hcan hnext hencode =>
    rename_i fact payload
    have hidle : h.driver.state.publish = .idle := by
      simp only [SessionState.canPublish, Bool.and_eq_true, decide_eq_true_eq] at hcan
      exact hcan.1.1.2
    have hnone : h.transit = [] := by
      have hlen := ht.pending
      rw [hidle, if_neg (by decide)] at hlen
      exact List.length_eq_zero_iff.1 hlen
    have htransit : (h.publishes fact payload).transit = [fact.eventId] := by
      have hboth := List.append_eq_nil_iff.1 hnone
      simp only [List.map_eq_nil_iff] at hboth
      show List.map Prod.snd h.driver.session.packetEvents ++ (h.driver.session.awaitingPacketId ++ [fact.eventId]) = _
      rw [hboth.1, hboth.2]
      rfl
    have hdeeds : (h.publishes fact payload).deeds = h.deeds ++ [.queued (.publish (h.factTopic fact) fact payload)] := rfl
    refine ⟨?_, ?_, ?_, ?_⟩
    · have hledger := ht.ledger
      rw [hnone, List.append_nil] at hledger
      rw [hdeeds, lastSession_append (by simp [Deed.isOpened]), publications_append, acknowledgements_append, List.map_append,
        hledger, htransit]
      simp [publications, acknowledgements, Deed.publication, Deed.acknowledgement]
    · rw [hdeeds, lastSession_append (by simp [Deed.isOpened]), confirmations_append, acknowledgements_append, ht.confirmed]
      rfl
    · rw [htransit]
      rfl
    · intro eventId he
      rw [htransit, List.mem_singleton] at he
      obtain ⟨e, ho, hid, hpub⟩ := nextOutbound_publishable hnext
      exact ⟨e, ho, hid.trans he.symm, hpub⟩
  | quiet => exact ht
  | disconnected => exact ht.still (still_sent _ _ _ (fun _ _ _ h => by cases h) rfl rfl rfl)
  | failed he => exact ht

theorem Handled.inTransit {p : Packet} {session : MqttSession} {control : DriverControl} (hg : h.Good pki) (ht : InTransit h)
    (hp : MqttSession.Polls wire h.driver.session p event session)
    (hh : Handled pki wire ambient (h.polled p event session) event h' control) : InTransit h' := by
  by_cases hevent : ∀ eventId, event ≠ .outboundAcknowledged eventId
  · exact ht.still ((ht.polled hp hevent).trans (hh.still (hg.polled _ _ _) hevent))
  · simp only [not_forall, not_not] at hevent
    obtain ⟨eventId, rfl⟩ := hevent
    obtain ⟨-, hnone, hledger, hconfirmed⟩ := ht.acknowledged hp
    cases hh with
    | confirmed hpending hask hnext =>
      rename_i reply h₁
      have hc := ((hg.polled p (.outboundAcknowledged eventId) session).set _).ask hask
      have htransit : h₁.transit = [] := by
        unfold Host.transit
        rw [hc.driver]
        exact hnone
      have hun : Unsent [.asked (.confirmOutbound eventId) h.agent.state,
          .answered (.confirmOutbound eventId) reply h₁.agent.state] :=
        Questions.unsent (.asked (.inr ⟨reply, h₁.agent.state, rfl⟩))
      have hdeeds : h₁.deeds = (h.polled p (.outboundAcknowledged eventId) session).deeds ++
          [.asked (.confirmOutbound eventId) h.agent.state, .answered (.confirmOutbound eventId) reply h₁.agent.state] := hc.deeds
      refine InTransit.still ⟨?_, ?_, ?_, ?_⟩ (hnext.moves pki).still
      · rw [hdeeds, htransit, List.append_nil, hun.lastSession, publications_append, acknowledgements_append, hun.publications,
          hun.acknowledgements, List.append_nil, List.append_nil]
        exact hledger
      · -- the PUBACK has come, and the agent has confirmed it
        rw [hdeeds, hun.lastSession, confirmations_append, acknowledgements_append, hun.acknowledgements, List.append_nil]
        exact hconfirmed.symm
      · rw [htransit, hc.driver]
        rfl
      · intro e he
        rw [htransit] at he
        cases he

/-- A handler that does not come to its end: what its PUBACK is for may have been confirmed or not. -/
theorem InTransit.inquires {p : Packet} {session : MqttSession} {new : List Deed} (ht : InTransit h)
    (hp : MqttSession.Polls wire h.driver.session p event session) (hi : Inquires event new) :
    Ledger (lastSession ((h.polled p event session).deeds ++ new)) := by
  by_cases hevent : ∀ eventId, event ≠ .outboundAcknowledged eventId
  · exact (ht.still (ht.polled hp hevent)).shows.append (hi.unpublished hevent)
  · simp only [not_forall, not_not] at hevent
    obtain ⟨eventId, rfl⟩ := hevent
    obtain ⟨-, -, hledger, hconfirmed⟩ := ht.acknowledged hp
    have hlen := congrArg List.length hledger
    rw [List.length_map, hconfirmed, List.length_append, List.length_singleton] at hlen
    unfold Ledger
    rw [hi.unsent.lastSession, publications_append, confirmations_append, hi.unsent.publications, List.append_nil, hledger,
      hconfirmed]
    rcases hi.confirms with hnone | ⟨e, heq, hone⟩
    · rw [hnone, List.append_nil]
      exact ⟨List.prefix_append _ _, by omega⟩
    · cases heq
      rw [hone]
      exact ⟨List.prefix_rfl, by rw [List.length_append]; omega⟩

theorem Rounds.inTransit {poll : Poll} {o : Outcome SessionError (Option SessionCompletion)} (hg : h.Good pki)
    (ht : InTransit h) (hr : Rounds pki wire ambient h poll o h') :
    Ledger (lastSession h'.deeds) ∧ (o = .ok none → InTransit h') := by
  have going : ∀ {h' : Host}, InTransit h' → Ledger (lastSession h'.deeds) ∧ (o = .ok none → InTransit h') :=
    fun ht' => ⟨ht'.shows, fun _ => ht'⟩
  cases hr with
  | lost e => exact going ht
  | refused hpoll => exact going ht
  | broken hpoll hbroken =>
    obtain ⟨new, hnew, hi⟩ := hbroken.inquires (hg.polled _ _ _)
    rw [hnew]
    exact ⟨ht.inquires (MqttSession.poll_cases hpoll) hi, fun h => by cases h⟩
  | crashed hpoll hcrash =>
    obtain ⟨new, hnew, hi⟩ := hcrash.inquires (hg.polled _ _ _)
    rw [hnew]
    exact ⟨ht.inquires (MqttSession.poll_cases hpoll) hi, fun h => by cases h⟩
  | switched hpoll hhandled => exact going (hhandled.inTransit hg ht (MqttSession.poll_cases hpoll))
  | handled hpoll hhandled hhead => exact going (hhead.inTransit (hhandled.inTransit hg ht (MqttSession.poll_cases hpoll)))
  | stopping hstop hhead => exact going (hhead.inTransit (ht.still (hstop.moves pki).still))
  | unstopped => exact going (ht.still (still_set _ _ rfl))
  | expired hshut => exact going ht
  | nothing hpoll => exact going ht

/-! ### Publications are of what is on disk -/

/-- The facts that a round publishes: one at most, at its end, and the agent's document has it next. -/
inductive Publishes (wire : Wire) (h h' : Host) : Prop
  | none (new : List Deed) (hdeeds : h'.deeds = h.deeds ++ new) (hnew : publications new = [])
  | last (new : List Deed) (fact : OutboundFact) (payload : Bytes)
      (hdeeds : h'.deeds = h.deeds ++ (new ++ [.queued (.publish (h.factTopic fact) fact payload)]))
      (hnew : publications new = []) (hdisk : manifest h'.tree = some h'.agent.state)
      (hnext : h'.agent.state.nextOutbound = some fact)
      (hencode : wire.encodeOutbound h.driver.sessionIdentity fact = some payload)

theorem factTopic_congr {h₁ : Host} (htopics : h₁.driver.session.topics = h.driver.session.topics) (fact : OutboundFact) :
    h₁.factTopic fact = h.factTopic fact := by
  unfold Host.factTopic
  rw [htopics]

/-- Until the head of the loop nothing is published, and the session keeps its names. -/
structure Quiet (h h₁ : Host) : Prop where
  named : h₁.driver.sessionIdentity = h.driver.sessionIdentity ∧ h₁.driver.session.topics = h.driver.session.topics
  deeds : ∃ new, h₁.deeds = h.deeds ++ new ∧ publications new = []

theorem Still.quiet (hs : Still h h₁) : Quiet h h₁ := by
  obtain ⟨new, hnew, hun⟩ := hs.deeds
  exact ⟨hs.named, new, hnew, hun.1.publications⟩

theorem Quiet.trans (hq : Quiet h h₁) (hq' : Quiet h₁ h') : Quiet h h' := by
  obtain ⟨new, hnew, hnone⟩ := hq.deeds
  obtain ⟨new', hnew', hnone'⟩ := hq'.deeds
  exact ⟨⟨hq'.named.1.trans hq.named.1, hq'.named.2.trans hq.named.2⟩, new ++ new', by rw [hnew', hnew, List.append_assoc],
    by rw [publications_append, hnone, hnone']; rfl⟩

theorem quiet_polled {p : Packet} {session : MqttSession} (hp : MqttSession.Polls wire h.driver.session p event session) :
    Quiet h (h.polled p event session) := ⟨⟨rfl, hp.topics⟩, _, rfl, rfl⟩

theorem Handled.quietly {control : DriverControl} (hg : h.Good pki) (hh : Handled pki wire ambient h event h' control) :
    Quiet h h' := by
  by_cases hevent : ∀ eventId, event ≠ .outboundAcknowledged eventId
  · exact (hh.still hg hevent).quiet
  · simp only [not_forall, not_not] at hevent
    obtain ⟨eventId, rfl⟩ := hevent
    cases hh with
    | confirmed hpending hask hnext =>
      rename_i reply h₁
      have hc := (hg.set _).ask hask
      have hasked : Quiet h h₁ := ⟨by rw [hc.driver]; exact ⟨rfl, rfl⟩, _, hc.deeds, rfl⟩
      exact hasked.trans (hnext.moves pki).still.quiet

theorem Heads.publishes {h₁ : Host} {o : Outcome SessionError (Option SessionCompletion)} (hq : Quiet h h₁)
    (hg : h₁.Good pki) (hh : Heads wire h₁ o h') : Publishes wire h h' := by
  obtain ⟨new, hnew, hnone⟩ := hq.deeds
  cases hh with
  | published hcan hnext hencode =>
    rename_i fact payload
    refine .last new fact payload ?_ hnone hg.agrees hnext (hq.named.1 ▸ hencode)
    show h₁.deeds ++ [.queued (.publish (h₁.factTopic fact) fact payload)] = _
    rw [hnew, factTopic_congr hq.named.2, List.append_assoc]
  | quiet => exact .none new hnew hnone
  | disconnected =>
    refine .none (new ++ [.queued .disconnect]) ?_ ?_
    · show h₁.deeds ++ [.queued .disconnect] = _
      rw [hnew, List.append_assoc]
    · rw [publications_append, hnone]
      rfl
  | failed he => exact .none new hnew hnone

theorem Quiet.publishes (hq : Quiet h h') : Publishes wire h h' := by
  obtain ⟨new, hnew, hnone⟩ := hq.deeds
  exact .none new hnew hnone

theorem Rounds.publishes {poll : Poll} {o : Outcome SessionError (Option SessionCompletion)} (hg : h.Good pki)
    (hr : Rounds pki wire ambient h poll o h') : Publishes wire h h' := by
  have failing : ∀ {p : Packet} {event : MqttEvent} {session : MqttSession} {new : List Deed},
      h'.deeds = (h.polled p event session).deeds ++ new → Questions new → Publishes wire h h' := by
    intro p event session new hnew hquestions
    refine .none ([.polled p event] ++ new) ?_ ?_
    · rw [hnew, ← List.append_assoc]
      rfl
    · rw [publications_append, hquestions.unsent.publications]
      rfl
  cases hr with
  | lost e => exact (Still.refl h).quiet.publishes
  | refused hpoll => exact (Still.refl h).quiet.publishes
  | broken hpoll hbroken =>
    obtain ⟨new, hnew, hquestions⟩ := hbroken.questions (hg.polled _ _ _)
    exact failing hnew hquestions
  | crashed hpoll hcrash =>
    obtain ⟨new, hnew, hquestions⟩ := hcrash.questions (hg.polled _ _ _)
    exact failing hnew hquestions
  | switched hpoll hhandled =>
    exact ((quiet_polled (MqttSession.poll_cases hpoll)).trans (hhandled.quietly (hg.polled _ _ _))).publishes
  | handled hpoll hhandled hhead =>
    obtain ⟨h₁, hbefore, hsends⟩ := hhandled.before
    exact hhead.publishes ((quiet_polled (MqttSession.poll_cases hpoll)).trans (hhandled.quietly (hg.polled _ _ _)))
      (hsends.good (hbefore.good (hg.polled _ _ _)))
  | stopping hstop hhead => exact hhead.publishes (hstop.moves pki).still.quiet (hstop.sends.good hg)
  | unstopped => exact (still_set h _ rfl).quiet.publishes
  | expired hshut => exact (Still.refl h).quiet.publishes
  | nothing hpoll => exact (Still.refl h).quiet.publishes

end

/-! ### Every run -/

section

variable {pki : Pki} {wire : Wire}

theorem inTransit_inductive : Inductive pki wire (fun _ _ _ => True) (fun _ deeds => Ledger (lastSession deeds)) InTransit where
  fresh := ⟨List.prefix_rfl, Nat.zero_le _⟩
  first _ h := h
  ended result h := h.append ⟨fun deed hmem => by
    obtain rfl := List.mem_singleton.1 hmem
    exact ⟨rfl, rfl, rfl⟩, rfl⟩
  opened _ hcreate _ := by
    obtain ⟨identity, recoveryCommand, -, -, hdriver⟩ := create_cases hcreate
    rw [lastSession_opened]
    refine ⟨⟨List.prefix_rfl, Nat.zero_le _⟩, ?_⟩
    rw [hdriver]
    refine ⟨?_, ?_, rfl, fun _ h => (by cases h)⟩
    · show (publications (lastSession (_ ++ _))).map _ = acknowledgements (lastSession (_ ++ _)) ++ _
      rw [lastSession_opened]
      rfl
    · show confirmations (lastSession (_ ++ _)) = acknowledgements (lastSession (_ ++ _))
      rw [lastSession_opened]
      rfl
  round hg _ ht _ hr := hr.inTransit hg ht

theorem inTransit_run (pki : Pki) (wire : Wire) (inputs : List Input) :
    (Process.fresh.run pki wire inputs).Holds pki (fun _ deeds => Ledger (lastSession deeds)) InTransit :=
  inTransit_inductive.run fun _ _ _ _ _ _ _ _ _ _ => trivial

/-- **The agent confirms the publications of a session in their order**, one each, in every run, whatever the broker does: at
most the last one is not confirmed; while the session goes on it is on its way, and its event is one that the agent will
confirm. -/
theorem publications_confirmed (pki : Pki) (wire : Wire) (inputs : List Input) :
    let p := Process.fresh.run pki wire inputs
    Ledger (lastSession p.deeds) ∧
    ∀ a driver, p.device.agent = some a → p.stage = .session driver →
      (publications (lastSession p.deeds)).map OutboundFact.eventId =
        confirmations (lastSession p.deeds) ++ (p.host a driver).transit ∧
      (p.host a driver).transit.length = (if driver.state.publish = .pending then 1 else 0) ∧
      ∀ eventId ∈ (p.host a driver).transit, ∃ s, a.state.confirmOutbound eventId = some s := by
  have hp := inTransit_run pki wire inputs
  dsimp only
  generalize Process.fresh.run pki wire inputs = p at hp ⊢
  refine ⟨hp.deeds, fun a driver ha hstage => ?_⟩
  have ht := hp.session a driver ha hstage
  have hg : (p.host a driver).Good pki := hp.good ha
  refine ⟨?_, ht.pending, fun eventId he => (ht.offered eventId he).confirms hg.coherent⟩
  have hconfirmed : confirmations (lastSession p.deeds) = acknowledgements (lastSession p.deeds) := ht.confirmed
  rw [hconfirmed]
  exact ht.ledger

/-- **Durable before publish**: what is published is what the document on disk has to be published next, under the name
of the session it is published in. -/
theorem durable_before_publish {inputs : List Input} {input : Input} {pre post : List Deed} {topic : String}
    {fact : OutboundFact} {payload : Bytes} (hpublish : (Process.fresh.run pki wire (inputs ++ [input])).deeds =
      (Process.fresh.run pki wire inputs).deeds ++ (pre ++ .queued (.publish topic fact payload) :: post)) :
    let p := Process.fresh.run pki wire inputs
    let q := Process.fresh.run pki wire (inputs ++ [input])
    ∃ a driver s, p.device.agent = some a ∧ p.stage = .session driver ∧ manifest q.device.tree = some s ∧
      s.nextOutbound = some fact ∧ wire.encodeOutbound driver.sessionIdentity fact = some payload ∧
      topic = (p.host a driver).factTopic fact := by
  have hp := inTransit_run pki wire inputs
  have hq := inTransit_run pki wire (inputs ++ [input])
  rw [Process.run_concat] at hq hpublish
  rw [Process.run_concat]
  dsimp only
  generalize Process.fresh.run pki wire inputs = p at hp hq hpublish ⊢
  have hstepped : Stepped pki wire p input (p.step pki wire input) := p.step_cases input
  generalize p.step pki wire input = q at hq hpublish hstepped ⊢
  have hnone : ∀ new, q.deeds = p.deeds ++ new → publications new ≠ [] := by
    intro new hnew hnil
    rw [hnew, List.append_cancel_left_eq] at hpublish
    rw [hpublish] at hnil
    simp [publications, Deed.publication] at hnil
  cases hstepped with
  | still hdeeds hsession => exact absurd rfl (hnone [] (by rw [hdeeds, List.append_nil]))
  | failed => exact absurd rfl (hnone _ (p.conclude_deeds _).1)
  | opened ha hcreate hstage => exact absurd rfl (hnone _ rfl)
  | round ha hstage hinput hr =>
    rename_i a driver poll ambient o h'
    have hg : (p.host a driver).Good pki := hp.good ha
    obtain ⟨htree, hdeeds, -⟩ := (p.after_cases o h').deeds
    cases hr.publishes hg with
    | none new hnew hnil =>
      -- a session that has ended has not published by that
      have hnew' : h'.deeds = p.deeds ++ new := hnew
      rcases hdeeds with hdeeds | ⟨result, hdeeds⟩
      · exact absurd hnil (hnone new (hdeeds.trans hnew'))
      · refine absurd ?_ (hnone (new ++ [.ended result]) (by rw [hdeeds, hnew', List.append_assoc]))
        rw [publications_append, hnil]
        rfl
    | last new fact' payload' hnew hnil hdisk hnext hencode =>
      have hnew' : h'.deeds = p.deeds ++ (new ++ [.queued (.publish ((p.host a driver).factTopic fact') fact' payload')]) := hnew
      have hsilent : ∀ deed ∈ new, ¬ deed.publication ≠ none := fun deed hmem hne =>
        hne (List.filterMap_eq_nil_iff.1 hnil deed hmem)
      have hlast : ∀ tail : List Deed, (∀ deed ∈ tail, ¬ deed.publication ≠ none) →
          new ++ .queued (.publish ((p.host a driver).factTopic fact') fact' payload') :: tail =
            pre ++ .queued (.publish topic fact payload) :: post →
          topic = (p.host a driver).factTopic fact' ∧ fact = fact' ∧ payload = payload' := by
        intro tail htail heq
        obtain ⟨-, hone⟩ := split_unique (P := fun deed => Deed.publication deed ≠ none) hsilent htail (by simp [Deed.publication]) heq
        cases hone
        exact ⟨rfl, rfl, rfl⟩
      have hall : topic = (p.host a driver).factTopic fact' ∧ fact = fact' ∧ payload = payload' := by
        rcases hdeeds with hdeeds | ⟨result, hdeeds⟩
        · refine hlast [] (fun _ h => by cases h) ?_
          rw [hdeeds, hnew', List.append_cancel_left_eq] at hpublish
          exact hpublish
        · refine hlast [.ended result] (by simp [Deed.publication]) ?_
          rw [hdeeds, hnew', List.append_assoc, List.append_cancel_left_eq, List.append_assoc] at hpublish
          exact hpublish
      obtain ⟨rfl, rfl, rfl⟩ := hall
      exact ⟨a, driver, h'.agent.state, ha, hstage, htree ▸ hdisk, hnext, hencode, rfl⟩

open Fixture in
/-- The rejection of a delivery that does not decode is published when it is on disk. -/
theorem durable_before_publish_rejection : ∃ pre post a driver s,
    (run (Fixture.listen ++ [packet (.publish (badDelivery 0).publish)])).deeds = (run Fixture.listen).deeds ++
      (pre ++ .queued (.publish (commandAcknowledgedTopic opened.sessionIdentity) (badFact 0)
        (factPayload opened.sessionIdentity (badFact 0))) :: post) ∧
    (run Fixture.listen).device.agent = some a ∧ (run Fixture.listen).stage = .session driver ∧
    manifest (run (Fixture.listen ++ [packet (.publish (badDelivery 0).publish)])).device.tree = some s ∧
    s.nextOutbound = some (badFact 0) := by
  have hlistening : At ReceiveMaximum Fixture.listen (resting 0 []) listening _ :=
    at_listening fun _ _ _ hallowed _ => hallowed.receiveMaximum
  have hanswered := hlistening.answers (by decide) fun _ _ _ => rfl
  obtain ⟨tree, hstands⟩ := hlistening
  obtain ⟨tree', hstands'⟩ := hanswered
  have hdeeds : (run (Fixture.listen ++ [packet (.publish (badDelivery 0).publish)])).deeds = (run Fixture.listen).deeds ++
      ([.polled (.publish (badDelivery 0).publish) (.command (badDelivery 0)), .asked (badCall 0) (resting 0 []),
        .answered (badCall 0) (.outcome (.rejected .malformedCommand)) (resting 1 [rejectionEntry 0]),
        .queued (.ack (badDelivery 0))] ++ .queued (.publish (commandAcknowledgedTopic opened.sessionIdentity) (badFact 0)
          (factPayload opened.sessionIdentity (badFact 0))) :: []) := by
    rw [run, run, hstands.run, hstands'.run]
    rfl
  unfold run at hdeeds ⊢
  obtain ⟨a, driver, s, ha, hstage, hs, hnext, -, -⟩ := durable_before_publish hdeeds
  exact ⟨_, _, a, driver, s, hdeeds, ha, hstage, hs, hnext⟩

end

end RssIncubator.Driver
