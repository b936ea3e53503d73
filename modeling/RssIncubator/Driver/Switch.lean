import RssIncubator.Agent.Redelivery
import RssIncubator.Driver.Attentive
import RssIncubator.Driver.Rotation
import RssIncubator.Driver.Tokens

/-!
# A switch that is due

Once the acknowledgement of an accepted command is confirmed the session is to give way to the next one, when its
subscription has ended and the delivery is settled.  The last of these facts may come to any of three handlers.
`Watched` says that one of them is still to come as long as the switch is due.  The handler of an UNSUBACK that releases
a delivery does not look at it: `Catches` is when that does no harm.
-/

namespace RssIncubator.Driver

open Agent Lib StateV1 StoredOutbound

/-! ### What is still to come -/

/-- The pending delivery is not settled, or an UNSUBACK is to come, or a PUBACK with a settlement token is to leave. -/
def Awaits (h : Host) : Prop :=
  h.agent.pendingInboundSettled = false ∨ h.driver.session.unsubscribing ≠ [] ∨
    ∃ entry ∈ h.driver.session.inboundAcknowledgements, entry.2 ≠ none

/-- The session knows when the switch is due, and then awaits something that makes it. -/
structure Watched (h : Host) : Prop where
  ending : h.driver.state.subscription = .unsubscribing → h.driver.session.unsubscribing ≠ []
  opening : h.driver.state.connection = .connecting → h.driver.state.reconnect = .dormant
  marked : h.driver.state.connection = .connected → h.agent.state.reconnectRevision ≠ none →
    h.driver.state.reconnect = .ready
  unpublished : h.driver.state.reconnect = .ready → h.driver.state.publish = .idle
  awaited : h.driver.state.reconnect = .ready → h.driver.state.shutdownDeadline = false → Awaits h

/-- An UNSUBACK that releases a delivery without a settlement token, with nothing else to await, does not find the switch
due. -/
def Catches (h : Host) (poll : Poll) (_ : Ambient) : Prop := ∀ topic reasons delivery,
  poll = .packet (.unsubAck topic reasons) → h.driver.state.pendingCommandAck = some (delivery, none) →
  h.driver.state.shutdownDeadline = false → h.driver.session.unsubscribing.erase topic = [] →
  h.agent.pendingInboundSettled = true → h.driver.state.reconnect = .dormant

section Rounds

variable {pki : Pki} {wire : Wire} {ambient : Ambient} {h h₁ h' : Host} {poll : Poll} {event : MqttEvent}

theorem reconnect_dormant (hno : h.driver.state.reconnect ≠ .ready) : h.driver.state.reconnect = .dormant := by
  cases hrec : h.driver.state.reconnect with
  | dormant => rfl
  | ready => exact absurd hrec hno

theorem catches_other (hno : ∀ topic reasons, poll ≠ .packet (.unsubAck topic reasons)) : Catches h poll ambient :=
  fun _ _ _ hpoll => absurd hpoll (hno _ _)

theorem catches_unheld (hheld : h.driver.state.pendingCommandAck = none) : Catches h poll ambient := by
  intro _ _ _ _ hsome
  rw [hheld] at hsome
  cases hsome

/-- The connection, the publication on its way, the switch and the shutdown are as they were. -/
structure Steady (s s' : SessionState) : Prop where
  connection : s'.connection = s.connection
  publish : s'.publish = s.publish
  reconnect : s'.reconnect = s.reconnect
  shutdownDeadline : s'.shutdownDeadline = s.shutdownDeadline

theorem Steady.of_eq {s s' : SessionState} (h : s' = s) : Steady s s' := by
  subst h
  exact ⟨rfl, rfl, rfl, rfl⟩

/-- A step that leaves these and the marker alone keeps the switch in sight if it awaits something still. -/
theorem Watched.keep (hk : Watched h) (hsteady : Steady h.driver.state h'.driver.state)
    (hmarker : h'.agent.state.reconnectRevision = h.agent.state.reconnectRevision)
    (hending : h'.driver.state.subscription = .unsubscribing → h'.driver.session.unsubscribing ≠ [])
    (hawaits : h.driver.state.reconnect = .ready → h.driver.state.shutdownDeadline = false → Awaits h → Awaits h') :
    Watched h' := by
  refine ⟨hending, ?_, ?_, ?_, ?_⟩
  · rw [hsteady.connection, hsteady.reconnect]
    exact hk.opening
  · rw [hsteady.connection, hmarker, hsteady.reconnect]
    exact hk.marked
  · rw [hsteady.reconnect, hsteady.publish]
    exact hk.unpublished
  · rw [hsteady.reconnect, hsteady.shutdownDeadline]
    exact fun hready hrun => hawaits hready hrun (hk.awaited hready hrun)

/-- One that touches neither the requests nor the agent. -/
theorem Watched.idle (hk : Watched h) (hsteady : Steady h.driver.state h'.driver.state) (hagent : h'.agent = h.agent)
    (hsub : h'.driver.state.subscription = h.driver.state.subscription ∨ h'.driver.state.subscription ≠ .unsubscribing)
    (hunsub : h'.driver.session.unsubscribing = h.driver.session.unsubscribing)
    (hacks : h'.driver.session.inboundAcknowledgements = h.driver.session.inboundAcknowledgements) : Watched h' := by
  refine hk.keep hsteady (by rw [hagent]) ?_ ?_
  · intro hending
    rw [hunsub]
    rcases hsub with hsub | hsub
    · exact hk.ending (hsub ▸ hending)
    · exact absurd hending hsub
  · intro _ _ ha
    unfold Awaits
    rw [hagent, hunsub, hacks]
    exact ha

/-- The head of the loop publishes only while the switch is not due. -/
theorem Heads.watched_iff {o : Outcome SessionError (Option SessionCompletion)} (hh : Heads wire h o h') :
    Watched h' ↔ Watched h := by
  cases hh with
  | published hcan hnext hencode =>
    have hno : h.driver.state.reconnect ≠ .ready := by
      intro hready
      simp [SessionState.canPublish, hready] at hcan
    constructor
    · intro hk
      exact ⟨hk.ending, hk.opening, hk.marked, fun hready => absurd hready hno, fun hready => absurd hready hno⟩
    · intro hk
      exact ⟨hk.ending, hk.opening, hk.marked, fun hready => absurd hready hno, fun hready => absurd hready hno⟩
  | quiet => exact Iff.rfl
  | disconnected =>
    constructor
    · exact fun hk => hk.idle ⟨rfl, rfl, rfl, rfl⟩ rfl (.inl rfl) rfl rfl
    · exact fun hk => hk.idle ⟨rfl, rfl, rfl, rfl⟩ rfl (.inl rfl) rfl rfl
  | failed he => exact Iff.rfl

theorem unsubscribes_awaited (h : Host) (topic : String) : (h.unsubscribes topic).driver.session.unsubscribing ≠ [] :=
  (attentive_unsubscribes h topic).ending rfl

theorem Stops.watched (hk : Watched h) (hs : Stops h h') : Watched h' := by
  cases hs with
  | unsubscribe hcan =>
    exact ⟨fun _ => unsubscribes_awaited _ _, hk.opening, hk.marked, hk.unpublished, fun _ hrun => by cases hrun⟩
  | wait => exact ⟨hk.ending, hk.opening, hk.marked, hk.unpublished, fun _ hrun => by cases hrun⟩

/-! ### One round -/

/-- After CONNACK the marker of an earlier session is gone. -/
theorem Marks.marker_none (hg : h.Good pki) (hm : Marks pki ambient h h₁) : h₁.agent.state.reconnectRevision = none := by
  cases hm with
  | unmarked hrec => exact reconnectRevision_eq_none.1 hrec
  | marked hrec hask =>
    obtain ⟨-, hs'⟩ := (hg.ask hask).answers.mark
    rw [hs']

theorem Listens.watched (hmarker : h.agent.state.reconnectRevision = none) (hconn : h.driver.state.connection = .connected)
    (hsub : h.driver.state.subscription = .inactive) (hdormant : h.driver.state.reconnect = .dormant)
    (hl : Listens ambient h h') : Watched h' := by
  have hstate : h'.driver.state.connection = .connected ∧ h'.driver.state.reconnect = .dormant ∧
      h'.agent.state.reconnectRevision = none := by
    cases hl <;> exact ⟨hconn, hdormant, hmarker⟩
  obtain ⟨hconn', hdormant', hmarker'⟩ := hstate
  have hnot : h'.driver.state.reconnect ≠ .ready := by simp [hdormant']
  refine ⟨?_, fun _ => hdormant', fun _ h => absurd hmarker' h, fun h => absurd h hnot, fun h => absurd h hnot⟩
  cases hl with
  | recovery hdriver hscope => exact fun _ => unsubscribes_awaited _ _
  | subscribe hdriver hshut hflight hopen =>
    intro hending
    cases hsub.symm.trans hending
  | wait hdriver hno =>
    intro hending
    cases hsub.symm.trans hending

theorem Confirms.watched (hending : h.driver.state.subscription = .unsubscribing → h.driver.session.unsubscribing ≠ [])
    (hconn : h.driver.state.connection = .connected) (hdormant : h.driver.state.reconnect = .dormant)
    (hidle : h.driver.state.publish = .idle) (hc : Confirms ambient h h' .proceed) : Watched h' := by
  have hopening : h.driver.state.connection ≠ .connecting := by simp [hconn]
  have hnot : h.driver.state.reconnect ≠ .ready := by simp [hdormant]
  cases hc with
  | unsubscribe hrec hset hcan =>
    exact ⟨fun _ => unsubscribes_awaited _ _, fun h => absurd h hopening, fun _ _ => rfl, fun _ => hidle, fun _ _ => .inl hset⟩
  | ready hrec hno hcan =>
    refine ⟨hending, fun h => absurd h hopening, fun _ _ => rfl, fun _ => hidle, fun _ _ => ?_⟩
    rcases hno with hsub | hset
    · exact .inr (.inl (hending hsub))
    · exact .inl hset
  | subscribe hrec hsub hshut hopen =>
    exact ⟨hending, fun _ => hdormant, fun _ h => absurd (reconnectRevision_eq_none.1 hrec) h, fun h => absurd h hnot,
      fun h => absurd h hnot⟩
  | idle hrec hno =>
    exact ⟨hending, fun _ => hdormant, fun _ h => absurd (reconnectRevision_eq_none.1 hrec) h, fun h => absurd h hnot,
      fun h => absurd h hnot⟩

/-- A delivery that is answered leaves the marker, and the pending delivery if it is not accepted. -/
theorem Changed.delivers {delivery : CommandDelivery} {reply : Reply} (hg : h.Good pki)
    (hc : Changed pki h (commandCall wire ambient delivery) reply h₁) :
    h₁.agent.state.reconnectRevision = h.agent.state.reconnectRevision ∧
      (reply ≠ .outcome .accepted → h₁.agent.pendingInboundSettled = h.agent.pendingInboundSettled) := by
  obtain ⟨d, hd, -, -⟩ := commandCall_delivery wire ambient delivery
  have hdelivers := hc.answers.delivery hg.coherent hd
  by_cases hreply : reply = .outcome .accepted
  · exact ⟨(hdelivers.accepted hreply).reconnectRevision, fun h => absurd hreply h⟩
  · have hnotes := hdelivers.other hreply
    refine ⟨hnotes.reconnectRevision, fun _ => ?_⟩
    unfold Running.pendingInboundSettled
    rw [hnotes.pendingInbound]

/-- The settlement of a pending delivery leaves the marker. -/
theorem Absents.marker (hg : h.Good pki) (ha : Absents pki ambient h h₁) :
    h₁.agent.state.reconnectRevision = h.agent.state.reconnectRevision := by
  cases ha with
  | absent hscope hobs hset hask =>
    obtain ⟨p, -, hs'⟩ := (hg.ask hask).answers.absent
    rw [hs']
  | present hno => rfl

theorem Watched.observes (hk : Watched h) (delivery : CommandDelivery) : Watched (h.observes delivery) := by
  unfold Host.observes
  split_ifs
  · exact hk.idle ⟨rfl, rfl, rfl, rfl⟩ rfl (.inl rfl) rfl rfl
  · exact hk

/-- A delivery that is held: an UNSUBACK is to come. -/
theorem Watched.held {delivery : CommandDelivery} {reply : Reply} (hg : h.Good pki) (hk : Watched h)
    (hask : ask pki ambient (commandCall wire ambient delivery) (h.observes delivery) = (.ok reply, h₁))
    (token : Option String) : Watched (h₁.holds delivery token) := by
  have hgo : (h.observes delivery).Good pki := hg.congr (observes_tree _ _) (observes_agent _ _)
  have hc := hgo.ask hask
  have hsteady : Steady (h.observes delivery).driver.state (h₁.holds delivery token).driver.state := by
    rw [← hc.driver]
    exact ⟨rfl, rfl, rfl, rfl⟩
  exact (hk.observes delivery).keep hsteady (hc.delivers hgo).1 (fun _ => unsubscribes_awaited _ _)
    fun _ _ _ => .inr (.inl (unsubscribes_awaited _ _))

/-- One that is answered at once: what was awaited is awaited still. -/
theorem Watched.acked {delivery : CommandDelivery} {reply : Reply} (hg : h.Good pki) (hk : Watched h)
    (hask : ask pki ambient (commandCall wire ambient delivery) (h.observes delivery) = (.ok reply, h₁))
    (hreply : reply ≠ .outcome .accepted) (hunsent : h.driver.session.inboundAcknowledgements = []) (token : Option String) :
    Watched (h₁.acks delivery token) := by
  have hgo : (h.observes delivery).Good pki := hg.congr (observes_tree _ _) (observes_agent _ _)
  have hc := hgo.ask hask
  have hobserved := hk.observes delivery
  obtain ⟨hmarker, hset⟩ := hc.delivers hgo
  have hunsub : (h₁.acks delivery token).driver.session.unsubscribing = (h.observes delivery).driver.session.unsubscribing :=
    congrArg (·.session.unsubscribing) hc.driver
  refine hobserved.keep (.of_eq (congrArg (·.state) hc.driver)) hmarker ?_ ?_
  · intro hending
    have hending' : h₁.driver.state.subscription = .unsubscribing := hending
    rw [hc.driver] at hending'
    rw [hunsub]
    exact hobserved.ending hending'
  · rintro - - (hunset | hsome | ⟨entry, hmem, -⟩)
    · exact .inl ((hset hreply).trans hunset)
    · rw [← hunsub] at hsome
      exact .inr (.inl hsome)
    · rw [observes_session, hunsent] at hmem
      cases hmem

/-- The UNSUBACK that ends it: the switch is not due, or its pending delivery is not settled. -/
theorem Completes.watched (hk : Watched h) (hsteady : Steady h.driver.state h₁.driver.state)
    (hmarker : h₁.agent.state.reconnectRevision = h.agent.state.reconnectRevision)
    (hsub : h₁.driver.state.subscription = .inactive) (hc : Completes ambient h₁ h' .proceed) : Watched h' := by
  have hnot : h₁.driver.state.subscription ≠ .unsubscribing := by simp [hsub]
  cases hc with
  | subscribe hno hflight hshut hopen =>
    exact hk.keep hsteady hmarker (fun hending => absurd hending hnot) fun hready _ _ =>
      .inl (hno (hsteady.reconnect.trans hready))
  | idle hno hclosed =>
    exact hk.keep hsteady hmarker (fun hending => absurd hending hnot) fun hready _ _ =>
      .inl (hno (hsteady.reconnect.trans hready))

/-- The UNSUBACK that releases a delivery. -/
theorem Watched.released_iff {delivery : CommandDelivery} {token : Option String} {topic : String}
    {reasons : List UnsubAckReason} (hk : Watched h)
    (hheld : h.driver.state.pendingCommandAck = some (delivery, token))
    (hsteady : Steady h.driver.state h'.driver.state) (hagent : h'.agent = h.agent)
    (hsub : h'.driver.state.subscription = .inactive)
    (hunsub : h'.driver.session.unsubscribing = h.driver.session.unsubscribing.erase topic)
    (hacks : h'.driver.session.inboundAcknowledgements = [(delivery.publish.pkid, token)]) :
    Watched h' ↔ Catches h (.packet (.unsubAck topic reasons)) ambient := by
  constructor
  · rintro hk' _ _ d ⟨⟩ hsome hrun herase hset
    cases hheld.symm.trans hsome
    refine reconnect_dormant fun hready => ?_
    rcases hk'.awaited (hsteady.reconnect.trans hready) (hsteady.shutdownDeadline.trans hrun) with
      hunset | hne | ⟨entry, hmem, htoken⟩
    · rw [hagent, hset] at hunset
      cases hunset
    · exact hne (hunsub.trans herase)
    · rw [hacks, List.mem_singleton] at hmem
      exact htoken (by rw [hmem])
  · intro hcatches
    refine hk.keep hsteady (by rw [hagent]) (fun hending => by cases hsub.symm.trans hending) fun hready hrun _ => ?_
    by_cases hset : h.agent.pendingInboundSettled = true
    · by_cases herase : h.driver.session.unsubscribing.erase topic = []
      · rcases token with _ | token
        · cases hready.symm.trans (hcatches topic reasons delivery rfl hheld hrun herase hset)
        · exact .inr (.inr ⟨_, hacks ▸ List.mem_singleton_self _, by simp⟩)
      · exact .inr (.inl (hunsub ▸ herase))
    · exact .inl (by rw [hagent]; simpa using hset)

/-- **A handler keeps the switch in sight exactly when it does not release a delivery over it.** -/
theorem Handled.watched_iff {p : Packet} {session : MqttSession} (hg : h.Good pki) (ht : Tracks wire h) (hk : Watched h)
    (hallowed : Allowed h (.packet p) ambient) (hpolls : MqttSession.Polls wire h.driver.session p event session)
    (hh : Handled pki wire ambient (h.polled p event session) event h' .proceed) :
    Watched h' ↔ Catches h (.packet p) ambient := by
  have hg' : (h.polled p event session).Good pki := hg.polled _ _ _
  have hconnects := hallowed.connects p rfl
  -- anything but a CONNACK comes to a session that is connected
  have hconnected : p ≠ .connAck → h.driver.state.connection = .connected := by
    intro hne
    rcases hconn : h.driver.state.connection with _ | _
    · exact absurd (hconnects.2 hconn) hne
    · rfl
  have hother : (∀ topic reasons, p ≠ .unsubAck topic reasons) → Catches h (.packet p) ambient := fun hno =>
    catches_other fun topic reasons heq => hno topic reasons (Poll.packet.inj heq)
  cases hh with
  | connected hmark hlisten =>
    cases hpolls
    refine iff_of_true ?_ (hother (by simp))
    have hdriver : _ = (h.polled _ _ _).connects.driver := (hmark.spares (hg'.set _)).driver
    refine hlisten.watched (hmark.marker_none (hg'.set _)) (by rw [hdriver]; rfl) (by rw [hdriver]; rfl) ?_
    rw [hdriver]
    exact hk.opening (hconnects.1 rfl)
  | subscribed =>
    cases hpolls
    exact iff_of_true (hk.idle ⟨rfl, rfl, rfl, rfl⟩ rfl (.inr (by simp [Host.set])) rfl rfl) (hother (by simp))
  | held hask hhold =>
    cases hpolls
    refine iff_of_true (Watched.held hg' ?_ hask _) (hother (by simp))
    exact hk.idle ⟨rfl, rfl, rfl, rfl⟩ rfl (.inl rfl) rfl rfl
  | acked hask hreply hopen hshut =>
    cases hpolls
    refine iff_of_true (Watched.acked hg' ?_ hask hreply (ht.free (hallowed.receiveMaximum _ rfl)).2 _) (hother (by simp))
    exact hk.idle ⟨rfl, rfl, rfl, rfl⟩ rfl (.inl rfl) rfl rfl
  | confirmed hpending hask hnext =>
    cases hpolls
    refine iff_of_true ?_ (hother (by simp))
    have hpending' : h.driver.state.publish = .pending := hpending
    have hdormant : h.driver.state.reconnect = .dormant := reconnect_dormant fun hready => by
      cases (hk.unpublished hready).symm.trans hpending'
    have hdriver := ask_driver hask
    refine hnext.watched ?_ ?_ ?_ ?_
    · rw [hdriver]
      exact hk.ending
    · rw [hdriver]
      exact hconnected (by simp)
    · rw [hdriver]
      exact hdormant
    · rw [hdriver]
      rfl
  | released hheld =>
    cases hpolls
    refine hk.released_iff hheld ⟨rfl, rfl, rfl, rfl⟩ rfl rfl rfl ?_
    show PacketMap.insert h.driver.session.inboundAcknowledgements _ _ = _
    rw [ht.unsent hheld]
    rfl
  | unsubscribed hheld habsent hnext =>
    cases hpolls
    refine iff_of_true ?_ (catches_unheld hheld)
    have hdriver := (habsent.spares (hg'.set _)).driver
    have hmarker := habsent.marker (hg'.set _)
    refine hnext.watched hk ?_ hmarker (by rw [hdriver]; rfl)
    rw [hdriver]
    exact ⟨rfl, rfl, rfl, rfl⟩
  | inboundOther =>
    cases hpolls with
    | inbound hremove =>
      obtain ⟨-, -, hacks⟩ := ht.flushed hremove
      refine iff_of_true (hk.keep ⟨rfl, rfl, rfl, rfl⟩ rfl hk.ending fun _ _ ha => ?_) (hother (by simp))
      rcases ha with hunset | hunsub | ⟨entry, hmem, htoken⟩
      · exact .inl hunset
      · exact .inr (.inl hunsub)
      · rw [hacks, List.mem_singleton] at hmem
        exact absurd (by rw [hmem]) htoken
  | inboundSettled hask hcontrol =>
    cases hpolls
    refine iff_of_true ?_ (hother (by simp))
    have hc := hg'.ask hask
    obtain ⟨p, -, -, hs'⟩ := hc.answers.settle
    have hending : h'.driver.state.subscription = .unsubscribing → h'.driver.session.unsubscribing ≠ [] := by
      rw [hc.driver]
      exact hk.ending
    refine hk.keep (.of_eq (congrArg (·.state) hc.driver)) (by rw [hs']; rfl) hending fun hready hrun _ => ?_
    -- the session goes on because its subscription is ending
    have hready' : h'.driver.state.reconnect = .ready := by
      rw [hc.driver]
      exact hready
    by_cases hsub : h'.driver.state.subscription = .unsubscribing
    · exact .inr (.inl (hending hsub))
    · rw [if_pos ⟨hready', hsub⟩] at hcontrol
      cases hcontrol
  | progress =>
    cases hpolls with
    | published hawaiting => exact iff_of_true (hk.idle ⟨rfl, rfl, rfl, rfl⟩ rfl (.inl rfl) rfl rfl) (hother (by simp))
    | other => exact iff_of_true (hk.idle ⟨rfl, rfl, rfl, rfl⟩ rfl (.inl rfl) rfl rfl) (hother (by simp))

/-- **A round that goes on keeps the switch in sight exactly when it catches it.** -/
theorem Rounds.watched_iff (hg : h.Good pki) (ht : Tracks wire h) (hk : Watched h) (hallowed : Allowed h poll ambient)
    (hr : Rounds pki wire ambient h poll (.ok none) h') : Watched h' ↔ Catches h poll ambient := by
  cases hr with
  | handled hpoll hhandled hhead =>
    exact hhead.watched_iff.trans (hhandled.watched_iff hg ht hk hallowed (MqttSession.poll_cases hpoll))
  | stopping hstop hhead => exact iff_of_true (hhead.watched_iff.2 (hstop.watched hk)) (catches_other (by simp))
  | nothing hpoll => exact iff_of_true hk (catches_other fun _ _ => hpoll _)

end Rounds

/-! ### Every run -/

section Runs

variable {pki : Pki} {wire : Wire}

theorem watched_inductive : Inductive pki wire (fun h poll ambient => (Allowed h poll ambient ∧ Catches h poll ambient) ∧
    Tracks wire h) (fun _ _ => True) Watched where
  fresh := trivial
  first _ _ := trivial
  ended _ _ := trivial
  opened {h readable} _ hcreate _ := by
    obtain ⟨tree, a, driver, deeds⟩ := h
    dsimp only at hcreate
    obtain ⟨identity, recoveryCommand, -, -, rfl⟩ := create_cases hcreate
    exact ⟨trivial, fun h => (by cases h), fun _ => rfl, fun h => (by cases h), fun _ => rfl, fun h => by cases h⟩
  round hg _ hk hE hr := by
    refine ⟨trivial, fun ho => ?_⟩
    subst ho
    exact (hr.watched_iff hg hE.2 hk hE.1.1).2 hE.1.2

/-- The switch is due: the session has noted it, or is connected on a marker.  A marker that an earlier session has left
is gone with the CONNACK, so that of a connected session comes from an acknowledgement confirmed in it. -/
def SwitchDue (a : Running) (d : SessionDriver) : Prop :=
  d.state.reconnect = .ready ∨ d.state.connection = .connected ∧ a.state.reconnectRevision ≠ none

/-- Outside shutdown, with the pending delivery settled and nothing outstanding. -/
structure Unoccupied (a : Running) (d : SessionDriver) : Prop where
  running : d.state.shutdownDeadline = false
  settled : a.pendingInboundSettled = true
  unpublished : d.state.publish = .idle
  unsubscribing : d.session.unsubscribing = []
  unheld : d.state.pendingCommandAck = none
  unsent : d.session.inboundAcknowledgements = []

/-- **No switch that is due is missed.** -/
theorem no_switch_missed {inputs : List Input} (hE : Along pki wire (fun h poll ambient =>
      Allowed h poll ambient ∧ Catches h poll ambient) inputs) (a : Running) (d : SessionDriver)
    (ha : (Process.fresh.run pki wire inputs).device.agent = some a)
    (hstage : (Process.fresh.run pki wire inputs).stage = .session d) : ¬ (SwitchDue a d ∧ Unoccupied a d) := by
  have htracks := hE.tracks fun _ _ _ h => h.1.receiveMaximum
  have hk : Watched (Process.host _ a d) := (watched_inductive.run htracks).session a d ha hstage
  rintro ⟨hdue, hfree⟩
  have hready : d.state.reconnect = .ready := hdue.elim id fun hmarked => hk.marked hmarked.1 hmarked.2
  rcases hk.awaited hready hfree.running with hunset | hunsub | ⟨entry, hmem, -⟩
  · exact Bool.false_ne_true (hunset.symm.trans hfree.settled)
  · exact hunsub hfree.unsubscribing
  · have hmem' : entry ∈ d.session.inboundAcknowledgements := hmem
    rw [hfree.unsent] at hmem'
    cases hmem'

end Runs

/-! ### A delivery that is released over it -/

namespace Fixture

open Agent.Fixture

variable {E : Broker} {inputs : List Input} {deeds : List Deed} {n : ℕ} {artifact : ResolvedArtifact}
  {outbox : List StoredOutbound} {reconnect : Option ℕ} {settled : Bool}

/-- With the command in it as the last of its entries the journal is full. -/
theorem turning_full (hn : 1024 ≤ n + 1) :
    Running.commandIntakeOpen ⟨turning n artifact outbox reconnect settled, retention⟩ now = false := by
  refine intakeOpen_full ?_ ?_
  · simpa [turning, resting, StateV1.accepted, commandJournalLimit] using hn
  · intro c hc
    rcases List.mem_append.1 hc with hc | hc
    · obtain ⟨k, -, rfl⟩ := List.mem_map.1 hc
      exact journalEntry_kept k
    · rw [List.mem_singleton.1 hc]
      show now < retentionDeadline retention (observedAt now)
      decide

/-- A command that did not decode is known, under its own name, -/
theorem journalEntry_mem (hn : 0 < n) : journalEntry 0 ∈ (turning n artifact outbox reconnect settled).commandJournal :=
  List.mem_append_left _ (List.mem_map_of_mem (List.mem_range.2 hn))

/-- and the settlement token is not for that. -/
theorem turning_tokenless (k : ℕ) : Running.pendingDeliverySettlementToken
    ⟨turning n artifact outbox reconnect settled, retention⟩ topic (name k).expose = none := by
  unfold Running.pendingDeliverySettlementToken
  show Option.bind (some _) _ = _
  rw [Option.bind_some, if_neg]
  rintro ⟨-, hname⟩
  exact name_ne k hname.symm

/-- Its acknowledgement is queued again. -/
theorem ask_repeats (hn : 0 < n) (hlast : n < 1024) {h : Host} (hg : h.Good Agent.Fixture.pki)
    (hagent : h.agent = ⟨turning n artifact [turningAck n artifact, turningReport n artifact] none settled, retention⟩) : ∃ tree,
      ask Agent.Fixture.pki ambient (badCall 0) h = (.ok (.outcome .duplicate), h.asked (badCall 0)
        ⟨tree, turning n artifact [turningAck n artifact, turningReport n artifact, rejectionEntry 0] none settled⟩
        [.answered (badCall 0) (.outcome .duplicate)
          (turning n artifact [turningAck n artifact, turningReport n artifact, rejectionEntry 0] none settled)]) := by
  obtain ⟨tree, agent, d, deeds⟩ := h
  obtain rfl : agent = ⟨turning n artifact [turningAck n artifact, turningReport n artifact] none settled, retention⟩ := hagent
  have hevents : EventsDistinct ((turning n artifact [turningAck n artifact, turningReport n artifact] none settled).events ++
      [(.ack, (name 0).expose)]) := by
    show EventsDistinct [(.ack, commandId.expose), (.report, commandId.expose), (.ack, (name 0).expose)]
    decide +kernel
  have hack : (turning n artifact [turningAck n artifact, turningReport n artifact] none settled).hasCommandAck
      (name 0).expose = false := by
    refine hasCommandAck_eq_false.2 fun o ho a ha => ?_
    rcases List.mem_pair.1 ho with rfl | rfl
    · cases ha
      exact (name_ne 0).symm
    · cases ha
  have hseq : saturatingAdd (saturatingAdd n 1) 1 < 18446744073709551615 := by
    rw [saturatingAdd_one_of_lt (show n < 18446744073709551615 by omega),
      saturatingAdd_one_of_lt (show n + 1 < 18446744073709551615 by omega)]
    omega
  have hdelivery : (badCall 0).delivery = some ⟨(name 0).expose, malformedFingerprint topic (name 0).expose [], now⟩ := rfl
  obtain ⟨hreply, hafter⟩ := hg.sound.step_replay rfl ⟨journalEntry_mem hn, hg.sound.expires positiveExpiry rfl⟩
    hdelivery (.inr rfl) rfl rfl (journalEntry_kept 0) hevents hseq hack (show 2 + 1 ≤ 128 by decide)
  exact ask_answered _ ambient_faults hreply hafter

/-- The session that holds a delivery while the acknowledgement of the command is on its way, -/
def interrupted (n : ℕ) (artifact : ResolvedArtifact) : SessionDriver where
  session := { opened.session with
    packetEvents := [(1, (turningFact n artifact).eventId)], unsubscribing := [topic], inflight := 1 }
  sessionIdentity := identity one
  recoveryCommand := none
  state := {
    connection := .connected
    publish := .pending
    subscription := .unsubscribing
    pendingCommandAck := some (badDelivery 0, none) }

/-- that in which the switch is due, -/
def overdue : SessionDriver where
  session := { opened.session with unsubscribing := [topic], inflight := 1 }
  sessionIdentity := identity one
  recoveryCommand := none
  state := {
    connection := .connected
    subscription := .unsubscribing
    pendingCommandAck := some (badDelivery 0, none)
    reconnect := .ready }

/-- that which has released the delivery over it, -/
def overlooked : SessionDriver where
  session := { opened.session with inboundAcknowledgements := [(1, none)], inflight := 1 }
  sessionIdentity := identity one
  recoveryCommand := none
  state := { connection := .connected, reconnect := .ready }

/-- and that in which nothing is to come. -/
def stranded : SessionDriver := { opened with state := { connection := .connected, reconnect := .ready } }

/-- The delivery that is held over the switch. -/
theorem At.interrupts (hn : 1024 ≤ n + 1) (hlast : n < 1024)
    (hat : At Allowed inputs (turning n artifact [turningAck n artifact, turningReport n artifact] none settled)
      (activating n artifact) deeds) : At Allowed (inputs ++ [packet (.publish (badDelivery 0).publish)])
      (turning n artifact [turningAck n artifact, turningReport n artifact, rejectionEntry 0] none settled)
      (interrupted n artifact) (deeds ++ [.polled (.publish (badDelivery 0).publish) (.command (badDelivery 0))] ++
        [.asked (badCall 0) (turning n artifact [turningAck n artifact, turningReport n artifact] none settled),
          .answered (badCall 0) (.outcome .duplicate)
            (turning n artifact [turningAck n artifact, turningReport n artifact, rejectionEntry 0] none settled)] ++
        [.queued (.unsubscribe topic)]) := by
  have hscope : (activating n artifact).session.commandIdentity topic (name 0).expose = some (identity one) :=
    if_pos (decide_eq_true rfl)
  refine hat.proceeds (fun _ => allowed_publish rfl rfl) (poll_publish [] hscope) fun tree hg => ?_
  obtain ⟨tree', hask⟩ := ask_repeats (by omega) hlast (hg.polled (.publish (badDelivery 0).publish)
    (.command (badDelivery 0)) { (activating n artifact).session with inflight := 1 }) rfl
  rw [← commandCall_bad] at hask
  have hhandled : Handled _ wire _ _ _ _ _ := Handled.held (h := Host.polled ⟨tree, ⟨turning n artifact
    [turningAck n artifact, turningReport n artifact] none settled, retention⟩, activating n artifact, deeds⟩
    (.publish (badDelivery 0).publish) (.command (badDelivery 0)) { (activating n artifact).session with inflight := 1 })
    hask (.inr (.inl (turning_full hn)))
  change Handled _ _ _ _ _ (Host.holds _ _ (Running.pendingDeliverySettlementToken ⟨turning n artifact _ _ _, retention⟩
    topic (name 0).expose)) _ at hhandled
  rw [turning_tokenless, commandCall_bad] at hhandled
  exact ⟨tree', _, hhandled, head_quiet rfl fun h => by cases h⟩

/-- While it is held the acknowledgement is confirmed: the switch is due, and waits for the UNSUBACK. -/
theorem At.activates (hat : At Allowed inputs (turning n artifact [turningAck n artifact, turningReport n artifact,
      rejectionEntry 0] none settled) (interrupted n artifact) deeds) : At Allowed (inputs ++ [packet (.pubAck 1)])
      (turning n artifact [turningReport n artifact, rejectionEntry 0] (some 2) settled) overdue
      (deeds ++ [.polled (.pubAck 1) (.outboundAcknowledged (turningFact n artifact).eventId)] ++
        [.asked (.confirmOutbound (turningFact n artifact).eventId)
          (turning n artifact [turningAck n artifact, turningReport n artifact, rejectionEntry 0] none settled),
          .answered (.confirmOutbound (turningFact n artifact).eventId) .done
            (turning n artifact [turningReport n artifact, rejectionEntry 0] (some 2) settled)]) := by
  have hpoll : (interrupted n artifact).session.poll wire (.pubAck 1) =
      .ok (.outboundAcknowledged (turningFact n artifact).eventId, overdue.session) := rfl
  refine hat.proceeds (fun _ => allowed_acknowledgement rfl (.inr (.inr rfl))) hpoll fun tree hg => ?_
  obtain ⟨tree', hask⟩ := ask_activates ((hg.polled (.pubAck 1) (.outboundAcknowledged (turningFact n artifact).eventId)
    overdue.session).set fun s => { s with publish := .idle }) rfl
  have hrec : Running.reconnectRevision ⟨turning n artifact [turningReport n artifact, rejectionEntry 0] (some 2) settled,
    retention⟩ = .ok (some two) := rfl
  exact ⟨tree', _, .confirmed rfl hask (.ready hrec (.inl rfl) rfl), head_quiet rfl fun h => by cases h⟩

/-- The UNSUBACK releases it, and its PUBACK leaves. -/
theorem At.strands {s : StateV1} (hat : At Allowed inputs s overdue deeds) : ∃ deeds', At Allowed
    (inputs ++ [packet (.unsubAck topic [.success])] ++ [packet (.sentPubAck 1)]) s stranded deeds' := by
  have hpoll : overdue.session.poll wire (.unsubAck topic [.success]) =
      .ok (.unsubscribed, { overdue.session with unsubscribing := [] }) := poll_unsubAck rfl
  have hreleased : At Allowed (inputs ++ [packet (.unsubAck topic [.success])]) s overlooked
      (deeds ++ [.polled (.unsubAck topic [.success]) .unsubscribed] ++ [.queued (.ack (badDelivery 0))]) :=
    hat.proceeds (fun _ => allowed_unsubAck rfl (List.mem_singleton_self _)) hpoll fun tree _ =>
      ⟨tree, _, .released rfl, head_quiet rfl fun h => by cases h⟩
  have hflushed : At Allowed (inputs ++ [packet (.unsubAck topic [.success])] ++ [packet (.sentPubAck 1)]) s stranded
      (deeds ++ [.polled (.unsubAck topic [.success]) .unsubscribed] ++ [.queued (.ack (badDelivery 0))] ++
        [.polled (.sentPubAck 1) (.inboundAcknowledged none)]) :=
    hreleased.proceeds (fun _ => allowed_acknowledgement rfl (.inl rfl)) rfl fun tree _ =>
      ⟨tree, _, .inboundOther, head_quiet rfl fun h => by cases h⟩
  exact ⟨_, hflushed⟩

theorem vacant_flood (n : ℕ) : Vacant (flood n) := by
  induction n with
  | zero => exact vacant_listen
  | succ n ih =>
    have hdelivered : Vacant (flood n ++ [packet (.publish (badDelivery n).publish)]) := by
      refine ih.packet ?_
      rintro _ ⟨⟩ identity commandId
      exact decode_empty identity commandId
    exact ((hdelivered.packet fun _ h => by cases h).packet fun _ h => by cases h).packet fun _ h => by cases h

/-- The session in which the switch waits for the PUBACK of the command. -/
def due : SessionDriver where
  session := { opened.session with inboundAcknowledgements := [(1, some token)], inflight := 1 }
  sessionIdentity := identity one
  recoveryCommand := none
  state := { connection := .connected, reconnect := .ready }

/-- The acknowledgement is confirmed first, -/
theorem At.awaits (hat : At E inputs (turning n artifact [turningAck n artifact, turningReport n artifact] none false)
      { releasing n artifact with session := { (releasing n artifact).session with
        awaitingPacketId := [], packetEvents := [(1, (turningFact n artifact).eventId)] } } deeds)
    (hE : ∀ tree, E ⟨tree, ⟨turning n artifact [turningAck n artifact, turningReport n artifact] none false, retention⟩,
      { releasing n artifact with session := { (releasing n artifact).session with
        awaitingPacketId := [], packetEvents := [(1, (turningFact n artifact).eventId)] } }, deeds⟩
      (.packet (.pubAck 1)) ambient) :
    At E (inputs ++ [packet (.pubAck 1)]) (turning n artifact [turningReport n artifact] (some 2) false) due
      (deeds ++ [.polled (.pubAck 1) (.outboundAcknowledged (turningFact n artifact).eventId)] ++
        [.asked (.confirmOutbound (turningFact n artifact).eventId)
          (turning n artifact [turningAck n artifact, turningReport n artifact] none false),
          .answered (.confirmOutbound (turningFact n artifact).eventId) .done
            (turning n artifact [turningReport n artifact] (some 2) false)]) := by
  refine hat.proceeds hE rfl fun tree hg => ?_
  obtain ⟨tree', hask⟩ := ask_activates ((hg.polled (.pubAck 1) (.outboundAcknowledged (turningFact n artifact).eventId)
    due.session).set fun s => { s with publish := .idle }) rfl
  have hrec : Running.reconnectRevision ⟨turning n artifact [turningReport n artifact] (some 2) false, retention⟩ =
    .ok (some two) := rfl
  exact ⟨tree', _, .confirmed rfl hask (.ready hrec (.inr rfl) rfl), head_quiet rfl fun h => by cases h⟩

/-- and then the PUBACK leaves. -/
theorem At.leaves (hat : At E inputs (turning n artifact [turningReport n artifact] (some 2) false) due deeds)
    (hE : ∀ tree, E ⟨tree, ⟨turning n artifact [turningReport n artifact] (some 2) false, retention⟩, due, deeds⟩
      (.packet (.sentPubAck 1)) ambient) :
    Over E (inputs ++ [packet (.sentPubAck 1)]) (turning n artifact [turningReport n artifact] (some 2) true)
      (deeds ++ [.polled (.sentPubAck 1) (.inboundAcknowledged (some token))] ++
        [.asked (.markPendingInboundSettled token) (turning n artifact [turningReport n artifact] (some 2) false),
          .answered (.markPendingInboundSettled token) .done (turning n artifact [turningReport n artifact] (some 2) true)] ++
        [.ended (.ok .reconnect)]) := by
  refine hat.switches hE rfl fun tree hg => ?_
  obtain ⟨tree', hask⟩ := ask_settles (p := { (acceptedCommand retention (command 0) artifact two now).pending (identity one)
    with settled := false }) (hg.polled (.sentPubAck 1) (.inboundAcknowledged (some token)) opened.session) rfl rfl
  exact ⟨tree', _, .inboundSettled hask rfl⟩

/-- The PUBACK of the delivery is the last thing to come. -/
def waiting : List Input := admitting ++ [packet (.sentPublish 1)] ++ [packet (.pubAck 1)]

/-- The command is the last that the journal takes.  When it is settled, and while its acknowledgement is on its way, one
of the others is delivered again. -/
def overlooking : List Input :=
  flood 1023 ++ [packet (.publish (named commandId).publish)] ++ [packet (.unsubAck topic [.success])] ++
    [packet (.sentPubAck 1)] ++ [packet (.sentPublish 1)] ++ [packet (.publish (badDelivery 0).publish)] ++
    [packet (.pubAck 1)] ++ [packet (.unsubAck topic [.success])] ++ [packet (.sentPubAck 1)]

end Fixture

open Fixture Agent.Fixture in
/-- The acknowledgement of the command is confirmed before the PUBACK of its delivery has left: the switch is due and waits
for it, and it ends the session. -/
theorem no_switch_missed_waiting : ∃ a, (run waiting).device.agent = some a ∧ (run waiting).stage = .session due ∧
    SwitchDue a due ∧ ¬ Unoccupied a due ∧ .ended (.ok .reconnect) ∈ (run (waiting ++ [packet (.sentPubAck 1)])).deeds := by
  have hE : ∀ h p, Allowed h (.packet p) ambient → (∀ topic reasons, p ≠ .unsubAck topic reasons) →
      Allowed h (.packet p) ambient ∧ Catches h (.packet p) ambient :=
    fun h p ha hno => ⟨ha, catches_other fun topic reasons heq => hno topic reasons (Poll.packet.inj heq)⟩
  have hlistening : At (fun h poll ambient => Allowed h poll ambient ∧ Catches h poll ambient) Fixture.listen (resting 0 [])
      listening _ := at_listens (fun h _ ha => hE h _ ha (by simp)) fun h codes ha => hE h _ ha (by simp)
  obtain ⟨artifact, -, htaken⟩ := hlistening.takes (by decide) vacant_listen fun _ => hE _ _ (allowed_publish rfl rfl) (by simp)
  have hreleased : At _ admitting _ _ _ := htaken.releases fun h hheld ha => by
    -- the delivery that is released has a settlement token
    refine ⟨ha, fun topic reasons delivery hpoll hnone => ?_⟩
    rw [hheld] at hnone
    cases hnone
  have hsent := hreleased.sends (fun _ => hE _ _ (allowed_acknowledgement rfl (.inr (.inl rfl))) (by simp)) rfl rfl rfl rfl
  have hwaiting : At _ waiting _ _ _ :=
    hsent.awaits fun _ => hE _ _ (allowed_acknowledgement rfl (.inr (.inr rfl))) (by simp)
  obtain ⟨tree, d, ⟨stage, -, hended⟩, -⟩ := hwaiting.leaves fun _ => hE _ _ (allowed_acknowledgement rfl (.inl rfl)) (by simp)
  obtain ⟨tree', hs⟩ := hwaiting
  have hstage : (run waiting).stage = .session due := congrArg Process.stage hs.run
  have hagent : (run waiting).device.agent = some ⟨turning 0 artifact [turningReport 0 artifact] (some 2) false, retention⟩ := by
    rw [run, hs.run]
    rfl
  have hdue : SwitchDue ⟨turning 0 artifact [turningReport 0 artifact] (some 2) false, retention⟩ due := .inl rfl
  unfold run at hagent hstage ⊢
  refine ⟨_, hagent, hstage, hdue, fun hfree => no_switch_missed hs.along _ _ hagent hstage ⟨hdue, hfree⟩, ?_⟩
  rw [hended]
  simp

open Fixture Agent.Fixture in
/-- **What the release of a delivery overlooks.**  The acknowledgement of the accepted command is confirmed while a known
command is held: the UNSUBACK releases that, its PUBACK leaves, and the session goes on with the switch due and nothing to
come. -/
theorem switch_overlooked : Along Agent.Fixture.pki Fixture.wire Allowed overlooking ∧
    ∃ a d, (run overlooking).device.agent = some a ∧ (run overlooking).stage = .session d ∧ SwitchDue a d ∧
      Unoccupied a d ∧ d.state.reconnect = .ready ∧ a.state.reconnectRevision = some 2 := by
  unfold overlooking
  obtain ⟨deeds, hflood⟩ := at_flood (E := Allowed) (n := 1023) (fun _ _ ha _ => ha) (by decide)
  obtain ⟨artifact, -, htaken⟩ := hflood.takes (by decide) (vacant_flood 1023) fun _ => allowed_publish rfl rfl
  have hsettled := (htaken.releases fun _ _ ha => ha).settles fun _ ha => ha
  have hsent : At Allowed _ _ (activating 1023 artifact) _ :=
    hsettled.sends (fun _ => allowed_acknowledgement rfl (.inr (.inl rfl))) rfl rfl rfl rfl
  obtain ⟨deeds', tree, hs⟩ := (hsent.interrupts (by decide) (by decide)).activates.strands
  refine ⟨hs.along, ?_⟩
  unfold run
  rw [hs.run]
  exact ⟨_, _, rfl, rfl, .inl rfl, ⟨rfl, rfl, rfl, rfl, rfl, rfl⟩, rfl, rfl⟩

end RssIncubator.Driver
