import RssIncubator.Agent.Drain
import RssIncubator.Driver.Puback

/-!
# A session that listens again

Command intake is closed while the outbox or the journal is full.  The outbox drains by PUBACKs, and the handler of each
looks at intake again; the journal drains by the clock alone, which has no handler.  `Attentive` is what a session keeps
as long as intake is not looked at for the last time while the journal is full: it has its subscription, or something is
on its way that brings it back.
-/

namespace RssIncubator.Driver

open Agent Lib StateV1 StoredOutbound

/-! ### Intake with nothing to publish -/

/-- There is room in the journal, or a retention has run out. -/
def Spare (s : StateV1) (now : ℕ) : Prop :=
  s.commandJournal.length < commandJournalLimit ∨ ∃ c ∈ s.commandJournal, c.retainUntilEpochSeconds ≤ now

section Intake

variable {s s' : StateV1} {now : ℕ}

theorem Spare.congr (h : Spare s now) (hjournal : s'.commandJournal = s.commandJournal) : Spare s' now := by
  unfold Spare
  rw [hjournal]
  exact h

theorem reports_drained (hout : s.outbox = []) : s.reports = 0 := by
  unfold StateV1.reports
  rw [hout]
  rfl

/-- With an empty outbox nothing is pending, -/
theorem pending_drained (hs : s.Consistent) (hout : s.outbox = []) : s.pendingInbound = none := by
  have hiff := hs.pending_iff
  rw [reports_drained hout] at hiff
  simpa using hiff

/-- and no new session is asked for. -/
theorem marker_drained (hs : s.Consistent) (hout : s.outbox = []) : s.reconnectRevision = none := by
  rw [Option.eq_none_iff_forall_not_mem]
  intro revision hmem
  have hone := (hs.reconnect revision hmem).1
  have hzero := reports_drained hout
  omega

theorem rotationInFlight_drained (hout : s.outbox = []) : s.rotationInFlight = false := by
  unfold StateV1.rotationInFlight
  rw [hout]
  rfl

/-- Then intake is a matter of the journal. -/
theorem intakeOpen_iff_spare {a : Running} (hs : a.state.Consistent) (hout : a.state.outbox = []) :
    a.commandIntakeOpen now = true ↔ Spare a.state now := by
  have hroom : a.state.reserveOutbox 2 = .ok () := if_pos (by rw [hout]; decide)
  unfold Running.commandIntakeOpen Spare
  rw [hroom]
  simp [commandJournalHasCapacity, pending_drained hs hout, Except.isOk, Except.toBool]

/-- A full journal in which no retention has run out closes it. -/
theorem intakeOpen_full {a : Running} (hlen : commandJournalLimit ≤ a.state.commandJournal.length)
    (hkept : ∀ c ∈ a.state.commandJournal, now < c.retainUntilEpochSeconds) : a.commandIntakeOpen now = false := by
  have hcapacity : a.state.commandJournalHasCapacity now = false := by
    rw [← Bool.not_eq_true]
    unfold StateV1.commandJournalHasCapacity
    rw [Bool.or_eq_true, decide_eq_true_eq, List.any_eq_true]
    rintro (hlt | ⟨c, hc, hdrop⟩)
    · omega
    · have hahead := hkept c hc
      have hpast := (of_decide_eq_true hdrop).1
      omega
  unfold Running.commandIntakeOpen
  rw [hcapacity, Bool.and_false]

end Intake

/-! ### What a session keeps -/

/-- Connected, not shutting down, without a subscription, and with none requested or ending. -/
structure Unsubscribed (d : SessionDriver) : Prop where
  connected : d.state.connection = .connected
  running : d.state.shutdownDeadline = false
  inactive : d.state.subscription = .inactive
  subscribing : d.session.subscribing = 0
  unsubscribing : d.session.unsubscribing = []

/-- An ending subscription waits for its UNSUBACK, and a session without one has something to publish. -/
structure Attentive (h : Host) : Prop where
  ending : h.driver.state.subscription = .unsubscribing → h.driver.session.unsubscribing ≠ []
  waiting : Unsubscribed h.driver → h.agent.state.outbox ≠ []

/-- The rounds in which the subscription is looked at for the last time find room in the journal: the CONNACK, the PUBACK
that empties the outbox, and the UNSUBACK with nothing held and nothing to publish.  The UNSUBACK that releases a delivery
finds something to publish. -/
structure Wakes (h : Host) (poll : Poll) (ambient : Ambient) : Prop where
  connAck : poll = .packet .connAck → h.driver.recoveryCommand = none → h.driver.state.shutdownDeadline = false →
    h.driver.session.subscribing = 0 → h.driver.session.unsubscribing = [] → h.agent.state.outbox = [] →
    Spare h.agent.state ambient.later
  pubAck : ∀ pkid, poll = .packet (.pubAck pkid) → Unsubscribed h.driver → h.agent.state.outbox.length = 1 →
    Spare h.agent.state ambient.later
  released : ∀ topic reasons, poll = .packet (.unsubAck topic reasons) → h.driver.state.pendingCommandAck ≠ none →
    h.driver.state.connection = .connected → h.driver.state.shutdownDeadline = false → h.driver.session.subscribing = 0 →
    h.driver.session.unsubscribing.erase topic = [] → h.agent.state.outbox ≠ []
  unsubAck : ∀ topic reasons, poll = .packet (.unsubAck topic reasons) → h.driver.state.pendingCommandAck = none →
    h.driver.state.connection = .connected → h.driver.state.shutdownDeadline = false → h.driver.session.subscribing = 0 →
    h.driver.session.unsubscribing.erase topic = [] → h.agent.state.outbox = [] → Spare h.agent.state ambient.later

section Rounds

variable {pki : Pki} {wire : Wire} {ambient : Ambient} {h h₁ h' : Host} {poll : Poll} {event : MqttEvent}

/-- What leaves the subscription, the connection and the requests alone, and does not empty the outbox. -/
theorem Attentive.keep (hk : Attentive h) (hsub : h'.driver.state.subscription = h.driver.state.subscription)
    (hconn : h'.driver.state.connection = h.driver.state.connection)
    (hshut : h'.driver.state.shutdownDeadline = h.driver.state.shutdownDeadline)
    (hrequests : h'.driver.session.subscribing = h.driver.session.subscribing ∧
      h'.driver.session.unsubscribing = h.driver.session.unsubscribing)
    (hout : h'.agent.state.outbox = [] → h.agent.state.outbox = []) : Attentive h' := by
  refine ⟨fun hending => ?_, fun hu hempty => ?_⟩
  · rw [hrequests.2]
    exact hk.ending (hsub ▸ hending)
  · exact hk.waiting ⟨hconn ▸ hu.connected, hshut ▸ hu.running, hsub ▸ hu.inactive, hrequests.1 ▸ hu.subscribing,
      hrequests.2 ▸ hu.unsubscribing⟩ (hout hempty)

/-- An UNSUBSCRIBE is on its way. -/
theorem attentive_unsubscribes (h : Host) (topic : String) : Attentive (h.unsubscribes topic) := by
  constructor
  · intro _ hnil
    have hcons : h.driver.session.unsubscribing ++ [topic] = [] := hnil
    simp at hcons
  · intro hu
    cases hu.inactive

/-- A SUBSCRIBE is on its way, and no subscription is ending. -/
theorem attentive_subscribes (hsub : h.driver.state.subscription ≠ .unsubscribing) : Attentive h.subscribes := by
  constructor
  · exact fun hending => absurd hending hsub
  · intro hu
    cases hu.subscribing

/-- The head of the loop publishes, and no more. -/
theorem Heads.attentive_iff {o : Outcome SessionError (Option SessionCompletion)} (hh : Heads wire h o h') :
    Attentive h' ↔ Attentive h := by
  cases hh with
  | published hcan hnext hencode =>
    exact ⟨fun hk => hk.keep rfl rfl rfl ⟨rfl, rfl⟩ id, fun hk => hk.keep rfl rfl rfl ⟨rfl, rfl⟩ id⟩
  | quiet => exact Iff.rfl
  | disconnected => exact ⟨fun hk => hk.keep rfl rfl rfl ⟨rfl, rfl⟩ id, fun hk => hk.keep rfl rfl rfl ⟨rfl, rfl⟩ id⟩
  | failed he => exact Iff.rfl

/-! ### Where intake is looked at -/

/-- A session that is left with nothing to publish finds room in the journal. -/
def Opens (h : Host) (ambient : Ambient) : Prop :=
  Unsubscribed h.driver → h.agent.state.outbox = [] → Spare h.agent.state ambient.later

theorem opens_of_open (hs : h.agent.state.Consistent) (hopen : h.agent.commandIntakeOpen ambient.later = true) :
    Opens h ambient := fun _ hout => (intakeOpen_iff_spare hs hout).1 hopen

/-- Where no subscription is requested, room in the journal is all that matters. -/
theorem attentive_iff_opens (hs : h.agent.state.Consistent)
    (hending : h.driver.state.subscription = .unsubscribing → h.driver.session.unsubscribing ≠ [])
    (hclosed : Unsubscribed h.driver → h.agent.state.outbox = [] → h.agent.commandIntakeOpen ambient.later = false) :
    Attentive h ↔ Opens h ambient := by
  constructor
  · intro hk hu hout
    exact absurd hout (hk.waiting hu)
  · intro hopens
    refine ⟨hending, fun hu hout => ?_⟩
    have hopen := (intakeOpen_iff_spare hs hout).2 (hopens hu hout)
    exact Bool.false_ne_true ((hclosed hu hout).symm.trans hopen)

theorem Listens.attentive_iff (hs : h.agent.state.Consistent) (hsub : h.driver.state.subscription = .inactive)
    (hl : Listens ambient h h') : Attentive h' ↔ (h.driver.recoveryCommand = none → Opens h ambient) := by
  have hne : h.driver.state.subscription ≠ .unsubscribing := by simp [hsub]
  cases hl with
  | recovery hdriver hscope => exact iff_of_true (attentive_unsubscribes _ _) fun hnone => absurd hnone hdriver
  | subscribe hdriver hshut hflight hopen =>
    exact iff_of_true (attentive_subscribes hne) fun _ => opens_of_open hs hopen
  | wait hdriver hno =>
    have hiff : Attentive h ↔ Opens h ambient := attentive_iff_opens hs (fun h => absurd h hne) fun hu hout =>
      hno hu.running (rotationInFlight_drained hout)
    exact hiff.trans ⟨fun hopens _ => hopens, fun hopens => hopens hdriver⟩

theorem Confirms.attentive_iff (hs : h.agent.state.Consistent)
    (hending : h.driver.state.subscription = .unsubscribing → h.driver.session.unsubscribing ≠ [])
    (hc : Confirms ambient h h' .proceed) : Attentive h' ↔ Opens h ambient := by
  cases hc with
  | unsubscribe hrec hset hcan =>
    refine iff_of_true (attentive_unsubscribes _ _) fun hu => ?_
    simp [SessionState.canUnsubscribe, hu.inactive] at hcan
  | ready hrec hno hcan =>
    -- the report of the rotation is in the outbox
    have hreport : h.agent.state.outbox ≠ [] := fun hout => by
      have hmarker := reconnectRevision_eq_some.1 hrec
      rw [marker_drained hs hout] at hmarker
      cases hmarker
    exact iff_of_true ⟨hending, fun _ => hreport⟩ fun _ hout => absurd hout hreport
  | subscribe hrec hsub hshut hopen =>
    exact iff_of_true (attentive_subscribes (by simp [hsub])) (opens_of_open hs hopen)
  | idle hrec hno => exact attentive_iff_opens hs hending fun hu _ => hno hu.inactive hu.running

theorem Completes.attentive_iff (hs : h.agent.state.Consistent) (hsub : h.driver.state.subscription = .inactive)
    (hc : Completes ambient h h' .proceed) : Attentive h' ↔ Opens h ambient := by
  have hne : h.driver.state.subscription ≠ .unsubscribing := by simp [hsub]
  cases hc with
  | subscribe hno hflight hshut hopen => exact iff_of_true (attentive_subscribes hne) (opens_of_open hs hopen)
  | idle hno hclosed =>
    exact attentive_iff_opens hs (fun h => absurd h hne) fun hu hout => hclosed (rotationInFlight_drained hout) hu.running

/-! ### One round -/

/-- The journal stays, and the outbox is as empty as it was. -/
structure Spares (pki : Pki) (h h₁ : Host) : Prop where
  good : h₁.Good pki
  driver : h₁.driver = h.driver
  journal : h₁.agent.state.commandJournal = h.agent.state.commandJournal
  drained : h₁.agent.state.outbox = [] ↔ h.agent.state.outbox = []

theorem Spares.opens_iff (hs : Spares pki h h₁) : Opens h₁ ambient ↔ Opens h ambient := by
  unfold Opens
  rw [hs.driver, hs.drained]
  exact forall_congr' fun _ => forall_congr' fun _ => ⟨fun hw => hw.congr hs.journal.symm, fun hw => hw.congr hs.journal⟩

theorem Marks.spares (hg : h.Good pki) (hm : Marks pki ambient h h₁) : Spares pki h h₁ := by
  cases hm with
  | unmarked hrec => exact ⟨hg, rfl, rfl, Iff.rfl⟩
  | marked hrec hask =>
    have hc := hg.ask hask
    obtain ⟨-, hs'⟩ := hc.answers.mark
    exact ⟨hc.good, hc.driver, by rw [hs'], by rw [hs']; exact List.map_eq_nil_iff⟩

theorem Absents.spares (hg : h.Good pki) (ha : Absents pki ambient h h₁) : Spares pki h h₁ := by
  cases ha with
  | absent hscope hobs hset hask =>
    have hc := hg.ask hask
    obtain ⟨p, -, hs'⟩ := hc.answers.absent
    exact ⟨hc.good, hc.driver, by rw [hs'], by rw [hs']⟩
  | present hno => exact ⟨hg, rfl, rfl, Iff.rfl⟩

/-- A confirmation leaves the journal, and the outbox empty if it confirms the only entry. -/
theorem Changed.confirms {event : String} {reply : Reply} (hg : h.Good pki)
    (hc : Changed pki h (.confirmOutbound event) reply h₁) :
    h₁.agent.state.commandJournal = h.agent.state.commandJournal ∧
      (h₁.agent.state.outbox = [] ↔ h.agent.state.outbox.length = 1) := by
  obtain ⟨entry, hentry, -, -, hs'⟩ := hc.answers.confirm
  have hlen := confirmed_length hg.coherent.consistent hentry
  rw [hs']
  refine ⟨rfl, ?_⟩
  rw [← List.length_eq_zero_iff]
  omega

theorem wakes_connAck : Wakes h (.packet .connAck) ambient ↔ (h.driver.recoveryCommand = none → Opens h.connects ambient) := by
  constructor
  · intro hw hnone hu hout
    exact hw.connAck rfl hnone hu.running hu.subscribing hu.unsubscribing hout
  · intro hopens
    refine ⟨fun _ hnone hshut hsub hunsub => hopens hnone ⟨rfl, hshut, rfl, hsub, hunsub⟩, ?_, ?_, ?_⟩
    · rintro _ ⟨⟩
    · rintro _ _ ⟨⟩
    · rintro _ _ ⟨⟩

theorem wakes_pubAck {pkid : ℕ} : Wakes h (.packet (.pubAck pkid)) ambient ↔
    (Unsubscribed h.driver → h.agent.state.outbox.length = 1 → Spare h.agent.state ambient.later) := by
  constructor
  · exact fun hw => hw.pubAck pkid rfl
  · intro hspare
    refine ⟨?_, fun _ _ => hspare, ?_, ?_⟩
    · rintro ⟨⟩
    · rintro _ _ ⟨⟩
    · rintro _ _ ⟨⟩

/-- The host after an UNSUBACK was polled and the subscription is gone. -/
def Host.unsubscribed (h : Host) (topic : String) : Host where
  tree := h.tree
  agent := h.agent
  driver := { h.driver with
    session := { h.driver.session with unsubscribing := h.driver.session.unsubscribing.erase topic }
    state := { h.driver.state with subscription := .inactive } }
  deeds := h.deeds

theorem wakes_unsubAck {topic : String} {reasons : List UnsubAckReason} : Wakes h (.packet (.unsubAck topic reasons)) ambient ↔
    (h.driver.state.pendingCommandAck ≠ none → Unsubscribed (h.unsubscribed topic).driver → h.agent.state.outbox ≠ []) ∧
      (h.driver.state.pendingCommandAck = none → Opens (h.unsubscribed topic) ambient) := by
  constructor
  · intro hw
    exact ⟨fun hheld hu => hw.released topic reasons rfl hheld hu.connected hu.running hu.subscribing hu.unsubscribing,
      fun hheld hu => hw.unsubAck topic reasons rfl hheld hu.connected hu.running hu.subscribing hu.unsubscribing⟩
  · rintro ⟨hheld, hfree⟩
    refine ⟨?_, ?_, ?_, ?_⟩
    · rintro ⟨⟩
    · rintro _ ⟨⟩
    · rintro _ _ ⟨⟩ hsome hconn hshut hsub hunsub
      exact hheld hsome ⟨hconn, hshut, rfl, hsub, hunsub⟩
    · rintro _ _ ⟨⟩ hnone hconn hshut hsub hunsub
      exact hfree hnone ⟨hconn, hshut, rfl, hsub, hunsub⟩

/-- In no other round is intake looked at for the last time. -/
theorem wakes_other (hconn : poll ≠ .packet .connAck) (hpub : ∀ pkid, poll ≠ .packet (.pubAck pkid))
    (hunsub : ∀ topic reasons, poll ≠ .packet (.unsubAck topic reasons)) : Wakes h poll ambient :=
  ⟨fun h => absurd h hconn, fun _ h => absurd h (hpub _), fun _ _ h => absurd h (hunsub _ _), fun _ _ h => absurd h (hunsub _ _)⟩

/-- An answer changes the agent alone. -/
theorem Attentive.answered (hk : Attentive h) (hdriver : h₁.driver = h.driver)
    (hout : h₁.agent.state.outbox = [] → h.agent.state.outbox = []) : Attentive h₁ :=
  hk.keep (by rw [hdriver]) (by rw [hdriver]) (by rw [hdriver]) ⟨by rw [hdriver], by rw [hdriver]⟩ hout

/-- A delivery that is answered at once adds to the outbox. -/
theorem Attentive.acked {delivery : CommandDelivery} {reply : Reply} (hg : h.Good pki) (hk : Attentive h)
    (hask : ask pki ambient (commandCall wire ambient delivery) (h.observes delivery) = (.ok reply, h₁))
    (hreply : reply ≠ .outcome .accepted) (token : Option String) : Attentive (h₁.acks delivery token) := by
  have hobserved : Attentive (h.observes delivery) := by
    unfold Host.observes
    split_ifs
    · exact hk.keep rfl rfl rfl ⟨rfl, rfl⟩ id
    · exact hk
  have hgo : (h.observes delivery).Good pki := hg.congr (observes_tree _ _) (observes_agent _ _)
  have hc := hgo.ask hask
  obtain ⟨d, hd, -, -⟩ := commandCall_delivery wire ambient delivery
  obtain ⟨new, hnew, -⟩ := ((hc.answers.delivery hgo.coherent hd).other hreply).outbox
  have hanswered : Attentive h₁ := hobserved.answered hc.driver fun hempty => by
    rw [hnew, List.append_eq_nil_iff] at hempty
    exact hempty.1
  exact hanswered.keep rfl rfl rfl ⟨rfl, rfl⟩ id

/-- **A handler leaves the session attentive exactly when intake is not looked at for the last time in vain.** -/
theorem Handled.attentive_iff {p : Packet} {session : MqttSession} (hg : h.Good pki) (hk : Attentive h)
    (hpolls : MqttSession.Polls wire h.driver.session p event session)
    (hh : Handled pki wire ambient (h.polled p event session) event h' .proceed) :
    Attentive h' ↔ Wakes h (.packet p) ambient := by
  have hg' : (h.polled p event session).Good pki := hg.polled _ _ _
  cases hh with
  | connected hmark hlisten =>
    cases hpolls
    have hspares := hmark.spares (hg'.set _)
    have hiff := hlisten.attentive_iff hspares.good.coherent.consistent (by rw [hspares.driver]; rfl)
    rw [hspares.opens_iff, hspares.driver] at hiff
    exact hiff.trans (wakes_connAck (h := h)).symm
  | subscribed =>
    cases hpolls
    refine iff_of_true ⟨fun h => (by cases h), fun hu => by cases hu.inactive⟩ (wakes_other ?_ ?_ ?_)
    all_goals simp
  | held hask hhold =>
    cases hpolls
    refine iff_of_true ?_ (wakes_other ?_ ?_ ?_)
    · exact (attentive_unsubscribes _ _).keep rfl rfl rfl ⟨rfl, rfl⟩ id
    all_goals simp
  | acked hask hreply hopen hshut =>
    cases hpolls
    refine iff_of_true ?_ (wakes_other ?_ ?_ ?_)
    · exact Attentive.acked hg' (hk.keep rfl rfl rfl ⟨rfl, rfl⟩ id) hask hreply _
    all_goals simp
  | confirmed hpending hask hnext =>
    cases hpolls
    have hc := (hg'.set _).ask hask
    obtain ⟨hjournal, hdrained⟩ := hc.confirms (hg'.set _)
    have hdriver := hc.driver
    rename_i h₁
    have hiff := hnext.attentive_iff hc.good.coherent.consistent (by rw [hdriver]; exact hk.ending)
    refine hiff.trans (Iff.trans ?_ wakes_pubAck.symm)
    unfold Opens
    rw [hdriver, hdrained]
    constructor
    · intro hopens hu hlen
      exact (hopens ⟨hu.connected, hu.running, hu.inactive, hu.subscribing, hu.unsubscribing⟩ hlen).congr hjournal.symm
    · intro hspare hu hlen
      exact (hspare ⟨hu.connected, hu.running, hu.inactive, hu.subscribing, hu.unsubscribing⟩ hlen).congr hjournal
  | released hheld =>
    cases hpolls
    have hheld' : h.driver.state.pendingCommandAck = _ := hheld
    rw [wakes_unsubAck, hheld']
    constructor
    · intro hk'
      refine ⟨fun _ hu => hk'.waiting ⟨hu.connected, hu.running, rfl, hu.subscribing, hu.unsubscribing⟩, fun h => by cases h⟩
    · rintro ⟨hsome, -⟩
      exact ⟨fun h => (by cases h), fun hu => hsome (by simp) ⟨hu.connected, hu.running, rfl, hu.subscribing, hu.unsubscribing⟩⟩
  | unsubscribed hheld habsent hnext =>
    cases hpolls
    have hheld' : h.driver.state.pendingCommandAck = none := hheld
    have hspares := habsent.spares (hg'.set _)
    have hiff := hnext.attentive_iff hspares.good.coherent.consistent (by rw [hspares.driver]; rfl)
    rw [hspares.opens_iff] at hiff
    rw [wakes_unsubAck]
    exact hiff.trans ⟨fun hopens => ⟨fun hsome => absurd hheld' hsome, fun _ => hopens⟩, fun hboth => hboth.2 hheld'⟩
  | inboundOther =>
    cases hpolls
    refine iff_of_true (hk.keep rfl rfl rfl ⟨rfl, rfl⟩ id) (wakes_other ?_ ?_ ?_)
    all_goals simp
  | inboundSettled hask hcontrol =>
    cases hpolls
    have hc := hg'.ask hask
    obtain ⟨p, -, -, hs'⟩ := hc.answers.settle
    refine iff_of_true ?_ (wakes_other ?_ ?_ ?_)
    · refine Attentive.answered ?_ hc.driver fun hempty => ?_
      · exact hk.keep rfl rfl rfl ⟨rfl, rfl⟩ id
      · rw [hs'] at hempty
        exact hempty
    all_goals simp
  | progress =>
    cases hpolls with
    | published hawaiting =>
      refine iff_of_true (hk.keep rfl rfl rfl ⟨rfl, rfl⟩ id) (wakes_other ?_ ?_ ?_)
      all_goals simp
    | other =>
      refine iff_of_true (hk.keep rfl rfl rfl ⟨rfl, rfl⟩ id) (wakes_other ?_ ?_ ?_)
      all_goals simp

theorem Stops.attentive (hk : Attentive h) (hs : Stops h h') : Attentive h' := by
  cases hs with
  | unsubscribe hcan => exact attentive_unsubscribes _ _
  | wait => exact ⟨hk.ending, fun hu => by cases hu.running⟩

/-- **A round that goes on leaves the session attentive exactly when it wakes.** -/
theorem Rounds.attentive_iff (hg : h.Good pki) (hk : Attentive h) (hr : Rounds pki wire ambient h poll (.ok none) h') :
    Attentive h' ↔ Wakes h poll ambient := by
  cases hr with
  | handled hpoll hhandled hhead =>
    exact hhead.attentive_iff.trans (hhandled.attentive_iff hg hk (MqttSession.poll_cases hpoll))
  | stopping hstop hhead =>
    refine iff_of_true (hhead.attentive_iff.2 (hstop.attentive hk)) (wakes_other ?_ ?_ ?_)
    all_goals simp
  | nothing hpoll =>
    exact iff_of_true hk (wakes_other (hpoll _) (fun _ => hpoll _) fun _ _ => hpoll _)

end Rounds

/-! ### Every run -/

section Runs

variable {pki : Pki} {wire : Wire}

theorem attentive_inductive : Inductive pki wire Wakes (fun _ _ => True) Attentive where
  fresh := trivial
  first _ _ := trivial
  ended _ _ := trivial
  opened {h readable} _ hcreate _ := by
    obtain ⟨tree, a, driver, deeds⟩ := h
    dsimp only at hcreate
    obtain ⟨identity, recoveryCommand, -, -, rfl⟩ := create_cases hcreate
    exact ⟨trivial, fun h => (by cases h), fun hu => by cases hu.connected⟩
  round hg _ hk hE hr := by
    refine ⟨trivial, fun ho => ?_⟩
    subst ho
    exact (hr.attentive_iff hg hk).2 hE

/-- Connected, with no shutdown and no rotation, and with nothing to wait for. -/
structure AtEase (a : Running) (d : SessionDriver) : Prop where
  connected : d.state.connection = .connected
  running : d.state.shutdownDeadline = false
  settled : a.rotationInFlight = false
  drained : a.state.outbox = []
  unpublished : d.state.publish = .idle
  subscribing : d.session.subscribing = 0
  unsubscribing : d.session.unsubscribing = []
  unheld : d.state.pendingCommandAck = none

/-- **A device that does not go deaf.** -/
theorem never_deaf {inputs : List Input} (hE : Along pki wire Wakes inputs) (a : Running) (d : SessionDriver)
    (ha : (Process.fresh.run pki wire inputs).device.agent = some a)
    (hstage : (Process.fresh.run pki wire inputs).stage = .session d) (hease : AtEase a d) :
    ∀ now, a.commandIntakeOpen now = true → d.state.subscription = .active := by
  intro now _
  have hk : Attentive (Process.host _ a d) := (attentive_inductive.run hE).session a d ha hstage
  rcases hsub : d.state.subscription with _ | _ | _
  · have hu : Unsubscribed d := ⟨hease.connected, hease.running, hsub, hease.subscribing, hease.unsubscribing⟩
    exact absurd hease.drained (hk.waiting hu)
  · rfl
  · exact absurd hease.unsubscribing (hk.ending hsub)

end Runs

/-! ### A journal that fills -/

namespace Fixture

open Agent.Fixture

variable {E : Broker} {inputs : List Input} {deeds : List Deed} {n : ℕ} {outbox : List StoredOutbound}
  {sub : SubscriptionState}

/-- The session while an acknowledgement is on its way, with or without its subscription. -/
def draining (sub : SubscriptionState) (n : ℕ) : SessionDriver :=
  { answering n with state := { (answering n).state with subscription := sub } }

/-- The session with nothing on its way. -/
def eased (sub : SubscriptionState) : SessionDriver := { listening with state := { listening.state with subscription := sub } }

/-- The session that holds the last of the deliveries. -/
def withholding (n : ℕ) : SessionDriver where
  session := { opened.session with unsubscribing := [topic], inflight := 1 }
  sessionIdentity := identity one
  recoveryCommand := none
  state := { connection := .connected, subscription := .unsubscribing, pendingCommandAck := some (badDelivery n, none) }

theorem journalEntry_kept (n : ℕ) : now < (journalEntry n).retainUntilEpochSeconds := Nat.lt_add_of_pos_right (by decide)

/-- With all of them in it the journal is full, -/
theorem resting_full (hn : 1024 ≤ n) : Running.commandIntakeOpen ⟨resting n outbox, retention⟩ now = false := by
  refine intakeOpen_full ?_ ?_
  · simpa [resting, commandJournalLimit] using hn
  · intro c hc
    obtain ⟨k, -, rfl⟩ := List.mem_map.1 hc
    exact journalEntry_kept k

/-- until the retentions run out. -/
theorem resting_spare (hn : 0 < n) : Spare (resting n outbox) (now + 300) :=
  .inr ⟨journalEntry 0, List.mem_map_of_mem (List.mem_range.2 hn), le_rfl⟩

theorem at_ease : AtEase ⟨resting n [], retention⟩ (eased sub) :=
  ⟨rfl, rfl, rotationInFlight_drained rfl, rfl, rfl, rfl, rfl, rfl⟩

theorem resting_confirmed : (resting (n + 1) [rejectionEntry n]).confirmed (rejectionEntry n) = resting (n + 1) [] := by
  have hack : ((rejection n).acknowledgement (n + 1)).activatesRevision = none := rfl
  simp only [StateV1.confirmed, resting, rejectionEntry, StoredOutbound.ackPayload, StoredOutbound.isReportReady, Option.bind_some,
    hack, List.eraseP_cons, decide_true, cond_true]
  rfl

/-- The acknowledgement is confirmed. -/
theorem ask_confirm {h : Host} (hg : h.Good Agent.Fixture.pki)
    (hagent : h.agent = ⟨resting (n + 1) [rejectionEntry n], retention⟩) :
    ∃ tree, ask Agent.Fixture.pki ambient (.confirmOutbound (badFact n).eventId) h =
      (.ok .done, h.asked (.confirmOutbound (badFact n).eventId) ⟨tree, resting (n + 1) []⟩
        [.answered (.confirmOutbound (badFact n).eventId) .done (resting (n + 1) [])]) := by
  have hmem : rejectionEntry n ∈ (resting (n + 1) [rejectionEntry n]).outbox := List.mem_singleton_self _
  rw [← resting_confirmed]
  exact ask_confirms hg hagent hmem rfl fun h => by cases h

/-- The sessions on the way: the PUBACK has left, -/
def flushed (sub : SubscriptionState) (n : ℕ) : SessionDriver :=
  { draining sub n with session := { (draining sub n).session with inboundAcknowledgements := [], inflight := 0 } }

/-- and the publication has its packet identifier. -/
def sent (sub : SubscriptionState) (n : ℕ) : SessionDriver :=
  { flushed sub n with session := { (flushed sub n).session with
    awaitingPacketId := [], packetEvents := [(1, (badFact n).eventId)] } }

/-- What follows a delivery: its PUBACK leaves, and its acknowledgement is published. -/
def carry (inputs : List Input) : List Input := inputs ++ [packet (.sentPubAck 1)] ++ [packet (.sentPublish 1)]

/-- The PUBACK leaves, and the acknowledgement has its packet identifier. -/
theorem At.carries (hat : At E inputs (resting (n + 1) [rejectionEntry n]) (draining sub n) deeds)
    (hE : ∀ h p, Allowed h (.packet p) ambient → p = .sentPubAck 1 ∨ p = .sentPublish 1 → E h (.packet p) ambient) :
    ∃ new, At E (carry inputs) (resting (n + 1) [rejectionEntry n]) (sent sub n) (deeds ++ new) := by
  have hflushed : At E (inputs ++ [packet (.sentPubAck 1)]) (resting (n + 1) [rejectionEntry n]) (flushed sub n)
      (deeds ++ [.polled (.sentPubAck 1) (.inboundAcknowledged none)]) :=
    hat.proceeds (fun _ => hE _ _ (allowed_acknowledgement rfl (.inl rfl)) (.inl rfl)) rfl fun tree _ =>
      ⟨tree, _, .inboundOther, head_quiet rfl fun h => by cases h⟩
  have hsent : At E (carry inputs) (resting (n + 1) [rejectionEntry n]) (sent sub n)
      (deeds ++ [.polled (.sentPubAck 1) (.inboundAcknowledged none)] ++ [.polled (.sentPublish 1) .transportProgress]) :=
    hflushed.proceeds (fun _ => hE _ _ (allowed_acknowledgement rfl (.inr (.inl rfl))) (.inr rfl)) rfl fun tree _ =>
      ⟨tree, _, .progress, head_quiet rfl fun h => by cases h⟩
  exact ⟨_, List.append_assoc deeds _ _ ▸ hsent⟩

theorem poll_sent : (sent sub n).session.poll wire (.pubAck 1) = .ok (.outboundAcknowledged (badFact n).eventId, opened.session) :=
  rfl

/-- It is confirmed, and the subscription stays as it is. -/
theorem At.drains (hat : At E inputs (resting (n + 1) [rejectionEntry n]) (sent sub n) deeds)
    (hE : ∀ tree, E ⟨tree, ⟨resting (n + 1) [rejectionEntry n], retention⟩, sent sub n, deeds⟩ (.packet (.pubAck 1)) ambient)
    (hclosed : sub = .inactive → 1024 ≤ n + 1) :
    ∃ deeds', At E (inputs ++ [packet (.pubAck 1)]) (resting (n + 1) []) (eased sub) deeds' := by
  have hconfirmed : At E (inputs ++ [packet (.pubAck 1)]) (resting (n + 1) []) (eased sub)
      (deeds ++ [.polled (.pubAck 1) (.outboundAcknowledged (badFact n).eventId)] ++
        [.asked (.confirmOutbound (badFact n).eventId) (resting (n + 1) [rejectionEntry n]),
          .answered (.confirmOutbound (badFact n).eventId) .done (resting (n + 1) [])]) := by
    refine hat.proceeds hE poll_sent fun tree hg => ?_
    obtain ⟨tree', hask⟩ := ask_confirm ((hg.polled (.pubAck 1) (.outboundAcknowledged (badFact n).eventId) opened.session).set
      fun s => { s with publish := .idle }) rfl
    refine ⟨tree', _, .confirmed rfl hask (.idle rfl fun hsub _ => ?_), head_quiet rfl fun _ => rfl⟩
    exact resting_full (hclosed hsub)
  exact ⟨_, hconfirmed⟩

/-- The delivery that fills the journal is held. -/
theorem At.withholds (hn : n < 1024) (hfull : 1024 ≤ n + 1) (hat : At E inputs (resting n []) listening deeds)
    (hE : ∀ tree, E ⟨tree, ⟨resting n [], retention⟩, listening, deeds⟩ (.packet (.publish (badDelivery n).publish)) ambient) :
    At E (inputs ++ [packet (.publish (badDelivery n).publish)]) (resting (n + 1) [rejectionEntry n]) (withholding n)
      (deeds ++ [.polled (.publish (badDelivery n).publish) (.command (badDelivery n))] ++ [.asked (badCall n) (resting n []),
        .answered (badCall n) (.outcome (.rejected .malformedCommand)) (resting (n + 1) [rejectionEntry n])] ++
        [.queued (.unsubscribe topic)]) := by
  refine hat.proceeds hE (poll_publish [] (if_pos (by decide))) fun tree hg => ?_
  obtain ⟨tree', hask⟩ := ask_malformed hn (hg.polled (.publish (badDelivery n).publish) (.command (badDelivery n))
    { listening.session with inflight := 1 }) rfl
  rw [← badCall, ← commandCall_bad] at hask
  refine ⟨tree', _, .held hask (.inr (.inl (resting_full hfull))), ?_⟩
  rw [commandCall_bad]
  exact head_quiet rfl fun h => by cases h

/-- It is released when the subscription has ended, and its acknowledgement published. -/
theorem At.lets (hat : At E inputs (resting (n + 1) [rejectionEntry n]) (withholding n) deeds)
    (hE : ∀ tree, E ⟨tree, ⟨resting (n + 1) [rejectionEntry n], retention⟩, withholding n, deeds⟩
      (.packet (.unsubAck topic [.success])) ambient) :
    At E (inputs ++ [packet (.unsubAck topic [.success])]) (resting (n + 1) [rejectionEntry n]) (draining .inactive n)
      (deeds ++ [.polled (.unsubAck topic [.success]) .unsubscribed] ++ [.queued (.ack (badDelivery n))] ++
        [.queued (.publish (commandAcknowledgedTopic (identity one)) (badFact n) (factPayload (identity one) (badFact n)))]) := by
  have hpoll : (withholding n).session.poll wire (.unsubAck topic [.success]) =
      .ok (.unsubscribed, { (withholding n).session with unsubscribing := [] }) := poll_unsubAck rfl
  exact hat.proceeds hE hpoll fun tree _ => ⟨tree, _, .released rfl, head_publishes rfl rfl rfl rfl⟩

/-- Then it is confirmed. -/
def drain (inputs : List Input) : List Input := carry inputs ++ [packet (.pubAck 1)]

/-- So many commands that do not decode, one after the other. -/
def flood : ℕ → List Input
  | 0 => listen
  | n + 1 => drain (flood n ++ [packet (.publish (badDelivery n).publish)])

/-- They come and go while the session has its subscription. -/
theorem at_flood (hE : ∀ h p, Allowed h (.packet p) ambient → Wakes h (.packet p) ambient → E h (.packet p) ambient)
    (hn : n < 1024) : ∃ deeds, At E (flood n) (resting n []) listening deeds := by
  induction n with
  | zero =>
    refine ⟨_, at_listens (fun h hagent ha => hE _ _ ha ?_) fun h codes ha => hE _ _ ha ?_⟩
    · refine wakes_connAck.2 fun _ _ _ => .inl ?_
      show h.agent.state.commandJournal.length < _
      rw [hagent]
      decide
    · exact wakes_other (by simp) (by simp) (by simp)
  | succ n ih =>
    obtain ⟨deeds, hat⟩ := ih (Nat.lt_of_succ_lt hn)
    have hanswered : At E _ _ (draining .active n) _ := hat.answers hn fun _ =>
      hE _ _ (allowed_publish rfl rfl) (wakes_other (by simp) (by simp) (by simp))
    obtain ⟨deeds', hsent⟩ := hanswered.carries fun h p ha hp => hE _ _ ha (by
      rcases hp with rfl | rfl <;> exact wakes_other (by simp) (by simp) (by simp))
    refine hsent.drains (fun _ => hE _ _ (allowed_acknowledgement rfl (.inr (.inr rfl))) ?_) fun h => by cases h
    exact wakes_pubAck.2 fun hu _ => by cases hu.inactive

/-- The last of them fills the journal, and is released when its subscription has ended. -/
def filling : List Input :=
  carry (flood 1023 ++ [packet (.publish (badDelivery 1023).publish)] ++ [packet (.unsubAck topic [.success])])

theorem at_filling (hE : ∀ h p, Allowed h (.packet p) ambient → Wakes h (.packet p) ambient → E h (.packet p) ambient) :
    ∃ deeds, At E filling (resting 1024 [rejectionEntry 1023]) (sent .inactive 1023) deeds := by
  obtain ⟨deeds, hflood⟩ := at_flood (n := 1023) hE (by decide)
  have hheld := hflood.withholds (by decide) (by decide) fun _ =>
    hE _ _ (allowed_publish rfl rfl) (wakes_other (by simp) (by simp) (by simp))
  have hlet := hheld.lets fun _ => hE _ _ (allowed_unsubAck rfl (List.mem_singleton_self _))
    (wakes_unsubAck.2 ⟨fun _ _ h => (by cases h), fun h => by cases h⟩)
  obtain ⟨new, hcarried⟩ := hlet.carries fun h p ha hp => hE _ _ ha (by
    rcases hp with rfl | rfl <;> exact wakes_other (by simp) (by simp) (by simp))
  exact ⟨_, hcarried⟩

/-- Its acknowledgement is confirmed at once, -/
def deafening : List Input := filling ++ [packet (.pubAck 1)]

/-- The clock has passed the retentions. -/
def afterwards : Ambient := ⟨now + 300, now + 300, catalog 0, clean, true⟩

/-- or when the retentions have run out. -/
def reviving : List Input :=
  filling ++ [.turn (.packet (.pubAck 1)) afterwards] ++ [packet (.subAck [.success .atLeastOnce])]

/-- Then the subscription comes back. -/
theorem At.revives (hat : At E inputs (resting (n + 1) [rejectionEntry n]) (sent .inactive n) deeds)
    (hpubAck : ∀ tree, E ⟨tree, ⟨resting (n + 1) [rejectionEntry n], retention⟩, sent .inactive n, deeds⟩ (.packet (.pubAck 1))
      afterwards)
    (hsubAck : ∀ h, Allowed h (.packet (.subAck [.success .atLeastOnce])) ambient →
      E h (.packet (.subAck [.success .atLeastOnce])) ambient) :
    ∃ deeds', At E (inputs ++ [.turn (.packet (.pubAck 1)) afterwards] ++ [packet (.subAck [.success .atLeastOnce])])
      (resting (n + 1) []) listening deeds' := by
  have hconfirmed : At E (inputs ++ [.turn (.packet (.pubAck 1)) afterwards]) (resting (n + 1) [])
      { opened with session := { opened.session with subscribing := 1 }, state := { connection := .connected } }
      (deeds ++ [.polled (.pubAck 1) (.outboundAcknowledged (badFact n).eventId)] ++
        [.asked (.confirmOutbound (badFact n).eventId) (resting (n + 1) [rejectionEntry n]),
          .answered (.confirmOutbound (badFact n).eventId) .done (resting (n + 1) [])] ++ [.queued (.subscribe topic)]) := by
    refine hat.turns rfl hpubAck poll_sent fun tree hg => ?_
    have hg' := (hg.polled (.pubAck 1) (.outboundAcknowledged (badFact n).eventId) opened.session).set fun s =>
      { s with publish := .idle }
    obtain ⟨tree', hask⟩ := ask_confirm hg' rfl
    have hopen : Running.commandIntakeOpen ⟨resting (n + 1) [], retention⟩ (now + 300) = true :=
      (intakeOpen_iff_spare (hg'.ask hask).good.coherent.consistent rfl).2 (resting_spare (Nat.succ_pos n))
    exact ⟨tree', _, .confirmed rfl hask (.subscribe rfl rfl rfl hopen), head_quiet rfl fun _ => rfl⟩
  exact ⟨_, hconfirmed.subscribes (fun _ => hsubAck _ (allowed_subAck rfl Nat.one_pos)) rfl rfl⟩

end Fixture

open Fixture Agent.Fixture in
/-- 1024 commands that do not decode fill the journal, and the subscription ends with the last of them.  Its acknowledgement
is confirmed when the retention has run out: the subscription comes back. -/
theorem never_deaf_revived :
    (∃ a, (run filling).device.agent = some a ∧ a.commandIntakeOpen now = false) ∧
    ∃ a d, (run reviving).device.agent = some a ∧ (run reviving).stage = .session d ∧ AtEase a d ∧
      a.commandIntakeOpen (now + 300) = true ∧ d.state.subscription = .active := by
  obtain ⟨deeds, hfilling⟩ := at_filling (E := Wakes) fun _ _ _ hw => hw
  obtain ⟨deeds', hreviving⟩ : ∃ deeds', At Wakes reviving (resting 1024 []) listening deeds' :=
    hfilling.revives (fun _ => wakes_pubAck.2 fun _ _ => resting_spare (by decide)) fun _ _ =>
      wakes_other (by simp) (by simp) (by simp)
  obtain ⟨tree, hs⟩ := hfilling
  obtain ⟨tree', hs'⟩ := hreviving
  have hopen : Running.commandIntakeOpen ⟨resting 1024 [], retention⟩ (now + 300) = true :=
    (intakeOpen_iff_spare hs'.good.coherent.consistent rfl).2 (resting_spare (by decide))
  have hease : AtEase ⟨resting 1024 [], retention⟩ listening := at_ease
  have hagent : (run reviving).device.agent = some ⟨resting 1024 [], retention⟩ := by
    rw [run, hs'.run]
    rfl
  have hstage : (run reviving).stage = .session listening := by rw [run, hs'.run]
  unfold run at hagent hstage ⊢
  refine ⟨⟨⟨resting 1024 [rejectionEntry 1023], retention⟩, ?_, resting_full le_rfl⟩, _, _, hagent, hstage, hease, hopen,
    never_deaf hs'.along _ _ hagent hstage hease (now + 300) hopen⟩
  rw [hs.run]
  rfl

open Fixture Agent.Fixture in
/-- **What the clock does not wake.**  1024 commands that do not decode fill the journal; the subscription ends with the
last of them, and its acknowledgement is confirmed while the journal is full.  When the retention has run out intake is
open, and the device has no subscription and nothing to wait for. -/
theorem device_deafened : Along Agent.Fixture.pki Fixture.wire Allowed deafening ∧
    ∃ a d, (run deafening).device.agent = some a ∧ (run deafening).stage = .session d ∧ AtEase a d ∧
      a.commandIntakeOpen (now + 300) = true ∧ d.state.subscription ≠ .active := by
  unfold deafening
  obtain ⟨deeds, hfilling⟩ := at_filling (E := Allowed) fun _ _ ha _ => ha
  obtain ⟨deeds', tree, hs⟩ := hfilling.drains (fun _ => allowed_acknowledgement rfl (.inr (.inr rfl))) fun _ => by decide
  have hopen := (intakeOpen_iff_spare hs.good.coherent.consistent rfl).2 (resting_spare (Nat.succ_pos 1023))
  refine ⟨hs.along, ?_⟩
  unfold run
  rw [hs.run]
  exact ⟨_, _, rfl, rfl, at_ease, hopen, fun h => by cases h⟩

end RssIncubator.Driver
