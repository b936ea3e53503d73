import RssIncubator.Agent.Drain
import RssIncubator.Driver.Puback
import RssIncubator.Driver.Rotation

/-!
# The new credential before the report

A report waits in the document for two things: the PUBACK of its command's acknowledgement, and a session that was
opened with the credential it reports.  `Trail` says that the deeds know where the reports of the document come from,
`Recalls` that the session which is open remembers the document it was opened on.
-/

namespace RssIncubator.Driver

open Agent Lib StateV1 StoredOutbound

/-! ### Reports and the marker under a change -/

section

variable {pki : Pki} {retention : NonZeroU32} {s s' : StateV1} {call : Call} {reply : Reply}

theorem mem_blocked_or_ready {o : StoredOutbound} (ho : o ∈ s.outbox) {r : StoredReport} (hr : r ∈ o.reportPayload) :
    r ∈ s.blocked ∨ r ∈ s.ready := by
  cases o with
  | ack e a => cases hr
  | reportBlocked e r' => exact .inl (mem_blocked.2 ⟨_, ho, hr⟩)
  | reportReady e r' => exact .inr (mem_ready.2 ⟨_, ho, hr⟩)

/-- Only the acknowledgement of the command of the report ends the wait for it. -/
theorem acknowledged_event (hs : s.Coherent) {event : String} (hconfirm : s.confirmOutbound event = some s')
    (hs' : s'.Coherent) (hphase : s.phase = .awaitAck) (hphase' : s'.phase ≠ .awaitAck) {o : StoredOutbound}
    (ho : o ∈ s.outbox) {r : StoredReport} (hr : r ∈ o.reportPayload) : event = Agent.eventId .ack r.commandId := by
  have hin := hs.inPhase
  rw [hphase] at hin
  obtain ⟨r₀, a, hblocked, hready, hact, -, -, hrec, -⟩ := hin
  obtain rfl : r = r₀ := by
    rcases mem_blocked_or_ready ho hr with hmem | hmem
    · rw [hblocked] at hmem
      exact List.mem_singleton.1 hmem
    · rw [hready] at hmem
      cases hmem
  have hturn := hs.turn_confirm hconfirm hs'
  have hin' := hs'.inPhase
  obtain ⟨entry, hentry, rfl, -, rfl⟩ := confirmOutbound_eq_some hconfirm
  by_cases hpay : entry.activatingPayload = none
  · -- the marker is set by an acknowledgement that activates a revision
    exfalso
    have hnone : (s.confirmed entry).reconnectRevision = none := by
      cases entry with
      | ack e a' =>
        have hno : a'.activatesRevision = none := by
          simpa [activatingPayload, ackPayload, Option.filter_eq_none_iff] using hpay
        simp [confirmed, ackPayload, hno, hrec]
      | reportBlocked e r' => simp [confirmed, ackPayload, hrec]
      | reportReady e r' => simp [confirmed, ackPayload, hrec]
    rw [hphase] at hturn
    generalize (s.confirmed entry).phase = phase at hturn hin' hphase'
    cases hturn with
    | keep => exact hphase' rfl
    | acknowledged =>
      obtain ⟨-, -, -, -, hsome, -⟩ := hin'
      rw [hnone] at hsome
      cases hsome
  · obtain ⟨r', hr', he⟩ := hs.activating_eventId hentry hpay
    rw [hblocked, List.mem_singleton] at hr'
    rw [he, hr']

/-- A report that a change leaves was there before, or is that of the command it accepts. -/
theorem commits_reports (h : Commits pki retention call s s' reply) (hs : s.Coherent) {o : StoredOutbound}
    (ho : o ∈ s'.outbox) {r : StoredReport} (hr : r ∈ o.reportPayload) :
    ((∃ o ∈ s.outbox, r ∈ o.reportPayload) ∧ (s'.phase ≠ .awaitAck →
      s.phase ≠ .awaitAck ∨ call = .confirmOutbound (Agent.eventId .ack r.commandId))) ∨
    s'.phase = .awaitAck ∧ s.rotationInFlight = false ∧ r.credentialRevision = s.current.credentialRevision + 1 ∧
      ∃ topic command now catalog, call = .applyCommand topic command now catalog ∧ command.commandId.expose = r.commandId := by
  have hturn := h.turn hs
  have hs' := h.coherent hs
  -- outside the acceptance only a confirmation leaves the first phase
  have stays : (∀ event, call ≠ .confirmOutbound event) → s'.phase ≠ .awaitAck → s.phase ≠ .awaitAck := by
    intro hcall hphase' hphase
    rw [hphase] at hturn
    generalize s'.phase = phase at hturn hphase'
    cases hturn with
    | keep => exact hphase' rfl
    | acknowledged => exact hcall _ rfl
  have of_ack : ∀ {e a}, s'.outbox = s.outbox ++ [.ack e a] → ∃ o ∈ s.outbox, r ∈ o.reportPayload := by
    intro e a hout
    rw [hout, List.mem_append, List.mem_singleton] at ho
    rcases ho with ho | rfl
    · exact ⟨o, ho, hr⟩
    · cases hr
  obtain ⟨dec, hp, hcand, -⟩ := h
  cases plan_cases hs.consistent hp with
  | duplicate hd hm hack => cases hcand
  | replay hd hm hack hroom hfind =>
    cases hcand
    exact .inl ⟨of_ack rfl, fun hphase' => .inl (stays (by rintro e rfl; cases hd) hphase')⟩
  | conflicting hd hm hknown => cases hcand
  | conflict hd hm hknown hroom hgen hfence =>
    cases hcand
    exact .inl ⟨of_ack rfl, fun hphase' => .inl (stays (by rintro e rfl; cases hd) hphase')⟩
  | reject hd hm hgen hfence hexpiry hroom hjournal =>
    cases hcand
    exact .inl ⟨of_ack rfl, fun hphase' => .inl (stays (by rintro e rfl; cases hd) hphase')⟩
  | accept hm hflight hid htopic hdevice hdeadline hres hfence hgen hcred hroom hjournal hrev =>
    cases hcand
    have hrec : s.reconnectRevision = none := (hs.phase_idle hflight).2.2.2.2
    refine .inr ⟨phase_accepted hrec, hflight, ?_⟩
    simp only [StateV1.accepted, List.mem_append, List.mem_cons, List.not_mem_nil, or_false] at ho
    rcases ho with ho | rfl | rfl
    · exact absurd hr (by rw [rotationInFlight_eq_false.1 hflight o ho]; simp)
    · cases hr
    · cases hr
      exact ⟨hrev, _, _, _, _, rfl, rfl⟩
  | confirm h =>
    cases hcand
    obtain ⟨entry, hentry, he, -, hconf⟩ := confirmOutbound_eq_some h
    have ho' : o ∈ s.outbox := by
      rw [hconf] at ho
      exact List.mem_of_mem_eraseP ho
    refine .inl ⟨⟨o, ho', hr⟩, fun hphase' => ?_⟩
    by_cases hphase : s.phase = .awaitAck
    · exact .inr (congrArg Call.confirmOutbound (acknowledged_event hs h hs' hphase hphase' ho' hr))
    · exact .inl hphase
  | reconnect h =>
    cases hcand
    obtain ⟨-, rfl⟩ := markReconnected_eq_some.1 h
    obtain ⟨o', ho', rfl⟩ := List.mem_map.1 ho
    exact .inl ⟨⟨o', ho', by cases o' <;> exact hr⟩, fun hphase' => .inl (stays (fun _ h => by cases h) hphase')⟩
  | settled h =>
    cases hcand
    obtain ⟨p, -, -, rfl⟩ := markInboundSettled_eq_some h
    exact .inl ⟨⟨o, ho, hr⟩, fun hphase' => .inl (stays (fun _ h => by cases h) hphase')⟩
  | absent h =>
    cases hcand
    obtain ⟨p, -, -, rfl⟩ := markInboundSettled_eq_some h
    exact .inl ⟨⟨o, ho, hr⟩, fun hphase' => .inl (stays (fun _ h => by cases h) hphase')⟩

/-- Nothing but the CONNACK of a session clears the marker or releases a report. -/
theorem Answers.waits (h : Answers pki retention call s s' reply) (hs : s.Coherent)
    (hcall : ∀ revision, call ≠ .markCurrentCredentialConnected revision) :
    (∀ n, s.reconnectRevision = some n → s'.reconnectRevision = some n) ∧ ∀ r ∈ s'.ready, r ∈ s.ready := by
  have delivered : ∀ {d}, call.delivery = some d →
      (∀ n, s.reconnectRevision = some n → s'.reconnectRevision = some n) ∧ ∀ r ∈ s'.ready, r ∈ s.ready := by
    intro d hd
    have hdel := h.delivery hs hd
    have hkeeps : s'.reconnectRevision = s.reconnectRevision ∧ ∃ new, s'.outbox = s.outbox ++ new ∧
        ∀ o ∈ new, o.readyPayload = none := by
      by_cases hreply : reply = .outcome .accepted
      · have hacc := hdel.accepted hreply
        obtain ⟨ack, report, e, e', hout, -, -⟩ := hacc.outbox
        exact ⟨hacc.reconnectRevision, _, hout, by simp [readyPayload]⟩
      · have hnote := hdel.other hreply
        obtain ⟨new, hout, hnew⟩ := hnote.outbox
        refine ⟨hnote.reconnectRevision, new, hout, fun o ho => ?_⟩
        have := hnew o ho
        cases o <;> simp_all [reportPayload, readyPayload]
    obtain ⟨hrec, new, hout, hnew⟩ := hkeeps
    refine ⟨fun n hn => hrec.trans hn, fun r hr => ?_⟩
    obtain ⟨o, ho, hor⟩ := mem_ready.1 hr
    rw [hout, List.mem_append] at ho
    rcases ho with ho | ho
    · exact mem_ready.2 ⟨o, ho, hor⟩
    · rw [hnew o ho] at hor
      cases hor
  cases call with
  | applyCommand topic command now catalog => exact delivered rfl
  | rejectMalformedDelivery topic commandId payload now => exact delivered rfl
  | confirmOutbound event =>
    obtain ⟨entry, hentry, -, -, rfl⟩ := h.confirm
    refine ⟨fun n hn => ?_, fun r hr => ?_⟩
    · cases entry with
      | ack e a =>
        -- an acknowledgement that activates a revision waits without a marker
        have hno : a.activatesRevision = none := by
          by_contra hact
          obtain ⟨-, hnone, -⟩ := hs.consistent.activating_blocked
            (mem_activating.2 ⟨_, hentry, rfl, Option.isSome_iff_ne_none.2 hact⟩)
          rw [hn] at hnone
          cases hnone
        simp [confirmed, ackPayload, hno, hn]
      | reportBlocked e r => simp [confirmed, ackPayload, hn]
      | reportReady e r => simp [confirmed, ackPayload, hn]
    · obtain ⟨o, ho, hor⟩ := mem_ready.1 hr
      exact mem_ready.2 ⟨o, List.mem_of_mem_eraseP ho, hor⟩
  | markCurrentCredentialConnected revision => exact absurd rfl (hcall revision)
  | markPendingInboundSettled token =>
    obtain ⟨p, -, -, rfl⟩ := h.settle
    exact ⟨fun n hn => hn, fun r hr => hr⟩
  | markPendingInboundAbsent =>
    obtain ⟨p, -, rfl⟩ := h.absent
    exact ⟨fun n hn => hn, fun r hr => hr⟩

end

/-! ### Where the reports come from -/

/-- The agent was asked to apply the command of a report, with no rotation in flight and one revision before it. -/
def Applies (deeds : List Deed) (r : StoredReport) : Prop := ∃ topic command now catalog before,
  .asked (.applyCommand topic command now catalog) before ∈ deeds ∧ command.commandId.expose = r.commandId ∧
    before.rotationInFlight = false ∧ r.credentialRevision = before.current.credentialRevision + 1

/-- Then came the PUBACK of its acknowledgement, while the report waited for it. -/
def Acknowledged (deeds : List Deed) (r : StoredReport) : Prop := ∃ earlier packet s later,
  deeds = earlier ++ .polled packet (.outboundAcknowledged (Agent.eventId .ack r.commandId)) ::
    .asked (.confirmOutbound (Agent.eventId .ack r.commandId)) s :: later ∧
  Applies earlier r ∧ s.phase = .awaitAck ∧ ∃ o ∈ s.outbox, r ∈ o.reportPayload

/-- The deeds know the reports of the document. -/
def Trail (m : Option StateV1) (deeds : List Deed) : Prop := ∀ s, m = some s → ∀ o ∈ s.outbox, ∀ r ∈ o.reportPayload,
  Applies deeds r ∧ (s.phase ≠ .awaitAck → Acknowledged deeds r)

section

variable {pki : Pki} {wire : Wire} {ambient : Ambient} {h h₁ h' : Host} {deeds : List Deed} {r : StoredReport}

theorem Applies.append (ha : Applies deeds r) (new : List Deed) : Applies (deeds ++ new) r := by
  obtain ⟨topic, command, now, catalog, before, hmem, hspec⟩ := ha
  exact ⟨topic, command, now, catalog, before, List.mem_append_left _ hmem, hspec⟩

theorem Acknowledged.append (ha : Acknowledged deeds r) (new : List Deed) : Acknowledged (deeds ++ new) r := by
  obtain ⟨earlier, packet, s, later, rfl, hspec⟩ := ha
  exact ⟨earlier, packet, s, later ++ new, by simp, hspec⟩

theorem Trail.append {m : Option StateV1} (ht : Trail m deeds) (new : List Deed) : Trail m (deeds ++ new) := by
  intro s hs o ho r hr
  obtain ⟨happly, hack⟩ := ht s hs o ho r hr
  exact ⟨happly.append new, fun hphase => (hack hphase).append new⟩

theorem commandCall_ne_confirm (wire : Wire) (ambient : Ambient) (delivery : CommandDelivery) (event : String) :
    commandCall wire ambient delivery ≠ .confirmOutbound event := by
  unfold commandCall
  split <;> simp

/-- A round leaves a trail. -/
theorem Trace.trail {poll : Poll} (htrace : Trace pki wire ambient h poll h') (hg : h.Good pki)
    (ht : Trail (some h.agent.state) h.deeds) : Trail (manifest h'.tree) h'.deeds := by
  cases htrace with
  | unpolled queued hdeeds hm =>
    rw [hdeeds, hm]
    exact ht.append _
  | polled hp hpoll queued hdeeds hm =>
    rw [hdeeds, hm]
    exact ht.append _
  | asked hp hpoll hasks answer hanswer queued hdeeds hm =>
    rename_i p event session call
    rcases hm with hm | ⟨c, reply, hm, hc⟩
    · rw [hdeeds, hm]
      exact ht.append _
    · rw [hdeeds, hm]
      rintro _ ⟨⟩ o ho r hr
      rcases commits_reports hc hg.coherent ho hr with ⟨⟨o', ho', hr'⟩, hphase⟩ | ⟨hphase, hflight, hrev, topic, command, now, catalog,
        rfl, hid⟩
      · obtain ⟨happly, hack⟩ := ht _ rfl o' ho' r hr'
        refine ⟨happly.append _, fun hne => ?_⟩
        by_cases hwait : h.agent.state.phase = .awaitAck
        · -- the confirmation that was asked for answers the PUBACK that was polled
          have hcall := (hphase hne).resolve_left (not_not.2 hwait)
          cases hasks with
          | mark hrec => cases hcall
          | command delivery => exact absurd hcall (commandCall_ne_confirm _ _ _ _)
          | confirm hpending =>
            cases hcall
            exact ⟨h.deeds, p, h.agent.state, _, rfl, happly, hwait, o', ho', hr'⟩
          | absent hheld hscope hobs hset => cases hcall
          | settle => cases hcall
        · exact (hack hwait).append _
      · refine ⟨⟨topic, command, now, catalog, h.agent.state, by simp, hid, hflight, hrev⟩, fun hne => absurd hphase hne⟩

end

/-! ### What a session remembers -/

/-- The fact that is published. -/
def Deed.fact : Deed → Option OutboundFact
  | .queued (.publish _ fact _) => some fact
  | _ => none

/-- The last session was opened on this document. -/
def LastOpened (deeds : List Deed) (driver : SessionDriver) (s : StateV1) (earlier : List Deed) : Prop :=
  ∃ later, deeds = earlier ++ .opened driver s :: later ∧ ∀ deed ∈ later, deed.isOpened = false

/-- Until its CONNACK a session sees the document it was opened on; afterwards a report that may go out was in it, and
the switch is due only while the marker stands. -/
structure Recalls (h : Host) (driver : SessionDriver) (s : StateV1) (earlier : List Deed) : Prop where
  opened : LastOpened h.deeds driver s earlier
  coherent : s.Coherent
  trail : Trail (some s) earlier
  credentials : driver.session.credentials = s.current.credentialRevision
  identity : s.currentIdentity = .ok driver.sessionIdentity
  topics : h.driver.session.topics = driver.sessionIdentity
  connecting : h.driver.state.connection = .connecting → h.agent.state = s ∧ h.driver.state.reconnect = .dormant
  ready : h.driver.state.connection = .connected → ∀ r ∈ h.agent.state.ready,
    (∃ o ∈ s.outbox, r ∈ o.reportPayload) ∧ s.phase ≠ .awaitAck
  marker : h.driver.state.reconnect = .ready → ∃ revision, h.agent.reconnectRevision = .ok (some revision)

/-- Deeds that open no session and publish nothing. -/
def Plain (new : List Deed) : Prop := ∀ deed ∈ new, deed.isOpened = false ∧ deed.fact = none

/-- Nothing happens that a session remembers. -/
structure Carries (h h' : Host) : Prop where
  agent : h'.agent = h.agent
  topics : h'.driver.session.topics = h.driver.session.topics
  connection : h'.driver.state.connection = h.driver.state.connection
  reconnect : h'.driver.state.reconnect = h.driver.state.reconnect
  deeds : ∃ new, h'.deeds = h.deeds ++ new ∧ Plain new

section

variable {pki : Pki} {wire : Wire} {ambient : Ambient} {h h₁ h' : Host} {new new' : List Deed}

theorem plain_nil : Plain [] := fun _ h => by cases h

theorem Plain.append (hp : Plain new) (hp' : Plain new') : Plain (new ++ new') := by
  intro deed hmem
  rcases List.mem_append.1 hmem with hmem | hmem
  · exact hp deed hmem
  · exact hp' deed hmem

theorem Plain.unopened (hp : Plain new) : ∀ deed ∈ new, deed.isOpened = false := fun deed hmem => (hp deed hmem).1

theorem Questions.plain (hq : Questions new) : Plain new := by
  cases hq with
  | none => exact plain_nil
  | asked h => rcases h with rfl | ⟨reply, s', rfl⟩ <;> simp [Plain, Deed.isOpened, Deed.fact]

theorem plain_queued {r : Request} (h : ∀ topic fact payload, r ≠ .publish topic fact payload) : Plain [.queued r] := by
  intro deed hmem
  obtain rfl := List.mem_singleton.1 hmem
  cases r with
  | publish topic fact payload => exact absurd rfl (h topic fact payload)
  | _ => exact ⟨rfl, rfl⟩

theorem Carries.refl (h : Host) : Carries h h := ⟨rfl, rfl, rfl, rfl, [], by simp, plain_nil⟩

theorem Carries.trans {h h₁ h' : Host} (hc : Carries h h₁) (hc' : Carries h₁ h') : Carries h h' := by
  obtain ⟨new, hnew, hplain⟩ := hc.deeds
  obtain ⟨new', hnew', hplain'⟩ := hc'.deeds
  exact ⟨hc'.agent.trans hc.agent, hc'.topics.trans hc.topics, hc'.connection.trans hc.connection,
    hc'.reconnect.trans hc.reconnect, new ++ new', by rw [hnew', hnew, List.append_assoc], hplain.append hplain'⟩

theorem carries_set (h : Host) (f : SessionState → SessionState)
    (hconn : (f h.driver.state).connection = h.driver.state.connection)
    (hready : (f h.driver.state).reconnect = h.driver.state.reconnect) : Carries h (h.set f) :=
  ⟨rfl, rfl, hconn, hready, [], by simp [Host.set], plain_nil⟩

theorem carries_sent (h : Host) (r : Request) (note : MqttSession → MqttSession)
    (hr : ∀ topic fact payload, r ≠ .publish topic fact payload)
    (htopics : (note h.driver.session).topics = h.driver.session.topics) : Carries h (h.sent r note) :=
  ⟨rfl, htopics, rfl, rfl, _, rfl, plain_queued hr⟩

theorem carries_subscribes (h : Host) : Carries h h.subscribes := carries_sent _ _ _ (fun _ _ _ h => by cases h) rfl

theorem carries_unsubscribes (h : Host) (topic : String) : Carries h (h.unsubscribes topic) :=
  (carries_sent _ _ _ (fun _ _ _ h => by cases h) rfl).trans (carries_set _ _ rfl rfl)

theorem carries_polled {p : Packet} {event : MqttEvent} {session : MqttSession}
    (hp : MqttSession.Polls wire h.driver.session p event session) : Carries h (h.polled p event session) := by
  refine ⟨rfl, ?_, rfl, rfl, _, rfl, by simp [Plain, Deed.isOpened, Deed.fact]⟩
  cases hp <;> rfl

theorem Changed.plain {call : Call} {reply : Reply} (hc : Changed pki h call reply h') :
    ∃ new, h'.deeds = h.deeds ++ new ∧ Plain new := ⟨_, hc.deeds, Questions.plain (.asked (.inr ⟨_, _, rfl⟩))⟩

variable {driver : SessionDriver} {s : StateV1} {earlier : List Deed}

theorem LastOpened.append {deeds : List Deed} (ho : LastOpened deeds driver s earlier)
    (hnew : ∀ deed ∈ new, deed.isOpened = false) : LastOpened (deeds ++ new) driver s earlier := by
  obtain ⟨later, rfl, hopened⟩ := ho
  refine ⟨later ++ new, by simp, fun deed hmem => ?_⟩
  rcases List.mem_append.1 hmem with hmem | hmem
  · exact hopened deed hmem
  · exact hnew deed hmem

theorem Recalls.carries (hk : Recalls h driver s earlier) (hc : Carries h h') : Recalls h' driver s earlier := by
  obtain ⟨new, hnew, hplain⟩ := hc.deeds
  refine ⟨hnew ▸ hk.opened.append hplain.unopened, hk.coherent, hk.trail, hk.credentials, hk.identity,
    hc.topics.trans hk.topics, ?_, ?_, ?_⟩
  · rw [hc.connection, hc.agent, hc.reconnect]
    exact hk.connecting
  · rw [hc.connection, hc.agent]
    exact hk.ready
  · rw [hc.reconnect, hc.agent]
    exact hk.marker

/-- A change that is not made at a CONNACK. -/
theorem Recalls.changed {call : Call} {reply : Reply} (hk : Recalls h driver s earlier) (hg : h.Good pki)
    (hconn : h.driver.state.connection = .connected) (hc : Changed pki h call reply h')
    (hcall : ∀ revision, call ≠ .markCurrentCredentialConnected revision) : Recalls h' driver s earlier := by
  obtain ⟨hmarker, hready⟩ := hc.answers.waits hg.coherent hcall
  obtain ⟨new, hnew, hplain⟩ := hc.plain
  refine ⟨hnew ▸ hk.opened.append hplain.unopened, hk.coherent, hk.trail, hk.credentials, hk.identity, ?_, ?_, ?_, ?_⟩
  · rw [hc.driver]
    exact hk.topics
  · rw [hc.driver, hconn]
    intro hconn'
    cases hconn'
  · intro _ r hr
    exact hk.ready hconn r (hready r hr)
  · rw [hc.driver]
    intro hrec
    obtain ⟨revision, hrevision⟩ := hk.marker hrec
    exact ⟨revision, reconnectRevision_eq_some.2 (hmarker _ (reconnectRevision_eq_some.1 hrevision))⟩

theorem ready_phase {r : StoredReport} (hs : s.Coherent) (hr : r ∈ s.ready) : s.phase ≠ .awaitAck := by
  intro hphase
  obtain ⟨_, _, -, hnone, -⟩ := hphase ▸ hs.inPhase
  rw [hnone] at hr
  cases hr

theorem marker_phase {n : ℕ} (hs : s.Coherent) (hrec : s.reconnectRevision = some n) : s.phase ≠ .awaitAck := by
  intro hphase
  obtain ⟨_, _, -, -, -, -, -, hnone, -⟩ := hphase ▸ hs.inPhase
  rw [hrec] at hnone
  cases hnone

/-- At its CONNACK the report of the document a session was opened on is released. -/
theorem Recalls.marks (hk : Recalls h driver s earlier) (hg : h.Good pki) (hconn : h.driver.state.connection = .connecting)
    (hm : Marks pki ambient h.connects h') : Recalls h' driver s earlier := by
  obtain ⟨rfl, hdormant⟩ := hk.connecting hconn
  cases hm with
  | unmarked hrec =>
    refine ⟨hk.opened, hk.coherent, hk.trail, hk.credentials, hk.identity, hk.topics, fun h => (by cases h), ?_, hk.marker⟩
    intro _ r hr
    obtain ⟨o, ho, hor⟩ := mem_ready.1 hr
    exact ⟨⟨o, ho, readyPayload_reportPayload hor⟩, ready_phase hk.coherent hr⟩
  | marked hrec hask =>
    have hg' : h.connects.Good pki := hg.set _
    have hc := hg'.ask hask
    obtain ⟨hsome, hs'⟩ := hc.answers.mark
    obtain ⟨new, hnew, hplain⟩ := hc.plain
    refine ⟨hnew ▸ hk.opened.append hplain.unopened, hk.coherent, hk.trail, hk.credentials, hk.identity, ?_, ?_, ?_, ?_⟩
    · rw [hc.driver]
      exact hk.topics
    · rw [hc.driver]
      intro hconn'
      cases hconn'
    · intro _ r hr
      refine ⟨?_, marker_phase hk.coherent hsome⟩
      rw [hs'] at hr
      obtain ⟨o, ho, hor⟩ := mem_ready.1 hr
      obtain ⟨o', ho', rfl⟩ := List.mem_map.1 ho
      refine ⟨o', ho', ?_⟩
      cases o' <;> exact hor
    · rw [hc.driver]
      intro hready
      have hready' : h.driver.state.reconnect = .ready := hready
      rw [hdormant] at hready'
      cases hready'

theorem Listens.carries (hl : Listens ambient h h') : Carries h h' := by
  cases hl with
  | recovery hdriver hscope => exact carries_unsubscribes _ _
  | subscribe hdriver hshut hflight hopen => exact carries_subscribes _
  | wait hdriver hno => exact .refl h

theorem Completes.carries {control : DriverControl} (hc : Completes ambient h h' control) : Carries h h' := by
  cases hc with
  | exit hready hset => exact .refl h
  | subscribe hno hflight hshut hopen => exact carries_subscribes _
  | idle hno hclosed => exact .refl h

theorem Stops.carries (hs : Stops h h') : Carries h h' := by
  cases hs with
  | unsubscribe hcan => exact (carries_set _ _ rfl rfl).trans (carries_unsubscribes _ _)
  | wait => exact carries_set _ _ rfl rfl

/-- The switch becomes due with the marker. -/
theorem Recalls.ready_set {revision : NonZeroU64} (hk : Recalls h driver s earlier)
    (hconn : h.driver.state.connection = .connected) (hrec : h.agent.reconnectRevision = .ok (some revision)) :
    Recalls (h.set fun s => { s with reconnect := .ready }) driver s earlier := by
  refine ⟨hk.opened, hk.coherent, hk.trail, hk.credentials, hk.identity, hk.topics, ?_, hk.ready, fun _ => ⟨revision, hrec⟩⟩
  intro hconn'
  have hconn'' : h.driver.state.connection = .connecting := hconn'
  rw [hconn] at hconn''
  cases hconn''

/-- What a handler leaves of a session. -/
structure Remembers (h h' : Host) (driver : SessionDriver) (s : StateV1) (earlier : List Deed) : Prop where
  recalls : Recalls h' driver s earlier
  deeds : ∃ new, h'.deeds = h.deeds ++ new ∧ Plain new

theorem Carries.remembers (hc : Carries h h') (hk : Recalls h driver s earlier) : Remembers h h' driver s earlier :=
  ⟨hk.carries hc, hc.deeds⟩

theorem Remembers.recalled (hr : Remembers h h₁ driver s earlier) (hk : Recalls h' driver s earlier)
    (hdeeds : ∃ new, h'.deeds = h₁.deeds ++ new ∧ Plain new) : Remembers h h' driver s earlier := by
  obtain ⟨new, hnew, hplain⟩ := hr.deeds
  obtain ⟨new', hnew', hplain'⟩ := hdeeds
  exact ⟨hk, new ++ new', by rw [hnew', hnew, List.append_assoc], hplain.append hplain'⟩

theorem Remembers.carries (hr : Remembers h h₁ driver s earlier) (hc : Carries h₁ h') : Remembers h h' driver s earlier :=
  hr.recalled (hr.recalls.carries hc) hc.deeds

theorem Remembers.changed {call : Call} {reply : Reply} (hr : Remembers h h₁ driver s earlier) (hg : h₁.Good pki)
    (hconn : h₁.driver.state.connection = .connected) (hc : Changed pki h₁ call reply h')
    (hcall : ∀ revision, call ≠ .markCurrentCredentialConnected revision) : Remembers h h' driver s earlier :=
  hr.recalled (hr.recalls.changed hg hconn hc hcall) hc.plain

theorem Marks.plain (hm : Marks pki ambient h h') (hg : h.Good pki) : ∃ new, h'.deeds = h.deeds ++ new ∧ Plain new := by
  cases hm with
  | unmarked hrec => exact ⟨[], by simp, plain_nil⟩
  | marked hrec hask => exact (hg.ask hask).plain

/-- After the PUBACK of a fact. -/
theorem Remembers.confirms {control : DriverControl} (hr : Remembers h h₁ driver s earlier)
    (hconn : h₁.driver.state.connection = .connected) (hc : Confirms ambient h₁ h' control) :
    Remembers h h' driver s earlier := by
  cases hc with
  | exit hrec hsub hset => exact hr
  | unsubscribe hrec hset hcan =>
    have hready : Remembers h _ driver s earlier := ⟨hr.recalls.ready_set hconn hrec, hr.deeds⟩
    exact hready.carries (carries_unsubscribes _ _)
  | ready hrec hno hcan => exact ⟨hr.recalls.ready_set hconn hrec, hr.deeds⟩
  | subscribe hrec hsub hshut hopen => exact hr.carries (carries_subscribes _)
  | idle hrec hno => exact hr

theorem carries_observes (h : Host) (delivery : CommandDelivery) : Carries h (h.observes delivery) := by
  unfold Host.observes
  split_ifs
  · exact carries_set _ _ rfl rfl
  · exact .refl h

theorem commandCall_ne_mark (wire : Wire) (ambient : Ambient) (delivery : CommandDelivery) (revision : NonZeroU64) :
    commandCall wire ambient delivery ≠ .markCurrentCredentialConnected revision := by
  unfold commandCall
  split <;> simp

/-- A handler keeps what the session remembers. -/
theorem Handled.remembers {p : Packet} {event : MqttEvent} {session : MqttSession} {control : DriverControl}
    (hg : h.Good pki) (hk : Recalls h driver s earlier) (hE : Connects h (.packet p) ambient)
    (hpolls : MqttSession.Polls wire h.driver.session p event session)
    (hh : Handled pki wire ambient (h.polled p event session) event h' control) : Remembers h h' driver s earlier := by
  have hpolled := (carries_polled hpolls).remembers hk
  have hg' : (h.polled p event session).Good pki := hg.polled _ _ _
  have hconn : p ≠ .connAck → (h.polled p event session).driver.state.connection = .connected := by
    intro hne
    have hno := mt (hE p rfl).2 hne
    show h.driver.state.connection = .connected
    cases hc : h.driver.state.connection with
    | connecting => exact absurd hc hno
    | connected => rfl
  -- the change a delivery leads to
  have delivered : p ≠ .connAck → ∀ {delivery reply h₁}, ask pki ambient (commandCall wire ambient delivery)
      ((h.polled p event session).observes delivery) = (.ok reply, h₁) → Remembers h h₁ driver s earlier := by
    intro hne delivery reply h₁ hask
    have hobserves := carries_observes (h.polled p event session) delivery
    obtain ⟨f, hf⟩ := observes_eq (h.polled p event session) delivery
    have hgo : ((h.polled p event session).observes delivery).Good pki := hf ▸ hg'.set f
    refine (hpolled.carries hobserves).changed hgo ?_ (hgo.ask hask) (commandCall_ne_mark _ _ _)
    rw [hobserves.connection]
    exact hconn hne
  cases hh with
  | connected hmark hlisten =>
    cases hpolls
    have hmarked := hpolled.recalls.marks hg' ((hE _ rfl).1 rfl) hmark
    obtain ⟨new, hnew, hplain⟩ := hmark.plain (hg'.set _)
    exact (hpolled.recalled hmarked ⟨new, hnew, hplain⟩).carries hlisten.carries
  | subscribed => exact hpolled.carries (carries_set _ _ rfl rfl)
  | held hask hhold =>
    cases hpolls
    exact (delivered (fun h => by cases h) hask).carries ((carries_unsubscribes _ _).trans (carries_set _ _ rfl rfl))
  | acked hask hreply hopen hshut =>
    cases hpolls
    exact (delivered (fun h => by cases h) hask).carries (carries_sent _ _ _ (fun _ _ _ h => by cases h) rfl)
  | confirmed hpending hask hnext =>
    cases hpolls
    have hconn' := hconn fun h => by cases h
    have hc := (hg'.set _).ask hask
    have hidle := hpolled.carries (carries_set _ (fun s => { s with publish := .idle }) rfl rfl)
    refine (hidle.changed (hg'.set _) hconn' hc fun _ h => by cases h).confirms ?_ hnext
    rw [hc.driver]
    exact hconn'
  | released hheld =>
    exact hpolled.carries ((carries_set _ _ rfl rfl).trans (carries_sent _ _ _ (fun _ _ _ h => by cases h) rfl))
  | unsubscribed hheld habsent hnext =>
    cases hpolls
    have hset := hpolled.carries (carries_set _ (fun s => { s with subscription := .inactive }) rfl rfl)
    cases habsent with
    | absent hscope hobs hset' hask =>
      have hc := (hg'.set _).ask hask
      exact (hset.changed (hg'.set _) (hconn fun h => by cases h) hc fun _ h => by cases h).carries hnext.carries
    | present hno => exact hset.carries hnext.carries
  | inboundOther => exact hpolled
  | inboundSettled hask hcontrol =>
    cases hpolls
    exact hpolled.changed hg' (hconn (fun h => by cases h)) (hg'.ask hask) fun _ h => by cases h
  | progress => exact hpolled

/-! ### A round -/

/-- The report that is published was in the document its session was opened on, with the PUBACK of its command's
acknowledgement before that; and the session was opened with the credential and the identity that the report records. -/
def Reported (deeds : List Deed) (topic eventId : String) (fact : ReportFact) : Prop := ∃ driver s earlier r,
  LastOpened deeds driver s earlier ∧ Acknowledged earlier r ∧ (∃ o ∈ s.outbox, r ∈ o.reportPayload) ∧
  eventId = Agent.eventId .report r.commandId ∧ fact = r.toFact ∧
  driver.session.credentials = r.credentialRevision ∧ driver.sessionIdentity.credentialGeneration.1 = r.credentialGeneration ∧
  r.stateHash = stateHash driver.sessionIdentity.tenant driver.sessionIdentity.device r.credentialGeneration
    r.observedGeneration r.fenceEpoch r.credentialRevision r.artifactDigest ∧
  topic = certificateReportedTopic driver.sessionIdentity

/-- The revision that is marked as connected is that of the session, and of a report whose command's acknowledgement had
its PUBACK before the session was opened. -/
def Switched (deeds : List Deed) (revision : ℕ) (s : StateV1) : Prop := ∃ driver earlier r,
  LastOpened deeds driver s earlier ∧ Acknowledged earlier r ∧ (∃ o ∈ s.outbox, r ∈ o.reportPayload) ∧
  r.credentialRevision = revision ∧ driver.session.credentials = revision

/-- The entry behind a report that may be published. -/
theorem nextOutbound_report {s : StateV1} {eventId : String} {fact : ReportFact}
    (h : s.nextOutbound = some (.certificateReported eventId fact)) :
    ∃ r, .reportReady eventId r ∈ s.outbox ∧ fact = r.toFact := by
  obtain ⟨o, ho, hf⟩ := List.exists_of_findSome?_eq_some h
  split at hf
  · cases hf
  · cases o with
    | ack e a => cases hf
    | reportBlocked e r => cases hf
    | reportReady e r =>
      cases hf
      exact ⟨r, ho, rfl⟩

theorem Recalls.reported {eventId : String} {fact : ReportFact} (hk : Recalls h driver s earlier) (hg : h.Good pki)
    (hconn : h.driver.state.connection = .connected) (hnext : h.agent.nextOutbound = some (.certificateReported eventId fact))
    {deeds : List Deed} (hopened : LastOpened deeds driver s earlier) :
    Reported deeds (certificateReportedTopic h.driver.session.topics) eventId fact := by
  obtain ⟨r, ho, hfact⟩ := nextOutbound_report hnext
  obtain ⟨⟨o', ho', hr'⟩, hphase⟩ := hk.ready hconn r (mem_ready.2 ⟨_, ho, rfl⟩)
  obtain ⟨-, hack⟩ := hk.trail s rfl o' ho' r hr'
  have hcurrent := (hk.coherent.consistent.entries o' ho').current r hr'
  obtain ⟨ht, hd, hgen⟩ := currentIdentity_eq_ok.1 hk.identity
  obtain ⟨hgeneration, -⟩ := hk.coherent.report o' ho' r hr'
  refine ⟨driver, s, earlier, r, hopened, hack hphase, ⟨o', ho', hr'⟩, hg.coherent.consistent.eventId_eq ho, hfact,
    hk.credentials.trans hcurrent.2.1.symm, hgen.trans hgeneration.symm, ?_, congrArg _ hk.topics⟩
  rw [hcurrent.1, ht, hd]

/-- The marker of the document a session was opened on is that of its report. -/
theorem Recalls.switched {n : ℕ} (hk : Recalls h driver s earlier) (hrec : s.reconnectRevision = some n)
    {deeds : List Deed} (hopened : LastOpened deeds driver s earlier) : Switched deeds n s := by
  have hphase : s.phase = .awaitReconnect := by
    have hin := hk.coherent.inPhase
    cases hp : s.phase with
    | idle =>
      rw [hp] at hin
      obtain ⟨-, -, -, -, hnone⟩ := hin
      rw [hrec] at hnone
      cases hnone
    | awaitAck => exact absurd hp (marker_phase hk.coherent hrec)
    | awaitReconnect => rfl
    | reportReady =>
      rw [hp] at hin
      obtain ⟨r, -, -, -, hnone, -⟩ := hin
      rw [hrec] at hnone
      cases hnone
  obtain ⟨r, hblocked, -, -, hrevision, hdescribes⟩ := hphase ▸ hk.coherent.inPhase
  obtain ⟨o, ho, hr⟩ := mem_blocked.1 (hblocked ▸ List.mem_singleton_self r)
  have hr' : r ∈ o.reportPayload := by cases o <;> simp_all [blockedPayload, reportPayload]
  obtain ⟨-, hack⟩ := hk.trail s rfl o ho r hr'
  have hn : n = s.current.credentialRevision := Option.some.inj (hrec.symm.trans hrevision)
  refine ⟨driver, earlier, r, hopened, hack (by rw [hphase]; decide), ⟨o, ho, hr'⟩, ?_, ?_⟩
  · rw [hn, hdescribes.credentialRevision]
  · rw [hn, hk.credentials]

/-- The agent is asked to mark a revision only at the CONNACK of a session. -/
theorem Trace.switched {poll : Poll} (hk : Recalls h driver s earlier) (hE : Connects h poll ambient)
    (htrace : Trace pki wire ambient h poll h') : ∃ new, h'.deeds = h.deeds ++ new ∧
      (∀ result, .ended result ∉ new) ∧
      ∀ revision state, .asked (.markCurrentCredentialConnected revision) state ∈ new → Switched h.deeds revision.1 state := by
  cases htrace with
  | unpolled queued hdeeds hm => exact ⟨_, hdeeds, by simp, by simp⟩
  | polled hp hpoll queued hdeeds hm => exact ⟨_, hdeeds, by simp, by simp⟩
  | asked hp hpoll hasks answer hanswer queued hdeeds hm =>
    rename_i call
    refine ⟨_, hdeeds, by rcases hanswer with rfl | ⟨reply, s', rfl⟩ <;> simp, fun revision state hmem => ?_⟩
    obtain ⟨hcall, rfl⟩ : call = .markCurrentCredentialConnected revision ∧ state = h.agent.state := by
      rcases hanswer with rfl | ⟨reply, s', rfl⟩ <;> simpa [eq_comm] using hmem
    cases hasks with
    | mark hrec =>
      cases hcall
      have hpolls := MqttSession.poll_cases hpoll
      cases hpolls
      obtain ⟨hstate, -⟩ := hk.connecting ((hE _ hp).1 rfl)
      rw [hstate]
      exact hk.switched (hstate ▸ reconnectRevision_eq_some.1 hrec) hk.opened
    | command delivery => exact absurd hcall (commandCall_ne_mark _ _ _ _)
    | confirm hpending => cases hcall
    | absent hheld hscope hobs hset => cases hcall
    | settle => cases hcall

/-- What is published is the report of the document the session was opened on. -/
def Reports (h h' : Host) : Prop := ∃ new, h'.deeds = h.deeds ++ new ∧ ∀ topic eventId fact payload,
  .queued (.publish topic (.certificateReported eventId fact) payload) ∈ new → Reported h.deeds topic eventId fact

theorem Plain.reports (hplain : Plain new) (hnew : h'.deeds = h.deeds ++ new) : Reports h h' :=
  ⟨new, hnew, fun _ _ _ _ hmem => by cases (hplain _ hmem).2⟩

theorem Heads.reports {o : Outcome SessionError (Option SessionCompletion)} (hh : Heads wire h₁ o h') (hg : h₁.Good pki)
    (hk : Recalls h driver s earlier) (hr : Remembers h h₁ driver s earlier) : Reports h h' := by
  obtain ⟨new, hnew, hplain⟩ := hr.deeds
  cases hh with
  | published hcan hnext hencode =>
    rename_i fact payload
    have hdeeds : (h₁.publishes fact payload).deeds = h₁.deeds ++ [.queued (.publish (h₁.factTopic fact) fact payload)] := rfl
    refine ⟨new ++ [_], by rw [hdeeds, hnew, List.append_assoc], fun topic eventId fact' payload' hmem => ?_⟩
    rcases List.mem_append.1 hmem with hmem | hmem
    · cases (hplain _ hmem).2
    · cases List.mem_singleton.1 hmem
      simp only [SessionState.canPublish, Bool.and_eq_true, decide_eq_true_eq] at hcan
      exact hr.recalls.reported hg hcan.1.1.1 hnext hk.opened
  | quiet => exact hplain.reports hnew
  | disconnected =>
    obtain ⟨new', hnew', hplain'⟩ := (hr.carries (carries_sent _ .disconnect id (fun _ _ _ h => by cases h) rfl)).deeds
    exact hplain'.reports hnew'
  | failed he => exact hplain.reports hnew

theorem Heads.recalls (hh : Heads wire h (.ok none) h') (hk : Recalls h driver s earlier) : Recalls h' driver s earlier := by
  cases hh with
  | published hcan hnext hencode =>
    exact ⟨hk.opened.append (by simp [Deed.isOpened]), hk.coherent, hk.trail, hk.credentials, hk.identity, hk.topics,
      hk.connecting, hk.ready, hk.marker⟩
  | quiet => exact hk

/-- The next session is asked for only with the marker set and the pending delivery settled. -/
def Due (h : Host) : Prop :=
  (∃ revision, h.agent.reconnectRevision = .ok (some revision)) ∧ h.agent.pendingInboundSettled = true

theorem Handled.due {event : MqttEvent} (hg : h.Good pki) (hh : Handled pki wire ambient h event h' .reconnect)
    (hk : Recalls h' driver s earlier) : Due h' := by
  cases hh with
  | confirmed hpending hask hnext =>
    cases hnext with
    | exit hrec hsub hset => exact ⟨⟨_, hrec⟩, hset⟩
  | unsubscribed hheld habsent hnext =>
    cases hnext with
    | exit hready hset => exact ⟨hk.marker hready, hset⟩
  | inboundSettled hask hcontrol =>
    obtain ⟨p, -, -, hs'⟩ := (hg.ask hask).answers.settle
    have hready : h'.driver.state.reconnect = .ready := by
      by_contra hno
      rw [if_neg fun h => hno h.1] at hcontrol
      cases hcontrol
    refine ⟨hk.marker hready, ?_⟩
    unfold Running.pendingInboundSettled
    rw [hs']
    rfl

/-- What a round does about the credential of its session. -/
theorem Rounds.recalls {poll : Poll} {o : Outcome SessionError (Option SessionCompletion)} (hg : h.Good pki)
    (hk : Recalls h driver s earlier) (hE : Connects h poll ambient) (hr : Rounds pki wire ambient h poll o h') :
    Reports h h' ∧ (o = .ok none → Recalls h' driver s earlier) ∧ (o = .ok (some .reconnect) → Due h') := by
  have still : ∀ {h'}, Carries h h' → o ≠ .ok (some .reconnect) →
      Reports h h' ∧ (o = .ok none → Recalls h' driver s earlier) ∧ (o = .ok (some .reconnect) → Due h') := by
    intro h' hc hno
    obtain ⟨new, hnew, hplain⟩ := hc.deeds
    exact ⟨hplain.reports hnew, fun _ => hk.carries hc, fun h => absurd h hno⟩
  have asking : ∀ {p event session h'}, (∃ new, h'.deeds = (h.polled p event session).deeds ++ new ∧ Questions new) →
      Reports h h' := by
    rintro p event session h' ⟨new, hnew, hq⟩
    have hplain : Plain (.polled p event :: new) := by
      have hone : Plain [.polled p event] := by simp [Plain, Deed.isOpened, Deed.fact]
      exact hone.append hq.plain
    exact hplain.reports (by rw [hnew]; exact List.append_assoc ..)
  have headed : ∀ {h₁ h'}, Remembers h h₁ driver s earlier → h₁.Good pki → Heads wire h₁ o h' →
      Reports h h' ∧ (o = .ok none → Recalls h' driver s earlier) ∧ (o = .ok (some .reconnect) → Due h') := by
    intro h₁ h' hr₁ hg₁ hh
    refine ⟨hh.reports hg₁ hk hr₁, ?_, ?_⟩
    · rintro rfl
      exact hh.recalls hr₁.recalls
    · rintro rfl
      cases hh
  cases hr with
  | lost e => exact still (.refl h) (fun h => by cases h)
  | refused hpoll => exact still (.refl h) (fun h => by cases h)
  | broken hpoll hbroken => exact ⟨asking (hbroken.questions (hg.polled _ _ _)), fun h => (by cases h), fun h => by cases h⟩
  | crashed hpoll hcrash => exact ⟨asking (hcrash.questions (hg.polled _ _ _)), fun h => (by cases h), fun h => by cases h⟩
  | switched hpoll hhandled =>
    have hr' := hhandled.remembers hg hk hE (MqttSession.poll_cases hpoll)
    obtain ⟨new, hnew, hplain⟩ := hr'.deeds
    exact ⟨hplain.reports hnew, fun h => (by cases h), fun _ => hhandled.due (hg.polled _ _ _) hr'.recalls⟩
  | handled hpoll hhandled hhead =>
    obtain ⟨h₂, hbefore, hsends⟩ := hhandled.before
    exact headed (hhandled.remembers hg hk hE (MqttSession.poll_cases hpoll))
      (hsends.good (hbefore.good (hg.polled _ _ _))) hhead
  | stopping hstop hhead => exact headed (hstop.carries.remembers hk) (hstop.sends.good hg) hhead
  | unstopped => exact still (carries_set _ _ rfl rfl) (fun h => by cases h)
  | expired hshut => exact still (.refl h) (fun h => by cases h)
  | nothing hpoll => exact still (.refl h) (fun h => by cases h)

end

/-! ### Every run -/

section

variable {pki : Pki} {wire : Wire}

theorem recalls_inductive : Inductive pki wire Connects Trail (fun h => ∃ driver s earlier, Recalls h driver s earlier) where
  fresh := fun _ h => by cases h
  first _ _ := by
    rintro _ ⟨⟩ o ho
    cases ho
  ended result h := h.append _
  opened {h readable} hg hcreate ht := by
    obtain ⟨tree, a, driver, deeds⟩ := h
    dsimp only at hcreate ht
    obtain ⟨identity, recoveryCommand, hid, -, rfl⟩ := create_cases hcreate
    exact ⟨ht.append _, _, _, _, ⟨[], rfl, by simp⟩, hg.coherent, ht, rfl, mapError_eq_ok.1 hid, rfl, fun _ => ⟨rfl, rfl⟩,
      fun h => (by cases h), fun h => by cases h⟩
  round hg ht hk hE hr := by
    obtain ⟨driver, s, earlier, hk⟩ := hk
    obtain ⟨-, hrecalls, -⟩ := hr.recalls hg hk hE
    exact ⟨(hr.trace hg).trail hg ht, fun ho => ⟨driver, s, earlier, hrecalls ho⟩⟩

/-- **The new credential before the report**, over every run of processes and sessions in which each session has one
CONNACK, before anything else.  A session asks to be followed by another only with the marker set and the pending
delivery settled.  A report goes out only on a session that was opened with the credential and the identity it records,
on a document that had the report in it after the PUBACK of its command's acknowledgement; and only such a session tells
the agent that the revision is connected. -/
theorem credential_before_report {inputs : List Input} {input : Input} (hrun : Along pki wire Connects (inputs ++ [input])) :
    let p := Process.fresh.run pki wire inputs
    let q := Process.fresh.run pki wire (inputs ++ [input])
    ∃ new, q.deeds = p.deeds ++ new ∧
      (.ended (.ok .reconnect) ∈ new → ∃ a, q.device.agent = some a ∧
        (∃ revision, a.reconnectRevision = .ok (some revision)) ∧ a.pendingInboundSettled = true) ∧
      (∀ topic eventId fact payload, .queued (.publish topic (.certificateReported eventId fact) payload) ∈ new →
        Reported p.deeds topic eventId fact) ∧
      ∀ revision s, .asked (.markCurrentCredentialConnected revision) s ∈ new → Switched p.deeds revision.1 s := by
  obtain ⟨hbefore, hmeets⟩ := atEvery_concat.1 hrun
  have hp := recalls_inductive.run hbefore
  rw [Process.run_concat]
  dsimp only
  generalize Process.fresh.run pki wire inputs = p at hp hmeets ⊢
  have hstepped : Stepped pki wire p input (p.step pki wire input) := p.step_cases input
  generalize p.step pki wire input = q at hstepped ⊢
  cases hstepped with
  | still hdeeds hsession => exact ⟨[], by rw [hdeeds, List.append_nil], by simp⟩
  | failed => exact ⟨_, (p.conclude_deeds _).1, by simp⟩
  | opened ha hcreate hstage => exact ⟨_, rfl, by simp⟩
  | round ha hstage hinput hr =>
    rename_i a driver poll ambient o h'
    have hg : (p.host a driver).Good pki := hp.good ha
    have hE := hmeets _ _ _ _ ha hstage hinput
    obtain ⟨driver₀, s, earlier, hk⟩ := hp.session a driver ha hstage
    obtain ⟨⟨new, hnew, hreported⟩, -, hdue⟩ := hr.recalls hg hk hE
    obtain ⟨new', hnew', hno, hswitched⟩ := (hr.trace hg).switched hk hE
    obtain rfl : new = new' := List.append_cancel_left (hnew.symm.trans hnew')
    have hafter := p.after_cases o h'
    generalize p.after (o, h') = q at hafter ⊢
    cases hafter with
    | proceeds => exact ⟨new, hnew, fun h => absurd h (hno _), hreported, hswitched⟩
    | crashed => exact ⟨new, hnew, fun h => absurd h (hno _), hreported, hswitched⟩
    | completed completion =>
      refine ⟨new ++ [.ended (.ok completion)], ?_, fun h => ?_, fun topic eventId fact payload h => ?_, fun revision s h => ?_⟩
      · rw [(Process.conclude_deeds _ _).1, ← List.append_assoc]
        exact congrArg (· ++ _) hnew
      · have hcompletion : completion = .reconnect := by simpa [hno, eq_comm] using h
        cases hcompletion
        exact ⟨h'.agent, rfl, hdue rfl⟩
      · exact hreported topic eventId fact payload (by simpa using h)
      · exact hswitched revision s (by simpa using h)
    | failed e =>
      refine ⟨new ++ [.ended (.error e)], ?_, fun h => ?_, fun topic eventId fact payload h => ?_, fun revision s h => ?_⟩
      · rw [(Process.conclude_deeds _ _).1, ← List.append_assoc]
        exact congrArg (· ++ _) hnew
      · simp [hno] at h
      · exact hreported topic eventId fact payload (by simpa using h)
      · exact hswitched revision s (by simpa using h)

open Fixture Agent.Fixture in
/-- A rotation: the session in which the command is accepted ends in a reconnect, and the next one tells the agent that the
revision is connected and publishes the report. -/
theorem credential_before_report_rotation :
    (∃ new, (run (leaving ++ [packet (.pubAck 1)])).deeds = (run leaving).deeds ++ new ∧ .ended (.ok .reconnect) ∈ new ∧
      ∃ a, (run (leaving ++ [packet (.pubAck 1)])).device.agent = some a ∧
        (∃ revision, a.reconnectRevision = .ok (some revision)) ∧ a.pendingInboundSettled = true) ∧
    (∃ new s, (run (reopening ++ [packet .connAck])).deeds = (run reopening).deeds ++ new ∧
      .asked (.markCurrentCredentialConnected two) s ∈ new ∧ Switched (run reopening).deeds two.1 s) ∧
    ∃ new topic eventId fact payload,
      (run (reopening ++ [packet .connAck] ++ [packet (.unsubAck Fixture.topic [.success])])).deeds =
        (run (reopening ++ [packet .connAck])).deeds ++ new ∧
      .queued (.publish topic (.certificateReported eventId fact) payload) ∈ new ∧
      Reported (run (reopening ++ [packet .connAck])).deeds topic eventId fact := by
  have hE : ∀ {h poll around}, Orderly h poll around → Connects h poll around := fun h => h.allowed.connects
  obtain ⟨artifact, deeds, htwo, -, -, hleaving⟩ := at_leaving
  have hover := hleaving.exits fun _ => orderly_pubAck rfl rfl rfl
  have hreopened : At Orderly reopening _ recovering _ := hover.opens (create_turning htwo _ _ _ _)
  have hmarked := hreopened.marks fun _ => orderly_connAck rfl
  have hreported := hmarked.reports fun _ =>
    orderly_other (allowed_unsubAck rfl (List.mem_singleton_self _)) (fun _ h => by cases h) fun _ h => by cases h
  obtain ⟨tree₁, hs₁⟩ := hleaving
  obtain ⟨tree₂, d, ⟨stage, -, hrun₂⟩, halong₂⟩ := hover
  obtain ⟨tree₃, hs₃⟩ := hreopened
  obtain ⟨tree₄, hs₄⟩ := hmarked
  obtain ⟨tree₅, hs₅⟩ := hreported
  unfold run
  refine ⟨?_, ?_, ?_⟩
  · obtain ⟨new, hnew, hended, -⟩ := credential_before_report (halong₂.mono fun _ _ _ => hE)
    have hmem : .ended (.ok .reconnect) ∈ new := by
      rw [hs₁.run, hrun₂] at hnew
      simp only [List.append_assoc, List.append_cancel_left_eq] at hnew
      simp [← hnew]
    exact ⟨new, hnew, hmem, hended hmem⟩
  · obtain ⟨new, hnew, -, -, hswitched⟩ := credential_before_report (hs₄.along.mono fun _ _ _ => hE)
    have hmem : .asked (.markCurrentCredentialConnected two)
        (turning 0 artifact [turningReport 0 artifact] (some 2) true) ∈ new := by
      rw [hs₃.run, hs₄.run] at hnew
      simp only [List.append_assoc, List.append_cancel_left_eq] at hnew
      simp [← hnew]
    exact ⟨new, _, hnew, hmem, hswitched _ _ hmem⟩
  · obtain ⟨new, hnew, -, hreports, -⟩ := credential_before_report (hs₅.along.mono fun _ _ _ => hE)
    have hmem : .queued (.publish (certificateReportedTopic (identity two)) (reportFact 0 artifact)
        (factPayload (identity two) (reportFact 0 artifact))) ∈ new := by
      rw [hs₄.run, hs₅.run] at hnew
      simp only [List.append_assoc, List.append_cancel_left_eq] at hnew
      simp [← hnew]
    exact ⟨new, _, _, _, _, hnew, hmem, hreports _ _ _ _ hmem⟩

end

end RssIncubator.Driver
