import RssIncubator.Driver.Attentive
import RssIncubator.Driver.Backpressure
import RssIncubator.Driver.Publication

/-!
# A clean shutdown

The signal is seen between two events of the broker.  From then on a session asks for no subscription any more, and it
goes on with its loop until nothing is left to do on either side: every delivery has its PUBACK in the queue of the
client, every publication has been confirmed by the agent, and the document on disk has nothing that may be published.
Then it disconnects.  Only the deadline makes it shut down before.

This is about the end of the session.  `main` ends with success in two other ways, of which nothing is said here: when
the transport of a signalled session fails, and when the signal comes while it waits to connect again.
-/

namespace RssIncubator.Driver

open Agent Lib Prog

/-- No subscription is asked for. -/
def Unrequested (new : List Deed) : Prop := ∀ topic, .queued (.subscribe topic) ∉ new

/-- A session that shuts down goes on shutting down, and asks for no subscription. -/
structure Drains (h h' : Host) : Prop where
  stays : h'.driver.state.shutdownDeadline = h.driver.state.shutdownDeadline
  deeds : ∃ new, h'.deeds = h.deeds ++ new ∧ (h.driver.state.shutdownDeadline = true → Unrequested new)

section

variable {pki : Pki} {wire : Wire} {ambient : Ambient} {h h₁ h' : Host} {event : MqttEvent} {call : Call}

theorem Unrequested.append {new new' : List Deed} (hn : Unrequested new) (hn' : Unrequested new') :
    Unrequested (new ++ new') := fun topic hmem => (List.mem_append.1 hmem).elim (hn topic) (hn' topic)

theorem Questions.unrequested {new : List Deed} (hq : Questions new) : Unrequested new := by
  cases hq with
  | none => simp [Unrequested]
  | asked h => rcases h with rfl | ⟨reply, s', rfl⟩ <;> simp [Unrequested]

theorem Drains.refl (h : Host) : Drains h h := ⟨rfl, [], by simp, fun _ _ h => by cases h⟩

theorem Drains.trans (hd : Drains h h₁) (hd' : Drains h₁ h') : Drains h h' := by
  obtain ⟨new, hnew, hnone⟩ := hd.deeds
  obtain ⟨new', hnew', hnone'⟩ := hd'.deeds
  refine ⟨hd'.stays.trans hd.stays, new ++ new', by rw [hnew', hnew, List.append_assoc], fun hstop => ?_⟩
  exact (hnone hstop).append (hnone' (hd.stays.trans hstop))

theorem drains_set (h : Host) (f : SessionState → SessionState)
    (hf : (f h.driver.state).shutdownDeadline = h.driver.state.shutdownDeadline) : Drains h (h.set f) :=
  ⟨hf, [], by simp [Host.set], fun _ _ h => by cases h⟩

theorem drains_sent (h : Host) (r : Request) (note : MqttSession → MqttSession)
    (hr : h.driver.state.shutdownDeadline = true → ∀ topic, r ≠ .subscribe topic) : Drains h (h.sent r note) := by
  refine ⟨rfl, _, rfl, fun hstop topic hmem => ?_⟩
  cases List.mem_singleton.1 hmem
  exact hr hstop _ rfl

theorem drains_subscribes (h : Host) (hstop : h.driver.state.shutdownDeadline = false) : Drains h h.subscribes := by
  refine drains_sent _ _ _ fun hstop' => ?_
  rw [hstop] at hstop'
  cases hstop'

theorem drains_unsubscribes (h : Host) (topic : String) : Drains h (h.unsubscribes topic) :=
  (drains_sent _ _ _ fun _ _ h => by cases h).trans (drains_set _ _ rfl)

theorem drains_acks (h : Host) (delivery : CommandDelivery) (token : Option String) : Drains h (h.acks delivery token) :=
  drains_sent _ _ _ fun _ _ h => by cases h

theorem drains_polled (h : Host) (p : Packet) (event : MqttEvent) (session : MqttSession) :
    Drains h (h.polled p event session) := ⟨rfl, _, rfl, fun _ => by simp [Unrequested]⟩

theorem drains_observes (h : Host) (delivery : CommandDelivery) : Drains h (h.observes delivery) := by
  unfold Host.observes
  split_ifs
  · exact drains_set _ _ rfl
  · exact .refl h

theorem Host.Good.drains (hg : h.Good pki) {reply : Reply} (hask : Driver.ask pki ambient call h = (.ok reply, h₁)) :
    Drains h h₁ := by
  have hc := hg.ask hask
  exact ⟨by rw [hc.driver], _, hc.deeds, fun _ => by simp [Unrequested]⟩

theorem Marks.drains (hm : Marks pki ambient h h') (hg : h.Good pki) : Drains h h' := by
  cases hm with
  | unmarked hrec => exact .refl h
  | marked hrec hask => exact hg.drains hask

theorem Absents.drains (ha : Absents pki ambient h h') (hg : h.Good pki) : Drains h h' := by
  cases ha with
  | absent hscope hobs hset hask => exact hg.drains hask
  | present hno => exact .refl h

theorem Listens.drains (hl : Listens ambient h h') : Drains h h' := by
  cases hl with
  | recovery hdriver hscope => exact drains_unsubscribes _ _
  | subscribe hdriver hshut hflight hopen => exact drains_subscribes h hshut
  | wait hdriver hno => exact .refl h

theorem Confirms.drains {control : DriverControl} (hc : Confirms ambient h h' control) : Drains h h' := by
  cases hc with
  | exit hrec hsub hset => exact .refl h
  | unsubscribe hrec hset hcan => exact (drains_set _ _ rfl).trans (drains_unsubscribes _ _)
  | ready hrec hno hcan => exact drains_set _ _ rfl
  | subscribe hrec hsub hshut hopen => exact drains_subscribes h hshut
  | idle hrec hno => exact .refl h

theorem Completes.drains {control : DriverControl} (hc : Completes ambient h h' control) : Drains h h' := by
  cases hc with
  | exit hready hset => exact .refl h
  | subscribe hno hflight hshut hopen => exact drains_subscribes h hshut
  | idle hno hclosed => exact .refl h

/-- A handler leaves a shutdown as it is, and asks for no subscription while there is one. -/
theorem Handled.drains {control : DriverControl} (hg : h.Good pki) (hh : Handled pki wire ambient h event h' control) :
    Drains h h' := by
  cases hh with
  | connected hmark hlisten => exact ((drains_set _ _ rfl).trans (hmark.drains (hg.set _))).trans hlisten.drains
  | subscribed => exact drains_set _ _ rfl
  | held hask hhold =>
    have hasked := (drains_observes h _).trans ((hg.observes _).drains hask)
    exact hasked.trans ((drains_unsubscribes _ _).trans (drains_set _ _ rfl))
  | acked hask hreply hopen hshut =>
    exact ((drains_observes h _).trans ((hg.observes _).drains hask)).trans (drains_acks _ _ _)
  | confirmed hpending hask hnext => exact ((drains_set _ _ rfl).trans ((hg.set _).drains hask)).trans hnext.drains
  | released hheld => exact (drains_set _ _ rfl).trans (drains_acks _ _ _)
  | unsubscribed hheld habsent hnext =>
    exact ((drains_set _ _ rfl).trans (habsent.drains (hg.set _))).trans hnext.drains
  | inboundOther => exact .refl h
  | inboundSettled hask hcontrol => exact hg.drains hask
  | progress => exact .refl h

theorem Heads.drains {o : Outcome SessionError (Option SessionCompletion)} (hh : Heads wire h o h') : Drains h h' := by
  cases hh with
  | published hcan hnext hencode => exact (drains_sent _ _ _ fun _ _ h => by cases h).trans (drains_set _ _ rfl)
  | quiet => exact .refl h
  | disconnected => exact drains_sent _ _ _ fun _ _ h => by cases h
  | failed he => exact .refl h

/-- At the signal the session begins to shut down. -/
theorem Stops.begins (hs : Stops h h') : h'.driver.state.shutdownDeadline = true ∧
    ∃ new, h'.deeds = h.deeds ++ new ∧ Unrequested new := by
  cases hs with
  | unsubscribe hcan => exact ⟨rfl, [.queued (.unsubscribe _)], rfl, by simp [Unrequested]⟩
  | wait => exact ⟨rfl, [], by simp [Host.set], by simp [Unrequested]⟩

/-- **A round of a session that shuts down** asks for no subscription, and the session shuts down after it. -/
theorem Rounds.drains {poll : Poll} {o : Outcome SessionError (Option SessionCompletion)} (hg : h.Good pki)
    (hr : Rounds pki wire ambient h poll o h') (hstop : h.driver.state.shutdownDeadline = true) :
    (∃ new, h'.deeds = h.deeds ++ new ∧ Unrequested new) ∧ (o = .ok none → h'.driver.state.shutdownDeadline = true) := by
  have going : ∀ {h'}, Drains h h' →
      (∃ new, h'.deeds = h.deeds ++ new ∧ Unrequested new) ∧ (o = .ok none → h'.driver.state.shutdownDeadline = true) := by
    intro h' hd
    obtain ⟨new, hnew, hnone⟩ := hd.deeds
    exact ⟨⟨new, hnew, hnone hstop⟩, fun _ => hd.stays.trans hstop⟩
  have failing : ∀ {p event session}, (∃ new, h'.deeds = (h.polled p event session).deeds ++ new ∧ Questions new) →
      ∃ new, h'.deeds = h.deeds ++ new ∧ Unrequested new := by
    rintro p event session ⟨new, hnew, hquestions⟩
    obtain ⟨new', hpolled, hnone⟩ := (drains_polled h p event session).deeds
    exact ⟨new' ++ new, by rw [hnew, hpolled, List.append_assoc], (hnone hstop).append hquestions.unrequested⟩
  cases hr with
  | lost e => exact going (.refl h)
  | refused hpoll => exact going (.refl h)
  | broken hpoll hbroken => exact ⟨failing (hbroken.questions (hg.polled _ _ _)), fun h => by cases h⟩
  | crashed hpoll hcrash => exact ⟨failing (hcrash.questions (hg.polled _ _ _)), fun h => by cases h⟩
  | switched hpoll hhandled => exact going ((drains_polled _ _ _ _).trans (hhandled.drains (hg.polled _ _ _)))
  | handled hpoll hhandled hhead =>
    exact going (((drains_polled _ _ _ _).trans (hhandled.drains (hg.polled _ _ _))).trans hhead.drains)
  | stopping hstops hhead =>
    obtain ⟨hbegun, new, hnew, hnone⟩ := hstops.begins
    obtain ⟨new', hnew', hnone'⟩ := hhead.drains.deeds
    exact ⟨⟨new ++ new', by rw [hnew', hnew, List.append_assoc], hnone.append (hnone' hbegun)⟩,
      fun _ => hhead.drains.stays.trans hbegun⟩
  | unstopped => exact ⟨⟨[], by simp [Host.set], by simp [Unrequested]⟩, fun h => by cases h⟩
  | expired hshut => exact going (.refl h)
  | nothing hpoll => exact going (.refl h)

/-- A session begins to shut down at the signal only. -/
theorem Rounds.unsignalled {poll : Poll} (hg : h.Good pki) (hr : Rounds pki wire ambient h poll (.ok none) h')
    (hpoll : poll ≠ .shutdown) : h'.driver.state.shutdownDeadline = h.driver.state.shutdownDeadline := by
  cases hr with
  | handled hp hhandled hhead =>
    exact hhead.drains.stays.trans (hhandled.drains (hg.polled _ _ _)).stays
  | stopping hstops hhead => exact absurd rfl hpoll
  | nothing hno => rfl

end

/-! ### The end of a shutdown -/

/-- The hosts at which a round comes to the head of the loop. -/
inductive Reaches (pki : Pki) (wire : Wire) (ambient : Ambient) (h : Host) : Poll → Host → Prop
  | handled {p event session h₁} (hpoll : h.driver.session.poll wire p = .ok (event, session))
      (hhandled : Handled pki wire ambient (h.polled p event session) event h₁ .proceed) :
      Reaches pki wire ambient h (.packet p) h₁
  | stopping {h₁} (hstop : Stops h h₁) : Reaches pki wire ambient h .shutdown h₁

section

variable {pki : Pki} {wire : Wire} {ambient : Ambient} {h h₁ h' : Host}

/-- Nothing is left to do on either side: the PUBACKs of the deliveries are queued, the agent has confirmed the
publications, and the document has nothing that may be published. -/
structure Finished (disk : Option StateV1) (deeds : List Deed) : Prop where
  queued : received deeds = pubacked deeds
  confirmed : (publications deeds).map OutboundFact.eventId = confirmations deeds
  disk : ∃ s, disk = some s ∧ ∀ o ∈ s.outbox, ¬ s.Publishable o

theorem finished_of_quiescent (hg : h.Good pki) (ht : Tracks wire h) (hi : InTransit h)
    (hquiet : h.driver.state.shutdownIsQuiescent h.agent = true) : Finished (manifest h.tree) (lastSession h.deeds) := by
  simp only [SessionState.shutdownIsQuiescent, SessionState.transportIsQuiescent, Bool.and_eq_true, decide_eq_true_eq,
    Option.isNone_iff_eq_none] at hquiet
  obtain ⟨⟨⟨⟨-, hidle⟩, hheld⟩, -⟩, hnext⟩ := hquiet
  refine ⟨?_, ?_, h.agent.state, hg.agrees, fun o ho => not_publishable_of_next hnext ho⟩
  · have hreceived := ht.received
    rw [hheld] at hreceived
    simpa using hreceived
  · have hlen := hi.pending
    rw [hidle, if_neg (by decide)] at hlen
    have hledger := hi.ledger
    rw [List.length_eq_zero_iff.1 hlen, List.append_nil, ← hi.confirmed] at hledger
    exact hledger

/-- The head of the loop ends a session when nothing is left to wait for. -/
theorem head_shutdown (hhead : head wire ambient h = (.ok (some .shutdown), h')) :
    h' = h.sent .disconnect id ∧ h.driver.state.shutdownIsQuiescent h.agent = true := by
  unfold head at hhead
  rw [bind_apply] at hhead
  have hends : Ends _ _ _ (publishNext wire ambient h) := publishNext_ends
  rcases hp : publishNext wire ambient h with ⟨_ | _ | _, h₁⟩ <;> rw [hp] at hhead hends
  · dsimp only at hhead
    rw [driver_bind, agent_bind] at hhead
    rcases hends with ⟨fact, payload, -, -, -, rfl⟩ | rfl
    · -- with a publication on its way nothing is quiescent
      rw [if_neg (by simp [SessionState.shutdownIsQuiescent, SessionState.transportIsQuiescent, Host.publishes,
        Host.set, Host.sent])] at hhead
      cases hhead
    · split_ifs at hhead with hquiet
      · refine ⟨?_, hquiet⟩
        rw [bind_apply] at hhead
        unfold disconnect request at hhead
        split_ifs at hhead
        · cases hhead
          rfl
        · cases hhead
      · cases hhead
  · cases hhead
  · cases hhead

theorem Reaches.kept {poll : Poll} (hr : Reaches pki wire ambient h poll h₁) (hg : h.Good pki) (ht : Tracks wire h)
    (hi : InTransit h) (hrm : ReceiveMaximum h poll ambient) : h₁.Good pki ∧ Tracks wire h₁ ∧ InTransit h₁ := by
  cases hr with
  | handled hpoll hhandled =>
    have hp := MqttSession.poll_cases hpoll
    obtain ⟨h₂, hbefore, hsends⟩ := hhandled.before
    exact ⟨hsends.good (hbefore.good (hg.polled _ _ _)), (hhandled.pubacks hg ht hrm hp).tracks, hhandled.inTransit hg hi hp⟩
  | stopping hstop => exact ⟨hstop.sends.good hg, ht.passes hstop.passes, hi.still (hstop.moves pki).still⟩

theorem Reaches.deeds {poll : Poll} (hr : Reaches pki wire ambient h poll h₁) (hg : h.Good pki) :
    ∃ new, h₁.deeds = h.deeds ++ new := by
  cases hr with
  | handled hpoll hhandled =>
    obtain ⟨new, hnew, -⟩ := ((drains_polled _ _ _ _).trans (hhandled.drains (hg.polled _ _ _))).deeds
    exact ⟨new, hnew⟩
  | stopping hstop =>
    obtain ⟨-, new, hnew, -⟩ := hstop.begins
    exact ⟨new, hnew⟩

/-- A round ends a shutdown at its deadline, or at the head of the loop. -/
theorem turn_shutdown {poll : Poll} (hturn : turn pki wire ambient poll h = (.ok (some .shutdown), h')) :
    (poll = .deadline ∧ h' = h ∧ h.driver.state.shutdownDeadline = true) ∨
    ∃ h₁, Reaches pki wire ambient h poll h₁ ∧ h' = h₁.sent .disconnect id ∧
      h₁.driver.state.shutdownIsQuiescent h₁.agent = true := by
  cases poll with
  | packet p =>
    simp only [turn, bind_apply, pollSession] at hturn
    rcases hpoll : h.driver.session.poll wire p with e | ⟨event, session⟩ <;> rw [hpoll] at hturn <;> dsimp only at hturn
    · cases hturn
    · have hends : HandlerEnd pki wire ambient (h.polled p event session) event _ := handleEvent_ends event
      rcases hr : handleEvent pki wire ambient event (h.polled p event session) with ⟨control | e | _, h₁⟩ <;>
        rw [hr] at hends hturn <;> dsimp only at hturn
      · cases control with
        | proceed => exact .inr ⟨h₁, .handled hpoll hends, head_shutdown hturn⟩
        | reconnect => cases hturn
      · cases hturn
      · cases hturn
  | failed e => cases hturn
  | shutdown =>
    simp only [turn, driver_bind] at hturn
    split_ifs at hturn with hshut
    · cases hturn
    · rw [bind_apply] at hturn
      have hends : Ends (fun _ h₁ => Stops h h₁) _ _ (startShutdown ambient h) := startShutdown_ends
      rcases hr : startShutdown ambient h with ⟨_ | e | _, h₁⟩ <;> rw [hr] at hends hturn <;> dsimp only at hturn
      · exact .inr ⟨h₁, .stopping hends, head_shutdown hturn⟩
      · cases hturn
      · cases hturn
  | deadline =>
    simp only [turn, driver_bind] at hturn
    split_ifs at hturn with hshut
    · cases hturn
      exact .inl ⟨rfl, rfl, hshut⟩
    · cases hturn

end

/-! ### Every run -/

section

variable {pki : Pki} {wire : Wire} {p : Process} {input : Input}

/-- The session that is open shuts down only after the signal. -/
def Process.Signalled (p : Process) : Prop :=
  ∀ driver, p.stage = .session driver → driver.state.shutdownDeadline = true → p.cancelled = true

theorem Process.Signalled.step (hs : p.Signalled)
    (hgood : ∀ a driver, p.device.agent = some a → (p.host a driver).Good pki) : (p.step pki wire input).Signalled := by
  cases input with
  | start config now faults =>
    simp only [Process.step]
    split
    · exact hs
    · exact fun _ h => by cases h
  | kill => exact fun _ h => by cases h
  | signal =>
    simp only [Process.step]
    split
    · exact fun _ h => by cases h
    · exact fun _ _ _ => rfl
  | connect readable =>
    simp only [Process.step]
    split
    · exact hs
    · unfold Process.connect
      split
      · rename_i hcreate
        rintro _ ⟨⟩ hshut
        obtain ⟨identity, recoveryCommand, -, -, rfl⟩ := create_cases hcreate
        cases hshut
      · exact fun driver h => absurd h ((p.conclude_deeds _).2.2 driver)
    · exact hs
  | turn poll ambient =>
    simp only [Process.step]
    split
    · rename_i a driver ha hstage
      split_ifs with hpossible
      · have hr : Rounds pki wire ambient (p.host a driver) poll _ _ := turn_cases poll
        generalize turn pki wire ambient poll (p.host a driver) = r at hr ⊢
        obtain ⟨o, h'⟩ := r
        have hafter := p.after_cases o h'
        generalize p.after (o, h') = q at hafter
        cases hafter with
        | proceeds =>
          rintro _ ⟨⟩ hshut
          by_cases hpoll : poll = .shutdown
          · subst hpoll
            exact hpossible
          · exact hs driver hstage ((hr.unsignalled (hgood a driver ha) hpoll).symm.trans hshut)
        | crashed => exact fun _ h => by cases h
        | completed completion => exact fun driver h => absurd h (((p.resume h').conclude_deeds _).2.2 driver)
        | failed e => exact fun driver h => absurd h (((p.resume h').conclude_deeds _).2.2 driver)
      · exact hs
    · exact hs

theorem signalled_run (pki : Pki) (wire : Wire) (inputs : List Input) : (Process.fresh.run pki wire inputs).Signalled := by
  induction inputs using List.reverseRecOn with
  | nil => exact fun _ h => by cases h
  | append_singleton inputs input ih =>
    rw [Process.run_concat]
    exact ih.step fun a driver ha => (inTransit_run pki wire inputs).good ha

/-- No session ends within a round. -/
theorem Rounds.unended {ambient : Ambient} {h h' : Host} {poll : Poll} {o : Outcome SessionError (Option SessionCompletion)}
    (hg : h.Good pki) (hr : Rounds pki wire ambient h poll o h') :
    ∃ new, h'.deeds = h.deeds ++ new ∧ ∀ result, .ended result ∉ new := by
  cases hr.trace hg with
  | unpolled queued hdeeds hm => exact ⟨_, hdeeds, by simp⟩
  | polled hp hpoll queued hdeeds hm => exact ⟨_, hdeeds, by simp⟩
  | asked hp hpoll hasks answer hanswer queued hdeeds hm =>
    refine ⟨_, hdeeds, fun result => ?_⟩
    rcases hanswer with rfl | ⟨reply, s, rfl⟩ <;> simp

/-- A process that comes to its end by a shutdown does so in a round. -/
theorem Process.step_shutdown {new : List Deed}
    (hgood : ∀ a driver, p.device.agent = some a → (p.host a driver).Good pki)
    (hnew : (p.step pki wire input).deeds = p.deeds ++ (new ++ [.ended (.ok .shutdown)])) :
    ∃ a driver poll ambient h', p.device.agent = some a ∧ p.stage = .session driver ∧ input = .turn poll ambient ∧
      poll.possible p.cancelled = true ∧ turn pki wire ambient poll (p.host a driver) = (.ok (some .shutdown), h') ∧
      h'.deeds = p.deeds ++ new ∧ (p.step pki wire input).device = ⟨h'.tree, none⟩ := by
  have hsame : p.deeds ≠ p.deeds ++ (new ++ [.ended (.ok .shutdown)]) := fun h => by simp at h
  cases input with
  | start config now faults =>
    simp only [Process.step] at hnew
    split at hnew <;> exact absurd hnew hsame
  | kill => exact absurd hnew hsame
  | signal =>
    simp only [Process.step] at hnew
    split at hnew <;> exact absurd hnew hsame
  | connect readable =>
    simp only [Process.step] at hnew
    split at hnew
    · exact absurd hnew hsame
    · unfold Process.connect at hnew
      split at hnew
      · have hlast := List.append_cancel_left hnew
        have hdeed := List.append_eq_singleton_iff.1 hlast.symm
        simp at hdeed
      · rw [(p.conclude_deeds _).1] at hnew
        have hlast := List.append_cancel_left hnew
        have hdeed := List.append_eq_singleton_iff.1 hlast.symm
        simp at hdeed
    · exact absurd hnew hsame
  | turn poll ambient =>
    simp only [Process.step] at hnew ⊢
    split at hnew
    · rename_i a driver ha hstage
      split_ifs at hnew with hpossible
      · have hr : Rounds pki wire ambient (p.host a driver) poll _ _ := turn_cases poll
        rcases hturn : turn pki wire ambient poll (p.host a driver) with ⟨o, h'⟩
        rw [hturn] at hnew hr
        obtain ⟨l, hl, hnone⟩ := hr.unended (hgood a driver ha)
        have hwithin : h'.deeds ≠ p.deeds ++ (new ++ [.ended (.ok .shutdown)]) := by
          intro h
          have heq := List.append_cancel_left (hl.symm.trans h)
          exact hnone (.ok .shutdown) (by rw [heq]; simp)
        rcases o with (_ | completion) | e | _
        · exact absurd hnew hwithin
        · have hended : h'.deeds ++ [.ended (.ok completion)] = p.deeds ++ new ++ [.ended (.ok .shutdown)] := by
            rw [List.append_assoc, ← hnew]
            exact ((p.resume h').conclude_deeds _).1.symm
          obtain ⟨hdeeds, hlast⟩ := List.append_inj' hended rfl
          cases hlast
          refine ⟨a, driver, poll, ambient, h', ha, hstage, rfl, hpossible, hturn, hdeeds, ?_⟩
          rw [if_pos hpossible]
          rfl
        · have hended : h'.deeds ++ [.ended (.error e)] = p.deeds ++ new ++ [.ended (.ok .shutdown)] := by
            rw [List.append_assoc, ← hnew]
            exact ((p.resume h').conclude_deeds _).1.symm
          cases (List.append_inj' hended rfl).2
        · exact absurd hnew hwithin
      · exact absurd hnew hsame
    · exact absurd hnew hsame

/-- **A clean shutdown leaves nothing behind**, in every run of processes and sessions in which a delivery comes only when
nothing is left to PUBACK.  With a session that ends as shut down the process ends; it was signalled, and either the
deadline has passed or the session has disconnected.  By then the PUBACK of every delivery of the session was queued, the
agent had confirmed every publication of it, and the document on disk has nothing left that may be published.  A session
that shuts down asks for no subscription, and shuts down until it ends. -/
theorem shutdown_clean {inputs : List Input} {input : Input} (hrun : Along pki wire ReceiveMaximum (inputs ++ [input])) :
    let p := Process.fresh.run pki wire inputs
    let q := Process.fresh.run pki wire (inputs ++ [input])
    (∀ new, q.deeds = p.deeds ++ (new ++ [.ended (.ok .shutdown)]) → p.cancelled = true ∧ q.device.agent = none ∧
      ((∃ ambient, input = .turn .deadline ambient) ∨ ∃ done, new = done ++ [.queued .disconnect] ∧
        Finished (manifest q.device.tree) (lastSession (p.deeds ++ done)))) ∧
    ∀ a driver, p.device.agent = some a → p.stage = .session driver → driver.state.shutdownDeadline = true →
      Unrequested (q.deeds.drop p.deeds.length) ∧
      ∀ a' driver', q.device.agent = some a' → q.stage = .session driver' → driver'.state.shutdownDeadline = true := by
  obtain ⟨hbefore, hmeets⟩ := atEvery_concat.1 hrun
  have htracks := tracks_inductive.run hbefore
  have htransit := inTransit_run pki wire inputs
  have hsignalled := signalled_run pki wire inputs
  rw [Process.run_concat]
  dsimp only
  generalize Process.fresh.run pki wire inputs = p at htracks htransit hsignalled hmeets ⊢
  refine ⟨fun new hnew => ?_, fun a driver ha hstage hstop => ?_⟩
  · obtain ⟨a, driver, poll, ambient, h', ha, hstage, hinput, hpossible, hturn, hdeeds, hdevice⟩ :=
      Process.step_shutdown (fun _ _ ha => htracks.good ha) hnew
    have hg : (p.host a driver).Good pki := htracks.good ha
    rw [hdevice]
    rcases turn_shutdown hturn with ⟨rfl, -, hshut⟩ | ⟨h₁, hreaches, rfl, hquiet⟩
    · exact ⟨hsignalled driver hstage hshut, rfl, .inl ⟨ambient, hinput⟩⟩
    · obtain ⟨hg₁, ht₁, hi₁⟩ := hreaches.kept hg (htracks.session a driver ha hstage) (htransit.session a driver ha hstage)
        (hmeets a driver poll ambient ha hstage hinput)
      have hcancelled : p.cancelled = true := by
        cases hreaches with
        | handled hpoll hhandled =>
          have hstays := (hhandled.drains (hg.polled _ _ _)).stays
          simp only [SessionState.shutdownIsQuiescent, SessionState.transportIsQuiescent, Bool.and_eq_true] at hquiet
          exact hsignalled driver hstage (hstays.symm.trans hquiet.1.1.1.1.1)
        | stopping hstop => exact hpossible
      obtain ⟨done, hdone⟩ := hreaches.deeds hg
      have hends : h₁.deeds ++ [.queued .disconnect] = p.deeds ++ new := hdeeds
      have hdone' : h₁.deeds = p.deeds ++ done := hdone
      rw [hdone', List.append_assoc] at hends
      refine ⟨hcancelled, rfl, .inr ⟨done, (List.append_cancel_left hends).symm, ?_⟩⟩
      rw [← hdone']
      exact finished_of_quiescent hg₁ ht₁ hi₁ hquiet
  · have hstepped : Stepped pki wire p input (p.step pki wire input) := p.step_cases input
    generalize p.step pki wire input = q at hstepped ⊢
    cases hstepped with
    | still hdeeds hsession =>
      refine ⟨by rw [hdeeds, List.drop_length]; simp [Unrequested], fun a' driver' ha' hstage' => ?_⟩
      obtain ⟨-, hs⟩ := hsession a' driver' ha' hstage'
      cases hstage.symm.trans hs
      exact hstop
    | failed hcreate =>
      obtain ⟨hdeeds, -, hended⟩ := p.conclude_deeds (.error _)
      exact ⟨by rw [hdeeds, List.drop_left]; simp [Unrequested], fun _ driver' _ hs => absurd hs (hended driver')⟩
    | opened ha₀ hcreate hno => exact absurd hstage (hno driver)
    | round ha₀ hstage₀ hinput hr =>
      rename_i a₀ driver₀ poll ambient o h'
      cases hstage₀.symm.trans hstage
      obtain ⟨⟨new, hnew, hnone⟩, hgoes⟩ := hr.drains (htracks.good ha₀) hstop
      obtain ⟨-, hdeeds, hopen⟩ := (p.after_cases o h').deeds
      have hnew' : h'.deeds = p.deeds ++ new := hnew
      refine ⟨?_, fun a' driver' ha' hstage' => ?_⟩
      · rcases hdeeds with hdeeds | ⟨result, hdeeds⟩
        · rw [hdeeds, hnew', List.drop_left]
          exact hnone
        · rw [hdeeds, hnew', List.append_assoc, List.drop_left]
          exact hnone.append (by simp [Unrequested])
      · obtain ⟨hnone', -, rfl, -⟩ := hopen a' driver' ha' hstage'
        exact hgoes hnone'

end

namespace Fixture

open Agent.Fixture

/-- The session when the signal has been seen, with an acknowledgement on its way, -/
def stopping : SessionDriver where
  session := { (sent .active 0).session with unsubscribing := [topic] }
  sessionIdentity := identity one
  recoveryCommand := none
  state := { connection := .connected, subscription := .unsubscribing, publish := .pending, shutdownDeadline := true }

/-- when its subscription has ended, -/
def lingering : SessionDriver where
  session := (sent .active 0).session
  sessionIdentity := identity one
  recoveryCommand := none
  state := { connection := .connected, publish := .pending, shutdownDeadline := true }

/-- and when the acknowledgement is confirmed. -/
def stopped : SessionDriver where
  session := opened.session
  sessionIdentity := identity one
  recoveryCommand := none
  state := { connection := .connected, shutdownDeadline := true }

/-- The PUBACK of a delivery has left, and its acknowledgement is on its way when the signal comes and is seen. -/
def signalled : List Input :=
  carry (listen ++ [packet (.publish (badDelivery 0).publish)]) ++ [.signal] ++ [.turn .shutdown ambient]

/-- Then the subscription ends. -/
def halting : List Input := signalled ++ [packet (.unsubAck topic [.success])]

/-- What is said of the delivery. -/
def acknowledging : List Deed := [.queued (.ack (badDelivery 0)),
  .queued (.publish (commandAcknowledgedTopic (identity one)) (badFact 0) (factPayload (identity one) (badFact 0)))]

theorem run_signalled : ∃ tree deeds, run signalled = ⟨⟨tree, some ⟨resting 1 [rejectionEntry 0], retention⟩⟩,
      .session stopping, true, deeds⟩ ∧ Along Agent.Fixture.pki wire ReceiveMaximum signalled ∧ acknowledging ⊆ deeds := by
  have hlistening : At ReceiveMaximum listen (resting 0 []) listening _ :=
    at_listening fun _ _ _ hallowed _ => hallowed.receiveMaximum
  obtain ⟨deeds, hsaid, hanswered⟩ : ∃ deeds, acknowledging ⊆ deeds ∧ At ReceiveMaximum _ _ (draining .active 0) deeds :=
    ⟨_, by simp [acknowledging], hlistening.answers (by decide) fun _ _ _ => rfl⟩
  obtain ⟨new, tree, hs⟩ := hanswered.carries fun _ _ ha _ => ha.receiveMaximum
  refine ⟨tree, deeds ++ new ++ [.queued (.unsubscribe topic)], ?_, ?_, ?_⟩
  · rw [run, signalled, Process.run_concat, Process.run_concat, hs.run]
    rfl
  · refine atEvery_concat.2 ⟨atEvery_concat.2 ⟨hs.along, fun _ _ _ _ _ _ h => by cases h⟩, ?_⟩
    rintro _ _ _ _ - - ⟨⟩ _ ⟨⟩
  · exact List.subset_append_of_subset_left _ (List.subset_append_of_subset_left _ hsaid)

/-- The subscription ends, and the acknowledgement is waited for. -/
theorem turn_halting (tree : Disk) (deeds : List Deed) :
    turn Agent.Fixture.pki wire ambient (.packet (.unsubAck topic [.success]))
        ⟨tree, ⟨resting 1 [rejectionEntry 0], retention⟩, stopping, deeds⟩ =
      (.ok none, ⟨tree, ⟨resting 1 [rejectionEntry 0], retention⟩, lingering,
        deeds ++ [.polled (.unsubAck topic [.success]) .unsubscribed]⟩) := by
  have hpoll : stopping.session.poll wire (.unsubAck topic [.success]) = .ok (.unsubscribed, lingering.session) :=
    poll_unsubAck rfl
  refine (turn_proceeds rfl hpoll (.unsubscribed rfl (.present fun h => absurd rfl h) (.idle ?_ ?_))).trans ?_
  · exact fun h => by cases h
  · exact fun _ h => by cases h
  · rfl

/-- It is confirmed, and nothing is left to wait for. -/
theorem turn_waiting {tree : Disk} {deeds : List Deed}
    (hg : Host.Good Agent.Fixture.pki ⟨tree, ⟨resting 1 [rejectionEntry 0], retention⟩, lingering, deeds⟩) : ∃ tree' new,
    turn Agent.Fixture.pki wire ambient (.packet (.pubAck 1)) ⟨tree, ⟨resting 1 [rejectionEntry 0], retention⟩, lingering, deeds⟩ =
      (.ok (some .shutdown), ⟨tree', ⟨resting 1 [], retention⟩, stopped, deeds ++ new ++ [.queued .disconnect]⟩) := by
  obtain ⟨tree', hask⟩ := ask_confirm ((hg.polled (.pubAck 1) (.outboundAcknowledged (badFact 0).eventId) opened.session).set
    fun s => { s with publish := .idle }) rfl
  refine ⟨tree', [.polled (.pubAck 1) (.outboundAcknowledged (badFact 0).eventId),
    .asked (.confirmOutbound (badFact 0).eventId) (resting 1 [rejectionEntry 0]),
    .answered (.confirmOutbound (badFact 0).eventId) .done (resting 1 [])],
    (turn_proceeds rfl poll_sent (.confirmed rfl hask (.idle rfl fun _ h => by cases h))).trans ?_⟩
  rw [show deeds ++ [_, _, _] = deeds ++ [_] ++ [_, _] from (List.append_assoc _ [_] _).symm]
  rfl

end Fixture

open Fixture Agent.Fixture in
/-- A session is signalled while an acknowledgement is on its way, and disconnects when that is confirmed. -/
theorem shutdown_clean_waiting : acknowledging ⊆ (run halting).deeds ∧
    ∃ done, (run (halting ++ [packet (.pubAck 1)])).deeds =
        (run halting).deeds ++ (done ++ [.queued .disconnect] ++ [.ended (.ok .shutdown)]) ∧
      Finished (manifest (run (halting ++ [packet (.pubAck 1)])).device.tree) (lastSession ((run halting).deeds ++ done)) := by
  obtain ⟨tree, deeds, hrun, hmeets, hsaid⟩ := run_signalled
  have hhalting : run halting = ⟨⟨tree, some ⟨resting 1 [rejectionEntry 0], retention⟩⟩, .session lingering, true,
      deeds ++ [.polled (.unsubAck topic [.success]) .unsubscribed]⟩ := by
    rw [run, halting, Process.run_concat, ← run, hrun]
    exact congrArg (Process.after _) (turn_halting tree deeds)
  have hgood := good_run halting ⟨resting 1 [rejectionEntry 0], retention⟩ lingering (by rw [hhalting])
  rw [hhalting] at hgood
  obtain ⟨tree', new, hturn⟩ := turn_waiting hgood
  have hdeeds : (run (halting ++ [packet (.pubAck 1)])).deeds =
      (run halting).deeds ++ (new ++ [.queued .disconnect] ++ [.ended (.ok .shutdown)]) := by
    have hstep : Process.step Agent.Fixture.pki Fixture.wire ⟨⟨tree, some ⟨resting 1 [rejectionEntry 0], retention⟩⟩,
        .session lingering, true, deeds ++ [.polled (.unsubAck topic [.success]) .unsubscribed]⟩ (packet (.pubAck 1)) = _ :=
      congrArg (Process.after _) hturn
    rw [run, Process.run_concat, ← run, hhalting, hstep, Process.after, (Process.conclude_deeds _ _).1]
    simp [Process.resume]
  have hmeets' : Along Agent.Fixture.pki Fixture.wire ReceiveMaximum (halting ++ [packet (.pubAck 1)]) := by
    refine atEvery_concat.2 ⟨atEvery_concat.2 ⟨hmeets, ?_⟩, ?_⟩
    · rintro _ _ _ _ - - ⟨⟩ _ ⟨⟩
    · rintro _ _ _ _ - - ⟨⟩ _ ⟨⟩
  have hkept : acknowledging ⊆ (run halting).deeds := by
    rw [hhalting]
    exact List.subset_append_of_subset_left _ hsaid
  unfold run at hkept hdeeds ⊢
  refine ⟨hkept, new, hdeeds, ?_⟩
  obtain ⟨-, -, ⟨_, h⟩ | ⟨done, hdone, hfinished⟩⟩ := (shutdown_clean hmeets').1 _ hdeeds
  · cases h
  · obtain rfl := List.append_cancel_right hdone
    exact hfinished

end RssIncubator.Driver
