import RssIncubator.Driver.Rounds
import RssIncubator.Agent.Durable
import RssIncubator.Lib.Runs

/-!
# Every reachable process

An answered change leaves the document in memory and on disk alike; whoever is refused one ends the process.  So while
a process runs its agent and its directory agree.

`Inductive` is the rule for what holds over every run: a property of the persisted document and of the deeds, which no
end of a process may break, and a property of the session that is open.
-/

namespace RssIncubator.Driver

open Agent Lib Prog

/-! ### The agent of a host -/

/-- The device a host runs on. -/
def Host.device (h : Host) : Device := ⟨h.tree, some h.agent⟩

/-- A sound device whose document in memory is the one on disk. -/
structure Host.Good (pki : Pki) (h : Host) : Prop where
  sound : Sound pki h.device
  agrees : manifest h.tree = some h.agent.state

/-- An operation that is answered keeps the document or commits its candidate. -/
def Answers (pki : Pki) (retention : NonZeroU32) (call : Call) (s s' : StateV1) (reply : Reply) : Prop :=
  s' = s ∧ plan pki retention s call = .ok (.keep reply) ∨ Commits pki retention call s s' reply

section

variable {pki : Pki} {wire : Wire} {ambient : Ambient} {h h₁ h' : Host} {event : MqttEvent} {call : Call} {reply : Reply}

theorem Host.Good.coherent (hg : h.Good pki) : h.agent.state.Coherent := (hg.sound.memory _ rfl).1.coherent

theorem Host.Good.congr (hg : h.Good pki) (htree : h'.tree = h.tree) (hagent : h'.agent = h.agent) : h'.Good pki := by
  have hdevice : h'.device = h.device := by rw [device, device, htree, hagent]
  exact ⟨hdevice ▸ hg.sound, by rw [htree, hagent]; exact hg.agrees⟩

theorem ask_device {o : Outcome SessionError Reply} (hask : ask pki ambient call h = (o, h₁)) :
    h₁.device.tree = (h.device.step pki (.call call ambient.faults)).2.tree ∧
    (o ≠ .crash → h₁.device = (h.device.step pki (.call call ambient.faults)).2) ∧
    (∀ reply, o = .ok reply → (h.device.step pki (.call call ambient.faults)).1 = some (.ok reply)) ∧
    ∀ e, o = .err (.agent e) → (h.device.step pki (.call call ambient.faults)).1 = some (.err e) := by
  have hstep : h.device.step pki (.call call ambient.faults) =
      Device.afterCall h.agent (perform pki h.agent.retention ambient.faults call ⟨h.tree, h.agent.state⟩) := rfl
  rw [hstep]
  unfold ask at hask
  generalize perform pki h.agent.retention ambient.faults call ⟨h.tree, h.agent.state⟩ = r at hask ⊢
  obtain ⟨reply | e | _, w⟩ := r <;> cases hask
  · exact ⟨rfl, fun _ => rfl, fun _ h => (by cases h; rfl), fun _ h => by cases h⟩
  · exact ⟨rfl, fun _ => rfl, fun _ h => (by cases h), fun _ h => by cases h; rfl⟩
  · exact ⟨rfl, fun h => absurd rfl h, fun _ h => (by cases h), fun _ h => by cases h⟩

/-- A change that is answered. -/
structure Changed (pki : Pki) (h : Host) (call : Call) (reply : Reply) (h₁ : Host) : Prop where
  good : h₁.Good pki
  driver : h₁.driver = h.driver
  retention : h₁.agent.retention = h.agent.retention
  answers : Answers pki h.agent.retention call h.agent.state h₁.agent.state reply
  deeds : h₁.deeds = h.deeds ++ [.asked call h.agent.state, .answered call reply h₁.agent.state]

theorem Host.Good.ask (hg : h.Good pki) (hask : ask pki ambient call h = (.ok reply, h₁)) : Changed pki h call reply h₁ := by
  obtain ⟨-, hdevice, hok, -⟩ := ask_device hask
  have hdevice := hdevice fun h => by cases h
  obtain ⟨s', hs', hend⟩ := hg.sound.call_ok rfl (hok reply rfl)
  rw [← hdevice] at hs'
  have hagent : h₁.agent = { h.agent with state := s' } := Option.some.inj hs'
  have hdeeds : h₁.deeds = h.deeds ++ [.asked call h.agent.state, .answered call reply h₁.agent.state] := by
    unfold Driver.ask at hask
    generalize perform pki h.agent.retention ambient.faults call ⟨h.tree, h.agent.state⟩ = r at hask
    obtain ⟨_ | _ | _, w⟩ := r <;> cases hask
    rfl
  have hstate : h₁.agent.state = s' := by rw [hagent]
  refine ⟨⟨hdevice ▸ hg.sound.step _, ?_⟩, ask_driver hask, by rw [hagent], ?_, hdeeds⟩
  · show manifest h₁.device.tree = _
    rw [hdevice, hstate]
    rcases hend with ⟨rfl, hm, -⟩ | ⟨hm, -⟩
    · exact hm.trans hg.agrees
    · exact hm
  · rw [hstate]
    rcases hend with ⟨hs, -, hp⟩ | ⟨-, hc⟩
    · exact .inl ⟨hs, hp⟩
    · exact .inr hc

/-- Whatever comes of a change: what it leaves on disk is the old document or the new one. -/
theorem Host.Good.asked (hg : h.Good pki) {o : Outcome SessionError Reply} (hask : Driver.ask pki ambient call h = (o, h₁)) :
    Sound pki ⟨h₁.tree, none⟩ ∧ (manifest h₁.tree = some h.agent.state ∨
      ∃ c reply, manifest h₁.tree = some c ∧ Commits pki h.agent.retention call h.agent.state c reply) ∧
    ∃ answer, (answer = [] ∨ ∃ reply s, answer = [.answered call reply s]) ∧
      h₁.deeds = h.deeds ++ .asked call h.agent.state :: answer := by
  obtain ⟨htree, -, -, -⟩ := ask_device hask
  have hsound := hg.sound.step (.call call ambient.faults)
  have hcopied := hg.sound.copied (.call call ambient.faults)
  have hman : manifest h.device.tree = some h.agent.state := hg.agrees
  refine ⟨?_, ?_, ?_⟩
  · have hdropped : Sound pki ⟨(h.device.step pki (.call call ambient.faults)).2.tree, none⟩ := hsound.step .drop
    rw [← htree] at hdropped
    exact hdropped
  · show manifest h₁.device.tree = _ ∨ ∃ c reply, manifest h₁.device.tree = _ ∧ _
    rw [htree]
    generalize (h.device.step pki (.call call ambient.faults)).2.standing = next at hcopied
    generalize manifest (h.device.step pki (.call call ambient.faults)).2.tree = disk at hcopied ⊢
    cases hcopied with
    | same => exact .inl hman
    | dropped => exact .inl hman
    | first hnone hb => rw [hman] at hnone; cases hnone
    | commits ha hcall hc =>
      cases ha
      cases hcall
      exact .inr ⟨_, _, rfl, hc⟩
    | unsynced ha hcall hc hfail =>
      cases ha
      cases hcall
      exact .inr ⟨_, _, rfl, hc⟩
  · unfold Driver.ask at hask
    generalize perform pki h.agent.retention ambient.faults call ⟨h.tree, h.agent.state⟩ = r at hask
    obtain ⟨reply | _ | _, w⟩ := r <;> cases hask
    · exact ⟨_, .inr ⟨_, _, rfl⟩, rfl⟩
    · exact ⟨[], .inl rfl, rfl⟩
    · exact ⟨[], .inl rfl, rfl⟩

/-! ### What a round leaves -/

/-- Requests are queued, and nothing else happens but to the session. -/
structure Sends (h h' : Host) : Prop where
  tree : h'.tree = h.tree
  agent : h'.agent = h.agent
  deeds : ∃ queued : List Request, h'.deeds = h.deeds ++ queued.map .queued

theorem Sends.refl (h : Host) : Sends h h := ⟨rfl, rfl, [], by simp⟩

theorem Sends.trans {h h' h'' : Host} (hs : Sends h h') (hs' : Sends h' h'') : Sends h h'' := by
  obtain ⟨queued, hq⟩ := hs.deeds
  obtain ⟨queued', hq'⟩ := hs'.deeds
  exact ⟨hs'.tree.trans hs.tree, hs'.agent.trans hs.agent, queued ++ queued', by rw [hq', hq]; simp⟩

theorem sends_set (h : Host) (f : SessionState → SessionState) : Sends h (h.set f) := ⟨rfl, rfl, [], by simp [Host.set]⟩

theorem sends_sent (h : Host) (r : Request) (note : MqttSession → MqttSession) : Sends h (h.sent r note) :=
  ⟨rfl, rfl, [r], by simp [Host.sent]⟩

theorem sends_unsubscribes (h : Host) (topic : String) : Sends h (h.unsubscribes topic) :=
  (sends_sent _ _ _).trans (sends_set _ _)

theorem Heads.sends {o : Outcome SessionError (Option SessionCompletion)} (hh : Heads wire h o h') : Sends h h' := by
  cases hh with
  | published hcan hnext hencode => exact (sends_sent _ _ _).trans (sends_set _ _)
  | quiet => exact .refl h
  | disconnected => exact sends_sent _ _ _
  | failed he => exact .refl h

theorem Stops.sends (hs : Stops h h') : Sends h h' := by
  cases hs with
  | unsubscribe hcan => exact (sends_set _ _).trans (sends_unsubscribes _ _)
  | wait => exact sends_set _ _

theorem Listens.sends (hl : Listens ambient h h') : Sends h h' := by
  cases hl with
  | recovery hdriver hscope => exact sends_unsubscribes _ _
  | subscribe hdriver hshut hflight hopen => exact sends_sent _ _ _
  | wait hdriver hno => exact .refl h

theorem Confirms.sends {control : DriverControl} (hc : Confirms ambient h h' control) : Sends h h' := by
  cases hc with
  | exit hrec hsub hset => exact .refl h
  | unsubscribe hrec hset hcan => exact (sends_set _ _).trans (sends_unsubscribes _ _)
  | ready hrec hno hcan => exact sends_set _ _
  | subscribe hrec hsub hshut hopen => exact sends_sent _ _ _
  | idle hrec hno => exact .refl h

theorem Completes.sends {control : DriverControl} (hc : Completes ambient h h' control) : Sends h h' := by
  cases hc with
  | exit hready hset => exact .refl h
  | subscribe hno hflight hshut hopen => exact sends_sent _ _ _
  | idle hno hclosed => exact .refl h

/-- A handler asks first and sends then. -/
theorem Handled.before {control : DriverControl} (hh : Handled pki wire ambient h event h' control) :
    ∃ h₁, Before pki wire ambient h event h₁ ∧ Sends h₁ h' := by
  cases hh with
  | connected hmark hlisten => exact ⟨_, hmark.before, hlisten.sends⟩
  | subscribed => exact ⟨_, .unasked _, .refl _⟩
  | held hask hhold =>
    obtain ⟨f, hf⟩ := observes_eq h _
    exact ⟨_, before_asked (.command _) (hf ▸ hask), (sends_unsubscribes _ _).trans (sends_set _ _)⟩
  | acked hask hreply hopen hshut =>
    obtain ⟨f, hf⟩ := observes_eq h _
    exact ⟨_, before_asked (.command _) (hf ▸ hask), sends_sent _ _ _⟩
  | confirmed hpending hask hnext => exact ⟨_, before_asked (.confirm hpending) hask, hnext.sends⟩
  | released hheld => exact ⟨_, .unasked _, sends_sent _ _ _⟩
  | unsubscribed hheld habsent hnext => exact ⟨_, habsent.before hheld rfl, hnext.sends⟩
  | inboundOther => exact ⟨_, .unasked id, .refl _⟩
  | inboundSettled hask hcontrol =>
    have hask' : ask pki ambient _ (h.set id) = _ := hask
    exact ⟨_, before_asked .settle hask', .refl _⟩
  | progress => exact ⟨_, .unasked id, .refl _⟩

theorem Host.Good.set (hg : h.Good pki) (f : SessionState → SessionState) : (h.set f).Good pki := hg.congr rfl rfl

/-- What a round leaves on disk and among the deeds. -/
inductive Trace (pki : Pki) (wire : Wire) (ambient : Ambient) (h : Host) (poll : Poll) (h' : Host) : Prop
  | unpolled (queued : List Request) (hdeeds : h'.deeds = h.deeds ++ queued.map .queued)
      (hm : manifest h'.tree = some h.agent.state)
  | polled {p event session} (hp : poll = .packet p) (hpoll : h.driver.session.poll wire p = .ok (event, session))
      (queued : List Request) (hdeeds : h'.deeds = h.deeds ++ .polled p event :: queued.map .queued)
      (hm : manifest h'.tree = some h.agent.state)
  | asked {p event session call} (hp : poll = .packet p) (hpoll : h.driver.session.poll wire p = .ok (event, session))
      (hasks : Asks wire ambient (h.polled p event session) event call) (answer : List Deed)
      (hanswer : answer = [] ∨ ∃ reply s, answer = [.answered call reply s]) (queued : List Request)
      (hdeeds : h'.deeds = h.deeds ++ .polled p event :: .asked call h.agent.state :: (answer ++ queued.map .queued))
      (hm : manifest h'.tree = some h.agent.state ∨
        ∃ c reply, manifest h'.tree = some c ∧ Commits pki h.agent.retention call h.agent.state c reply)

theorem Host.Good.polled (hg : h.Good pki) (p : Packet) (event : MqttEvent) (session : MqttSession) :
    (h.polled p event session).Good pki := hg.congr rfl rfl

theorem Before.good (hb : Before pki wire ambient h event h₁) (hg : h.Good pki) : h₁.Good pki := by
  cases hb with
  | unasked f => exact hg.congr rfl rfl
  | asked g hasks hask => exact ((hg.set _).ask hask).good.congr rfl rfl

/-- The deeds of at most one question to the agent. -/
inductive Questions : List Deed → Prop
  | none : Questions []
  | asked {call s answer} (h : answer = [] ∨ ∃ reply s, answer = [.answered call reply s]) :
      Questions (.asked call s :: answer)

theorem Host.Good.questions (hg : h.Good pki) {o : Outcome SessionError Reply} (hask : Driver.ask pki ambient call h = (o, h₁)) :
    ∃ new, h₁.deeds = h.deeds ++ new ∧ Questions new := by
  obtain ⟨-, -, answer, hanswer, hdeeds⟩ := hg.asked hask
  exact ⟨_, hdeeds, .asked hanswer⟩

theorem Before.questions (hb : Before pki wire ambient h event h₁) (hg : h.Good pki) :
    ∃ new, h₁.deeds = h.deeds ++ new ∧ Questions new := by
  cases hb with
  | unasked f => exact ⟨[], by simp [Host.set], .none⟩
  | asked g hasks hask =>
    obtain ⟨new, hdeeds, hquestions⟩ := (hg.set _).questions hask
    exact ⟨new, hdeeds, hquestions⟩

theorem Broken.questions {e : SessionError} (hb : Broken pki wire ambient h event e h') (hg : h.Good pki) :
    ∃ new, h'.deeds = h.deeds ++ new ∧ Questions new := by
  cases hb with
  | refused hasks hask => exact (hg.set _).questions hask
  | unqueued hbefore => exact hbefore.questions hg
  | unknown hbefore => exact hbefore.questions hg
  | invalid hbefore => exact hbefore.questions hg
  | unscoped hbefore hdriver hscope => exact hbefore.questions hg

theorem Crashed.questions (hc : Crashed pki wire ambient h event h') (hg : h.Good pki) :
    ∃ new, h'.deeds = h.deeds ++ new ∧ Questions new := by
  obtain ⟨hasks, hask⟩ := hc
  exact (hg.set _).questions hask

theorem Sends.good (hs : Sends h h') (hg : h.Good pki) : h'.Good pki := hg.congr hs.tree hs.agent

theorem Before.trace {p : Packet} {session : MqttSession} (hpoll : h.driver.session.poll wire p = .ok (event, session))
    (hg : h.Good pki) (hb : Before pki wire ambient (h.polled p event session) event h₁) (hs : Sends h₁ h') :
    Trace pki wire ambient h (.packet p) h' := by
  obtain ⟨queued, hq⟩ := hs.deeds
  cases hb with
  | unasked f =>
    refine .polled rfl hpoll queued ?_ ?_
    · rw [hq]
      simp [Host.set, Host.polled]
    · rw [hs.tree]
      exact hg.agrees
  | asked g hasks hask =>
    rename_i h₂
    obtain ⟨-, hm, answer, hanswer, hdeeds⟩ := ((hg.polled _ _ _).set _).asked hask
    refine .asked rfl hpoll hasks answer hanswer queued ?_ ?_
    · have hset : (h₂.set g).deeds = h₂.deeds := rfl
      rw [hq, hset, hdeeds]
      simp [Host.set, Host.polled]
    · rw [hs.tree]
      exact hm

theorem Rounds.trace {poll : Poll} {o : Outcome SessionError (Option SessionCompletion)} (hg : h.Good pki)
    (hr : Rounds pki wire ambient h poll o h') : Trace pki wire ambient h poll h' := by
  have quiet : ∀ {h'}, Sends h h' → Trace pki wire ambient h poll h' := by
    intro h' hs
    obtain ⟨queued, hq⟩ := hs.deeds
    exact .unpolled queued hq (by rw [hs.tree]; exact hg.agrees)
  cases hr with
  | lost e => exact quiet (.refl h)
  | refused hpoll => exact quiet (.refl h)
  | broken hpoll hbroken =>
    cases hbroken with
    | refused hasks hask =>
      obtain ⟨-, hm, answer, hanswer, hdeeds⟩ := ((hg.polled _ _ _).set _).asked hask
      exact .asked rfl hpoll hasks answer hanswer [] (by rw [hdeeds]; simp [Host.set, Host.polled]) hm
    | unqueued hbefore => exact hbefore.trace hpoll hg (.refl _)
    | unknown hbefore => exact hbefore.trace hpoll hg (.refl _)
    | invalid hbefore => exact hbefore.trace hpoll hg (.refl _)
    | unscoped hbefore hdriver hscope => exact hbefore.trace hpoll hg (.refl _)
  | crashed hpoll hcrash =>
    obtain ⟨hasks, hask⟩ := hcrash
    obtain ⟨-, hm, answer, hanswer, hdeeds⟩ := ((hg.polled _ _ _).set _).asked hask
    exact .asked rfl hpoll hasks answer hanswer [] (by rw [hdeeds]; simp [Host.set, Host.polled]) hm
  | switched hpoll hhandled =>
    obtain ⟨h₁, hbefore, hsends⟩ := hhandled.before
    exact hbefore.trace hpoll hg hsends
  | handled hpoll hhandled hhead =>
    obtain ⟨h₁, hbefore, hsends⟩ := hhandled.before
    exact hbefore.trace hpoll hg (hsends.trans hhead.sends)
  | stopping hstop hhead => exact quiet (hstop.sends.trans hhead.sends)
  | unstopped => exact quiet (sends_set _ _)
  | expired hshut => exact quiet (.refl h)
  | nothing hpoll => exact quiet (.refl h)

/-- After a round that the agent has not refused the host is as good as before. -/
theorem Rounds.good {poll : Poll} {o : Outcome SessionError (Option SessionCompletion)} (hg : h.Good pki)
    (hr : Rounds pki wire ambient h poll o h') (hcrash : o ≠ .crash) (herr : ∀ e, o ≠ .err (.agent e)) : h'.Good pki := by
  cases hr with
  | lost e => exact hg
  | refused hpoll => exact hg
  | broken hpoll hbroken =>
    cases hbroken with
    | refused hasks hask => exact absurd rfl (herr _)
    | unqueued hbefore => exact hbefore.good (hg.polled _ _ _)
    | unknown hbefore => exact absurd rfl (herr _)
    | invalid hbefore => exact absurd rfl (herr _)
    | unscoped hbefore hdriver hscope => exact hbefore.good (hg.polled _ _ _)
  | crashed hpoll hcrash' => exact absurd rfl hcrash
  | switched hpoll hhandled =>
    obtain ⟨h₁, hbefore, hsends⟩ := hhandled.before
    exact hsends.good (hbefore.good (hg.polled _ _ _))
  | handled hpoll hhandled hhead =>
    obtain ⟨h₁, hbefore, hsends⟩ := hhandled.before
    exact (hsends.trans hhead.sends).good (hbefore.good (hg.polled _ _ _))
  | stopping hstop hhead => exact (hstop.sends.trans hhead.sends).good hg
  | unstopped => exact (sends_set _ _).good hg
  | expired hshut => exact hg
  | nothing hpoll => exact hg

/-- The directory after a round is sound, whatever came of it. -/
theorem Rounds.sound {poll : Poll} {o : Outcome SessionError (Option SessionCompletion)} (hg : h.Good pki)
    (hr : Rounds pki wire ambient h poll o h') : Sound pki ⟨h'.tree, none⟩ := by
  have good : ∀ {h' : Host}, h'.Good pki → Sound pki ⟨h'.tree, none⟩ := fun hg' => hg'.sound.step .drop
  by_cases hcrash : o = .crash
  · subst hcrash
    cases hr with
    | crashed hpoll hcrash =>
      obtain ⟨-, hask⟩ := hcrash
      exact (((hg.polled _ _ _).set _).asked hask).1
    | handled hpoll hhandled hhead => cases hhead
    | stopping hstop hhead => cases hhead
  by_cases herr : ∀ e, o ≠ .err (.agent e)
  · exact good (hr.good hg hcrash herr)
  · simp only [not_forall, not_not] at herr
    obtain ⟨e, rfl⟩ := herr
    cases hr with
    | broken hpoll hbroken =>
      cases hbroken with
      | refused hasks hask => exact (((hg.polled _ _ _).set _).asked hask).1
      | unknown hbefore => exact good (hbefore.good (hg.polled _ _ _))
      | invalid hbefore => exact good (hbefore.good (hg.polled _ _ _))
    | handled hpoll hhandled hhead =>
      obtain ⟨h₁, hbefore, hsends⟩ := hhandled.before
      exact good ((hsends.trans hhead.sends).good (hbefore.good (hg.polled _ _ _)))
    | stopping hstop hhead => exact good ((hstop.sends.trans hhead.sends).good hg)

end

/-! ### The rule for runs -/

/-- What the world around a session is held to: a condition on each round. -/
abbrev Broker := Host → Poll → Ambient → Prop

/-- A session has one CONNACK, before anything else. -/
def Connects : Broker := fun h poll _ =>
  ∀ p, poll = .packet p → (p = .connAck ↔ h.driver.state.connection = .connecting)

/-- A delivery comes only when nothing is left to PUBACK: the receive maximum of the session is one. -/
def ReceiveMaximum : Broker := fun h poll _ => ∀ p, poll = .packet (.publish p) → h.driver.session.inflight = 0

/-- What MQTT v5 allows: also, that only what was requested is answered. -/
structure Allowed (h : Host) (poll : Poll) (ambient : Ambient) : Prop where
  connects : Connects h poll ambient
  receiveMaximum : ReceiveMaximum h poll ambient
  subAck : ∀ codes, poll = .packet (.subAck codes) → 0 < h.driver.session.subscribing
  unsubAck : ∀ topic reasons, poll = .packet (.unsubAck topic reasons) → topic ∈ h.driver.session.unsubscribing

section Runs

variable (pki : Pki) (wire : Wire)

/-- An input that meets the condition, if it is a round of a session that is open. -/
def Process.Meets (E : Broker) (p : Process) (input : Input) : Prop := ∀ a driver poll ambient,
  p.device.agent = some a → p.stage = .session driver → input = .turn poll ambient → E (p.host a driver) poll ambient

/-- A run in which every round meets the condition. -/
def Along (E : Broker) : List Input → Prop :=
  AtEvery fun before input => (Process.fresh.run pki wire before).Meets E input

/-- A property `J` of the persisted document and the deeds and a property `K` of the session that is open, kept by
whatever can happen. -/
structure Inductive (E : Broker) (J : Option StateV1 → List Deed → Prop) (K : Host → Prop) : Prop where
  fresh : J none []
  first : ∀ {deeds config now c digest}, Bootstrap pki config now c digest → J none deeds →
    J (some (firstState config.identity config.initialPosition c digest)) deeds
  ended : ∀ {m deeds} result, J m deeds → J m (deeds ++ [.ended result])
  opened : ∀ {h : Host} {readable}, h.Good pki → SessionDriver.create h.agent readable = .ok h.driver →
    J (some h.agent.state) h.deeds → J (some h.agent.state) (h.deeds ++ [.opened h.driver h.agent.state]) ∧
      K { h with deeds := h.deeds ++ [.opened h.driver h.agent.state] }
  round : ∀ {h poll ambient o h'}, h.Good pki → J (some h.agent.state) h.deeds → K h → E h poll ambient →
    Rounds pki wire ambient h poll o h' → J (manifest h'.tree) h'.deeds ∧ (o = .ok none → K h')

/-- What holds of a process. -/
structure Process.Holds (J : Option StateV1 → List Deed → Prop) (K : Host → Prop) (p : Process) : Prop where
  sound : Sound pki p.device
  agrees : p.device.Agrees
  deeds : J (manifest p.device.tree) p.deeds
  session : ∀ a driver, p.device.agent = some a → p.stage = .session driver → K (p.host a driver)

variable {pki wire} {E : Broker} {J : Option StateV1 → List Deed → Prop} {K : Host → Prop} {p : Process}

theorem Process.Holds.good (hp : p.Holds pki J K) {a : Running} {driver : SessionDriver} (ha : p.device.agent = some a) :
    (p.host a driver).Good pki := by
  obtain ⟨⟨tree, agent⟩, stage, cancelled, deeds⟩ := p
  cases ha
  exact ⟨hp.sound, hp.agrees⟩

/-- What is left of a process that ends. -/
theorem holds_exit {p : Process} (hs : Sound pki ⟨p.device.tree, none⟩) (hj : J (manifest p.device.tree) p.deeds) :
    p.exit.Holds pki J K := ⟨hs, rfl, hj, fun _ _ h => by cases h⟩

namespace Inductive

theorem conclude (hi : Inductive pki wire E J K) {p : Process} {result : Except SessionError SessionCompletion}
    (hs : Sound pki ⟨p.device.tree, none⟩) (hj : J (manifest p.device.tree) p.deeds)
    (hgood : (∀ e, result ≠ .error (.agent e)) → Sound pki p.device ∧ p.device.Agrees) :
    (p.conclude result).Holds pki J K := by
  have hj' := hi.ended result hj
  have hexit : ({ p with deeds := p.deeds ++ [.ended result] } : Process).exit.Holds pki J K := holds_exit hs hj'
  have hstay : ∀ stage, (∀ driver, stage ≠ .session driver) → (∀ e, result ≠ .error (.agent e)) →
      ({ p with deeds := p.deeds ++ [.ended result], stage := stage } : Process).Holds pki J K := by
    intro stage hstage hne
    obtain ⟨hsound, hagrees⟩ := hgood hne
    exact ⟨hsound, hagrees, hj', fun _ driver _ h => absurd h (hstage driver)⟩
  unfold Process.conclude
  rcases result with (e | e | _) | (_ | _)
  · exact hexit
  · dsimp only
    split_ifs
    · exact hexit
    · exact hstay _ (fun _ h => by cases h) (fun _ h => by cases h)
    · exact hexit
  · exact hexit
  · exact hstay _ (fun _ h => by cases h) (fun _ h => by cases h)
  · exact hexit

theorem after (hi : Inductive pki wire E J K) (hp : p.Holds pki J K) {a : Running} {driver : SessionDriver} {poll : Poll}
    {ambient : Ambient} (ha : p.device.agent = some a) (hstage : p.stage = .session driver)
    (hE : E (p.host a driver) poll ambient) :
    (p.after (turn pki wire ambient poll (p.host a driver))).Holds pki J K := by
  have hg : (p.host a driver).Good pki := hp.good ha
  have hr : Rounds pki wire ambient (p.host a driver) poll _ _ := turn_cases poll
  have hj : J (some (p.host a driver).agent.state) (p.host a driver).deeds := hg.agrees ▸ hp.deeds
  obtain ⟨hj', hk'⟩ := hi.round hg hj (hp.session a driver ha hstage) hE hr
  have hs' := hr.sound hg
  have hgood := hr.good hg
  generalize turn pki wire ambient poll (p.host a driver) = r at *
  obtain ⟨(_ | completion) | e | _, h'⟩ := r
  · have hg' := hgood (fun h => by cases h) (fun _ h => by cases h)
    refine ⟨hg'.sound, hg'.agrees, hj', ?_⟩
    rintro _ _ ⟨⟩ ⟨⟩
    exact hk' rfl
  · refine hi.conclude hs' hj' fun _ => ?_
    have hg' := hgood (fun h => by cases h) (fun _ h => by cases h)
    exact ⟨hg'.sound, hg'.agrees⟩
  · refine hi.conclude hs' hj' fun hne => ?_
    have hg' := hgood (fun h => by cases h) (fun e h => hne e (by cases h; rfl))
    exact ⟨hg'.sound, hg'.agrees⟩
  · exact holds_exit hs' hj'

theorem connect (hi : Inductive pki wire E J K) (hp : p.Holds pki J K) {a : Running} (ha : p.device.agent = some a)
    (readable : Bool) : (p.connect a readable).Holds pki J K := by
  unfold Process.connect
  rcases hcreate : SessionDriver.create a readable with e | driver
  · exact hi.conclude (hp.sound.step .drop) hp.deeds fun _ => ⟨hp.sound, hp.agrees⟩
  · have hg : (p.host a driver).Good pki := hp.good ha
    have hj : J (some (p.host a driver).agent.state) (p.host a driver).deeds := hg.agrees ▸ hp.deeds
    obtain ⟨hj', hk'⟩ := hi.opened hg hcreate hj
    refine ⟨hp.sound, hp.agrees, ?_, ?_⟩
    · have hm : manifest p.device.tree = some a.state := hg.agrees
      rw [hm]
      exact hj'
    · rintro a' _ ha' ⟨⟩
      obtain rfl := Option.some.inj (ha.symm.trans ha')
      exact hk'

theorem start (hi : Inductive pki wire E J K) (hp : p.Holds pki J K) (ha : p.device.agent = none) (config : AgentConfig)
    (now : ℕ) (faults : Faults) : J (manifest (p.device.step pki (.openAgent config now faults)).2.tree) p.deeds ∧
      (p.device.step pki (.openAgent config now faults)).2.Agrees := by
  have hcopied := hp.sound.copied (.openAgent config now faults)
  have hstand := standing_none ha
  unfold Device.Agrees
  generalize (p.device.step pki (.openAgent config now faults)).2.standing = next at hcopied ⊢
  generalize manifest (p.device.step pki (.openAgent config now faults)).2.tree = disk at hcopied ⊢
  cases hcopied with
  | same => exact ⟨hp.deeds, hstand.symm⟩
  | dropped => exact ⟨hp.deeds, rfl⟩
  | first hnone hb => exact ⟨hi.first hb (hnone ▸ hp.deeds), rfl⟩
  | commits ha' => rw [ha] at ha'; cases ha'
  | unsynced ha' => rw [ha] at ha'; cases ha'

theorem step (hi : Inductive pki wire E J K) (hp : p.Holds pki J K) {input : Input} (hE : p.Meets E input) :
    (p.step pki wire input).Holds pki J K := by
  cases input with
  | start config now faults =>
    simp only [Process.step]
    rcases ha : p.device.agent with _ | a
    · obtain ⟨hj, hagrees⟩ := hi.start hp ha config now faults
      exact ⟨hp.sound.step _, hagrees, hj, fun _ _ _ h => by cases h⟩
    · exact hp
  | kill => exact holds_exit (hp.sound.step .drop) hp.deeds
  | signal =>
    simp only [Process.step]
    split
    · exact holds_exit (hp.sound.step .drop) hp.deeds
    · exact ⟨hp.sound, hp.agrees, hp.deeds, hp.session⟩
  | connect readable =>
    simp only [Process.step]
    split
    · exact hp
    · rename_i ha _
      exact hi.connect hp ha readable
    · exact hp
  | turn poll ambient =>
    simp only [Process.step]
    split
    · rename_i a driver ha hstage
      split_ifs
      · exact hi.after hp ha hstage (hE a driver poll ambient ha hstage rfl)
      · exact hp
    · exact hp

/-- **What is kept by every round holds of every process.** -/
theorem run (hi : Inductive pki wire E J K) {inputs : List Input} (hE : Along pki wire E inputs) :
    (Process.fresh.run pki wire inputs).Holds pki J K := by
  induction inputs using List.reverseRecOn with
  | nil => exact ⟨sound_fresh, rfl, hi.fresh, fun _ _ h => by cases h⟩
  | append_singleton inputs input ih =>
    obtain ⟨hbefore, hmeets⟩ := atEvery_concat.1 hE
    rw [Process.run_concat]
    exact hi.step (ih hbefore) hmeets

/-- What holds of every process may be assumed of every round. -/
theorem along (hi : Inductive pki wire E J K) {inputs : List Input} (hE : Along pki wire E inputs) :
    Along pki wire (fun h poll ambient => E h poll ambient ∧ J (some h.agent.state) h.deeds ∧ K h) inputs := by
  intro before input hprefix a driver poll ambient ha hstage hinput
  have hbefore : Along pki wire E before := fun p x hp => hE p x (hp.trans ((List.prefix_append _ _).trans hprefix))
  have hp := hi.run hbefore
  have hg : (Process.host _ a driver).Good pki := hp.good ha
  exact ⟨hE before input hprefix a driver poll ambient ha hstage hinput, hg.agrees ▸ hp.deeds, hp.session a driver ha hstage⟩

end Inductive

theorem Along.and {E E' : Broker} {inputs : List Input} (hE : Along pki wire E inputs) (hE' : Along pki wire E' inputs) :
    Along pki wire (fun h poll ambient => E h poll ambient ∧ E' h poll ambient) inputs := by
  intro before input hprefix a driver poll ambient ha hstage hinput
  exact ⟨hE before input hprefix a driver poll ambient ha hstage hinput,
    hE' before input hprefix a driver poll ambient ha hstage hinput⟩

theorem Along.mono {E E' : Broker} (h : ∀ host poll ambient, E host poll ambient → E' host poll ambient)
    {inputs : List Input} (hE : Along pki wire E inputs) : Along pki wire E' inputs := by
  intro before input hprefix a driver poll ambient ha hstage hinput
  exact h _ _ _ (hE before input hprefix a driver poll ambient ha hstage hinput)

end Runs

/-! ### One input -/

section Steps

variable {pki : Pki} {wire : Wire} {p : Process}

/-- What one input does: nothing that leaves a deed, the opening of a session or its failure, or a round. -/
inductive Stepped (pki : Pki) (wire : Wire) (p : Process) (input : Input) : Process → Prop
  | still {q} (hdeeds : q.deeds = p.deeds)
      (hsession : ∀ a driver, q.device.agent = some a → q.stage = .session driver →
        p.device.agent = some a ∧ p.stage = .session driver) : Stepped pki wire p input q
  | failed {a readable e} (hcreate : SessionDriver.create a readable = .error e) :
      Stepped pki wire p input (p.conclude (.error e))
  | opened {a readable driver} (ha : p.device.agent = some a) (hcreate : SessionDriver.create a readable = .ok driver)
      (hstage : ∀ driver, p.stage ≠ .session driver) : Stepped pki wire p input
        { p with stage := .session driver, deeds := p.deeds ++ [.opened driver a.state] }
  | round {a driver poll ambient o h'} (ha : p.device.agent = some a) (hstage : p.stage = .session driver)
      (hinput : input = .turn poll ambient) (hr : Rounds pki wire ambient (p.host a driver) poll o h') :
      Stepped pki wire p input (p.after (o, h'))

theorem Process.step_cases (p : Process) (input : Input) : Stepped pki wire p input (p.step pki wire input) := by
  have hstill : ∀ {q : Process}, q.deeds = p.deeds → (∀ driver, q.stage ≠ .session driver) → Stepped pki wire p input q :=
    fun hdeeds hstage => .still hdeeds fun _ driver _ h => absurd h (hstage driver)
  have hsame : Stepped pki wire p input p := .still rfl fun _ _ ha hs => ⟨ha, hs⟩
  cases input with
  | start config now faults =>
    simp only [Process.step]
    split
    · exact hsame
    · exact hstill rfl fun _ h => by cases h
  | kill => exact hstill rfl fun _ h => by cases h
  | signal =>
    simp only [Process.step]
    split
    · exact hstill rfl fun _ h => by cases h
    · exact .still rfl fun _ _ ha hs => ⟨ha, hs⟩
  | connect readable =>
    simp only [Process.step]
    split
    · exact hsame
    · rename_i a ha hstage
      unfold Process.connect
      rcases hcreate : SessionDriver.create a readable with e | driver
      · exact .failed hcreate
      · exact .opened ha hcreate hstage
    · exact hsame
  | turn poll ambient =>
    simp only [Process.step]
    split
    · rename_i a driver ha hstage
      split_ifs
      · exact .round ha hstage rfl (turn_cases poll)
      · exact hsame
    · exact hsame

theorem Process.conclude_deeds (p : Process) (result : Except SessionError SessionCompletion) :
    (p.conclude result).deeds = p.deeds ++ [.ended result] ∧ (p.conclude result).device.tree = p.device.tree ∧
      ∀ driver, (p.conclude result).stage ≠ .session driver := by
  unfold Process.conclude
  rcases result with (e | e | _) | (_ | _)
  · exact ⟨rfl, rfl, fun _ h => by cases h⟩
  · dsimp only
    split_ifs
    · exact ⟨rfl, rfl, fun _ h => by cases h⟩
    · exact ⟨rfl, rfl, fun _ h => by cases h⟩
    · exact ⟨rfl, rfl, fun _ h => by cases h⟩
  · exact ⟨rfl, rfl, fun _ h => by cases h⟩
  · exact ⟨rfl, rfl, fun _ h => by cases h⟩
  · exact ⟨rfl, rfl, fun _ h => by cases h⟩

/-- The deeds of a round end with its session, if it ends. -/
inductive Afterwards (p : Process) (h' : Host) : Outcome SessionError (Option SessionCompletion) → Process → Prop
  | proceeds : Afterwards p h' (.ok none) (p.resume h')
  | crashed : Afterwards p h' .crash (p.resume h').exit
  | completed (completion : SessionCompletion) :
      Afterwards p h' (.ok (some completion)) ((p.resume h').conclude (.ok completion))
  | failed (e : SessionError) : Afterwards p h' (.err e) ((p.resume h').conclude (.error e))

theorem Process.after_cases (p : Process) (o : Outcome SessionError (Option SessionCompletion)) (h' : Host) :
    Afterwards p h' o (p.after (o, h')) := by
  rcases o with (_ | completion) | e | _
  · exact .proceeds
  · exact .completed completion
  · exact .failed e
  · exact .crashed

/-- What a round leaves of a process. -/
theorem Afterwards.deeds {h' : Host} {o : Outcome SessionError (Option SessionCompletion)} {q : Process}
    (ha : Afterwards p h' o q) : q.device.tree = h'.tree ∧
      (q.deeds = h'.deeds ∨ ∃ result, q.deeds = h'.deeds ++ [.ended result]) ∧
      ∀ a driver, q.device.agent = some a → q.stage = .session driver →
        o = .ok none ∧ h'.agent = a ∧ h'.driver = driver ∧ q.deeds = h'.deeds := by
  cases ha with
  | proceeds =>
    refine ⟨rfl, .inl rfl, ?_⟩
    rintro _ _ ⟨⟩ ⟨⟩
    exact ⟨rfl, rfl, rfl, rfl⟩
  | crashed => exact ⟨rfl, .inl rfl, fun _ _ h => by cases h⟩
  | completed completion =>
    obtain ⟨hdeeds, htree, hstage⟩ := (p.resume h').conclude_deeds (.ok completion)
    exact ⟨htree, .inr ⟨_, hdeeds⟩, fun _ driver _ h => absurd h (hstage driver)⟩
  | failed e =>
    obtain ⟨hdeeds, htree, hstage⟩ := (p.resume h').conclude_deeds (.error e)
    exact ⟨htree, .inr ⟨_, hdeeds⟩, fun _ driver _ h => absurd h (hstage driver)⟩

end Steps

end RssIncubator.Driver
