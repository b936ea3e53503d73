import RssIncubator.Agent.Provenance
import RssIncubator.Driver.Publication
import RssIncubator.Driver.Scope

/-!
# On whose authority a device speaks

A frame is what a session takes a publication for.  Whoever vouches for the frames of all deliveries vouches for what
the device says: every operation on the document that a delivery leads to is one on such a frame, and every fact that is
published is the answer to one, over any number of sessions and processes.  Nothing is assumed here of how a frame comes
to be vouched for.
-/

namespace RssIncubator.Driver

open Agent Lib Prog

/-! ### Frames -/

/-- A command frame: the identity it is for, its name and its payload. -/
structure Frame where
  identity : DeviceIdentity
  commandId : CommandId
  payload : Bytes
  deriving DecidableEq

def CommandDelivery.frame (delivery : CommandDelivery) : Frame :=
  ⟨delivery.identity, delivery.commandId, delivery.publish.payload⟩

/-- The calls that a frame leads to. -/
inductive Takes (wire : Wire) (f : Frame) : Call → Prop
  | command {command now catalog} (hdecode : wire.decodeCommand f.identity f.commandId f.payload = some command) :
      Takes wire f (.applyCommand f.identity.commandTopic command now catalog)
  | malformed {now} (hdecode : wire.decodeCommand f.identity f.commandId f.payload = none) :
      Takes wire f (.rejectMalformedDelivery f.identity.commandTopic f.commandId.expose f.payload now)

/-- The document is that of this device. -/
def Owned (i : DeviceIdentity) (s : StateV1) : Prop := i.tenant = s.identity.tenantId ∧ i.device = s.identity.deviceId

/-- The fact is the answer to a call that was made. -/
def Answered (deeds : List Deed) (fact : OutboundFact) : Prop := ∃ call before, .asked call before ∈ deeds ∧ fact.From call

/-- What `V` vouches for: the deliveries that were taken up, and with them all that the document says, -/
structure Spoken (wire : Wire) (V : Frame → Prop) (m : Option StateV1) (deeds : List Deed) : Prop where
  asked : ∀ call before, .asked call before ∈ deeds → call.delivery.isSome →
    ∃ f, V f ∧ Takes wire f call ∧ ∃ s, m = some s ∧ Owned f.identity s
  tells : ∀ (s : StateV1) (fact : OutboundFact), m = some s → s.tells fact → Answered deeds fact

/-- and all that was ever published. -/
structure Vouched (wire : Wire) (V : Frame → Prop) (m : Option StateV1) (deeds : List Deed) : Prop extends
    Spoken wire V m deeds where
  published : ∀ topic fact payload, .queued (.publish topic fact payload) ∈ deeds → Answered deeds fact

/-- A session of the device, with the scope of its identity. -/
structure Addressed (h : Host) : Prop where
  session : Scoped h
  topics : Owned h.driver.session.topics h.agent.state
  scope : ∀ scope, h.driver.recoveryCommand = some scope → Owned scope.identity h.agent.state

/-- `V` vouches for what comes. -/
def Vouching (wire : Wire) (V : Frame → Prop) (h : Host) (poll : Poll) (_ : Ambient) : Prop :=
  ∀ p delivery, poll = .packet (.publish p) → h.driver.session.commandDelivery wire p = .ok delivery → V delivery.frame

section

variable {pki : Pki} {wire : Wire} {ambient : Ambient} {h h' : Host} {deeds : List Deed} {m : Option StateV1}
  {V V' : Frame → Prop} {s s' : StateV1} {i : DeviceIdentity} {fact : OutboundFact}

theorem Answered.append (ha : Answered deeds fact) (new : List Deed) : Answered (deeds ++ new) fact := by
  obtain ⟨call, before, hmem, hfrom⟩ := ha
  exact ⟨call, before, List.mem_append_left _ hmem, hfrom⟩

theorem Vouched.mono (hv : Vouched wire V m deeds) (hV : ∀ f, V f → V' f) : Vouched wire V' m deeds := by
  refine ⟨⟨fun call before hmem hd => ?_, hv.tells⟩, hv.published⟩
  obtain ⟨f, hf, hrest⟩ := hv.asked call before hmem hd
  exact ⟨f, hV f hf, hrest⟩

theorem Owned.congr (ho : Owned i s) (hs : s'.identity.tenantId = s.identity.tenantId ∧ s'.identity.deviceId = s.identity.deviceId) :
    Owned i s' := ⟨ho.1.trans hs.1.symm, ho.2.trans hs.2.symm⟩

/-- What is published is among what the document says. -/
theorem tells_next (h : s.nextOutbound = some fact) : s.tells fact := by
  obtain ⟨o, ho, hready⟩ := List.exists_of_findSome?_eq_some h
  split_ifs at hready
  refine .inl (List.mem_map.2 ⟨o, ho, ?_⟩)
  cases o with
  | ack => exact Option.some.inj hready
  | reportBlocked => cases hready
  | reportReady => exact Option.some.inj hready

/-- The scope of a pending delivery is of the device. -/
theorem pendingCommandScope_owner {a : Running} {scope : RecoveryCommandScope}
    (h : a.pendingCommandScope = .ok (some scope)) : Owned scope.identity a.state := by
  unfold Running.pendingCommandScope at h
  split at h
  · cases h
  · simp only [except_bind_ok, mapError_eq_ok, Running.currentIdentity, StateV1.currentIdentity_eq_ok, NonZeroU64.tryFrom_eq_ok,
      DeviceIdentity.tryNew_eq_ok] at h
    obtain ⟨current, ⟨htenant, hdevice, -⟩, generation, -, identity, ⟨h1, h2, -⟩, heq⟩ := h
    obtain rfl := Option.some.inj (Except.ok.inj heq)
    exact ⟨h1.trans htenant, h2.trans hdevice⟩

/-! ### One round -/

/-- A delivery is for the device, on the topic of its identity. -/
theorem Addressed.delivery (ha : Addressed h) {p : Publish} {delivery : CommandDelivery}
    (hd : h.driver.session.commandDelivery wire p = .ok delivery) :
    delivery.identity.commandTopic = delivery.topic ∧ Owned delivery.identity h.agent.state := by
  obtain ⟨-, -, hidentity, -⟩ := commandDelivery_cases hd
  refine ⟨commandIdentity_topic (fun scope hscope => ha.session.topic scope (ha.session.copies ▸ hscope)) hidentity, ?_⟩
  unfold MqttSession.commandIdentity at hidentity
  split_ifs at hidentity
  · rw [← Option.some.inj hidentity]
    exact ha.topics
  · obtain ⟨scope, hfilter, hidentity⟩ := Option.map_eq_some_iff.1 hidentity
    obtain ⟨hsome, -⟩ := Option.filter_eq_some_iff.1 hfilter
    rw [← hidentity]
    exact ha.scope scope (ha.session.copies ▸ hsome)

theorem commandCall_takes {delivery : CommandDelivery} (htopic : delivery.identity.commandTopic = delivery.topic) :
    Takes wire delivery.frame (commandCall wire ambient delivery) := by
  unfold commandCall
  rw [← htopic]
  split
  · rename_i command hdecode
    exact .command (f := delivery.frame) hdecode
  · rename_i hdecode
    exact .malformed (f := delivery.frame) hdecode

/-- The agent is asked to take up a delivery only when one has come. -/
theorem Asks.taken {p : Packet} {event : MqttEvent} {session : MqttSession} {call : Call} (ha : Addressed h)
    (hV : Vouching wire V h (.packet p) ambient) (hpoll : h.driver.session.poll wire p = .ok (event, session))
    (hasks : Asks wire ambient (h.polled p event session) event call) (hd : call.delivery.isSome) :
    ∃ f, V f ∧ Takes wire f call ∧ Owned f.identity h.agent.state := by
  cases hasks with
  | mark => cases hd
  | confirm => cases hd
  | absent => cases hd
  | settle => cases hd
  | command delivery =>
    cases MqttSession.poll_cases hpoll with
    | command hdelivery =>
      obtain ⟨htopic, howned⟩ := ha.delivery hdelivery
      exact ⟨delivery.frame, hV _ delivery rfl hdelivery, commandCall_takes htopic, howned⟩

/-- No delivery is taken up. -/
theorem Spoken.keep (hs : Spoken wire V m deeds) {new : List Deed}
    (hnew : ∀ call before, .asked call before ∈ new → call.delivery.isSome → False) : Spoken wire V m (deeds ++ new) := by
  refine ⟨fun call before hmem hd => ?_, fun s fact hm htells => (hs.tells s fact hm htells).append _⟩
  rcases List.mem_append.1 hmem with hmem | hmem
  · exact hs.asked call before hmem hd
  · exact (hnew call before hmem hd).elim

/-- An operation is made for a delivery that is vouched for. -/
theorem Spoken.call (hs : Spoken wire V (some s) deeds) {call : Call} {before c : StateV1} {new : List Deed}
    (hcall : call.delivery.isSome → ∃ f, V f ∧ Takes wire f call ∧ Owned f.identity s)
    (hnew : ∀ call' before', .asked call' before' ∈ new ↔ call' = call ∧ before' = before)
    (howner : c.identity.tenantId = s.identity.tenantId ∧ c.identity.deviceId = s.identity.deviceId)
    (htells : ∀ fact, c.tells fact → s.tells fact ∨ fact.From call) : Spoken wire V (some c) (deeds ++ new) := by
  refine ⟨fun call' before' hmem hd => ?_, fun c' fact hc hfact => ?_⟩
  · rcases List.mem_append.1 hmem with hmem | hmem
    · obtain ⟨f, hf, htakes, _, hs', howned⟩ := hs.asked call' before' hmem hd
      obtain rfl := Option.some.inj hs'
      exact ⟨f, hf, htakes, c, rfl, howned.congr howner⟩
    · obtain ⟨rfl, -⟩ := (hnew call' before').1 hmem
      obtain ⟨f, hf, htakes, howned⟩ := hcall hd
      exact ⟨f, hf, htakes, c, rfl, howned.congr howner⟩
  · obtain rfl := Option.some.inj hc
    rcases htells fact hfact with hfact | hfrom
    · exact (hs.tells s fact rfl hfact).append _
    · exact ⟨call, before, List.mem_append_right _ ((hnew call before).2 ⟨rfl, rfl⟩), hfrom⟩

/-- A round leaves the document to its device. -/
theorem Trace.owned {poll : Poll} (htrace : Trace pki wire ambient h poll h') (hg : h.Good pki) (ho : Owned i h.agent.state) :
    ∃ s, manifest h'.tree = some s ∧ Owned i s := by
  cases htrace with
  | unpolled queued hdeeds hm => exact ⟨_, hm, ho⟩
  | polled hp hpoll queued hdeeds hm => exact ⟨_, hm, ho⟩
  | asked hp hpoll hasks answer hanswer queued hdeeds hm =>
    rcases hm with hm | ⟨c, reply, hm, hc⟩
    · exact ⟨_, hm, ho⟩
    · exact ⟨c, hm, ho.congr (hc.owner hg.coherent)⟩

theorem Rounds.owned {poll : Poll} (hg : h.Good pki) (hr : Rounds pki wire ambient h poll (.ok none) h')
    (ho : Owned i h.agent.state) : Owned i h'.agent.state := by
  obtain ⟨s, hs, howned⟩ := (hr.trace hg).owned hg ho
  obtain rfl := Option.some.inj ((hr.good hg (fun h => by cases h) fun _ h => by cases h).agrees.symm.trans hs)
  exact howned

/-- A round takes up what is vouched for, and says only what answers it. -/
theorem Trace.spoken {poll : Poll} (htrace : Trace pki wire ambient h poll h') (hg : h.Good pki) (ha : Addressed h)
    (hV : Vouching wire V h poll ambient) (hs : Spoken wire V (some h.agent.state) h.deeds) :
    Spoken wire V (manifest h'.tree) h'.deeds := by
  cases htrace with
  | unpolled queued hdeeds hm =>
    rw [hdeeds, hm]
    exact hs.keep (by simp)
  | polled hp hpoll queued hdeeds hm =>
    rw [hdeeds, hm]
    exact hs.keep (by simp)
  | asked hp hpoll hasks answer hanswer queued hdeeds hm =>
    rename_i p event session call
    subst hp
    have hcall := hasks.taken ha hV hpoll
    have hnew : ∀ call' before', .asked call' before' ∈ Deed.polled p event :: .asked call h.agent.state ::
        (answer ++ queued.map .queued) ↔ call' = call ∧ before' = h.agent.state := by
      intro call' before'
      rcases hanswer with rfl | ⟨reply, s, rfl⟩ <;> simp
    rw [hdeeds]
    rcases hm with hm | ⟨c, reply, hm, hc⟩
    · rw [hm]
      exact hs.call hcall hnew ⟨rfl, rfl⟩ fun fact hfact => .inl hfact
    · rw [hm]
      exact hs.call hcall hnew (hc.owner hg.coherent) fun fact hfact => hc.tells hg.coherent hfact

theorem not_published {new : List Deed} (hnew : publications new = []) {topic : String} {payload : Bytes} :
    .queued (.publish topic fact payload) ∉ new := by
  intro hmem
  have hfact : fact ∈ publications new := List.mem_filterMap.2 ⟨_, hmem, rfl⟩
  rw [hnew] at hfact
  cases hfact

/-- What a round publishes the document says. -/
theorem Publishes.answered (hpub : Publishes wire h h') (hold : ∀ topic fact payload,
    .queued (.publish topic fact payload) ∈ h.deeds → Answered h.deeds fact)
    (hspoken : Spoken wire V (manifest h'.tree) h'.deeds) :
    ∀ topic fact payload, .queued (.publish topic fact payload) ∈ h'.deeds → Answered h'.deeds fact := by
  intro topic fact payload hmem
  cases hpub with
  | none new hdeeds hnew =>
    rw [hdeeds, List.mem_append] at hmem
    rcases hmem with hmem | hmem
    · rw [hdeeds]
      exact (hold topic fact payload hmem).append _
    · exact absurd hmem (not_published hnew)
  | last new fact' payload' hdeeds hnew hdisk hnext =>
    rw [hdeeds, List.mem_append, List.mem_append, List.mem_singleton] at hmem
    rcases hmem with hmem | hmem | hmem
    · rw [hdeeds]
      exact (hold topic fact payload hmem).append _
    · exact absurd hmem (not_published hnew)
    · cases hmem
      exact hspoken.tells _ _ hdisk (tells_next hnext)

end

/-! ### Every run -/

section

variable {pki : Pki} {wire : Wire} {V : Frame → Prop}

theorem Vouched.append {m : Option StateV1} {deeds : List Deed} (hv : Vouched wire V m deeds) {deed : Deed}
    (hasked : ∀ call before, deed ≠ .asked call before) (hqueued : ∀ r, deed ≠ .queued r) :
    Vouched wire V m (deeds ++ [deed]) := by
  refine ⟨hv.keep fun call before hmem _ => hasked _ _ (List.mem_singleton.1 hmem).symm, ?_⟩
  intro topic fact payload hmem
  rw [List.mem_append, List.mem_singleton] at hmem
  exact (hv.published topic fact payload (hmem.resolve_right fun h => hqueued _ h.symm)).append _

theorem vouched_inductive : Inductive pki wire (Vouching wire V) (Vouched wire V) Addressed where
  fresh := ⟨⟨fun _ _ h => (by cases h), fun _ _ h => (by cases h)⟩, fun _ _ _ h => (by cases h)⟩
  first _ hv := by
    refine ⟨⟨fun call before hmem hd => ?_, fun s fact hs htells => ?_⟩, hv.published⟩
    · obtain ⟨f, -, -, s, hnone, -⟩ := hv.asked call before hmem hd
      cases hnone
    · obtain rfl := Option.some.inj hs
      rcases htells with h | ⟨k, h, -⟩ <;> cases h
  ended result hv := hv.append (fun _ _ h => by cases h) (fun _ h => by cases h)
  opened {h readable} hg hcreate hv := by
    refine ⟨hv.append (fun _ _ h => by cases h) (fun _ h => by cases h), ?_⟩
    have hinductive : Inductive pki wire (fun _ _ _ => True) (fun _ _ => True) Scoped := scoped_inductive
    have hscoped := hinductive.opened hg hcreate trivial
    obtain ⟨identity, recoveryCommand, hid, hscope, hdriver⟩ := create_cases hcreate
    obtain ⟨htenant, hdevice, -⟩ := StateV1.currentIdentity_eq_ok.1 (mapError_eq_ok.1 hid)
    refine ⟨hscoped.2, ?_, fun scope hs => ?_⟩
    · rw [hdriver]
      exact ⟨htenant, hdevice⟩
    · rw [hdriver] at hs
      exact pendingCommandScope_owner (hscope.trans (congrArg _ hs))
  round {h poll ambient o h'} hg hv ha hE hr := by
    have hspoken := (hr.trace hg).spoken hg ha hE hv.toSpoken
    refine ⟨⟨hspoken, (hr.publishes hg).answered hv.published hspoken⟩, fun ho => ?_⟩
    subst ho
    have hfixed := hr.fixed
    refine ⟨ha.session.fixed hfixed, ?_, fun scope hscope => hr.owned hg (ha.scope scope (hfixed.driver ▸ hscope))⟩
    rw [hfixed.topics]
    exact hr.owned hg ha.topics

/-! ### In whose name -/

/-- What is published is the fact as the device encodes it in its name. -/
def Written (wire : Wire) (m : Option StateV1) (deeds : List Deed) : Prop :=
  ∀ topic fact payload, .queued (.publish topic fact payload) ∈ deeds →
    ∃ identity s, wire.encodeOutbound identity fact = some payload ∧ m = some s ∧ Owned identity s

theorem Rounds.identity {ambient : Ambient} {h h' : Host} {poll : Poll} (hg : h.Good pki)
    (hr : Rounds pki wire ambient h poll (.ok none) h') : h'.driver.sessionIdentity = h.driver.sessionIdentity := by
  have head : ∀ {h₁ : Host} {o}, Heads wire h₁ o h' → h'.driver.sessionIdentity = h₁.driver.sessionIdentity := by
    intro h₁ o hh
    cases hh <;> rfl
  cases hr with
  | handled hpoll hhandled hhead => exact (head hhead).trans (hhandled.quietly (hg.polled _ _ _)).named.1
  | stopping hstop hhead => exact (head hhead).trans (hstop.moves pki).still.named.1
  | nothing hpoll => rfl

theorem Written.append {m : Option StateV1} {deeds : List Deed} (hw : Written wire m deeds) {deed : Deed}
    (hqueued : ∀ r, deed ≠ .queued r) : Written wire m (deeds ++ [deed]) := by
  intro topic fact payload hmem
  rw [List.mem_append, List.mem_singleton] at hmem
  exact hw topic fact payload (hmem.resolve_right fun h => hqueued _ h.symm)

theorem written_inductive : Inductive pki wire (fun _ _ _ => True) (Written wire)
    (fun h => Owned h.driver.sessionIdentity h.agent.state) where
  fresh := fun _ _ _ h => (by cases h)
  first _ hw topic fact payload hmem := by
    obtain ⟨identity, s, -, hnone, -⟩ := hw topic fact payload hmem
    cases hnone
  ended result hw := hw.append fun _ h => by cases h
  opened {h readable} hg hcreate hw := by
    refine ⟨hw.append fun _ h => (by cases h), ?_⟩
    obtain ⟨identity, recoveryCommand, hid, -, hdriver⟩ := create_cases hcreate
    obtain ⟨htenant, hdevice, -⟩ := StateV1.currentIdentity_eq_ok.1 (mapError_eq_ok.1 hid)
    rw [hdriver]
    exact ⟨htenant, hdevice⟩
  round {h poll ambient o h'} hg hw ho hE hr := by
    obtain ⟨s, hs, howned⟩ := (hr.trace hg).owned hg ho
    refine ⟨fun topic fact payload hmem => ?_, fun ho' => ?_⟩
    · have earlier : .queued (.publish topic fact payload) ∈ h.deeds → ∃ identity s', wire.encodeOutbound identity fact =
          some payload ∧ manifest h'.tree = some s' ∧ Owned identity s' := by
        intro hold
        obtain ⟨identity, before, hencode, hbefore, hidentity⟩ := hw topic fact payload hold
        obtain rfl := Option.some.inj hbefore
        obtain ⟨s', hs', howned'⟩ := (hr.trace hg).owned hg hidentity
        exact ⟨identity, s', hencode, hs', howned'⟩
      have hpub := hr.publishes hg
      cases hpub with
      | none new hdeeds hnew =>
        rw [hdeeds, List.mem_append] at hmem
        exact earlier (hmem.resolve_right (not_published hnew))
      | last new fact' payload' hdeeds hnew hdisk hnext hencode =>
        rw [hdeeds, List.mem_append, List.mem_append, List.mem_singleton] at hmem
        rcases hmem with hmem | hmem | hmem
        · exact earlier hmem
        · exact absurd hmem (not_published hnew)
        · cases hmem
          exact ⟨_, s, hencode, hs, howned⟩
    · subst ho'
      rw [hr.identity hg]
      exact hr.owned hg ho

end

end RssIncubator.Driver
