import RssIncubator.Broker.Signing
import RssIncubator.Driver.Credential
import RssIncubator.Driver.Wires

/-!
# The scope of a session, and what a signature authorises

The identity and the recovery scope of a session are chosen when it is opened and stay what they are.  The scope comes
from two fields of the persisted document, and its topic is that of its identity in every session of every run.  So a
command that is delivered is signed for the one identity its topic belongs to.
-/

namespace RssIncubator.Driver

open Agent Broker Lib Prog

/-! ### The scope does not change -/

/-- What a session was opened with. -/
structure Fixed (h h' : Host) : Prop where
  topics : h'.driver.session.topics = h.driver.session.topics
  session : h'.driver.session.recoveryCommand = h.driver.session.recoveryCommand
  driver : h'.driver.recoveryCommand = h.driver.recoveryCommand

section Scope

variable {pki : Pki} {wire : Wire} {ambient : Ambient} {h h₁ h' : Host} {event : MqttEvent} {control : DriverControl}

theorem Fixed.refl (h : Host) : Fixed h h := ⟨rfl, rfl, rfl⟩

theorem Fixed.trans (hf : Fixed h h₁) (hf' : Fixed h₁ h') : Fixed h h' :=
  ⟨hf'.topics.trans hf.topics, hf'.session.trans hf.session, hf'.driver.trans hf.driver⟩

theorem fixed_set (h : Host) (f : SessionState → SessionState) : Fixed h (h.set f) := ⟨rfl, rfl, rfl⟩

theorem fixed_asked {call : Call} {o : Outcome SessionError Reply} (hask : ask pki ambient call h = (o, h')) : Fixed h h' := by
  have hdriver := ask_driver hask
  exact ⟨by rw [hdriver], by rw [hdriver], by rw [hdriver]⟩

theorem fixed_unsubscribes (h : Host) (topic : String) : Fixed h (h.unsubscribes topic) := ⟨rfl, rfl, rfl⟩

theorem fixed_subscribes (h : Host) : Fixed h h.subscribes := ⟨rfl, rfl, rfl⟩

theorem fixed_observes (h : Host) (delivery : CommandDelivery) : Fixed h (h.observes delivery) := by
  unfold Host.observes
  split
  · exact fixed_set _ _
  · exact .refl h

theorem fixed_polled {p : Packet} {session : MqttSession} (hp : h.driver.session.Polls wire p event session) :
    Fixed h (h.polled p event session) := by
  cases hp <;> exact ⟨rfl, rfl, rfl⟩

theorem Marks.fixed (hm : Marks pki ambient h h') : Fixed h h' := by
  cases hm with
  | unmarked hrec => exact .refl h
  | marked hrec hask => exact fixed_asked hask

theorem Absents.fixed (ha : Absents pki ambient h h') : Fixed h h' := by
  cases ha with
  | absent hscope hobs hset hask => exact fixed_asked hask
  | present hno => exact .refl h

theorem Listens.fixed (hl : Listens ambient h h') : Fixed h h' := by
  cases hl with
  | recovery hdriver hscope => exact fixed_unsubscribes _ _
  | subscribe hdriver hshut hflight hopen => exact fixed_subscribes _
  | wait hdriver hno => exact .refl h

theorem Confirms.fixed (hc : Confirms ambient h h' control) : Fixed h h' := by
  cases hc with
  | exit hrec hsub hset => exact .refl h
  | unsubscribe hrec hset hcan => exact (fixed_set _ _).trans (fixed_unsubscribes _ _)
  | ready hrec hno hcan => exact fixed_set _ _
  | subscribe hrec hsub hshut hopen => exact fixed_subscribes _
  | idle hrec hno => exact .refl h

theorem Completes.fixed (hc : Completes ambient h h' control) : Fixed h h' := by
  cases hc with
  | exit hready hset => exact .refl h
  | subscribe hno hflight hshut hopen => exact fixed_subscribes _
  | idle hno hclosed => exact .refl h

theorem Stops.fixed (hs : Stops h h') : Fixed h h' := by
  cases hs with
  | unsubscribe hcan => exact (fixed_set _ _).trans (fixed_unsubscribes _ _)
  | wait => exact fixed_set _ _

theorem Heads.fixed {o : Outcome SessionError (Option SessionCompletion)} (hh : Heads wire h o h') : Fixed h h' := by
  cases hh with
  | published hcan hnext hencode => exact ⟨rfl, rfl, rfl⟩
  | quiet => exact .refl h
  | disconnected => exact ⟨rfl, rfl, rfl⟩
  | failed he => exact .refl h

theorem Handled.fixed (hh : Handled pki wire ambient h event h' control) : Fixed h h' := by
  cases hh with
  | connected hmark hlisten => exact ((fixed_set _ _).trans hmark.fixed).trans hlisten.fixed
  | subscribed => exact fixed_set _ _
  | held hask hhold =>
    exact ((fixed_observes _ _).trans (fixed_asked hask)).trans ⟨rfl, rfl, rfl⟩
  | acked hask hreply hopen hshut =>
    exact ((fixed_observes _ _).trans (fixed_asked hask)).trans ⟨rfl, rfl, rfl⟩
  | confirmed hpending hask hnext => exact ((fixed_set _ _).trans (fixed_asked hask)).trans hnext.fixed
  | released hheld => exact ⟨rfl, rfl, rfl⟩
  | unsubscribed hheld habsent hnext => exact ((fixed_set _ _).trans habsent.fixed).trans hnext.fixed
  | inboundOther => exact .refl h
  | inboundSettled hask hcontrol => exact fixed_asked hask
  | progress => exact .refl h

theorem Rounds.fixed {poll : Poll} (hr : Rounds pki wire ambient h poll (.ok none) h') : Fixed h h' := by
  cases hr with
  | handled hpoll hhandled hhead =>
    exact ((fixed_polled (MqttSession.poll_cases hpoll)).trans hhandled.fixed).trans hhead.fixed
  | stopping hstop hhead => exact hstop.fixed.trans hhead.fixed
  | nothing hpoll => exact .refl h

end Scope

/-! ### It is the scope of its identity -/

/-- The two copies of the recovery scope agree, and its topic is that of its identity. -/
structure Scoped (h : Host) : Prop where
  copies : h.driver.session.recoveryCommand = h.driver.recoveryCommand
  topic : ∀ scope, h.driver.recoveryCommand = some scope → scope.topic = scope.identity.commandTopic

section Runs

variable {pki : Pki} {wire : Wire}

theorem Scoped.fixed {h h' : Host} (hs : Scoped h) (hf : Fixed h h') : Scoped h' :=
  ⟨by rw [hf.session, hf.driver, hs.copies], fun scope hscope => hs.topic scope (hf.driver ▸ hscope)⟩

/-- The pending delivery is kept with the generation of its topic. -/
theorem pendingCommandScope_topic {a : Running} {scope : RecoveryCommandScope} (hs : a.state.Coherent)
    (h : a.pendingCommandScope = .ok (some scope)) : scope.topic = scope.identity.commandTopic := by
  unfold Running.pendingCommandScope at h
  split at h
  · cases h
  · rename_i pending hpending
    simp only [except_bind_ok, mapError_eq_ok, Running.currentIdentity, StateV1.currentIdentity_eq_ok, NonZeroU64.tryFrom_eq_ok,
      DeviceIdentity.tryNew_eq_ok] at h
    obtain ⟨current, ⟨htenant, hdevice, -⟩, generation, hgeneration, identity, ⟨h1, h2, h3⟩, heq⟩ := h
    obtain rfl := Option.some.inj (Except.ok.inj heq)
    obtain ⟨known, k1, k2, k3, -, -, htopic, -⟩ := hs.consistent.pending pending hpending
    have hgen : known.credentialGeneration = identity.credentialGeneration := Subtype.ext (by rw [k3, h3, hgeneration])
    rw [htopic]
    unfold DeviceIdentity.commandTopic
    rw [k1, k2, hgen, h1, h2, htenant, hdevice]

theorem scoped_inductive : Inductive pki wire (fun _ _ _ => True) (fun _ _ => True) Scoped where
  fresh := trivial
  first _ _ := trivial
  ended _ _ := trivial
  opened {h readable} hg hcreate _ := by
    obtain ⟨identity, recoveryCommand, -, hscope, hdriver⟩ := create_cases hcreate
    refine ⟨trivial, ?_, ?_⟩
    · rw [hdriver]
      rfl
    · intro scope h
      rw [hdriver] at h
      exact pendingCommandScope_topic hg.coherent (hscope.trans (congrArg _ h))
  round hg _ hk _ hr := ⟨trivial, fun ho => hk.fixed (by subst ho; exact hr.fixed)⟩

end Runs

/-! ### What a signature authorises -/

/-- `verify_command`, as `command_delivery` calls it. -/
def verifyPublish (ed25519 : Ed25519) (verifier : BrokerAssertionVerifier) (identity : DeviceIdentity) (p : Publish) : Bool :=
  match fromUtf8 p.topic, p.correlationData with
  | some topic, some correlation =>
    verifier.verify ed25519 identity ⟨topic, p.payload, correlation, 1, p.retain, p.userProperties⟩
  | _, _ => false

/-- The adapters with this verifier. -/
def Wire.asserting (wire : Wire) (ed25519 : Ed25519) (verifier : BrokerAssertionVerifier) : Wire :=
  { wire with verifyCommand := verifyPublish ed25519 verifier }

theorem Wire.asserting_verifyCommand (wire : Wire) (ed25519 : Ed25519) (verifier : BrokerAssertionVerifier) :
    (wire.asserting ed25519 verifier).verifyCommand = verifyPublish ed25519 verifier := rfl

section Authority

variable {wire : Wire} {m : MqttSession} {p : Publish} {delivery : CommandDelivery}

/-- The identity of a topic that is in scope is the one of the topic. -/
theorem commandIdentity_topic {topic commandId : String} {identity : DeviceIdentity}
    (hscope : ∀ scope, m.recoveryCommand = some scope → scope.topic = scope.identity.commandTopic)
    (h : m.commandIdentity topic commandId = some identity) : identity.commandTopic = topic := by
  unfold MqttSession.commandIdentity at h
  split_ifs at h with haccepts
  · cases h
    exact (of_decide_eq_true haccepts).symm
  · obtain ⟨scope, hfilter, rfl⟩ := Option.map_eq_some_iff.1 h
    obtain ⟨hsome, hmatch⟩ := Option.filter_eq_some_iff.1 hfilter
    rw [← hscope scope hsome]
    exact (of_decide_eq_true hmatch).1

end Authority

/-- **A signature authorises one command frame.**  Signed bytes belong to one principal, topic, correlation, digest,
quality of service and retain bit.  What a session of any run delivers is signed for the only identity its topic belongs
to, and the signed bytes are those of that publication alone. -/
theorem signature_authorises (pki : Pki) (wire : Wire) (ed25519 : Ed25519) (verifier : BrokerAssertionVerifier) :
    (∀ principal principal' frame frame' bytes, canonicalBytes principal frame = some bytes →
      canonicalBytes principal' frame' = some bytes → principal = principal' ∧ frame.topic = frame'.topic ∧
        frame.correlation = frame'.correlation ∧ sha256 frame.payload = sha256 frame'.payload ∧
        frame.qos = frame'.qos ∧ frame.retain = frame'.retain) ∧
    ∀ inputs a driver p delivery,
      (Process.fresh.run pki (wire.asserting ed25519 verifier) inputs).device.agent = some a →
      (Process.fresh.run pki (wire.asserting ed25519 verifier) inputs).stage = .session driver →
      driver.session.commandDelivery (wire.asserting ed25519 verifier) p = .ok delivery →
      utf8 delivery.identity.commandTopic = p.topic ∧ (∀ i : DeviceIdentity, utf8 i.commandTopic = p.topic → i = delivery.identity) ∧
      ∃ correlation text signature signed, p.correlationData = some correlation ∧
        assertionProperties p.userProperties = some (delivery.identity.principalUrn, text) ∧
        decodeUrlSafe (utf8 text) = some signature ∧ ed25519 verifier.publicKey signed signature = true ∧
        (∃ frame, canonicalBytes delivery.identity.principalUrn frame = some signed) ∧
        ∀ principal frame, canonicalBytes principal frame = some signed →
          principal = delivery.identity.principalUrn ∧ utf8 frame.topic = p.topic ∧ frame.correlation = correlation ∧
          sha256 frame.payload = sha256 p.payload ∧ (CollisionFree [frame.payload, p.payload] → frame.payload = p.payload) ∧
          frame.qos = 1 ∧ frame.retain = false := by
  refine ⟨fun _ _ _ _ _ h h' => canonicalBytes_inj h h', ?_⟩
  intro inputs a driver p delivery hagent hstage hdelivery
  have hscoped := (scoped_inductive.run fun _ _ _ _ _ _ _ _ _ _ => trivial).session a driver hagent hstage
  obtain ⟨htopic, ⟨correlation, hcorrelation, -⟩, hidentity, hverify⟩ := commandDelivery_cases hdelivery
  have hown : delivery.identity.commandTopic = delivery.topic :=
    commandIdentity_topic (fun scope hscope => hscoped.topic scope (hscoped.copies ▸ hscope)) hidentity
  have hbytes : utf8 delivery.topic = p.topic := fromUtf8_eq_some.1 htopic
  have hverified : verifier.verify ed25519 delivery.identity
      ⟨delivery.topic, p.payload, correlation, 1, p.retain, p.userProperties⟩ = true := by
    simpa only [Wire.asserting_verifyCommand, verifyPublish, htopic, hcorrelation] using hverify
  obtain ⟨-, hretain, text, signature, signed, hproperties, hdecode, -, hsigned, hgenuine⟩ :=
    BrokerAssertionVerifier.verify_iff.1 hverified
  refine ⟨by rw [hown, hbytes], fun i hi => ?_, correlation, text, signature, signed, hcorrelation, hproperties, hdecode,
    hgenuine, ⟨_, hsigned⟩, fun principal frame hframe => ?_⟩
  · refine commandTopic_inj (utf8_inj.1 ?_)
    rw [hi, hown, hbytes]
  · obtain ⟨h1, h2, h3, h4, h5, h6⟩ := canonicalBytes_inj hframe hsigned
    refine ⟨h1, by rw [h2, hbytes], h3, h4, fun hfree => ?_, h5, h6.trans hretain⟩
    exact hfree.eq List.mem_cons_self (List.mem_cons_of_mem _ List.mem_cons_self) h4

namespace Fixture

open Agent.Fixture

/-- The wire has no part in the opening of a session. -/
theorem run_starting (w : Wire) : (Process.fresh.run Agent.Fixture.pki w starting).device.agent = some ⟨first, retention⟩ ∧
    (Process.fresh.run Agent.Fixture.pki w starting).stage = .session opened := by
  obtain ⟨tree, hs⟩ := at_opened (E := fun _ _ _ => True)
  have hrun : Process.fresh.run Agent.Fixture.pki w starting = Process.fresh.run Agent.Fixture.pki wire starting := by
    refine run_agrees (fun poll ambient h => ?_) (fun identity topic fact payload _ h => ?_) fun h => ?_
    · simp [starting] at h
    · simp [hs.run] at h
    · simp [hs.run] at h
  rw [hrun, hs.run]
  exact ⟨rfl, rfl⟩

/-- The publications of the broker are verified for the identity of their principal, and for no other. -/
theorem verifyPublish_publish {ed25519 : Ed25519} {verifier : BrokerAssertionVerifier} {owner identity : DeviceIdentity}
    {commandId : CommandId} {payload : Bytes} (hgenuine : ed25519 verifier.publicKey (frameBytes owner commandId payload)
      (signature (frameBytes owner commandId payload)) = true) :
    verifyPublish ed25519 verifier identity (publish owner commandId payload) = true ↔
      identity.principalUrn = owner.principalUrn := by
  have htopic : fromUtf8 (publish owner commandId payload).topic = some owner.commandTopic := fromUtf8_utf8 _
  have hproperties : assertionProperties (publish owner commandId payload).userProperties =
      some (owner.principalUrn, signatureText (signature (frameBytes owner commandId payload))) := assertionProperties_append (by simp)
  unfold verifyPublish
  rw [htopic]
  dsimp only [publish]
  rw [BrokerAssertionVerifier.verify_iff]
  constructor
  · rintro ⟨-, -, text, _, _, hproperties', -⟩
    exact (Prod.mk.inj (Option.some.inj (hproperties'.symm.trans hproperties))).1
  · intro hprincipal
    rw [hprincipal]
    refine ⟨rfl, rfl, _, signature (frameBytes owner commandId payload), frameBytes owner commandId payload, hproperties, ?_, ?_,
      canonicalBytes_eq_some.2 ⟨signedFields_short owner commandId payload, rfl⟩, hgenuine⟩
    · rw [utf8_signatureText, decodeUrlSafe_encodeUrlSafe]
    · rw [signature, List.length_append, sha256_length]

/-- The verification that goes with these signatures. -/
def asserting : Wire := wire.asserting Broker.Fixture.ed25519 ⟨[]⟩

end Fixture

open Fixture Agent.Fixture in
/-- The first session delivers the command to its identity. -/
theorem signature_authorises_first :
    opened.session.commandDelivery asserting (named commandId).publish = .ok (named commandId) ∧
    ∀ i : DeviceIdentity, utf8 i.commandTopic = (named commandId).publish.topic → i = identity one := by
  have hscope : opened.session.commandIdentity (identity one).commandTopic commandId.expose = some (identity one) :=
    if_pos (by simp [MqttSession.acceptsCommand, opened, MqttSession.new])
  have hsigned : asserting.verifyCommand (identity one) (named commandId).publish = true := by
    rw [asserting, Wire.asserting_verifyCommand]
    exact (verifyPublish_publish (decide_eq_true rfl)).2 rfl
  have hdelivery : opened.session.commandDelivery asserting (named commandId).publish = .ok (named commandId) :=
    MqttSession.commandDelivery_ok (fromUtf8_utf8 _) rfl (fromUtf8_utf8 _) hscope hsigned
  obtain ⟨hagent, hstage⟩ := run_starting asserting
  exact ⟨hdelivery, ((signature_authorises Agent.Fixture.pki wire Broker.Fixture.ed25519 ⟨[]⟩).2 starting _ opened
    (named commandId).publish _ hagent hstage hdelivery).2.1⟩

end RssIncubator.Driver
