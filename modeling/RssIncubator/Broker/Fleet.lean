import RssIncubator.Driver.Authority

/-!
# The broker and its devices

One broker plugin, and any number of devices that trust its key.  Clients hand messages to the broker, and every device
runs its processes on whatever comes over the line, in any order.  Nobody but the plugin signs with its key: that is the
one thing asked of the line, and no message need arrive, or arrive once, or in order.

What a device says in this system is said on a message of the service for this very device.
-/

namespace RssIncubator.Broker

open Agent Driver Lib

/-! ### What is signed -/

/-- The payload as the plugin reads it. -/
def Message.content (m : Message) : Option Bytes :=
  (if m.payloadlen = 0 then some [] else m.payload).map fun bytes => bytes.take m.payloadlen.toNat

/-- The message is a command of the service, in this frame.  Of the payload only the SHA-256 is signed, so the payload of
the message is that of the frame as far as SHA-256 tells. -/
structure Message.Commands (m : Message) (f : Frame) : Prop where
  topic : m.topic = some (utf8 f.identity.commandTopic)
  signable : Signable m
  correlation : correlations m.properties = [utf8 f.commandId.expose]
  payload : ∃ sent, m.content = some sent ∧ sha256 sent = sha256 f.payload

/-- A message is a command for one identity, with one name. -/
theorem Message.Commands.same {m : Message} {f g : Frame} (hf : m.Commands f) (hg : m.Commands g) :
    f.identity = g.identity ∧ f.commandId = g.commandId := by
  constructor
  · exact commandTopic_inj (utf8_inj.1 (Option.some.inj (hf.topic.symm.trans hg.topic)))
  · exact commandId_ext (utf8_inj.1 (List.singleton_inj.1 (hf.correlation.symm.trans hg.correlation)))

section

variable {Key : Type} {library : Library Key}

/-- What is signed for a message is its buffer, if anything is. -/
theorem signMessage_signed {key : Key} {principal topic bytes : Bytes} {m : Message} {value : Option Bytes} {length : UInt16}
    (h : bytes ∈ (signMessage library key principal m topic value length).2) : ∃ digest,
    (m.content.bind fun sent => library.evpDigest sent) = some digest ∧ digest.length = 32 ∧
      canonicalBuffer principal topic value length digest m.qos m.retain = some bytes := by
  unfold signMessage at h
  dsimp only at h
  split at h
  · cases h
  · rename_i digest hdigest
    have hcontent : (m.content.bind fun sent => library.evpDigest sent) = some digest := by
      rw [← hdigest, Message.content]
      cases (if m.payloadlen = 0 then some [] else m.payload) <;> rfl
    split_ifs at h with hlen hmalloc
    · cases h
    · split at h
      · cases h
      · rename_i canonical hcanonical
        have hbytes : bytes = canonical := by
          split at h
          · exact List.mem_singleton.1 h
          · split_ifs at h <;> exact List.mem_singleton.1 h
        exact ⟨digest, hcontent, not_not.1 hlen, hbytes ▸ hcanonical⟩
    · cases h

/-- **Only commands of the service are signed**, and what is signed is the frame. -/
theorem signed_cases (works : library.Works) (key : Key) {m : Message} {bytes : Bytes}
    (h : bytes ∈ (onMessage library .message (some m) (some key)).signed) :
    ∃ (i : DeviceIdentity) (c : CommandId) (sent : Bytes), m.topic = some (utf8 i.commandTopic) ∧ Signable m ∧
      correlations m.properties = [utf8 c.expose] ∧ m.content = some sent ∧
      canonicalBytes i.principalUrn ⟨i.commandTopic, sent, utf8 c.expose, 1, false, []⟩ = some bytes := by
  unfold onMessage at h
  dsimp only at h
  split at h
  · rename_i client topic hclient htopic
    split_ifs at h with hreserved hdownlink
    · cases h
    · unfold onDownlink at h
      split_ifs at h with hframe
      · cases h
      · simp only [not_or, not_not, Bool.not_eq_true] at hframe
        obtain ⟨rfl, hqos, hretain⟩ := hframe
        split at h
        · cases h
        · rename_i principal hprincipal
          obtain ⟨i, rfl⟩ := exists_identity hprincipal
          rw [commandPrincipal_commandTopic] at hprincipal
          obtain rfl := Option.some.inj hprincipal
          split at h
          · cases h
          · rename_i value length hcorrelation
            obtain ⟨c, hc, hlen, rfl⟩ := exactCorrelationData_some works hcorrelation
            have hsigned : bytes ∈ (signMessage library key (utf8 i.principalUrn) m (utf8 i.commandTopic)
                (some (utf8 c.expose)) length).2 := by
              split at h
              · rename_i hsign
                rw [hsign]
                exact h
              · rename_i hsign
                rw [hsign]
                exact h
            obtain ⟨digest, hdigest, hshort, hbuffer⟩ := signMessage_signed hsigned
            obtain ⟨sent, hsent, hdigest⟩ := Option.bind_eq_some_iff.1 hdigest
            rw [works.digest] at hdigest
            obtain rfl := Option.some.inj hdigest
            have hurn : (utf8 i.principalUrn).length < 2 ^ 32 := (principalUrn_length i).2.trans (by decide)
            obtain ⟨bytes', hbuffer', -, hbytes⟩ := canonicalBuffer_eq m.qos m.retain hurn (commandTopic_length i) hlen
              (fun _ => rfl) hshort
            obtain rfl := Option.some.inj (hbuffer'.symm.trans hbuffer)
            rw [hqos, hretain] at hbytes
            refine ⟨i, c, sent, htopic, ⟨hclient, hqos, hretain, ?_, c, hc⟩, hc, hsent, canonicalBytes_eq_some.2
              ⟨signedFields_short i c sent, hbytes.symm⟩⟩
            exact (hasReservedProperty_eq_false works).1 (Bool.eq_false_of_not_eq_true hreserved)
    · cases h
  · cases h

end

/-! ### The fleet -/

/-- What clients have handed to the broker, and the devices. -/
structure Fleet (ι : Type) where
  messages : List Message
  process : ι → Process

/-- A client hands a message to the broker, or something happens at a device. -/
inductive Move (ι : Type) where
  | message (m : Message)
  | device (i : ι) (input : Input)

namespace Fleet

variable {ι Key : Type}

def fresh : Fleet ι := ⟨[], fun _ => .fresh⟩

/-- What the plugin has signed. -/
def signed (library : Library Key) (key : Key) (fleet : Fleet ι) : List Bytes :=
  fleet.messages.flatMap fun m => (onMessage library .message (some m) (some key)).signed

/-- Every signature that comes to a device and verifies is one of the plugin. -/
def Unforged (library : Library Key) (key : Key) (ed25519 : Ed25519) (verifier : BrokerAssertionVerifier) (fleet : Fleet ι)
    (move : Move ι) : Prop :=
  ∀ i p ambient, move = .device i (.turn (.packet (.publish p)) ambient) → ∀ principal text signature bytes,
    assertionProperties p.userProperties = some (principal, text) → decodeUrlSafe (utf8 text) = some signature →
    ed25519 verifier.publicKey bytes signature = true → bytes ∈ fleet.signed library key

/-- The broker was handed a command in this frame. -/
def Commanded (fleet : Fleet ι) (f : Frame) : Prop := ∃ m ∈ fleet.messages, m.Commands f

variable [DecidableEq ι] (pki : ι → Pki) (wire : ι → Wire)

def step (fleet : Fleet ι) : Move ι → Fleet ι
  | .message m => { fleet with messages := fleet.messages ++ [m] }
  | .device i input =>
    { fleet with process := Function.update fleet.process i ((fleet.process i).step (pki i) (wire i) input) }

/-- The fleet after a list of moves. -/
def run (moves : List (Move ι)) : Fleet ι := moves.foldl (step pki wire) fresh

theorem run_concat (moves : List (Move ι)) (move : Move ι) :
    run pki wire (moves ++ [move]) = (run pki wire moves).step pki wire move := List.foldl_concat ..

/-- What holds of every device. -/
def Holds (fleet : Fleet ι) : Prop :=
  ∀ i, (fleet.process i).Holds (pki i) (Vouched (wire i) fleet.Commanded) Addressed

end Fleet

section

variable {Key : Type} {library : Library Key} {key : Key} {ed25519 : Ed25519} {verifier : BrokerAssertionVerifier}
  {messages : List Message} {wire : Wire}

/-- A delivery is a command that was handed to the broker, if its signature is the plugin's. -/
theorem commands_of_delivery (works : library.Works) {h : Host} {p : Publish} {delivery : CommandDelivery} (ha : Addressed h)
    (hverify : wire.verifyCommand = verifyPublish ed25519 verifier)
    (hunforged : ∀ principal text signature bytes, assertionProperties p.userProperties = some (principal, text) →
      decodeUrlSafe (utf8 text) = some signature → ed25519 verifier.publicKey bytes signature = true →
      ∃ m ∈ messages, bytes ∈ (onMessage library .message (some m) (some key)).signed)
    (hd : h.driver.session.commandDelivery wire p = .ok delivery) : ∃ m ∈ messages, m.Commands delivery.frame := by
  obtain ⟨htopic, ⟨correlation, hcorrelation, hname⟩, -, hverified⟩ := commandDelivery_cases hd
  obtain ⟨hown, -⟩ := ha.delivery hd
  have hverified' : verifier.verify ed25519 delivery.identity
      ⟨delivery.topic, p.payload, correlation, 1, p.retain, p.userProperties⟩ = true := by
    simpa only [hverify, verifyPublish, htopic, hcorrelation] using hverified
  obtain ⟨-, -, text, signature, bytes, hproperties, hdecode, -, hcanonical, hgenuine⟩ :=
    BrokerAssertionVerifier.verify_iff.1 hverified'
  obtain ⟨m, hm, hsigned⟩ := hunforged _ text signature bytes hproperties hdecode hgenuine
  obtain ⟨i, c, sent, hmtopic, hsignable, hmname, hsent, hbytes⟩ := signed_cases works key hsigned
  -- the frame that was signed is the one that was verified
  obtain ⟨-, htopic', hcorrelation', hdigest, -, -⟩ := canonicalBytes_inj hbytes hcanonical
  dsimp only at htopic' hcorrelation' hdigest
  obtain rfl : i = delivery.identity := commandTopic_inj (htopic'.trans hown.symm)
  refine ⟨m, hm, hmtopic, hsignable, ?_, sent, hsent, ?_⟩
  · rw [hmname, hcorrelation', ← fromUtf8_eq_some.1 hname]
    rfl
  · rw [hdigest, ← MqttSession.commandDelivery_publish hd]
    rfl

end

section

variable {ι Key : Type} [DecidableEq ι] {library : Library Key} {key : Key} {ed25519 : Ed25519}
  {verifier : BrokerAssertionVerifier} {pki : ι → Pki} {wire : ι → Wire} {fleet : Fleet ι}

omit [DecidableEq ι] in
theorem Fleet.Commanded.mono {fleet' : Fleet ι} (h : fleet.messages ⊆ fleet'.messages) {f : Frame}
    (hf : fleet.Commanded f) : fleet'.Commanded f := by
  obtain ⟨m, hm, hcommands⟩ := hf
  exact ⟨m, h hm, hcommands⟩

/-- **Whatever moves, every device speaks on the commands of the service.** -/
theorem Fleet.Holds.step (works : library.Works) (hverify : ∀ i, (wire i).verifyCommand = verifyPublish ed25519 verifier)
    (hfleet : fleet.Holds pki wire) {move : Move ι} (hunforged : fleet.Unforged library key ed25519 verifier move) :
    (fleet.step pki wire move).Holds pki wire := by
  cases move with
  | message m =>
    intro i
    obtain ⟨hsound, hagrees, hdeeds, hsession⟩ := hfleet i
    exact ⟨hsound, hagrees, hdeeds.mono fun f hf => hf.mono (List.subset_append_left _ _), hsession⟩
  | device i input =>
    have hmoved : ((fleet.process i).step (pki i) (wire i) input).Holds (pki i) (Vouched (wire i) fleet.Commanded) Addressed := by
      refine vouched_inductive.step (hfleet i) ?_
      rintro a driver poll ambient ha hstage rfl p delivery rfl hd
      exact commands_of_delivery works ((hfleet i).session a driver ha hstage) (hverify i)
        (fun principal text signature bytes h1 h2 h3 =>
          List.mem_flatMap.1 (hunforged i p ambient rfl principal text signature bytes h1 h2 h3)) hd
    intro j
    unfold Fleet.step
    by_cases hj : j = i
    · subst hj
      rw [show ({ fleet with process := Function.update fleet.process j ((fleet.process j).step (pki j) (wire j) input) } :
        Fleet ι).process j = _ from Function.update_self ..]
      exact hmoved
    · rw [show ({ fleet with process := Function.update fleet.process i ((fleet.process i).step (pki i) (wire i) input) } :
        Fleet ι).process j = _ from Function.update_of_ne hj ..]
      exact hfleet j

theorem Fleet.holds_run (works : library.Works) (hverify : ∀ i, (wire i).verifyCommand = verifyPublish ed25519 verifier)
    {moves : List (Move ι)}
    (hunforged : AtEvery (fun before move => (Fleet.run pki wire before).Unforged library key ed25519 verifier move) moves) :
    (Fleet.run pki wire moves).Holds pki wire := by
  induction moves using List.reverseRecOn with
  | nil =>
    intro i
    have hempty : (Process.fresh.run (pki i) (wire i) []).Holds (pki i)
        (Vouched (wire i) (Fleet.run pki wire []).Commanded) Addressed := vouched_inductive.run atEvery_nil
    exact hempty
  | append_singleton moves move ih =>
    obtain ⟨hbefore, hmove⟩ := atEvery_concat.1 hunforged
    rw [Fleet.run_concat]
    exact (ih hbefore).step works hverify hmove

/-- **No device speaks unasked.**  Every fact that a device of the fleet publishes answers a command that the service had
handed to the broker for this very device and for no other, whatever else clients send and whatever the line does to the
messages, as long as nobody else signs with the key of the plugin.  The payload that is answered has the SHA-256 of the
one that was handed over. -/
theorem never_unasked (works : library.Works) (hverify : ∀ i, (wire i).verifyCommand = verifyPublish ed25519 verifier)
    {moves : List (Move ι)}
    (hunforged : AtEvery (fun before move => (Fleet.run pki wire before).Unforged library key ed25519 verifier move) moves)
    {i : ι} {topic : String} {fact : OutboundFact} {payload : Bytes}
    (hpublished : .queued (.publish topic fact payload) ∈ ((Fleet.run pki wire moves).process i).deeds) :
    ∃ m ∈ (Fleet.run pki wire moves).messages, ∃ f call s, m.Commands f ∧ (∀ g, m.Commands g → g.identity = f.identity) ∧
      Takes (wire i) f call ∧ fact.From call ∧
      manifest ((Fleet.run pki wire moves).process i).device.tree = some s ∧ Owned f.identity s := by
  have hvouched := (Fleet.holds_run works hverify hunforged i).deeds
  obtain ⟨call, before, hasked, hfrom⟩ := hvouched.published topic fact payload hpublished
  obtain ⟨f, ⟨m, hm, hcommands⟩, htakes, s, hs, howned⟩ := hvouched.asked call before hasked hfrom.delivery
  exact ⟨m, hm, f, call, s, hcommands, fun g hg => (hg.same hcommands).1, htakes, hfrom, hs, howned⟩

/-- What happens at one device. -/
def Move.input (i : ι) : Move ι → Option Input
  | .message _ => none
  | .device j input => if j = i then some input else none

/-- What is handed to the broker. -/
def Move.toBroker : Move ι → Option Message
  | .message m => some m
  | .device _ _ => none

/-- Each device runs for itself. -/
theorem Fleet.run_process (moves : List (Move ι)) (i : ι) : (Fleet.run pki wire moves).process i =
    Process.fresh.run (pki i) (wire i) (moves.filterMap (Move.input i)) := by
  induction moves using List.reverseRecOn with
  | nil => rfl
  | append_singleton moves move ih =>
    rw [Fleet.run_concat, List.filterMap_append]
    cases move with
    | message m =>
      have hnone : [Move.message m].filterMap (Move.input i) = [] := rfl
      rw [hnone, List.append_nil]
      exact ih
    | device j input =>
      by_cases hj : j = i
      · subst hj
        simp [Fleet.step, Move.input, ih, Process.run_concat]
      · simpa [Fleet.step, Move.input, hj, Function.update_of_ne (Ne.symm hj)] using ih

/-- The messages are those of the clients. -/
theorem Fleet.run_messages (moves : List (Move ι)) :
    (Fleet.run pki wire moves).messages = moves.filterMap Move.toBroker := by
  induction moves using List.reverseRecOn with
  | nil => rfl
  | append_singleton moves move ih =>
    rw [Fleet.run_concat, List.filterMap_append, ← ih]
    cases move with
    | message m => rfl
    | device i input => exact (List.append_nil _).symm

end

namespace Fixture

open Agent.Fixture Driver.Fixture

/-- The command of the tests, as the service sends it. -/
def commandMessage : Message where
  client := some (some (utf8 serviceUsername))
  topic := some (utf8 topic)
  payload := some (commandPayload 0)
  payloadlen := UInt32.ofNat (commandPayload 0).length
  qos := 1
  retain := false
  properties := [.correlationData ⟨utf8 commandId.expose, by decide +kernel⟩]
  notAuthorized := false

/-- What the plugin signs for it. -/
def commandBytes : Bytes := frameBytes (Agent.Fixture.identity one) commandId (commandPayload 0)

/-- The signature of the one message is the only one there is. -/
def onlySignature : Ed25519 := fun _ data text => data = commandBytes ∧ text = signature commandBytes

/-- Its payload has few bytes, whatever its digests are. -/
theorem commandPayload_short : (commandPayload 0).length < 2 ^ 32 := by
  have hdigest : ∀ d : Sha256Digest, d.expose.utf8ByteSize = 71 := fun d => by
    rw [← length_utf8, utf8_length_of_validDigest d.valid]
  have huuid : ∀ u : Uuid, u.hyphenated.utf8ByteSize = 36 := fun u => by rw [← length_utf8, hyphenated_length]
  have hartifact : (command 0).artifactId.expose.utf8ByteSize = 31 := by decide
  have hdeadline : Json.width (Json.numberMember "deadlineEpochSeconds" (command 0).deadlineEpochSeconds.1) = 54 := by decide
  have hgeneration : Json.width (Json.numberMember "desiredGeneration" (command 0).desiredGeneration.1) = 39 := by decide
  have hfence : Json.width (Json.numberMember "fenceEpoch" (command 0).fenceEpoch.1) = 25 := by decide
  have hnames : "artifactDigest".utf8ByteSize + "artifactId".utf8ByteSize + "authorizationReceiptId".utf8ByteSize +
      "deviceId".utf8ByteSize + "intentDigest".utf8ByteSize + "policyHash".utf8ByteSize = 76 := by decide
  have hsize := Json.utf8ByteSize_encode (commandMembers (command 0))
  rw [commandPayload, length_utf8]
  simp only [commandMembers, List.map_cons, List.map_nil, List.sum_cons, List.sum_nil, Json.width_textMember, hdigest, huuid,
    hartifact, hdeadline, hgeneration, hfence] at hsize ⊢
  omega

theorem signed_commandMessage : commandBytes ∈ (onMessage libraries .message (some commandMessage) (some ())).signed := by
  have hsignable : Signable commandMessage := ⟨rfl, rfl, rfl, fun _ h => (by cases h), commandId, rfl⟩
  have hcarries : commandMessage.Carries (commandPayload 0) :=
    ⟨UInt32.toNat_ofNat_of_lt' commandPayload_short, fun _ => rfl⟩
  obtain ⟨bytes, signature, length, hmessage, -, -, -, -, hbytes⟩ :=
    onMessage_signs (i := Agent.Fixture.identity one) works () rfl hcarries hsignable (c := commandId) rfl
  rw [hmessage, hbytes]
  exact List.mem_singleton_self _

/-- A wire that verifies the one signature, and decodes the command, tells of it what the wire of the tests does. -/
theorem agrees_named {w : Wire} (hverify : w.verifyCommand = verifyPublish onlySignature ⟨[]⟩)
    (hdecode : w.decodeCommand (Agent.Fixture.identity one) commandId (commandPayload 0) = some (command 0)) :
    Driver.Fixture.wire.Agrees w (named commandId).publish := by
  have hverified : ∀ i, w.verifyCommand i (named commandId).publish = true ↔
      i.principalUrn = (Agent.Fixture.identity one).principalUrn := fun i => by
    rw [hverify]
    exact verifyPublish_publish (decide_eq_true ⟨rfl, rfl⟩)
  refine ⟨fun i => ?_, fun i name hi hname => ?_⟩
  · rw [Bool.eq_iff_iff, hverified]
    exact verify_publish.symm
  · obtain rfl := principalUrn_inj (verify_publish.1 hi)
    obtain rfl : name = commandId := commandId_ext (utf8_inj.1 (Option.some.inj hname)).symm
    exact hdecode.trans (if_pos rfl).symm

/-- The command, and the rotation of the device it is for. -/
def oneRotation : List (Move Unit) := .message commandMessage :: wholeRotation.map (.device ())

/-- The rotation over such a wire, if it has the texts of the two facts. -/
theorem rotation_over {w : Wire} (hverify : w.verifyCommand = verifyPublish onlySignature ⟨[]⟩)
    (hdecode : w.decodeCommand (Agent.Fixture.identity one) commandId (commandPayload 0) = some (command 0))
    (hencode : ∀ i artifact, ((acceptedCommand Agent.Fixture.retention (command 0) artifact two now).report first.identity
        (saturatingAdd (saturatingAdd 0 1) 1)).SemanticValid →
      w.encodeOutbound i (turningFact 0 artifact) = some (factPayload i (turningFact 0 artifact)) ∧
      w.encodeOutbound i (reportFact 0 artifact) = some (factPayload i (reportFact 0 artifact))) :
    ∃ artifact, ((acceptedCommand Agent.Fixture.retention (command 0) artifact two now).report first.identity
        (saturatingAdd (saturatingAdd 0 1) 1)).SemanticValid ∧
      Tells [toldAck artifact, toldReport artifact]
        ((Fleet.run (fun _ => Agent.Fixture.pki) (fun _ => w) oneRotation).process ()).deeds := by
  obtain ⟨artifact, deeds, -, -, -, htells, hvalid, d, tree, hs⟩ := at_rotation
  have hrun : Process.fresh.run Agent.Fixture.pki w wholeRotation =
      Process.fresh.run Agent.Fixture.pki Driver.Fixture.wire wholeRotation := by
    refine run_agrees (fun poll around h => ?_) (fun i topic fact payload hencoded h => ?_) fun h => ?_
    · obtain ⟨rfl, hpublish⟩ := rotation_inputs h
      exact ⟨rfl, fun p hp => hpublish p hp ▸ agrees_named hverify hdecode⟩
    · rw [hs.run] at h
      rcases List.mem_pair.1 ((htells.published _ _ _).1 h) with hfact | hfact <;> cases hfact
      · exact (hencode i artifact hvalid).1.trans hencoded
      · exact (hencode i artifact hvalid).2.trans hencoded
    · rw [hs.run] at h
      exact htells.unfailing _ h
  refine ⟨artifact, hvalid, ?_⟩
  have hinputs : oneRotation.filterMap (Move.input ()) = wholeRotation := rfl
  rw [Fleet.run_process, hinputs, hrun, hs.run]
  exact htells

theorem unforged_oneRotation {w : Wire} : AtEvery (fun before move =>
    (Fleet.run (fun _ => Agent.Fixture.pki) (fun _ : Unit => w) before).Unforged libraries () onlySignature ⟨[]⟩ move)
    oneRotation := by
  rintro before move hprefix i p ambient rfl principal text signature bytes hproperties hdecode hgenuine
  obtain ⟨rfl, -⟩ := of_decide_eq_true hgenuine
  -- the message has come before every delivery
  cases before with
  | nil =>
    have hfirst := (List.cons_prefix_cons.1 hprefix).1
    nomatch hfirst
  | cons first before =>
    obtain ⟨rfl, -⟩ := List.cons_prefix_cons.1 hprefix
    refine List.mem_flatMap.2 ⟨commandMessage, ?_, signed_commandMessage⟩
    rw [Fleet.run_messages]
    exact List.mem_cons_self

/-- The wire of the tests, with this verification. -/
def verifying : Wire := Driver.Fixture.wire.asserting onlySignature ⟨[]⟩

abbrev fleet (moves : List (Move Unit)) : Fleet Unit := Fleet.run (fun _ => Agent.Fixture.pki) (fun _ => verifying) moves

end Fixture

open Agent.Fixture Driver.Fixture Fixture in
/-- A device that rotates has its command for both of its facts. -/
theorem never_unasked_rotation : ∃ artifact, ∀ fact ∈ [turningFact 0 artifact, reportFact 0 artifact],
    ∃ m ∈ (fleet oneRotation).messages, ∃ f call s, m.Commands f ∧ (∀ g, m.Commands g → g.identity = f.identity) ∧
      Takes verifying f call ∧ fact.From call ∧ manifest ((fleet oneRotation).process ()).device.tree = some s ∧
      Owned f.identity s := by
  obtain ⟨artifact, -, htells⟩ := rotation_over (w := verifying) rfl (if_pos rfl) fun _ _ _ => ⟨rfl, rfl⟩
  have hverify : ∀ _ : Unit, verifying.verifyCommand = verifyPublish onlySignature ⟨[]⟩ := fun _ => rfl
  have hack : .queued (.publish (commandAcknowledgedTopic (Agent.Fixture.identity one)) (turningFact 0 artifact)
      (factPayload (Agent.Fixture.identity one) (turningFact 0 artifact))) ∈ ((fleet oneRotation).process ()).deeds :=
    (htells.published _ _ _).2 List.mem_cons_self
  have hreport : .queued (.publish (certificateReportedTopic (Agent.Fixture.identity two)) (reportFact 0 artifact)
      (factPayload (Agent.Fixture.identity two) (reportFact 0 artifact))) ∈ ((fleet oneRotation).process ()).deeds :=
    (htells.published _ _ _).2 (List.mem_cons_of_mem _ (List.mem_singleton_self _))
  unfold fleet at hack hreport ⊢
  refine ⟨artifact, fun fact hfact => ?_⟩
  rcases List.mem_pair.1 hfact with rfl | rfl
  · exact never_unasked works hverify unforged_oneRotation hack
  · exact never_unasked works hverify unforged_oneRotation hreport

end RssIncubator.Broker
