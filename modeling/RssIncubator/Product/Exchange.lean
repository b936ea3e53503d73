import RssIncubator.Broker.Fleet
import RssIncubator.Product.Commands

/-!
# What the product hears is what was asked for

The whole way there and back.  A request of the contracts is handed to the broker, signed, delivered, decoded and
applied; a fact about it is queued, encoded in the name of the device, published, decoded again and mapped into the model
of the product.  Whatever happens on the way to messages, sessions and processes, an acknowledgement or a report that
the product has is about a request that the service had sent to the device the product expects.
-/

namespace RssIncubator.Product

open Agent Broker Driver Lib

/-- The adapters of `wire.rs` over the contracts, with a verifier of broker assertions. -/
def contractWire (contracts : Contracts Bytes) (fromSlice : Bytes → Option ApplyRequest)
    (verify : DeviceIdentity → Publish → Bool) : Wire where
  decodeCommand identity commandId payload := decodeCommand fromSlice identity commandId.expose payload
  encodeOutbound := encodeOutbound contracts
  verifyCommand := verify
  decodeCommand_id h := by
    obtain ⟨request, -, hcarries⟩ := decodeCommand_eq_some.1 h
    exact commandId_ext hcarries.named

/-- The service has handed this request to the broker, for this device and under this name, or a payload of the same
SHA-256. -/
def Ordered {ι : Type} (fromSlice : Bytes → Option ApplyRequest) (fleet : Fleet ι) (device : Uuid) (commandId : String)
    (request : ApplyRequest) : Prop :=
  ∃ m ∈ fleet.messages, ∃ f : Frame, m.Commands f ∧ f.identity.device = device ∧ f.commandId.expose = commandId ∧
    fromSlice f.payload = some request ∧ request.deviceId = device

section

variable {contracts : Contracts Bytes} {fromSlice : Bytes → Option ApplyRequest} {verify : DeviceIdentity → Publish → Bool}
  {f : Frame} {call : Call} {fact : OutboundFact}

/-- A call keeps the name of the frame that leads to it. -/
theorem takes_name {wire : Wire} {d : Delivery} (ht : Takes wire f call) (hd : call.delivery = some d) :
    d.commandId = f.commandId.expose := by
  cases ht with
  | command hdecode =>
    cases hd
    exact congrArg CommandId.expose (wire.decodeCommand_id hdecode)
  | malformed hdecode =>
    cases hd
    rfl

/-- An acknowledgement names the command of the call it answers. -/
theorem from_name {e : String} {a : AckFact} {d : Delivery} (h : (OutboundFact.commandAcknowledged e a).From call)
    (hd : call.delivery = some d) : a.commandId = d.commandId := by
  cases h with
  | rejected hd' hid hrej =>
    rw [hd] at hd'
    cases hd'
    exact hid
  | received hid hrej hgen hfence =>
    cases hd
    exact hid

/-- A command that is applied is a request for the device. -/
theorem takes_request {topic : String} {command : DeviceCommand} {now : ℕ} {catalog : ArtifactCatalog}
    (ht : Takes (contractWire contracts fromSlice verify) f (.applyCommand topic command now catalog)) :
    ∃ request, fromSlice f.payload = some request ∧ Carries request f.identity f.commandId.expose command := by
  cases ht with
  | command hdecode => exact decodeCommand_eq_some.1 hdecode

end

section

variable {ι Key : Type} [DecidableEq ι] {library : Library Key} {key : Key} {ed25519 : Ed25519}
  {verifier : BrokerAssertionVerifier} {pki : ι → Pki} {contracts : Contracts Bytes}
  {fromSlice : Bytes → Option ApplyRequest} {moves : List (Move ι)} {i : ι} {context : MappingContext} {event : EventRef}

/-- The fleet on these contracts. -/
abbrev exchange (pki : ι → Pki) (contracts : Contracts Bytes) (fromSlice : Bytes → Option ApplyRequest) (ed25519 : Ed25519)
    (verifier : BrokerAssertionVerifier) (moves : List (Move ι)) : Fleet ι :=
  Fleet.run pki (fun _ => contractWire contracts fromSlice (verifyPublish ed25519 verifier)) moves

/-- What a device has published it was called for, and has encoded in its own name. -/
theorem exchange_published (works : library.Works) (hunforged : AtEvery (fun before move =>
      (exchange pki contracts fromSlice ed25519 verifier before).Unforged library key ed25519 verifier move) moves)
    {topic : String} {fact : OutboundFact} {payload : Bytes}
    (hpublished : .queued (.publish topic fact payload) ∈
      ((exchange pki contracts fromSlice ed25519 verifier moves).process i).deeds) :
    ∃ m ∈ (exchange pki contracts fromSlice ed25519 verifier moves).messages, ∃ f call identity, m.Commands f ∧
      Takes (contractWire contracts fromSlice (verifyPublish ed25519 verifier)) f call ∧ fact.From call ∧
      encodeOutbound contracts identity fact = some payload ∧ f.identity.device = identity.device := by
  have hvouched := (Fleet.holds_run works (fun _ => rfl) hunforged i).deeds
  have hwritten : Written (contractWire contracts fromSlice (verifyPublish ed25519 verifier))
      (manifest ((exchange pki contracts fromSlice ed25519 verifier moves).process i).device.tree)
      ((exchange pki contracts fromSlice ed25519 verifier moves).process i).deeds := by
    unfold exchange
    rw [Fleet.run_process]
    have hinductive : Inductive (pki i) (contractWire contracts fromSlice (verifyPublish ed25519 verifier)) _ _ _ :=
      written_inductive
    exact (hinductive.run fun _ _ _ _ _ _ _ _ _ _ => trivial).deeds
  obtain ⟨call, before, hasked, hfrom⟩ := hvouched.published _ _ _ hpublished
  obtain ⟨f, ⟨m, hm, hcommands⟩, htakes, s, hs, howned⟩ := hvouched.asked call before hasked hfrom.delivery
  obtain ⟨identity, s', hencode, hs', howned'⟩ := hwritten _ _ _ hpublished
  obtain rfl := Option.some.inj (hs.symm.trans hs')
  exact ⟨m, hm, f, call, identity, hcommands, htakes, hfrom, hencode, howned.2.trans howned'.2.symm⟩

/-- **What the product hears is what was asked for.**  Whatever clients send and whatever the line and the devices do, as
long as nobody else signs with the key of the plugin: an acknowledgement that the product has made of a payload some
device published names a command that the service had sent to the expected device; if it says `received`, its generation
and its fence are those of the request in this command; and so are those of a report, whose event names the command.
What was sent is known as far as SHA-256 tells payloads apart. -/
theorem heard_asked (works : library.Works) (faithful : contracts.Faithful) (hunforged : AtEvery (fun before move =>
      (exchange pki contracts fromSlice ed25519 verifier before).Unforged library key ed25519 verifier move) moves)
    {topic : String} {payload : Bytes} :
    let fleet := exchange pki contracts fromSlice ed25519 verifier moves
    (∀ e ack p a, .queued (.publish topic (.commandAcknowledged e ack) payload) ∈ (fleet.process i).deeds →
      contracts.ackedFromSlice payload = some p → mapAcknowledgement context event p = .ok a →
      (∃ m ∈ fleet.messages, ∃ f : Frame, m.Commands f ∧ f.identity.device = context.expectedDeviceId ∧
        f.commandId.expose = a.command.expose) ∧
      (a.outcome = .received → ∃ request, Ordered fromSlice fleet context.expectedDeviceId a.command.expose request ∧
        (a.position.desiredGeneration : ℕ) = request.desiredGeneration.1 ∧
        (a.position.fenceEpoch : ℕ) = request.fenceEpoch.1)) ∧
    ∀ e report p r, .queued (.publish topic (.certificateReported e report) payload) ∈ (fleet.process i).deeds →
      contracts.reportedFromSlice payload = some p → mapReport context event p = .ok r →
      ∃ commandId request, Ordered fromSlice fleet context.expectedDeviceId commandId request ∧
        e = eventId .report commandId ∧ (r.position.observedGeneration : ℕ) = request.desiredGeneration.1 ∧
        (r.position.fenceEpoch : ℕ) = request.fenceEpoch.1 := by
  dsimp only
  refine ⟨fun e ack p a hpublished hfrom hmap => ?_, fun e report p r hpublished hfrom hmap => ?_⟩
  · obtain ⟨m, hm, f, call, identity, hcommands, htakes, hanswers, hencode, hdevice⟩ := exchange_published works hunforged hpublished
    have harrives : AckArrives contracts identity context event ack a := ⟨payload, p, hencode, hfrom, hmap⟩
    obtain ⟨hsame, -, hexpected⟩ := harrives.same faithful
    obtain ⟨d, hd⟩ := Option.isSome_iff_exists.1 hanswers.delivery
    have hname : f.commandId.expose = a.command.expose := by
      rw [hsame.command, from_name hanswers hd, takes_name htakes hd]
    refine ⟨⟨m, hm, f, hcommands, hdevice.trans hexpected, hname⟩, fun hreceived => ?_⟩
    rw [hsame.outcome] at hreceived
    cases hanswers with
    | rejected hd' hid hrej =>
      rcases hrejection : ack.rejection with _ | rejection
      · exact absurd hrejection hrej
      · rw [hrejection] at hreceived
        cases hreceived
    | received hid hrej hgen hfence =>
      obtain ⟨request, hrequest, hcarries⟩ := takes_request htakes
      refine ⟨request, ⟨m, hm, f, hcommands, hdevice.trans hexpected, hname, hrequest,
        hcarries.addressed.trans (hdevice.trans hexpected)⟩, ?_, ?_⟩
      · rw [hsame.desiredGeneration, hgen, hcarries.desiredGeneration]
      · rw [hsame.fenceEpoch, hfence, hcarries.fenceEpoch]
  · obtain ⟨m, hm, f, call, identity, hcommands, htakes, hanswers, hencode, hdevice⟩ := exchange_published works hunforged hpublished
    have harrives : ReportArrives contracts identity context event report r := ⟨payload, p, hencode, hfrom, hmap⟩
    obtain ⟨hsame, -, hexpected⟩ := harrives.same faithful
    cases hanswers with
    | reported hid hgen hfence =>
      obtain ⟨request, hrequest, hcarries⟩ := takes_request htakes
      refine ⟨f.commandId.expose, request, ⟨m, hm, f, hcommands, hdevice.trans hexpected, rfl, hrequest,
        hcarries.addressed.trans (hdevice.trans hexpected)⟩, ?_, ?_, ?_⟩
      · rw [hid, hcarries.named]
      · rw [hsame.observedGeneration, hgen, hcarries.desiredGeneration]
      · rw [hsame.fenceEpoch, hfence, hcarries.fenceEpoch]

end

namespace Fixture

open Agent.Fixture Driver.Fixture Broker.Fixture
open Json (textMember numberMember)

/-- The members of a request. -/
def requestMembers (r : ApplyRequest) : List Json.Member :=
  [textMember "artifactDigest" r.artifactDigest, textMember "artifactId" r.artifactId,
    textMember "authorizationReceiptId" r.authorizationReceiptId.hyphenated,
    numberMember "deadlineEpochSeconds" r.deadlineEpochSeconds.1, numberMember "desiredGeneration" r.desiredGeneration.1,
    textMember "deviceId" r.deviceId.hyphenated, numberMember "fenceEpoch" r.fenceEpoch.1,
    textMember "intentDigest" r.intentDigest, textMember "policyHash" r.policyHash]

def requestText (r : ApplyRequest) : Bytes := utf8 (Json.encode (requestMembers r))

theorem requestText_injective : Function.Injective requestText := by
  rintro ⟨a, i, u, t, g, d, f, n, p⟩ ⟨a', i', u', t', g', d', f', n', p'⟩ h
  have hmembers := Json.encode_injective (utf8_inj.1 h)
  simp only [requestMembers, List.cons.injEq, Json.textMember_inj, Json.numberMember_inj, and_true, Nat.cast_inj] at hmembers
  obtain ⟨rfl, rfl, hu, ht, hg, hd, hf, rfl, rfl⟩ := hmembers
  obtain rfl := Broker.hyphenated_injective hu
  obtain rfl := Broker.hyphenated_injective hd
  obtain rfl := Subtype.ext ht
  obtain rfl := Subtype.ext hg
  obtain rfl := Subtype.ext hf
  rfl

/-- A text is a request that has it. -/
noncomputable def fromSlice : Bytes → Option ApplyRequest := Function.partialInv requestText

/-- The request of the command. -/
def request : ApplyRequest where
  artifactDigest := (command 0).artifactDigest.expose
  artifactId := (command 0).artifactId.expose
  authorizationReceiptId := (command 0).authorizationReceiptId
  deadlineEpochSeconds := (command 0).deadlineEpochSeconds
  desiredGeneration := (command 0).desiredGeneration
  deviceId := (command 0).deviceId
  fenceEpoch := (command 0).fenceEpoch
  intentDigest := (command 0).intentDigest.expose
  policyHash := (command 0).policyHash.expose

theorem fromSlice_command : fromSlice (commandPayload 0) = some request := Function.partialInv_left requestText_injective request

/-- A device of the product. -/
noncomputable def talking : Wire := contractWire contracts fromSlice (verifyPublish onlySignature ⟨[]⟩)

theorem talking_decodes : talking.decodeCommand (identity one) commandId (commandPayload 0) = some (command 0) :=
  decodeCommand_eq_some.2 ⟨request, fromSlice_command, ⟨rfl, by decide +kernel, rfl, rfl, rfl, rfl, rfl, rfl, rfl, rfl, rfl, rfl⟩⟩

theorem encodeAck_text {i : DeviceIdentity} {fact : AckFact} (event : String) (hid : validCommandId fact.commandId = true)
    (hgen : 0 < fact.desiredGeneration) (hfence : 0 < fact.fenceEpoch) (hseq : fact.deviceSequence ≤ i64Max) :
    encodeAck contracts i fact = some (factPayload i (.commandAcknowledged event fact)) := by
  rcases fact with ⟨name, generation, epoch, n, observed, _ | rejection⟩
  · unfold encodeAck
    simp only [accepted, contracts, hid, if_true, nonZero_eq hgen, nonZero_eq hfence, signed_eq_some.2 ⟨hseq, rfl⟩]
    rfl
  · unfold encodeAck
    simp only [accepted, contracts, hid, if_true, nonZero_eq hgen, nonZero_eq hfence, signed_eq_some.2 ⟨hseq, rfl⟩]
    cases rejection <;> rfl

theorem encodeReport_text {i : DeviceIdentity} {fact : ReportFact} (event : String) (hgen : 0 < fact.observedGeneration)
    (hfence : 0 < fact.fenceEpoch) (hstate : validDigest fact.stateHash = true) (hdigest : validDigest fact.artifactDigest = true)
    (hseq : fact.deviceSequence ≤ i64Max) :
    encodeReport contracts i fact = some (factPayload i (.certificateReported event fact)) := by
  unfold encodeReport
  simp only [accepted, contracts, hstate, hdigest, if_true, nonZero_eq hgen, nonZero_eq hfence, signed_eq_some.2 ⟨hseq, rfl⟩]
  rfl

/-- Both facts have the texts of the tests. -/
theorem talking_encodes (i : DeviceIdentity) (artifact : ResolvedArtifact)
    (hvalid : ((acceptedCommand Agent.Fixture.retention (command 0) artifact two now).report first.identity
      (saturatingAdd (saturatingAdd 0 1) 1)).SemanticValid) :
    talking.encodeOutbound i (turningFact 0 artifact) = some (factPayload i (turningFact 0 artifact)) ∧
      talking.encodeOutbound i (reportFact 0 artifact) = some (factPayload i (reportFact 0 artifact)) := by
  obtain ⟨-, hgen, hfence, -, -, -, -, -, hdigest, hstate⟩ := hvalid
  constructor
  · exact encodeAck_text _ commandId.valid (show 0 < 2 by decide) (show 0 < 2 by decide) (show 1 ≤ i64Max by decide)
  · exact encodeReport_text _ hgen hfence hstate hdigest (show 2 ≤ i64Max by decide)

/-- The command, and the rotation of the device it is for. -/
noncomputable abbrev exchanged (moves : List (Move Unit)) : Fleet Unit :=
  exchange (fun _ => Agent.Fixture.pki) contracts fromSlice onlySignature ⟨[]⟩ moves

end Fixture

open Agent.Fixture Driver.Fixture Broker.Fixture Fixture in
/-- The product hears of a rotation: that the command was received, and the report; the service had asked for both. -/
theorem heard_asked_rotation :
    (∃ p a, mapAcknowledgement context event p = .ok a ∧ a.outcome = .received ∧
      ∃ request, Ordered fromSlice (exchanged oneRotation) context.expectedDeviceId a.command.expose request ∧
        (a.position.desiredGeneration : ℕ) = request.desiredGeneration.1 ∧ (a.position.fenceEpoch : ℕ) = request.fenceEpoch.1) ∧
    ∃ p r, mapReport context event p = .ok r ∧
      ∃ name request, Ordered fromSlice (exchanged oneRotation) context.expectedDeviceId name request ∧
        (r.position.observedGeneration : ℕ) = request.desiredGeneration.1 ∧ (r.position.fenceEpoch : ℕ) = request.fenceEpoch.1 := by
  obtain ⟨artifact, hvalid, htells⟩ := rotation_over (w := talking) rfl talking_decodes talking_encodes
  have hack : .queued (.publish (commandAcknowledgedTopic (identity one)) (turningFact 0 artifact)
      (factPayload (identity one) (turningFact 0 artifact))) ∈ ((exchanged oneRotation).process ()).deeds :=
    (htells.published _ _ _).2 List.mem_cons_self
  have hreport : .queued (.publish (certificateReportedTopic (identity two)) (reportFact 0 artifact)
      (factPayload (identity two) (reportFact 0 artifact))) ∈ ((exchanged oneRotation).process ()).deeds :=
    (htells.published _ _ _).2 (List.mem_cons_of_mem _ (List.mem_singleton_self _))
  have hackText := (talking_encodes (identity one) artifact hvalid).1
  have hreportText := (talking_encodes (identity two) artifact hvalid).2
  obtain ⟨-, hgen, hfence, -, -, -, -, -, hdigest, hstate⟩ := hvalid
  have hmaps : ∃ text p a, encodeOutbound contracts (identity one) (turningFact 0 artifact) = some text ∧
      contracts.ackedFromSlice text = some p ∧ mapAcknowledgement context event p = .ok a ∧ SameAck context event _ a :=
    encodeAck_maps faithful rfl commandId.valid (show blank commandId.expose = false by decide +kernel) (show 0 < 2 by decide)
      (show 0 < 2 by decide) (show 1 ≤ i64Max by decide)
  have hmaps' : ∃ text p r, encodeOutbound contracts (identity two) (reportFact 0 artifact) = some text ∧
      contracts.reportedFromSlice text = some p ∧ mapReport context event p = .ok r ∧ SameReport context event _ r :=
    encodeReport_maps faithful rfl hgen hfence hstate hdigest (show 2 ≤ i64Max by decide)
  obtain ⟨text, p, a, hencode, hfrom, hmap, hsame⟩ := hmaps
  obtain ⟨text', p', r, hencode', hfrom', hmap', -⟩ := hmaps'
  obtain rfl : factPayload _ _ = text := Option.some.inj (hackText.symm.trans hencode)
  obtain rfl : factPayload _ _ = text' := Option.some.inj (hreportText.symm.trans hencode')
  have hanswered := (heard_asked Broker.Fixture.works faithful unforged_oneRotation).1 _ _ p a hack hfrom hmap
  obtain ⟨name, request, hordered, -, hpos⟩ :=
    (heard_asked Broker.Fixture.works faithful unforged_oneRotation).2 _ _ p' r hreport hfrom' hmap'
  exact ⟨⟨p, a, hmap, hsame.outcome, hanswered.2 hsame.outcome⟩, p', r, hmap', name, request, hordered, hpos⟩

end RssIncubator.Product
