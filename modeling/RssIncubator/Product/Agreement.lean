import RssIncubator.Agent.Acceptance
import RssIncubator.Agent.Identity
import RssIncubator.Broker.Topic
import RssIncubator.Lib.Json
import RssIncubator.Product.Mapping
import Mathlib.Data.PNat.Basic

/-!
# The device and the product agree on facts

What the device encodes the product maps to the same values.  The rules on both sides are not the same: a command
identity may be blank on the device and may not in the product, and a sequence number has 64 bits on the device and
63 in the contracts.  Outside of these two cases nothing is lost.
-/

namespace RssIncubator.Product

open Agent Lib

/-! ### What is accepted on both sides -/

theorem tryFrom_eq_ok {kind value : String} (h : validateReference value kind = .ok ()) :
    Reference.tryFrom kind value = .ok ⟨value, h⟩ := by
  unfold Reference.tryFrom
  split
  · rfl
  · rename_i e he
    rw [h] at he
    cases he

theorem tryFrom_eq_error {kind value : String} {e : RotationModelError} (h : validateReference value kind = .error e) :
    Reference.tryFrom kind value = .error e := by
  unfold Reference.tryFrom
  split
  · rename_i hok
    rw [h] at hok
    cases hok
  · rename_i e' he
    rw [h] at he
    exact congrArg _ (Except.error.inj he).symm

theorem validateReference_commandId {value : String} (kind : String) (h : validCommandId value = true)
    (hblank : blank value = false) : validateReference value kind = .ok () := by
  simp only [validCommandId, Bool.and_eq_true, Bool.not_eq_true'] at h
  simp [validateReference, hblank, h.2]

/-- A digest is a text of 64 digits behind its name. -/
theorem exists_digest {value : String} (h : validDigest value = true) : ∃ b : Bytes, value = "sha256:" ++ hex b := by
  simp only [validDigest, Bool.and_eq_true, decide_eq_true_eq, List.all_eq_true] at h
  obtain ⟨⟨hlen, rest, hrest⟩, hhex⟩ := h
  have h7 : (utf8 "sha256:").length = 7 := by decide
  rw [← hrest, ← h7, List.drop_left] at hhex
  rw [← hrest, List.length_append, h7] at hlen
  obtain ⟨b, -, hb⟩ := Broker.exists_hex 32 (l := rest) (by omega) hhex
  exact ⟨b, utf8_inj.1 (by rw [utf8_append, hb, hrest])⟩

theorem validateReference_digest {value : String} (kind : String) (h : validDigest value = true) :
    validateReference value kind = .ok () := by
  obtain ⟨b, rfl⟩ := exists_digest h
  have hdigit : ∀ m < 16, isControl (hexDigit m) = false := by
    intro m hm
    interval_cases m <;> rfl
  have hblank : blank ("sha256:" ++ hex b) = false := by
    simp [blank, isWhitespace]
  have hcontrol : ("sha256:" ++ hex b).toList.any isControl = false := by
    rw [String.toList_append, List.any_append, Bool.or_eq_false_iff]
    refine ⟨by decide, List.any_eq_false.2 fun c hc => ?_⟩
    rw [hex, String.toList_ofList, List.mem_flatMap] at hc
    obtain ⟨x, -, hx⟩ := hc
    have hlt := x.toNat_lt
    rw [List.mem_cons, List.mem_singleton] at hx
    rcases hx with rfl | rfl
    · rw [hdigit _ (by omega)]
      exact Bool.false_ne_true
    · rw [hdigit _ (by omega)]
      exact Bool.false_ne_true
  unfold validateReference
  rw [hblank, hcontrol]
  rfl

theorem nonZero_eq {value : ℕ} (h : 0 < value) : nonZero value = some ⟨value, h⟩ := dif_pos h

theorem generation_val (n : ℕ+) : generation n = .ok n := by
  unfold generation
  rw [nonZero_eq n.pos]
  rfl

theorem fenceEpoch_val (n : ℕ+) : fenceEpoch n = .ok n := by
  unfold fenceEpoch
  rw [nonZero_eq n.pos]
  rfl

theorem sequence_val (value : ℕ) : sequence value = .ok value := by simp [sequence]

/-! ### Agreement -/

/-- The contracts, as the device and the product rely on them: they accept what the device accepts, and what was
accepted comes back from its JSON form. -/
structure Contracts.Faithful {Text : Type} (contracts : Contracts Text) : Prop where
  receivedCommandId : ∀ {value}, validCommandId value = true → contracts.receivedCommandId value = true
  rejectedCommandId : ∀ {value}, validCommandId value = true → contracts.rejectedCommandId value = true
  stateHash : ∀ {value}, validDigest value = true → contracts.reportedStateHash value = true
  artifactDigest : ∀ {value}, validDigest value = true → contracts.reportedArtifactDigest value = true
  received : ∀ fields, contracts.receivedCommandId fields.commandId = true →
    ∃ text, contracts.ackedToVec (.receivedPayload fields) = some text ∧
      contracts.ackedFromSlice text = some (.receivedPayload fields)
  rejected : ∀ fields, contracts.rejectedCommandId fields.commandId = true →
    ∃ text, contracts.ackedToVec (.rejectedPayload fields) = some text ∧
      contracts.ackedFromSlice text = some (.rejectedPayload fields)
  reported : ∀ payload, contracts.reportedStateHash payload.stateHash = true →
    contracts.reportedArtifactDigest payload.artifactDigest = true →
    ∃ text, contracts.reportedToVec payload = some text ∧ contracts.reportedFromSlice text = some payload

/-- The reason of the same name. -/
def sameReason : CommandRejection → CommandRejectionReason
  | .artifactUnavailable => .artifactUnavailable
  | .artifactDigestMismatch => .artifactDigestMismatch
  | .policyRejected => .policyRejected
  | .generationStale => .generationStale
  | .fenceEpochStale => .fenceEpochStale
  | .malformedCommand => .malformedCommand
  | .deviceFailure => .deviceFailure

theorem productReason_rejectionReason (r : CommandRejection) : productReason (rejectionReason r) = sameReason r := by
  cases r <;> rfl

/-- The acknowledgement has the values of the fact. -/
structure SameAck (context : MappingContext) (event : EventRef) (fact : AckFact) (a : CommandAcknowledgement) : Prop where
  coordinates : a.coordinates = context.coordinates
  event : a.event = event
  command : a.command.expose = fact.commandId
  desiredGeneration : (a.position.desiredGeneration : ℕ) = fact.desiredGeneration
  fenceEpoch : (a.position.fenceEpoch : ℕ) = fact.fenceEpoch
  deviceSequence : a.position.deviceSequence = fact.deviceSequence
  observedAt : a.position.observedAt = fact.observedAt
  outcome : a.outcome = fact.rejection.elim .received fun r => .rejected (sameReason r)

/-- The report has the values of the fact. -/
structure SameReport (context : MappingContext) (event : EventRef) (fact : ReportFact) (r : CredentialReport) : Prop where
  coordinates : r.coordinates = context.coordinates
  event : r.event = event
  observedGeneration : (r.position.observedGeneration : ℕ) = fact.observedGeneration
  fenceEpoch : (r.position.fenceEpoch : ℕ) = fact.fenceEpoch
  deviceSequence : r.position.deviceSequence = fact.deviceSequence
  observedAt : r.position.observedAt = fact.observedAt
  stateHash : r.stateHash.expose = fact.stateHash
  artifactDigest : r.artifactDigest.expose = fact.artifactDigest
  expiresAt : r.expiresAt = fact.expiresAt

section Agreement

variable {Text : Type} {contracts : Contracts Text} {identity : DeviceIdentity} {context : MappingContext} {event : EventRef}

/-- The common part of the mapper on fields that the device wrote: all depends on the identity of the command. -/
theorem ack_eq {Reason Result : Type} {fields : AckedFields Reason Result} {n : ℕ} (outcome : CommandAcknowledgementOutcome)
    (hseq : fields.deviceSequence = n) :
    ack context event fields outcome =
      ((Reference.tryFrom "command_ref" fields.commandId).mapError .invalidProductReference).map fun command =>
        ⟨context.coordinates, event, command, ⟨fields.desiredGeneration, fields.fenceEpoch, n, fields.observedAt⟩, outcome⟩ := by
  unfold ack
  rw [generation_val, fenceEpoch_val, hseq, sequence_val]
  rcases Reference.tryFrom "command_ref" fields.commandId with e | command
  · rfl
  · rfl

theorem requireDevice_eq {device : Uuid} (h : device = context.expectedDeviceId) : context.requireDevice device = .ok () :=
  if_pos h

theorem mapAcknowledgement_received {fields : AckedFields ReceivedReason ReceivedResult}
    (h : fields.deviceId = context.expectedDeviceId) :
    mapAcknowledgement context event (.receivedPayload fields) = ack context event fields .received := by
  show (context.requireDevice fields.deviceId >>= fun _ => ack context event fields _) = _
  rw [requireDevice_eq h]
  rfl

theorem mapAcknowledgement_rejected {fields : AckedFields RejectedReason RejectedResult}
    (h : fields.deviceId = context.expectedDeviceId) :
    mapAcknowledgement context event (.rejectedPayload fields) =
      ack context event fields (.rejected (productReason fields.reason)) := by
  show (context.requireDevice fields.deviceId >>= fun _ => ack context event fields _) = _
  rw [requireDevice_eq h]
  rfl

/-- An acknowledgement within the limits reaches the mapper, which asks no more than that its identity is a reference. -/
theorem encodeAck_reaches (faithful : contracts.Faithful) (hcontext : context.expectedDeviceId = identity.device)
    (event : EventRef) {fact : AckFact} (hid : validCommandId fact.commandId = true) (hgen : 0 < fact.desiredGeneration)
    (hfence : 0 < fact.fenceEpoch) (hseq : fact.deviceSequence ≤ i64Max) :
    ∃ text payload, encodeAck contracts identity fact = some text ∧ contracts.ackedFromSlice text = some payload ∧
      mapAcknowledgement context event payload =
        ((Reference.tryFrom "command_ref" fact.commandId).mapError .invalidProductReference).map fun command =>
          ⟨context.coordinates, event, command,
            ⟨⟨fact.desiredGeneration, hgen⟩, ⟨fact.fenceEpoch, hfence⟩, fact.deviceSequence, fact.observedAt⟩,
            fact.rejection.elim .received fun r => .rejected (sameReason r)⟩ := by
  unfold encodeAck
  rw [nonZero_eq hgen, nonZero_eq hfence, signed_eq_some.2 ⟨hseq, rfl⟩]
  cases fact.rejection with
  | none =>
    have haccepts := faithful.receivedCommandId hid
    obtain ⟨text, hto, hfrom⟩ := faithful.received ⟨fact.commandId, ⟨fact.desiredGeneration, hgen⟩, identity.device,
      fact.deviceSequence, ⟨fact.fenceEpoch, hfence⟩, fact.observedAt, .none, .received⟩ haccepts
    refine ⟨text, _, ?_, hfrom, ?_⟩
    · simp only [accepted, haccepts, if_true]
      exact hto
    · rw [mapAcknowledgement_received hcontext.symm]
      exact ack_eq .received rfl
  | some r =>
    have haccepts := faithful.rejectedCommandId hid
    obtain ⟨text, hto, hfrom⟩ := faithful.rejected ⟨fact.commandId, ⟨fact.desiredGeneration, hgen⟩, identity.device,
      fact.deviceSequence, ⟨fact.fenceEpoch, hfence⟩, fact.observedAt, rejectionReason r, .rejected⟩ haccepts
    refine ⟨text, _, ?_, hfrom, ?_⟩
    · simp only [accepted, haccepts, if_true]
      exact hto
    · rw [mapAcknowledgement_rejected hcontext.symm, ack_eq _ rfl, productReason_rejectionReason]
      rfl

theorem encodeAck_maps (faithful : contracts.Faithful) (hcontext : context.expectedDeviceId = identity.device) {fact : AckFact}
    (hid : validCommandId fact.commandId = true) (hblank : blank fact.commandId = false) (hgen : 0 < fact.desiredGeneration)
    (hfence : 0 < fact.fenceEpoch) (hseq : fact.deviceSequence ≤ i64Max) :
    ∃ text payload a, encodeAck contracts identity fact = some text ∧ contracts.ackedFromSlice text = some payload ∧
      mapAcknowledgement context event payload = .ok a ∧ SameAck context event fact a := by
  obtain ⟨text, payload, hto, hfrom, hmap⟩ := encodeAck_reaches faithful hcontext event hid hgen hfence hseq
  rw [tryFrom_eq_ok (validateReference_commandId "command_ref" hid hblank)] at hmap
  exact ⟨text, payload, _, hto, hfrom, hmap, rfl, rfl, rfl, rfl, rfl, rfl, rfl, rfl⟩

theorem encodeReport_maps (faithful : contracts.Faithful) (hcontext : context.expectedDeviceId = identity.device)
    {fact : ReportFact} (hgen : 0 < fact.observedGeneration) (hfence : 0 < fact.fenceEpoch)
    (hstate : validDigest fact.stateHash = true) (hdigest : validDigest fact.artifactDigest = true)
    (hseq : fact.deviceSequence ≤ i64Max) :
    ∃ text payload r, encodeReport contracts identity fact = some text ∧ contracts.reportedFromSlice text = some payload ∧
      mapReport context event payload = .ok r ∧ SameReport context event fact r := by
  have hs := faithful.stateHash hstate
  have hd := faithful.artifactDigest hdigest
  obtain ⟨text, hto, hfrom⟩ := faithful.reported ⟨fact.artifactDigest, identity.device, fact.deviceSequence, fact.expiresAt,
    ⟨fact.fenceEpoch, hfence⟩, fact.observedAt, ⟨fact.observedGeneration, hgen⟩, fact.stateHash⟩ hs hd
  refine ⟨text, _, ⟨context.coordinates, event, ⟨⟨fact.observedGeneration, hgen⟩, ⟨fact.fenceEpoch, hfence⟩, fact.deviceSequence,
    fact.observedAt⟩, ⟨fact.stateHash, validateReference_digest "state_hash" hstate⟩,
    ⟨fact.artifactDigest, validateReference_digest "artifact_digest" hdigest⟩, fact.expiresAt⟩, ?_, hfrom, ?_, ?_⟩
  · unfold encodeReport
    simp only [accepted, hs, hd, if_true, nonZero_eq hgen, nonZero_eq hfence, signed_eq_some.2 ⟨hseq, rfl⟩]
    exact hto
  · unfold mapReport
    rw [requireDevice_eq hcontext.symm, tryFrom_eq_ok (validateReference_digest "state_hash" hstate),
      tryFrom_eq_ok (validateReference_digest "artifact_digest" hdigest), generation_val, fenceEpoch_val, sequence_val]
    rfl
  · exact ⟨rfl, rfl, rfl, rfl, rfl, rfl, rfl, rfl, rfl⟩

end Agreement

/-- **The device and the product agree.**  An acknowledgement whose command identity is not blank, and a report in the
outbox of any reachable state, with a sequence number of 63 bits, is encoded, decoded and mapped to the same values. -/
theorem fact_agreement {Text : Type} {contracts : Contracts Text} (faithful : contracts.Faithful) (identity : DeviceIdentity)
    (context : MappingContext) (hcontext : context.expectedDeviceId = identity.device) (event : EventRef) :
    (∀ fact : AckFact, validCommandId fact.commandId = true → blank fact.commandId = false → 0 < fact.desiredGeneration →
      0 < fact.fenceEpoch → fact.deviceSequence ≤ i64Max →
      ∃ text payload a, encodeAck contracts identity fact = some text ∧ contracts.ackedFromSlice text = some payload ∧
        mapAcknowledgement context event payload = .ok a ∧ SameAck context event fact a) ∧
    ∀ pki actions a, (Device.fresh.run pki actions).agent = some a → ∀ o ∈ a.state.outbox, ∀ r ∈ o.reportPayload,
      r.deviceSequence ≤ i64Max →
      ∃ text payload report, encodeReport contracts identity r.toFact = some text ∧
        contracts.reportedFromSlice text = some payload ∧ mapReport context event payload = .ok report ∧
        SameReport context event r.toFact report := by
  refine ⟨fun fact => encodeAck_maps faithful hcontext, ?_⟩
  intro pki actions a ha o ho r hr hseq
  have hs := ((sound_run pki actions).memory a ha).1.coherent.consistent
  have hvalid : r.SemanticValid := by
    have hentry := (hs.entries o ho).semantic
    cases o with
    | ack e payload => cases hr
    | reportBlocked e payload =>
      cases hr
      exact hentry.2
    | reportReady e payload =>
      cases hr
      exact hentry.2
  obtain ⟨-, hgen, hfence, -, -, -, -, -, hdigest, hstate⟩ := hvalid
  exact encodeReport_maps faithful hcontext hgen hfence hstate hdigest hseq

/-! ### JSON -/

namespace Fixture

open Agent.Fixture
open Json (textMember numberMember)

def reasonText : RejectedReason → String
  | .artifactUnavailable => "ArtifactUnavailable"
  | .artifactDigestMismatch => "ArtifactDigestMismatch"
  | .policyRejected => "PolicyRejected"
  | .generationStale => "GenerationStale"
  | .fenceEpochStale => "FenceEpochStale"
  | .malformedCommand => "MalformedCommand"
  | .deviceFailure => "DeviceFailure"

/-- The members of an acknowledgement. -/
def ackedMembers {Reason Result : Type} (reason result : String) (p : AckedFields Reason Result) : List Json.Member :=
  [textMember "commandId" p.commandId, numberMember "desiredGeneration" p.desiredGeneration,
    textMember "deviceId" p.deviceId.hyphenated, numberMember "deviceSequence" p.deviceSequence,
    numberMember "fenceEpoch" p.fenceEpoch, numberMember "observedAt" p.observedAt, textMember "reason" reason,
    textMember "result" result]

def ackedObject : AckedPayload → List Json.Member
  | .receivedPayload p => ackedMembers "None" "received" p
  | .rejectedPayload p => ackedMembers (reasonText p.reason) "rejected" p

def reportedObject (p : ReportedPayload) : List Json.Member :=
  [textMember "artifactDigest" p.artifactDigest, textMember "deviceId" p.deviceId.hyphenated,
    numberMember "deviceSequence" p.deviceSequence, ("expiresAt".toList, p.expiresAt.elim .null .number),
    numberMember "fenceEpoch" p.fenceEpoch, numberMember "observedAt" p.observedAt,
    numberMember "observedGeneration" p.observedGeneration, textMember "stateHash" p.stateHash]

theorem ackedObject_injective : Function.Injective ackedObject := by
  rintro (⟨c, g, d, s, f, o, r, q⟩ | ⟨c, g, d, s, f, o, r, q⟩)
    (⟨c', g', d', s', f', o', r', q'⟩ | ⟨c', g', d', s', f', o', r', q'⟩) h
  · simp only [ackedObject, ackedMembers, List.cons.injEq, Json.textMember_inj, Json.numberMember_inj, and_true, Nat.cast_inj,
      PNat.coe_inj] at h
    obtain ⟨rfl, rfl, hd, rfl, rfl, rfl⟩ := h
    obtain rfl := Broker.hyphenated_injective hd
    cases r
    cases r'
    cases q
    cases q'
    rfl
  · simp [ackedObject, ackedMembers] at h
  · simp [ackedObject, ackedMembers] at h
  · simp only [ackedObject, ackedMembers, List.cons.injEq, Json.textMember_inj, Json.numberMember_inj, and_true, Nat.cast_inj,
      PNat.coe_inj] at h
    obtain ⟨rfl, rfl, hd, rfl, rfl, rfl, hr⟩ := h
    obtain rfl := Broker.hyphenated_injective hd
    obtain rfl : r = r' := by
      cases r <;> cases r' <;> first | rfl | (simp [reasonText] at hr)
    cases q
    cases q'
    rfl

theorem reportedObject_injective : Function.Injective reportedObject := by
  rintro ⟨a, d, s, e, f, o, g, t⟩ ⟨a', d', s', e', f', o', g', t'⟩ h
  simp only [reportedObject, List.cons.injEq, Prod.mk.injEq, Json.textMember_inj, Json.numberMember_inj, true_and, and_true,
    Nat.cast_inj, PNat.coe_inj] at h
  obtain ⟨rfl, hd, rfl, he, rfl, rfl, rfl, rfl⟩ := h
  obtain rfl := Broker.hyphenated_injective hd
  obtain rfl : e = e' := by
    cases e <;> cases e' <;> simp_all
  rfl

def ackedText (p : AckedPayload) : Bytes := utf8 (Json.encode (ackedObject p))

def reportedText (p : ReportedPayload) : Bytes := utf8 (Json.encode (reportedObject p))

theorem ackedText_injective : Function.Injective ackedText := fun _ _ h =>
  ackedObject_injective (Json.encode_injective (utf8_inj.1 h))

theorem reportedText_injective : Function.Injective reportedText := fun _ _ h =>
  reportedObject_injective (Json.encode_injective (utf8_inj.1 h))

/-- The contracts in JSON, with the limits of the device. -/
noncomputable def contracts : Contracts Bytes where
  receivedCommandId := validCommandId
  rejectedCommandId := validCommandId
  reportedStateHash := validDigest
  reportedArtifactDigest := validDigest
  ackedToVec p := some (ackedText p)
  ackedFromSlice := Function.partialInv ackedText
  reportedToVec p := some (reportedText p)
  reportedFromSlice := Function.partialInv reportedText

theorem faithful : contracts.Faithful where
  receivedCommandId h := h
  rejectedCommandId h := h
  stateHash h := h
  artifactDigest h := h
  received _ _ := ⟨_, rfl, Function.partialInv_left ackedText_injective _⟩
  rejected _ _ := ⟨_, rfl, Function.partialInv_left ackedText_injective _⟩
  reported _ _ _ := ⟨_, rfl, Function.partialInv_left reportedText_injective _⟩

/-- The product's view of the first device. -/
def context : MappingContext where
  coordinates := ⟨⟨"rotation-1", rfl⟩, ⟨"00000000-0000-0000-0000-000000000001", rfl⟩,
    ⟨"00000000-0000-0000-0000-000000000101", rfl⟩⟩
  expectedDeviceId := (identity one).device

def event : EventRef := ⟨"event-1", rfl⟩

/-- The acknowledgement of a command that was malformed. -/
def malformedAck (commandId : String) : AckFact := ⟨commandId, 1, 1, 1, 1800000000, some .malformedCommand⟩

end Fixture

open Fixture Agent.Fixture in
/-- The rejection of a malformed command arrives as what it is, and so does the report of the command that was accepted. -/
theorem fact_agreement_accepted :
    (∃ text payload a, encodeAck contracts (identity one) (malformedAck "command-0001") = some text ∧
      contracts.ackedFromSlice text = some payload ∧ mapAcknowledgement context event payload = .ok a ∧
      a.outcome = .rejected .malformedCommand) ∧
    ∃ a, (Device.fresh.run Agent.Fixture.pki [start, .call (apply 0 now) clean]).agent = some a ∧
      ∃ o ∈ a.state.outbox, ∃ r ∈ o.reportPayload, ∃ text payload report,
        encodeReport contracts (identity one) r.toFact = some text ∧ contracts.reportedFromSlice text = some payload ∧
        mapReport context event payload = .ok report ∧ (report.position.observedGeneration : ℕ) = 2 ∧
        report.position.deviceSequence = 2 := by
  obtain ⟨hack, hreport⟩ := fact_agreement faithful (identity one) context rfl event
  constructor
  · obtain ⟨text, payload, a, hto, hfrom, hmap, hsame⟩ := hack (malformedAck "command-0001") (by decide +kernel) (by decide)
      (by decide) (by decide) (by decide)
    exact ⟨text, payload, a, hto, hfrom, hmap, hsame.outcome⟩
  · obtain ⟨artifact, ha⟩ := run_apply
    have hmem : StoredOutbound.reportBlocked (eventId .report commandId.expose)
        ((acceptedCommand Agent.Fixture.retention (command 0) artifact two now).report first.identity 2) ∈
        (rotating 0 artifact).outbox := List.mem_append_right _ (List.mem_cons_of_mem _ (List.mem_singleton_self _))
    obtain ⟨text, payload, report, hto, hfrom, hmap, hsame⟩ := hreport Agent.Fixture.pki _ _ ha _ hmem _ rfl
      (show 2 ≤ i64Max by decide)
    exact ⟨_, ha, _, hmem, _, rfl, text, payload, report, hto, hfrom, hmap, hsame.observedGeneration, hsame.deviceSequence⟩

/-! ### Where they do not agree -/

section Blank

variable {Text : Type} {contracts : Contracts Text} {identity : DeviceIdentity} {context : MappingContext}

/-- A blank command identity is encoded by the device and refused by the product. -/
theorem encodeAck_blank (faithful : contracts.Faithful) (hcontext : context.expectedDeviceId = identity.device) (event : EventRef)
    {fact : AckFact} (hid : validCommandId fact.commandId = true) (hblank : blank fact.commandId = true)
    (hgen : 0 < fact.desiredGeneration) (hfence : 0 < fact.fenceEpoch) (hseq : fact.deviceSequence ≤ i64Max) :
    ∃ text payload, encodeAck contracts identity fact = some text ∧ contracts.ackedFromSlice text = some payload ∧
      mapAcknowledgement context event payload = .error (.invalidProductReference (.emptyReference "command_ref")) := by
  obtain ⟨text, payload, hto, hfrom, hmap⟩ := encodeAck_reaches faithful hcontext event hid hgen hfence hseq
  rw [tryFrom_eq_error (if_pos hblank)] at hmap
  exact ⟨text, payload, hto, hfrom, hmap⟩

end Blank

namespace Fixture

open Agent.Fixture

/-- A document with any sequence number is reached: the second payload comes again and again. -/
theorem exists_noted (n : ℕ) (hn : n < u64Max) : ∃ actions,
    (Device.fresh.run Agent.Fixture.pki actions).agent = some ⟨noted (n + 1) [], Agent.Fixture.retention⟩ ∧
    (Device.fresh.run Agent.Fixture.pki actions).tree.get (revisionRoot 2) = none := by
  induction n with
  | zero =>
    have hstart := sound_run Agent.Fixture.pki [start]
    have hfree : (Device.fresh.run Agent.Fixture.pki [start, .call (malformed [1] now) clean]).tree.get (revisionRoot 2) = none :=
      hstart.step_free run_start clean (fun _ _ _ _ h => by cases h) start_revision
    refine ⟨[start, .call (malformed [1] now) clean] ++ [.call (.confirmOutbound rejectionEntry.eventId) clean], ?_, ?_⟩
    · rw [Device.run_concat]
      exact Agent.Fixture.step_confirm (sound_run ..) run_once rfl
    · rw [Device.run_concat]
      exact (sound_run ..).step_free run_once clean (fun _ _ _ _ h => by cases h) hfree
  | succ n ih =>
    obtain ⟨actions, hagent, hfree⟩ := ih (by omega)
    have hconflict : (Device.fresh.run Agent.Fixture.pki (actions ++ [.call (malformed [2] now) clean])).agent =
        some ⟨noted (n + 1 + 1) ([] ++ [conflictEntry (n + 1 + 1) now]), Agent.Fixture.retention⟩ := by
      rw [Device.run_concat]
      exact step_conflict (sound_run ..) hagent (by decide) (by omega) (by decide) fun o ho => (by cases ho)
    have hfree' : (Device.fresh.run Agent.Fixture.pki (actions ++ [.call (malformed [2] now) clean])).tree.get (revisionRoot 2) =
        none := by
      rw [Device.run_concat]
      exact (sound_run ..).step_free hagent clean (fun _ _ _ _ h => by cases h) hfree
    refine ⟨actions ++ [.call (malformed [2] now) clean] ++
      [.call (.confirmOutbound (conflictEntry (n + 1 + 1) now).eventId) clean], ?_, ?_⟩
    · rw [Device.run_concat]
      exact Agent.Fixture.step_confirm (sound_run ..) hconflict rfl
    · rw [Device.run_concat]
      exact (sound_run ..).step_free hconflict clean (fun _ _ _ _ h => by cases h) hfree'

/-- The first command under another name. -/
theorem renamed_valid : validCommandId "command-0002" = true := by decide +kernel

def renamed : DeviceCommand := { command 0 with commandId := ⟨"command-0002", renamed_valid⟩ }

theorem acceptable_renamed (n : ℕ) : ∃ credential,
    Acceptable Agent.Fixture.pki (noted n []) topic renamed now (catalog 0) credential := by
  obtain ⟨artifact, -, hp, hv⟩ := plan_apply (.inl rfl)
  obtain ⟨-, hacc, -⟩ := acceptable_of_plan coherent_first.consistent (by decide) hp hv
  obtain ⟨owner, entry, howner, htopic, hdevice, ho, hgen⟩ := hacc.offered
  have hfence : (1 : ℕ) ≤ 2 := by decide
  have hgeneration : (1 : ℕ) < 2 := by decide
  refine ⟨artifact.credential, ?_, rfl, ⟨owner, entry, howner, htopic, hdevice, ?_, hgen⟩, by decide, hfence, hgeneration,
    Nat.zero_le _, ?_⟩
  · intro c hc hname
    rw [noted_journal, List.mem_singleton] at hc
    subst hc
    exact absurd hname (by decide)
  · exact ⟨ho.first, ho.tenant, ho.device, ho.generation, ho.fence, ho.intent, ho.policy, ho.standing, ho.ca, ho.certificate,
      ho.privateKey, ho.declared, ho.commanded, ho.material⟩
  · have hle : ((noted n []).expireCommandJournal now).commandJournal.length ≤ (noted n []).commandJournal.length :=
      List.length_filter_le _ _
    rw [noted_journal] at hle
    exact lt_of_le_of_lt hle (by decide)

/-- A report with a sequence number that has no place in the contracts. -/
theorem exists_report : ∃ actions a o r, (Device.fresh.run Agent.Fixture.pki actions).agent = some a ∧ o ∈ a.state.outbox ∧
    r ∈ o.reportPayload ∧ i64Max < r.deviceSequence := by
  obtain ⟨actions, hagent, hfree⟩ := exists_noted (i64Max - 1) (by decide)
  obtain ⟨credential, hacc⟩ := acceptable_renamed (i64Max - 1 + 1)
  obtain ⟨-, owner, artifact, revision, -, -, -, hnext⟩ := (sound_run Agent.Fixture.pki actions).step_acceptable positiveExpiry
    hagent (show now ≤ i64Max by decide) hacc (.inl hfree) (by decide) (by decide) fun ⟨o, ho, _⟩ => by cases ho
  rw [← Device.run_concat] at hnext
  let accepted := acceptedCommand Agent.Fixture.retention renamed artifact revision now
  refine ⟨_, _, .reportBlocked (eventId .report accepted.commandId) (accepted.report (noted 0 []).identity
    (saturatingAdd (saturatingAdd (i64Max - 1 + 1) 1) 1)), _, hnext, ?_, rfl, ?_⟩
  · exact List.mem_append_right _ (List.mem_cons_of_mem _ (List.mem_singleton_self _))
  · show i64Max < saturatingAdd (saturatingAdd (i64Max - 1 + 1) 1) 1
    decide

end Fixture

theorem encodeReport_none {Text : Type} {contracts : Contracts Text} {identity : DeviceIdentity} {fact : ReportFact}
    (h : i64Max < fact.deviceSequence) : encodeReport contracts identity fact = none := by
  have hsigned : signed fact.deviceSequence = none := if_neg (by omega)
  unfold encodeReport
  rw [hsigned]
  cases accepted contracts.reportedArtifactDigest fact.artifactDigest with
  | none => rfl
  | some digest => rfl

open Fixture Agent.Fixture in
/-- **Where they do not.**  The device acknowledges a command whose identity is one blank, and the product refuses the
identity; a report with the sequence number 2⁶³ + 1 is reached, and cannot be encoded. -/
theorem fact_disagreement : contracts.Faithful ∧ context.expectedDeviceId = (identity one).device ∧
    (validCommandId (malformedAck " ").commandId = true ∧
      ∃ text payload, encodeAck contracts (identity one) (malformedAck " ") = some text ∧
        contracts.ackedFromSlice text = some payload ∧
        mapAcknowledgement context event payload = .error (.invalidProductReference (.emptyReference "command_ref"))) ∧
    ∃ actions a, (Device.fresh.run Agent.Fixture.pki actions).agent = some a ∧ ∃ o ∈ a.state.outbox, ∃ r ∈ o.reportPayload,
      encodeReport contracts (identity one) r.toFact = none := by
  obtain ⟨actions, a, o, r, ha, ho, hr, hlarge⟩ := exists_report
  have hid : validCommandId " " = true := by decide +kernel
  exact ⟨faithful, rfl, ⟨hid, encodeAck_blank faithful rfl event hid (by decide) (by decide) (by decide) (by decide)⟩,
    actions, a, ha, o, ho, r, hr, encodeReport_none hlarge⟩

end RssIncubator.Product
