import RssIncubator.Agent.Rotations
import RssIncubator.Product.Agreement
import RssIncubator.Product.Responses

/-!
# The trace of a rotation, verified (`secure-device-rotation`)

A consumer of the public contracts has the answer to its policy, the acknowledgement and the report of the device, the
receipt and two statuses of the service, and `verifyPositiveTrace` compares them.  Neither fact of the device names the
rotation it is about.  `verified_iff` says what the comparison amounts to when the two facts come from one device: they
are the two facts of one rotation, of the accepted generation, and the service has told the rest of its story.  The two
other verifiers are about refusals: of a policy (`verifyForbidden_eq_ok`) and of a revoked credential (`revoked_iff`).
-/

namespace RssIncubator.Product

open Agent Lib

/-! ### The verifier -/

inductive JourneyError where
  | lineageMismatch
  | expectedReceivedAck
  | readyBeforeReceipt
  | expectedCommittedReceipt
  | missingReadyObservation
  | expectedForbidden
  | expectedRevokedRejection
  | readyAfterRevocation
  | eventIdentityCollision
  deriving DecidableEq

namespace StatusProjection

def hasReadyTrue (status : StatusProjection) : Bool :=
  status.conditions.any fun condition => condition.type = .ready && condition.status = .true

def hasMatchingReady (status : StatusProjection) : Bool :=
  status.conditions.any fun condition => condition.type = .ready && condition.status = .true &&
    condition.reason = .stateMatches && condition.observedGeneration = status.observedGeneration

end StatusProjection

def verifyPositiveTrace (accepted : RotationAccepted) (acknowledgement : CommandAcknowledgement)
    (statusAfterAck : StatusProjection) (report : CredentialReport) (receipt : ApplicationReceiptObservation)
    (finalStatus : StatusProjection) : Except JourneyError Unit :=
  if acknowledgement.outcome ≠ .received then .error .expectedReceivedAck
  else if statusAfterAck.hasReadyTrue then .error .readyBeforeReceipt
  else match statusAfterAck.activeCommand with
    | none => .error .lineageMismatch
    | some activeCommand =>
      let generation := accepted.acceptedGeneration
      if acknowledgement.coordinates ≠ accepted.coordinates ∨ report.coordinates ≠ accepted.coordinates ∨
          receipt.coordinates ≠ accepted.coordinates ∨ acknowledgement.position.desiredGeneration ≠ generation ∨
          report.position.observedGeneration ≠ generation ∨
          report.position.fenceEpoch ≠ acknowledgement.position.fenceEpoch ∨
          report.position.deviceSequence ≤ acknowledgement.position.deviceSequence ∨
          statusAfterAck.desiredGeneration ≠ some (generation : ℕ) ∨ activeCommand.state ≠ .received ∨
          activeCommand.fenceEpoch ≠ acknowledgement.position.fenceEpoch ∨
          statusAfterAck.authorizationReceiptId.map Uuid.hyphenated ≠ some accepted.authorizationReceipt.expose then
        .error .lineageMismatch
      else match receipt.outcome with
        | .committed lineage =>
          if lineage.desiredGeneration ≠ generation ∨ lineage.authorizationReceipt ≠ accepted.authorizationReceipt ∨
              finalStatus.desiredGeneration ≠ some (generation : ℕ) ∨ finalStatus.observedGeneration ≠ generation ∨
              finalStatus.authorizationReceiptId.map Uuid.hyphenated ≠ some accepted.authorizationReceipt.expose then
            .error .lineageMismatch
          else if acknowledgement.event.expose = report.event.expose ∨ acknowledgement.event.expose = receipt.event.expose ∨
              report.event.expose = receipt.event.expose then .error .eventIdentityCollision
          else if finalStatus.hasMatchingReady then .ok ()
          else .error .missingReadyObservation
        | _ => .error .expectedCommittedReceipt

def verifyForbidden : PolicyResponse → Except JourneyError Unit
  | .rejected diagnostic =>
    if diagnostic.kind = .forbidden ∧ diagnostic.retryable = false then .ok () else .error .expectedForbidden
  | .accepted _ => .error .expectedForbidden

def verifyRevokedNoAdvance (acknowledgement : CommandAcknowledgement) (status : StatusProjection) : Except JourneyError Unit :=
  if acknowledgement.outcome ≠ .rejected .policyRejected then .error .expectedRevokedRejection
  else if status.hasReadyTrue then .error .readyAfterRevocation
  else if status.desiredGeneration ≠ some (acknowledgement.position.desiredGeneration : ℕ) ∨
      (acknowledgement.position.desiredGeneration : ℕ) ≤ status.observedGeneration then .error .lineageMismatch
  else .ok ()

/-! ### From the device to the verifier -/

section

variable {Text : Type}

/-- The acknowledgement that the product has of a fact. -/
def AckArrives (contracts : Contracts Text) (identity : DeviceIdentity) (context : MappingContext) (event : EventRef)
    (fact : AckFact) (a : CommandAcknowledgement) : Prop :=
  ∃ text payload, encodeAck contracts identity fact = some text ∧ contracts.ackedFromSlice text = some payload ∧
    mapAcknowledgement context event payload = .ok a

/-- The report that the product has of a fact. -/
def ReportArrives (contracts : Contracts Text) (identity : DeviceIdentity) (context : MappingContext) (event : EventRef)
    (fact : ReportFact) (r : CredentialReport) : Prop :=
  ∃ text payload, encodeReport contracts identity fact = some text ∧ contracts.reportedFromSlice text = some payload ∧
    mapReport context event payload = .ok r

variable {contracts : Contracts Text} {identity : DeviceIdentity} {context : MappingContext} {event : EventRef}

theorem requireDevice_eq_ok {device : Uuid} {u : Unit} (h : context.requireDevice device = .ok u) :
    device = context.expectedDeviceId := by
  unfold MappingContext.requireDevice at h
  split_ifs at h with heq
  exact heq

theorem tryFrom_expose {kind value : String} {r : Reference kind} (h : Reference.tryFrom kind value = .ok r) :
    r.expose = value := by
  unfold Reference.tryFrom at h
  split at h
  · cases h
    rfl
  · cases h

theorem nonZero_eq_some {n : ℕ} {p : ℕ+} (h : nonZero n = some p) : (p : ℕ) = n := by
  unfold nonZero at h
  split_ifs at h
  cases h
  rfl

theorem accepted_eq_some {accepts : String → Bool} {value t : String} (h : accepted accepts value = some t) :
    t = value ∧ accepts value = true := by
  unfold accepted at h
  split_ifs at h with ha
  cases h
  exact ⟨rfl, ha⟩

/-- What `ack` makes of the fields. -/
theorem ack_eq_ok {Reason Result : Type} {fields : AckedFields Reason Result} {outcome : CommandAcknowledgementOutcome}
    {a : CommandAcknowledgement} {n : ℕ} (hseq : fields.deviceSequence = n) (h : ack context event fields outcome = .ok a) :
    a.coordinates = context.coordinates ∧ a.event = event ∧ a.command.expose = fields.commandId ∧
      a.position = ⟨fields.desiredGeneration, fields.fenceEpoch, n, fields.observedAt⟩ ∧ a.outcome = outcome := by
  rw [ack_eq outcome hseq] at h
  rcases hcommand : Reference.tryFrom "command_ref" fields.commandId with e | command <;> rw [hcommand] at h
  · cases h
  · cases h
    exact ⟨rfl, rfl, tryFrom_expose hcommand, rfl, rfl⟩

/-- **What arrives has the values of the fact**: its number is one of the contracts, and its device is the expected one. -/
theorem AckArrives.same (faithful : contracts.Faithful) {fact : AckFact} {a : CommandAcknowledgement}
    (h : AckArrives contracts identity context event fact a) :
    SameAck context event fact a ∧ fact.deviceSequence ≤ i64Max ∧ identity.device = context.expectedDeviceId := by
  obtain ⟨text, payload, hencode, hdecode, hmap⟩ := h
  unfold encodeAck at hencode
  simp only [Option.bind_eq_bind, Option.bind_eq_some_iff] at hencode
  obtain ⟨generation, hgen, fence, hfence, sequence, hseq, htext⟩ := hencode
  obtain ⟨hle, rfl⟩ := signed_eq_some.1 hseq
  rcases hrejection : fact.rejection with _ | rejection <;> rw [hrejection] at htext
  · obtain ⟨commandId, hid, htext⟩ := Option.bind_eq_some_iff.1 htext
    obtain ⟨rfl, haccepts⟩ := accepted_eq_some hid
    obtain ⟨text', hto, hfrom⟩ := faithful.received ⟨fact.commandId, generation, identity.device, fact.deviceSequence, fence,
      fact.observedAt, .none, .received⟩ haccepts
    obtain rfl := Option.some.inj (hto.symm.trans htext)
    obtain rfl := Option.some.inj (hfrom.symm.trans hdecode)
    rcases hdevice : context.requireDevice identity.device with e | u
    · simp only [mapAcknowledgement, hdevice] at hmap
      cases hmap
    · rw [mapAcknowledgement_received (requireDevice_eq_ok hdevice)] at hmap
      obtain ⟨hc, he, hcommand, hposition, ho⟩ := ack_eq_ok rfl hmap
      refine ⟨⟨hc, he, hcommand, ?_, ?_, ?_, ?_, by rw [ho, hrejection]; rfl⟩, hle, requireDevice_eq_ok hdevice⟩ <;> rw [hposition]
      · exact nonZero_eq_some hgen
      · exact nonZero_eq_some hfence
  · obtain ⟨commandId, hid, htext⟩ := Option.bind_eq_some_iff.1 htext
    obtain ⟨rfl, haccepts⟩ := accepted_eq_some hid
    obtain ⟨text', hto, hfrom⟩ := faithful.rejected ⟨fact.commandId, generation, identity.device, fact.deviceSequence, fence,
      fact.observedAt, rejectionReason rejection, .rejected⟩ haccepts
    obtain rfl := Option.some.inj (hto.symm.trans htext)
    obtain rfl := Option.some.inj (hfrom.symm.trans hdecode)
    rcases hdevice : context.requireDevice identity.device with e | u
    · simp only [mapAcknowledgement, hdevice] at hmap
      cases hmap
    · rw [mapAcknowledgement_rejected (requireDevice_eq_ok hdevice)] at hmap
      obtain ⟨hc, he, hcommand, hposition, ho⟩ := ack_eq_ok rfl hmap
      refine ⟨⟨hc, he, hcommand, ?_, ?_, ?_, ?_, by rw [ho, hrejection, productReason_rejectionReason]; rfl⟩, hle,
        requireDevice_eq_ok hdevice⟩ <;> rw [hposition]
      · exact nonZero_eq_some hgen
      · exact nonZero_eq_some hfence

theorem ReportArrives.same (faithful : contracts.Faithful) {fact : ReportFact} {r : CredentialReport}
    (h : ReportArrives contracts identity context event fact r) :
    SameReport context event fact r ∧ fact.deviceSequence ≤ i64Max ∧ identity.device = context.expectedDeviceId := by
  obtain ⟨text, payload, hencode, hdecode, hmap⟩ := h
  unfold encodeReport at hencode
  simp only [Option.bind_eq_bind, Option.bind_eq_some_iff] at hencode
  obtain ⟨digest, hdigest, sequence, hseq, fence, hfence, generation, hgen, state, hstate, htext⟩ := hencode
  obtain ⟨hle, rfl⟩ := signed_eq_some.1 hseq
  obtain ⟨rfl, hd⟩ := accepted_eq_some hdigest
  obtain ⟨rfl, hs⟩ := accepted_eq_some hstate
  obtain ⟨text', hto, hfrom⟩ := faithful.reported ⟨fact.artifactDigest, identity.device, fact.deviceSequence, fact.expiresAt,
    fence, fact.observedAt, generation, fact.stateHash⟩ hs hd
  obtain rfl := Option.some.inj (hto.symm.trans htext)
  obtain rfl := Option.some.inj (hfrom.symm.trans hdecode)
  unfold mapReport at hmap
  dsimp only at hmap
  rw [generation_val, fenceEpoch_val, sequence_val] at hmap
  rcases hdevice : context.requireDevice identity.device with e | u <;> rw [hdevice] at hmap
  · cases hmap
  · rcases hstate' : Reference.tryFrom "state_hash" fact.stateHash with e | stateHash <;> rw [hstate'] at hmap
    · cases hmap
    · rcases hdigest' : Reference.tryFrom "artifact_digest" fact.artifactDigest with e | artifactDigest <;> rw [hdigest'] at hmap
      · cases hmap
      · cases hmap
        exact ⟨⟨rfl, rfl, nonZero_eq_some hgen, nonZero_eq_some hfence, rfl, rfl, tryFrom_expose hstate',
          tryFrom_expose hdigest', rfl⟩, hle, requireDevice_eq_ok hdevice⟩

end

/-! ### What the verifier compares -/

/-- The checks of the verifier on the acknowledgement and on the status after it. -/
structure Pending (accepted : RotationAccepted) (a : CommandAcknowledgement) (status : StatusProjection) : Prop where
  received : a.outcome = .received
  unready : status.hasReadyTrue = false
  coordinates : a.coordinates = accepted.coordinates
  generation : a.position.desiredGeneration = accepted.acceptedGeneration
  desired : status.desiredGeneration = some (accepted.acceptedGeneration : ℕ)
  command : status.activeCommand = some ⟨a.position.fenceEpoch, .received⟩
  lineage : status.authorizationReceiptId.map Uuid.hyphenated = some accepted.authorizationReceipt.expose

/-- Those on the report, beside the acknowledgement. -/
structure Follows (accepted : RotationAccepted) (a : CommandAcknowledgement) (r : CredentialReport) : Prop where
  coordinates : r.coordinates = accepted.coordinates
  generation : r.position.observedGeneration = accepted.acceptedGeneration
  fence : r.position.fenceEpoch = a.position.fenceEpoch
  sequence : a.position.deviceSequence < r.position.deviceSequence
  event : a.event.expose ≠ r.event.expose

/-- Those on the receipt and on the last status. -/
structure Concludes (accepted : RotationAccepted) (receipt : ApplicationReceiptObservation) (status : StatusProjection) :
    Prop where
  coordinates : receipt.coordinates = accepted.coordinates
  committed : receipt.outcome = .committed ⟨accepted.authorizationReceipt, accepted.acceptedGeneration⟩
  desired : status.desiredGeneration = some (accepted.acceptedGeneration : ℕ)
  observed : status.observedGeneration = accepted.acceptedGeneration
  lineage : status.authorizationReceiptId.map Uuid.hyphenated = some accepted.authorizationReceipt.expose
  ready : status.hasMatchingReady = true

section

variable {accepted : RotationAccepted} {a : CommandAcknowledgement} {s₁ s₂ : StatusProjection} {r : CredentialReport}
  {receipt : ApplicationReceiptObservation}

theorem ite_error_eq_ok {α ε : Type} {p : Prop} [Decidable p] {e : ε} {x : Except ε α} {y : α} :
    (if p then .error e else x) = .ok y ↔ ¬ p ∧ x = .ok y := by
  split_ifs with h <;> simp [h]

theorem verifyPositiveTrace_eq_ok : verifyPositiveTrace accepted a s₁ r receipt s₂ = .ok () ↔
    Pending accepted a s₁ ∧ Follows accepted a r ∧ Concludes accepted receipt s₂ ∧
      a.event.expose ≠ receipt.event.expose ∧ r.event.expose ≠ receipt.event.expose := by
  constructor
  · intro h
    unfold verifyPositiveTrace at h
    obtain ⟨houtcome, h⟩ := ite_error_eq_ok.1 h
    obtain ⟨hready, h⟩ := ite_error_eq_ok.1 h
    split at h
    · cases h
    · rename_i command hcommand
      obtain ⟨hlineage, h⟩ := ite_error_eq_ok.1 h
      split at h
      · rename_i lineage hcommitted
        obtain ⟨hreceipted, h⟩ := ite_error_eq_ok.1 h
        obtain ⟨hevents, h⟩ := ite_error_eq_ok.1 h
        simp only [not_or, not_not, not_le, ne_eq] at houtcome hlineage hreceipted hevents
        obtain ⟨hc₁, hc₂, hc₃, hg₁, hg₂, hf, hseq, hd, hstate, hfence, hl⟩ := hlineage
        obtain ⟨hlg, hlr, hd₂, ho₂, hl₂⟩ := hreceipted
        refine ⟨⟨houtcome, Bool.eq_false_iff.2 hready, hc₁, hg₁, hd, ?_, hl⟩, ⟨hc₂, hg₂, hf, hseq, hevents.1⟩,
          ⟨hc₃, ?_, hd₂, ho₂, hl₂, ?_⟩, hevents.2⟩
        · rw [hcommand, ← hfence, ← hstate]
        · rw [hcommitted, ← hlg, ← hlr]
        · by_contra hnot
          rw [if_neg hnot] at h
          cases h
      · cases h
  · rintro ⟨hp, hf, hc, hne, hne'⟩
    unfold verifyPositiveTrace
    rw [if_neg (not_not.2 hp.received), if_neg (by rw [hp.unready]; exact Bool.false_ne_true), hp.command]
    dsimp only
    rw [if_neg (by simp [hp.coordinates, hf.coordinates, hc.coordinates, hp.generation, hf.generation, hf.fence, hf.sequence,
      hp.desired, hp.lineage]), hc.committed]
    dsimp only
    rw [if_neg (by simp [hc.desired, hc.observed, hc.lineage]), if_neg (by simp [hf.event, hne, hne']), if_pos hc.ready]

end

/-! ### What the service tells -/

section

variable {context : MappingContext} {event : EventRef}

theorem receiptRef_eq_ok {value : Uuid} {ref : AuthorizationReceiptRef} (h : receiptRef value = .ok ref) :
    ref.expose = value.hyphenated := by
  obtain hr := mapError_eq_ok.1 h
  exact tryFrom_expose hr

theorem lineage_eq_ok {value : Uuid} {n : ℕ+} {l : ReceiptLineage} (h : lineage value n = .ok l) :
    l.authorizationReceipt.expose = value.hyphenated ∧ l.desiredGeneration = n := by
  unfold lineage at h
  rw [generation_val] at h
  rcases href : receiptRef value with e | ref <;> rw [href] at h
  · cases h
  · cases h
    exact ⟨receiptRef_eq_ok href, rfl⟩

theorem mapPolicySuccess_eq_ok {put : Contract.PolicyPut} {accepted : RotationAccepted}
    (h : mapPolicySuccess context put = .ok accepted) : accepted.coordinates = context.coordinates ∧
      accepted.authorizationReceipt.expose = put.authorizationReceiptId.hyphenated ∧
      accepted.acceptedGeneration = put.acceptedGeneration := by
  unfold mapPolicySuccess at h
  rw [generation_val] at h
  rcases href : receiptRef put.authorizationReceiptId with e | ref <;> rw [href] at h
  · cases h
  · cases h
    exact ⟨rfl, receiptRef_eq_ok href, rfl⟩

theorem receipt_eq_ok {envelope : String} {outcome : ApplicationReceiptOutcome} {committedAt : ℤ}
    {o : ApplicationReceiptObservation} (h : receipt context event envelope outcome committedAt = .ok o) :
    o.coordinates = context.coordinates ∧ o.event = event ∧ o.outcome = outcome := by
  unfold receipt at h
  rcases href : Reference.tryFrom "ingress_envelope_ref" envelope with e | ref <;> rw [href] at h
  · cases h
  · cases h
    exact ⟨rfl, rfl, rfl⟩

theorem Reference.ext {kind : String} {r r' : Reference kind} (h : r.expose = r'.expose) : r = r' := by
  cases r
  cases r'
  cases h
  rfl

/-- A receipt is committed in the product model if it is in the contract, with the same lineage. -/
theorem mapReceipt_eq_ok {payload : Contract.ReceiptedPayload} {o : ApplicationReceiptObservation} {value : Uuid}
    {ref : AuthorizationReceiptRef} {n : ℕ+} (hvalue : ref.expose = value.hyphenated)
    (h : mapReceipt context event payload = .ok o) : o.coordinates = context.coordinates ∧ o.event = event ∧
      (o.outcome = .committed ⟨ref, n⟩ ↔ ∃ fields, payload = .committedPayload fields ∧
        fields.authorizationReceiptId = value ∧ fields.desiredGeneration = n) := by
  have hsame : ∀ {fields : Contract.Receipted} {l : ReceiptLineage},
      lineage fields.authorizationReceiptId fields.desiredGeneration = .ok l →
      (l = ⟨ref, n⟩ ↔ fields.authorizationReceiptId = value ∧ fields.desiredGeneration = n) := by
    intro fields l hl
    obtain ⟨hexpose, hgen⟩ := lineage_eq_ok hl
    constructor
    · rintro rfl
      exact ⟨Broker.hyphenated_injective (hexpose.symm.trans hvalue), hgen.symm⟩
    · rintro ⟨hid, hn⟩
      obtain ⟨ref', n'⟩ := l
      obtain rfl : ref' = ref := Reference.ext (hexpose.trans (hid ▸ hvalue.symm))
      obtain rfl : n' = n := hgen.trans hn
      rfl
  have hother : (∀ fields, payload ≠ .committedPayload fields) → (∀ l, o.outcome ≠ .committed l) →
      (o.outcome = .committed ⟨ref, n⟩ ↔ ∃ fields, payload = .committedPayload fields ∧
        fields.authorizationReceiptId = value ∧ fields.desiredGeneration = n) := fun hpayload houtcome =>
    ⟨fun hf => absurd hf (houtcome _), fun ⟨fields, hf, _⟩ => absurd hf (hpayload fields)⟩
  cases payload with
  | committedPayload fields =>
    simp only [mapReceipt] at h
    rcases hdevice : context.requireDevice fields.deviceId with e | u <;> rw [hdevice] at h
    · cases h
    · rcases hl : lineage fields.authorizationReceiptId fields.desiredGeneration with e | l <;> rw [hl] at h
      · cases h
      · obtain ⟨hc, he, ho⟩ := receipt_eq_ok h
        refine ⟨hc, he, ?_⟩
        rw [ho, ApplicationReceiptOutcome.committed.injEq, hsame hl]
        exact ⟨fun hf => ⟨fields, rfl, hf⟩, fun ⟨_, hf, hrest⟩ => by cases hf; exact hrest⟩
  | duplicatePayload fields =>
    simp only [mapReceipt] at h
    rcases hdevice : context.requireDevice fields.deviceId with e | u <;> rw [hdevice] at h
    · cases h
    · rcases hl : lineage fields.authorizationReceiptId fields.desiredGeneration with e | l <;> rw [hl] at h
      · cases h
      · obtain ⟨hc, he, ho⟩ := receipt_eq_ok h
        exact ⟨hc, he, hother (fun _ h => by cases h) fun l h => by rw [ho] at h; cases h⟩
  | stalePayload fields reason =>
    simp only [mapReceipt] at h
    rcases hdevice : context.requireDevice fields.deviceId with e | u <;> rw [hdevice] at h
    · cases h
    · rcases hl : lineage fields.authorizationReceiptId fields.desiredGeneration with e | l <;> rw [hl] at h
      · cases h
      · obtain ⟨hc, he, ho⟩ := receipt_eq_ok h
        exact ⟨hc, he, hother (fun _ h => by cases h) fun l h => by rw [ho] at h; cases h⟩
  | rejectedPayload deviceId envelope reason committedAt =>
    simp only [mapReceipt] at h
    rcases hdevice : context.requireDevice deviceId with e | u <;> rw [hdevice] at h
    · cases h
    · obtain ⟨hc, he, ho⟩ := receipt_eq_ok h
      exact ⟨hc, he, hother (fun _ h => by cases h) fun l h => by rw [ho] at h; cases h⟩

theorem any_mapM {α β : Type} {f : α → Option β} {p : α → Bool} {q : β → Bool} (hpq : ∀ a b, f a = some b → q b = p a) :
    ∀ {l : List α} {l' : List β}, l.mapM f = some l' → l'.any q = l.any p := by
  intro l
  induction l with
  | nil =>
    rintro _ ⟨⟩
    rfl
  | cons a l ih =>
    intro l' h
    rw [List.mapM_cons] at h
    obtain ⟨b, hb, h⟩ := Option.bind_eq_some_iff.1 h
    obtain ⟨m, hm, h⟩ := Option.bind_eq_some_iff.1 h
    cases h
    rw [List.any_cons, List.any_cons, hpq a b hb, ih hm]

theorem unsignedOf_eq_some {i : ℤ} {n : ℕ} (h : unsignedOf i = some n) : i = n := by
  unfold unsignedOf at h
  split_ifs at h with hi
  cases h
  exact (Int.toNat_of_nonneg hi).symm

/-- What the projection of a status says of the condition `Ready`. -/
theorem statusOf_eq_some {data : Contract.StatusGet} {s : StatusProjection} (h : statusOf data = some s) :
    s.desiredGeneration = data.desired.map (fun desired => (desired.generation : ℕ)) ∧
    s.authorizationReceiptId = data.desired.map (·.authorizationReceiptId) ∧
    s.activeCommand = (data.desired.bind (·.activeCommand)).map (fun command =>
      ⟨command.fenceEpoch, activeCommandState command.state⟩) ∧
    data.observedGeneration = s.observedGeneration ∧
    s.hasReadyTrue = data.conditions.any (fun c => c.type = .ready && c.status = .true) ∧
    s.hasMatchingReady = data.conditions.any (fun c => c.type = .ready && c.status = .true && c.reason = .stateMatches &&
      c.observedGeneration = data.observedGeneration) := by
  unfold statusOf at h
  obtain ⟨observed, hobserved, h⟩ := Option.bind_eq_some_iff.1 h
  obtain ⟨conditions, hconditions, h⟩ := Option.bind_eq_some_iff.1 h
  cases h
  have hobs := unsignedOf_eq_some hobserved
  have htype : ∀ t : Contract.ConditionType, conditionType t = .ready ↔ t = .ready := fun t => by
    cases t <;> decide
  have hstatus : ∀ t : Contract.ConditionStatus, conditionStatus t = .true ↔ t = .true := fun t => by
    cases t <;> decide
  have hreason : ∀ t : Contract.ConditionReason, conditionReason t = .stateMatches ↔ t = .stateMatches := fun t => by
    cases t <;> decide
  refine ⟨rfl, rfl, rfl, hobs, any_mapM ?_ hconditions, any_mapM ?_ hconditions⟩
  · intro c p hp
    obtain ⟨n, hn, rfl⟩ := Option.map_eq_some_iff.1 hp
    simp only [htype, hstatus]
  · intro c p hp
    obtain ⟨n, hn, rfl⟩ := Option.map_eq_some_iff.1 hp
    have hgen : n = observed ↔ c.observedGeneration = data.observedGeneration := by
      rw [unsignedOf_eq_some hn, hobs, Nat.cast_inj]
    simp only [htype, hstatus, hreason, hgen]

theorem hasReadyTrue_eq_false {data : Contract.StatusGet} {s : StatusProjection} (h : statusOf data = some s) :
    s.hasReadyTrue = false ↔ ∀ c ∈ data.conditions, ¬ (c.type = .ready ∧ c.status = .true) := by
  obtain ⟨-, -, -, -, hready, -⟩ := statusOf_eq_some h
  rw [hready, List.any_eq_false]
  exact forall₂_congr fun c _ => by simp

end

/-! ### Refusals -/

/-- A policy is forbidden by the status of the answer alone: no body and no other status is taken for it. -/
theorem verifyForbidden_eq_ok {Body : Type} {contracts : Responses Body} {status : ℕ} {body : Body} :
    verifyForbidden (decodePolicyResponse contracts status body) = .ok () ↔ status = 403 := by
  constructor
  · intro h
    unfold decodePolicyResponse at h
    by_contra hne
    rw [if_neg hne] at h
    split_ifs at h
    all_goals
      first
      | cases h
      | split at h <;> cases h
  · rintro rfl
    rfl

section

variable {Text : Type} {contracts : Contracts Text} {identity : DeviceIdentity} {context : MappingContext} {event : EventRef}
  {fact : AckFact} {a : CommandAcknowledgement} {data : Contract.StatusGet} {s : StatusProjection}

/-- **A revoked credential does not advance.**  The acknowledgement of a device is taken for the refusal of a revoked
credential if and only if the device refused by policy, and the service wants the generation that was refused, has observed
an earlier one and is not ready. -/
theorem revoked_iff (faithful : contracts.Faithful) (harrives : AckArrives contracts identity context event fact a)
    (hs : statusOf data = some s) :
    verifyRevokedNoAdvance a s = .ok () ↔ fact.rejection = some .policyRejected ∧
      (∀ c ∈ data.conditions, ¬ (c.type = .ready ∧ c.status = .true)) ∧
      (∃ desired, data.desired = some desired ∧ (desired.generation : ℕ) = fact.desiredGeneration) ∧
      data.observedGeneration < fact.desiredGeneration := by
  obtain ⟨hsame, -⟩ := harrives.same faithful
  obtain ⟨hdesired, -, -, hobserved, -⟩ := statusOf_eq_some hs
  have houtcome : a.outcome = .rejected .policyRejected ↔ fact.rejection = some .policyRejected := by
    rw [hsame.outcome]
    rcases fact.rejection with _ | r
    · simp
    · cases r <;> simp [sameReason]
  have hgen : s.desiredGeneration = some fact.desiredGeneration ↔
      ∃ desired, data.desired = some desired ∧ (desired.generation : ℕ) = fact.desiredGeneration := by
    rw [hdesired, Option.map_eq_some_iff]
  unfold verifyRevokedNoAdvance
  rw [ite_error_eq_ok, ite_error_eq_ok, ite_error_eq_ok, not_not, houtcome, Bool.not_eq_true, hasReadyTrue_eq_false hs, not_or,
    not_not, not_le, hsame.desiredGeneration, hgen, hobserved, Nat.cast_lt]
  simp only [and_true]

end

/-! ### The two facts of a device -/

/-- What the service tells of the rotation it has accepted, when the device has received its command with this fence. -/
structure Served (put : Contract.PolicyPut) (fence : ℕ) (afterAck : Contract.StatusGet) (receipted : Contract.ReceiptedPayload)
    (final : Contract.StatusGet) : Prop where
  unready : ∀ c ∈ afterAck.conditions, ¬ (c.type = .ready ∧ c.status = .true)
  pending : ∃ command : Contract.ActiveCommand, command.fenceEpoch = fence ∧ command.state = .received ∧
    afterAck.desired = some ⟨put.acceptedGeneration, put.authorizationReceiptId, some command⟩
  committed : ∃ fields, receipted = .committedPayload fields ∧ fields.authorizationReceiptId = put.authorizationReceiptId ∧
    fields.desiredGeneration = put.acceptedGeneration
  desired : ∃ command, final.desired = some ⟨put.acceptedGeneration, put.authorizationReceiptId, command⟩
  observed : final.observedGeneration = (put.acceptedGeneration : ℕ)
  ready : ∃ c ∈ final.conditions, c.type = .ready ∧ c.status = .true ∧ c.reason = .stateMatches ∧
    c.observedGeneration = final.observedGeneration

section

variable {accepted : RotationAccepted} {put : Contract.PolicyPut} {data : Contract.StatusGet} {s : StatusProjection}

/-- The desired part of a status, as it is compared. -/
theorem desired_iff (hput : accepted.authorizationReceipt.expose = put.authorizationReceiptId.hyphenated)
    (hgen : accepted.acceptedGeneration = put.acceptedGeneration) (hs : statusOf data = some s) :
    s.desiredGeneration = some (accepted.acceptedGeneration : ℕ) ∧
      s.authorizationReceiptId.map Uuid.hyphenated = some accepted.authorizationReceipt.expose ↔
      ∃ command, data.desired = some ⟨put.acceptedGeneration, put.authorizationReceiptId, command⟩ := by
  obtain ⟨hd, hr, -⟩ := statusOf_eq_some hs
  rw [hd, hr, hput, hgen]
  rcases data.desired with _ | ⟨generation, receiptId, command⟩
  · simp
  · simp only [Option.map_some, Option.some.injEq, PNat.coe_inj, Contract.Desired.mk.injEq]
    constructor
    · rintro ⟨rfl, hid⟩
      exact ⟨command, rfl, Broker.hyphenated_injective hid, rfl⟩
    · rintro ⟨command', rfl, rfl, -⟩
      exact ⟨rfl, rfl⟩

theorem command_iff {fence : ℕ} (hs : statusOf data = some s) {generation : ℕ+} {receiptId : Uuid}
    {command : Option Contract.ActiveCommand} (hdesired : data.desired = some ⟨generation, receiptId, command⟩) :
    s.activeCommand = some ⟨fence, .received⟩ ↔
      ∃ c : Contract.ActiveCommand, c.fenceEpoch = fence ∧ c.state = .received ∧ command = some c := by
  obtain ⟨-, -, hc, -⟩ := statusOf_eq_some hs
  have hstate : ∀ t : Contract.ActiveCommandState, activeCommandState t = .received ↔ t = .received := fun t => by
    cases t <;> decide
  rw [hc, hdesired]
  rcases command with _ | ⟨epoch, state⟩
  · simp
  · simp only [Option.bind_some, Option.map_some, Option.some.injEq, ActiveCommandProjection.mk.injEq, hstate]
    constructor
    · rintro ⟨hf, rfl⟩
      exact ⟨⟨epoch, .received⟩, hf, rfl, rfl⟩
    · rintro ⟨c, hf, hst, rfl⟩
      exact ⟨hf, hst⟩

end

section

variable {pki : Pki} {actions : List Action} {e e' : String} {ack : AckFact} {report : ReportFact}

/-- **The two facts of one rotation**: the fence is the same, the report comes later, and its event is another one. -/
theorem facts_of_one {rotation : Rotation} (hack : .commandAcknowledged e ack ∈ rotation.facts)
    (hreport : .certificateReported e' report ∈ rotation.facts) (hle : report.deviceSequence ≤ i64Max) :
    ack.rejection = none ∧ ack.desiredGeneration = rotation.command.generation ∧
    report.observedGeneration = rotation.command.generation ∧ report.fenceEpoch = ack.fenceEpoch ∧
    ack.deviceSequence < report.deviceSequence ∧ e ≠ e' := by
  have hack' : e = eventId .ack rotation.command.commandId ∧ ack = rotation.acknowledgement.toFact := by
    rcases List.mem_pair.1 hack with heq | heq <;> cases heq
    exact ⟨rfl, rfl⟩
  have hreport' : e' = eventId .report rotation.command.commandId ∧ report = rotation.report.toFact := by
    rcases List.mem_pair.1 hreport with heq | heq <;> cases heq
    exact ⟨rfl, rfl⟩
  obtain ⟨rfl, rfl⟩ := hack'
  obtain ⟨rfl, rfl⟩ := hreport'
  refine ⟨rfl, rfl, rfl, rfl, ?_, fun h => by cases eventId_kind h⟩
  -- the numbers of the contracts end before the numbers of the device do
  have hsequence : saturatingAdd (saturatingAdd rotation.sequence 1) 1 ≤ i64Max := hle
  have hmax : i64Max < u64Max := by decide
  show saturatingAdd rotation.sequence 1 < saturatingAdd (saturatingAdd rotation.sequence 1) 1
  unfold saturatingAdd at hsequence ⊢
  omega

variable {Text : Type} {contracts : Contracts Text} {identity identity' : DeviceIdentity} {context : MappingContext}
  {ackEvent reportEvent receiptEvent : EventRef} {a : CommandAcknowledgement} {r : CredentialReport}
  {put : Contract.PolicyPut} {accepted : RotationAccepted} {receipted : Contract.ReceiptedPayload}
  {receipt : ApplicationReceiptObservation} {afterAck final : Contract.StatusGet} {s₁ s₂ : StatusProjection}

/-- **The verified trace.**  An acknowledgement and a report that one device has queued at any points of its life arrive
under their events.  They are accepted beside what the service has told if and only if they are the two facts of one
rotation of the accepted generation, the service has told the rest of its story, and its event is a third one. -/
theorem verified_iff (faithful : contracts.Faithful) (hack : Queued pki actions (.commandAcknowledged e ack))
    (hreport : Queued pki actions (.certificateReported e' report)) (hackEvent : ackEvent.expose = e)
    (hreportEvent : reportEvent.expose = e') (harrives : AckArrives contracts identity context ackEvent ack a)
    (harrives' : ReportArrives contracts identity' context reportEvent report r)
    (hput : mapPolicySuccess context put = .ok accepted) (hreceipt : mapReceipt context receiptEvent receipted = .ok receipt)
    (hafter : statusOf afterAck = some s₁) (hfinal : statusOf final = some s₂) :
    verifyPositiveTrace accepted a s₁ r receipt s₂ = .ok () ↔
      (∃ rotation : Rotation, rotation.command.generation = put.acceptedGeneration ∧
        .commandAcknowledged e ack ∈ rotation.facts ∧ .certificateReported e' report ∈ rotation.facts) ∧
      Served put ack.fenceEpoch afterAck receipted final ∧ receiptEvent.expose ≠ e ∧ receiptEvent.expose ≠ e' := by
  obtain ⟨hsame, -⟩ := harrives.same faithful
  obtain ⟨hsame', hle, -⟩ := harrives'.same faithful
  obtain ⟨hcoordinates, href, hgen⟩ := mapPolicySuccess_eq_ok hput
  obtain ⟨hrc, hre, hcommitted⟩ := mapReceipt_eq_ok (n := accepted.acceptedGeneration) href hreceipt
  have hevents : a.event.expose = e ∧ r.event.expose = e' ∧ receipt.event = receiptEvent :=
    ⟨hsame.event ▸ hackEvent, hsame'.event ▸ hreportEvent, hre⟩
  have hunready := hasReadyTrue_eq_false hafter
  obtain ⟨-, -, -, hobserved, -, hmatching⟩ := statusOf_eq_some hfinal
  have hdesired := desired_iff href hgen hafter
  have hdesired' := desired_iff href hgen hfinal
  rw [verifyPositiveTrace_eq_ok, hevents.1, hevents.2.1, hevents.2.2]
  constructor
  · rintro ⟨hp, hf, hc, hne, hne'⟩
    have hrejection : ack.rejection = none := by
      have hreceived := hp.received
      rw [hsame.outcome] at hreceived
      rcases hrej : ack.rejection with _ | rejection
      · rfl
      · rw [hrej] at hreceived
        cases hreceived
    have hackGen : ack.desiredGeneration = (put.acceptedGeneration : ℕ) := by
      rw [← hsame.desiredGeneration, hp.generation, hgen]
    have hreportGen : report.observedGeneration = (put.acceptedGeneration : ℕ) := by
      rw [← hsame'.observedGeneration, hf.generation, hgen]
    have hturned : (OutboundFact.commandAcknowledged e ack).turned = some (put.acceptedGeneration : ℕ) := by
      rw [← hackGen]
      exact if_pos hrejection
    have hturned' : (OutboundFact.certificateReported e' report).turned = some (put.acceptedGeneration : ℕ) :=
      congrArg some hreportGen
    obtain ⟨rotation, hmem, hmem'⟩ := one_rotation pki actions hack hreport hturned hturned'
    obtain ⟨command, hdata⟩ := hdesired.1 ⟨hp.desired, hp.lineage⟩
    obtain ⟨c, hfence, hstate, rfl⟩ := (command_iff hafter hdata).1 hp.command
    refine ⟨⟨rotation, ?_, hmem, hmem'⟩, ⟨?_, ⟨c, ?_, hstate, hdata⟩, ?_, hdesired'.1 ⟨hc.desired, hc.lineage⟩, ?_, ?_⟩,
      hne.symm, hne'.symm⟩
    · exact (facts_of_one hmem hmem' hle).2.1.symm.trans hackGen
    · exact hunready.1 hp.unready
    · rw [hfence, hsame.fenceEpoch]
    · obtain ⟨fields, hfields, hid, hn⟩ := hcommitted.1 hc.committed
      exact ⟨fields, hfields, hid, hn.trans hgen⟩
    · rw [hobserved, hc.observed, hgen]
    · have hready := hc.ready
      rw [hmatching, List.any_eq_true] at hready
      obtain ⟨c, hmem, hc⟩ := hready
      simp only [Bool.and_eq_true, decide_eq_true_eq] at hc
      exact ⟨c, hmem, hc.1.1.1, hc.1.1.2, hc.1.2, hc.2⟩
  · rintro ⟨⟨rotation, hrotation, hmem, hmem'⟩, hserved, hne, hne'⟩
    obtain ⟨hrejection, hackGen, hreportGen, hfence, hseq, hevent⟩ := facts_of_one hmem hmem' hle
    obtain ⟨command, hepoch, hstate, hdata⟩ := hserved.pending
    obtain ⟨command', hdata'⟩ := hserved.desired
    obtain ⟨fields, hfields, hid, hn⟩ := hserved.committed
    obtain ⟨c, hready, htype, hstatus, hreason, hcgen⟩ := hserved.ready
    obtain ⟨hd₁, hl₁⟩ := hdesired.2 ⟨_, hdata⟩
    obtain ⟨hd₂, hl₂⟩ := hdesired'.2 ⟨_, hdata'⟩
    have hpos : a.position.desiredGeneration = accepted.acceptedGeneration := by
      rw [← PNat.coe_inj, hsame.desiredGeneration, hackGen, hrotation, hgen]
    have hpos' : r.position.observedGeneration = accepted.acceptedGeneration := by
      rw [← PNat.coe_inj, hsame'.observedGeneration, hreportGen, hrotation, hgen]
    refine ⟨⟨?_, ?_, hsame.coordinates.trans hcoordinates.symm, hpos, hd₁, ?_, hl₁⟩,
      ⟨hsame'.coordinates.trans hcoordinates.symm, hpos', ?_, ?_, ?_⟩,
      ⟨hrc.trans hcoordinates.symm, hcommitted.2 ⟨fields, hfields, hid, hn.trans hgen.symm⟩, hd₂, ?_, hl₂, ?_⟩,
      hne.symm, hne'.symm⟩
    · rw [hsame.outcome, hrejection]
      rfl
    · exact hunready.2 hserved.unready
    · exact (command_iff hafter hdata).2 ⟨command, hepoch.trans hsame.fenceEpoch.symm, hstate, rfl⟩
    · rw [← PNat.coe_inj, hsame'.fenceEpoch, hsame.fenceEpoch, hfence]
    · rw [hsame.deviceSequence, hsame'.deviceSequence]
      exact hseq
    · rw [hevents.1, hevents.2.1]
      exact hevent
    · have hcast : (s₂.observedGeneration : ℤ) = (put.acceptedGeneration : ℕ) := hobserved.symm.trans hserved.observed
      rw [hgen]
      exact_mod_cast hcast
    · rw [hmatching, List.any_eq_true]
      exact ⟨c, hready, by simp [htype, hstatus, hreason, hcgen]⟩

end

namespace Fixture

open Agent.Fixture

/-- What the service tells of the first command. -/
def put : Contract.PolicyPut := ⟨(command 0).authorizationReceiptId, 2, .pendingDevice⟩

def afterAck : Contract.StatusGet := ⟨some ⟨2, put.authorizationReceiptId, some ⟨2, .received⟩⟩, 1, []⟩

def receipted : Contract.ReceiptedPayload :=
  .committedPayload ⟨(identity one).device, "envelope-1", put.authorizationReceiptId, 2, 1800000010⟩

def final : Contract.StatusGet := ⟨some ⟨2, put.authorizationReceiptId, none⟩, 2, [⟨2, .stateMatches, .true, .ready, 1800000020⟩]⟩

theorem served : Served put 2 afterAck receipted final where
  unready _ h := by cases h
  pending := ⟨⟨2, .received⟩, rfl, rfl, rfl⟩
  committed := ⟨_, rfl, rfl, rfl⟩
  desired := ⟨none, rfl⟩
  observed := rfl
  ready := ⟨_, List.mem_singleton_self _, rfl, rfl, rfl, rfl⟩

def ackEvent : EventRef := ⟨eventId .ack commandId.expose, by decide +kernel⟩

def reportEvent : EventRef := ⟨eventId .report commandId.expose, by decide +kernel⟩

end Fixture

open Fixture Agent.Fixture in
/-- The rotation of the first command is verified. -/
theorem verified_iff_first : ∃ accepted a s₁ r receipt s₂, mapPolicySuccess context put = .ok accepted ∧
    mapReceipt context Fixture.event receipted = .ok receipt ∧ verifyPositiveTrace accepted a s₁ r receipt s₂ = .ok () := by
  have hdevice : context.expectedDeviceId = (identity one).device := rfl
  obtain ⟨artifact, ha⟩ := run_apply
  have hack := queued_rotation ha List.mem_cons_self
  have hreport := queued_rotation ha (List.mem_cons_of_mem _ (List.mem_singleton_self _))
  have hvalid : (rotation artifact).report.SemanticValid := by
    have hs := ((sound_run Agent.Fixture.pki _).memory _ ha).1.coherent.consistent
    exact (hs.entries (.reportBlocked (eventId .report commandId.expose) (rotation artifact).report)
      (List.mem_append_right _ (List.mem_cons_of_mem _ (List.mem_singleton_self _)))).semantic.2
  obtain ⟨-, -, -, -, -, -, -, -, hdigest, hstate⟩ := hvalid
  have harrives : ∃ a, AckArrives contracts (identity one) context ackEvent (rotation artifact).acknowledgement.toFact a := by
    have hid : validCommandId (rotation artifact).acknowledgement.toFact.commandId = true := commandId.valid
    have hblank : blank (rotation artifact).acknowledgement.toFact.commandId = false :=
      show blank commandId.expose = false by decide +kernel
    have hgen : 0 < (rotation artifact).acknowledgement.toFact.desiredGeneration := show 0 < 2 by decide
    have hfence : 0 < (rotation artifact).acknowledgement.toFact.fenceEpoch := show 0 < 2 by decide
    have hseq : (rotation artifact).acknowledgement.toFact.deviceSequence ≤ i64Max := show 1 ≤ i64Max by decide
    obtain ⟨text, payload, a, hto, hfrom, hmap, -⟩ := encodeAck_maps faithful hdevice hid hblank hgen hfence hseq
    exact ⟨a, text, payload, hto, hfrom, hmap⟩
  have harrives' : ∃ r, ReportArrives contracts (identity one) context reportEvent (rotation artifact).report.toFact r := by
    have hgen : 0 < (rotation artifact).report.toFact.observedGeneration := show 0 < 2 by decide
    have hfence : 0 < (rotation artifact).report.toFact.fenceEpoch := show 0 < 2 by decide
    have hseq : (rotation artifact).report.toFact.deviceSequence ≤ i64Max := show 2 ≤ i64Max by decide
    obtain ⟨text, payload, r, hto, hfrom, hmap, -⟩ := encodeReport_maps faithful hdevice hgen hfence hstate hdigest hseq
    exact ⟨r, text, payload, hto, hfrom, hmap⟩
  obtain ⟨a, ha'⟩ := harrives
  obtain ⟨r, hr⟩ := harrives'
  have hput : ∃ accepted, mapPolicySuccess context put = .ok accepted := ⟨_, rfl⟩
  have hreceipt : ∃ receipt, mapReceipt context Fixture.event receipted = .ok receipt := ⟨_, rfl⟩
  have hafter : ∃ s₁, statusOf afterAck = some s₁ := ⟨_, rfl⟩
  have hfinal : ∃ s₂, statusOf final = some s₂ := ⟨_, rfl⟩
  obtain ⟨accepted, hput⟩ := hput
  obtain ⟨receipt, hreceipt⟩ := hreceipt
  obtain ⟨s₁, hafter⟩ := hafter
  obtain ⟨s₂, hfinal⟩ := hfinal
  refine ⟨accepted, a, s₁, r, receipt, s₂, hput, hreceipt,
    (verified_iff faithful hack hreport rfl rfl ha' hr hput hreceipt hafter hfinal).2
      ⟨⟨rotation artifact, rfl, List.mem_cons_self, List.mem_cons_of_mem _ (List.mem_singleton_self _)⟩, served, ?_, ?_⟩⟩
  · show Fixture.event.expose ≠ eventId .ack commandId.expose
    decide +kernel
  · show Fixture.event.expose ≠ eventId .report commandId.expose
    decide +kernel

end RssIncubator.Product
