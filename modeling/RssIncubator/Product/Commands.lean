import RssIncubator.Driver.Mqtt
import RssIncubator.Product.Journey
import Mathlib.Data.Bool.AllAny

/-!
# The command of the contracts, on the device (`wire.rs`, `correlate_command`)

A command comes as a payload of the public contracts, and its name beside it.  The device decodes the payload, asks the
client of the product whether it is for this device, and takes over its values one by one.  What it makes of a payload is
`Carries`: the values of the request and no others, under the name it came with.
-/

namespace RssIncubator.Product

open Agent Lib

/-! ### The request of the contracts -/

/-- `IdentityApplyDeviceCertificateRequest`. -/
structure ApplyRequest where
  artifactDigest : String
  artifactId : String
  authorizationReceiptId : Uuid
  deadlineEpochSeconds : NonZeroU64
  desiredGeneration : NonZeroU64
  deviceId : Uuid
  fenceEpoch : NonZeroU64
  intentDigest : String
  policyHash : String
  deriving DecidableEq

structure CorrelatedCommand where
  context : MappingContext
  envelope : CommandRef
  request : ApplyRequest

def correlateCommand (context : MappingContext) (envelope : CommandRef) (request : ApplyRequest) :
    Except MappingError CorrelatedCommand := do
  context.requireDevice request.deviceId
  .ok ⟨context, envelope, request⟩

/-- `decode_command`.  Every failure is the one error of the wire. -/
def decodeCommand {Text : Type} (fromSlice : Text → Option ApplyRequest) (identity : DeviceIdentity) (commandId : String)
    (payload : Text) : Option DeviceCommand := do
  let request ← fromSlice payload
  let rotationId ← (Reference.tryFrom "rotation_id" commandId).toOption
  let tenant ← (Reference.tryFrom "tenant_ref" identity.tenant.hyphenated).toOption
  let device ← (Reference.tryFrom "device_ref" identity.device.hyphenated).toOption
  let envelope ← (Reference.tryFrom "command_ref" commandId).toOption
  let correlated ← (correlateCommand ⟨⟨rotationId, tenant, device⟩, identity.device⟩ envelope request).toOption
  let request := correlated.request
  let commandId ← (CommandId.tryFrom commandId).toOption
  let artifactId ← (ArtifactId.tryFrom request.artifactId).toOption
  let artifactDigest ← (Sha256Digest.tryFrom request.artifactDigest).toOption
  let desiredGeneration ← (NonZeroU64.tryFrom request.desiredGeneration.1).toOption
  let fenceEpoch ← (NonZeroU64.tryFrom request.fenceEpoch.1).toOption
  let intentDigest ← (Sha256Digest.tryFrom request.intentDigest).toOption
  let policyHash ← (Sha256Digest.tryFrom request.policyHash).toOption
  some ⟨commandId, request.deviceId, artifactId, artifactDigest, request.authorizationReceiptId,
    request.deadlineEpochSeconds, desiredGeneration, fenceEpoch, intentDigest, policyHash⟩

/-! ### What is decoded -/

/-- The command has the values of the request, which is for this device, and the name it came with. -/
structure Carries (request : ApplyRequest) (identity : DeviceIdentity) (commandId : String) (command : DeviceCommand) : Prop where
  named : command.commandId.expose = commandId
  spoken : blank commandId = false
  addressed : request.deviceId = identity.device
  deviceId : command.deviceId = request.deviceId
  artifactId : command.artifactId.expose = request.artifactId
  artifactDigest : command.artifactDigest.expose = request.artifactDigest
  authorizationReceiptId : command.authorizationReceiptId = request.authorizationReceiptId
  deadlineEpochSeconds : command.deadlineEpochSeconds = request.deadlineEpochSeconds
  desiredGeneration : command.desiredGeneration = request.desiredGeneration
  fenceEpoch : command.fenceEpoch = request.fenceEpoch
  intentDigest : command.intentDigest.expose = request.intentDigest
  policyHash : command.policyHash.expose = request.policyHash

section

variable {α β ε : Type} {Text : Type} {fromSlice : Text → Option ApplyRequest} {identity : DeviceIdentity} {commandId : String}
  {payload : Text} {command : DeviceCommand}

theorem toOption_eq_some {x : Except ε α} {a : α} : x.toOption = some a ↔ x = .ok a := by
  cases x <;> simp [Except.toOption]

theorem tryFrom_ok_iff {kind value : String} {r : Reference kind} :
    Reference.tryFrom kind value = .ok r ↔ r.expose = value := by
  refine ⟨tryFrom_expose, ?_⟩
  rintro rfl
  exact tryFrom_eq_ok r.valid

/-- A newtype over a text that passes a check. -/
theorem checked_ok_iff {T E : Type} {valid : String → Bool} (mk : ∀ value, valid value = true → T) {expose : T → String} {e : E}
    {value : String} {x : T} (hmk : ∀ value h, expose (mk value h) = value) (hx : ∀ x, ∃ h, mk (expose x) h = x) :
    (if h : valid value = true then Except.ok (mk value h) else .error e) = .ok x ↔ expose x = value := by
  constructor
  · intro h
    split_ifs at h with hvalid
    cases h
    exact hmk value hvalid
  · rintro rfl
    obtain ⟨hvalid, heq⟩ := hx x
    rw [dif_pos hvalid, heq]

theorem commandId_ok_iff {value : String} {c : CommandId} : CommandId.tryFrom value = .ok c ↔ c.expose = value :=
  checked_ok_iff CommandId.mk (fun _ _ => rfl) fun c => ⟨c.valid, rfl⟩

theorem artifactId_ok_iff {value : String} {a : ArtifactId} : ArtifactId.tryFrom value = .ok a ↔ a.expose = value :=
  checked_ok_iff ArtifactId.mk (fun _ _ => rfl) fun a => ⟨a.valid, rfl⟩

theorem correlateCommand_ok_iff {context : MappingContext} {envelope : CommandRef} {request : ApplyRequest}
    {correlated : CorrelatedCommand} : correlateCommand context envelope request = .ok correlated ↔
      request.deviceId = context.expectedDeviceId ∧ correlated = ⟨context, envelope, request⟩ := by
  unfold correlateCommand MappingContext.requireDevice
  split_ifs with h
  · simp [h, bind, Except.bind, eq_comm]
  · simp [h, bind, Except.bind]

/-- A text of such characters is a reference of any kind. -/
theorem validateReference_plain {value : String} (kind : String) (hne : value.toList ≠ [])
    (h : ∀ c ∈ value.toList, isControl c = false ∧ isWhitespace c = false) : validateReference value kind = .ok () := by
  have hcontrol : value.toList.any isControl = false := List.any_eq_false.2 fun c hc => by simp [h c hc]
  have hblank : blank value = false := by
    obtain ⟨c, hc⟩ := List.exists_mem_of_ne_nil _ hne
    rw [blank, List.all_eq_false]
    exact ⟨c, hc, by simp [h c hc]⟩
  unfold validateReference
  rw [hblank, hcontrol]
  rfl

theorem plain_hex (b : Bytes) : ∀ c ∈ (hex b).toList, isControl c = false ∧ isWhitespace c = false := by
  have hdigit : ∀ m < 16, isControl (hexDigit m) = false ∧ isWhitespace (hexDigit m) = false := by
    intro m hm
    interval_cases m <;> exact ⟨rfl, rfl⟩
  intro c hc
  rw [hex, String.toList_ofList, List.mem_flatMap] at hc
  obtain ⟨x, -, hx⟩ := hc
  have hlt := x.toNat_lt
  rw [List.mem_cons, List.mem_singleton] at hx
  rcases hx with rfl | rfl
  · exact hdigit _ (by omega)
  · exact hdigit _ (by omega)

theorem validateReference_hyphenated (kind : String) (u : Uuid) : validateReference u.hyphenated kind = .ok () := by
  refine validateReference_plain kind ?_ fun c hc => ?_
  · simp [Uuid.hyphenated]
  · have hdash : ∀ c ∈ "-".toList, isControl c = false ∧ isWhitespace c = false := List.all_iff_forall_prop.1 (by decide)
    simp only [Uuid.hyphenated, String.toList_append, List.mem_append] at hc
    rcases hc with (((((((hhex | hd) | hhex) | hd) | hhex) | hd) | hhex) | hd) | hhex
    · exact plain_hex _ c hhex
    · exact hdash c hd
    · exact plain_hex _ c hhex
    · exact hdash c hd
    · exact plain_hex _ c hhex
    · exact hdash c hd
    · exact plain_hex _ c hhex
    · exact hdash c hd
    · exact plain_hex _ c hhex

theorem validateReference_ok_iff {kind value : String} :
    validateReference value kind = .ok () ↔ blank value = false ∧ value.toList.any isControl = false := by
  unfold validateReference
  split_ifs <;> simp_all

/-- **What is decoded**: the values of a request for this device, under a name that is not blank. -/
theorem decodeCommand_eq_some : decodeCommand fromSlice identity commandId payload = some command ↔
    ∃ request, fromSlice payload = some request ∧ Carries request identity commandId command := by
  simp only [decodeCommand, Option.bind_eq_bind, Option.bind_eq_some_iff, toOption_eq_some, tryFrom_ok_iff,
    correlateCommand_ok_iff, commandId_ok_iff, artifactId_ok_iff, digest_tryFrom_eq_ok, NonZeroU64.tryFrom_eq_ok,
    Option.some.injEq]
  constructor
  · rintro ⟨request, hfrom, rotationId, hrotation, tenant, -, device, -, envelope, -, correlated, ⟨haddressed, rfl⟩, name, hname,
      artifactId, hartifact, digest, hdigest, generation, hgeneration, fence, hfence, intent, hintent, policy, hpolicy, rfl⟩
    refine ⟨request, hfrom, hname, ?_, haddressed, rfl, hartifact, hdigest, rfl, rfl, Subtype.ext hgeneration,
      Subtype.ext hfence, hintent, hpolicy⟩
    rw [← hrotation]
    exact (validateReference_ok_iff.1 rotationId.valid).1
  · rintro ⟨request, hfrom, h⟩
    have hvalid := h.named ▸ command.commandId.valid
    have hreference : ∀ kind, validateReference commandId kind = .ok () := fun kind =>
      validateReference_commandId kind hvalid h.spoken
    refine ⟨request, hfrom, ⟨commandId, hreference _⟩, rfl, ⟨_, validateReference_hyphenated _ identity.tenant⟩, rfl,
      ⟨_, validateReference_hyphenated _ identity.device⟩, rfl, ⟨commandId, hreference _⟩, rfl, _, ⟨h.addressed, rfl⟩,
      command.commandId, h.named, command.artifactId, h.artifactId, command.artifactDigest, h.artifactDigest,
      command.desiredGeneration, congrArg _ h.desiredGeneration, command.fenceEpoch, congrArg _ h.fenceEpoch,
      command.intentDigest, h.intentDigest, command.policyHash, h.policyHash, ?_⟩
    rw [← h.deviceId, ← h.authorizationReceiptId, ← h.deadlineEpochSeconds]

end

end RssIncubator.Product
