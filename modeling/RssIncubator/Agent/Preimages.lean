import RssIncubator.Lib.Framing
import RssIncubator.Agent.Operations

/-!
# What is hashed

Every identity the agent derives is the hash of a byte string: a domain, and the values one after another.  `HashInput`
lists what is hashed, by the function that does it and with the values that function is given.  The byte strings are
unambiguous: from one the function and its arguments can be read off, a malformed payload up to its own digest.
-/

namespace RssIncubator.Agent

open Lib

/-! ### Texts without NUL -/

theorem zero_mem_utf8EncodeChar {c : Char} (h : 0 ∈ String.utf8EncodeChar c) : c = '\x00' := by
  have hbyte : ∀ n, 0 < n → n < 256 → (0 : UInt8) ≠ UInt8.ofNat n := by
    intro n hpos hlt he
    have := congrArg UInt8.toNat he
    simp only [UInt8.toNat_ofNat, UInt8.toNat_ofNat', Nat.reducePow, Nat.reduceMod] at this
    omega
  unfold String.utf8EncodeChar at h
  dsimp only at h
  split_ifs at h with h1 h2 h3 <;> simp only [List.mem_cons, List.not_mem_nil, or_false] at h
  · have hval := congrArg UInt8.toNat h
    simp only [UInt8.toNat_ofNat, UInt8.toNat_ofNat', Nat.reducePow, Nat.reduceMod] at hval
    refine Char.ext (UInt32.toNat_inj.1 ?_)
    show c.val.toNat = 0
    omega
  · rcases h with h | h
    · exact absurd h (hbyte _ (by omega) (by omega))
    · exact absurd h (hbyte _ (by omega) (by omega))
  · rcases h with h | h | h
    · exact absurd h (hbyte _ (by omega) (by omega))
    · exact absurd h (hbyte _ (by omega) (by omega))
    · exact absurd h (hbyte _ (by omega) (by omega))
  · rcases h with h | h | h | h
    · exact absurd h (hbyte _ (by omega) (by omega))
    · exact absurd h (hbyte _ (by omega) (by omega))
    · exact absurd h (hbyte _ (by omega) (by omega))
    · exact absurd h (hbyte _ (by omega) (by omega))

/-- A text without NUL has no zero byte. -/
theorem zero_notMem_utf8 {s : String} (h : '\x00' ∉ s.toList) : 0 ∉ utf8 s := by
  rw [← String.ofList_toList (s := s), utf8_ofList]
  intro hmem
  obtain ⟨c, hc, hzero⟩ := List.mem_flatMap.1 hmem
  exact h (zero_mem_utf8EncodeChar hzero ▸ hc)

theorem CommandId.zero_notMem (c : CommandId) : 0 ∉ utf8 c.expose := by
  refine zero_notMem_utf8 fun hmem => ?_
  have hvalid := c.valid
  simp only [validCommandId, Bool.and_eq_true, Bool.not_eq_true', List.any_eq_false] at hvalid
  exact hvalid.2 _ hmem (by decide)

theorem ArtifactId.zero_notMem (a : ArtifactId) : 0 ∉ utf8 a.expose := by
  refine zero_notMem_utf8 fun hmem => ?_
  have hvalid := a.valid
  simp only [validArtifactId, Bool.and_eq_true, Bool.not_eq_true', List.any_eq_false] at hvalid
  exact hvalid.1.2 _ hmem (by decide)

theorem Sha256Digest.zero_notMem (d : Sha256Digest) : 0 ∉ utf8 d.expose := by
  have hvalid := d.valid
  simp only [validDigest, Bool.and_eq_true, decide_eq_true_eq, List.all_eq_true] at hvalid
  obtain ⟨⟨hlen, hpre⟩, hall⟩ := hvalid
  obtain ⟨rest, hrest⟩ := hpre
  have h7 : (utf8 "sha256:").length = 7 := by decide
  have hdrop : (utf8 d.expose).drop 7 = rest := by rw [← hrest, ← h7, List.drop_left]
  rw [← hrest, List.mem_append]
  rintro (h | h)
  · revert h
    decide
  · exact absurd (hall 0 (hdrop ▸ h)) (by decide)

theorem hyphenated_zero_notMem (u : Uuid) : 0 ∉ utf8 u.hyphenated := by
  have hhex : ∀ b, 0 ∉ utf8 (hex b) := fun b h => absurd ((utf8_hex b).2 0 h) (by decide)
  have hdash : 0 ∉ utf8 "-" := by decide
  simp only [Uuid.hyphenated, utf8_append, List.mem_append, hhex, hdash, or_self, not_false_eq_true]

theorem toString_zero_notMem (n : ℕ) : 0 ∉ utf8 (toString n) := by
  refine zero_notMem_utf8 fun hmem => ?_
  rw [Nat.toString_eq_ofList_toDigits, String.toList_ofList] at hmem
  have := Nat.isDigit_of_mem_toDigits (by decide) (by decide) hmem
  revert this
  decide

theorem DeviceIdentity.commandTopic_zero_notMem (i : DeviceIdentity) : 0 ∉ utf8 i.commandTopic := by
  have hparts : 0 ∉ utf8 "rss/v1/" ∧ 0 ∉ utf8 "/" ∧ 0 ∉ utf8 "/downlink/" ∧
      0 ∉ utf8 "identity.commands.apply-device-certificate" := by decide
  obtain ⟨h1, h2, h3, h4⟩ := hparts
  simp only [commandTopic, utf8_append, List.mem_append, hyphenated_zero_notMem, toString_zero_notMem, h1, h2, h3, h4,
    or_self, not_false_eq_true]

/-! ### The values, one after another -/

/-- A `u64`. -/
abbrev U64 := { n : ℕ // n ≤ u64Max }

/-- A byte slice: no longer than `isize::MAX`. -/
abbrev Slice := { b : Bytes // b.length ≤ i64Max }

/-- The command topic of a `TopicSet`. -/
abbrev CommandTopic := { topic : String // ∃ i : DeviceIdentity, topic = i.commandTopic }

theorem commandId_delimits : SelfDelimiting fun c : CommandId => utf8 c.expose ++ [0] := by
  refine .of_terminator (f := fun c : CommandId => utf8 c.expose) ?_ 0 fun c => c.zero_notMem
  rintro ⟨s, hs⟩ ⟨s', hs'⟩ h
  obtain rfl := utf8_inj.1 h
  rfl

theorem artifactId_delimits : SelfDelimiting fun a : ArtifactId => utf8 a.expose ++ [0] := by
  refine .of_terminator (f := fun a : ArtifactId => utf8 a.expose) ?_ 0 fun a => a.zero_notMem
  rintro ⟨s, hs⟩ ⟨s', hs'⟩ h
  obtain rfl := utf8_inj.1 h
  rfl

theorem sha256Digest_injective : Function.Injective fun d : Sha256Digest => utf8 d.expose := by
  rintro ⟨s, hs⟩ ⟨s', hs'⟩ h
  obtain rfl := utf8_inj.1 h
  rfl

theorem sha256Digest_delimits : SelfDelimiting fun d : Sha256Digest => utf8 d.expose ++ [0] :=
  .of_terminator sha256Digest_injective 0 fun d => d.zero_notMem

theorem commandTopic_delimits : SelfDelimiting fun t : CommandTopic => utf8 t.1 ++ [0] := by
  refine .of_terminator (f := fun t : CommandTopic => utf8 t.1) (fun t t' h => Subtype.ext (utf8_inj.1 h)) 0 ?_
  rintro ⟨_, i, rfl⟩
  exact i.commandTopic_zero_notMem

theorem uuid_delimits : SelfDelimiting Uuid.bytes := by
  refine .of_length ?_ 16 fun u => u.length
  rintro ⟨b, hb⟩ ⟨b', hb'⟩ h
  obtain rfl : b = b' := h
  rfl

theorem u64_delimits : SelfDelimiting fun n : U64 => beBytes n.1 := by
  refine .of_length (f := fun n : U64 => beBytes n.1) (fun n m h => ?_) 8 fun n => bigEndian_length 8 n.1
  have hlt : ∀ k : U64, k.1 < 256 ^ 8 := fun k => lt_of_le_of_lt k.2 (by decide)
  exact Subtype.ext (bigEndian_inj (hlt n) (hlt m) h)

theorem nonZeroU64_delimits : SelfDelimiting fun n : NonZeroU64 => beBytes n.1 :=
  u64_delimits.comp (e := fun n : NonZeroU64 => ⟨n.1, n.2.2⟩) fun _ _ h => Subtype.ext (congrArg (fun n : U64 => n.1) h)

theorem slice_delimits : SelfDelimiting fun b : Slice => beBytes (min b.1.length u64Max) ++ b.1 := by
  refine .of_count (f := fun b : Slice => b.1) (fun _ _ h => Subtype.ext h) fun a b r r' h => ?_
  obtain ⟨hlen, hr⟩ := u64_delimits ⟨_, min_le_right a.1.length u64Max⟩ ⟨_, min_le_right b.1.length u64Max⟩ r r' h
  have hmin : min a.1.length u64Max = min b.1.length u64Max := congrArg Subtype.val hlen
  have hmax : ∀ c : Slice, min c.1.length u64Max = c.1.length := fun c => min_eq_left (le_trans c.2 (by decide))
  rw [hmax a, hmax b] at hmin
  exact ⟨hmin, hr⟩

/-! ### The functions -/

/-- The functions that hash, `event_id` once for each kind of event. -/
inductive HashFunction where
  | event (kind : EventKind)
  | state
  | command
  | malformed
  | artifact
  deriving DecidableEq

/-- What comes first: the domain, and of an event its kind. -/
def HashFunction.tag : HashFunction → Bytes
  | .event kind => utf8 "rss.reference-device-agent.event.v1\x00" ++ utf8 kind.text ++ [0]
  | .state => utf8 "rss.reference-device-agent.state.v1\x00"
  | .command => utf8 "rss.reference-device-agent.command.v1\x00"
  | .malformed => utf8 "rss.reference-device-agent.malformed-command.v1\x00"
  | .artifact => utf8 "rss.reference-device-agent.artifact.v1\x00"

theorem tag_delimits : SelfDelimiting HashFunction.tag := by
  refine .of_prefixFree fun f g => ?_
  rcases f with (_ | _ | _ | _) | _ | _ | _ | _ <;> rcases g with (_ | _ | _ | _) | _ | _ | _ | _ <;> decide

/-- What is hashed, with the arguments of the function that does it. -/
inductive HashInput where
  | ack (commandId : CommandId)
  | report (commandId : CommandId)
  | rejected (commandId : CommandId) (fingerprint : Sha256Digest)
  | settlement (topic : CommandTopic) (commandId : CommandId) (fingerprint : Sha256Digest)
  | state (tenant device : Uuid) (credentialGeneration desiredGeneration fence revision : U64) (artifactDigest : Sha256Digest)
  | command (c : DeviceCommand)
  | malformed (topic : CommandTopic) (commandId : CommandId) (payload : Bytes)
  | artifact (ca certificate privateKey : Slice)

/-- The bytes that `state_hash` feeds to the hash. -/
def statePreimage (tenant device : Uuid) (credentialGeneration desiredGeneration fence revision : ℕ)
    (artifactDigest : String) : Bytes :=
  utf8 "rss.reference-device-agent.state.v1\x00" ++ tenant.bytes ++ device.bytes ++
    [credentialGeneration, desiredGeneration, fence, revision].flatMap beBytes ++ utf8 artifactDigest

namespace HashInput

/-- The bytes that are hashed. -/
def preimage : HashInput → Bytes
  | .ack commandId => eventPreimage .ack commandId.expose
  | .report commandId => eventPreimage .report commandId.expose
  | .rejected commandId fingerprint => eventPreimage .rejected (conflictSource commandId.expose fingerprint.expose)
  | .settlement topic commandId fingerprint =>
    eventPreimage .settlement (topic.1 ++ "\x00" ++ commandId.expose ++ "\x00" ++ fingerprint.expose)
  | .state tenant device credentialGeneration desiredGeneration fence revision artifactDigest =>
    statePreimage tenant device credentialGeneration.1 desiredGeneration.1 fence.1 revision.1 artifactDigest.expose
  | .command c => commandPreimage c
  | .malformed topic commandId payload => malformedPreimage topic.1 commandId.expose payload
  | .artifact ca certificate privateKey => artifactPreimage ca.1 certificate.1 privateKey.1

/-- The text that comes of it. -/
def result : HashInput → String
  | .ack commandId => eventId .ack commandId.expose
  | .report commandId => eventId .report commandId.expose
  | .rejected commandId fingerprint => eventId .rejected (conflictSource commandId.expose fingerprint.expose)
  | .settlement topic commandId fingerprint => settlementToken topic.1 commandId.expose fingerprint.expose
  | .state tenant device credentialGeneration desiredGeneration fence revision artifactDigest =>
    stateHash tenant device credentialGeneration.1 desiredGeneration.1 fence.1 revision.1 artifactDigest.expose
  | .command c => commandFingerprint c
  | .malformed topic commandId payload => malformedFingerprint topic.1 commandId.expose payload
  | .artifact ca certificate privateKey => (computeArtifactDigestBytes ca.1 certificate.1 privateKey.1).expose

def function : HashInput → HashFunction
  | .ack _ => .event .ack
  | .report _ => .event .report
  | .rejected _ _ => .event .rejected
  | .settlement _ _ _ => .event .settlement
  | .state _ _ _ _ _ _ _ => .state
  | .command _ => .command
  | .malformed _ _ _ => .malformed
  | .artifact _ _ _ => .artifact

/-- What the text begins with. -/
def label (x : HashInput) : String :=
  match x.function with
  | .event kind => "reference-" ++ kind.text ++ "-"
  | _ => "sha256:"

theorem result_eq (x : HashInput) : x.result = x.label ++ hex (sha256 x.preimage) := by cases x <;> rfl

/-- The arguments, as they follow the tag. -/
def body : HashInput → Bytes
  | .ack commandId => utf8 commandId.expose
  | .report commandId => utf8 commandId.expose
  | .rejected commandId fingerprint => (utf8 commandId.expose ++ [0]) ++ utf8 fingerprint.expose
  | .settlement topic commandId fingerprint =>
    (utf8 topic.1 ++ [0]) ++ ((utf8 commandId.expose ++ [0]) ++ utf8 fingerprint.expose)
  | .state tenant device credentialGeneration desiredGeneration fence revision artifactDigest =>
    tenant.bytes ++ (device.bytes ++ (beBytes credentialGeneration.1 ++ (beBytes desiredGeneration.1 ++
      (beBytes fence.1 ++ (beBytes revision.1 ++ utf8 artifactDigest.expose)))))
  | .command c =>
    (utf8 c.commandId.expose ++ [0]) ++ ((utf8 c.artifactId.expose ++ [0]) ++ ((utf8 c.artifactDigest.expose ++ [0]) ++
      ((utf8 c.intentDigest.expose ++ [0]) ++ ((utf8 c.policyHash.expose ++ [0]) ++ (c.deviceId.bytes ++
        (c.authorizationReceiptId.bytes ++ (beBytes c.deadlineEpochSeconds.1 ++ (beBytes c.desiredGeneration.1 ++
          beBytes c.fenceEpoch.1))))))))
  | .malformed topic commandId payload => (utf8 topic.1 ++ [0]) ++ ((utf8 commandId.expose ++ [0]) ++ sha256 payload)
  | .artifact ca certificate privateKey =>
    (beBytes (min ca.1.length u64Max) ++ ca.1) ++ ((beBytes (min certificate.1.length u64Max) ++ certificate.1) ++
      (beBytes (min privateKey.1.length u64Max) ++ privateKey.1))

theorem preimage_eq (x : HashInput) : x.preimage = x.function.tag ++ x.body := by
  have hzero : utf8 "\x00" = [0] := by decide
  cases x <;> simp [preimage, body, function, HashFunction.tag, eventPreimage, conflictSource, utf8_append, hzero,
    statePreimage, commandPreimage, malformedPreimage, artifactPreimage]

/-- The same function with the same arguments, a payload up to its digest. -/
def Same : HashInput → HashInput → Prop
  | .malformed topic commandId payload, .malformed topic' commandId' payload' =>
    topic = topic' ∧ commandId = commandId' ∧ sha256 payload = sha256 payload'
  | x, y => x = y

theorem command_body_inj {c c' : DeviceCommand} (h : (command c).body = (command c').body) : c = c' := by
  simp only [body] at h
  obtain ⟨hcommandId, h⟩ := commandId_delimits _ _ _ _ h
  obtain ⟨hartifactId, h⟩ := artifactId_delimits _ _ _ _ h
  obtain ⟨hartifactDigest, h⟩ := sha256Digest_delimits _ _ _ _ h
  obtain ⟨hintentDigest, h⟩ := sha256Digest_delimits _ _ _ _ h
  obtain ⟨hpolicyHash, h⟩ := sha256Digest_delimits _ _ _ _ h
  obtain ⟨hdeviceId, h⟩ := uuid_delimits _ _ _ _ h
  obtain ⟨hreceipt, h⟩ := uuid_delimits _ _ _ _ h
  obtain ⟨hdeadline, h⟩ := nonZeroU64_delimits _ _ _ _ h
  obtain ⟨hgeneration, h⟩ := nonZeroU64_delimits _ _ _ _ h
  have hfence := nonZeroU64_delimits.injective h
  cases c
  cases c'
  simp_all

theorem state_body_inj {tenant device tenant' device' : Uuid} {g d f r g' d' f' r' : U64} {digest digest' : Sha256Digest}
    (h : (state tenant device g d f r digest).body = (state tenant' device' g' d' f' r' digest').body) :
    state tenant device g d f r digest = state tenant' device' g' d' f' r' digest' := by
  simp only [body] at h
  obtain ⟨htenant, h⟩ := uuid_delimits _ _ _ _ h
  obtain ⟨hdevice, h⟩ := uuid_delimits _ _ _ _ h
  obtain ⟨hgeneration, h⟩ := u64_delimits _ _ _ _ h
  obtain ⟨hdesired, h⟩ := u64_delimits _ _ _ _ h
  obtain ⟨hfence, h⟩ := u64_delimits _ _ _ _ h
  obtain ⟨hrevision, h⟩ := u64_delimits _ _ _ _ h
  rw [htenant, hdevice, hgeneration, hdesired, hfence, hrevision, sha256Digest_injective h]

/-- One function with equal bodies: the arguments are the same. -/
theorem same_of_body {x y : HashInput} (hfunction : x.function = y.function) (h : x.body = y.body) : x.Same y := by
  cases x <;> cases y <;> cases hfunction
  case ack.ack => exact congrArg ack (commandId_delimits.injective (congrArg (· ++ [0]) h))
  case report.report => exact congrArg report (commandId_delimits.injective (congrArg (· ++ [0]) h))
  case rejected.rejected =>
    obtain ⟨hid, hrest⟩ := commandId_delimits _ _ _ _ h
    have hfingerprint := sha256Digest_injective hrest
    rw [hid, hfingerprint]
    rfl
  case settlement.settlement =>
    obtain ⟨htopic, hrest⟩ := commandTopic_delimits _ _ _ _ h
    obtain ⟨hid, hrest⟩ := commandId_delimits _ _ _ _ hrest
    have hfingerprint := sha256Digest_injective hrest
    rw [htopic, hid, hfingerprint]
    rfl
  case state.state => exact state_body_inj h
  case command.command => exact congrArg command (command_body_inj h)
  case malformed.malformed =>
    obtain ⟨htopic, hrest⟩ := commandTopic_delimits _ _ _ _ h
    obtain ⟨hid, hrest⟩ := commandId_delimits _ _ _ _ hrest
    exact ⟨htopic, hid, hrest⟩
  case artifact.artifact =>
    obtain ⟨hca, hrest⟩ := slice_delimits _ _ _ _ h
    obtain ⟨hcertificate, hrest⟩ := slice_delimits _ _ _ _ hrest
    have hkey := slice_delimits.injective hrest
    rw [hca, hcertificate, hkey]
    rfl

end HashInput

/-- **What is hashed is unambiguous**: each of the texts is the hash of its byte string under the label of its function,
and two byte strings are equal exactly when they come of the same function, of one kind of event, with the same
arguments, a malformed payload up to its own digest. -/
theorem preimages_unambiguous : (∀ x : HashInput, x.result = x.label ++ hex (sha256 x.preimage)) ∧
    ∀ x y : HashInput, x.preimage = y.preimage ↔ x.Same y := by
  refine ⟨HashInput.result_eq, fun x y => ⟨fun h => ?_, fun h => ?_⟩⟩
  · rw [x.preimage_eq, y.preimage_eq] at h
    obtain ⟨hfunction, hbody⟩ := tag_delimits _ _ _ _ h
    exact HashInput.same_of_body hfunction hbody
  · cases x <;> cases y <;> first | exact congrArg HashInput.preimage h | skip
    obtain ⟨rfl, rfl, hpayload⟩ := h
    simp only [HashInput.preimage, malformedPreimage, hpayload]

end RssIncubator.Agent
