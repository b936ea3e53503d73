import RssIncubator.Lib.Sha256
import Mathlib.Data.List.Infix
import Mathlib.Tactic.IntervalCases

/-!
# Values of the reference device agent (`types.rs`)

The validated value types: each carries the check its constructor makes.  `u64` and `i64` values are
naturals and integers; the arithmetic that can leave the range is the saturating one of the source.
Byte strings are what the hash functions see: `utf8` of a text, the big-endian bytes of a number.
-/

namespace RssIncubator.Agent

open Lib

/-! ### Machine integers -/

abbrev u64Max : ℕ := 18446744073709551615
abbrev i64Max : ℕ := 9223372036854775807

/-- `u64::saturating_add`. -/
def saturatingAdd (a b : ℕ) : ℕ := min (a + b) u64Max

/-- A `NonZeroU64` and the newtypes over it. -/
abbrev NonZeroU64 := { n : ℕ // 0 < n ∧ n ≤ u64Max }

/-- A `NonZeroU32`. -/
abbrev NonZeroU32 := { n : ℕ // 0 < n ∧ n ≤ 4294967295 }

/-- `i64::try_from(now).unwrap_or(i64::MAX)`. -/
def observedAt (now : ℕ) : ℤ := if now ≤ i64Max then now else i64Max

/-- `u64::try_from(value).unwrap_or(u64::MAX)`. -/
def unsigned (value : ℤ) : ℕ := if 0 ≤ value then value.toNat else u64Max

theorem observedAt_nonneg (now : ℕ) : 0 ≤ observedAt now := by unfold observedAt; split <;> omega

theorem unsigned_observedAt {now : ℕ} (h : now ≤ i64Max) : unsigned (observedAt now) = now := by
  simp [unsigned, observedAt, h]

theorem unsigned_observedAt_le (now : ℕ) : unsigned (observedAt now) ≤ now := by
  unfold unsigned observedAt
  split <;> split <;> omega

theorem saturatingAdd_le (a b : ℕ) : saturatingAdd a b ≤ u64Max := by unfold saturatingAdd; omega

theorem saturatingAdd_one_of_lt {a : ℕ} (h : a < u64Max) : saturatingAdd a 1 = a + 1 := by
  unfold saturatingAdd; omega

/-! ### Bytes and text -/

/-- The bytes of a text. -/
def utf8 (s : String) : Bytes := s.toUTF8.data.toList

theorem utf8_append (s t : String) : utf8 (s ++ t) = utf8 s ++ utf8 t := by simp [utf8]

theorem utf8_inj {s t : String} : utf8 s = utf8 t ↔ s = t := by
  refine ⟨fun h => String.toByteArray_inj.1 (ByteArray.ext (Array.toList_inj.1 h)), fun h => by rw [h]⟩

theorem utf8_ofList (l : List Char) : utf8 (String.ofList l) = l.flatMap String.utf8EncodeChar := by
  simp [utf8, List.utf8Encode]

theorem length_utf8 (s : String) : (utf8 s).length = s.utf8ByteSize := by simp [utf8]

theorem toString_nat_inj {n m : ℕ} (h : toString n = toString m) : n = m := by
  rw [Nat.toString_eq_ofList_toDigits, Nat.toString_eq_ofList_toDigits, String.ofList_inj] at h
  have := congrArg (fun l => Nat.ofDigitChars 10 l 0) h
  simpa [Nat.ofDigitChars_toDigits] using this

/-- `u64::to_be_bytes`. -/
def beBytes (n : ℕ) : Bytes := (List.range 8).map fun i => UInt8.ofNat (n / 256 ^ (7 - i))

/-- A lowercase hexadecimal digit. -/
def hexDigit (n : ℕ) : Char := if n < 10 then Char.ofNat (48 + n) else Char.ofNat (87 + n)

/-- `{:x}` of a byte string. -/
def hex (b : Bytes) : String :=
  String.ofList (b.flatMap fun x => [hexDigit (x.toNat / 16), hexDigit (x.toNat % 16)])

/-- Unicode category Cc, as in `char::is_control`. -/
def isControl (c : Char) : Bool := c.toNat ≤ 0x1f || (0x7f ≤ c.toNat && c.toNat ≤ 0x9f)

/-- A byte that occurs in a lowercase hexadecimal text. -/
def isHexByte (b : UInt8) : Bool := (0x30 ≤ b && b ≤ 0x39) || (0x61 ≤ b && b ≤ 0x66)

theorem utf8_hexDigit {n : ℕ} (h : n < 16) :
    ∃ b, String.utf8EncodeChar (hexDigit n) = [b] ∧ isHexByte b = true := by
  interval_cases n <;> exact ⟨_, rfl, by decide⟩

/-- A digest in hexadecimal: two digits a byte. -/
theorem utf8_hex (b : Bytes) : (utf8 (hex b)).length = 2 * b.length ∧ ∀ x ∈ utf8 (hex b), isHexByte x := by
  rw [hex, utf8_ofList]
  induction b with
  | nil => simp
  | cons x b ih =>
    obtain ⟨y, hy, hy'⟩ := utf8_hexDigit (n := x.toNat / 16) (by have := x.toNat_lt; omega)
    obtain ⟨z, hz, hz'⟩ := utf8_hexDigit (n := x.toNat % 16) (by omega)
    obtain ⟨ih₁, ih₂⟩ := ih
    simp only [List.flatMap_cons, List.flatMap_append, hy, hz, List.flatMap_nil, List.append_nil]
    refine ⟨?_, ?_⟩
    · simp only [List.cons_append, List.nil_append, List.length_cons, ih₁]
      omega
    · intro w hw
      simp only [List.cons_append, List.nil_append, List.mem_cons] at hw
      rcases hw with rfl | rfl | hw
      · exact hy'
      · exact hz'
      · exact ih₂ w hw

/-! ### Identities and topics -/

/-- Failure to construct a security-sensitive value. -/
inductive ValueError where
  | zero | invalidArtifactId | invalidCommandId | invalidDigest | nilTenant | nilDevice
  deriving DecidableEq

structure Uuid where
  bytes : Bytes
  length : bytes.length = 16
  deriving DecidableEq

def Uuid.nil : Uuid := ⟨List.replicate 16 0, rfl⟩

/-- `Uuid::hyphenated`. -/
def Uuid.hyphenated (u : Uuid) : String :=
  hex (u.bytes.take 4) ++ "-" ++ hex ((u.bytes.drop 4).take 2) ++ "-" ++ hex ((u.bytes.drop 6).take 2) ++
    "-" ++ hex ((u.bytes.drop 8).take 2) ++ "-" ++ hex (u.bytes.drop 10)

/-- `CredentialGeneration::try_from`, and that of the other non-zero newtypes. -/
def NonZeroU64.tryFrom (value : ℕ) : Except ValueError NonZeroU64 :=
  if h : 0 < value ∧ value ≤ u64Max then .ok ⟨value, h⟩ else .error .zero

/-- Exact peer-authenticated device coordinates for one MQTT session. -/
structure DeviceIdentity where
  tenant : Uuid
  device : Uuid
  credentialGeneration : NonZeroU64
  tenant_ne_nil : tenant ≠ .nil
  device_ne_nil : device ≠ .nil
  deriving DecidableEq

def DeviceIdentity.tryNew (tenant device : Uuid) (generation : NonZeroU64) : Except ValueError DeviceIdentity :=
  if ht : tenant = .nil then .error .nilTenant
  else if hd : device = .nil then .error .nilDevice
  else .ok ⟨tenant, device, generation, ht, hd⟩

def DeviceIdentity.principalUrn (i : DeviceIdentity) : String :=
  "urn:rss:mqtt-device:v1:" ++ i.tenant.hyphenated ++ ":" ++ i.device.hyphenated ++ ":" ++
    toString i.credentialGeneration.1

/-- The command topic of `TopicSet::new`. -/
def DeviceIdentity.commandTopic (i : DeviceIdentity) : String :=
  "rss/v1/" ++ i.tenant.hyphenated ++ "/" ++ i.device.hyphenated ++ "/" ++ toString i.credentialGeneration.1 ++
    "/downlink/" ++ "identity.commands.apply-device-certificate"

theorem NonZeroU64.tryFrom_val (n : NonZeroU64) : NonZeroU64.tryFrom n.1 = .ok n := by
  simp [NonZeroU64.tryFrom, n.2]

theorem NonZeroU64.tryFrom_eq_ok {value : ℕ} {n : NonZeroU64} :
    NonZeroU64.tryFrom value = .ok n ↔ n.1 = value := by
  unfold NonZeroU64.tryFrom
  split
  · rename_i h
    simp only [Except.ok.injEq, Subtype.ext_iff]
    exact eq_comm
  · rename_i h
    simp only [reduceCtorEq, false_iff]
    rintro rfl
    exact h n.2

theorem DeviceIdentity.tryNew_eq_ok {tenant device : Uuid} {generation : NonZeroU64} {i : DeviceIdentity} :
    DeviceIdentity.tryNew tenant device generation = .ok i ↔
      i.tenant = tenant ∧ i.device = device ∧ i.credentialGeneration = generation := by
  unfold DeviceIdentity.tryNew
  split
  · rename_i ht
    simp only [reduceCtorEq, false_iff, not_and]
    rintro h - -
    exact i.tenant_ne_nil (h.trans ht)
  · split
    · rename_i hd
      simp only [reduceCtorEq, false_iff, not_and]
      rintro - h -
      exact i.device_ne_nil (h.trans hd)
    · obtain ⟨t, d, g, h1, h2⟩ := i
      simp only [Except.ok.injEq, DeviceIdentity.mk.injEq]
      exact ⟨fun ⟨a, b, c⟩ => ⟨a.symm, b.symm, c.symm⟩, fun ⟨a, b, c⟩ => ⟨a.symm, b.symm, c.symm⟩⟩

/-! ### Command values -/

/-- The check of `Sha256Digest::try_from`. -/
def validDigest (value : String) : Bool :=
  (utf8 value).length = 71 && decide (utf8 "sha256:" <+: utf8 value) && ((utf8 value).drop 7).all isHexByte

theorem utf8_length_of_validDigest {value : String} (h : validDigest value = true) : (utf8 value).length = 71 := by
  unfold validDigest at h
  simp only [Bool.and_eq_true, decide_eq_true_eq] at h
  exact h.1.1

structure Sha256Digest where
  expose : String
  valid : validDigest expose = true
  deriving DecidableEq

def Sha256Digest.tryFrom (value : String) : Except ValueError Sha256Digest :=
  if h : validDigest value then .ok ⟨value, h⟩ else .error .invalidDigest

/-- `format!("sha256:{:x}", ..)` of a finished hash. -/
def digestText (m : Bytes) : String := "sha256:" ++ hex (sha256 m)

theorem validDigest_digestText (m : Bytes) : validDigest (digestText m) = true := by
  obtain ⟨h1, h2⟩ := utf8_hex (sha256 m)
  have h7 : (utf8 "sha256:").length = 7 := by decide
  have hlen : (utf8 (digestText m)).length = 71 := by
    rw [digestText, utf8_append, List.length_append, h1, sha256_length, h7]
  have hdrop : (utf8 (digestText m)).drop 7 = utf8 (hex (sha256 m)) := by
    rw [digestText, utf8_append, ← h7, List.drop_left]
  have hpre : utf8 "sha256:" <+: utf8 (digestText m) := by
    rw [digestText, utf8_append]; exact List.prefix_append _ _
  unfold validDigest
  rw [hlen, hdrop]
  simpa [hpre] using h2

/-- The check of `CommandId::try_from`. -/
def validCommandId (value : String) : Bool :=
  1 ≤ value.toList.length && value.toList.length ≤ 256 && !value.toList.any isControl

/-- Payload-external command envelope identity carried as MQTT correlation data. -/
structure CommandId where
  expose : String
  valid : validCommandId expose = true
  deriving DecidableEq

def CommandId.tryFrom (value : String) : Except ValueError CommandId :=
  if h : validCommandId value then .ok ⟨value, h⟩ else .error .invalidCommandId

theorem commandId_ext {c c' : CommandId} (h : c.expose = c'.expose) : c = c' := by
  rcases c with ⟨name, hname⟩
  rcases c' with ⟨name', hname'⟩
  cases h
  rfl

theorem ne_empty_of_validCommandId {value : String} (h : validCommandId value = true) : value ≠ "" := by
  rintro rfl
  revert h
  decide

/-- The check of `ArtifactId::try_from`. -/
def validArtifactId (value : String) : Bool :=
  16 ≤ value.toList.length && value.toList.length ≤ 256 &&
    !(value.toList.any fun c => isControl c || c == '/' || c == '\\') &&
    !decide (['.', '.'] <:+: value.toList)

/-- Opaque catalog key. -/
structure ArtifactId where
  expose : String
  valid : validArtifactId expose = true
  deriving DecidableEq

def ArtifactId.tryFrom (value : String) : Except ValueError ArtifactId :=
  if h : validArtifactId value then .ok ⟨value, h⟩ else .error .invalidArtifactId

/-- Canonical command values after exact DTO decoding and device correlation. -/
structure DeviceCommand where
  commandId : CommandId
  deviceId : Uuid
  artifactId : ArtifactId
  artifactDigest : Sha256Digest
  authorizationReceiptId : Uuid
  deadlineEpochSeconds : NonZeroU64
  desiredGeneration : NonZeroU64
  fenceEpoch : NonZeroU64
  intentDigest : Sha256Digest
  policyHash : Sha256Digest
  deriving DecidableEq

/-- Closed device rejection space mapped one-to-one to the public ACK contract. -/
inductive CommandRejection where
  | artifactUnavailable
  | artifactDigestMismatch
  | policyRejected
  | generationStale
  | fenceEpochStale
  | malformedCommand
  | deviceFailure
  deriving DecidableEq

/-- Durable command application result. -/
inductive ApplyOutcome where
  | accepted
  | duplicate
  | rejected (reason : CommandRejection)
  deriving DecidableEq

/-- ACK payload values for the canonical wire adapter. -/
structure AckFact where
  commandId : String
  desiredGeneration : ℕ
  fenceEpoch : ℕ
  deviceSequence : ℕ
  observedAt : ℤ
  rejection : Option CommandRejection
  deriving DecidableEq

/-- Report payload values for the canonical wire adapter. -/
structure ReportFact where
  observedGeneration : ℕ
  fenceEpoch : ℕ
  deviceSequence : ℕ
  observedAt : ℤ
  stateHash : String
  artifactDigest : String
  expiresAt : Option ℤ
  deriving DecidableEq

/-- A durable outbound fact. -/
inductive OutboundFact where
  | commandAcknowledged (eventId : String) (payload : AckFact)
  | certificateReported (eventId : String) (payload : ReportFact)
  deriving DecidableEq

def OutboundFact.eventId : OutboundFact → String
  | .commandAcknowledged e _ => e
  | .certificateReported e _ => e

def OutboundFact.deviceSequence : OutboundFact → ℕ
  | .commandAcknowledged _ a => a.deviceSequence
  | .certificateReported _ r => r.deviceSequence

end RssIncubator.Agent
