import RssIncubator.Agent.Assertion
import RssIncubator.Broker.CommandId
import RssIncubator.Broker.Topic

/-!
# The signatures of the broker (`plugin.c`)

`on_message` lets a message through, turns it away, or signs it: it fills a buffer whose size it has computed before,
signs it and adds three properties to the message.  The functions of `mosquitto` and OpenSSL are a `Library`, and
`Library.Works` says what is known about them when nothing fails.

Strings of C are their bytes before the terminator.  An `Outcome` keeps the buffers that were handed to
`EVP_DigestSign`.
-/

namespace RssIncubator.Broker

open Agent Driver Lib

def serviceUsername : String := "deviceidentity-service"

/-- `SIGNING_DOMAIN` with its terminator. -/
def signingDomain : Bytes := utf8 "rss.mqtt.authn.v1" ++ [0]

/-! ### Messages -/

/-- Binary data has a length of 16 bits. -/
abbrev Binary := { b : Bytes // b.length < 2 ^ 16 }

/-- The properties the plugin looks at, by their identifiers. -/
inductive Property where
  | userProperty (name value : Bytes)
  | correlationData (data : Binary)
  | other
  deriving DecidableEq

/-- `struct mosquitto_evt_message`; the client is its user name, if it has one. -/
structure Message where
  client : Option (Option Bytes)
  topic : Option Bytes
  payload : Option Bytes
  payloadlen : UInt32
  qos : UInt8
  retain : Bool
  properties : List Property
  notAuthorized : Bool

inductive Event where
  | message
  | other
  deriving DecidableEq

/-- The results `MOSQ_ERR_*`. -/
inductive Code where
  | success
  | inval
  | nomem
  | aclDenied
  deriving DecidableEq

/-- The functions of the libraries.  `none` is a failure, or `NULL`. -/
structure Library (Key : Type) where
  propertyReadStringPair : Property → Option (Option Bytes × Option Bytes)
  propertyReadBinary : List Property → Option (Option Bytes × UInt16)
  propertyAddStringPair : List Property → Bytes → Bytes → Option (List Property)
  malloc : ℕ → Bool
  evpDigest : Bytes → Option Bytes
  evpDigestSign : Key → Bytes → Option Bytes
  evpEncodeBlock : Bytes → Bytes

variable {Key : Type} (library : Library Key)

/-! ### The checks -/

/-- A name of the reserved space. -/
def Reserved (name : Bytes) : Prop := utf8 reservedPrefix <+: name

instance (name : Bytes) : Decidable (Reserved name) := inferInstanceAs (Decidable (_ <+: _))

def hasReservedProperty : List Property → Bool
  | [] => false
  | .userProperty name value :: rest =>
    match library.propertyReadStringPair (.userProperty name value) with
    | some (some name, some _) => if Reserved name then true else hasReservedProperty rest
    | _ => true
  | _ :: rest => hasReservedProperty rest

def Property.isCorrelationData : Property → Bool
  | .correlationData _ => true
  | _ => false

/-- The one correlation datum and its length, if it is a command identity. -/
def exactCorrelationData (properties : List Property) : Option (Option Bytes × UInt16) :=
  if properties.countP Property.isCorrelationData = 1 then
    match library.propertyReadBinary properties with
    | none => none
    | some (value, length) => if canonicalCommandId value length = some true then some (value, length) else none
  else none

/-! ### The buffer -/

/-- The bytes of a length, as they are written. -/
def lengthBytes (length : UInt32) : Bytes :=
  [(length >>> 24).toUInt8, (length >>> 16).toUInt8, (length >>> 8).toUInt8, length.toUInt8]

/-- One more field behind what is written already, if there is room. -/
def appendField (capacity : ℕ) (written : Bytes) (value : Option Bytes) (length : UInt32) : Option Bytes :=
  let remaining := capacity - written.length
  if remaining < 4 + length.toNat ∨ (0 < length ∧ value = none) then none
  else some (written ++ lengthBytes length ++ (value.getD []).take length.toNat)

def capacityOf (principal topic : Bytes) (correlationLength : UInt16) : ℕ :=
  signingDomain.length + 4 * 7 + 1 + principal.length + topic.length + correlationLength.toNat + 32 + 1 + 1

/-- The buffer, if it is filled up to its end. -/
def canonicalBuffer (principal topic : Bytes) (correlation : Option Bytes) (correlationLength : UInt16) (digest : Bytes)
    (qos : UInt8) (retain : Bool) : Option Bytes := do
  let capacity := capacityOf principal topic correlationLength
  let cursor ← appendField capacity signingDomain (some (utf8 "1")) 1
  let cursor ← appendField capacity cursor (some principal) (UInt32.ofNat principal.length)
  let cursor ← appendField capacity cursor (some topic) (UInt32.ofNat topic.length)
  let cursor ← appendField capacity cursor correlation correlationLength.toUInt32
  let cursor ← appendField capacity cursor (some digest) 32
  let cursor ← appendField capacity cursor (some [qos]) 1
  let cursor ← appendField capacity cursor (some [if retain then 1 else 0]) 1
  if cursor.length = capacity then some cursor else none

/-! ### The handler -/

structure Outcome where
  code : Code
  message : Option Message
  /-- The buffers that were signed. -/
  signed : List Bytes

/-- The signature in its text form, or the result of the failure, with what was signed. -/
def signMessage (key : Key) (principal : Bytes) (message : Message) (topic : Bytes) (correlation : Option Bytes)
    (correlationLength : UInt16) : Except Code Bytes × List Bytes :=
  let payload := if message.payloadlen = 0 then some [] else message.payload
  match payload.bind fun bytes => library.evpDigest (bytes.take message.payloadlen.toNat) with
  | none => (.error .inval, [])
  | some digest =>
    if digest.length ≠ 32 then (.error .inval, [])
    else if ¬ library.malloc (capacityOf principal topic correlationLength) then (.error .nomem, [])
    else match canonicalBuffer principal topic correlation correlationLength digest message.qos message.retain with
      | none => (.error .inval, [])
      | some canonical =>
        match library.evpDigestSign key canonical with
        | none => (.error .inval, [canonical])
        | some signature =>
          if signature.length ≠ 64 then (.error .inval, [canonical])
          else
            let encoded := library.evpEncodeBlock signature
            if encoded.length ≠ 88 then (.error .inval, [canonical])
            else (.ok ((encoded.map toUrlSafe).take 86), [canonical])

def rejectMessage (message : Message) : Outcome := ⟨.aclDenied, some { message with notAuthorized := true }, []⟩

/-- The three properties, one after another. -/
def addProperties : Message → List (Bytes × Bytes) → Code × Message
  | message, [] => (.success, message)
  | message, (name, value) :: rest =>
    match library.propertyAddStringPair message.properties name value with
    | none => (.nomem, message)
    | some properties => addProperties { message with properties := properties } rest

/-- A message on a downlink topic. -/
def onDownlink (key : Key) (message : Message) (client : Option Bytes) (topic : Bytes) : Outcome :=
  if client ≠ some (utf8 serviceUsername) ∨ message.qos ≠ 1 ∨ message.retain then rejectMessage message
  else match commandPrincipal topic with
    | none => rejectMessage message
    | some principal =>
      match exactCorrelationData library message.properties with
      | none => rejectMessage message
      | some (correlation, correlationLength) =>
        match signMessage library key principal message topic correlation correlationLength with
        | (.error code, signed) => ⟨code, some message, signed⟩
        | (.ok signature, signed) =>
          let (code, message) := addProperties library message
            [(utf8 versionKey, utf8 "1"), (utf8 principalKey, principal), (utf8 signatureKey, signature)]
          ⟨code, some message, signed⟩

def onMessage (event : Event) (data : Option Message) (state : Option Key) : Outcome :=
  match event, data, state with
  | .message, some message, some key =>
    match message.client, message.topic with
    | some client, some topic =>
      if hasReservedProperty library message.properties then rejectMessage message
      else if ¬ utf8 "/downlink/" <:+: topic then ⟨.success, some message, []⟩
      else onDownlink library key message client topic
    | _, _ => rejectMessage message
  | _, data, _ => ⟨.inval, data, []⟩

/-! ### What the libraries do -/

/-- The user properties of a message. -/
def userPairs : List Property → List (Bytes × Bytes)
  | [] => []
  | .userProperty name value :: rest => (name, value) :: userPairs rest
  | _ :: rest => userPairs rest

/-- The correlation data of a message. -/
def correlations : List Property → List Bytes
  | [] => []
  | .correlationData data :: rest => data.1 :: correlations rest
  | _ :: rest => correlations rest

/-- The libraries when nothing fails: what is in a message is read, the first binary datum with its length, and a user
property is added at the end; memory is there; the digest is SHA-256; a signature has 64 bytes; the encoding is the
standard one. -/
structure Library.Works : Prop where
  readStringPair : ∀ name value, library.propertyReadStringPair (.userProperty name value) = some (some name, some value)
  readBinary : ∀ properties data, (correlations properties).head? = some data → ∃ value length,
    library.propertyReadBinary properties = some (value, length) ∧ length.toNat = data.length ∧ (data ≠ [] → value = some data)
  addStringPair : ∀ properties name value,
    library.propertyAddStringPair properties name value = some (properties ++ [.userProperty name value])
  malloc : ∀ size, library.malloc size = true
  digest : ∀ data, library.evpDigest data = some (sha256 data)
  digestSign : ∀ key data, ∃ signature, library.evpDigestSign key data = some signature ∧ signature.length = 64
  encodeBlock : ∀ data, library.evpEncodeBlock data = encodeStandard data

/-- The message holds this payload; an empty one may be `NULL`. -/
structure Message.Carries (m : Message) (payload : Bytes) : Prop where
  length : m.payloadlen.toNat = payload.length
  payload : payload ≠ [] → m.payload = some payload

/-! ### The buffer is filled -/

theorem lengthBytes_eq (length : UInt32) : lengthBytes length = bigEndian 4 length.toNat := by
  have h24 : (length >>> 24).toNat = length.toNat / 256 ^ 3 := by
    rw [UInt32.toNat_shiftRight, Nat.shiftRight_eq_div_pow]
    rfl
  have h16 : (length >>> 16).toNat = length.toNat / 256 ^ 2 := by
    rw [UInt32.toNat_shiftRight, Nat.shiftRight_eq_div_pow]
    rfl
  have h8 : (length >>> 8).toNat = length.toNat / 256 := by
    rw [UInt32.toNat_shiftRight, Nat.shiftRight_eq_div_pow]
    rfl
  have hbytes : bigEndian 4 length.toNat = [UInt8.ofNat (length.toNat / 256 ^ 3), UInt8.ofNat (length.toNat / 256 ^ 2),
      UInt8.ofNat (length.toNat / 256), UInt8.ofNat length.toNat] := by
    simp [bigEndian, List.range_succ]
  rw [hbytes, ← h24, ← h16, ← h8]
  rfl

section Buffer

variable {capacity : ℕ} {written v : Bytes} {value : Option Bytes} {n : UInt32}

theorem appendField_eq (hlen : n.toNat = v.length) (hvalue : v ≠ [] → value = some v)
    (hroom : written.length + 4 + v.length ≤ capacity) :
    appendField capacity written value n = some (written ++ counted 4 v) := by
  have hbytes : (value.getD []).take n.toNat = v := by
    rw [hlen]
    by_cases hv : v = []
    · simp [hv]
    · simp [hvalue hv]
  unfold appendField
  rw [hbytes, lengthBytes_eq, hlen, if_neg, List.append_assoc, counted]
  rw [not_or]
  refine ⟨by omega, ?_⟩
  rintro ⟨hpos, hnone⟩
  rw [UInt32.lt_iff_toNat_lt, hlen] at hpos
  rw [hvalue (List.ne_nil_of_length_pos hpos)] at hnone
  cases hnone

end Buffer

/-- **The buffer is filled up to its end** with the fields of the agent. -/
theorem canonicalBuffer_eq {principal topic correlation digest : Bytes} {value : Option Bytes} {length : UInt16}
    (qos : UInt8) (retain : Bool) (hprincipal : principal.length < 2 ^ 32) (htopic : topic.length < 2 ^ 32)
    (hlen : length.toNat = correlation.length) (hvalue : correlation ≠ [] → value = some correlation)
    (hdigest : digest.length = 32) :
    ∃ bytes, canonicalBuffer principal topic value length digest qos retain = some bytes ∧
      bytes.length = capacityOf principal topic length ∧
      bytes = assertionDomain ++ (signedFields principal topic correlation digest qos retain).flatMap (counted 4) := by
  have hone : (utf8 "1").length = 1 := by decide
  have hsize : capacityOf principal topic length = signingDomain.length + (4 + 1) + (4 + principal.length) + (4 + topic.length) +
      (4 + correlation.length) + (4 + 32) + (4 + 1) + (4 + 1) := by
    rw [capacityOf, hlen]
    omega
  unfold canonicalBuffer
  dsimp only
  rw [appendField_eq (v := utf8 "1") (n := 1) hone.symm (fun _ => rfl) (by rw [hone]; omega)]
  dsimp only [Option.bind_eq_bind, Option.bind_some]
  rw [appendField_eq (v := principal) (UInt32.toNat_ofNat_of_lt' hprincipal) (fun _ => rfl)
    (by simp only [List.length_append, counted_length, hone]; omega)]
  dsimp only [Option.bind_eq_bind, Option.bind_some]
  rw [appendField_eq (v := topic) (UInt32.toNat_ofNat_of_lt' htopic) (fun _ => rfl)
    (by simp only [List.length_append, counted_length, hone]; omega)]
  dsimp only [Option.bind_eq_bind, Option.bind_some]
  rw [appendField_eq (v := correlation) ((UInt16.toNat_toUInt32 length).trans hlen) hvalue
    (by simp only [List.length_append, counted_length, hone]; omega)]
  dsimp only [Option.bind_eq_bind, Option.bind_some]
  rw [appendField_eq (v := digest) (n := 32) hdigest.symm (fun _ => rfl)
    (by simp only [List.length_append, counted_length, hone]; omega)]
  dsimp only [Option.bind_eq_bind, Option.bind_some]
  rw [appendField_eq (v := [qos]) (n := 1) rfl (fun _ => rfl)
    (by simp only [List.length_append, counted_length, hone, List.length_singleton]; omega)]
  dsimp only [Option.bind_eq_bind, Option.bind_some]
  rw [appendField_eq (v := [if retain then 1 else 0]) (n := 1) rfl (fun _ => rfl)
    (by simp only [List.length_append, counted_length, hone, List.length_singleton]; omega)]
  dsimp only [Option.bind_eq_bind, Option.bind_some]
  have hfull : ∀ tail : Bytes, tail.length = 1 →
      (signingDomain ++ counted 4 (utf8 "1") ++ counted 4 principal ++ counted 4 topic ++ counted 4 correlation ++
        counted 4 digest ++ counted 4 [qos] ++ counted 4 tail).length = capacityOf principal topic length := by
    intro tail htail
    simp only [List.length_append, counted_length, hone, List.length_singleton, htail]
    omega
  refine ⟨_, if_pos (hfull _ rfl), hfull _ rfl, ?_⟩
  simp [signedFields, assertionDomain, signingDomain, assertionVersion]

/-! ### The properties of a message -/

section Works

variable {library} (works : library.Works) {l : List Property}
include works

theorem hasReservedProperty_eq_false :
    hasReservedProperty library l = false ↔ ∀ p ∈ userPairs l, ¬ Reserved p.1 := by
  induction l with
  | nil => simp [hasReservedProperty, userPairs]
  | cons property l ih =>
    cases property with
    | userProperty name value =>
      unfold hasReservedProperty
      rw [works.readStringPair, userPairs, List.forall_mem_cons, ← ih]
      by_cases hname : Reserved name <;> simp [hname]
    | correlationData data => exact ih
    | other => exact ih

omit works in
theorem countP_isCorrelationData : l.countP Property.isCorrelationData = (correlations l).length := by
  induction l with
  | nil => rfl
  | cons property l ih =>
    rw [List.countP_cons, ih]
    cases property <;> simp [Property.isCorrelationData, correlations]

/-- What is found is the one correlation datum, and it is a command identity. -/
theorem exactCorrelationData_some {value : Option Bytes} {length : UInt16}
    (h : exactCorrelationData library l = some (value, length)) :
    ∃ c : CommandId, correlations l = [utf8 c.expose] ∧ length.toNat = (utf8 c.expose).length ∧ value = some (utf8 c.expose) := by
  unfold exactCorrelationData at h
  rw [countP_isCorrelationData] at h
  split_ifs at h with hcount
  obtain ⟨data, hdata⟩ := List.length_eq_one_iff.1 hcount
  obtain ⟨value', length', hread, hlen, hvalue⟩ := works.readBinary l data (by rw [hdata]; rfl)
  rw [hread] at h
  dsimp only at h
  split_ifs at h with hid
  obtain ⟨rfl, rfl⟩ := Prod.mk.inj (Option.some.inj h)
  by_cases hempty : data = []
  · -- a length of zero is refused
    have hzero : length' = 0 := UInt16.toNat_inj.1 (by rw [hlen, hempty]; rfl)
    cases value' <;> simp [canonicalCommandId, hzero] at hid
  · obtain rfl := hvalue hempty
    obtain ⟨c, rfl⟩ := (canonicalCommandId_iff hlen).1 hid
    exact ⟨c, hdata, hlen, rfl⟩

theorem exactCorrelationData_eq {c : CommandId} (h : correlations l = [utf8 c.expose]) : ∃ length : UInt16,
    length.toNat = (utf8 c.expose).length ∧ exactCorrelationData library l = some (some (utf8 c.expose), length) := by
  obtain ⟨value, length, hread, hlen, hvalue⟩ := works.readBinary l (utf8 c.expose) (by rw [h]; rfl)
  have hne : utf8 c.expose ≠ [] := fun hnil => ne_empty_of_validCommandId c.valid (utf8_inj.1 (hnil.trans rfl))
  obtain rfl := hvalue hne
  refine ⟨length, hlen, ?_⟩
  unfold exactCorrelationData
  rw [countP_isCorrelationData, h, if_pos (List.length_singleton ..), hread]
  exact if_pos ((canonicalCommandId_iff hlen).2 ⟨c, rfl⟩)

theorem addProperties_eq (m : Message) (pairs : List (Bytes × Bytes)) : addProperties library m pairs =
    (.success, { m with properties := m.properties ++ pairs.map fun p => .userProperty p.1 p.2 }) := by
  induction pairs generalizing m with
  | nil => simp [addProperties]
  | cons p pairs ih =>
    unfold addProperties
    rw [works.addStringPair]
    dsimp only
    rw [ih]
    simp

/-- The bytes that are signed, and the signature in the form for URLs. -/
theorem signMessage_eq (key : Key) {m : Message} {principal topic payload correlation : Bytes} {length : UInt16}
    (hpayload : m.Carries payload) (hprincipal : principal.length < 2 ^ 32) (htopic : topic.length < 2 ^ 32)
    (hlen : length.toNat = correlation.length) :
    ∃ bytes signature, signMessage library key principal m topic (some correlation) length =
        (.ok (encodeUrlSafe signature), [bytes]) ∧
      library.evpDigestSign key bytes = some signature ∧ signature.length = 64 ∧
      bytes.length = capacityOf principal topic length ∧
      bytes = assertionDomain ++ (signedFields principal topic correlation (sha256 payload) m.qos m.retain).flatMap (counted 4) := by
  obtain ⟨bytes, hbuffer, hfull, hbytes⟩ := canonicalBuffer_eq m.qos m.retain hprincipal htopic hlen (fun _ => rfl)
    (sha256_length payload)
  obtain ⟨signature, hsign, hsignature⟩ := works.digestSign key bytes
  have hdigest : ((if m.payloadlen = 0 then some [] else m.payload).bind fun bytes =>
      library.evpDigest (bytes.take m.payloadlen.toNat)) = some (sha256 payload) := by
    rw [hpayload.length]
    by_cases hempty : payload = []
    · have hzero : m.payloadlen = 0 := UInt32.toNat_inj.1 (by rw [hpayload.length, hempty]; rfl)
      rw [if_pos hzero, hempty, Option.bind_some, works.digest, List.take_nil]
    · rw [if_neg, hpayload.payload hempty, Option.bind_some, works.digest, List.take_length]
      intro hzero
      refine hempty (List.length_eq_zero_iff.1 ?_)
      rw [← hpayload.length, hzero]
      rfl
  have hencoded := encodeStandard_length signature
  have htext := take_map_encodeStandard signature
  rw [hsignature] at hencoded htext
  refine ⟨bytes, signature, ?_, hsign, hsignature, hfull, hbytes⟩
  unfold signMessage
  dsimp only
  rw [hdigest]
  dsimp only
  rw [if_neg (not_not.2 (sha256_length payload)), works.malloc, if_neg (not_not.2 rfl), hbuffer]
  dsimp only
  rw [hsign]
  dsimp only
  rw [if_neg (not_not.2 hsignature), works.encodeBlock, if_neg (not_not.2 hencoded), htext]

end Works

/-! ### Command topics -/

theorem commandTopic_length (i : DeviceIdentity) : (utf8 i.commandTopic).length < 2 ^ 32 := by
  have hgen := (generation_fits i.credentialGeneration).length
  have hcontract := contract_fits.length
  have hrss : (utf8 "rss/v1/").length = 7 := by decide
  have hslash : (utf8 "/").length = 1 := by decide
  have hdown : (utf8 "/downlink/").length = 10 := by decide
  rw [utf8_commandTopic, topicOf]
  simp only [List.length_append, hyphenated_length, hrss, hslash, hdown]
  omega

theorem downlink_commandTopic (i : DeviceIdentity) : utf8 "/downlink/" <:+: utf8 i.commandTopic := by
  rw [utf8_commandTopic, topicOf]
  simp only [← List.append_assoc]
  exact ⟨_, _, rfl⟩

/-- A command identity has 256 characters at most. -/
theorem commandId_length (c : CommandId) : (utf8 c.expose).length ≤ 1024 := by
  have hvalid := c.valid
  simp only [validCommandId, Bool.and_eq_true, decide_eq_true_eq] at hvalid
  have hbytes : ∀ l : List Char, (l.flatMap String.utf8EncodeChar).length ≤ 4 * l.length := fun l => by
    induction l with
    | nil => simp
    | cons d l ih =>
      have hd := d.utf8Size_le_four
      rw [List.flatMap_cons, List.length_append, List.length_cons, String.length_utf8EncodeChar]
      omega
  have hle := hbytes c.expose.toList
  rw [← utf8_ofList, String.ofList_toList] at hle
  omega

/-- The fields of a command fit their counters. -/
theorem signedFields_short (i : DeviceIdentity) (c : CommandId) (payload : Bytes) {qos : UInt8} {retain : Bool} :
    ∀ v ∈ signedFields (utf8 i.principalUrn) (utf8 i.commandTopic) (utf8 c.expose) (sha256 payload) qos retain,
      v.length < 2 ^ 32 := by
  have hversion : (utf8 assertionVersion).length = 1 := by decide
  have hprincipal := (principalUrn_length i).2
  have hcommand := commandId_length c
  unfold principalCapacity at hprincipal
  simp only [signedFields, List.forall_mem_cons, List.not_mem_nil, IsEmpty.forall_iff, implies_true, and_true,
    List.length_singleton, sha256_length, hversion]
  exact ⟨by omega, by omega, commandTopic_length i, by omega, by omega, by omega, by omega⟩

/-- The text of a signature. -/
def signatureText (signature : Bytes) : String := String.ofList ((encodeUrlSafe signature).map fun b => Char.ofNat b.toNat)

theorem utf8_signatureText (signature : Bytes) : utf8 (signatureText signature) = encodeUrlSafe signature := by
  rw [signatureText, utf8_ofList, flatMap_encodeUrlSafe]

/-- The bytes of a user property. -/
def pairBytes (p : String × String) : Bytes × Bytes := (utf8 p.1, utf8 p.2)

/-- A message on a command topic that the broker signs. -/
structure Signable (m : Message) : Prop where
  service : m.client = some (some (utf8 serviceUsername))
  qos : m.qos = 1
  retain : m.retain = false
  unreserved : ∀ p ∈ userPairs m.properties, ¬ Reserved p.1
  correlated : ∃ c : CommandId, correlations m.properties = [utf8 c.expose]

section Handler

variable {library} (works : library.Works) (key : Key) {i : DeviceIdentity} {m : Message}
include works

/-- A message that is let through carries no reserved property. -/
theorem unreserved_of_success (h : (onMessage library .message (some m) (some key)).code = .success) :
    ∀ p ∈ userPairs m.properties, ¬ Reserved p.1 := by
  rw [← hasReservedProperty_eq_false works]
  unfold onMessage at h
  dsimp only at h
  split at h
  · split_ifs at h with hreserved
    · cases h
    · exact Bool.eq_false_of_not_eq_true hreserved
    · exact Bool.eq_false_of_not_eq_true hreserved
  · cases h

omit works in
theorem onMessage_command {client : Option Bytes} (hclient : m.client = some client)
    (htopic : m.topic = some (utf8 i.commandTopic)) :
    onMessage library .message (some m) (some key) =
      if hasReservedProperty library m.properties then rejectMessage m
      else onDownlink library key m client (utf8 i.commandTopic) := by
  simp only [onMessage, hclient, htopic, not_true, if_false, downlink_commandTopic i]

/-- Only a signable message is let through on a command topic. -/
theorem signable_of_success (htopic : m.topic = some (utf8 i.commandTopic))
    (h : (onMessage library .message (some m) (some key)).code = .success) : Signable m := by
  have hunreserved := unreserved_of_success works key h
  cases hclient : m.client with
  | none =>
    rw [onMessage, hclient] at h
    cases h
  | some client =>
    rw [onMessage_command key hclient htopic, (hasReservedProperty_eq_false works).2 hunreserved,
      if_neg Bool.false_ne_true, onDownlink] at h
    split_ifs at h with hframe
    · cases h
    · rw [commandPrincipal_commandTopic] at h
      dsimp only at h
      split at h
      · cases h
      · rename_i value length hcorrelation
        simp only [not_or, not_not, Bool.not_eq_true] at hframe
        obtain ⟨hservice, hqos, hretain⟩ := hframe
        obtain ⟨c, hc, -⟩ := exactCorrelationData_some works hcorrelation
        exact ⟨by rw [hclient, hservice], hqos, hretain, hunreserved, c, hc⟩

/-- A signable message is signed. -/
theorem onMessage_signs {payload : Bytes} {c : CommandId} (htopic : m.topic = some (utf8 i.commandTopic))
    (hpayload : m.Carries payload) (h : Signable m) (hc : correlations m.properties = [utf8 c.expose]) :
    ∃ bytes signature, ∃ length : UInt16, onMessage library .message (some m) (some key) =
        ⟨.success, some { m with properties := m.properties ++ [.userProperty (utf8 versionKey) (utf8 assertionVersion),
          .userProperty (utf8 principalKey) (utf8 i.principalUrn),
          .userProperty (utf8 signatureKey) (encodeUrlSafe signature)] }, [bytes]⟩ ∧
      library.evpDigestSign key bytes = some signature ∧ signature.length = 64 ∧
      length.toNat = (utf8 c.expose).length ∧ bytes.length = capacityOf (utf8 i.principalUrn) (utf8 i.commandTopic) length ∧
      bytes = assertionDomain ++ (signedFields (utf8 i.principalUrn) (utf8 i.commandTopic) (utf8 c.expose) (sha256 payload)
        m.qos m.retain).flatMap (counted 4) := by
  obtain ⟨length, hlen, hcorrelation⟩ := exactCorrelationData_eq works hc
  have hprincipal : (utf8 i.principalUrn).length < 2 ^ 32 := (principalUrn_length i).2.trans (by decide)
  obtain ⟨bytes, signature, hsigned, hsign, hsignature, hfull, hbytes⟩ :=
    signMessage_eq works key hpayload hprincipal (commandTopic_length i) hlen
  refine ⟨bytes, signature, length, ?_, hsign, hsignature, hlen, hfull, hbytes⟩
  rw [onMessage_command key h.service htopic, (hasReservedProperty_eq_false works).2 h.unreserved, if_neg Bool.false_ne_true]
  unfold onDownlink
  rw [if_neg (by simp [h.qos, h.retain]), commandPrincipal_commandTopic]
  dsimp only
  rw [hcorrelation]
  dsimp only
  rw [hsigned]
  dsimp only
  rw [addProperties_eq works]
  rfl

end Handler

/-- **What the broker signs the agent accepts.**  On the command topic of an identity exactly the signable messages are
let through.  The bytes signed are the canonical ones of the agent, they fill the buffer up to its end, and the message
with its three new properties passes the verifier.  On topics without a downlink part a message that is let through
carries no reserved property. -/
theorem signing_agreement (works : library.Works) (key : Key) (ed25519 : Ed25519) (verifier : BrokerAssertionVerifier)
    (genuine : ∀ bytes signature, library.evpDigestSign key bytes = some signature →
      ed25519 verifier.publicKey bytes signature = true) :
    (∀ (i : DeviceIdentity) (m : Message) (payload : Bytes) (others : List (String × String)),
      m.topic = some (utf8 i.commandTopic) → m.Carries payload → userPairs m.properties = others.map pairBytes →
      let outcome := onMessage library .message (some m) (some key)
      (outcome.code = .success ↔ Signable m) ∧
      (outcome.code = .success → ∃ (c : CommandId) (bytes : Bytes) (length : UInt16) (added : List (String × String)),
        let frame : BrokerPublishFrame := ⟨i.commandTopic, payload, utf8 c.expose, m.qos, m.retain, others ++ added⟩
        correlations m.properties = [utf8 c.expose] ∧ length.toNat = (utf8 c.expose).length ∧
        outcome.signed = [bytes] ∧ bytes.length = capacityOf (utf8 i.principalUrn) (utf8 i.commandTopic) length ∧
        added.map Prod.fst = [versionKey, principalKey, signatureKey] ∧
        outcome.message = some { m with
          properties := m.properties ++ (added.map pairBytes).map fun p => .userProperty p.1 p.2 } ∧
        canonicalBytes i.principalUrn frame = some bytes ∧ verifier.verify ed25519 i frame = true)) ∧
    ∀ (m : Message) (topic : Bytes), m.topic = some topic → ¬ utf8 "/downlink/" <:+: topic →
      (onMessage library .message (some m) (some key)).code = .success → ∀ p ∈ userPairs m.properties, ¬ Reserved p.1 := by
  refine ⟨?_, fun m topic _ _ h => unreserved_of_success works key h⟩
  intro i m payload others htopic hpayload hothers
  have hiff : (onMessage library .message (some m) (some key)).code = .success ↔ Signable m := by
    refine ⟨signable_of_success works key htopic, fun h => ?_⟩
    obtain ⟨c, hc⟩ := h.correlated
    obtain ⟨bytes, signature, length, heq, -⟩ := onMessage_signs works key htopic hpayload h hc
    rw [heq]
  refine ⟨hiff, fun hsuccess => ?_⟩
  have h := hiff.1 hsuccess
  obtain ⟨c, hc⟩ := h.correlated
  obtain ⟨bytes, signature, length, heq, hsign, hsignature, hlen, hfull, hbytes⟩ := onMessage_signs works key htopic hpayload h hc
  have hcanonical : ∀ properties, canonicalBytes i.principalUrn
      ⟨i.commandTopic, payload, utf8 c.expose, m.qos, m.retain, properties⟩ = some bytes := fun properties =>
    canonicalBytes_eq_some.2 ⟨signedFields_short i c payload, hbytes.symm⟩
  have hothers' : ∀ p ∈ others, ¬ utf8 reservedPrefix <+: utf8 p.1 := by
    intro p hp
    exact h.unreserved (pairBytes p) (hothers ▸ List.mem_map_of_mem hp)
  refine ⟨c, bytes, length, [(versionKey, assertionVersion), (principalKey, i.principalUrn),
    (signatureKey, signatureText signature)], hc, hlen, by rw [heq], hfull, rfl, ?_, hcanonical _, ?_⟩
  · rw [heq]
    simp [pairBytes, utf8_signatureText]
  · refine BrokerAssertionVerifier.verify_iff.2 ⟨h.qos, h.retain, signatureText signature, signature, bytes,
      assertionProperties_append hothers', ?_, hsignature, hcanonical _, genuine _ _ hsign⟩
    rw [utf8_signatureText, decodeUrlSafe_encodeUrlSafe]

namespace Fixture

/-- A library whose signatures are two digests. -/
def libraries : Library Unit where
  propertyReadStringPair
    | .userProperty name value => some (some name, some value)
    | _ => none
  propertyReadBinary properties := (correlations properties).head?.map fun data => (some data, UInt16.ofNat data.length)
  propertyAddStringPair properties name value := some (properties ++ [.userProperty name value])
  malloc _ := true
  evpDigest data := some (sha256 data)
  evpDigestSign _ data := some (sha256 data ++ sha256 data)
  evpEncodeBlock := encodeStandard

theorem mem_correlations {l : List Property} {data : Bytes} (h : data ∈ correlations l) : data.length < 2 ^ 16 := by
  induction l with
  | nil => cases h
  | cons property l ih =>
    cases property with
    | userProperty name value => exact ih h
    | correlationData d =>
      rcases List.mem_cons.1 h with rfl | h
      · exact d.2
      · exact ih h
    | other => exact ih h

theorem works : libraries.Works where
  readStringPair _ _ := rfl
  readBinary properties data h := by
    refine ⟨some data, UInt16.ofNat data.length, ?_, UInt16.toNat_ofNat_of_lt' ?_, fun _ => rfl⟩
    · simp only [libraries, h, Option.map_some]
    · exact mem_correlations (List.mem_of_mem_head? h)
  addStringPair _ _ _ := rfl
  malloc _ := rfl
  digest _ := rfl
  digestSign _ data := ⟨_, rfl, by rw [List.length_append, sha256_length]⟩
  encodeBlock _ := rfl

/-- The verification that belongs to it. -/
def ed25519 : Ed25519 := fun _ data signature => signature = sha256 data ++ sha256 data

theorem tenant_length : (List.replicate 15 (0 : UInt8) ++ [1]).length = 16 := rfl

theorem tenant_ne : (⟨List.replicate 15 0 ++ [1], tenant_length⟩ : Uuid) ≠ .nil := by decide

def identity : DeviceIdentity where
  tenant := ⟨List.replicate 15 0 ++ [1], tenant_length⟩
  device := ⟨List.replicate 15 0 ++ [2], rfl⟩
  credentialGeneration := ⟨7, by decide⟩
  tenant_ne_nil := tenant_ne
  device_ne_nil := by decide

/-- A message of the service with a further property. -/
def message : Message where
  client := some (some (utf8 serviceUsername))
  topic := some (utf8 identity.commandTopic)
  payload := some [1, 2, 3]
  payloadlen := 3
  qos := 1
  retain := false
  properties := [.other, .userProperty (utf8 "trace") (utf8 "1"), .correlationData ⟨utf8 "command-1", by decide⟩]
  notAuthorized := false

theorem signable : Signable message where
  service := rfl
  qos := rfl
  retain := rfl
  unreserved := by decide +kernel
  correlated := ⟨⟨"command-1", by decide⟩, rfl⟩

end Fixture

open Fixture in
/-- The message is let through and its signed form is accepted. -/
theorem signing_agreement_message :
    (onMessage libraries .message (some message) (some ())).code = .success ∧
    ∃ (c : CommandId) (added : List (String × String)), added.map Prod.fst = [versionKey, principalKey, signatureKey] ∧
      (BrokerAssertionVerifier.mk []).verify Fixture.ed25519 identity
        ⟨identity.commandTopic, [1, 2, 3], utf8 c.expose, 1, false, [("trace", "1")] ++ added⟩ = true := by
  have hgenuine : ∀ bytes signature, libraries.evpDigestSign () bytes = some signature →
      Fixture.ed25519 [] bytes signature = true := by
    rintro bytes _ ⟨⟩
    simp [Fixture.ed25519]
  obtain ⟨hiff, hsigned⟩ := (signing_agreement libraries works () Fixture.ed25519 ⟨[]⟩ hgenuine).1 identity message
    [1, 2, 3] [("trace", "1")] rfl ⟨rfl, fun _ => rfl⟩ rfl
  have hsuccess := hiff.2 signable
  obtain ⟨c, bytes, length, added, -, -, -, -, hadded, -, -, hverify⟩ := hsigned hsuccess
  exact ⟨hsuccess, c, added, hadded, hverify⟩

end RssIncubator.Broker
