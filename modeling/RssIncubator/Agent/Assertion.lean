import RssIncubator.Agent.Types
import RssIncubator.Lib.Base64
import RssIncubator.Lib.Framing

/-!
# Assertions of the broker (`assertion.rs`)

The broker signs a domain and seven fields, each with its length before it.  The verifier takes the principal and
the signature from three reserved properties and writes the signed bytes again from the frame it has received.
-/

namespace RssIncubator.Agent

open Lib

/-- `b"rss.mqtt.authn.v1\0"`. -/
def assertionDomain : Bytes := utf8 "rss.mqtt.authn.v1" ++ [0]

def reservedPrefix : String := "rss.authn.v1."
def versionKey : String := "rss.authn.v1.version"
def principalKey : String := "rss.authn.v1.principal"
def signatureKey : String := "rss.authn.v1.signature"
def assertionVersion : String := "1"

structure BrokerPublishFrame where
  topic : String
  payload : Bytes
  correlation : Bytes
  qos : UInt8
  retain : Bool
  properties : List (String × String)

/-! ### The signed bytes -/

def appendField (target value : Bytes) : Option Bytes :=
  if value.length < 2 ^ 32 then some (target ++ bigEndian 4 value.length ++ value) else none

def canonicalBytes (principal : String) (frame : BrokerPublishFrame) : Option Bytes := do
  let payloadDigest := sha256 frame.payload
  let bytes ← appendField assertionDomain (utf8 assertionVersion)
  let bytes ← appendField bytes (utf8 principal)
  let bytes ← appendField bytes (utf8 frame.topic)
  let bytes ← appendField bytes frame.correlation
  let bytes ← appendField bytes payloadDigest
  let bytes ← appendField bytes [frame.qos]
  appendField bytes [if frame.retain then 1 else 0]

/-- The fields of a frame, for the bytes of its texts. -/
def signedFields (principal topic correlation digest : Bytes) (qos : UInt8) (retain : Bool) : List Bytes :=
  [utf8 assertionVersion, principal, topic, correlation, digest, [qos], [if retain then 1 else 0]]

theorem appendField_eq_some {target value bytes : Bytes} :
    appendField target value = some bytes ↔ value.length < 2 ^ 32 ∧ target ++ counted 4 value = bytes := by
  unfold appendField counted
  rw [← List.append_assoc]
  split_ifs with hlen
  · rw [Option.some.injEq, and_iff_right hlen]
  · simp only [hlen, false_and]

/-- The bytes that are signed for a frame whose fields are short enough. -/
theorem canonicalBytes_eq_some {principal : String} {frame : BrokerPublishFrame} {bytes : Bytes} :
    canonicalBytes principal frame = some bytes ↔
      (∀ v ∈ signedFields (utf8 principal) (utf8 frame.topic) frame.correlation (sha256 frame.payload) frame.qos frame.retain,
        v.length < 2 ^ 32) ∧
      assertionDomain ++ (signedFields (utf8 principal) (utf8 frame.topic) frame.correlation (sha256 frame.payload)
        frame.qos frame.retain).flatMap (counted 4) = bytes := by
  simp only [canonicalBytes, Option.bind_eq_bind, Option.bind_eq_some_iff, appendField_eq_some, signedFields,
    List.forall_mem_cons, List.flatMap_cons, List.flatMap_nil, List.append_nil]
  constructor
  · rintro ⟨_, ⟨h1, rfl⟩, _, ⟨h2, rfl⟩, _, ⟨h3, rfl⟩, _, ⟨h4, rfl⟩, _, ⟨h5, rfl⟩, _, ⟨h6, rfl⟩, h7, rfl⟩
    exact ⟨⟨h1, h2, h3, h4, h5, h6, h7, by simp⟩, by simp only [List.append_assoc]⟩
  · rintro ⟨⟨h1, h2, h3, h4, h5, h6, h7, -⟩, rfl⟩
    exact ⟨_, ⟨h1, rfl⟩, _, ⟨h2, rfl⟩, _, ⟨h3, rfl⟩, _, ⟨h4, rfl⟩, _, ⟨h5, rfl⟩, _, ⟨h6, rfl⟩, h7, by
      simp only [List.append_assoc]⟩

/-- **One frame for the signed bytes.**  The properties are not signed. -/
theorem canonicalBytes_inj {p p' : String} {f f' : BrokerPublishFrame} {bytes : Bytes}
    (h : canonicalBytes p f = some bytes) (h' : canonicalBytes p' f' = some bytes) :
    p = p' ∧ f.topic = f'.topic ∧ f.correlation = f'.correlation ∧ sha256 f.payload = sha256 f'.payload ∧
      f.qos = f'.qos ∧ f.retain = f'.retain := by
  obtain ⟨hlen, rfl⟩ := canonicalBytes_eq_some.1 h
  obtain ⟨hlen', heq⟩ := canonicalBytes_eq_some.1 h'
  have hfields := flatMap_counted_inj (w := 4) hlen' hlen rfl (List.append_cancel_left heq)
  simp only [signedFields, List.cons.injEq, and_true, true_and, utf8_inj] at hfields
  obtain ⟨hp, htopic, hcorrelation, hdigest, hqos, hretain⟩ := hfields
  refine ⟨hp.symm, htopic.symm, hcorrelation.symm, hdigest.symm, hqos.symm, ?_⟩
  cases hf : f.retain <;> cases hf' : f'.retain <;> simp [hf, hf'] at hretain ⊢

/-! ### The properties -/

/-- The three slots of the loop over the properties. -/
structure AssertionSlots where
  version : Option String
  principal : Option String
  signature : Option String

namespace AssertionSlots

def empty : AssertionSlots := ⟨none, none, none⟩

/-- One property: a slot is filled once, and no other reserved name is known. -/
def put (slots : AssertionSlots) (key value : String) : Option AssertionSlots :=
  if ¬ utf8 reservedPrefix <+: utf8 key then some slots
  else if key = versionKey then if slots.version.isSome then none else some { slots with version := some value }
  else if key = principalKey then if slots.principal.isSome then none else some { slots with principal := some value }
  else if key = signatureKey then if slots.signature.isSome then none else some { slots with signature := some value }
  else none

end AssertionSlots

/-- The principal and the signature. -/
def assertionProperties (properties : List (String × String)) : Option (String × String) := do
  let slots ← properties.foldlM (fun slots property => slots.put property.1 property.2) AssertionSlots.empty
  if slots.version ≠ some assertionVersion then none
  else
    let principal ← slots.principal
    let signature ← slots.signature
    some (principal, signature)

/-- The properties of the reserved space. -/
def reservedProperties (properties : List (String × String)) : List (String × String) :=
  properties.filter fun p => utf8 reservedPrefix <+: utf8 p.1

theorem reservedProperties_append (l l' : List (String × String)) :
    reservedProperties (l ++ l') = reservedProperties l ++ reservedProperties l' := List.filter_append ..

namespace AssertionSlots

variable {s s' : AssertionSlots} {key value : String}

/-- The slots that are filled, as properties. -/
def entries (s : AssertionSlots) : List (String × String) :=
  s.version.toList.map (versionKey, ·) ++ s.principal.toList.map (principalKey, ·) ++ s.signature.toList.map (signatureKey, ·)

theorem keys_ne : principalKey ≠ versionKey ∧ signatureKey ≠ versionKey ∧ signatureKey ≠ principalKey := by decide

theorem mem_entries : (key, value) ∈ s.entries ↔ (key = versionKey ∧ s.version = some value) ∨
    (key = principalKey ∧ s.principal = some value) ∨ (key = signatureKey ∧ s.signature = some value) := by
  simp [entries, eq_comm, and_comm]

theorem mem_version : (versionKey, value) ∈ s.entries ↔ s.version = some value := by
  simp [mem_entries, keys_ne.1.symm, keys_ne.2.1.symm]

theorem mem_principal : (principalKey, value) ∈ s.entries ↔ s.principal = some value := by
  simp [mem_entries, keys_ne.1, keys_ne.2.2.symm]

theorem mem_signature : (signatureKey, value) ∈ s.entries ↔ s.signature = some value := by
  simp [mem_entries, keys_ne.2.1, keys_ne.2.2]

/-- The slots are known from their properties, in any order. -/
theorem entries_inj (h : s.entries.Perm s'.entries) : s = s' := by
  obtain ⟨version, principal, signature⟩ := s
  obtain ⟨version', principal', signature'⟩ := s'
  congr
  · exact Option.ext fun v => by simpa only [mem_version] using h.mem_iff (a := (versionKey, v))
  · exact Option.ext fun v => by simpa only [mem_principal] using h.mem_iff (a := (principalKey, v))
  · exact Option.ext fun v => by simpa only [mem_signature] using h.mem_iff (a := (signatureKey, v))

theorem nodup_keys : (s.entries.map Prod.fst).Nodup := by
  obtain ⟨hpv, hsv, hsp⟩ := keys_ne
  obtain ⟨_ | version, _ | principal, _ | signature⟩ := s <;>
    simp [entries, hpv.symm, hsv.symm, hsp.symm]

/-- A property fills the slot of its name, -/
theorem put_perm (hkey : utf8 reservedPrefix <+: utf8 key) (h : s.put key value = some s') :
    s'.entries.Perm ((key, value) :: s.entries) := by
  unfold put at h
  rw [if_neg (not_not.2 hkey)] at h
  split_ifs at h with hv hvs hp hps hs hss
  all_goals
    obtain rfl := Option.some.inj h
    subst key
  · simp [entries, Option.not_isSome_iff_eq_none.1 hvs]
  · simp only [entries, Option.not_isSome_iff_eq_none.1 hps]
    exact List.perm_middle.append_right _
  · simp only [entries, Option.not_isSome_iff_eq_none.1 hss, Option.toList_none, List.map_nil, List.append_nil]
    exact List.perm_append_singleton _ _

/-- unless it is filled. -/
theorem put_isSome (hkey : utf8 reservedPrefix <+: utf8 key) (hknown : key ∈ [versionKey, principalKey, signatureKey])
    (hfree : key ∉ s.entries.map Prod.fst) :
    ∃ s', s.put key value = some s' := by
  obtain ⟨hpv, hsv, hsp⟩ := keys_ne
  have hnot : ∀ w, (key, w) ∉ s.entries := fun w h => hfree (List.mem_map_of_mem (f := Prod.fst) h)
  simp only [List.mem_cons, List.not_mem_nil, or_false] at hknown
  obtain rfl | rfl | rfl := hknown
  · have hempty : s.version = none := Option.eq_none_iff_forall_ne_some.2 fun w h => hnot w (mem_version.2 h)
    simp [put, hkey, hempty]
  · have hempty : s.principal = none := Option.eq_none_iff_forall_ne_some.2 fun w h => hnot w (mem_principal.2 h)
    simp [put, hkey, hempty, hpv]
  · have hempty : s.signature = none := Option.eq_none_iff_forall_ne_some.2 fun w h => hnot w (mem_signature.2 h)
    simp [put, hkey, hempty, hsv, hsp]

theorem entries_known {p : String × String} (h : p ∈ s.entries) : p.1 ∈ [versionKey, principalKey, signatureKey] := by
  obtain ⟨key, value⟩ := p
  obtain ⟨rfl, -⟩ | ⟨rfl, -⟩ | ⟨rfl, -⟩ := mem_entries.1 h <;> simp

end AssertionSlots

/-- The loop collects the reserved properties, each name once. -/
theorem foldlM_put_eq_some {properties : List (String × String)} {s s' : AssertionSlots} :
    properties.foldlM (fun slots property => slots.put property.1 property.2) s = some s' ↔
      s'.entries.Perm (reservedProperties properties ++ s.entries) := by
  induction properties generalizing s with
  | nil =>
    show some s = some s' ↔ s'.entries.Perm s.entries
    exact ⟨fun h => Option.some.inj h ▸ .refl _, fun h => congrArg some (AssertionSlots.entries_inj h.symm)⟩
  | cons p properties ih =>
    rw [List.foldlM_cons, Option.bind_eq_bind, Option.bind_eq_some_iff]
    by_cases hkey : utf8 reservedPrefix <+: utf8 p.1
    · have hcons : reservedProperties (p :: properties) = p :: reservedProperties properties :=
        List.filter_cons_of_pos (decide_eq_true hkey)
      rw [hcons]
      constructor
      · rintro ⟨s₁, hput, hrest⟩
        have hs₁ := AssertionSlots.put_perm hkey hput
        exact (ih.1 hrest).trans ((hs₁.append_left _).trans List.perm_middle)
      · intro h
        have hmem : p ∈ s'.entries := h.mem_iff.2 (List.mem_cons_self ..)
        have hfree : p.1 ∉ s.entries.map Prod.fst := by
          have hnodup := (h.map Prod.fst).nodup_iff.1 s'.nodup_keys
          rw [List.cons_append, List.map_cons, List.nodup_cons, List.map_append, List.mem_append, not_or] at hnodup
          exact hnodup.1.2
        obtain ⟨s₁, hput⟩ : ∃ s₁, s.put p.1 p.2 = some s₁ :=
          AssertionSlots.put_isSome hkey (AssertionSlots.entries_known hmem) hfree
        have hs₁ := AssertionSlots.put_perm hkey hput
        exact ⟨s₁, hput, ih.2 (h.trans (List.perm_middle.symm.trans (hs₁.symm.append_left _)))⟩
    · have hcons : reservedProperties (p :: properties) = reservedProperties properties :=
        List.filter_cons_of_neg (by rw [decide_eq_true_eq]; exact hkey)
      have hput : s.put p.1 p.2 = some s := if_pos hkey
      rw [hcons, hput]
      simp only [Option.some.injEq, exists_eq_left']
      exact ih

theorem assertionProperties_eq_some {properties : List (String × String)} {principal signature : String} :
    assertionProperties properties = some (principal, signature) ↔ (reservedProperties properties).Perm
      [(versionKey, assertionVersion), (principalKey, principal), (signatureKey, signature)] := by
  have hfold : assertionProperties properties = some (principal, signature) ↔
      properties.foldlM (fun slots property => slots.put property.1 property.2) AssertionSlots.empty =
        some ⟨some assertionVersion, some principal, some signature⟩ := by
    unfold assertionProperties
    rw [Option.bind_eq_bind, Option.bind_eq_some_iff]
    constructor
    · rintro ⟨⟨version, p, s⟩, hslots, h⟩
      split_ifs at h with hversion
      obtain rfl : version = some assertionVersion := not_not.1 hversion
      simp only [Option.bind_eq_bind, Option.bind_eq_some_iff, Option.some.injEq, Prod.mk.injEq] at h
      obtain ⟨_, hp, _, hs, rfl, rfl⟩ := h
      rw [hslots, ← hp, ← hs]
    · intro hslots
      exact ⟨_, hslots, rfl⟩
  rw [hfold, foldlM_put_eq_some, List.perm_comm]
  simp [AssertionSlots.entries, AssertionSlots.empty]

/-- The result depends on the reserved properties alone, and not on their order. -/
theorem assertionProperties_congr {properties properties' : List (String × String)}
    (h : (reservedProperties properties).Perm (reservedProperties properties')) :
    assertionProperties properties = assertionProperties properties' := by
  refine Option.ext fun ⟨principal, signature⟩ => ?_
  rw [assertionProperties_eq_some, assertionProperties_eq_some]
  exact ⟨h.symm.trans, h.trans⟩

/-- The names that are accepted are the three, each once. -/
theorem assertionProperties_eq_none {properties : List (String × String)}
    (h : ¬ ((reservedProperties properties).map Prod.fst).Perm [versionKey, principalKey, signatureKey]) :
    assertionProperties properties = none := by
  refine Option.eq_none_iff_forall_ne_some.2 fun ⟨principal, signature⟩ hsome => h ?_
  exact (assertionProperties_eq_some.1 hsome).map Prod.fst

/-- **Reserved properties are read exactly.**  Neither the order of the list nor what is not reserved counts, wherever it
stands; a reserved name that comes twice, is missing or is not known is refused. -/
theorem properties_exact :
    (∀ properties principal signature, assertionProperties properties = some (principal, signature) ↔
      (reservedProperties properties).Perm
        [(versionKey, assertionVersion), (principalKey, principal), (signatureKey, signature)]) ∧
    (∀ properties properties', properties.Perm properties' →
      assertionProperties properties = assertionProperties properties') ∧
    (∀ before after p, ¬ utf8 reservedPrefix <+: utf8 p.1 →
      assertionProperties (before ++ p :: after) = assertionProperties (before ++ after)) ∧
    (∀ before between after key v w, utf8 reservedPrefix <+: utf8 key →
      assertionProperties (before ++ (key, v) :: (between ++ (key, w) :: after)) = none) ∧
    (∀ properties, ∀ key ∈ [versionKey, principalKey, signatureKey], (∀ p ∈ properties, p.1 ≠ key) →
      assertionProperties properties = none) ∧
    ∀ properties, ∀ p ∈ properties, utf8 reservedPrefix <+: utf8 p.1 → p.1 ∉ [versionKey, principalKey, signatureKey] →
      assertionProperties properties = none := by
  refine ⟨fun _ _ _ => assertionProperties_eq_some, fun _ _ h => assertionProperties_congr (h.filter _), ?_, ?_, ?_, ?_⟩
  · intro before after p hp
    apply assertionProperties_congr
    simp [reservedProperties, hp]
  · intro before between after key v w hkey
    apply assertionProperties_eq_none
    intro h
    have hnodup : ((reservedProperties (before ++ (key, v) :: (between ++ (key, w) :: after))).map Prod.fst).Nodup :=
      h.nodup_iff.2 (by decide)
    simp [reservedProperties, hkey, List.nodup_append] at hnodup
  · intro properties key hkey hmissing
    apply assertionProperties_eq_none
    intro h
    obtain ⟨p, hp, rfl⟩ := List.mem_map.1 (h.mem_iff.2 hkey)
    exact hmissing p (List.mem_filter.1 hp).1 rfl
  · intro properties p hp hkey hunknown
    apply assertionProperties_eq_none
    intro h
    exact hunknown (h.mem_iff.1 (List.mem_map_of_mem (List.mem_filter.2 ⟨hp, decide_eq_true hkey⟩)))

/-- The three properties of the broker behind others that are not reserved. -/
theorem assertionProperties_append {others : List (String × String)} {principal signature : String}
    (h : ∀ p ∈ others, ¬ utf8 reservedPrefix <+: utf8 p.1) :
    assertionProperties (others ++ [(versionKey, assertionVersion), (principalKey, principal), (signatureKey, signature)]) =
      some (principal, signature) := by
  have hothers : reservedProperties others = [] := List.filter_eq_nil_iff.2 fun p hp => by simpa using h p hp
  have hreserved : ∀ key ∈ [versionKey, principalKey, signatureKey], utf8 reservedPrefix <+: utf8 key := by decide +kernel
  rw [assertionProperties_eq_some, reservedProperties_append, hothers]
  refine .of_eq (List.filter_eq_self.2 fun p hp => decide_eq_true (hreserved _ ?_))
  exact List.mem_map_of_mem (f := Prod.fst) hp

/-! ### The verifier -/

/-- The public key of the broker, 32 bytes. -/
structure BrokerAssertionVerifier where
  publicKey : Bytes

/-- Verification with Ed25519: public key, message and signature. -/
abbrev Ed25519 := Bytes → Bytes → Bytes → Bool

def BrokerAssertionVerifier.verify (ed25519 : Ed25519) (verifier : BrokerAssertionVerifier) (identity : DeviceIdentity)
    (frame : BrokerPublishFrame) : Bool :=
  if frame.qos ≠ 1 ∨ frame.retain then false
  else match assertionProperties frame.properties with
    | none => false
    | some (principal, signature) =>
      if principal ≠ identity.principalUrn then false
      else match decodeUrlSafe (utf8 signature) with
        | none => false
        | some signature =>
          if signature.length ≠ 64 then false
          else match canonicalBytes principal frame with
            | none => false
            | some signed => ed25519 verifier.publicKey signed signature

/-- **What is accepted**: a frame with a quality of service of one that is not retained, under the principal of the
identity, with a signature over its canonical bytes. -/
theorem BrokerAssertionVerifier.verify_iff {ed25519 : Ed25519} {verifier : BrokerAssertionVerifier}
    {identity : DeviceIdentity} {frame : BrokerPublishFrame} :
    verifier.verify ed25519 identity frame = true ↔ frame.qos = 1 ∧ frame.retain = false ∧
      ∃ text signature signed, assertionProperties frame.properties = some (identity.principalUrn, text) ∧
        decodeUrlSafe (utf8 text) = some signature ∧ signature.length = 64 ∧
        canonicalBytes identity.principalUrn frame = some signed ∧ ed25519 verifier.publicKey signed signature = true := by
  unfold verify
  constructor
  · intro h
    split_ifs at h with hframe
    rw [not_or, not_not, Bool.not_eq_true] at hframe
    refine ⟨hframe.1, hframe.2, ?_⟩
    split at h
    · cases h
    · rename_i principal text hproperties
      split_ifs at h with hprincipal
      rw [not_not] at hprincipal
      subst hprincipal
      split at h
      · cases h
      · rename_i signature hdecode
        split_ifs at h with hlen
        split at h
        · cases h
        · rename_i signed hsigned
          exact ⟨text, signature, signed, hproperties, hdecode, not_not.1 hlen, hsigned, h⟩
  · rintro ⟨hqos, hretain, text, signature, signed, hproperties, hdecode, hlen, hsigned, hverify⟩
    simp [hqos, hretain, hproperties, hdecode, hlen, hsigned, hverify]

end RssIncubator.Agent
