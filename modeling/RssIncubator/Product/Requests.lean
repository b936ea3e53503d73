import Mathlib.Data.List.Dedup
import RssIncubator.Agent.Verify
import RssIncubator.Product.Responses

/-!
# What the product asks of the service (`rss-device-security-client`, `rotation-model`)

A rotation policy is one that obeys the constraints of the product, and its request carries it to the service as it is.

`Requests` has the operations and the checked types of the contract crate.
-/

namespace RssIncubator.Product

open Lib Agent

/-! ### Policies -/

inductive KeyUsage where
  | clientAuth
  | serverAuth
  deriving DecidableEq

/-- The constraints of the product on a policy. -/
structure RotationPolicy.Allowed (keyUsages : List KeyUsage) (renewBeforeSeconds : ℕ) (sans : List String)
    (validitySeconds : ℕ) : Prop where
  keyUsages_ne : keyUsages ≠ []
  keyUsages_nodup : keyUsages.Nodup
  validity : 300 ≤ validitySeconds ∧ validitySeconds ≤ 31536000
  renew : 60 ≤ renewBeforeSeconds ∧ renewBeforeSeconds < validitySeconds
  sans_length : sans.length ≤ 32
  sans_nodup : sans.Nodup
  sans_text : ∀ san ∈ sans, san ≠ "" ∧ san.toList.length ≤ 253 ∧ ∀ c ∈ san.toList, isControl c = false

structure RotationPolicy where
  keyUsages : List KeyUsage
  renewBeforeSeconds : ℕ
  sans : List String
  validitySeconds : ℕ
  allowed : RotationPolicy.Allowed keyUsages renewBeforeSeconds sans validitySeconds

/-- What `RotationPolicy::try_new` refuses. -/
def RotationPolicy.refused (keyUsages : List KeyUsage) (renewBeforeSeconds : ℕ) (sans : List String) (validitySeconds : ℕ) :
    Bool :=
  keyUsages = [] || keyUsages.dedup.length ≠ keyUsages.length || !(300 ≤ validitySeconds && validitySeconds ≤ 31536000) ||
    !(60 ≤ renewBeforeSeconds && renewBeforeSeconds < validitySeconds) || 32 < sans.length ||
    sans.dedup.length ≠ sans.length ||
    sans.any fun san => san = "" || 253 < san.toList.length || san.toList.any isControl

theorem length_dedup_eq {α : Type} [DecidableEq α] {l : List α} : l.dedup.length = l.length ↔ l.Nodup :=
  ⟨fun h => List.dedup_eq_self.1 ((List.dedup_sublist l).eq_of_length h), fun h => by rw [List.dedup_eq_self.2 h]⟩

theorem RotationPolicy.refused_eq_false {keyUsages : List KeyUsage} {renewBeforeSeconds : ℕ} {sans : List String}
    {validitySeconds : ℕ} : refused keyUsages renewBeforeSeconds sans validitySeconds = false ↔
      Allowed keyUsages renewBeforeSeconds sans validitySeconds := by
  simp only [refused, Bool.or_eq_false_iff, decide_eq_false_iff_not, Bool.not_eq_false', Bool.and_eq_true, decide_eq_true_eq,
    not_not, not_lt, List.any_eq_false, Bool.not_eq_true, length_dedup_eq]
  constructor
  · rintro ⟨⟨⟨⟨⟨⟨hne, hnodup⟩, hvalidity⟩, hrenew⟩, hlength⟩, hsans⟩, htext⟩
    exact ⟨hne, hnodup, hvalidity, hrenew, hlength, hsans, fun san hsan => by
      obtain ⟨⟨hempty, hlong⟩, hcontrol⟩ := htext san hsan
      exact ⟨hempty, hlong, hcontrol⟩⟩
  · rintro ⟨hne, hnodup, hvalidity, hrenew, hlength, hsans, htext⟩
    exact ⟨⟨⟨⟨⟨⟨hne, hnodup⟩, hvalidity⟩, hrenew⟩, hlength⟩, hsans⟩, fun san hsan => by
      obtain ⟨hempty, hlong, hcontrol⟩ := htext san hsan
      exact ⟨⟨hempty, hlong⟩, hcontrol⟩⟩

def RotationPolicy.tryNew (keyUsages : List KeyUsage) (renewBeforeSeconds : ℕ) (sans : List String) (validitySeconds : ℕ) :
    Option RotationPolicy :=
  if h : refused keyUsages renewBeforeSeconds sans validitySeconds = false then
    some ⟨keyUsages, renewBeforeSeconds, sans, validitySeconds, refused_eq_false.1 h⟩
  else none

/-! ### The contracts -/

namespace Contract

/-- The method of an operation, and its path with a place for the device. -/
structure Operation where
  method : String
  pathTemplate : String

inductive KeyUsage where
  | clientAuth
  | serverAuth
  deriving DecidableEq

/-- `IdentityDeviceCertificatePolicyPutPolicy`. -/
structure Policy where
  keyUsages : List KeyUsage
  renewBeforeSeconds : ℤ
  sans : Option (List String)
  validitySeconds : ℤ
  deriving DecidableEq

/-- `IdentityDeviceCertificatePolicyPutRequest`. -/
structure PolicyPutRequest where
  expectedGeneration : ℤ
  idempotencyKey : Uuid
  policy : Policy
  deriving DecidableEq

end Contract

/-- The contract crate: its operations, what its checked types accept, and how it writes a request. -/
structure Requests where
  policyPut : Contract.Operation
  statusGet : Contract.Operation
  san : String → Bool
  policy : Contract.Policy → Bool
  request : Contract.PolicyPutRequest → Bool
  toVec : Contract.PolicyPutRequest → Option Bytes

/-! ### Requests -/

structure PreparedRequest where
  method : String
  path : String
  body : Option Bytes
  deriving DecidableEq

inductive FacadeError where
  | invalidInput
  | serialization
  deriving DecidableEq

/-- `str::replace`, behind so many characters that were replaced already. -/
def replaceFrom (pattern replacement : List Char) : ℕ → List Char → List Char
  | _, [] => []
  | skip + 1, _ :: text => replaceFrom pattern replacement skip text
  | 0, c :: text =>
    if pattern <+: c :: text then replacement ++ replaceFrom pattern replacement (pattern.length - 1) text
    else c :: replaceFrom pattern replacement 0 text

def bindDevicePath (pathTemplate : String) (deviceId : Uuid) : String :=
  String.ofList (replaceFrom "\x7bdeviceId\x7d".toList deviceId.hyphenated.toList 0 pathTemplate.toList)

def keyUsage : KeyUsage → Contract.KeyUsage
  | .clientAuth => .clientAuth
  | .serverAuth => .serverAuth

def orInvalid {α : Type} (value : Option α) : Except FacadeError α := value.elim (.error .invalidInput) .ok

section

variable (contracts : Requests)

def preparePolicyPut (deviceId : Uuid) (expectedGeneration : ℕ) (idempotencyKey : Uuid) (policy : RotationPolicy) :
    Except FacadeError PreparedRequest := do
  let sans ← orInvalid (policy.sans.mapM (accepted contracts.san))
  let renew ← orInvalid (signed policy.renewBeforeSeconds)
  let validity ← orInvalid (signed policy.validitySeconds)
  let expected ← orInvalid (signed expectedGeneration)
  let canonicalPolicy : Contract.Policy := ⟨policy.keyUsages.map keyUsage, renew, if sans ≠ [] then some sans else none, validity⟩
  let canonicalPolicy ← orInvalid (if contracts.policy canonicalPolicy then some canonicalPolicy else none)
  let request : Contract.PolicyPutRequest := ⟨expected, idempotencyKey, canonicalPolicy⟩
  let request ← orInvalid (if contracts.request request then some request else none)
  let body ← (contracts.toVec request).elim (.error .serialization) .ok
  pure ⟨contracts.policyPut.method, bindDevicePath contracts.policyPut.pathTemplate deviceId, some body⟩

def prepareStatusGet (deviceId : Uuid) : PreparedRequest :=
  ⟨contracts.statusGet.method, bindDevicePath contracts.statusGet.pathTemplate deviceId, none⟩

end

/-- The policy in the terms of the service. -/
def canonicalPolicy (policy : RotationPolicy) : Contract.Policy :=
  ⟨policy.keyUsages.map keyUsage, policy.renewBeforeSeconds, if policy.sans ≠ [] then some policy.sans else none,
    policy.validitySeconds⟩

section

variable {contracts : Requests} {deviceId idempotencyKey : Uuid} {expectedGeneration : ℕ} {policy : RotationPolicy}
  {prepared : PreparedRequest}

theorem orInvalid_eq_ok {α : Type} {value : Option α} {a : α} : orInvalid value = .ok a ↔ value = some a := by
  cases value <;> simp [orInvalid]

theorem mapM_accepted {accepts : String → Bool} {l l' : List String} :
    l.mapM (accepted accepts) = some l' ↔ (∀ value ∈ l, accepts value) ∧ l' = l := by
  induction l generalizing l' with
  | nil =>
    constructor
    · intro h
      exact ⟨by simp, (Option.some.inj h).symm⟩
    · rintro ⟨-, rfl⟩
      rfl
  | cons value l ih =>
    rw [List.mapM_cons, List.forall_mem_cons]
    by_cases h : accepts value = true
    · rw [show accepted accepts value = some value from if_pos h, Option.bind_eq_bind, Option.bind_some,
        Option.bind_eq_bind, Option.bind_eq_some_iff]
      constructor
      · rintro ⟨rest, hrest, heq⟩
        obtain ⟨hall, rfl⟩ := ih.1 hrest
        exact ⟨⟨h, hall⟩, (Option.some.inj heq).symm⟩
      · rintro ⟨⟨-, hall⟩, rfl⟩
        exact ⟨l, ih.2 ⟨hall, rfl⟩, rfl⟩
    · rw [show accepted accepts value = none from if_neg h]
      simp [h]

theorem RotationPolicy.validity_le (policy : RotationPolicy) : policy.validitySeconds ≤ i64Max := by
  have := policy.allowed.validity.2
  unfold i64Max
  omega

theorem RotationPolicy.renew_le (policy : RotationPolicy) : policy.renewBeforeSeconds ≤ i64Max := by
  have := policy.validity_le
  have := policy.allowed.renew.2
  omega

/-- **The request carries the policy as it is**: it is made whenever the service's own types take it, and its durations always
fit. -/
theorem preparePolicyPut_eq_ok :
    preparePolicyPut contracts deviceId expectedGeneration idempotencyKey policy = .ok prepared ↔
      (∀ san ∈ policy.sans, contracts.san san) ∧ expectedGeneration ≤ i64Max ∧ contracts.policy (canonicalPolicy policy) ∧
      contracts.request ⟨expectedGeneration, idempotencyKey, canonicalPolicy policy⟩ ∧
      ∃ body, contracts.toVec ⟨expectedGeneration, idempotencyKey, canonicalPolicy policy⟩ = some body ∧
        prepared = ⟨contracts.policyPut.method, bindDevicePath contracts.policyPut.pathTemplate deviceId, some body⟩ := by
  have hrenew : signed policy.renewBeforeSeconds = some (policy.renewBeforeSeconds : ℤ) := if_pos policy.renew_le
  have hvalidity : signed policy.validitySeconds = some (policy.validitySeconds : ℤ) := if_pos policy.validity_le
  unfold preparePolicyPut canonicalPolicy
  simp only [except_bind_ok, orInvalid_eq_ok, mapM_accepted, hrenew, hvalidity, signed_eq_some, Option.some.injEq,
    exists_eq_left', Option.ite_none_right_eq_some]
  constructor
  · rintro ⟨_, ⟨hall, rfl⟩, _, ⟨hexpected, rfl⟩, _, ⟨hpolicy, rfl⟩, _, ⟨hrequest, rfl⟩, body, hbody, h⟩
    refine ⟨hall, hexpected, hpolicy, hrequest, body, ?_, (Except.ok.inj h).symm⟩
    revert hbody
    cases contracts.toVec _ <;> simp
  · rintro ⟨hall, hexpected, hpolicy, hrequest, body, hbody, rfl⟩
    refine ⟨_, ⟨hall, rfl⟩, _, ⟨hexpected, rfl⟩, _, ⟨hpolicy, rfl⟩, _, ⟨hrequest, rfl⟩, body, ?_, rfl⟩
    rw [hbody]
    rfl

end

end RssIncubator.Product
