import RssIncubator.Agent.State
import RssIncubator.Agent.Catalog

/-!
# What the checks of a document accept

`Consistent` says in one place what `validate` establishes, the expiry of the credential apart: the
first document of a device is written without a check, and its expiry is whatever the certificate says.
Event identities are injective as far as the hash is (`eventId_inj`).
-/

namespace RssIncubator.Agent

open Lib

/-! ### Checks in sequence -/

@[simp] theorem require_eq_ok {p : Prop} [Decidable p] {u : Unit} : require p = .ok u ↔ p := by
  unfold require; split <;> simp_all

theorem require_error {p : Prop} [Decidable p] {e : StoreError} (h : require p = .error e) : e = .invalidState := by
  unfold require at h; split at h <;> cases h; rfl

@[simp] theorem except_bind_ok {ε α β : Type} {x : Except ε α} {f : α → Except ε β} {b : β} :
    (x >>= f) = .ok b ↔ ∃ a, x = .ok a ∧ f a = .ok b := by cases x <;> simp [bind, Except.bind]

/-- All errors of a computation are `InvalidState`. -/
def OnlyInvalid {α : Type} (x : Except StoreError α) : Prop := ∀ e, x = .error e → e = .invalidState

theorem OnlyInvalid.ok {α : Type} (a : α) : OnlyInvalid (.ok a : Except StoreError α) := fun _ h => by cases h

theorem OnlyInvalid.require {p : Prop} [Decidable p] : OnlyInvalid (require p) := fun _ => require_error

theorem OnlyInvalid.mapError {ε α : Type} (x : Except ε α) :
    OnlyInvalid (x.mapError fun _ => StoreError.invalidState) := fun e h => by
  cases x <;> simp [Except.mapError] at h; exact h.symm

theorem OnlyInvalid.bind {α β : Type} {x : Except StoreError α} {f : α → Except StoreError β}
    (hx : OnlyInvalid x) (hf : ∀ a, OnlyInvalid (f a)) : OnlyInvalid (x >>= f) := fun e h => by
  cases x with
  | error e' => exact hx e (by simpa [Bind.bind, Except.bind] using h)
  | ok a => exact hf a e h

namespace StateV1

variable {s : StateV1}

/-! ### The loops -/

/-- What the outbox loop checks of one entry. -/
structure EntryValid (s : StateV1) (entry : StoredOutbound) : Prop where
  sequence_pos : 0 < entry.sequence
  sequence_le : entry.sequence ≤ s.deviceSequence
  semantic : entry.SemanticValid
  current : ∀ report ∈ entry.reportPayload, s.ReportCurrent report

theorem verifyOutbox_eq_ok {eventIds : List String} {sequences : List ℕ} {l : List StoredOutbound} {u : Unit} :
    s.verifyOutbox eventIds sequences l = .ok u ↔
      ((l.map StoredOutbound.eventId).Nodup ∧ ∀ entry ∈ l, entry.eventId ∉ eventIds) ∧
      ((l.map StoredOutbound.sequence).Nodup ∧ ∀ entry ∈ l, entry.sequence ∉ sequences) ∧
      ∀ entry ∈ l, s.EntryValid entry := by
  induction l generalizing eventIds sequences with
  | nil => simp [verifyOutbox]
  | cons o l ih =>
    have hentry : s.EntryValid o ↔ (o.sequence ≠ 0 ∧ o.sequence ≤ s.deviceSequence ∧ o.SemanticValid) ∧
        ∀ report ∈ o.reportPayload, s.ReportCurrent report :=
      ⟨fun ⟨h1, h2, h3, h4⟩ => ⟨⟨h1.ne', h2, h3⟩, h4⟩,
        fun ⟨⟨h1, h2, h3⟩, h4⟩ => ⟨Nat.pos_of_ne_zero h1, h2, h3, h4⟩⟩
    simp only [verifyOutbox, except_bind_ok, require_eq_ok, exists_const, ih, not_or, not_lt, not_not,
      List.map_cons, List.nodup_cons, List.mem_map, List.forall_mem_cons, hentry]
    simp only [List.mem_cons, not_or]
    constructor
    · rintro ⟨h1, ⟨h2, h3, h4, h5⟩, h6, ⟨h7, h8⟩, ⟨h9, h10⟩, h11⟩
      refine ⟨⟨⟨?_, h7⟩, h1, fun o' ho' => (h8 o' ho').2⟩, ⟨⟨?_, h9⟩, h4, fun o' ho' => (h10 o' ho').2⟩,
        ⟨⟨h2, h3, h5⟩, h6⟩, h11⟩
      · rintro ⟨o', ho', he⟩; exact (h8 o' ho').1 he
      · rintro ⟨o', ho', he⟩; exact (h10 o' ho').1 he
    · rintro ⟨⟨⟨h1, h2⟩, h3, h4⟩, ⟨⟨h5, h6⟩, h7, h8⟩, ⟨⟨h9, h10, h11⟩, h12⟩, h13⟩
      exact ⟨h3, ⟨h9, h10, h7, h11⟩, h12, ⟨h2, fun o' ho' => ⟨fun he => h1 ⟨o', ho', he⟩, h4 o' ho'⟩⟩,
        ⟨h6, fun o' ho' => ⟨fun he => h5 ⟨o', ho', he⟩, h8 o' ho'⟩⟩, h13⟩

theorem verifyJournal_eq_ok {commandIds : List String} {l : List StoredCommand} {u : Unit} :
    verifyJournal commandIds l = .ok u ↔
      ((l.map StoredCommand.commandId).Nodup ∧ ∀ c ∈ l, c.commandId ∉ commandIds) ∧
      ∀ c ∈ l, c.SemanticValid := by
  induction l generalizing commandIds with
  | nil => simp [verifyJournal]
  | cons c l ih =>
    simp only [verifyJournal, except_bind_ok, require_eq_ok, exists_const, ih, List.map_cons, List.nodup_cons,
      List.mem_map, List.forall_mem_cons]
    simp only [List.mem_cons, not_or]
    constructor
    · rintro ⟨⟨h1, h2⟩, ⟨h3, h4⟩, h5⟩
      refine ⟨⟨⟨?_, h3⟩, h1, fun c' hc' => (h4 c' hc').2⟩, h2, h5⟩
      rintro ⟨c', hc', he⟩; exact (h4 c' hc').1 he
    · rintro ⟨⟨⟨h1, h2⟩, h3, h4⟩, h5, h6⟩
      exact ⟨⟨h3, h5⟩, ⟨h2, fun c' hc' => ⟨fun he => h1 ⟨c', hc', he⟩, h4 c' hc'⟩⟩, h6⟩

theorem verifyPhases_eq_ok {l : List StoredOutbound} {u : Unit} :
    s.verifyPhases l = .ok u ↔ ∀ entry ∈ l, s.PhaseValid entry := by
  induction l with
  | nil => simp [verifyPhases]
  | cons o l ih => simp [verifyPhases, ih]

/-- The pending delivery arrived under an identity of this device. -/
def PendingKnown (s : StateV1) (pending : StoredInboundSettlement) : Prop :=
  ∃ identity : DeviceIdentity, identity.tenant = s.identity.tenantId ∧ identity.device = s.identity.deviceId ∧
    identity.credentialGeneration.1 = pending.credentialGeneration ∧ s.PendingValid pending identity

theorem verifyPending_eq_ok {u : Unit} :
    s.verifyPending = .ok u ↔ ∀ pending ∈ s.pendingInbound, s.PendingKnown pending := by
  unfold verifyPending PendingKnown
  rcases s.pendingInbound with _ | pending
  · simp
  · simp only [except_bind_ok, mapError_eq_ok, NonZeroU64.tryFrom_eq_ok, DeviceIdentity.tryNew_eq_ok,
      require_eq_ok, Option.mem_def, Option.some.injEq, forall_eq']
    constructor
    · rintro ⟨generation, hg, identity, ⟨h1, h2, rfl⟩, h⟩
      exact ⟨identity, h1, h2, hg, h⟩
    · rintro ⟨identity, h1, h2, hg, h⟩
      exact ⟨_, hg, identity, ⟨h1, h2, rfl⟩, h⟩

/-! ### What a validated document satisfies -/

/-- What `validate` establishes, the expiry of the credential apart. -/
structure Consistent (s : StateV1) : Prop where
  version : s.schemaVersion = 1
  tenant_ne_nil : s.identity.tenantId ≠ .nil
  device_ne_nil : s.identity.deviceId ≠ .nil
  credentialGeneration : 0 < s.identity.credentialGeneration ∧ s.identity.credentialGeneration ≤ u64Max
  desiredGeneration_pos : 0 < s.current.desiredGeneration
  fenceEpoch_pos : 0 < s.current.fenceEpoch
  credentialRevision_pos : 0 < s.current.credentialRevision
  artifactDigest : validDigest s.current.artifactDigest
  outbox_length : s.outbox.length ≤ outboxLimit
  journal_length : s.commandJournal.length ≤ commandJournalLimit
  eventIds : (s.outbox.map StoredOutbound.eventId).Nodup
  sequences : (s.outbox.map StoredOutbound.sequence).Nodup
  entries : ∀ entry ∈ s.outbox, s.EntryValid entry
  commandIds : (s.commandJournal.map StoredCommand.commandId).Nodup
  commands : ∀ c ∈ s.commandJournal, c.SemanticValid
  pending : ∀ pending ∈ s.pendingInbound, s.PendingKnown pending
  reports_le : s.reports ≤ 1
  pending_iff : s.pendingInbound.isSome ↔ s.reports = 1
  phases : ∀ entry ∈ s.outbox, s.PhaseValid entry
  reconnect : ∀ revision ∈ s.reconnectRevision, s.reports = 1 ∧ revision = s.current.credentialRevision

/-- The identity a consistent document is about. -/
def Consistent.identity (h : s.Consistent) : DeviceIdentity :=
  ⟨s.identity.tenantId, s.identity.deviceId, ⟨s.identity.credentialGeneration, h.credentialGeneration⟩,
    h.tenant_ne_nil, h.device_ne_nil⟩

theorem Consistent.currentIdentity (h : s.Consistent) : s.currentIdentity = .ok h.identity := by
  unfold StateV1.currentIdentity
  simp only [except_bind_ok, mapError_eq_ok, NonZeroU64.tryFrom_eq_ok, DeviceIdentity.tryNew_eq_ok]
  exact ⟨⟨_, h.credentialGeneration⟩, rfl, rfl, rfl, rfl⟩

theorem currentIdentity_eq_ok {identity : DeviceIdentity} : s.currentIdentity = .ok identity ↔
    identity.tenant = s.identity.tenantId ∧ identity.device = s.identity.deviceId ∧
      identity.credentialGeneration.1 = s.identity.credentialGeneration := by
  unfold StateV1.currentIdentity
  simp only [except_bind_ok, mapError_eq_ok, NonZeroU64.tryFrom_eq_ok, DeviceIdentity.tryNew_eq_ok]
  constructor
  · rintro ⟨g, hg, h1, h2, rfl⟩; exact ⟨h1, h2, hg⟩
  · rintro ⟨h1, h2, hg⟩; exact ⟨_, hg, h1, h2, rfl⟩

theorem verify_eq_ok_iff {identity : DeviceIdentity} {u : Unit} : s.verify identity = .ok u ↔
    s.CoordinatesValid identity ∧
    ((s.outbox.map StoredOutbound.eventId).Nodup ∧ (s.outbox.map StoredOutbound.sequence).Nodup ∧
      ∀ entry ∈ s.outbox, s.EntryValid entry) ∧
    ((s.commandJournal.map StoredCommand.commandId).Nodup ∧ ∀ c ∈ s.commandJournal, c.SemanticValid) ∧
    (∀ pending ∈ s.pendingInbound, s.PendingKnown pending) ∧ s.reports ≤ 1 ∧
    s.pendingInbound.isSome = decide (s.reports = 1) ∧ (∀ entry ∈ s.outbox, s.PhaseValid entry) ∧
    ¬ (s.reconnectRevision.isSome ∧ s.reports ≠ 1) ∧
    ∀ revision ∈ s.reconnectRevision, revision = s.current.credentialRevision := by
  simp only [verify, except_bind_ok, require_eq_ok, verifyOutbox_eq_ok, verifyJournal_eq_ok, verifyPending_eq_ok,
    verifyPhases_eq_ok, exists_const, List.not_mem_nil, not_false_eq_true, implies_true, and_true]

/-- Loading a consistent document checks the device it is for, and the expiry. -/
theorem Consistent.verify_eq_ok (h : s.Consistent) {identity : DeviceIdentity} :
    s.verify identity = .ok () ↔ s.identity.tenantId = identity.tenant ∧ s.identity.deviceId = identity.device ∧
      0 < s.current.expiresAt := by
  simp only [verify_eq_ok_iff]
  constructor
  · rintro ⟨⟨-, h1, h2, -, -, -, -, h3, -⟩, -⟩
    exact ⟨h1, h2, h3⟩
  · rintro ⟨h1, h2, h3⟩
    refine ⟨⟨h.version, h1, h2, h.credentialGeneration.1, h.desiredGeneration_pos, h.fenceEpoch_pos,
      h.credentialRevision_pos, h3, h.artifactDigest, h.outbox_length, h.journal_length⟩, ⟨h.eventIds, h.sequences,
      h.entries⟩, ⟨h.commandIds, h.commands⟩, h.pending, h.reports_le, ?_, h.phases, ?_, fun r hr => (h.reconnect r hr).2⟩
    · rw [Bool.eq_iff_iff, decide_eq_true_eq]
      exact h.pending_iff
    · rintro ⟨h4, h5⟩
      obtain ⟨r, hr⟩ := Option.isSome_iff_exists.1 h4
      exact h5 (h.reconnect r hr).1

theorem validate_eq_ok : s.validate = .ok () ↔ s.Consistent ∧ 0 < s.current.expiresAt := by
  constructor
  · intro h
    obtain ⟨identity, hid, hv⟩ := except_bind_ok.1 h
    obtain ⟨ht, hd, hg⟩ := currentIdentity_eq_ok.1 hid
    obtain ⟨⟨h1, -, -, -, h2, h3, h4, h5, h6, h7, h8⟩, ⟨ho1, ho2, ho3⟩, ⟨hj1, hj2⟩, hp, hr, hpr, hph, hrr, hrc⟩ :=
      verify_eq_ok_iff.1 hv
    refine ⟨⟨h1, ht ▸ identity.tenant_ne_nil, hd ▸ identity.device_ne_nil, hg ▸ identity.credentialGeneration.2,
      h2, h3, h4, h6, h7, h8, ho1, ho2, ho3, hj1, hj2, hp, hr, ?_, hph, fun r hm => ⟨?_, hrc r hm⟩⟩, h5⟩
    · rwa [Bool.eq_iff_iff, decide_eq_true_eq] at hpr
    · by_contra hne
      exact hrr ⟨Option.isSome_iff_exists.2 ⟨r, hm⟩, hne⟩
  · rintro ⟨h, he⟩
    exact except_bind_ok.2 ⟨_, h.currentIdentity, h.verify_eq_ok.2 ⟨rfl, rfl, he⟩⟩

theorem onlyInvalid_verifyOutbox {eventIds : List String} {sequences : List ℕ} {l : List StoredOutbound} :
    OnlyInvalid (s.verifyOutbox eventIds sequences l) := by
  induction l generalizing eventIds sequences with
  | nil => exact .ok _
  | cons o l ih => exact .bind .require fun _ => .bind .require fun _ => .bind .require fun _ => ih

theorem onlyInvalid_verifyJournal {commandIds : List String} {l : List StoredCommand} :
    OnlyInvalid (verifyJournal commandIds l) := by
  induction l generalizing commandIds with
  | nil => exact .ok _
  | cons c l ih => exact .bind .require fun _ => ih

theorem onlyInvalid_verifyPhases {l : List StoredOutbound} : OnlyInvalid (s.verifyPhases l) := by
  induction l with
  | nil => exact .ok _
  | cons o l ih => exact .bind .require fun _ => ih

theorem onlyInvalid_verifyPending : OnlyInvalid s.verifyPending := by
  unfold verifyPending
  split
  · exact .ok _
  · exact .bind (.mapError _) fun _ => .bind (.mapError _) fun _ => .require

theorem onlyInvalid_verify (s : StateV1) (identity : DeviceIdentity) : OnlyInvalid (s.verify identity) :=
  .bind .require fun _ => .bind onlyInvalid_verifyOutbox fun _ => .bind onlyInvalid_verifyJournal fun _ =>
    .bind onlyInvalid_verifyPending fun _ => .bind .require fun _ => .bind .require fun _ =>
      .bind onlyInvalid_verifyPhases fun _ => .bind .require fun _ => .require

theorem onlyInvalid_currentIdentity (s : StateV1) : OnlyInvalid s.currentIdentity :=
  .bind (.mapError _) fun _ => .mapError _

/-- A document that does not pass is refused as `InvalidState`. -/
theorem onlyInvalid_validate (s : StateV1) : OnlyInvalid s.validate :=
  .bind (onlyInvalid_currentIdentity s) fun _ => onlyInvalid_verify s _

theorem consistent_initial (identity : DeviceIdentity) (desiredGeneration fenceEpoch revision : NonZeroU64)
    (digest : Sha256Digest) (expiresAt : ℤ) :
    (initial identity desiredGeneration fenceEpoch revision digest expiresAt).Consistent := by
  refine ⟨rfl, identity.tenant_ne_nil, identity.device_ne_nil, identity.credentialGeneration.2,
    desiredGeneration.2.1, fenceEpoch.2.1, revision.2.1, digest.valid, ?_, ?_, ?_, ?_, ?_, ?_, ?_, ?_, ?_, ?_, ?_, ?_⟩ <;>
    simp [initial, reports]

end StateV1

/-! ### Event identities -/

theorem hexDigit_inj : ∀ m < 16, ∀ n < 16, hexDigit m = hexDigit n → m = n := by decide

theorem hex_inj {b b' : Bytes} (h : hex b = hex b') : b = b' := by
  unfold hex at h
  rw [String.ofList_inj] at h
  induction b generalizing b' with
  | nil => cases b' <;> simp_all
  | cons x b ih =>
    cases b' with
    | nil => simp at h
    | cons y b' =>
      simp only [List.flatMap_cons, List.cons_append, List.nil_append, List.cons.injEq] at h
      obtain ⟨h1, h2, h3⟩ := h
      have hx := x.toNat_lt
      have hy := y.toNat_lt
      have hd := hexDigit_inj _ (by omega) _ (by omega) h1
      have hm := hexDigit_inj _ (by omega) _ (by omega) h2
      have hxy : x = y := UInt8.toNat_inj.1 (by omega)
      rw [hxy, ih h3]

/-- An event: its kind and what it is about. -/
abbrev Event := EventKind × String

/-- No two of the events hash alike. -/
def EventsDistinct (events : List Event) : Prop := CollisionFree (events.map fun e => eventPreimage e.1 e.2)

instance (events : List Event) : Decidable (EventsDistinct events) := inferInstanceAs (Decidable (CollisionFree _))

theorem EventsDistinct.mono {events events' : List Event} (h : EventsDistinct events)
    (hsub : ∀ e ∈ events', e ∈ events) : EventsDistinct events' := by
  refine Set.InjOn.mono ?_ h
  intro m hm
  simp only [List.mem_map, Set.mem_ofPred_eq] at hm ⊢
  obtain ⟨e, he, rfl⟩ := hm
  exact ⟨e, hsub e he, rfl⟩

/-- **Distinct events have distinct identities**, as far as the hash tells them apart. -/
theorem eventId_inj {events : List Event} (hd : EventsDistinct events) {k k' : EventKind} {c c' : String}
    (hm : (k, c) ∈ events) (hm' : (k', c') ∈ events) (h : eventId k c = eventId k' c') : k = k' ∧ c = c' := by
  have hu := congrArg utf8 h
  simp only [eventId, utf8_append "reference-", utf8_append _ "-", utf8_append _ (hex _)] at hu
  have hlen : ∀ b : Bytes, (utf8 (hex (sha256 b))).length = 64 := fun b => by
    rw [(utf8_hex _).1, sha256_length]
  -- the digests have one length, so the kinds can be read off what stands before them
  obtain ⟨hkind, hhex⟩ := List.append_inj' hu ((hlen _).trans (hlen _).symm)
  have hkk : k = k' := by
    revert hkind
    cases k <;> cases k' <;> decide
  refine ⟨hkk, ?_⟩
  have hsha := hex_inj (utf8_inj.1 hhex)
  have hpre := hd.eq (List.mem_map.2 ⟨_, hm, rfl⟩) (List.mem_map.2 ⟨_, hm', rfl⟩) hsha
  subst hkk
  simp only [eventPreimage] at hpre
  exact utf8_inj.1 (List.append_cancel_left hpre)

end RssIncubator.Agent
