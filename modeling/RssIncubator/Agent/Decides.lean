import RssIncubator.Agent.Plan

/-!
# All that can be decided

The inversion of `plan` in a consistent state: one constructor for each way an operation can come to an
answer or to a candidate, with the guards it has passed.  Everything proved about the operations goes
through `plan_cases`.
-/

namespace RssIncubator.Agent

open Lib

/-- A delivery: the command it names, the fingerprint of its payload, and the time. -/
structure Delivery where
  commandId : String
  fingerprint : String
  now : ℕ

def Call.delivery : Call → Option Delivery
  | .applyCommand _ command now _ => some ⟨command.commandId.expose, commandFingerprint command, now⟩
  | .rejectMalformedDelivery topic commandId payload now =>
    some ⟨commandId, malformedFingerprint topic commandId payload, now⟩
  | _ => none

theorem Call.delivery_valid {call : Call} {d : Delivery} (h : call.delivery = some d) : validDigest d.fingerprint := by
  cases call <;> cases h <;> exact validDigest_digestText _

/-- The entry a replay is taken from. -/
def StateV1.journalled (s : StateV1) (d : Delivery) : Option StoredCommand :=
  s.commandJournal.find? fun command => command.commandId = d.commandId ∧ command.fingerprint = d.fingerprint

/-- How the journal answers a delivery. -/
abbrev StateV1.answer (s : StateV1) (d : Delivery) : Option Bool := s.commandMatch d.commandId d.fingerprint d.now

inductive Decides (pki : Pki) (retention : NonZeroU32) (s : StateV1) : Call → Decision → Prop
  | duplicate {call d} (hd : call.delivery = some d) (hm : s.answer d = some true)
      (hack : s.hasCommandAck d.commandId = true) : Decides pki retention s call (.keep (.outcome .duplicate))
  | replay {call d command} (hd : call.delivery = some d) (hm : s.answer d = some true)
      (hack : s.hasCommandAck d.commandId = false) (hroom : s.outbox.length + 1 ≤ outboxLimit)
      (hfind : s.journalled d = some command) :
      Decides pki retention s call (.store (s.replayed command) (.outcome .duplicate))
  | conflicting {call d} (hd : call.delivery = some d) (hm : s.answer d = some false)
      (hknown : s.hasConflictingReplay d.commandId d.fingerprint = true) :
      Decides pki retention s call (.keep (.outcome (.rejected .malformedCommand)))
  | conflict {call d generation fence} (hd : call.delivery = some d) (hm : s.answer d = some false)
      (hknown : s.hasConflictingReplay d.commandId d.fingerprint = false)
      (hroom : s.outbox.length + 1 ≤ outboxLimit) (hgen : 0 < generation) (hfence : 0 < fence) :
      Decides pki retention s call
        (.store (s.rejectConflictingReplay d.commandId d.fingerprint generation fence (observedAt d.now))
          (.outcome (.rejected .malformedCommand)))
  | reject {call d generation fence rejection expiry} (hd : call.delivery = some d) (hm : s.answer d = none)
      (hgen : 0 < generation) (hfence : 0 < fence)
      (hexpiry : expiry = d.now ∨ expiry = unsigned (observedAt d.now))
      (hroom : s.outbox.length + 1 ≤ outboxLimit)
      (hjournal : (s.expireCommandJournal expiry).commandJournal.length < commandJournalLimit) :
      Decides pki retention s call (.store
        ((s.expireCommandJournal expiry).reject
          (rejectedCommand retention d.commandId d.fingerprint generation fence rejection d.now))
        (.outcome (.rejected rejection)))
  | accept {topic command now catalog identity artifact revision}
      (hm : s.commandMatch command.commandId.expose (commandFingerprint command) now = none)
      (hflight : s.rotationInFlight = false) (hid : s.currentIdentity = .ok identity)
      (htopic : topic = identity.commandTopic) (hdevice : command.deviceId = identity.device)
      (hdeadline : now < command.deadlineEpochSeconds.1)
      (hres : catalog.resolve pki identity command now = .ok artifact)
      (hfence : s.current.fenceEpoch ≤ command.fenceEpoch.1)
      (hgen : s.current.desiredGeneration < command.desiredGeneration.1)
      (hcred : s.identity.credentialGeneration < artifact.credentialGeneration.1)
      (hroom : s.outbox.length + 2 ≤ outboxLimit)
      (hjournal : (s.expireCommandJournal (unsigned (observedAt now))).commandJournal.length < commandJournalLimit)
      (hrev : revision.1 = s.current.credentialRevision + 1) :
      Decides pki retention s (.applyCommand topic command now catalog) (.install revision.1 artifact.credential
        ((s.expireCommandJournal (unsigned (observedAt now))).accepted identity
          (acceptedCommand retention command artifact revision now))
        (.outcome .accepted))
  | confirm {event s'} (h : s.confirmOutbound event = some s') :
      Decides pki retention s (.confirmOutbound event) (.store s' .done)
  | reconnect {revision s'} (h : s.markReconnected revision.1 = some s') :
      Decides pki retention s (.markCurrentCredentialConnected revision) (.store s' .done)
  | settled {token s'} (h : s.markInboundSettled (some token) = some s') :
      Decides pki retention s (.markPendingInboundSettled token) (.store s' .done)
  | absent {s'} (h : s.markInboundSettled none = some s') :
      Decides pki retention s .markPendingInboundAbsent (.store s' .done)

section

variable {pki : Pki} {retention : NonZeroU32} {s : StateV1} {d : Delivery} {call : Call}

@[simp] theorem mapError_eq_error {ε ε' α : Type} {f : ε → ε'} {x : Except ε α} {e : ε'} :
    x.mapError f = .error e ↔ ∃ e', x = .error e' ∧ f e' = e := by cases x <;> simp [Except.mapError]

theorem reserveOutbox_eq_ok {n : ℕ} {u : Unit} : s.reserveOutbox n = .ok u ↔ s.outbox.length + n ≤ outboxLimit := by
  unfold StateV1.reserveOutbox; split <;> simp_all

theorem reserveCommandJournal_eq_ok {u : Unit} :
    s.reserveCommandJournal = .ok u ↔ s.commandJournal.length < commandJournalLimit := by
  unfold StateV1.reserveCommandJournal; split <;> simp_all

theorem nextRevision_eq_ok {revision : NonZeroU64} :
    s.nextRevision = .ok revision ↔ revision.1 = s.current.credentialRevision + 1 := by
  unfold StateV1.nextRevision
  split
  · rw [mapError_eq_ok, NonZeroU64.tryFrom_eq_ok]
  · rename_i h
    simp only [reduceCtorEq, false_iff]
    intro he
    exact h (he ▸ revision.2.2)

theorem planRejection_eq_ok {expiry : ℕ} {c : RejectedCommand} {dec : Decision} :
    planRejection s expiry c = .ok dec ↔ s.outbox.length + 1 ≤ outboxLimit ∧
      (s.expireCommandJournal expiry).commandJournal.length < commandJournalLimit ∧
      .store ((s.expireCommandJournal expiry).reject c) (.outcome (.rejected c.rejection)) = dec := by
  simp only [planRejection, except_bind_ok, mapError_eq_ok, reserveOutbox_eq_ok, reserveCommandJournal_eq_ok,
    exists_const, Except.ok.injEq]
  rfl

theorem planReplay_cases {dec : Decision} (hd : call.delivery = some d) (hm : s.answer d = some true)
    (h : planReplay s d.commandId d.fingerprint = .ok dec) : Decides pki retention s call dec := by
  unfold planReplay at h
  split at h
  · rename_i hack
    cases h
    exact .duplicate hd hm hack
  · rename_i hack
    simp only [except_bind_ok, mapError_eq_ok, reserveOutbox_eq_ok, exists_const, Except.ok.injEq] at h
    obtain ⟨hroom, candidate, hc, rfl⟩ := h
    unfold StateV1.replayCommand at hc
    split at hc
    · cases hc
    · cases hc
      rename_i hfind
      exact .replay hd hm (by simpa using hack) hroom hfind

theorem planConflict_cases {dec : Decision} {generation fence : ℕ} (hd : call.delivery = some d)
    (hm : s.answer d = some false) (hgen : 0 < generation) (hfence : 0 < fence)
    (h : planConflict s d.commandId d.fingerprint generation fence d.now = .ok dec) :
    Decides pki retention s call dec := by
  unfold planConflict at h
  split at h
  · rename_i hknown
    cases h
    exact .conflicting hd hm hknown
  · rename_i hknown
    simp only [except_bind_ok, mapError_eq_ok, reserveOutbox_eq_ok, exists_const, Except.ok.injEq] at h
    obtain ⟨hroom, rfl⟩ := h
    exact .conflict hd hm (by simpa using hknown) hroom hgen hfence

theorem planRejection_cases {dec : Decision} {generation fence expiry : ℕ} {rejection : CommandRejection}
    (hd : call.delivery = some d) (hm : s.answer d = none) (hgen : 0 < generation) (hfence : 0 < fence)
    (hexpiry : expiry = d.now ∨ expiry = unsigned (observedAt d.now))
    (h : planRejection s expiry (rejectedCommand retention d.commandId d.fingerprint generation fence rejection
      d.now) = .ok dec) : Decides pki retention s call dec := by
  obtain ⟨hroom, hjournal, rfl⟩ := planRejection_eq_ok.1 h
  exact .reject hd hm hgen hfence hexpiry hroom hjournal

theorem planChange_eq_ok {change : StateV1 → Option StateV1} {error : AgentError} {dec : Decision} :
    planChange s change error = .ok dec ↔ ∃ s', change s = some s' ∧ .store s' .done = dec := by
  unfold planChange; split <;> simp_all

/-- **The decisions of the operations**, in a consistent state. -/
theorem plan_cases (hs : s.Consistent) {dec : Decision} (h : plan pki retention s call = .ok dec) :
    Decides pki retention s call dec := by
  cases call with
  | applyCommand topic command now catalog =>
    simp only [plan] at h
    rcases hm : s.commandMatch command.commandId.expose (commandFingerprint command) now with _ | _ | _ <;>
      rw [hm] at h <;> dsimp only at h
    · unfold planEvaluate at h
      split at h
      · cases h
      rename_i hflight
      obtain ⟨identity, hid, h⟩ := except_bind_ok.1 h
      rw [mapError_eq_ok] at hid
      -- the seven rejections leave by one lemma, the commit is what remains
      have hreject : ∀ {rejection}, planRejection s (unsigned (observedAt now)) (rejectedCommand retention
          command.commandId.expose (commandFingerprint command) command.desiredGeneration.1 command.fenceEpoch.1
          rejection now) = .ok dec → Decides pki retention s (.applyCommand topic command now catalog) dec :=
        fun h => planRejection_cases (d := ⟨_, _, now⟩) rfl hm command.desiredGeneration.2.1
          command.fenceEpoch.2.1 (.inr rfl) h
      rcases hres : catalog.resolve pki identity command now with error | artifact <;> rw [hres] at h <;>
        dsimp only at h
      · split_ifs at h
        · exact hreject h
        · exact hreject h
        · exact hreject h
      split_ifs at h with h1 h2 h3 h4 h5
      · exact hreject h
      · exact hreject h
      · exact hreject h
      · exact hreject h
      · exact hreject h
      simp only [planCommit, except_bind_ok, mapError_eq_ok, reserveOutbox_eq_ok, reserveCommandJournal_eq_ok,
        nextRevision_eq_ok, exists_const, Except.ok.injEq] at h
      obtain ⟨hroom, hjournal, revision, hrev, rfl⟩ := h
      rw [not_or, not_not, not_not] at h1
      rw [not_or] at h5
      exact .accept hm (by simpa using hflight) hid h1.1 h1.2 (not_le.1 h2) hres (not_lt.1 h3)
        (lt_of_le_of_ne (not_lt.1 h4) (Ne.symm h5.1)) (not_le.1 h5.2) hroom hjournal hrev
    · exact planConflict_cases (d := ⟨_, _, now⟩) rfl hm command.desiredGeneration.2.1 command.fenceEpoch.2.1 h
    · exact planReplay_cases (d := ⟨_, _, now⟩) rfl hm h
  | rejectMalformedDelivery topic commandId payload now =>
    simp only [plan] at h
    obtain ⟨identity, hid, h⟩ := except_bind_ok.1 h
    split at h
    · cases h
    rcases hm : s.commandMatch commandId (malformedFingerprint topic commandId payload) now with _ | _ | _ <;>
      rw [hm] at h <;> dsimp only at h
    · exact planRejection_cases (d := ⟨_, _, now⟩) rfl hm hs.desiredGeneration_pos hs.fenceEpoch_pos (.inl rfl) h
    · exact planConflict_cases (d := ⟨_, _, now⟩) rfl hm hs.desiredGeneration_pos hs.fenceEpoch_pos h
    · exact planReplay_cases (d := ⟨_, _, now⟩) rfl hm h
  | confirmOutbound event =>
    rw [plan, planChange_eq_ok] at h
    obtain ⟨s', hs', rfl⟩ := h
    exact .confirm hs'
  | markCurrentCredentialConnected revision =>
    rw [plan, planChange_eq_ok] at h
    obtain ⟨s', hs', rfl⟩ := h
    exact .reconnect hs'
  | markPendingInboundSettled token =>
    rw [plan, planChange_eq_ok] at h
    obtain ⟨s', hs', rfl⟩ := h
    exact .settled hs'
  | markPendingInboundAbsent =>
    rw [plan, planChange_eq_ok] at h
    obtain ⟨s', hs', rfl⟩ := h
    exact .absent hs'

end

end RssIncubator.Agent
