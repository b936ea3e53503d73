import Mathlib.Data.List.Nodup
import RssIncubator.Agent.Device

/-!
# What holds of every reachable document

`Coherent` adds to the checks of the source what they do not check but every operation keeps: which
acknowledgements there are, that a report belongs to the pending delivery, that an outstanding
acknowledgement is the journalled one, and that a sequence number names one fact.

One lemma a transition, then every run: memory and disk are coherent at all times, whatever fails.
-/

namespace RssIncubator.Agent

open Lib

/-- An acknowledgement of a command itself. -/
def StoredAck.Ordinary (a : StoredAck) : Prop := a.eventCause = a.commandId

/-- The rejection of a payload that conflicts with a journalled command. -/
def StoredAck.Conflicting (a : StoredAck) : Prop :=
  ∃ fingerprint, validDigest fingerprint ∧ a.eventCause = conflictSource a.commandId fingerprint ∧
    a.rejection = some .malformedCommand

instance (a : StoredAck) : Decidable a.Ordinary := inferInstanceAs (Decidable (_ = _))

theorem conflictSource_ne (commandId fingerprint : String) : conflictSource commandId fingerprint ≠ commandId := by
  intro h
  have := congrArg (fun s => s.toList.length) h
  simp [conflictSource, String.toList_append] at this

theorem StoredAck.Conflicting.not_ordinary {a : StoredAck} (h : a.Conflicting) : ¬ a.Ordinary := by
  obtain ⟨fp, -, hc, -⟩ := h
  intro ho
  exact conflictSource_ne _ _ (hc.symm.trans ho)

namespace StoredOutbound

theorem mem_ackPayload {o : StoredOutbound} {a : StoredAck} : a ∈ o.ackPayload ↔ ∃ e, o = .ack e a := by
  cases o <;> simp [ackPayload]

end StoredOutbound

namespace StateV1

open StoredOutbound

@[simp] theorem unblock_eventId (o : StoredOutbound) : (unblock o).eventId = o.eventId := by cases o <;> rfl
@[simp] theorem unblock_sequence (o : StoredOutbound) : (unblock o).sequence = o.sequence := by cases o <;> rfl
@[simp] theorem unblock_ackPayload (o : StoredOutbound) : (unblock o).ackPayload = o.ackPayload := by cases o <;> rfl
@[simp] theorem unblock_reportPayload (o : StoredOutbound) : (unblock o).reportPayload = o.reportPayload := by
  cases o <;> rfl

/-- What holds of every document the agent ever has in memory or on disk. -/
structure Coherent (s : StateV1) : Prop where
  consistent : s.Consistent
  /-- An acknowledgement is that of a command or of a conflicting payload. -/
  acks : ∀ o ∈ s.outbox, ∀ a ∈ o.ackPayload, a.Ordinary ∨ a.Conflicting
  /-- The journal holds acknowledgements of commands. -/
  causes : ∀ c ∈ s.commandJournal, c.acknowledgement.Ordinary
  /-- A report is that of the pending delivery, under the credential it installed. -/
  report : ∀ o ∈ s.outbox, ∀ r ∈ o.reportPayload, r.credentialGeneration = s.identity.credentialGeneration ∧
    ∃ p ∈ s.pendingInbound, p.commandId = r.commandId
  /-- An outstanding acknowledgement of a journalled command is the journalled one. -/
  agree : ∀ o ∈ s.outbox, ∀ a ∈ o.ackPayload, a.Ordinary → ∀ c ∈ s.commandJournal, c.commandId = a.commandId →
    a.toFact = c.acknowledgement.toFact
  sequence_le : s.deviceSequence ≤ u64Max
  journalled : ∀ c ∈ s.commandJournal, c.acknowledgement.deviceSequence ≤ s.deviceSequence
  /-- Below the saturation point a journalled sequence number belongs to one command, -/
  distinct : ∀ c ∈ s.commandJournal, ∀ c' ∈ s.commandJournal,
    c.acknowledgement.deviceSequence = c'.acknowledgement.deviceSequence →
    c.acknowledgement.deviceSequence < u64Max → c.commandId = c'.commandId
  /-- and in the outbox to the acknowledgement of that command. -/
  owner : ∀ o ∈ s.outbox, ∀ c ∈ s.commandJournal, o.sequence = c.acknowledgement.deviceSequence →
    o.sequence < u64Max → ∃ a ∈ o.ackPayload, a.Ordinary ∧ a.commandId = c.commandId
  /-- The sequence number of the pending command is below that point. -/
  pendingSequence : ∀ p ∈ s.pendingInbound, ∀ c ∈ s.commandJournal, c.commandId = p.commandId →
    c.acknowledgement.deviceSequence < u64Max

theorem coherent_initial (identity : DeviceIdentity) (desiredGeneration fenceEpoch revision : NonZeroU64)
    (digest : Sha256Digest) (expiresAt : ℤ) :
    (initial identity desiredGeneration fenceEpoch revision digest expiresAt).Coherent := by
  refine ⟨consistent_initial .., ?_, ?_, ?_, ?_, ?_, ?_, ?_, ?_, ?_⟩ <;> simp [initial]

variable {s s' : StateV1}

/-! ### Facts about the checks -/

/-- The event identity of an outstanding acknowledgement. -/
theorem Consistent.ack_eventId (h : s.Consistent) {o : StoredOutbound} (ho : o ∈ s.outbox) {a : StoredAck}
    (ha : a ∈ o.ackPayload) : o.eventId = ackEvent a ∧ a.SemanticValid := by
  obtain ⟨e, rfl⟩ := mem_ackPayload.1 ha
  exact (h.entries _ ho).semantic

theorem ackEvent_ordinary {a : StoredAck} (h : a.Ordinary) : ackEvent a = Agent.eventId .ack a.commandId := by
  have h' : a.eventCause = a.commandId := h
  rw [ackEvent, if_pos h', h']

theorem ackEvent_conflicting {a : StoredAck} (h : ¬ a.Ordinary) : ackEvent a = Agent.eventId .rejected a.eventCause := by
  have h' : ¬ a.eventCause = a.commandId := h
  rw [ackEvent, if_neg h']

/-- A journal entry is determined by its command. -/
theorem Consistent.journal_unique (h : s.Consistent) {c c' : StoredCommand} (hc : c ∈ s.commandJournal)
    (hc' : c' ∈ s.commandJournal) (hid : c.commandId = c'.commandId) : c = c' :=
  List.inj_on_of_nodup_map h.commandIds hc hc' hid

/-- An outbox entry is determined by its event. -/
theorem Consistent.outbox_unique (h : s.Consistent) {o o' : StoredOutbound} (ho : o ∈ s.outbox)
    (ho' : o' ∈ s.outbox) (hid : o.eventId = o'.eventId) : o = o' :=
  List.inj_on_of_nodup_map h.eventIds ho ho' hid

/-- Keys stay distinct exactly when the new one is new. -/
theorem nodup_map_concat {α β : Type} {f : α → β} {l : List α} {b : α} :
    ((l ++ [b]).map f).Nodup ↔ (l.map f).Nodup ∧ ∀ a ∈ l, f a ≠ f b := by
  rw [List.map_append, List.nodup_append, List.map_singleton]
  constructor
  · rintro ⟨hl, -, hne⟩
    exact ⟨hl, fun a ha => hne _ (List.mem_map_of_mem ha) _ (by simp)⟩
  · rintro ⟨hl, hne⟩
    refine ⟨hl, List.nodup_singleton _, fun x hx y hy => ?_⟩
    obtain ⟨a, ha, rfl⟩ := List.mem_map.1 hx
    rw [List.mem_singleton.1 hy]
    exact hne a ha

theorem mem_expire {now : ℕ} {c : StoredCommand} : c ∈ (s.expireCommandJournal now).commandJournal ↔
    c ∈ s.commandJournal ∧ (now < c.retainUntilEpochSeconds ∨
      ∃ p ∈ s.pendingInbound, p.commandId = c.commandId) := by
  simp [expireCommandJournal, List.mem_filter]

/-- A fresh sequence number is above all earlier ones, short of the saturation point. -/
theorem fresh_sequence {n d : ℕ} (hn : n ≤ d) (hlt : saturatingAdd d 1 < u64Max) : n < saturatingAdd d 1 := by
  unfold saturatingAdd at *; omega

theorem le_saturatingAdd_one {d n : ℕ} (h : n ≤ d) (hd : d ≤ u64Max) : n ≤ saturatingAdd d 1 := by
  unfold saturatingAdd; omega

/-! ### One lemma a transition -/

/-- Fewer entries, none of them new: confirming, reconnecting, settling. -/
theorem Coherent.of_fewer (h : s.Coherent) (hc : s'.Consistent)
    (hout : ∀ o' ∈ s'.outbox, ∃ o ∈ s.outbox, o' = o ∨ o' = unblock o)
    (hjournal : s'.commandJournal = s.commandJournal) (hseq : s'.deviceSequence = s.deviceSequence)
    (hpend : ∀ p' ∈ s'.pendingInbound, ∃ p ∈ s.pendingInbound, p.commandId = p'.commandId)
    (hrep : ∀ o ∈ s'.outbox, ∀ r ∈ o.reportPayload, r.credentialGeneration = s'.identity.credentialGeneration ∧
      ∃ p ∈ s'.pendingInbound, p.commandId = r.commandId) : s'.Coherent := by
  -- every entry has the payloads and the sequence of an old one
  have hold : ∀ o' ∈ s'.outbox, ∃ o ∈ s.outbox, o'.ackPayload = o.ackPayload ∧ o'.sequence = o.sequence := by
    intro o' ho'
    obtain ⟨o, ho, rfl | rfl⟩ := hout o' ho'
    · exact ⟨_, ho, rfl, rfl⟩
    · exact ⟨o, ho, by simp⟩
  refine ⟨hc, ?_, ?_, hrep, ?_, hseq ▸ h.sequence_le, ?_, ?_, ?_, ?_⟩
  · intro o' ho' a ha
    obtain ⟨o, ho, he, -⟩ := hold o' ho'
    exact h.acks o ho a (he ▸ ha)
  · rw [hjournal]; exact h.causes
  · intro o' ho' a ha hord c hcm hid
    obtain ⟨o, ho, he, -⟩ := hold o' ho'
    exact h.agree o ho a (he ▸ ha) hord c (hjournal ▸ hcm) hid
  · rw [hjournal, hseq]; exact h.journalled
  · rw [hjournal]; exact h.distinct
  · intro o' ho' c hcm he hlt
    obtain ⟨o, ho, hea, hes⟩ := hold o' ho'
    rw [hea]
    exact h.owner o ho c (hjournal ▸ hcm) (hes ▸ he) (hes ▸ hlt)
  · intro p' hp' c hcm hid
    obtain ⟨p, hp, hpid⟩ := hpend p' hp'
    exact h.pendingSequence p hp c (hjournal ▸ hcm) (hid.trans hpid.symm)

@[simp] theorem replayed_toFact (a : StoredAck) : a.replayed.toFact = a.toFact := by
  unfold StoredAck.replayed; split <;> rfl

theorem replayed_ordinary {a : StoredAck} (h : a.Ordinary) : a.replayed.Ordinary := by
  unfold StoredAck.replayed; split <;> exact h

@[simp] theorem replayed_sequence (a : StoredAck) : a.replayed.deviceSequence = a.deviceSequence := by
  unfold StoredAck.replayed; split <;> rfl

@[simp] theorem replayed_commandId (a : StoredAck) : a.replayed.commandId = a.commandId := by
  unfold StoredAck.replayed; split <;> rfl

theorem Coherent.replayed (h : s.Coherent) {c : StoredCommand} (hmem : c ∈ s.commandJournal)
    (hc : (s.replayed c).Consistent) : (s.replayed c).Coherent := by
  have hcid : c.commandId = c.acknowledgement.commandId := (h.consistent.commands c hmem).1
  have hout : ∀ o ∈ (s.replayed c).outbox, o ∈ s.outbox ∨
      o = .ack (Agent.eventId .ack c.commandId) c.acknowledgement.replayed := by
    intro o ho; simpa [StateV1.replayed] using ho
  refine ⟨hc, ?_, h.causes, ?_, ?_, h.sequence_le, h.journalled, h.distinct, ?_, h.pendingSequence⟩
  · intro o ho a ha
    rcases hout o ho with ho | rfl
    · exact h.acks o ho a ha
    · simp only [ackPayload, Option.mem_def, Option.some.injEq] at ha
      exact .inl (ha ▸ replayed_ordinary (h.causes c hmem))
  · intro o ho r hr
    rcases hout o ho with ho | rfl
    · exact h.report o ho r hr
    · simp [reportPayload] at hr
  · intro o ho a ha hord c' hc' hid
    rcases hout o ho with ho | rfl
    · exact h.agree o ho a ha hord c' hc' hid
    · simp only [ackPayload, Option.mem_def, Option.some.injEq] at ha
      subst ha
      rw [replayed_commandId, ← hcid] at hid
      rw [h.consistent.journal_unique hc' hmem hid, replayed_toFact]
  · intro o ho c' hc' he hlt
    rcases hout o ho with ho | rfl
    · exact h.owner o ho c' hc' he hlt
    · simp only [StoredOutbound.sequence, replayed_sequence] at he hlt
      exact ⟨_, rfl, replayed_ordinary (h.causes c hmem), by
        rw [replayed_commandId, ← hcid]; exact h.distinct c hmem c' hc' he hlt⟩

theorem Coherent.conflict (h : s.Coherent) {commandId fingerprint : String} {generation fence : ℕ} {observedAt : ℤ}
    (hfp : validDigest fingerprint)
    (hc : (s.rejectConflictingReplay commandId fingerprint generation fence observedAt).Consistent) :
    (s.rejectConflictingReplay commandId fingerprint generation fence observedAt).Coherent := by
  set new := conflictAck commandId fingerprint generation fence (saturatingAdd s.deviceSequence 1) observedAt with hnew
  have hconf : new.Conflicting := ⟨fingerprint, hfp, rfl, rfl⟩
  have hout : ∀ o ∈ (s.rejectConflictingReplay commandId fingerprint generation fence observedAt).outbox, o ∈ s.outbox ∨
      o = .ack (Agent.eventId .rejected (conflictSource commandId fingerprint)) new := by
    intro o ho; simpa [rejectConflictingReplay] using ho
  have hfresh : ∀ c ∈ s.commandJournal, saturatingAdd s.deviceSequence 1 < u64Max →
      c.acknowledgement.deviceSequence < saturatingAdd s.deviceSequence 1 := fun c hcm hlt =>
    fresh_sequence (h.journalled c hcm) hlt
  refine ⟨hc, ?_, h.causes, ?_, ?_, saturatingAdd_le _ _, ?_, h.distinct, ?_, h.pendingSequence⟩
  · intro o ho a ha
    rcases hout o ho with ho | rfl
    · exact h.acks o ho a ha
    · simp only [ackPayload, Option.mem_def, Option.some.injEq] at ha
      exact .inr (ha ▸ hconf)
  · intro o ho r hr
    rcases hout o ho with ho | rfl
    · exact h.report o ho r hr
    · simp [reportPayload] at hr
  · intro o ho a ha hord c hcm hid
    rcases hout o ho with ho | rfl
    · exact h.agree o ho a ha hord c hcm hid
    · simp only [ackPayload, Option.mem_def, Option.some.injEq] at ha
      exact absurd (ha ▸ hord) hconf.not_ordinary
  · exact fun c hcm => le_saturatingAdd_one (h.journalled c hcm) h.sequence_le
  · intro o ho c hcm he hlt
    rcases hout o ho with ho | rfl
    · exact h.owner o ho c hcm he hlt
    · have := hfresh c hcm hlt
      change saturatingAdd s.deviceSequence 1 = _ at he
      omega

/-- A command enters the journal and its acknowledgement the outbox: rejections and acceptances. -/
theorem Coherent.admit (h : s.Coherent) (hc : s'.Consistent) (entry : StoredCommand) (tail : List StoredOutbound)
    {now : ℕ} (hjournal : s'.commandJournal = (s.expireCommandJournal now).commandJournal ++ [entry])
    (hout : s'.outbox = s.outbox ++ .ack (Agent.eventId .ack entry.commandId) entry.acknowledgement :: tail)
    (htail : ∀ o ∈ tail, o.ackPayload = none ∧ o.sequence = saturatingAdd (saturatingAdd s.deviceSequence 1) 1)
    (hord : entry.acknowledgement.Ordinary)
    (hseq : entry.acknowledgement.deviceSequence = saturatingAdd s.deviceSequence 1)
    (hdev : saturatingAdd s.deviceSequence 1 ≤ s'.deviceSequence ∧ s'.deviceSequence ≤ u64Max)
    (hpend : ∀ p ∈ s'.pendingInbound, p ∈ s.pendingInbound ∨
      p.commandId = entry.commandId ∧ saturatingAdd s.deviceSequence 1 < u64Max)
    (hrep : ∀ o ∈ s'.outbox, ∀ r ∈ o.reportPayload, r.credentialGeneration = s'.identity.credentialGeneration ∧
      ∃ p ∈ s'.pendingInbound, p.commandId = r.commandId) : s'.Coherent := by
  have hentry : entry ∈ s'.commandJournal := by rw [hjournal]; simp
  have hid : entry.commandId = entry.acknowledgement.commandId := (hc.commands entry hentry).1
  have hj : ∀ c ∈ s'.commandJournal, c ∈ s.commandJournal ∨ c = entry := fun c hcm => by
    rw [hjournal, List.mem_append, List.mem_singleton] at hcm
    exact hcm.imp_left fun h => (mem_expire.1 h).1
  have ho : ∀ o ∈ s'.outbox, o ∈ s.outbox ∨ o = .ack (Agent.eventId .ack entry.commandId) entry.acknowledgement ∨
      o ∈ tail := fun o hom => by
    rw [hout] at hom; simpa using hom
  have hack : .ack (Agent.eventId .ack entry.commandId) entry.acknowledgement ∈ s'.outbox := by rw [hout]; simp
  have hnotin : .ack (Agent.eventId .ack entry.commandId) entry.acknowledgement ∉ s.outbox := by
    intro hmem
    have hnd := hc.eventIds
    rw [hout, List.map_append, List.nodup_append] at hnd
    exact hnd.2.2 _ (List.mem_map.2 ⟨_, hmem, rfl⟩) _ (by simp) rfl
  have hold : ∀ o ∈ s.outbox, o ∈ s'.outbox := fun o hom => by rw [hout]; simp [hom]
  -- no earlier acknowledgement of the command is outstanding: its event would be there twice
  have hnoack : ∀ o ∈ s.outbox, ∀ a ∈ o.ackPayload, a.Ordinary → a.commandId ≠ entry.commandId := by
    intro o hom a ha hoa he
    have hev : o.eventId = Agent.eventId .ack entry.commandId := by
      rw [(h.consistent.ack_eventId hom ha).1, ackEvent_ordinary hoa, he]
    exact hnotin ((hc.outbox_unique (hold o hom) hack hev) ▸ hom)
  have hfresh : ∀ {n : ℕ}, n ≤ s.deviceSequence → saturatingAdd s.deviceSequence 1 < u64Max →
      n < saturatingAdd s.deviceSequence 1 := fun hn hlt => fresh_sequence hn hlt
  refine ⟨hc, ?_, ?_, hrep, ?_, hdev.2, ?_, ?_, ?_, ?_⟩
  · intro o hom a ha
    rcases ho o hom with hom | rfl | hom
    · exact h.acks o hom a ha
    · simp only [ackPayload, Option.mem_def, Option.some.injEq] at ha
      exact .inl (ha ▸ hord)
    · rw [(htail o hom).1] at ha; cases ha
  · intro c hcm
    rcases hj c hcm with hcm | rfl
    · exact h.causes c hcm
    · exact hord
  · intro o hom a ha hoa c hcm he
    rcases ho o hom with hom | rfl | hom
    · rcases hj c hcm with hcm | rfl
      · exact h.agree o hom a ha hoa c hcm he
      · exact absurd he.symm (hnoack o hom a ha hoa)
    · simp only [ackPayload, Option.mem_def, Option.some.injEq] at ha
      subst ha
      rw [hc.journal_unique hcm hentry (he.trans hid.symm)]
    · rw [(htail o hom).1] at ha; cases ha
  · intro c hcm
    rcases hj c hcm with hcm | rfl
    · exact (le_saturatingAdd_one (h.journalled c hcm) h.sequence_le).trans hdev.1
    · rw [hseq]; exact hdev.1
  · intro c hcm c' hcm' he hlt
    rcases hj c hcm with hcm | rfl <;> rcases hj c' hcm' with hcm' | rfl
    · exact h.distinct c hcm c' hcm' he hlt
    · rw [hseq] at he
      have := hfresh (h.journalled c hcm) (he ▸ hlt)
      omega
    · rw [hseq] at he hlt
      have := hfresh (h.journalled c' hcm') hlt
      omega
    · rfl
  · intro o hom c hcm he hlt
    rcases ho o hom with hom | rfl | hom
    · rcases hj c hcm with hcm | rfl
      · exact h.owner o hom c hcm he hlt
      · rw [hseq] at he
        have := hfresh (h.consistent.entries o hom).sequence_le (he ▸ hlt)
        omega
    · simp only [StoredOutbound.sequence] at he hlt
      rcases hj c hcm with hcm | rfl
      · rw [hseq] at he hlt
        have := hfresh (h.journalled c hcm) hlt
        omega
      · exact ⟨_, rfl, hord, hid.symm⟩
    · rw [(htail o hom).2] at he hlt
      have h1 : saturatingAdd s.deviceSequence 1 < saturatingAdd (saturatingAdd s.deviceSequence 1) 1 :=
        fresh_sequence le_rfl hlt
      rcases hj c hcm with hcm | rfl
      · have := hfresh (h.journalled c hcm) (h1.trans hlt)
        omega
      · omega
  · intro p hp c hcm hpid
    rcases hpend p hp with hp' | ⟨heq, hlt⟩
    · -- the entry of the pending command is the one it had before
      obtain ⟨-, -, -, -, -, -, -, -, e, he, heid, -⟩ := h.consistent.pending p hp'
      have hkept : e ∈ s'.commandJournal := by
        rw [hjournal]
        exact List.mem_append_left _ (List.mem_filter.2 ⟨he, by simp [Option.mem_def.1 hp', heid]⟩)
      rw [hc.journal_unique hcm hkept (hpid.trans heid.symm)]
      exact h.pendingSequence p hp' e he heid
    · rw [hc.journal_unique hcm hentry (hpid.trans heq), hseq]
      exact hlt

/-! ### All transitions -/

theorem reports_pos {o : StoredOutbound} (ho : o ∈ s.outbox) {r : StoredReport} (hr : r ∈ o.reportPayload) :
    0 < s.reports := by
  refine List.countP_pos_iff.2 ⟨o, ho, ?_⟩
  rw [Option.mem_def.1 hr]
  rfl

theorem rotationInFlight_eq_false : s.rotationInFlight = false ↔ ∀ o ∈ s.outbox, o.reportPayload = none := by
  simp [rotationInFlight]

theorem reports_eq_zero : s.reports = 0 ↔ ∀ o ∈ s.outbox, o.reportPayload = none := by
  simp [reports, List.countP_eq_zero]

theorem Coherent.reject (h : s.Coherent) {c : RejectedCommand} {now : ℕ}
    (hc : ((s.expireCommandJournal now).reject c).Consistent) : ((s.expireCommandJournal now).reject c).Coherent := by
  refine h.admit hc ⟨c.commandId, c.fingerprint, c.acknowledgement (saturatingAdd s.deviceSequence 1),
    c.retainUntilEpochSeconds⟩ [] rfl rfl (fun o ho => (by cases ho)) rfl rfl ⟨le_rfl, saturatingAdd_le _ _⟩
    (fun p hp => .inl hp) ?_
  intro o ho r hr
  have ho' : o ∈ s.outbox ∨ o = .ack (Agent.eventId .ack c.commandId)
      (c.acknowledgement (saturatingAdd s.deviceSequence 1)) := by
    simpa [StateV1.reject, expireCommandJournal] using ho
  rcases ho' with ho' | rfl
  · exact h.report o ho' r hr
  · cases hr

theorem Coherent.accepted (h : s.Coherent) {c : AcceptedCommand} {previous : DeviceIdentity} {now : ℕ}
    (hflight : s.rotationInFlight = false) (hc : ((s.expireCommandJournal now).accepted previous c).Consistent) :
    ((s.expireCommandJournal now).accepted previous c).Coherent := by
  have hseq := saturatingAdd_le s.deviceSequence 1
  refine h.admit hc ⟨c.commandId, c.fingerprint, c.acknowledgement (saturatingAdd s.deviceSequence 1),
    c.retainUntilEpochSeconds⟩ [.reportBlocked (Agent.eventId .report c.commandId)
      (c.report s.identity (saturatingAdd (saturatingAdd s.deviceSequence 1) 1))] rfl rfl ?_ rfl rfl
    ⟨le_saturatingAdd_one le_rfl hseq, saturatingAdd_le _ _⟩ ?_ ?_
  · intro o ho
    rw [List.mem_singleton] at ho
    rw [ho]
    exact ⟨rfl, rfl⟩
  · intro p hp
    cases hp
    refine .inr ⟨rfl, ?_⟩
    -- the acknowledgement and the report have different sequence numbers
    have hnd := hc.sequences
    simp only [StateV1.accepted, List.map_append, List.map_cons, List.map_nil, StoredOutbound.sequence,
      AcceptedCommand.acknowledgement, AcceptedCommand.report] at hnd
    have hne := (List.nodup_cons.1 (List.nodup_append.1 hnd).2.1).1
    rw [List.mem_singleton] at hne
    change ¬ saturatingAdd s.deviceSequence 1 = saturatingAdd (saturatingAdd s.deviceSequence 1) 1 at hne
    unfold saturatingAdd u64Max at hne ⊢
    omega
  · intro o ho r hr
    have ho' : o ∈ s.outbox ∨ o = .ack (Agent.eventId .ack c.commandId)
        (c.acknowledgement (saturatingAdd s.deviceSequence 1)) ∨ o = .reportBlocked (Agent.eventId .report c.commandId)
        (c.report s.identity (saturatingAdd (saturatingAdd s.deviceSequence 1) 1)) := by
      simpa [StateV1.accepted, expireCommandJournal] using ho
    rcases ho' with ho' | rfl | rfl
    · -- no rotation was in flight, so the report is the new one
      rw [rotationInFlight_eq_false.1 hflight o ho'] at hr
      cases hr
    · cases hr
    · cases hr
      exact ⟨rfl, _, rfl, rfl⟩

/-- The document without a confirmed entry. -/
def confirmed (s : StateV1) (entry : StoredOutbound) : StateV1 :=
  let outbox := s.outbox.eraseP fun other => other.eventId = entry.eventId
  let activated := (entry.ackPayload.bind fun payload => payload.activatesRevision).filter
    fun revision => ∃ entry ∈ outbox, ∃ report ∈ entry.blockedPayload, report.credentialRevision = revision
  { s with
    outbox := outbox
    reconnectRevision := activated.or s.reconnectRevision
    pendingInbound := if entry.isReportReady then none else s.pendingInbound }

theorem confirmOutbound_eq_some {event : String} (h : s.confirmOutbound event = some s') :
    ∃ entry ∈ s.outbox, entry.eventId = event ∧ (entry.isReportReady = true → s.pendingSettled = true) ∧
      s' = s.confirmed entry := by
  unfold confirmOutbound at h
  split at h
  · cases h
  · rename_i entry hfind
    split at h
    · cases h
    · rename_i hready
      cases h
      have hevent : entry.eventId = event := by simpa using List.find?_some hfind
      refine ⟨entry, List.mem_of_find?_eq_some hfind, hevent, ?_, ?_⟩
      · intro hr
        by_contra hp
        exact hready ⟨hr, hp⟩
      · rw [← hevent]
        rfl

theorem Coherent.confirm (h : s.Coherent) {event : String} (hs : s.confirmOutbound event = some s')
    (hc : s'.Consistent) : s'.Coherent := by
  obtain ⟨entry, -, -, -, rfl⟩ := confirmOutbound_eq_some hs
  refine h.of_fewer hc (fun o ho => ⟨o, List.mem_of_mem_eraseP ho, .inl rfl⟩) rfl rfl ?_ ?_
  · intro p hp
    unfold confirmed at hp
    dsimp only at hp
    split_ifs at hp
    · cases hp
    · exact ⟨p, hp, rfl⟩
  intro o ho r hr
  obtain ⟨hgen, hp⟩ := h.report o (List.mem_of_mem_eraseP ho) r hr
  refine ⟨hgen, ?_⟩
  -- a report that stays keeps its pending delivery
  have hone : StateV1.reports _ = 1 := le_antisymm hc.reports_le (reports_pos ho hr)
  have hsome := hc.pending_iff.2 hone
  unfold confirmed at hsome ⊢
  by_cases hready : entry.isReportReady = true
  · rw [if_pos hready] at hsome
    cases hsome
  · rw [if_neg hready]
    exact hp

theorem markReconnected_eq_some {revision : ℕ} : s.markReconnected revision = some s' ↔
    s.reconnectRevision = some revision ∧ s' = { s with outbox := s.outbox.map unblock, reconnectRevision := none } := by
  unfold markReconnected
  split <;> simp_all [eq_comm]

theorem markInboundSettled_eq_some {token : Option String} (h : s.markInboundSettled token = some s') :
    ∃ p, s.pendingInbound = some p ∧ (∀ t ∈ token, t = p.settlementToken) ∧
      s' = { s with pendingInbound := some { p with settled := true } } := by
  unfold markInboundSettled at h
  split at h
  · cases h
  · rename_i p hp
    split at h
    · cases h
    · rename_i ht
      cases h
      refine ⟨p, hp, ?_, rfl⟩
      intro t htok
      rw [Option.mem_def.1 htok] at ht
      simpa using ht

theorem Coherent.reconnect (h : s.Coherent) {revision : ℕ} (hs : s.markReconnected revision = some s')
    (hc : s'.Consistent) : s'.Coherent := by
  obtain ⟨-, rfl⟩ := markReconnected_eq_some.1 hs
  have hmem : ∀ o' ∈ s.outbox.map unblock, ∃ o ∈ s.outbox, o' = unblock o := by
    intro o' ho'
    obtain ⟨o, ho, rfl⟩ := List.mem_map.1 ho'
    exact ⟨o, ho, rfl⟩
  refine h.of_fewer hc (fun o' ho' => (hmem o' ho').imp fun o ho => ⟨ho.1, .inr ho.2⟩) rfl rfl
    (fun p hp => ⟨p, hp, rfl⟩) ?_
  intro o' ho' r hr
  obtain ⟨o, ho, rfl⟩ := hmem o' ho'
  rw [unblock_reportPayload] at hr
  exact h.report o ho r hr

theorem Coherent.settle (h : s.Coherent) {token : Option String} (hs : s.markInboundSettled token = some s')
    (hc : s'.Consistent) : s'.Coherent := by
  obtain ⟨p, hp, -, rfl⟩ := markInboundSettled_eq_some hs
  refine h.of_fewer hc (fun o ho => ⟨o, ho, .inl rfl⟩) rfl rfl ?_ ?_
  · intro p' hp'
    cases hp'
    exact ⟨p, hp, rfl⟩
  intro o ho r hr
  obtain ⟨hgen, p', hp', hid⟩ := h.report o ho r hr
  rw [hp, Option.mem_def, Option.some.injEq] at hp'
  exact ⟨hgen, _, rfl, hp' ▸ hid⟩

end StateV1

open StateV1

/-- **Every candidate that passes the checks is coherent.** -/
theorem Decides.coherent {pki : Pki} {retention : NonZeroU32} {s c : StateV1} {call : Call} {dec : Decision}
    {reply : Reply} (h : Decides pki retention s call dec) (hs : s.Coherent) (hc : dec.candidate = some (c, reply))
    (hv : c.validate = .ok ()) : c.Coherent := by
  have hcons := (validate_eq_ok.1 hv).1
  cases h with
  | duplicate hd hm hack => cases hc
  | replay hd hm hack hroom hfind =>
    cases hc
    exact hs.replayed (List.mem_of_find?_eq_some hfind) hcons
  | conflicting hd hm hknown => cases hc
  | conflict hd hm hknown hroom hgen hfence =>
    cases hc
    exact hs.conflict (Call.delivery_valid hd) hcons
  | reject hd hm hgen hfence hexpiry hroom hjournal =>
    cases hc
    exact hs.reject hcons
  | accept hm hflight hid htopic hdevice hdeadline hres hfence hgen hcred hroom hjournal hrev =>
    cases hc
    exact hs.accepted hflight hcons
  | confirm h =>
    cases hc
    exact hs.confirm h hcons
  | reconnect h =>
    cases hc
    exact hs.reconnect h hcons
  | settled h =>
    cases hc
    exact hs.settle h hcons
  | absent h =>
    cases hc
    exact hs.settle h hcons

end RssIncubator.Agent
