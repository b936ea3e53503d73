import RssIncubator.Agent.Phase

/-!
# The candidates pass the checks

Every candidate an operation builds from a coherent document passes `validate`, with two exceptions: a
command that is admitted anew while an acknowledgement of it is outstanding, and one that is admitted anew
while its own delivery is pending.  In both cases the entry of the journal that would have answered the
delivery has run out before the rest of the command has.
-/

namespace RssIncubator.Agent

open Lib StoredOutbound

/-- The event an entry of the outbox is about. -/
def StoredOutbound.event : StoredOutbound → Event
  | .ack _ payload => (if payload.eventCause = payload.commandId then .ack else .rejected, payload.eventCause)
  | .reportBlocked _ payload | .reportReady _ payload => (.report, payload.commandId)

/-- The kind of an event can be read off its identity. -/
theorem eventId_kind {k k' : EventKind} {c c' : String} (h : eventId k c = eventId k' c') : k = k' := by
  have hu := congrArg utf8 h
  simp only [eventId, utf8_append "reference-", utf8_append _ "-", utf8_append _ (hex _)] at hu
  have hlen : ∀ b : Bytes, (utf8 (hex (sha256 b))).length = 64 := fun b => by
    rw [(utf8_hex _).1, sha256_length]
  obtain ⟨hkind, -⟩ := List.append_inj' hu ((hlen _).trans (hlen _).symm)
  revert hkind
  cases k <;> cases k' <;> decide

namespace StateV1

variable {s : StateV1}

/-- The events of the outbox. -/
def events (s : StateV1) : List Event := s.outbox.map StoredOutbound.event

theorem mem_events {o : StoredOutbound} (ho : o ∈ s.outbox) : o.event ∈ s.events := List.mem_map_of_mem ho

theorem Consistent.eventId_eq (h : s.Consistent) {o : StoredOutbound} (ho : o ∈ s.outbox) :
    o.eventId = Agent.eventId o.event.1 o.event.2 := by
  have hsem := (h.entries o ho).semantic
  cases o with
  | ack e a => exact hsem.1
  | reportBlocked e r => exact hsem.1
  | reportReady e r => exact hsem.1

/-- An acknowledgement of the command itself is outstanding. -/
def AckOutstanding (s : StateV1) (commandId : String) : Prop :=
  ∃ o ∈ s.outbox, o.eventId = Agent.eventId .ack commandId

instance (s : StateV1) (commandId : String) : Decidable (s.AckOutstanding commandId) :=
  inferInstanceAs (Decidable (∃ o ∈ s.outbox, _))

/-- What stands under the event of an acknowledgement. -/
theorem Consistent.ackOutstanding_iff (h : s.Consistent) {commandId : String}
    (hd : EventsDistinct (s.events ++ [(.ack, commandId)])) :
    s.AckOutstanding commandId ↔ ∃ o ∈ s.outbox, ∃ a ∈ o.ackPayload, a.Ordinary ∧ a.commandId = commandId := by
  constructor
  · rintro ⟨o, ho, he⟩
    rw [h.eventId_eq ho] at he
    have hev := eventId_inj hd (List.mem_append_left _ (mem_events ho)) (by simp) he
    cases o with
    | ack e a =>
      obtain ⟨hk, hc⟩ := hev
      have hord : a.Ordinary := by
        by_contra hne
        have hne' : ¬ a.eventCause = a.commandId := hne
        simp [hne'] at hk
      have hcause : a.eventCause = a.commandId := hord
      exact ⟨_, ho, a, rfl, hord, hcause.symm.trans hc⟩
    | reportBlocked e r => cases hev.1
    | reportReady e r => cases hev.1
  · rintro ⟨o, ho, a, ha, hord, rfl⟩
    exact ⟨o, ho, by rw [(h.ack_eventId ho ha).1, ackEvent_ordinary hord]⟩

/-! ### One more acknowledgement -/

/-- An acknowledgement that activates nothing enters the outbox; the journal may change along with it. -/
theorem Consistent.push (h : s.Consistent) {n : ℕ} {journal : List StoredCommand} {e : String} {a : StoredAck}
    (hn : s.deviceSequence ≤ n) (hlen : journal.length ≤ commandJournalLimit)
    (hids : (journal.map StoredCommand.commandId).Nodup) (hvalid : ∀ c ∈ journal, c.SemanticValid)
    (hpending : ∀ p ∈ s.pendingInbound, ∃ c ∈ journal, c.commandId = p.commandId ∧ c.fingerprint = p.fingerprint)
    (hroom : s.outbox.length + 1 ≤ outboxLimit) (hevent : ∀ o ∈ s.outbox, o.eventId ≠ e)
    (hseq : ∀ o ∈ s.outbox, o.sequence ≠ a.deviceSequence) (hle : a.deviceSequence ≤ n) (he : e = ackEvent a)
    (ha : a.SemanticValid) (hact : a.activatesRevision = none) :
    Consistent { s with deviceSequence := n, commandJournal := journal, outbox := s.outbox ++ [.ack e a] } := by
  set s' : StateV1 := { s with deviceSequence := n, commandJournal := journal, outbox := s.outbox ++ [.ack e a] } with hs'
  have hreports : s'.reports = s.reports := by simp [hs', reports, reportPayload]
  have hmem : ∀ {o}, o ∈ s'.outbox → o ∈ s.outbox ∨ o = .ack e a := fun {o} ho => by simpa [hs'] using ho
  -- the new entry is no acknowledgement a report waits for
  have hwaits : ∀ (revision : ℕ) (commandId : String), (∃ entry ∈ s'.outbox, ∃ ack ∈ entry.ackPayload,
      ack.activatesRevision = some revision ∧ ack.commandId = commandId) ↔
      ∃ entry ∈ s.outbox, ∃ ack ∈ entry.ackPayload, ack.activatesRevision = some revision ∧
        ack.commandId = commandId := by
    intro revision commandId
    constructor
    · rintro ⟨o, ho, ack, hack, h1, h2⟩
      rcases hmem ho with ho | rfl
      · exact ⟨o, ho, ack, hack, h1, h2⟩
      · cases hack
        rw [hact] at h1
        cases h1
    · rintro ⟨o, ho, hrest⟩
      exact ⟨o, List.mem_append_left _ ho, hrest⟩
  refine ⟨h.version, h.tenant_ne_nil, h.device_ne_nil, h.credentialGeneration, h.desiredGeneration_pos,
    h.fenceEpoch_pos, h.credentialRevision_pos, h.artifactDigest, ?_, hlen, nodup_map_concat.2 ⟨h.eventIds, hevent⟩,
    nodup_map_concat.2 ⟨h.sequences, hseq⟩, ?_, hids, hvalid, ?_, hreports ▸ h.reports_le, hreports ▸ h.pending_iff, ?_,
    hreports ▸ h.reconnect⟩
  · simpa [hs'] using hroom
  · intro o ho
    rcases hmem ho with ho | rfl
    · obtain ⟨h1, h2, h3, h4⟩ := h.entries o ho
      exact ⟨h1, h2.trans hn, h3, h4⟩
    · obtain ⟨-, -, -, -, hpos, -⟩ := id ha
      exact ⟨hpos, hle, ⟨he, ha⟩, fun r hr => (by cases hr)⟩
  · intro p hp
    obtain ⟨identity, h1, h2, h3, h4, h5, h6, h7, -⟩ := h.pending p hp
    exact ⟨identity, h1, h2, h3, h4, h5, h6, h7, hpending p hp⟩
  · intro o ho
    rcases hmem ho with ho | rfl
    · have hphase := h.phases o ho
      cases o with
      | ack e' a' =>
        intro revision hrev
        obtain ⟨h1, ⟨o', ho', hrest⟩, h3⟩ := hphase revision hrev
        exact ⟨h1, ⟨o', List.mem_append_left _ ho', hrest⟩, h3⟩
      | reportBlocked e' r =>
        obtain ⟨h1, h2⟩ := hphase
        refine ⟨?_, h2⟩
        rw [hwaits]
        exact h1
      | reportReady e' r => exact hphase
    · intro revision hrev
      rw [hact] at hrev
      cases hrev

/-! ### Replays and conflicts -/

theorem hasCommandAck_eq_false {commandId : String} : s.hasCommandAck commandId = false ↔
    ∀ o ∈ s.outbox, ∀ a ∈ o.ackPayload, a.commandId ≠ commandId := by
  rw [hasCommandAck, List.any_eq_false]
  refine forall₂_congr fun o _ => ?_
  cases o <;> simp [ackPayload]

theorem hasConflictingReplay_eq_false {commandId fingerprint : String} :
    s.hasConflictingReplay commandId fingerprint = false ↔
      ∀ o ∈ s.outbox, o.eventId ≠ Agent.eventId .rejected (conflictSource commandId fingerprint) := by
  simp [hasConflictingReplay]

/-- The replayed acknowledgement has the shape of a replay or of a rejection. -/
theorem semanticValid_replayed {a : StoredAck} (h : a.SemanticValid) :
    a.replayed.SemanticValid ∧ a.replayed.activatesRevision = none := by
  obtain ⟨h1, h2, h3, h4, h5, h6, h7, hshape⟩ := h
  unfold StoredAck.replayed
  by_cases hr : a.rejection = none
  · rw [if_pos hr]
    refine ⟨⟨h1, h2, h3, h4, h5, h6, fun n hn => (by cases hn), ?_⟩, rfl⟩
    simp [StoredAck.Shape, hr]
  · rw [if_neg hr]
    obtain ⟨reason, hr⟩ := Option.ne_none_iff_exists'.1 hr
    refine ⟨⟨h1, h2, h3, h4, h5, h6, h7, hshape⟩, ?_⟩
    by_contra hact
    obtain ⟨n, hn⟩ := Option.ne_none_iff_exists'.1 hact
    simp [StoredAck.Shape, hr, hn] at hshape

theorem ackEvent_replayed {a : StoredAck} (h : a.Ordinary) : ackEvent a.replayed = Agent.eventId .ack a.commandId := by
  rw [ackEvent_ordinary (replayed_ordinary h), replayed_commandId]

theorem Coherent.replayed_consistent (h : s.Coherent) {c : StoredCommand} (hc : c ∈ s.commandJournal)
    (hack : s.hasCommandAck c.commandId = false) (hroom : s.outbox.length + 1 ≤ outboxLimit)
    (hd : EventsDistinct (s.events ++ [(.ack, c.commandId)])) (hseq : c.acknowledgement.deviceSequence < u64Max) :
    (s.replayed c).Consistent := by
  have hcid : c.commandId = c.acknowledgement.commandId := (h.consistent.commands c hc).1
  have hvalid := semanticValid_replayed (h.consistent.commands c hc).2.2.2.1
  have hno := hasCommandAck_eq_false.1 hack
  refine h.consistent.push le_rfl h.consistent.journal_length h.consistent.commandIds h.consistent.commands ?_ hroom ?_ ?_
    ?_ ?_ hvalid.1 hvalid.2
  · intro p hp
    obtain ⟨identity, -, -, -, -, -, -, -, hentry⟩ := h.consistent.pending p hp
    exact hentry
  · intro o ho he
    -- under the event of the acknowledgement stands an acknowledgement of the command
    obtain ⟨o', ho', a, ha, -, hid⟩ := (h.consistent.ackOutstanding_iff hd).1 ⟨o, ho, he⟩
    exact hno o' ho' a ha hid
  · intro o ho he
    rw [replayed_sequence] at he
    obtain ⟨a, ha, -, hid⟩ := h.owner o ho c hc he (he ▸ hseq)
    exact hno o ho a ha hid
  · rw [replayed_sequence]
    exact h.journalled c hc
  · rw [ackEvent_replayed (h.causes c hc), ← hcid]

/-- A fresh sequence number is not taken. -/
theorem Consistent.sequence_fresh (h : s.Consistent) (hseq : s.deviceSequence < u64Max) {o : StoredOutbound}
    (ho : o ∈ s.outbox) : o.sequence ≠ saturatingAdd s.deviceSequence 1 := by
  have hle := (h.entries o ho).sequence_le
  rw [saturatingAdd_one_of_lt hseq]
  omega

theorem Consistent.conflict (h : s.Consistent) {commandId fingerprint : String} {generation fence : ℕ} {observedAt : ℤ}
    (hid : commandId ≠ "") (hgen : 0 < generation) (hfence : 0 < fence) (hobs : 0 ≤ observedAt)
    (hknown : s.hasConflictingReplay commandId fingerprint = false) (hroom : s.outbox.length + 1 ≤ outboxLimit)
    (hseq : s.deviceSequence < u64Max) :
    (s.rejectConflictingReplay commandId fingerprint generation fence observedAt).Consistent := by
  have hone := saturatingAdd_one_of_lt hseq
  have hcause : conflictSource commandId fingerprint ≠ "" := by
    intro he
    have := congrArg (fun s => s.toList.length) he
    simp [conflictSource, String.toList_append] at this
  refine h.push ?_ h.journal_length h.commandIds h.commands ?_ hroom (hasConflictingReplay_eq_false.1 hknown)
    (fun o ho => h.sequence_fresh hseq ho) le_rfl ?_ ⟨hid, hcause, hgen, hfence, ?_, hobs, fun n hn => (by cases hn), trivial⟩
    rfl
  · omega
  · intro p hp
    obtain ⟨identity, -, -, -, -, -, -, -, hentry⟩ := h.pending p hp
    exact hentry
  · have hne : ¬ (conflictAck commandId fingerprint generation fence (saturatingAdd s.deviceSequence 1)
        observedAt).Ordinary := conflictSource_ne commandId fingerprint
    rw [ackEvent_conflicting hne]
    rfl
  · show 0 < saturatingAdd s.deviceSequence 1
    omega

/-! ### Admissions -/

theorem commandMatch_eq_none {commandId fingerprint : String} {now : ℕ} :
    s.commandMatch commandId fingerprint now = none ↔
      ∀ c ∈ s.commandJournal, c.commandId = commandId → c.retainUntilEpochSeconds ≤ now := by
  simp [commandMatch, List.find?_eq_none]

/-- The entry of the pending delivery outlives its retention. -/
theorem Consistent.pending_kept (h : s.Consistent) (now : ℕ) {p : StoredInboundSettlement} (hp : p ∈ s.pendingInbound) :
    ∃ c ∈ (s.expireCommandJournal now).commandJournal, c.commandId = p.commandId ∧ c.fingerprint = p.fingerprint := by
  obtain ⟨identity, -, -, -, -, -, -, -, c, hc, hid, hfp⟩ := h.pending p hp
  exact ⟨c, mem_expire.2 ⟨hc, .inr ⟨p, hp, hid.symm⟩⟩, hid, hfp⟩

/-- What of a command can outlive its entry in the journal: its acknowledgement, or its delivery. -/
def Lingers (s : StateV1) (commandId : String) : Prop :=
  s.AckOutstanding commandId ∨ ∃ p ∈ s.pendingInbound, p.commandId = commandId

instance (s : StateV1) (commandId : String) : Decidable (s.Lingers commandId) :=
  inferInstanceAs (Decidable (_ ∨ _))

/-- An expired command is no longer in the journal, its pending delivery apart. -/
theorem expired_not_mem {commandId : String} {now : ℕ}
    (hexp : ∀ c ∈ s.commandJournal, c.commandId = commandId → c.retainUntilEpochSeconds ≤ now)
    (hlinger : ¬ s.Lingers commandId) {c : StoredCommand} (hc : c ∈ (s.expireCommandJournal now).commandJournal) :
    c.commandId ≠ commandId := by
  intro hid
  obtain ⟨hmem, hlt | ⟨p, hp, hpid⟩⟩ := mem_expire.1 hc
  · have := hexp c hmem hid
    omega
  · exact hlinger (.inr ⟨p, hp, hpid.trans hid⟩)

/-- A command that is journalled is well formed. -/
structure WellFormed (commandId fingerprint : String) (generation fence : ℕ) (observedAt : ℤ) (retain : ℕ) : Prop where
  commandId : commandId ≠ ""
  fingerprint : validDigest fingerprint
  generation : 0 < generation
  fence : 0 < fence
  observedAt : 0 ≤ observedAt
  retain : 0 < retain

theorem Consistent.expired_journal (h : s.Consistent) (now : ℕ) (entry : StoredCommand) (hentry : entry.SemanticValid)
    (hnew : ∀ c ∈ (s.expireCommandJournal now).commandJournal, c.commandId ≠ entry.commandId) :
    (((s.expireCommandJournal now).commandJournal ++ [entry]).map StoredCommand.commandId).Nodup ∧
    ∀ c ∈ (s.expireCommandJournal now).commandJournal ++ [entry], c.SemanticValid := by
  refine ⟨nodup_map_concat.2 ⟨?_, hnew⟩, ?_⟩
  · exact h.commandIds.sublist (List.filter_sublist.map _)
  · intro c hc
    rcases List.mem_append.1 hc with hc | hc
    · exact h.commands c (mem_expire.1 hc).1
    · rw [List.mem_singleton.1 hc]
      exact hentry

/-- **A rejection passes the checks exactly when nothing of an earlier command of that name lingers.** -/
theorem Consistent.reject_iff (h : s.Consistent) {c : RejectedCommand} {now : ℕ}
    (hwf : WellFormed c.commandId c.fingerprint c.generation c.fence c.observedAt c.retainUntilEpochSeconds)
    (hexp : ∀ e ∈ s.commandJournal, e.commandId = c.commandId → e.retainUntilEpochSeconds ≤ now)
    (hroom : s.outbox.length + 1 ≤ outboxLimit)
    (hjournal : (s.expireCommandJournal now).commandJournal.length < commandJournalLimit)
    (hseq : s.deviceSequence < u64Max) :
    ((s.expireCommandJournal now).reject c).Consistent ↔ ¬ s.Lingers c.commandId := by
  have hone := saturatingAdd_one_of_lt hseq
  constructor
  · rintro hc (⟨o, ho, he⟩ | ⟨p, hp, hid⟩)
    · exact (nodup_map_concat.1 hc.eventIds).2 o ho he
    · obtain ⟨e, he, heid, -⟩ := h.pending_kept now hp
      exact (nodup_map_concat.1 hc.commandIds).2 e he (heid.trans hid)
  · intro hlinger
    have hvalid : (c.acknowledgement (saturatingAdd s.deviceSequence 1)).SemanticValid := by
      refine ⟨hwf.commandId, hwf.commandId, hwf.generation, hwf.fence, ?_, hwf.observedAt, fun n hn => (by cases hn), trivial⟩
      show 0 < saturatingAdd s.deviceSequence 1
      omega
    obtain ⟨hids, hall⟩ := h.expired_journal now ⟨c.commandId, c.fingerprint,
        c.acknowledgement (saturatingAdd s.deviceSequence 1), c.retainUntilEpochSeconds⟩
      ⟨rfl, hwf.commandId, hwf.fingerprint, hvalid, hwf.retain⟩ fun e he => expired_not_mem hexp hlinger he
    refine h.push ?_ ?_ hids hall ?_ hroom ?_ (fun o ho => h.sequence_fresh hseq ho) le_rfl ?_ hvalid rfl
    · exact le_saturatingAdd_one le_rfl hseq.le
    · rw [List.length_append, List.length_singleton]
      exact hjournal
    · intro p hp
      obtain ⟨e, he, hrest⟩ := h.pending_kept now hp
      exact ⟨e, List.mem_append_left _ he, hrest⟩
    · intro o ho he
      exact hlinger (.inl ⟨o, ho, he⟩)
    · have hord : (c.acknowledgement (saturatingAdd s.deviceSequence 1)).Ordinary := rfl
      exact (ackEvent_ordinary hord).symm

/-- Without a rotation in flight no acknowledgement activates anything, and nothing is pending. -/
theorem Coherent.idle (h : s.Coherent) (hflight : s.rotationInFlight = false) :
    (∀ o ∈ s.outbox, o.reportPayload = none) ∧ (∀ o ∈ s.outbox, ∀ a ∈ o.ackPayload, a.activatesRevision = none) ∧
    s.pendingInbound = none ∧ s.reconnectRevision = none := by
  obtain ⟨-, -, hact, hpending, hrec⟩ := h.phase_idle hflight
  refine ⟨rotationInFlight_eq_false.1 hflight, fun o ho a ha => ?_, hpending, hrec⟩
  by_contra hne
  have hmem : a ∈ s.activating := mem_activating.2 ⟨o, ho, ha, Option.isSome_iff_ne_none.2 hne⟩
  rw [hact] at hmem
  cases hmem

theorem validDigest_stateHash (tenant device : Uuid) (g d f r : ℕ) (digest : String) :
    validDigest (stateHash tenant device g d f r digest) = true := validDigest_digestText _

/-- The report of an accepted command passes the checks of its fields. -/
theorem semanticValid_report {c : AcceptedCommand} {identity : StoredIdentity} {sequence : ℕ}
    (hwf : WellFormed c.commandId c.fingerprint c.generation c.fence c.observedAt c.retainUntilEpochSeconds)
    (hcred : 0 < c.credentialGeneration) (hrev : 0 < c.revision) (hexpires : 0 < c.expiresAt)
    (hdigest : validDigest c.artifactDigest) (hseq : 0 < sequence) :
    (.reportBlocked (Agent.eventId .report c.commandId) (c.report identity sequence) : StoredOutbound).SemanticValid :=
  ⟨rfl, hwf.commandId, hwf.generation, hwf.fence, hseq, hwf.observedAt, ⟨_, rfl, hexpires⟩, hcred, hrev, hdigest,
    validDigest_stateHash ..⟩

/-- **An acceptance passes the checks when no acknowledgement of the command lingers.** -/
theorem Coherent.accepted_consistent (h : s.Coherent) {c : AcceptedCommand} {identity : DeviceIdentity} {now : ℕ}
    (hwf : WellFormed c.commandId c.fingerprint c.generation c.fence c.observedAt c.retainUntilEpochSeconds)
    (hid : s.currentIdentity = .ok identity) (hflight : s.rotationInFlight = false)
    (hcred : 0 < c.credentialGeneration ∧ c.credentialGeneration ≤ u64Max) (hrev : 0 < c.revision)
    (hexpires : 0 < c.expiresAt) (hdigest : validDigest c.artifactDigest)
    (hexp : ∀ e ∈ s.commandJournal, e.commandId = c.commandId → e.retainUntilEpochSeconds ≤ now)
    (hack : ¬ s.AckOutstanding c.commandId) (hroom : s.outbox.length + 2 ≤ outboxLimit)
    (hjournal : (s.expireCommandJournal now).commandJournal.length < commandJournalLimit)
    (hseq : s.deviceSequence + 2 ≤ u64Max) : ((s.expireCommandJournal now).accepted identity c).Consistent := by
  obtain ⟨hreports, hacts, hpending, hrec⟩ := h.idle hflight
  obtain ⟨ht, hdev, hg⟩ := currentIdentity_eq_ok.1 hid
  have hone : saturatingAdd s.deviceSequence 1 = s.deviceSequence + 1 := saturatingAdd_one_of_lt (by omega)
  have htwo : saturatingAdd (saturatingAdd s.deviceSequence 1) 1 = s.deviceSequence + 2 := by
    rw [hone]
    exact saturatingAdd_one_of_lt (by omega)
  have hlinger : ¬ s.Lingers c.commandId := by
    rintro (hl | ⟨p, hp, -⟩)
    · exact hack hl
    · rw [hpending] at hp
      cases hp
  set ack := c.acknowledgement (saturatingAdd s.deviceSequence 1) with hackdef
  set report := c.report s.identity (saturatingAdd (saturatingAdd s.deviceSequence 1) 1) with hrepdef
  set entry : StoredCommand := ⟨c.commandId, c.fingerprint, ack, c.retainUntilEpochSeconds⟩
  set s' := (s.expireCommandJournal now).accepted identity c with hs'
  have hout : s'.outbox = s.outbox ++ [.ack (Agent.eventId .ack c.commandId) ack,
    .reportBlocked (Agent.eventId .report c.commandId) report] := rfl
  have hseq' : s'.deviceSequence = s.deviceSequence + 2 := htwo
  have hvalid : ack.SemanticValid := by
    refine ⟨hwf.commandId, hwf.commandId, hwf.generation, hwf.fence, ?_, hwf.observedAt, ?_, trivial⟩
    · show 0 < saturatingAdd s.deviceSequence 1
      omega
    · intro n hn
      cases hn
      exact hrev
  have hsemantic : (.reportBlocked (Agent.eventId .report c.commandId) report : StoredOutbound).SemanticValid :=
    semanticValid_report hwf hcred.1 hrev hexpires hdigest (by omega)
  obtain ⟨hids, hall⟩ := h.consistent.expired_journal now entry
    ⟨rfl, hwf.commandId, hwf.fingerprint, hvalid, hwf.retain⟩ fun e he => expired_not_mem hexp hlinger he
  have hmem : ∀ {o}, o ∈ s'.outbox → o ∈ s.outbox ∨ o = .ack (Agent.eventId .ack c.commandId) ack ∨
      o = .reportBlocked (Agent.eventId .report c.commandId) report := fun {o} ho => by
    rw [hout] at ho
    simpa using ho
  have hackmem : .ack (Agent.eventId .ack c.commandId) ack ∈ s'.outbox := by rw [hout]; simp
  have hrepmem : .reportBlocked (Agent.eventId .report c.commandId) report ∈ s'.outbox := by rw [hout]; simp
  have hcount : s'.reports = 1 := by
    have hzero := reports_eq_zero.2 hreports
    unfold reports at hzero ⊢
    rw [hout, List.countP_append, hzero]
    rfl
  -- the two new events differ from each other and from all that are outstanding
  have hreport : ∀ o ∈ s.outbox, o.eventId ≠ Agent.eventId .report c.commandId := by
    intro o ho he
    rw [h.consistent.eventId_eq ho] at he
    have hk := eventId_kind he
    have hnone := hreports o ho
    cases o with
    | ack e a =>
      simp only [StoredOutbound.event] at hk
      split_ifs at hk
    | reportBlocked e r => cases hnone
    | reportReady e r => cases hnone
  have hconcat : s'.outbox = (s.outbox ++ [.ack (Agent.eventId .ack c.commandId) ack]) ++
      [.reportBlocked (Agent.eventId .report c.commandId) report] := by
    rw [hout, List.append_assoc]
    rfl
  have hevents : (s'.outbox.map StoredOutbound.eventId).Nodup := by
    rw [hconcat]
    refine nodup_map_concat.2 ⟨nodup_map_concat.2 ⟨h.consistent.eventIds, fun o ho he => hack ⟨o, ho, he⟩⟩, ?_⟩
    intro o ho
    rcases List.mem_append.1 ho with ho | ho
    · exact hreport o ho
    · rw [List.mem_singleton.1 ho]
      intro he
      cases eventId_kind he
  have hsequences : (s'.outbox.map StoredOutbound.sequence).Nodup := by
    rw [hconcat]
    have hle : ∀ o ∈ s.outbox, o.sequence ≤ s.deviceSequence := fun o ho => (h.consistent.entries o ho).sequence_le
    refine nodup_map_concat.2 ⟨nodup_map_concat.2 ⟨h.consistent.sequences, fun o ho => ?_⟩, fun o ho => ?_⟩
    · have := hle o ho
      show o.sequence ≠ saturatingAdd s.deviceSequence 1
      omega
    · show o.sequence ≠ saturatingAdd (saturatingAdd s.deviceSequence 1) 1
      rcases List.mem_append.1 ho with ho | ho
      · have := hle o ho
        omega
      · rw [List.mem_singleton.1 ho]
        show saturatingAdd s.deviceSequence 1 ≠ _
        omega
  refine ⟨h.consistent.version, h.consistent.tenant_ne_nil, h.consistent.device_ne_nil, hcred, hwf.generation, hwf.fence,
    hrev, hdigest, ?_, ?_, hevents, hsequences, ?_, hids, hall, ?_, hcount.le, ?_, ?_, ?_⟩
  · rw [hout, List.length_append]
    exact hroom
  · show ((s.expireCommandJournal now).commandJournal ++ [entry]).length ≤ _
    rw [List.length_append, List.length_singleton]
    exact hjournal
  · intro o ho
    rcases hmem ho with ho | rfl | rfl
    · obtain ⟨h1, h2, h3, -⟩ := h.consistent.entries o ho
      refine ⟨h1, by omega, h3, fun r hr => ?_⟩
      rw [hreports o ho] at hr
      cases hr
    · refine ⟨?_, ?_, ⟨(ackEvent_ordinary (a := ack) rfl).symm, hvalid⟩, fun r hr => (by cases hr)⟩
      · show 0 < saturatingAdd s.deviceSequence 1
        omega
      · show saturatingAdd s.deviceSequence 1 ≤ s'.deviceSequence
        omega
    · refine ⟨?_, le_rfl, hsemantic, ?_⟩
      · show 0 < saturatingAdd (saturatingAdd s.deviceSequence 1) 1
        omega
      · intro r hr
        cases hr
        exact ⟨rfl, rfl, rfl, rfl, rfl⟩
  · intro p hp
    cases hp
    refine ⟨identity, ht, hdev, rfl, hwf.commandId, hwf.fingerprint, rfl, rfl, entry, ?_, rfl, rfl⟩
    exact List.mem_append_right _ (List.mem_singleton.2 rfl)
  · rw [hcount]
    simp [hs', StateV1.accepted]
  · intro o ho
    rcases hmem ho with ho | rfl | rfl
    · cases o with
      | ack e a =>
        intro revision hrev'
        rw [hacts _ ho a rfl] at hrev'
        cases hrev'
      | reportBlocked e r => cases hreports _ ho
      | reportReady e r => cases hreports _ ho
    · intro revision hrev'
      cases hrev'
      exact ⟨rfl, ⟨_, hrepmem, report, rfl, rfl, rfl⟩, hrec⟩
    · have hnone : s'.reconnectRevision = none := hrec
      refine ⟨?_, fun revision hrev' => ?_⟩
      · rw [hnone]
        intro hiff
        have := hiff.1 ⟨_, hackmem, ack, rfl, rfl, rfl⟩
        cases this
      · rw [hnone] at hrev'
        cases hrev'
  · intro revision hrev'
    have hnone : s'.reconnectRevision = none := hrec
    rw [hnone] at hrev'
    cases hrev'

/-! ### Confirmations, the new session and settlement -/

/-- In which phase there are acknowledgements that activate a revision. -/
theorem Coherent.not_activating (h : s.Coherent) (hp : s.phase ≠ .awaitAck) {o : StoredOutbound} (ho : o ∈ s.outbox)
    {a : StoredAck} (ha : a ∈ o.ackPayload) : a.activatesRevision = none := by
  have hnil : s.activating = [] := by
    have hin := h.inPhase
    generalize s.phase = p at hin hp
    cases p with
    | idle => exact hin.2.2.1
    | awaitAck => exact absurd rfl hp
    | awaitReconnect =>
      obtain ⟨r, -, -, hact, -⟩ := hin
      exact hact
    | reportReady =>
      obtain ⟨r, -, -, hact, -⟩ := hin
      exact hact
  by_contra hne
  have hmem : a ∈ s.activating := mem_activating.2 ⟨o, ho, ha, Option.isSome_iff_ne_none.2 hne⟩
  rw [hnil] at hmem
  cases hmem

/-- The checks of a document with an entry less: what remains to be seen is that the phase fits. -/
theorem Consistent.erase (h : s.Consistent) {s' : StateV1} {l₁ l₂ : List StoredOutbound} {entry : StoredOutbound}
    {marker : Option ℕ} {pending : Option StoredInboundSettlement} (hsplit : s.outbox = l₁ ++ entry :: l₂)
    (hs' : s' = { s with outbox := l₁ ++ l₂, reconnectRevision := marker, pendingInbound := pending })
    (hpending : ∀ p ∈ pending, p ∈ s.pendingInbound) (hreports : s'.reports ≤ 1)
    (hiff : pending.isSome ↔ s'.reports = 1) (hphases : ∀ o ∈ l₁ ++ l₂, s'.PhaseValid o)
    (hmarker : ∀ revision ∈ marker, s'.reports = 1 ∧ revision = s.current.credentialRevision) : s'.Consistent := by
  subst hs'
  have hsub : (l₁ ++ l₂).Sublist s.outbox := by
    rw [hsplit]
    exact List.Sublist.append_left (List.sublist_cons_self _ _) _
  refine ⟨h.version, h.tenant_ne_nil, h.device_ne_nil, h.credentialGeneration, h.desiredGeneration_pos,
    h.fenceEpoch_pos, h.credentialRevision_pos, h.artifactDigest, hsub.length_le.trans h.outbox_length, h.journal_length,
    h.eventIds.sublist (hsub.map _), h.sequences.sublist (hsub.map _), ?_, h.commandIds, h.commands,
    fun p hp => h.pending p (hpending p hp), hreports, hiff, hphases, hmarker⟩
  intro o ho
  obtain ⟨h1, h2, h3, h4⟩ := h.entries o (hsub.subset ho)
  exact ⟨h1, h2, h3, h4⟩

/-- Confirming an acknowledgement that activates nothing. -/
theorem Coherent.confirmed_plain (h : s.Coherent) {e : String} {a : StoredAck} (he : .ack e a ∈ s.outbox)
    (hact : a.activatesRevision = none) : (s.confirmed (.ack e a)).Consistent := by
  obtain ⟨l₁, l₂, hsplit, herase⟩ := h.consistent.confirmed_outbox he
  have hs' : s.confirmed (.ack e a) = { s with
      outbox := l₁ ++ l₂, reconnectRevision := s.reconnectRevision, pendingInbound := s.pendingInbound } := by
    rw [← herase]
    simp [confirmed, ackPayload, isReportReady, hact]
  have hreports : (s.confirmed (.ack e a)).reports = s.reports := by
    unfold reports
    rw [herase, hsplit]
    simp [reportPayload]
  have hmem : ∀ o ∈ s.outbox, o ∈ l₁ ++ l₂ ∨ o = .ack e a := by
    intro o ho
    rw [hsplit] at ho
    simp only [List.mem_append, List.mem_cons] at ho ⊢
    tauto
  have hsub : ∀ o ∈ l₁ ++ l₂, o ∈ s.outbox := by
    intro o ho
    rw [hsplit]
    simp only [List.mem_append, List.mem_cons] at ho ⊢
    tauto
  refine h.consistent.erase hsplit hs' (fun p hp => hp) (hreports ▸ h.consistent.reports_le)
    (hreports ▸ h.consistent.pending_iff) ?_ (hreports ▸ h.consistent.reconnect)
  intro o ho
  have hphase := h.consistent.phases o (hsub o ho)
  rw [hs']
  cases o with
  | ack e' a' =>
    intro revision hrev
    obtain ⟨h1, ⟨o', ho', r, hr, hrest⟩, h3⟩ := hphase revision hrev
    refine ⟨h1, ⟨o', ?_, r, hr, hrest⟩, h3⟩
    rcases hmem o' ho' with hm | rfl
    · exact hm
    · cases hr
  | reportBlocked e' r =>
    obtain ⟨h1, h2⟩ := hphase
    refine ⟨fun hiff => h1 ⟨fun hex => hiff.1 ?_, fun hsome => ?_⟩, h2⟩
    · obtain ⟨o', ho', ack, hack, hrest⟩ := hex
      rcases hmem o' ho' with hm | rfl
      · exact ⟨o', hm, ack, hack, hrest⟩
      · cases hack
        rw [hact] at hrest
        cases hrest.1
    · obtain ⟨o', ho', hrest⟩ := hiff.2 hsome
      exact ⟨o', hsub o' ho', hrest⟩
  | reportReady e' r => exact hphase

/-- Confirming the acknowledgement that activates a revision sets the marker. -/
theorem Coherent.confirmed_activating (h : s.Coherent) {e : String} {a : StoredAck} (he : .ack e a ∈ s.outbox)
    {revision : ℕ} (hact : a.activatesRevision = some revision) : (s.confirmed (.ack e a)).Consistent := by
  obtain ⟨l₁, l₂, hsplit, herase⟩ := h.consistent.confirmed_outbox he
  obtain ⟨hcur, hnone, r, hr, -⟩ := h.consistent.activating_blocked
    (mem_activating.2 ⟨_, he, rfl, by rw [hact]; rfl⟩)
  obtain rfl : revision = s.current.credentialRevision := Option.some.inj (hact.symm.trans hcur)
  have hphase := phase_eq_awaitAck (List.ne_nil_of_mem hr) hnone
  obtain ⟨r', -, hb, hready, -⟩ := hphase ▸ h.inPhase
  have hsub : ∀ o ∈ l₁ ++ l₂, o ∈ s.outbox := by
    intro o ho
    rw [hsplit]
    simp only [List.mem_append, List.mem_cons] at ho ⊢
    tauto
  have hreports : (s.confirmed (.ack e a)).reports = 1 := by
    have hone : s.reports = 1 := by rw [reports_eq, hb, hready]; rfl
    unfold reports at hone ⊢
    rw [hsplit] at hone
    rw [herase]
    simpa [reportPayload] using hone
  -- the report is still there, so the marker is set
  have hs' : s.confirmed (.ack e a) = { s with
      outbox := l₁ ++ l₂, reconnectRevision := some s.current.credentialRevision, pendingInbound := s.pendingInbound } := by
    obtain ⟨o, ho, hor⟩ := mem_blocked.1 hr
    have hmem : o ∈ l₁ ++ l₂ := by
      rw [hsplit] at ho
      simp only [List.mem_append, List.mem_cons] at ho ⊢
      rcases ho with ho | rfl | ho
      · exact .inl ho
      · cases hor
      · exact .inr ho
    have hrev := (h.describes (hsub o hmem) (blockedPayload_reportPayload hor)).credentialRevision
    have hfound : ∃ entry ∈ (s.confirmed (.ack e a)).outbox, ∃ report ∈ entry.blockedPayload,
        report.credentialRevision = s.current.credentialRevision := by
      rw [herase]
      exact ⟨o, hmem, r, hor, hrev⟩
    rw [← herase]
    simp only [confirmed] at hfound ⊢
    simp only [ackPayload, Option.bind_some, hact, Option.filter_some, decide_eq_true hfound, if_true, Option.some_or,
      isReportReady, Bool.false_eq_true, if_false]
  -- what activated the revision is gone
  have hno : ∀ o ∈ l₁ ++ l₂, ∀ ack ∈ o.ackPayload, ack.activatesRevision = none := by
    intro o ho ack hack
    by_contra hne
    have hpay : o.activatingPayload ≠ none := by
      rw [activatingPayload, Option.mem_def.1 hack]
      simp [Option.filter, Option.isSome_iff_ne_none, hne]
    have heq := h.activating_unique (by rw [hb]; simp) (hsub o ho) he hpay (by simp [activatingPayload, ackPayload, hact])
    have hnd := h.consistent.nodup_outbox
    rw [hsplit, List.nodup_middle, List.nodup_cons] at hnd
    exact hnd.1 (heq ▸ ho)
  refine h.consistent.erase hsplit hs' (fun p hp => hp) hreports.le ?_ ?_ ?_
  · rw [hreports]
    have := h.consistent.pending_iff
    rw [reports_eq, hb, hready] at this
    simpa using this
  · intro o ho
    rw [hs']
    cases o with
    | ack e' a' =>
      intro revision hrev
      rw [hno _ ho a' rfl] at hrev
      cases hrev
    | reportBlocked e' r' =>
      have hcurrent := (h.describes (hsub _ ho) (r := r') rfl).credentialRevision
      refine ⟨fun hiff => ?_, fun revision hrev => ?_⟩
      · obtain ⟨o', ho', ack, hack, hrev, -⟩ := hiff.2 rfl
        rw [hno o' ho' ack hack] at hrev
        cases hrev
      · cases hrev
        exact hcurrent.symm
    | reportReady e' r' =>
      have hmem : r' ∈ s.ready := mem_ready.2 ⟨_, hsub _ ho, rfl⟩
      rw [hready] at hmem
      cases hmem
  · intro revision hrev
    cases hrev
    exact ⟨hreports, rfl⟩

/-- Confirming the report ends the rotation. -/
theorem Coherent.confirmed_ready (h : s.Coherent) {e : String} {r : StoredReport} (he : .reportReady e r ∈ s.outbox) :
    (s.confirmed (.reportReady e r)).Consistent := by
  obtain ⟨l₁, l₂, hsplit, herase⟩ := h.consistent.confirmed_outbox he
  have hready : s.ready ≠ [] := List.ne_nil_of_mem (mem_ready.2 ⟨_, he, rfl⟩)
  have hle := h.consistent.reports_le
  rw [reports_eq] at hle
  have hnil : s.blocked = [] := by
    have := List.length_pos_of_ne_nil hready
    exact List.length_eq_zero_iff.1 (by omega)
  have hphase := phase_eq_reportReady hnil hready
  obtain ⟨r', -, -, -, hnone, -⟩ := hphase ▸ h.inPhase
  have hzero : (s.confirmed (.reportReady e r)).reports = 0 := by
    have hle' := h.consistent.reports_le
    have hone : reportPayload (.reportReady e r) = some r := rfl
    unfold reports at hle' ⊢
    rw [hsplit, List.countP_append, List.countP_cons, hone, Option.isSome_some, if_pos rfl] at hle'
    rw [herase, List.countP_append]
    omega
  have hs' : s.confirmed (.reportReady e r) = { s with
      outbox := l₁ ++ l₂, reconnectRevision := none, pendingInbound := none } := by
    rw [← herase]
    simp [confirmed, ackPayload, isReportReady, hnone]
  have hsub : ∀ o ∈ l₁ ++ l₂, o ∈ s.outbox := by
    intro o ho
    rw [hsplit]
    simp only [List.mem_append, List.mem_cons] at ho ⊢
    tauto
  refine h.consistent.erase hsplit hs' (fun p hp => (by cases hp)) (by omega) (by simp [hzero]) ?_ (fun n hn => (by cases hn))
  intro o ho
  have hout : (s.confirmed (.reportReady e r)).outbox = l₁ ++ l₂ := herase
  cases o with
  | ack e' a' =>
    intro revision hrev
    rw [h.not_activating (by rw [hphase]; decide) (hsub _ ho) (a := a') rfl] at hrev
    cases hrev
  | reportBlocked e' r' =>
    have := reports_eq_zero.1 hzero _ (hout ▸ ho)
    cases this
  | reportReady e' r' =>
    have := reports_eq_zero.1 hzero _ (hout ▸ ho)
    cases this

/-- **Every entry but a blocked report can be confirmed.** -/
theorem Coherent.confirmed_consistent (h : s.Coherent) {entry : StoredOutbound} (he : entry ∈ s.outbox)
    (hb : entry.blockedPayload = none) : (s.confirmed entry).Consistent := by
  cases entry with
  | ack e a =>
    rcases hact : a.activatesRevision with _ | revision
    · exact h.confirmed_plain he hact
    · exact h.confirmed_activating he hact
  | reportBlocked e r => cases hb
  | reportReady e r => exact h.confirmed_ready he

/-- A new session releases the report. -/
theorem Coherent.reconnected_consistent (h : s.Coherent) {revision : ℕ} (hrec : s.reconnectRevision = some revision) :
    Consistent { s with outbox := s.outbox.map unblock, reconnectRevision := none } := by
  have hphase : s.phase ≠ .awaitAck := by
    intro hp
    obtain ⟨r, a, -, -, -, -, -, hnone, -⟩ := hp ▸ h.inPhase
    rw [hrec] at hnone
    cases hnone
  have hreports : StateV1.reports { s with outbox := s.outbox.map unblock, reconnectRevision := none } = s.reports := by
    unfold reports
    rw [List.countP_map]
    exact List.countP_congr fun o _ => by simp
  have hids : (s.outbox.map unblock).map StoredOutbound.eventId = s.outbox.map StoredOutbound.eventId := by
    rw [List.map_map]
    exact List.map_congr_left fun o _ => unblock_eventId o
  have hseqs : (s.outbox.map unblock).map StoredOutbound.sequence = s.outbox.map StoredOutbound.sequence := by
    rw [List.map_map]
    exact List.map_congr_left fun o _ => unblock_sequence o
  have hmem : ∀ o ∈ s.outbox.map unblock, ∃ o' ∈ s.outbox, o = unblock o' := by
    intro o ho
    obtain ⟨o', ho', rfl⟩ := List.mem_map.1 ho
    exact ⟨o', ho', rfl⟩
  refine ⟨h.consistent.version, h.consistent.tenant_ne_nil, h.consistent.device_ne_nil, h.consistent.credentialGeneration,
    h.consistent.desiredGeneration_pos, h.consistent.fenceEpoch_pos, h.consistent.credentialRevision_pos,
    h.consistent.artifactDigest, ?_, h.consistent.journal_length, ?_, ?_, ?_, h.consistent.commandIds,
    h.consistent.commands, h.consistent.pending, hreports ▸ h.consistent.reports_le,
    hreports ▸ h.consistent.pending_iff, ?_, fun n hn => (by cases hn)⟩
  · rw [List.length_map]
    exact h.consistent.outbox_length
  · rw [hids]
    exact h.consistent.eventIds
  · rw [hseqs]
    exact h.consistent.sequences
  · intro o ho
    obtain ⟨o', ho', rfl⟩ := hmem o ho
    obtain ⟨h1, h2, h3, h4⟩ := h.consistent.entries o' ho'
    refine ⟨by rw [unblock_sequence]; exact h1, by rw [unblock_sequence]; exact h2, ?_, by rw [unblock_reportPayload]; exact h4⟩
    cases o' <;> exact h3
  · intro o ho
    obtain ⟨o', ho', rfl⟩ := hmem o ho
    cases o' with
    | ack e a =>
      intro n hn
      rw [h.not_activating hphase ho' (a := a) rfl] at hn
      cases hn
    | reportBlocked e r => exact rfl
    | reportReady e r => exact rfl

/-- The pending delivery settles. -/
theorem Consistent.settled_consistent (h : s.Consistent) {p : StoredInboundSettlement} (hp : s.pendingInbound = some p) :
    Consistent { s with pendingInbound := some { p with settled := true } } := by
  have hiff := h.pending_iff
  rw [hp] at hiff
  refine ⟨h.version, h.tenant_ne_nil, h.device_ne_nil, h.credentialGeneration, h.desiredGeneration_pos,
    h.fenceEpoch_pos, h.credentialRevision_pos, h.artifactDigest, h.outbox_length, h.journal_length, h.eventIds,
    h.sequences, ?_, h.commandIds, h.commands, ?_, h.reports_le, hiff, ?_, h.reconnect⟩
  · intro o ho
    obtain ⟨h1, h2, h3, h4⟩ := h.entries o ho
    exact ⟨h1, h2, h3, h4⟩
  · intro p' hp'
    cases hp'
    exact h.pending p (by rw [hp]; rfl)
  · intro o ho
    have := h.phases o ho
    cases o <;> exact this

/-- Any entry that may be published can be confirmed under its name. -/
theorem Consistent.confirmOutbound_eq (h : s.Consistent) {entry : StoredOutbound} (he : entry ∈ s.outbox)
    (hready : entry.isReportReady = true → s.pendingSettled = true) :
    s.confirmOutbound entry.eventId = some (s.confirmed entry) := by
  have hfind : s.outbox.find? (fun other => other.eventId = entry.eventId) = some entry := by
    have hsome : (s.outbox.find? fun other => other.eventId = entry.eventId).isSome := by
      rw [List.find?_isSome]
      exact ⟨entry, he, by simp⟩
    obtain ⟨o, ho⟩ := Option.isSome_iff_exists.1 hsome
    have heq : o.eventId = entry.eventId := by simpa using List.find?_some ho
    rw [ho, h.outbox_unique (List.mem_of_find?_eq_some ho) he heq]
  unfold confirmOutbound
  rw [hfind]
  dsimp only
  rw [if_neg]
  · rfl
  · rintro ⟨hr, hns⟩
    exact hns (hready hr)

end StateV1

/-! ### The session without failures -/

section Session

open StateV1

variable {pki : Pki} {d : Device} {a : Running}

theorem Sound.step_change (h : Sound pki d) (ha : d.agent = some a) (hexp : 0 < a.state.current.expiresAt) {call : Call}
    {c : StateV1} {reply : Reply} (hp : plan pki a.retention a.state call = .ok (.store c reply)) (hc : c.Consistent)
    (hcurrent : c.current = a.state.current) :
    (d.step pki (.call call clean)).1 = some (.ok reply) ∧
    (d.step pki (.call call clean)).2.agent = some { a with state := c } := by
  refine h.step_store ha hp (validate_eq_ok.2 ⟨hc, ?_⟩)
  rw [hcurrent]
  exact hexp

/-- A confirmation of what may be published goes through. -/
theorem Sound.step_confirm (h : Sound pki d) (ha : d.agent = some a) (hexp : 0 < a.state.current.expiresAt)
    {entry : StoredOutbound} (he : entry ∈ a.state.outbox) (hb : entry.blockedPayload = none)
    (hready : entry.isReportReady = true → a.state.pendingSettled = true) :
    (d.step pki (.call (.confirmOutbound entry.eventId) clean)).1 = some (.ok .done) ∧
    (d.step pki (.call (.confirmOutbound entry.eventId) clean)).2.agent =
      some { a with state := a.state.confirmed entry } := by
  have hs := (h.memory a ha).1.coherent
  have hp : plan pki a.retention a.state (.confirmOutbound entry.eventId) = .ok (.store (a.state.confirmed entry) .done) := by
    rw [plan, planChange_eq_ok]
    exact ⟨_, hs.consistent.confirmOutbound_eq he hready, rfl⟩
  exact h.step_change ha hexp hp (hs.confirmed_consistent he hb) rfl

/-- So does a reconnect under the revision that waits for it, -/
theorem Sound.step_reconnect (h : Sound pki d) (ha : d.agent = some a) (hexp : 0 < a.state.current.expiresAt)
    {revision : NonZeroU64} (hrec : a.state.reconnectRevision = some revision.1) :
    (d.step pki (.call (.markCurrentCredentialConnected revision) clean)).1 = some (.ok .done) ∧
    (d.step pki (.call (.markCurrentCredentialConnected revision) clean)).2.agent =
      some { a with state := { a.state with outbox := a.state.outbox.map unblock, reconnectRevision := none } } := by
  have hs := (h.memory a ha).1.coherent
  have hp : plan pki a.retention a.state (.markCurrentCredentialConnected revision) =
      .ok (.store { a.state with outbox := a.state.outbox.map unblock, reconnectRevision := none } .done) := by
    rw [plan, planChange_eq_ok]
    exact ⟨_, markReconnected_eq_some.2 ⟨hrec, rfl⟩, rfl⟩
  exact h.step_change ha hexp hp (hs.reconnected_consistent hrec) rfl

/-- and the settlement of the pending delivery, under its token -/
theorem Sound.step_settled (h : Sound pki d) (ha : d.agent = some a) (hexp : 0 < a.state.current.expiresAt)
    {p : StoredInboundSettlement} (hpending : a.state.pendingInbound = some p) :
    (d.step pki (.call (.markPendingInboundSettled p.settlementToken) clean)).1 = some (.ok .done) ∧
    (d.step pki (.call (.markPendingInboundSettled p.settlementToken) clean)).2.agent =
      some { a with state := { a.state with pendingInbound := some { p with settled := true } } } := by
  have hs := (h.memory a ha).1.coherent
  have hp : plan pki a.retention a.state (.markPendingInboundSettled p.settlementToken) =
      .ok (.store { a.state with pendingInbound := some { p with settled := true } } .done) := by
    rw [plan, planChange_eq_ok]
    refine ⟨_, ?_, rfl⟩
    unfold markInboundSettled
    rw [hpending]
    dsimp only
    rw [if_neg (by simp)]
  exact h.step_change ha hexp hp (hs.consistent.settled_consistent hpending) rfl

/-- or because nothing came of it. -/
theorem Sound.step_absent (h : Sound pki d) (ha : d.agent = some a) (hexp : 0 < a.state.current.expiresAt)
    {p : StoredInboundSettlement} (hpending : a.state.pendingInbound = some p) :
    (d.step pki (.call .markPendingInboundAbsent clean)).1 = some (.ok .done) ∧
    (d.step pki (.call .markPendingInboundAbsent clean)).2.agent =
      some { a with state := { a.state with pendingInbound := some { p with settled := true } } } := by
  have hs := (h.memory a ha).1.coherent
  have hp : plan pki a.retention a.state .markPendingInboundAbsent =
      .ok (.store { a.state with pendingInbound := some { p with settled := true } } .done) := by
    rw [plan, planChange_eq_ok]
    refine ⟨_, ?_, rfl⟩
    unfold markInboundSettled
    rw [hpending]
    rfl
  exact h.step_change ha hexp hp (hs.consistent.settled_consistent hpending) rfl

end Session

end RssIncubator.Agent
