import RssIncubator.Agent.Candidates

/-!
# What the journal answers, and what outlives it

Three lifetimes run side by side: an entry of the journal ends with its retention, an acknowledgement with
its confirmation, a pending delivery with its report.  The journal alone decides how a delivery is answered.
`admission_iff` says when that goes wrong for the checks of the document, `redelivery_iff` when it goes wrong
for the pending delivery itself, and `duplicate_iff` when an answer of `Duplicate` leaves the command without
the acknowledgement it is owed.
-/

namespace RssIncubator.Agent

open Lib StateV1 StoredOutbound

/-! ### Errors of the decision -/

@[simp] theorem except_bind_error {ε α β : Type} {x : Except ε α} {f : α → Except ε β} {e : ε} :
    (x >>= f) = .error e ↔ x = .error e ∨ ∃ a, x = .ok a ∧ f a = .error e := by
  cases x <;> simp [bind, Except.bind]

section Errors

variable {pki : Pki} {retention : NonZeroU32} {s : StateV1} {e : StoreError}

theorem reserveOutbox_error {n : ℕ} (h : s.reserveOutbox n = .error e) : e = .outboxFull := by
  unfold reserveOutbox at h
  split at h <;> cases h
  rfl

theorem reserveCommandJournal_error (h : s.reserveCommandJournal = .error e) : e = .commandJournalFull := by
  unfold reserveCommandJournal at h
  split at h <;> cases h
  rfl

theorem planRejection_error {expiry : ℕ} {c : RejectedCommand} {error : AgentError}
    (h : planRejection s expiry c = .error error) :
    error = .store .outboxFull ∨ error = .store .commandJournalFull := by
  simp only [planRejection, except_bind_error, mapError_eq_error, mapError_eq_ok] at h
  rcases h with ⟨e, he, rfl⟩ | ⟨u, -, ⟨e, he, rfl⟩ | ⟨u', -, h⟩⟩
  · rw [reserveOutbox_error he]
    exact .inl rfl
  · rw [reserveCommandJournal_error he]
    exact .inr rfl
  · cases h

/-- The entry that answers a delivery. -/
theorem commandMatch_eq_some {commandId fingerprint : String} {now : ℕ} {b : Bool}
    (h : s.commandMatch commandId fingerprint now = some b) :
    ∃ c ∈ s.commandJournal, c.commandId = commandId ∧ now < c.retainUntilEpochSeconds ∧
      (b = true ↔ c.fingerprint = fingerprint) := by
  unfold commandMatch at h
  obtain ⟨c, hc, rfl⟩ := Option.map_eq_some_iff.1 h
  have hp := List.find?_some hc
  simp only [decide_eq_true_eq] at hp
  exact ⟨c, List.mem_of_find?_eq_some hc, hp.1, hp.2, by simp⟩

theorem exists_journalled {d : Delivery} (h : s.answer d = some true) :
    ∃ c, s.journalled d = some c ∧ c ∈ s.commandJournal ∧ c.commandId = d.commandId ∧ c.fingerprint = d.fingerprint := by
  obtain ⟨c, hc, hid, -, hfp⟩ := commandMatch_eq_some h
  have hsome : (s.journalled d).isSome := by
    unfold StateV1.journalled
    rw [List.find?_isSome]
    exact ⟨c, hc, by simp [hid, hfp.1 rfl]⟩
  obtain ⟨c', hc'⟩ := Option.isSome_iff_exists.1 hsome
  have hp := List.find?_some hc'
  simp only [decide_eq_true_eq] at hp
  exact ⟨c', hc', List.mem_of_find?_eq_some hc', hp⟩

theorem planReplay_error {d : Delivery} {error : AgentError} (hm : s.answer d = some true)
    (h : planReplay s d.commandId d.fingerprint = .error error) : error = .store .outboxFull := by
  unfold planReplay at h
  split at h
  · cases h
  · simp only [except_bind_error, mapError_eq_error, mapError_eq_ok] at h
    rcases h with ⟨e, he, rfl⟩ | ⟨u, -, ⟨e, he, rfl⟩ | ⟨c, -, h⟩⟩
    · rw [reserveOutbox_error he]
    · obtain ⟨c, hc, -⟩ := exists_journalled hm
      unfold StateV1.journalled at hc
      rw [replayCommand, hc] at he
      cases he
    · cases h

theorem planConflict_error {commandId fingerprint : String} {generation fence now : ℕ} {error : AgentError}
    (h : planConflict s commandId fingerprint generation fence now = .error error) : error = .store .outboxFull := by
  unfold planConflict at h
  split at h
  · cases h
  · simp only [except_bind_error, mapError_eq_error, mapError_eq_ok] at h
    rcases h with ⟨e, he, rfl⟩ | ⟨u, -, h⟩
    · rw [reserveOutbox_error he]
    · cases h

theorem planCommit_error {identity : DeviceIdentity} {command : DeviceCommand} {artifact : ResolvedArtifact} {now : ℕ}
    {error : AgentError} (hrev : s.current.credentialRevision < u64Max)
    (h : planCommit retention s identity command artifact now = .error error) :
    error = .store .outboxFull ∨ error = .store .commandJournalFull := by
  simp only [planCommit, except_bind_error, mapError_eq_error, mapError_eq_ok] at h
  rcases h with ⟨e, he, rfl⟩ | ⟨u, -, ⟨e, he, rfl⟩ | ⟨u', -, ⟨e, he, rfl⟩ | ⟨r, -, h⟩⟩⟩
  · rw [reserveOutbox_error he]
    exact .inl rfl
  · rw [reserveCommandJournal_error he]
    exact .inr rfl
  · have hok : (s.expireCommandJournal (unsigned (observedAt now))).nextRevision =
        .ok ⟨s.current.credentialRevision + 1, by omega, by omega⟩ := nextRevision_eq_ok.2 rfl
    rw [hok] at he
    cases he
  · cases h

/-- The errors a delivery can be refused with before anything is written. -/
theorem plan_error {call : Call} {d : Delivery} {error : AgentError} (hs : s.Consistent) (hd : call.delivery = some d)
    (hrev : s.current.credentialRevision < u64Max) (h : plan pki retention s call = .error error) :
    error = .store .outboxFull ∨ error = .store .commandJournalFull ∨ error = .rotationInFlight ∨
      error = .unexpectedDelivery := by
  cases call with
  | applyCommand topic command now catalog =>
    simp only [plan] at h
    rcases hm : s.commandMatch command.commandId.expose (commandFingerprint command) now with _ | _ | _ <;>
      rw [hm] at h <;> dsimp only at h
    · unfold planEvaluate at h
      split at h
      · cases h
        exact .inr (.inr (.inl rfl))
      have hreject : ∀ {t c}, planRejection s t c = .error error →
          error = .store .outboxFull ∨ error = .store .commandJournalFull ∨ error = .rotationInFlight ∨
            error = .unexpectedDelivery := fun h => (planRejection_error h).elim .inl fun h => .inr (.inl h)
      rw [hs.currentIdentity] at h
      change (if _ then _ else _) = _ at h
      rcases hres : catalog.resolve pki hs.identity command now with e | artifact <;> rw [hres] at h <;> dsimp only at h
      · split_ifs at h
        · exact hreject h
        · exact hreject h
        · exact hreject h
      · split_ifs at h
        · exact hreject h
        · exact hreject h
        · exact hreject h
        · exact hreject h
        · exact hreject h
        · exact (planCommit_error hrev h).elim .inl fun h => .inr (.inl h)
    · exact .inl (planConflict_error h)
    · exact .inl (planReplay_error (d := ⟨_, _, now⟩) hm h)
  | rejectMalformedDelivery topic commandId payload now =>
    simp only [plan] at h
    rw [hs.currentIdentity] at h
    change (if _ then _ else _) = _ at h
    split at h
    · cases h
      exact .inr (.inr (.inr rfl))
    rcases hm : s.commandMatch commandId (malformedFingerprint topic commandId payload) now with _ | _ | _ <;>
      rw [hm] at h <;> dsimp only at h
    · exact (planRejection_error h).elim .inl fun h => .inr (.inl h)
    · exact .inl (planConflict_error h)
    · exact .inl (planReplay_error (d := ⟨_, _, now⟩) hm h)
  | confirmOutbound event => cases hd
  | markCurrentCredentialConnected revision => cases hd
  | markPendingInboundSettled token => cases hd
  | markPendingInboundAbsent => cases hd

end Errors

/-! ### Admissions -/

/-- A delivery under this name is admitted anew although something of an earlier command still lingers. -/
structure StateV1.Stranded (s : StateV1) (commandId : String) (now : ℕ) : Prop where
  expired : ∀ c ∈ s.commandJournal, c.commandId = commandId → c.retainUntilEpochSeconds ≤ now
  lingers : s.Lingers commandId
  outbox : s.outbox.length < outboxLimit
  journal : (s.expireCommandJournal now).commandJournal.length < commandJournalLimit

instance (s : StateV1) (commandId : String) (now : ℕ) : Decidable (s.Stranded commandId now) :=
  decidable_of_iff ((∀ c ∈ s.commandJournal, c.commandId = commandId → c.retainUntilEpochSeconds ≤ now) ∧
    s.Lingers commandId ∧ s.outbox.length < outboxLimit ∧
    (s.expireCommandJournal now).commandJournal.length < commandJournalLimit)
    ⟨fun ⟨h1, h2, h3, h4⟩ => ⟨h1, h2, h3, h4⟩, fun ⟨h1, h2, h3, h4⟩ => ⟨h1, h2, h3, h4⟩⟩

section Admission

variable {pki : Pki} {retention : NonZeroU32} {s c : StateV1} {call : Call} {dec : Decision} {reply : Reply} {d : Delivery}

theorem retentionDeadline_pos (retention : NonZeroU32) (observedAt : ℤ) : 0 < retentionDeadline retention observedAt := by
  have := retention.2.1
  unfold retentionDeadline saturatingAdd u64Max
  omega

variable (call) in
theorem wellFormed_rejected {generation fence : ℕ} {rejection : CommandRejection} (hd : call.delivery = some d)
    (hid : d.commandId ≠ "") (hgen : 0 < generation) (hfence : 0 < fence) :
    let r := rejectedCommand retention d.commandId d.fingerprint generation fence rejection d.now
    WellFormed r.commandId r.fingerprint r.generation r.fence r.observedAt r.retainUntilEpochSeconds :=
  ⟨hid, Call.delivery_valid hd, hgen, hfence, observedAt_nonneg _, retentionDeadline_pos _ _⟩

/-- The candidate of a delivery passes the checks unless the command is stranded.  Only the event of an acknowledgement
that is queued again has to be told apart from the others by its hash. -/
theorem Decides.validate (h : Decides pki retention s call dec) (hs : s.Coherent) (hexpires : 0 < s.current.expiresAt)
    (hpki : PositiveExpiry pki) (hcall : call.delivery = some d) (hid : d.commandId ≠ "") (hnow : d.now ≤ i64Max)
    (hseq : s.deviceSequence + 2 ≤ u64Max)
    (hd : reply = .outcome .duplicate → EventsDistinct (s.events ++ [(.ack, d.commandId)]))
    (hc : dec.candidate = some (c, reply)) (hno : ¬ s.Stranded d.commandId d.now) : c.validate = .ok () := by
  rw [validate_eq_ok]
  cases h with
  | duplicate hd' hm hack => cases hc
  | replay hd' hm hack hroom hfind =>
    cases hc
    obtain rfl := Option.some.inj (hcall.symm.trans hd')
    obtain ⟨c', hc', hmem, hcid, -⟩ := exists_journalled hm
    obtain rfl := Option.some.inj (hfind.symm.trans hc')
    have hle := hs.journalled _ hmem
    refine ⟨hs.replayed_consistent hmem ?_ hroom ?_ (by omega), hexpires⟩
    · rw [hcid]
      exact hack
    · rw [hcid]
      exact hd rfl
  | conflicting hd' hm hknown => cases hc
  | conflict hd' hm hknown hroom hgen hfence =>
    cases hc
    obtain rfl := Option.some.inj (hcall.symm.trans hd')
    exact ⟨hs.consistent.conflict hid hgen hfence (observedAt_nonneg _) hknown hroom (by omega), hexpires⟩
  | reject hd' hm hgen hfence hexpiry hroom hjournal =>
    cases hc
    obtain rfl := Option.some.inj (hcall.symm.trans hd')
    rw [unsigned_observedAt hnow, or_self] at hexpiry
    subst hexpiry
    have hexp := commandMatch_eq_none.1 hm
    refine ⟨(hs.consistent.reject_iff (wellFormed_rejected call hd' hid hgen hfence) hexp hroom hjournal (by omega)).2 ?_,
      hexpires⟩
    intro hl
    exact hno ⟨hexp, hl, hroom, hjournal⟩
  | accept hm hflight hid' htopic hdevice hdeadline hres hfence hgen hcred hroom hjournal hrev =>
    rename_i topic command now catalog identity artifact revision
    cases hc
    cases hcall
    rw [unsigned_observedAt hnow] at hjournal ⊢
    have hexp := commandMatch_eq_none.1 hm
    obtain ⟨⟨target, hval⟩, -⟩ := ArtifactCatalog.resolve_ok hres
    have hpos : 0 < artifact.credential.expiresAt := hpki _ _ _ _ _ _ hval
    refine ⟨hs.accepted_consistent ⟨hid, validDigest_digestText _, command.desiredGeneration.2.1, command.fenceEpoch.2.1,
      observedAt_nonneg _, retentionDeadline_pos _ _⟩ hid' hflight artifact.credentialGeneration.2 revision.2.1 hpos
      artifact.digest.valid hexp ?_ hroom hjournal hseq, hpos⟩
    intro hack
    exact hno ⟨hexp, .inl hack, by omega, hjournal⟩
  | confirm h => cases hcall
  | reconnect h => cases hcall
  | settled h => cases hcall
  | absent h => cases hcall

/-- A malformed payload on the current topic is rejected on the spot once the journal does not know its name. -/
theorem plan_malformed {commandId : String} {payload : Bytes} {now : ℕ} (hs : s.Consistent)
    (hexp : ∀ c ∈ s.commandJournal, c.commandId = commandId → c.retainUntilEpochSeconds ≤ now)
    (hroom : s.outbox.length < outboxLimit)
    (hjournal : (s.expireCommandJournal now).commandJournal.length < commandJournalLimit) :
    plan pki retention s (.rejectMalformedDelivery hs.identity.commandTopic commandId payload now) =
      .ok (.store ((s.expireCommandJournal now).reject (rejectedCommand retention commandId
        (malformedFingerprint hs.identity.commandTopic commandId payload) s.current.desiredGeneration
        s.current.fenceEpoch .malformedCommand now)) (.outcome (.rejected .malformedCommand))) := by
  refine except_bind_ok.2 ⟨hs.identity, mapError_eq_ok.2 hs.currentIdentity, ?_⟩
  rw [if_neg (by simp)]
  dsimp only
  rw [commandMatch_eq_none.2 hexp]
  exact planRejection_eq_ok.2 ⟨hroom, hjournal, rfl⟩

/-- One whose name stands in the journal with another payload is rejected as a conflict. -/
theorem plan_conflicting {topic commandId : String} {payload : Bytes} {now : ℕ} (hs : s.Consistent)
    (htopic : topic = hs.identity.commandTopic ∨ s.pendingInbound.map (·.topic) = some topic)
    (hm : s.commandMatch commandId (malformedFingerprint topic commandId payload) now = some false)
    (hknown : s.hasConflictingReplay commandId (malformedFingerprint topic commandId payload) = false)
    (hroom : s.outbox.length < outboxLimit) :
    plan pki retention s (.rejectMalformedDelivery topic commandId payload now) =
      .ok (.store (s.rejectConflictingReplay commandId (malformedFingerprint topic commandId payload)
        s.current.desiredGeneration s.current.fenceEpoch (observedAt now)) (.outcome (.rejected .malformedCommand))) := by
  refine except_bind_ok.2 ⟨hs.identity, mapError_eq_ok.2 hs.currentIdentity, ?_⟩
  rw [if_neg (by tauto)]
  dsimp only
  rw [hm]
  show planConflict s commandId _ _ _ now = _
  unfold planConflict
  rw [if_neg (by simp [hknown])]
  exact except_bind_ok.2 ⟨(), mapError_eq_ok.2 (reserveOutbox_eq_ok.2 hroom), rfl⟩

end Admission

section Deliveries

variable {pki : Pki} {device : Device} {a : Running} {commandId : String} {payload : Bytes} {now : ℕ}

/-- Without failures a malformed payload under a new name is rejected. -/
theorem Sound.step_malformed (h : Sound pki device) (hpki : PositiveExpiry pki) (ha : device.agent = some a)
    {topic : String} (hs : a.state.Consistent) (htopic : topic = hs.identity.commandTopic) (hid : commandId ≠ "")
    (hexp : ∀ c ∈ a.state.commandJournal, c.commandId = commandId → c.retainUntilEpochSeconds ≤ now)
    (hlinger : ¬ a.state.Lingers commandId) (hroom : a.state.outbox.length < outboxLimit)
    (hjournal : (a.state.expireCommandJournal now).commandJournal.length < commandJournalLimit)
    (hseq : a.state.deviceSequence < u64Max) :
    (device.step pki (.call (.rejectMalformedDelivery topic commandId payload now) clean)).1 =
      some (.ok (.outcome (.rejected .malformedCommand))) ∧
    (device.step pki (.call (.rejectMalformedDelivery topic commandId payload now) clean)).2.agent =
      some ⟨(a.state.expireCommandJournal now).reject (rejectedCommand a.retention commandId
        (malformedFingerprint topic commandId payload) a.state.current.desiredGeneration a.state.current.fenceEpoch
        .malformedCommand now), a.retention⟩ := by
  subst htopic
  refine h.step_change ha (h.expires hpki ha) (plan_malformed hs hexp hroom hjournal) ?_ rfl
  exact (hs.reject_iff (wellFormed_rejected (.rejectMalformedDelivery hs.identity.commandTopic commandId payload now)
    rfl hid hs.desiredGeneration_pos hs.fenceEpoch_pos) hexp hroom hjournal hseq).2 hlinger

/-- A conflicting one is rejected unless it is already. -/
theorem Sound.step_conflicting (h : Sound pki device) (hpki : PositiveExpiry pki) (ha : device.agent = some a)
    {topic : String} (hs : a.state.Consistent)
    (htopic : topic = hs.identity.commandTopic ∨ a.state.pendingInbound.map (·.topic) = some topic) (hid : commandId ≠ "")
    (hm : a.state.commandMatch commandId (malformedFingerprint topic commandId payload) now = some false)
    (hknown : a.state.hasConflictingReplay commandId (malformedFingerprint topic commandId payload) = false)
    (hroom : a.state.outbox.length < outboxLimit) (hseq : a.state.deviceSequence < u64Max) :
    (device.step pki (.call (.rejectMalformedDelivery topic commandId payload now) clean)).1 =
      some (.ok (.outcome (.rejected .malformedCommand))) ∧
    (device.step pki (.call (.rejectMalformedDelivery topic commandId payload now) clean)).2.agent =
      some ⟨a.state.rejectConflictingReplay commandId (malformedFingerprint topic commandId payload)
        a.state.current.desiredGeneration a.state.current.fenceEpoch (observedAt now), a.retention⟩ :=
  h.step_change ha (h.expires hpki ha) (plan_conflicting hs htopic hm hknown hroom)
    (hs.conflict hid hs.desiredGeneration_pos hs.fenceEpoch_pos (observedAt_nonneg _) hknown hroom hseq) rfl

end Deliveries

/-- **When no delivery under a name ends in `InvalidState`**: exactly when the name is not stranded, in every
reachable state below the last sequence numbers and revisions. -/
theorem admission_iff {pki : Pki} (hpki : PositiveExpiry pki) (actions : List Action) {a : Running}
    (ha : (Device.fresh.run pki actions).agent = some a) (hseq : a.state.deviceSequence ≤ 2 ^ 64 - 3)
    (hrev : a.state.current.credentialRevision < 2 ^ 64 - 1) {now : ℕ} (hnow : now ≤ i64Max) (commandId : CommandId)
    (hd : EventsDistinct (a.state.events ++ [(.ack, commandId.expose)])) :
    (∀ call faults d, call.delivery = some d → d.commandId = commandId.expose → d.now = now →
      ((Device.fresh.run pki actions).step pki (.call call faults)).1 ≠ some (.err (.store .invalidState))) ↔
    ¬ a.state.Stranded commandId.expose now := by
  have hsound := sound_run pki actions
  generalize Device.fresh.run pki actions = device at ha hsound ⊢
  obtain ⟨hgood, -⟩ := hsound.memory a ha
  have hs := hgood.coherent
  have hmax : u64Max = 2 ^ 64 - 1 := rfl
  have hid := ne_empty_of_validCommandId commandId.valid
  constructor
  · intro hall hst
    refine hall (.rejectMalformedDelivery hs.consistent.identity.commandTopic commandId.expose [] now) clean _ rfl rfl rfl ?_
    rw [Device.step_call ha, perform_eq, plan_malformed hs.consistent hst.expired hst.outbox hst.journal,
      execute_store_invalid]
    · rfl
    · intro hv
      exact (hs.consistent.reject_iff (wellFormed_rejected (.rejectMalformedDelivery
        hs.consistent.identity.commandTopic commandId.expose [] now) rfl hid hs.consistent.desiredGeneration_pos
        hs.consistent.fenceEpoch_pos) hst.expired hst.outbox hst.journal (by omega)).1 (validate_eq_ok.1 hv).1 hst.lingers
  · intro hno call faults d hcall hdid hdnow hr
    obtain ⟨hend, -, -⟩ := perform_cases faults (w := ⟨device.tree, a.state⟩) pki a.retention hsound.layout call
    rw [Device.step_call ha] at hr
    generalize perform pki a.retention faults call ⟨device.tree, a.state⟩ = r at hend hr
    obtain ⟨o, w⟩ := r
    cases hr
    cases hend with
    | kept hstate hm hok herr =>
      rcases herr _ rfl with hp | ⟨dec, c, hp, hc, (⟨hv, -⟩ | he | ⟨-, he⟩)⟩
      · rcases plan_error hs.consistent hcall (by omega) hp with he | he | he | he <;> cases he
      · subst hdnow
        exact hv ((plan_cases hs.consistent hp).validate hs (hgood.expires (.inl hpki)) hpki hcall (hdid ▸ hid) hnow (by omega)
          (fun _ => hdid ▸ hd) hc (hdid ▸ hno))
      · cases he
      · cases he
    | committed hp hc hv hm hinst ho =>
      rcases ho with ⟨ho, -⟩ | ⟨ho, -⟩ | ⟨ho, -⟩ <;> cases ho

namespace Fixture

/-- A malformed payload is rejected, and its acknowledgement confirmed. -/
def readmitting : List Action :=
  [start, .call (malformed [1] now) clean, .call (.confirmOutbound (eventId .ack commandId.expose)) clean]

end Fixture

open Fixture in
/-- Its journal entry has run out, and nothing else is left of it: the name is admitted again. -/
theorem admission_readmitted : ∃ a ∈ (Device.fresh.run Fixture.pki readmitting).agent,
    (∃ c ∈ a.state.commandJournal, c.commandId = commandId.expose ∧ c.retainUntilEpochSeconds ≤ now + 300) ∧
    ((Device.fresh.run Fixture.pki readmitting).step Fixture.pki (.call (malformed [1] (now + 300)) clean)).1 =
      some (.ok (.outcome (.rejected .malformedCommand))) ∧
    ∀ call faults d, call.delivery = some d → d.commandId = commandId.expose → d.now = now + 300 →
      ((Device.fresh.run Fixture.pki readmitting).step Fixture.pki (.call call faults)).1 ≠
        some (.err (.store .invalidState)) := by
  have h : ∃ a ∈ (Device.fresh.run Fixture.pki readmitting).agent,
      (∃ c ∈ a.state.commandJournal, c.commandId = commandId.expose ∧ c.retainUntilEpochSeconds ≤ now + 300) ∧
      ((Device.fresh.run Fixture.pki readmitting).step Fixture.pki (.call (malformed [1] (now + 300)) clean)).1 =
        some (.ok (.outcome (.rejected .malformedCommand))) ∧ a.state.deviceSequence ≤ 2 ^ 64 - 3 ∧
      a.state.current.credentialRevision < 2 ^ 64 - 1 ∧ EventsDistinct (a.state.events ++ [(.ack, commandId.expose)]) ∧
      ¬ a.state.Stranded commandId.expose (now + 300) := by decide +kernel
  obtain ⟨a, ha, hexpired, hreply, hseq, hrev, hd, hno⟩ := h
  exact ⟨a, ha, hexpired, hreply, (admission_iff positiveExpiry readmitting ha hseq hrev (by decide) commandId hd).2 hno⟩

open Fixture in
/-- A malformed payload is rejected, its acknowledgement stays unconfirmed and its journal entry runs out: when
the payload comes again the agent fails. -/
theorem admission_stranded : PositiveExpiry Fixture.pki ∧ now + 300 ≤ i64Max ∧
    ∃ a ∈ (Device.fresh.run Fixture.pki [start, .call (malformed [1] now) clean]).agent,
      a.state.deviceSequence ≤ 2 ^ 64 - 3 ∧ a.state.current.credentialRevision < 2 ^ 64 - 1 ∧
      EventsDistinct (a.state.events ++ [(.ack, commandId.expose)]) ∧
      ((Device.fresh.run Fixture.pki [start, .call (malformed [1] now) clean]).step Fixture.pki
        (.call (malformed [1] (now + 300)) clean)).1 = some (.err (.store .invalidState)) :=
  ⟨positiveExpiry, by decide, by decide +kernel⟩

/-! ### The device of the tests, with its rotation in flight -/

namespace Fixture

/-- The first document. -/
def first : StateV1 :=
  firstState (identity one) ⟨one, one, one⟩ ⟨material one 0 .ca, material one 0 .certificate, material one 0 .privateKey,
    4102444800⟩ (computeArtifactDigestBytes (material one 0 .ca) (material one 0 .certificate) (material one 0 .privateKey))

theorem retention_positive : 0 < 300 ∧ 300 ≤ 4294967295 := by decide

def retention : NonZeroU32 := ⟨300, retention_positive⟩

/-- The document with the rotation in flight, for the artifact the catalog resolves. -/
def rotating (serial : UInt8) (artifact : ResolvedArtifact) : StateV1 :=
  (first.expireCommandJournal (unsigned (observedAt now))).accepted (identity one)
    (acceptedCommand retention (command serial) artifact two now)

theorem run_start : (Device.fresh.run Fixture.pki [start]).agent = some ⟨first, retention⟩ := by
  have h : (Device.fresh.run Fixture.pki [start]).agent.map (fun a => (a.state, a.retention)) = some (first, retention) := by
    decide +kernel
  obtain ⟨a, ha, he⟩ := Option.map_eq_some_iff.1 h
  rw [ha]
  cases a
  cases he
  rfl

theorem coherent_first : first.Coherent := ((sound_run Fixture.pki [start]).memory _ run_start).1.coherent

/-- A fresh device decides to install the artifact of the first command. -/
theorem plan_apply {serial : UInt8} (h : serial = 0 ∨ serial = 1) : ∃ artifact,
    artifact.credential.certificate = certificate two serial ∧
    plan Fixture.pki retention first (apply serial now) =
      .ok (.install 2 artifact.credential (rotating serial artifact) (.outcome .accepted)) ∧
    (rotating serial artifact).validate = .ok () := by
  have hinstalls : ((plan Fixture.pki retention first (apply serial now)).toOption.bind Decision.installs).map
      (fun i => i.2.certificate) = some (certificate two serial) := by
    rcases h with rfl | rfl <;> decide +kernel
  have hno : ¬ first.Stranded commandId.expose now := by decide
  rcases hp : plan Fixture.pki retention first (apply serial now) with e | dec <;> rw [hp] at hinstalls
  · cases hinstalls
  · obtain ⟨⟨n, cred⟩, hi, hcert⟩ := Option.map_eq_some_iff.1 hinstalls
    have hdec := plan_cases coherent_first.consistent hp
    cases hdec with
    | accept hm hflight hid htopic hdevice hdeadline hres hfence hgen hcred hroom hjournal hrev =>
      rename_i owner artifact revision
      obtain rfl : revision = two := Subtype.ext hrev
      obtain rfl : owner = identity one := by
        have hone : first.currentIdentity = .ok (identity one) := coherent_first.consistent.currentIdentity
        exact Except.ok.inj (hid.symm.trans hone)
      cases hi
      refine ⟨artifact, hcert, rfl, ?_⟩
      exact (plan_cases coherent_first.consistent hp).validate coherent_first (by decide) positiveExpiry rfl
        (ne_empty_of_validCommandId commandId.valid) (show now ≤ i64Max by decide) (by decide) (fun h => by cases h) rfl hno
    | duplicate => cases hi
    | replay => cases hi
    | conflicting => cases hi
    | conflict => cases hi
    | reject => cases hi

theorem start_revision : (Device.fresh.run Fixture.pki [start]).tree.get (revisionRoot 2) = none := by decide +kernel

/-- The first command is accepted. -/
theorem run_apply : ∃ artifact, (Device.fresh.run Fixture.pki [start, .call (apply 0 now) clean]).agent =
    some ⟨rotating 0 artifact, retention⟩ := by
  have hsound := sound_run Fixture.pki [start]
  obtain ⟨hgood, -⟩ := hsound.memory _ run_start
  obtain ⟨artifact, -, hp, hv⟩ := plan_apply (.inl rfl)
  have hinst := installRevision_pass_new (c := artifact.credential) hsound.layout hgood.installed.credentials start_revision
  exact ⟨artifact, (hsound.step_install run_start hp hv hinst).2⟩

/-- The one entry of its journal. -/
theorem rotating_retention (artifact : ResolvedArtifact) :
    ∃ c ∈ (rotating 0 artifact).commandJournal, c.commandId = commandId.expose ∧
      ∀ c' ∈ (rotating 0 artifact).commandJournal, c' = c ∧ c'.retainUntilEpochSeconds = now + 300 := by
  refine ⟨_, List.mem_append_right _ (List.mem_singleton.2 rfl), rfl, fun c' hc' => ?_⟩
  have hmem : c' ∈ ([] ++ [_] : List StoredCommand) := hc'
  rw [List.nil_append, List.mem_singleton] at hmem
  refine ⟨hmem, ?_⟩
  rw [hmem]
  show retentionDeadline retention (observedAt now) = now + 300
  decide

theorem rotating_distinct (artifact : ResolvedArtifact) :
    EventsDistinct ((rotating 0 artifact).events ++ [(.ack, commandId.expose)]) := by
  have h : EventsDistinct [(.ack, commandId.expose), (.report, commandId.expose), (.ack, commandId.expose)] := by
    decide +kernel
  exact h

end Fixture

/-! ### The pending delivery -/

/-- The answer to the pending delivery when it comes again: `Duplicate`, or `OutboxFull` when its
acknowledgement has to be queued again and there is no room for it. -/
def Recognised (s : StateV1) (commandId : String) (answer : Option (Outcome AgentError Reply)) : Prop :=
  answer = some (.ok (.outcome .duplicate)) ∨
    answer = some (.err (.store .outboxFull)) ∧ s.hasCommandAck commandId = false ∧ s.outbox.length = outboxLimit

/-- The journal entry of the pending delivery is within its retention. -/
def StateV1.PendingRetained (s : StateV1) (p : StoredInboundSettlement) (now : ℕ) : Prop :=
  ∃ c ∈ s.commandJournal, c.commandId = p.commandId ∧ now < c.retainUntilEpochSeconds

section Pending

variable {pki : Pki} {retention : NonZeroU32} {s : StateV1} {p : StoredInboundSettlement}

theorem StateV1.Consistent.pending_flight (h : s.Consistent) (hp : s.pendingInbound = some p) :
    s.rotationInFlight = true := by
  by_contra hne
  rw [Bool.not_eq_true] at hne
  have hone := h.pending_iff.1 (by rw [hp]; rfl)
  have hzero := reports_eq_zero.2 (rotationInFlight_eq_false.1 hne)
  omega

/-- Within its retention the pending delivery is answered from the journal. -/
theorem StateV1.Consistent.pending_answer (h : s.Consistent) (hp : s.pendingInbound = some p) {now : ℕ}
    (hret : s.PendingRetained p now) : s.commandMatch p.commandId p.fingerprint now = some true := by
  obtain ⟨c, hc, hid, hlt⟩ := hret
  obtain ⟨-, -, -, -, -, -, -, -, c', hc', hid', hfp⟩ := h.pending p hp
  rcases hm : s.commandMatch p.commandId p.fingerprint now with _ | b
  · have := commandMatch_eq_none.1 hm c hc hid
    omega
  · obtain ⟨c'', hc'', hid'', -, hb⟩ := commandMatch_eq_some hm
    rw [h.journal_unique hc'' hc' (hid''.trans hid'.symm)] at hb
    rw [hb.2 hfp]

/-- Past it the delivery is taken for a new command, and a new command has to wait for the rotation. -/
theorem plan_past_retention (h : s.Consistent) (hp : s.pendingInbound = some p) {topic : String} {command : DeviceCommand}
    {now : ℕ} {catalog : ArtifactCatalog} (hid : command.commandId.expose = p.commandId)
    (hret : ¬ s.PendingRetained p now) :
    plan pki retention s (.applyCommand topic command now catalog) = .error .rotationInFlight := by
  have hnone : s.commandMatch command.commandId.expose (commandFingerprint command) now = none := by
    rw [commandMatch_eq_none]
    intro c hc hcid
    by_contra hlt
    exact hret ⟨c, hc, hcid.trans hid, not_le.1 hlt⟩
  simp only [plan, hnone, planEvaluate, h.pending_flight hp, if_true]

end Pending

/-- **When the pending delivery is recognised**: exactly within the retention of its journal entry, in every
reachable state and for every clock. -/
theorem redelivery_iff {pki : Pki} (actions : List Action) {a : Running}
    (ha : (Device.fresh.run pki actions).agent = some a) {p : StoredInboundSettlement}
    (hp : a.state.pendingInbound = some p) {command : DeviceCommand} (hid : command.commandId.expose = p.commandId)
    (hfp : commandFingerprint command = p.fingerprint)
    (hd : EventsDistinct (a.state.events ++ [(.ack, p.commandId)])) (now : ℕ) (catalog : ArtifactCatalog) :
    Recognised a.state p.commandId ((Device.fresh.run pki actions).step pki
      (.call (.applyCommand p.topic command now catalog) clean)).1 ↔ a.state.PendingRetained p now := by
  have hsound := sound_run pki actions
  generalize Device.fresh.run pki actions = device at ha hsound ⊢
  obtain ⟨hgood, -⟩ := hsound.memory a ha
  have hs := hgood.coherent
  constructor
  · intro hrec
    by_contra hret
    rw [Sound.step_error ha (plan_past_retention hs.consistent hp hid hret)] at hrec
    rcases hrec with h | ⟨h, -⟩ <;> cases h
  · intro hret
    have hm := hs.consistent.pending_answer hp hret
    have hplan : plan pki a.retention a.state (.applyCommand p.topic command now catalog) =
        planReplay a.state p.commandId p.fingerprint := by
      simp only [plan, hid, hfp, hm]
    by_cases hack : a.state.hasCommandAck p.commandId = true
    · refine .inl ?_
      rw [Sound.step_keep ha (hplan.trans (if_pos hack))]
    · rw [Bool.not_eq_true] at hack
      obtain ⟨c, hc, hmem, hcid, hcfp⟩ := exists_journalled (d := ⟨p.commandId, p.fingerprint, now⟩) hm
      by_cases hroom : a.state.outbox.length + 1 ≤ outboxLimit
      · refine .inl ?_
        have hstore : plan pki a.retention a.state (.applyCommand p.topic command now catalog) =
            .ok (.store (a.state.replayed c) (.outcome .duplicate)) := by
          rw [hplan, planReplay, if_neg (by simp [hack])]
          simp only [except_bind_ok, mapError_eq_ok, reserveOutbox_eq_ok, exists_const]
          refine ⟨hroom, a.state.replayed c, ?_, rfl⟩
          unfold StateV1.journalled at hc
          rw [replayCommand, hc]
        have hv : (a.state.replayed c).validate = .ok () := by
          refine validate_eq_ok.2 ⟨?_, hgood.expires (.inr (List.ne_nil_of_mem hmem))⟩
          refine hs.replayed_consistent hmem ?_ hroom ?_ ?_
          · rw [hcid]
            exact hack
          · rw [hcid]
            exact hd
          · exact hs.pendingSequence p hp c hmem hcid
        exact (hsound.step_store ha hstore hv).1
      · refine .inr ⟨?_, hack, ?_⟩
        · rw [Sound.step_error ha (e := .store .outboxFull)]
          rw [hplan, planReplay, if_neg (by simp [hack]), reserveOutbox, if_neg hroom]
          rfl
        · have := hs.consistent.outbox_length
          omega

open Fixture in
/-- The delivery that started the rotation comes again at once. -/
theorem redelivery_now : ∃ a ∈ (Device.fresh.run Fixture.pki [start, .call (apply 0 now) clean]).agent,
    ∃ p ∈ a.state.pendingInbound, Recognised a.state p.commandId
      ((Device.fresh.run Fixture.pki [start, .call (apply 0 now) clean]).step Fixture.pki
        (.call (.applyCommand p.topic (command 0) now (catalog 0)) clean)).1 := by
  obtain ⟨artifact, ha⟩ := run_apply
  obtain ⟨c, hc, hid, hret⟩ := rotating_retention artifact
  refine ⟨_, ha, _, rfl, ?_⟩
  refine (redelivery_iff _ ha rfl rfl rfl (rotating_distinct artifact) now (catalog 0)).2 ⟨c, hc, hid, ?_⟩
  rw [(hret c hc).2]
  decide

open Fixture in
/-- The rotation outlasts the retention of its command: its own delivery is then refused. -/
theorem redelivery_late : ∃ a ∈ (Device.fresh.run Fixture.pki [start, .call (apply 0 now) clean]).agent,
    ∃ p ∈ a.state.pendingInbound, (command 0).commandId.expose = p.commandId ∧
      commandFingerprint (command 0) = p.fingerprint ∧ EventsDistinct (a.state.events ++ [(.ack, p.commandId)]) ∧
      ((Device.fresh.run Fixture.pki [start, .call (apply 0 now) clean]).step Fixture.pki
        (.call (.applyCommand p.topic (command 0) (now + 300) (catalog 0)) clean)).1 = some (.err .rotationInFlight) ∧
      ¬ Recognised a.state p.commandId ((Device.fresh.run Fixture.pki [start, .call (apply 0 now) clean]).step Fixture.pki
        (.call (.applyCommand p.topic (command 0) (now + 300) (catalog 0)) clean)).1 := by
  obtain ⟨artifact, ha⟩ := run_apply
  have hs := ((sound_run Fixture.pki [start, .call (apply 0 now) clean]).memory _ ha).1.coherent
  have hplan : ∀ p, (rotating 0 artifact).pendingInbound = some p → p.commandId = commandId.expose →
      plan Fixture.pki retention (rotating 0 artifact) (.applyCommand p.topic (command 0) (now + 300) (catalog 0)) =
        .error .rotationInFlight := by
    intro p hp hid
    refine plan_past_retention hs.consistent hp hid.symm ?_
    rintro ⟨c, hc, -, hlt⟩
    obtain ⟨c', -, -, hret⟩ := rotating_retention artifact
    have := (hret c hc).2
    omega
  refine ⟨_, ha, _, rfl, rfl, rfl, rotating_distinct artifact, ?_⟩
  rw [Sound.step_error ha (hplan _ rfl rfl)]
  refine ⟨rfl, ?_⟩
  rintro (h | ⟨h, -⟩) <;> cases h

/-! ### Duplicates -/

/-- The acknowledgement of the command itself is outstanding. -/
def StateV1.OriginalOutstanding (s : StateV1) (commandId : String) : Prop :=
  ∃ o ∈ s.outbox, ∃ a ∈ o.ackPayload, a.Ordinary ∧ a.commandId = commandId

instance (s : StateV1) (commandId : String) : Decidable (s.OriginalOutstanding commandId) :=
  inferInstanceAs (Decidable (∃ o ∈ s.outbox, ∃ a ∈ o.ackPayload, _))

/-- The outbox holds the acknowledgement of a command as the journal has it. -/
def StateV1.Owed (s : StateV1) (commandId : String) : Prop :=
  ∃ o ∈ s.outbox, o.eventId = Agent.eventId .ack commandId ∧ ∃ a ∈ o.ackPayload,
    ∃ c ∈ s.commandJournal, c.commandId = commandId ∧ a.toFact = c.acknowledgement.toFact

instance (s : StateV1) (commandId : String) : Decidable (s.Owed commandId) :=
  inferInstanceAs (Decidable (∃ o ∈ s.outbox, _))

/-- For a journalled command, what is owed is the original. -/
theorem StateV1.Coherent.owed_iff {s : StateV1} (h : s.Coherent) {c : StoredCommand} (hc : c ∈ s.commandJournal) :
    s.Owed c.commandId ↔ s.OriginalOutstanding c.commandId := by
  constructor
  · rintro ⟨o, ho, he, a, ha, c', hc', hid, hfact⟩
    have hcmd : a.commandId = c'.acknowledgement.commandId := congrArg AckFact.commandId hfact
    refine ⟨o, ho, a, ha, ?_, ?_⟩
    · -- a rejection of a conflicting payload has an event of another kind
      by_contra hne
      rw [(h.consistent.ack_eventId ho ha).1, ackEvent_conflicting hne] at he
      cases eventId_kind he
    · rw [hcmd, ← (h.consistent.commands c' hc').1, hid]
  · rintro ⟨o, ho, a, ha, hord, hid⟩
    refine ⟨o, ho, ?_, a, ha, c, hc, rfl, h.agree o ho a ha hord c hc hid.symm⟩
    rw [(h.consistent.ack_eventId ho ha).1, ackEvent_ordinary hord, hid]

/-- **When `Duplicate` leaves the acknowledgement in the outbox**: exactly when the acknowledgements outstanding
under the name, if there are any, include the original one. -/
theorem duplicate_iff {pki : Pki} (actions : List Action) {a a' : Running}
    (ha : (Device.fresh.run pki actions).agent = some a) {call : Call} {d : Delivery} (hcall : call.delivery = some d)
    {faults : Faults} (hr : ((Device.fresh.run pki actions).step pki (.call call faults)).1 = some (.ok (.outcome .duplicate)))
    (ha' : ((Device.fresh.run pki actions).step pki (.call call faults)).2.agent = some a') :
    a'.state.Owed d.commandId ↔
      (a.state.hasCommandAck d.commandId = true → a.state.OriginalOutstanding d.commandId) := by
  have hsound := sound_run pki actions
  generalize Device.fresh.run pki actions = device at ha hsound hr ha' ⊢
  have hs := (hsound.memory a ha).1.coherent
  obtain ⟨s', hs', h⟩ := hsound.call_ok ha hr
  obtain rfl := Option.some.inj (hs'.symm.trans ha')
  rcases h with ⟨rfl, -, hp⟩ | ⟨-, dec, hp, hc, hv⟩
  · -- nothing was written: an acknowledgement under the name was outstanding
    cases plan_cases hs.consistent hp with
    | duplicate hd hm hack =>
      obtain rfl := Option.some.inj (hcall.symm.trans hd)
      obtain ⟨c, -, hmem, hid, -⟩ := exists_journalled hm
      rw [← hid] at hack ⊢
      rw [hs.owed_iff hmem]
      exact ⟨fun h _ => h, fun h => h hack⟩
  · have hdec := plan_cases hs.consistent hp
    have hcoh := hdec.coherent hs hc hv
    cases hdec with
    | replay hd hm hack hroom hfind =>
      obtain rfl := Option.some.inj (hcall.symm.trans hd)
      cases hc
      rename_i command
      obtain ⟨c, hc, hmem, hid, -⟩ := exists_journalled hm
      obtain rfl := Option.some.inj (hfind.symm.trans hc)
      rw [hack, ← hid]
      refine ⟨fun _ h => (by cases h), fun _ => ?_⟩
      refine (hcoh.owed_iff hmem).2 ⟨_, List.mem_append_right _ (List.mem_singleton.2 rfl), _, rfl, ?_, ?_⟩
      · exact replayed_ordinary (hs.causes _ hmem)
      · rw [replayed_commandId]
        exact (hs.consistent.commands _ hmem).1.symm
    | duplicate => cases hc
    | conflict => cases hc
    | conflicting => cases hc
    | reject => cases hc
    | accept => cases hc
    | confirm => cases hc
    | reconnect => cases hc
    | settled => cases hc
    | absent => cases hc

open Fixture in
/-- The delivery that started the rotation comes again: its acknowledgement is still outstanding. -/
theorem duplicate_outstanding : ∃ a' ∈ ((Device.fresh.run Fixture.pki [start, .call (apply 0 now) clean]).step Fixture.pki
    (.call (apply 0 now) clean)).2.agent, a'.state.Owed commandId.expose := by
  obtain ⟨artifact, ha⟩ := run_apply
  have hs := ((sound_run Fixture.pki [start, .call (apply 0 now) clean]).memory _ ha).1.coherent
  have horig : (rotating 0 artifact).OriginalOutstanding commandId.expose :=
    ⟨_, List.mem_append_right _ List.mem_cons_self, _, rfl, rfl, rfl⟩
  have hack : (rotating 0 artifact).hasCommandAck commandId.expose = true := by
    by_contra hne
    obtain ⟨o, ho, k, hk, -, hid⟩ := horig
    exact hasCommandAck_eq_false.1 (Bool.not_eq_true _ ▸ hne) o ho k hk hid
  have hanswer : (rotating 0 artifact).commandMatch commandId.expose (commandFingerprint (command 0)) now = some true := by
    obtain ⟨c, hc, hid, hret⟩ := rotating_retention artifact
    refine hs.consistent.pending_answer (p := (acceptedCommand retention (command 0) artifact two now).pending
      (Fixture.identity one)) rfl ⟨c, hc, hid, ?_⟩
    rw [(hret c hc).2]
    decide
  have hplan : plan Fixture.pki retention (rotating 0 artifact) (apply 0 now) = .ok (.keep (.outcome .duplicate)) := by
    simp only [Fixture.apply, plan]
    rw [show (command 0).commandId.expose = commandId.expose from rfl, hanswer]
    exact if_pos hack
  have hstep := Sound.step_keep ha hplan clean
  have hdelivery : (apply 0 now).delivery = some ⟨commandId.expose, commandFingerprint (command 0), now⟩ := rfl
  refine ⟨_, by rw [hstep]; exact ha, ?_⟩
  exact (duplicate_iff _ ha hdelivery (by rw [hstep]) (by rw [hstep]; exact ha)).2 fun _ => horig

open Fixture in
/-- A payload is rejected, another one under the same name is rejected as conflicting, and the first rejection
is confirmed.  When the first payload comes again it is answered `Duplicate`, and nothing is queued for it. -/
theorem duplicate_suppressed :
    let d := Device.fresh.run Fixture.pki [start, .call (malformed [1] now) clean, .call (malformed [2] now) clean,
      .call (.confirmOutbound (eventId .ack commandId.expose)) clean]
    (d.step Fixture.pki (.call (malformed [1] now) clean)).1 = some (.ok (.outcome .duplicate)) ∧
    ∃ a' ∈ (d.step Fixture.pki (.call (malformed [1] now) clean)).2.agent, ¬ a'.state.Owed commandId.expose := by
  decide +kernel

end RssIncubator.Agent
