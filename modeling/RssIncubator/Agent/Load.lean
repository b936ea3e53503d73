import RssIncubator.Agent.Drain
import RssIncubator.Agent.Durable

/-!
# What loading a document establishes

`CrossField` relates the report of a rotation to the pending delivery, to the stored credential and to the journal,
and the journal to the counter.  Every document the agent itself writes is so (`written_crossField`).  `verify`
looks at each of these parts but not at all they have to do with each other: a document that is accepted is so when the
agent wrote it or when it has no journal (`accepted_crossField`), and what `verify` leaves open is whether report and
journal entry are the ones `accept` makes for the pending command (`crossField_iff`).
-/

namespace RssIncubator.Agent

open Lib StateV1

/-! ### The relations -/

/-- A report agrees with the pending delivery, the credential and the journal. -/
structure StateV1.Rotates (s : StateV1) (report : StoredReport) : Prop where
  pending : ∃ p ∈ s.pendingInbound, p.commandId = report.commandId ∧
    p.credentialGeneration < s.identity.credentialGeneration
  credentialGeneration : report.credentialGeneration = s.identity.credentialGeneration
  expiresAt : report.expiresAt = some s.current.expiresAt
  journal : ∃ c ∈ s.commandJournal, c.commandId = report.commandId ∧ c.acknowledgement.rejection = none ∧
    c.acknowledgement.desiredGeneration = s.current.desiredGeneration ∧
    c.acknowledgement.fenceEpoch = s.current.fenceEpoch

/-- The parts of a document agree with each other. -/
structure StateV1.CrossField (s : StateV1) : Prop where
  rotates : ∀ o ∈ s.outbox, ∀ report ∈ o.reportPayload, s.Rotates report
  numbered : ∀ c ∈ s.commandJournal, c.acknowledgement.deviceSequence ≤ s.deviceSequence

/-! ### Documents the agent writes -/

/-- What of it the invariant of the documents does not say yet. -/
structure StateV1.Accounts (s : StateV1) (report : StoredReport) : Prop where
  expiresAt : report.expiresAt = some s.current.expiresAt
  earlier : ∀ p ∈ s.pendingInbound, p.credentialGeneration < s.identity.credentialGeneration
  journal : ∃ c ∈ s.commandJournal, c.commandId = report.commandId ∧ c.acknowledgement.rejection = none ∧
    c.acknowledgement.desiredGeneration = s.current.desiredGeneration ∧
    c.acknowledgement.fenceEpoch = s.current.fenceEpoch

def StateV1.Accounted (s : StateV1) : Prop := ∀ o ∈ s.outbox, ∀ report ∈ o.reportPayload, s.Accounts report

section Written

variable {pki : Pki} {retention : NonZeroU32} {s s' c : StateV1} {call : Call} {reply : Reply}

/-- No new report, the same credential, and the entry of the pending command stays. -/
theorem StateV1.Accounted.of_same (h : s.Accounted) (hs : s.Coherent) (hid : s'.identity = s.identity)
    (hcur : s'.current = s.current)
    (hout : ∀ o' ∈ s'.outbox, ∀ r ∈ o'.reportPayload, ∃ o ∈ s.outbox, r ∈ o.reportPayload)
    (hpending : ∀ p' ∈ s'.pendingInbound, ∃ p ∈ s.pendingInbound, p.credentialGeneration = p'.credentialGeneration)
    (hjournal : ∀ k ∈ s.commandJournal, (∃ p ∈ s.pendingInbound, p.commandId = k.commandId) → k ∈ s'.commandJournal) :
    s'.Accounted := by
  intro o' ho' r hr
  obtain ⟨o, ho, hro⟩ := hout o' ho' r hr
  obtain ⟨hexp, hearlier, k, hk, hkid, hrest⟩ := h o ho r hro
  obtain ⟨-, p, hp, hpid⟩ := hs.report o ho r hro
  refine ⟨hcur ▸ hexp, fun p' hp' => ?_, k, hjournal k hk ⟨p, hp, hpid.trans hkid.symm⟩, hkid, hcur ▸ hrest⟩
  obtain ⟨q, hq, hgen⟩ := hpending p' hp'
  rw [hid, ← hgen]
  exact hearlier q hq

theorem Commits.accounted (h : Commits pki retention call s c reply) (hs : s.Coherent) (hi : s.Accounted) :
    c.Accounted := by
  obtain ⟨dec, hp, hc, -⟩ := h
  -- one more acknowledgement is no report
  have hpush : ∀ {e : String} {a : StoredAck}, ∀ o' ∈ s.outbox ++ [.ack e a], ∀ r ∈ o'.reportPayload,
      ∃ o ∈ s.outbox, r ∈ o.reportPayload := by
    intro e a o' ho' r hr
    rcases List.mem_append.1 ho' with ho | ho
    · exact ⟨o', ho, hr⟩
    · rw [List.mem_singleton.1 ho] at hr
      cases hr
  cases plan_cases hs.consistent hp with
  | duplicate hd hm hack => cases hc
  | conflicting hd hm hknown => cases hc
  | replay hd hm hack hroom hfind =>
    cases hc
    exact hi.of_same hs rfl rfl hpush (fun p hp => ⟨p, hp, rfl⟩) fun k hk _ => hk
  | conflict hd hm hknown hroom hgen hfence =>
    cases hc
    exact hi.of_same hs rfl rfl hpush (fun p hp => ⟨p, hp, rfl⟩) fun k hk _ => hk
  | reject hd hm hgen hfence hexpiry hroom hjournal =>
    cases hc
    exact hi.of_same hs rfl rfl hpush (fun p hp => ⟨p, hp, rfl⟩) fun k hk hpend =>
      List.mem_append_left _ (mem_expire.2 ⟨hk, .inr hpend⟩)
  | accept hm hflight hid htopic hdevice hdeadline hres hfence hgen hcred hroom hjournal hrev =>
    rename_i owner artifact revision
    cases hc
    obtain ⟨-, -, howner⟩ := currentIdentity_eq_ok.1 hid
    intro o ho r hr
    rcases List.mem_append.1 ho with ho | ho
    · -- there was no report before
      have hnone := rotationInFlight_eq_false.1 hflight o ho
      rw [Option.mem_def.1 hr] at hnone
      cases hnone
    · obtain rfl : o = .reportBlocked _ _ := by
        rcases List.mem_cons.1 ho with rfl | ho
        · cases hr
        · exact List.mem_singleton.1 ho
      cases hr
      refine ⟨rfl, fun p hp => ?_, _, List.mem_append_right _ (List.mem_singleton_self _), rfl, rfl, rfl, rfl⟩
      cases hp
      show owner.credentialGeneration.1 < artifact.credentialGeneration.1
      rw [howner]
      exact hcred
  | confirm hconf =>
    cases hc
    obtain ⟨entry, -, -, -, rfl⟩ := confirmOutbound_eq_some hconf
    refine hi.of_same hs rfl rfl (fun o ho r hr => ⟨o, List.mem_of_mem_eraseP ho, hr⟩) (fun p hp => ?_) fun k hk _ => hk
    simp only [confirmed] at hp
    split at hp
    · cases hp
    · exact ⟨p, hp, rfl⟩
  | reconnect hrec =>
    cases hc
    obtain ⟨-, rfl⟩ := markReconnected_eq_some.1 hrec
    refine hi.of_same hs rfl rfl (fun o' ho' r hr => ?_) (fun p hp => ⟨p, hp, rfl⟩) fun k hk _ => hk
    obtain ⟨o, ho, rfl⟩ := List.mem_map.1 ho'
    exact ⟨o, ho, unblock_reportPayload o ▸ hr⟩
  | settled hset =>
    cases hc
    obtain ⟨p, hpend, -, rfl⟩ := markInboundSettled_eq_some hset
    refine hi.of_same hs rfl rfl (fun o ho r hr => ⟨o, ho, hr⟩) (fun p' hp' => ?_) fun k hk _ => hk
    cases hp'
    exact ⟨p, hpend, rfl⟩
  | absent hset =>
    cases hc
    obtain ⟨p, hpend, -, rfl⟩ := markInboundSettled_eq_some hset
    refine hi.of_same hs rfl rfl (fun o ho r hr => ⟨o, ho, hr⟩) (fun p' hp' => ?_) fun k hk _ => hk
    cases hp'
    exact ⟨p, hpend, rfl⟩

/-- Both copies of the state of a device are accounted for. -/
structure Sound.Accounting (pki : Pki) (d : Device) : Prop where
  sound : Sound pki d
  memory : ∀ s, d.standing = some s → s.Accounted
  disk : ∀ s, manifest d.tree = some s → s.Accounted

theorem Sound.Accounting.step {d : Device} (h : Sound.Accounting pki d) (action : Action) :
    Sound.Accounting pki (d.step pki action).2 := by
  have hcopied := h.sound.copied action
  have hboth : ∀ {a : Running} {call c reply}, d.agent = some a → Commits pki a.retention call a.state c reply →
      a.state.Accounted ∧ c.Accounted := by
    intro a call c reply ha hc
    have hmem := h.memory _ (standing_agent ha)
    exact ⟨hmem, hc.accounted (h.sound.memory a ha).1.coherent hmem⟩
  suffices hnew : (∀ s, (d.step pki action).2.standing = some s → s.Accounted) ∧
      ∀ s, manifest (d.step pki action).2.tree = some s → s.Accounted from ⟨h.sound.step action, hnew.1, hnew.2⟩
  generalize (d.step pki action).2.standing = next, manifest (d.step pki action).2.tree = disk at hcopied ⊢
  cases hcopied with
  | same => exact ⟨h.memory, h.disk⟩
  | dropped => exact ⟨h.disk, h.disk⟩
  | first hnone hb =>
    refine ⟨fun s hs => ?_, fun s hs => ?_⟩
    · cases hs
      exact fun o ho => absurd ho List.not_mem_nil
    · cases hs
      exact fun o ho => absurd ho List.not_mem_nil
  | commits ha haction hc =>
    obtain ⟨-, hacc⟩ := hboth ha hc
    refine ⟨fun s hs => ?_, fun s hs => ?_⟩
    · cases hs
      exact hacc
    · cases hs
      exact hacc
  | unsynced ha haction hc hfail =>
    obtain ⟨hold, hacc⟩ := hboth ha hc
    refine ⟨fun s hs => ?_, fun s hs => ?_⟩
    · cases hs
      exact hold
    · cases hs
      exact hacc

theorem accounting_run (pki : Pki) (actions : List Action) : Sound.Accounting pki (Device.fresh.run pki actions) :=
  Device.run_induction (fun _ action h => h.step action) actions _
    ⟨sound_fresh, fun s hs => (by cases hs), fun s hs => (by cases hs)⟩

theorem StateV1.Coherent.crossField (hs : s.Coherent) (h : s.Accounted) : s.CrossField := by
  refine ⟨fun o ho r hr => ?_, hs.journalled⟩
  obtain ⟨hexp, hearlier, hjournal⟩ := h o ho r hr
  obtain ⟨hgen, p, hp, hpid⟩ := hs.report o ho r hr
  exact ⟨⟨p, hp, hpid, hearlier p hp⟩, hgen, hexp, hjournal⟩

/-- **Every document the agent writes agrees with itself**, after any run with any failures. -/
theorem written_crossField (actions : List Action) (hm : manifest (Device.fresh.run pki actions).tree = some s) :
    s.CrossField :=
  ((sound_run pki actions).disk s hm).coherent.crossField ((accounting_run pki actions).disk s hm)

end Written

/-! ### Documents that are accepted -/

/-- The command that accounts for the stored credential, if it was the pending one. -/
def StateV1.acceptance (s : StateV1) (p : StoredInboundSettlement) (observedAt : ℤ) (retainUntil : ℕ) : AcceptedCommand where
  commandId := p.commandId
  fingerprint := p.fingerprint
  generation := s.current.desiredGeneration
  fence := s.current.fenceEpoch
  credentialGeneration := s.identity.credentialGeneration
  revision := s.current.credentialRevision
  artifactDigest := s.current.artifactDigest
  expiresAt := s.current.expiresAt
  observedAt := observedAt
  retainUntilEpochSeconds := retainUntil

/-- Report and journal entry are those `accept` makes of the pending command, which came under an earlier
credential; and the counter has counted the journal. -/
structure StateV1.OneAcceptance (s : StateV1) : Prop where
  report : ∀ o ∈ s.outbox, ∀ r ∈ o.reportPayload, ∀ p ∈ s.pendingInbound,
    r = (s.acceptance p r.observedAt 0).report s.identity r.deviceSequence
  journal : ∀ p ∈ s.pendingInbound, ∀ c ∈ s.commandJournal, c.commandId = p.commandId → c.acknowledgement.toFact =
    ((s.acceptance p c.acknowledgement.observedAt 0).acknowledgement c.acknowledgement.deviceSequence).toFact
  earlier : ∀ p ∈ s.pendingInbound, p.credentialGeneration < s.identity.credentialGeneration
  counter : ∀ c ∈ s.commandJournal, c.acknowledgement.deviceSequence ≤ s.deviceSequence

/-- What `verify` leaves open. -/
theorem crossField_iff {s : StateV1} {identity : DeviceIdentity} (h : s.verify identity = .ok ()) :
    s.CrossField ↔ s.OneAcceptance := by
  obtain ⟨-, ⟨-, -, hentries⟩, ⟨hnodup, hcommands⟩, hpending, hle, hsome, -⟩ := verify_eq_ok_iff.1 h
  rw [Bool.eq_iff_iff, decide_eq_true_eq] at hsome
  constructor
  · intro hx
    -- a pending delivery comes with a report
    have hreport : ∀ p ∈ s.pendingInbound, ∃ r, s.Rotates r ∧ p.commandId = r.commandId := by
      intro p hp
      have hone := hsome.1 (Option.isSome_iff_exists.2 ⟨p, hp⟩)
      obtain ⟨o, ho, hor⟩ := List.countP_pos_iff.1 (show 0 < s.reports by omega)
      obtain ⟨r, hr⟩ := Option.isSome_iff_exists.1 hor
      have hrot := hx.rotates o ho r hr
      obtain ⟨p', hp', hid, -⟩ := hrot.pending
      cases hp.symm.trans hp'
      exact ⟨r, hrot, hid⟩
    refine ⟨fun o ho r hr p hp => ?_, fun p hp c hc hid => ?_, fun p hp => ?_, hx.numbered⟩
    · have hrot := hx.rotates o ho r hr
      obtain ⟨p', hp', hid, -⟩ := hrot.pending
      cases hp.symm.trans hp'
      obtain ⟨hhash, hrev, hgen, hfence, hdigest⟩ := (hentries o ho).current r hr
      have hcg := hrot.credentialGeneration
      have hexp := hrot.expiresAt
      obtain ⟨commandId, generation, fence, sequence, observedAt, hash, digest, expiresAt, credential, revision⟩ := r
      dsimp only at hhash hrev hgen hfence hdigest hcg hexp hid
      subst hhash hrev hgen hfence hdigest hcg hexp hid
      rfl
    · obtain ⟨r, hrot, hpid⟩ := hreport p hp
      obtain ⟨c', hc', hid', hrej, hgen, hfence⟩ := hrot.journal
      obtain rfl := List.inj_on_of_nodup_map hnodup hc hc' (hid.trans (hpid.trans hid'.symm))
      obtain ⟨hack, -⟩ := hcommands c hc
      show AckFact.mk _ _ _ _ _ _ = AckFact.mk _ _ _ _ _ _
      rw [hrej, hgen, hfence, ← hack, hid]
      rfl
    · obtain ⟨r, hrot, hpid⟩ := hreport p hp
      obtain ⟨p', hp', -, hlt⟩ := hrot.pending
      cases hp.symm.trans hp'
      exact hlt
  · intro ha
    refine ⟨fun o ho r hr => ?_, ha.counter⟩
    have hpos : 0 < s.reports := List.countP_pos_iff.2 ⟨o, ho, Option.isSome_iff_exists.2 ⟨r, hr⟩⟩
    obtain ⟨p, hp⟩ := Option.isSome_iff_exists.1 (hsome.2 (by omega))
    obtain ⟨-, -, -, -, -, -, -, -, c, hc, hid, -⟩ := hpending p hp
    have hr' := ha.report o ho r hr p hp
    have hcommand : r.commandId = p.commandId := by rw [hr']; rfl
    have hcg : r.credentialGeneration = s.identity.credentialGeneration := by rw [hr']; rfl
    have hexp : r.expiresAt = some s.current.expiresAt := by rw [hr']; rfl
    have hfact := ha.journal p hp c hc hid
    refine ⟨⟨p, hp, hcommand.symm, ha.earlier p hp⟩, hcg, hexp, c, hc, hid.trans hcommand.symm, ?_, ?_, ?_⟩
    · exact congrArg AckFact.rejection hfact
    · exact congrArg AckFact.desiredGeneration hfact
    · exact congrArg AckFact.fenceEpoch hfact

/-- It is what some run of the agent leaves on disk. -/
def StateV1.Written (s : StateV1) : Prop := ∃ pki actions, manifest (Device.fresh.run pki actions).tree = some s

/-- Without a journal no delivery is pending, and then no report is queued. -/
theorem reports_eq_zero_of_journal {s : StateV1} {identity : DeviceIdentity} (h : s.verify identity = .ok ())
    (hjournal : s.commandJournal = []) : s.reports = 0 := by
  obtain ⟨-, -, -, hpending, hle, hsome, -⟩ := verify_eq_ok_iff.1 h
  rw [Bool.eq_iff_iff, decide_eq_true_eq] at hsome
  by_contra hne
  obtain ⟨p, hp⟩ := Option.isSome_iff_exists.1 (hsome.2 (by omega))
  obtain ⟨-, -, -, -, -, -, -, -, c, hc, -⟩ := hpending p hp
  rw [hjournal] at hc
  cases hc

/-- **A document that is accepted agrees with itself if the agent wrote it**, in any run with any failures, or if it has no
journal. -/
theorem accepted_crossField {s : StateV1} {identity : DeviceIdentity} (h : s.verify identity = .ok ())
    (hs : s.Written ∨ s.commandJournal = []) : s.CrossField := by
  rcases hs with ⟨pki, actions, hm⟩ | hjournal
  · exact written_crossField actions hm
  · refine ⟨fun o ho r hr => ?_, fun c hc => ?_⟩
    · have hpos : 0 < s.reports := List.countP_pos_iff.2 ⟨o, ho, Option.isSome_iff_exists.2 ⟨r, hr⟩⟩
      have hzero := reports_eq_zero_of_journal h hjournal
      omega
    · rw [hjournal] at hc
      cases hc

open Fixture in
/-- The document of a rotation in flight, with its report, its pending delivery and its journal entry. -/
theorem accepted_crossField_rotating : ∃ artifact, (rotating 0 artifact).verify (identity one) = .ok () ∧
    (rotating 0 artifact).Written ∧ (rotating 0 artifact).reports = 1 ∧ (rotating 0 artifact).CrossField := by
  obtain ⟨artifact, hrun⟩ := run_apply
  obtain ⟨hgood, -⟩ := (sound_run Fixture.pki _).memory _ hrun
  have hverify : (rotating 0 artifact).verify (identity one) = .ok () :=
    hgood.coherent.consistent.verify_eq_ok.2 ⟨rfl, rfl, hgood.expires (.inl positiveExpiry)⟩
  have hagrees : (Device.fresh.run Fixture.pki [start, .call (apply 0 now) clean]).Agrees := agrees_run synced_apply
  have hwritten : (rotating 0 artifact).Written := ⟨Fixture.pki, _, hagrees.trans (standing_agent hrun)⟩
  exact ⟨artifact, hverify, hwritten, rfl, accepted_crossField hverify (.inl hwritten)⟩

namespace Fixture

/-- A document whose report is for another command and another credential than the stored ones, whose pending
delivery is that of a rejected command under a later credential, and whose journal is ahead of the counter. -/
def inconsistent : StateV1 :=
  let digest := first.current.artifactDigest
  { first with
    deviceSequence := 1
    commandJournal := [⟨"command-0001", intent.expose, ⟨"command-0001", "command-0001", 7, 7, 9, 0, some .policyRejected, none,
      false⟩, 1⟩]
    outbox := [.reportReady (eventId .report "command-0002") ⟨"command-0002", 1, 1, 1, 0,
      stateHash (identity one).tenant (identity one).device 5 1 1 1 digest, digest, some 1, 5, 1⟩]
    pendingInbound := some ⟨(identity two).commandTopic, "command-0001", intent.expose, 2,
      settlementToken (identity two).commandTopic "command-0001" intent.expose, false⟩ }

end Fixture

open Fixture in
/-- A document that is accepted although none of the relations holds of it. -/
theorem load_inconsistent : inconsistent.verify (identity one) = .ok () ∧
    ∃ o ∈ inconsistent.outbox, ∃ report ∈ o.reportPayload, ∃ p ∈ inconsistent.pendingInbound,
      ∃ c ∈ inconsistent.commandJournal,
      p.commandId ≠ report.commandId ∧ report.credentialGeneration ≠ inconsistent.identity.credentialGeneration ∧
      report.expiresAt ≠ some inconsistent.current.expiresAt ∧
      ¬ p.credentialGeneration < inconsistent.identity.credentialGeneration ∧
      (∀ c ∈ inconsistent.commandJournal, c.commandId = p.commandId → c.acknowledgement.rejection ≠ none) ∧
      (∀ c ∈ inconsistent.commandJournal, c.commandId ≠ report.commandId) ∧
      ¬ c.acknowledgement.deviceSequence ≤ inconsistent.deviceSequence ∧ ¬ inconsistent.CrossField := by
  refine ⟨by decide +kernel, _, List.mem_singleton_self _, _, rfl, _, rfl, _, List.mem_singleton_self _, by decide,
    by decide, by decide, by decide, by decide, by decide, by decide, fun hx => ?_⟩
  have hle := hx.numbered _ (List.mem_singleton_self _)
  revert hle
  decide

end RssIncubator.Agent
