import RssIncubator.Agent.Identity

/-!
# Redelivery within retention

A command that has been answered stays in the journal, in memory and on disk, until its retention has run out,
whatever else the device is asked to do in the meantime.  So long it is answered from there: the same payload is a
duplicate and at most its acknowledgement is queued again, another payload under its name is a conflict.
-/

namespace RssIncubator.Agent

open Lib StateV1 StoredOutbound

/-! ### The clock -/

/-- The clock value an action reads. -/
def Action.clock : Action → Option ℕ
  | .call c _ => c.delivery.map (·.now)
  | .drop => none
  | .openAgent _ now _ => some now

/-- The clock of a run does not go back. -/
def Clocked (actions : List Action) : Prop := (actions.filterMap Action.clock).Pairwise (· ≤ ·)

instance (actions : List Action) : Decidable (Clocked actions) := inferInstanceAs (Decidable (List.Pairwise _ _))

/-- Everything before an action happened no later. -/
theorem Clocked.le {before : List Action} {last : Action} (h : Clocked (before ++ [last])) {t t' : ℕ}
    (hlast : last.clock = some t') {action : Action} (hmem : action ∈ before) (ht : action.clock = some t) : t ≤ t' := by
  rw [Clocked, List.filterMap_append, List.pairwise_append] at h
  exact h.2.2 t (List.mem_filterMap.2 ⟨action, hmem, ht⟩) t' (List.mem_filterMap.2 ⟨last, List.mem_singleton_self _, hlast⟩)

/-! ### What stays in the journal -/

section Kept

variable {pki : Pki} {retention : NonZeroU32} {s c : StateV1} {call : Call} {dec : Decision} {reply : Reply}
  {k : StoredCommand}

/-- No decision drops an entry before its time. -/
theorem Decides.journal_kept (h : Decides pki retention s call dec) (hc : dec.candidate = some (c, reply))
    (hk : k ∈ s.commandJournal) (hclock : ∀ d, call.delivery = some d → d.now < k.retainUntilEpochSeconds) :
    k ∈ c.commandJournal := by
  cases h with
  | duplicate hd hm hack => cases hc
  | replay hd hm hack hroom hfind =>
    cases hc
    exact hk
  | conflicting hd hm hknown => cases hc
  | conflict hd hm hknown hroom hgen hfence =>
    cases hc
    exact hk
  | reject hd hm hgen hfence hexpiry hroom hjournal =>
    cases hc
    have hlt := hclock _ hd
    refine List.mem_append_left _ (mem_expire.2 ⟨hk, .inl ?_⟩)
    rcases hexpiry with rfl | rfl
    · exact hlt
    · exact (unsigned_observedAt_le _).trans_lt hlt
  | accept hm hflight hid htopic hdevice hdeadline hres hfence hgen hcred hroom hjournal hrev =>
    cases hc
    have hlt := hclock _ rfl
    exact List.mem_append_left _ (mem_expire.2 ⟨hk, .inl ((unsigned_observedAt_le _).trans_lt hlt)⟩)
  | confirm h =>
    cases hc
    obtain ⟨entry, -, -, -, rfl⟩ := confirmOutbound_eq_some h
    exact hk
  | reconnect h =>
    cases hc
    obtain ⟨-, rfl⟩ := markReconnected_eq_some.1 h
    exact hk
  | settled h =>
    cases hc
    obtain ⟨p, -, -, rfl⟩ := markInboundSettled_eq_some h
    exact hk
  | absent h =>
    cases hc
    obtain ⟨p, -, -, rfl⟩ := markInboundSettled_eq_some h
    exact hk

/-- A document that knows a command, and that has passed the checks. -/
def StateV1.Journals (k : StoredCommand) (s : StateV1) : Prop := k ∈ s.commandJournal ∧ 0 < s.current.expiresAt

theorem Commits.journals (h : Commits pki retention call s c reply) (hs : s.Coherent) (hk : s.Journals k)
    (hclock : ∀ d, call.delivery = some d → d.now < k.retainUntilEpochSeconds) : c.Journals k := by
  obtain ⟨dec, hp, hc, hv⟩ := h
  exact ⟨(plan_cases hs.consistent hp).journal_kept hc hk.1 hclock, (validate_eq_ok.1 hv).2⟩

/-- An entry stays on the device until its retention runs out, -/
theorem Sound.journals_step {d : Device} (h : Sound pki d) (hd : d.Holding (Journals k)) (action : Action)
    (hclock : ∀ t, action.clock = some t → t < k.retainUntilEpochSeconds) :
    (d.step pki action).2.Holding (Journals k) := by
  refine h.holding_step hd action ?_
  rintro a call faults c reply ha rfl hc hk
  refine hc.journals (h.memory a ha).1.coherent hk fun d hd => hclock d.now ?_
  simp [Action.clock, hd]

/-- in every run. -/
theorem Sound.journals_run {d : Device} {actions : List Action} (h : Sound pki d) (hd : d.Holding (Journals k))
    (hclock : ∀ action ∈ actions, ∀ t, action.clock = some t → t < k.retainUntilEpochSeconds) :
    (d.run pki actions).Holding (Journals k) := by
  induction actions generalizing d with
  | nil => exact hd
  | cons action actions ih =>
    exact ih (h.step action) (h.journals_step hd action (hclock action List.mem_cons_self)) fun action' hmem =>
      hclock action' (List.mem_cons_of_mem _ hmem)

/-- What a delivery the journal does not answer leaves there: its acknowledgement, to the end of its retention. -/
structure StateV1.Noted (s : StateV1) (retention : NonZeroU32) (d : Delivery) (k : StoredCommand) : Prop where
  journals : s.Journals k
  commandId : k.commandId = d.commandId
  fingerprint : k.fingerprint = d.fingerprint
  retained : d.now ≤ i64Max → k.retainUntilEpochSeconds = d.now + retention.1
  queued : .ack (Agent.eventId .ack d.commandId) k.acknowledgement ∈ s.outbox

theorem retentionDeadline_eq {now : ℕ} (h : now ≤ i64Max) : retentionDeadline retention (observedAt now) = now + retention.1 := by
  have hr := retention.2.2
  have hmax : u64Max = 2 ^ 64 - 1 := rfl
  have hmax' : i64Max = 2 ^ 63 - 1 := rfl
  rw [retentionDeadline, unsigned_observedAt h, saturatingAdd]
  omega

theorem Commits.noted {d : Delivery} (h : Commits pki retention call s c reply) (hs : s.Coherent)
    (hd : call.delivery = some d) (hnew : s.answer d = none) : ∃ k, c.Noted retention d k := by
  obtain ⟨dec, hp, hc, hv⟩ := h
  have hexp := (validate_eq_ok.1 hv).2
  cases plan_cases hs.consistent hp with
  | duplicate hd' hm hack => cases hc
  | replay hd' hm hack hroom hfind =>
    obtain rfl := Option.some.inj (hd.symm.trans hd')
    rw [hnew] at hm
    cases hm
  | conflicting hd' hm hknown => cases hc
  | conflict hd' hm hknown hroom hgen hfence =>
    obtain rfl := Option.some.inj (hd.symm.trans hd')
    rw [hnew] at hm
    cases hm
  | reject hd' hm hgen hfence hexpiry hroom hjournal =>
    cases hc
    obtain rfl := Option.some.inj (hd.symm.trans hd')
    exact ⟨_, ⟨List.mem_append_right _ (List.mem_singleton_self _), hexp⟩, rfl, rfl, retentionDeadline_eq,
      List.mem_append_right _ (List.mem_singleton_self _)⟩
  | accept hm hflight hid htopic hdevice hdeadline hres hfence hgen hcred hroom hjournal hrev =>
    cases hc
    cases hd
    exact ⟨_, ⟨List.mem_append_right _ (List.mem_singleton_self _), hexp⟩, rfl, rfl, retentionDeadline_eq,
      List.mem_append_right _ List.mem_cons_self⟩
  | confirm h => cases hd
  | reconnect h => cases hd
  | settled h => cases hd
  | absent h => cases hd

end Kept

/-! ### How a known name is answered -/

/-- A malformed payload is looked at on the topic of the device and on that of the pending delivery only. -/
def StateV1.Admits (s : StateV1) : Call → Prop
  | .rejectMalformedDelivery topic _ _ _ =>
    (∃ identity, s.currentIdentity = .ok identity ∧ topic = identity.commandTopic) ∨
      s.pendingInbound.map (·.topic) = some topic
  | _ => True

section Answers

variable {pki : Pki} {retention : NonZeroU32} {s : StateV1} {call : Call} {d : Delivery}

theorem Admits.passes (hs : s.Consistent) {topic commandId : String} {payload : Bytes} {now : ℕ}
    (h : s.Admits (.rejectMalformedDelivery topic commandId payload now)) :
    ¬ (topic ≠ hs.identity.commandTopic ∧ s.pendingInbound.map (·.topic) ≠ some topic) := by
  rintro ⟨h1, h2⟩
  rcases h with ⟨identity, hid, rfl⟩ | h
  · rw [hs.currentIdentity] at hid
    cases hid
    exact h1 rfl
  · exact h2 h

theorem plan_known (hs : s.Consistent) (hd : call.delivery = some d) (hadm : s.Admits call) (hm : s.answer d = some true) :
    plan pki retention s call = planReplay s d.commandId d.fingerprint := by
  cases call with
  | applyCommand topic command now catalog =>
    cases hd
    unfold StateV1.answer at hm
    simp only [plan]
    rw [hm]
  | rejectMalformedDelivery topic commandId payload now =>
    cases hd
    unfold StateV1.answer at hm
    simp only [plan, hs.currentIdentity]
    show (if _ then _ else _) = _
    rw [if_neg (Admits.passes hs hadm), hm]
  | confirmOutbound event => cases hd
  | markCurrentCredentialConnected revision => cases hd
  | markPendingInboundSettled token => cases hd
  | markPendingInboundAbsent => cases hd

theorem plan_other (hs : s.Consistent) (hd : call.delivery = some d) (hadm : s.Admits call) (hm : s.answer d = some false) :
    ∃ generation fence, 0 < generation ∧ 0 < fence ∧
      plan pki retention s call = planConflict s d.commandId d.fingerprint generation fence d.now := by
  cases call with
  | applyCommand topic command now catalog =>
    cases hd
    refine ⟨_, _, command.desiredGeneration.2.1, command.fenceEpoch.2.1, ?_⟩
    unfold StateV1.answer at hm
    simp only [plan]
    rw [hm]
  | rejectMalformedDelivery topic commandId payload now =>
    cases hd
    refine ⟨_, _, hs.desiredGeneration_pos, hs.fenceEpoch_pos, ?_⟩
    unfold StateV1.answer at hm
    simp only [plan, hs.currentIdentity]
    show (if _ then _ else _) = _
    rw [if_neg (Admits.passes hs hadm), hm]
  | confirmOutbound event => cases hd
  | markCurrentCredentialConnected revision => cases hd
  | markPendingInboundSettled token => cases hd
  | markPendingInboundAbsent => cases hd

/-- The ends of a replay. -/
theorem planReplay_ends (hm : s.answer d = some true) :
    planReplay s d.commandId d.fingerprint = .ok (.keep (.outcome .duplicate)) ∨
    planReplay s d.commandId d.fingerprint = .error (.store .outboxFull) ∨
    ∃ k, s.journalled d = some k ∧ s.hasCommandAck d.commandId = false ∧ s.outbox.length + 1 ≤ outboxLimit ∧
      planReplay s d.commandId d.fingerprint = .ok (.store (s.replayed k) (.outcome .duplicate)) := by
  rcases hp : planReplay s d.commandId d.fingerprint with e | dec
  · rw [planReplay_error hm hp]
    exact .inr (.inl rfl)
  · unfold planReplay at hp
    split at hp
    case isTrue hack =>
      cases hp
      exact .inl rfl
    case isFalse hack =>
      simp only [except_bind_ok, mapError_eq_ok, reserveOutbox_eq_ok, exists_const, Except.ok.injEq] at hp
      obtain ⟨hroom, candidate, hc, rfl⟩ := hp
      obtain ⟨k, hk, -⟩ := exists_journalled hm
      have hfind := hk
      unfold StateV1.journalled at hfind
      rw [replayCommand, hfind] at hc
      cases hc
      exact .inr (.inr ⟨k, hk, by simpa using hack, hroom, rfl⟩)

/-- The ends of a conflict. -/
theorem planConflict_ends (generation fence : ℕ) :
    planConflict s d.commandId d.fingerprint generation fence d.now = .ok (.keep (.outcome (.rejected .malformedCommand))) ∨
    planConflict s d.commandId d.fingerprint generation fence d.now = .error (.store .outboxFull) ∨
    s.hasConflictingReplay d.commandId d.fingerprint = false ∧ s.outbox.length + 1 ≤ outboxLimit ∧
      planConflict s d.commandId d.fingerprint generation fence d.now =
        .ok (.store (s.rejectConflictingReplay d.commandId d.fingerprint generation fence (observedAt d.now))
          (.outcome (.rejected .malformedCommand))) := by
  rcases hp : planConflict s d.commandId d.fingerprint generation fence d.now with e | dec
  · rw [planConflict_error hp]
    exact .inr (.inl rfl)
  · unfold planConflict at hp
    split at hp
    case isTrue hknown =>
      cases hp
      exact .inl rfl
    case isFalse hknown =>
      simp only [except_bind_ok, mapError_eq_ok, reserveOutbox_eq_ok, exists_const, Except.ok.injEq] at hp
      obtain ⟨hroom, rfl⟩ := hp
      exact .inr (.inr ⟨by simpa using hknown, hroom, rfl⟩)

/-- The journal answers for a command until its retention runs out. -/
theorem StateV1.Consistent.answer_eq (hs : s.Consistent) {k : StoredCommand} (hk : k ∈ s.commandJournal)
    (hid : k.commandId = d.commandId) (hnow : d.now < k.retainUntilEpochSeconds) :
    s.answer d = some (decide (k.fingerprint = d.fingerprint)) := by
  rcases hm : s.answer d with _ | b
  · exact absurd (commandMatch_eq_none.1 hm k hk hid) (not_le.2 hnow)
  · obtain ⟨k', hk', hid', -, hb⟩ := commandMatch_eq_some hm
    obtain rfl := hs.journal_unique hk' hk (hid'.trans hid.symm)
    rw [Option.some.injEq, Bool.eq_iff_iff, decide_eq_true_eq]
    exact hb

end Answers

section Redelivery

variable {pki : Pki} {device : Device} {a : Running} {call : Call} {d : Delivery} {k : StoredCommand}

/-- A command comes again: it is a duplicate, or the outbox is full.  Only the outbox changes, by at most the
acknowledgement once more. -/
structure Repeats (pki : Pki) (device : Device) (a : Running) (call : Call) (commandId : String) (first : AckFact) :
    Prop where
  answered : ∀ faults o, (device.step pki (.call call faults)).1 = some (.ok (.outcome o)) → o = .duplicate
  failed : ∀ faults, (device.step pki (.call call faults)).1 ≠ some (.err .rotationInFlight)
  ends : device.step pki (.call call clean) = (some (.err (.store .outboxFull)), device) ∨
    (device.step pki (.call call clean)).1 = some (.ok (.outcome .duplicate)) ∧ ∃ new,
      (device.step pki (.call call clean)).2.agent =
        some { a with state := { a.state with outbox := a.state.outbox ++ new } } ∧
      (new = [] ∨ ∃ payload, payload.toFact = first ∧ new = [.ack (Agent.eventId .ack commandId) payload])

/-- Another payload comes under its name: it is malformed, or the outbox is full.  Only the outbox and the sequence
number change. -/
structure Conflicts (pki : Pki) (device : Device) (a : Running) (call : Call) : Prop where
  answered : ∀ faults o, (device.step pki (.call call faults)).1 = some (.ok (.outcome o)) → o = .rejected .malformedCommand
  ends : device.step pki (.call call clean) = (some (.err (.store .outboxFull)), device) ∨
    (device.step pki (.call call clean)).1 = some (.ok (.outcome (.rejected .malformedCommand))) ∧ ∃ new sequence,
      (device.step pki (.call call clean)).2.agent =
        some { a with state := { a.state with deviceSequence := sequence, outbox := a.state.outbox ++ new } }

/-- A call that persists a candidate has one answer. -/
theorem Sound.call_reply (h : Sound pki device) (ha : device.agent = some a) {c : StateV1} {reply reply' : Reply}
    (hp : plan pki a.retention a.state call = .ok (.store c reply)) {faults : Faults}
    (hr : (device.step pki (.call call faults)).1 = some (.ok reply')) : reply' = reply := by
  obtain ⟨s', -, ⟨-, -, hp'⟩ | ⟨-, dec, hp', hc, -⟩⟩ := h.call_ok ha hr
  · cases hp.symm.trans hp'
  · cases hp.symm.trans hp'
    cases hc
    rfl

/-- Without failures the acknowledgement of a known command is queued again once it is not outstanding. -/
theorem Sound.step_replay (h : Sound pki device) (ha : device.agent = some a) (hk : a.state.Journals k)
    (hd : call.delivery = some d) (hadm : a.state.Admits call) (hid : k.commandId = d.commandId)
    (hfp : k.fingerprint = d.fingerprint) (hnow : d.now < k.retainUntilEpochSeconds)
    (hevents : EventsDistinct (a.state.events ++ [(.ack, d.commandId)])) (hseq : a.state.deviceSequence < u64Max)
    (hack : a.state.hasCommandAck d.commandId = false) (hroom : a.state.outbox.length + 1 ≤ outboxLimit) :
    (device.step pki (.call call clean)).1 = some (.ok (.outcome .duplicate)) ∧
    (device.step pki (.call call clean)).2.agent = some { a with state := a.state.replayed k } := by
  have hs := (h.memory a ha).1.coherent
  have hm : a.state.answer d = some true := by rw [hs.consistent.answer_eq hk.1 hid hnow, decide_eq_true hfp]
  obtain ⟨k', hfind, hmem, hid', -⟩ := exists_journalled hm
  obtain rfl := hs.consistent.journal_unique hmem hk.1 (hid'.trans hid.symm)
  have hreplay : planReplay a.state d.commandId d.fingerprint = .ok (.store (a.state.replayed k') (.outcome .duplicate)) := by
    unfold StateV1.journalled at hfind
    unfold planReplay
    rw [if_neg (by simp [hack]), replayCommand, hfind]
    exact except_bind_ok.2 ⟨(), mapError_eq_ok.2 (reserveOutbox_eq_ok.2 hroom), rfl⟩
  have hle := hs.journalled k' hmem
  have hcons : (a.state.replayed k').Consistent :=
    hs.replayed_consistent hmem (by rw [hid]; exact hack) hroom (by rw [hid]; exact hevents) (by omega)
  exact h.step_change ha hk.2 ((plan_known hs.consistent hd hadm hm).trans hreplay) hcons rfl

theorem Sound.repeats (h : Sound pki device) (ha : device.agent = some a) (hk : a.state.Journals k)
    (hd : call.delivery = some d) (hadm : a.state.Admits call) (hid : k.commandId = d.commandId)
    (hfp : k.fingerprint = d.fingerprint) (hnow : d.now < k.retainUntilEpochSeconds)
    (hevents : EventsDistinct (a.state.events ++ [(.ack, d.commandId)])) (hseq : a.state.deviceSequence < u64Max) :
    Repeats pki device a call d.commandId k.acknowledgement.toFact := by
  have hs := (h.memory a ha).1.coherent
  have hm : a.state.answer d = some true := by rw [hs.consistent.answer_eq hk.1 hid hnow, decide_eq_true hfp]
  have hplan : plan pki a.retention a.state call = planReplay a.state d.commandId d.fingerprint :=
    plan_known hs.consistent hd hadm hm
  rcases planReplay_ends hm with hp | hp | ⟨k', hk', hack, hroom, hp⟩ <;> rw [← hplan] at hp
  · -- an acknowledgement under the name is outstanding
    have hstep : ∀ faults, device.step pki (.call call faults) = (some (.ok (.outcome .duplicate)), device) :=
      Sound.step_keep ha hp
    refine ⟨fun faults o ho => ?_, fun faults he => ?_, .inr ⟨by rw [hstep], [], ?_, .inl rfl⟩⟩
    · rw [hstep] at ho
      cases ho
      rfl
    · rw [hstep] at he
      cases he
    · rw [hstep, List.append_nil]
      exact ha
  · have hstep : ∀ faults, device.step pki (.call call faults) = (some (.err (.store .outboxFull)), device) :=
      Sound.step_error ha hp
    refine ⟨fun faults o ho => ?_, fun faults he => ?_, .inl (hstep clean)⟩
    · rw [hstep] at ho
      cases ho
    · rw [hstep] at he
      cases he
  · obtain ⟨hok, hagent⟩ := h.step_replay ha hk hd hadm hid hfp hnow hevents hseq hack hroom
    refine ⟨fun faults o ho => ?_, fun faults he => ?_, .inr ⟨hok, _, hagent, .inr ⟨_, StoredAck.toFact_replayed _, ?_⟩⟩⟩
    · cases h.call_reply ha hp ho
      rfl
    · rcases h.call_err_cases ha he with hp' | ⟨e, he'⟩
      · cases hp.symm.trans hp'
      · cases he'
    · rw [hid]

theorem Sound.conflicts (h : Sound pki device) (ha : device.agent = some a) (hk : a.state.Journals k)
    (hd : call.delivery = some d) (hadm : a.state.Admits call) (hid : k.commandId = d.commandId)
    (hfp : k.fingerprint ≠ d.fingerprint) (hnow : d.now < k.retainUntilEpochSeconds)
    (hseq : a.state.deviceSequence < u64Max) : Conflicts pki device a call := by
  have hs := (h.memory a ha).1.coherent.consistent
  have hm : a.state.answer d = some false := by rw [hs.answer_eq hk.1 hid hnow, decide_eq_false hfp]
  obtain ⟨generation, fence, hgen, hfence, hplan⟩ : ∃ generation fence, 0 < generation ∧ 0 < fence ∧
      plan pki a.retention a.state call = planConflict a.state d.commandId d.fingerprint generation fence d.now :=
    plan_other hs hd hadm hm
  rcases planConflict_ends (s := a.state) (d := d) generation fence with hp | hp | ⟨hknown, hroom, hp⟩ <;>
    rw [← hplan] at hp
  · have hstep : ∀ faults, device.step pki (.call call faults) =
        (some (.ok (.outcome (.rejected .malformedCommand))), device) := Sound.step_keep ha hp
    refine ⟨fun faults o ho => ?_, .inr ⟨by rw [hstep], [], a.state.deviceSequence, ?_⟩⟩
    · rw [hstep] at ho
      cases ho
      rfl
    · rw [hstep, List.append_nil]
      exact ha
  · have hstep : ∀ faults, device.step pki (.call call faults) = (some (.err (.store .outboxFull)), device) :=
      Sound.step_error ha hp
    refine ⟨fun faults o ho => ?_, .inl (hstep clean)⟩
    rw [hstep] at ho
    cases ho
  · have hne : d.commandId ≠ "" := hid ▸ (hs.commands k hk.1).2.1
    have hcons := hs.conflict hne hgen hfence (observedAt_nonneg d.now) hknown hroom hseq
    obtain ⟨hok, hagent⟩ := h.step_change ha hk.2 hp hcons rfl
    refine ⟨fun faults o ho => ?_, .inr ⟨hok, _, _, hagent⟩⟩
    cases h.call_reply ha hp ho
    rfl

end Redelivery

/-- **Redelivery is idempotent within retention.**  A delivery the journal does not know is answered; then anything
happens to the device, with any failures, crashes and restarts, on a clock that does not go back.  Until the retention
of the delivery runs out, the same payload is a duplicate and changes at most the outbox, by the acknowledgement
first queued for it; another payload under its name is a conflict and changes the outbox and the sequence number. -/
theorem redelivery_idempotent {pki : Pki} {before between : List Action} {call call' : Call} {faults : Faults}
    (hclock : Clocked (before ++ .call call faults :: between ++ [.call call' clean])) {b a : Running}
    (hb : (Device.fresh.run pki before).agent = some b) {d d' : Delivery} (hd : call.delivery = some d)
    (ht : d.now ≤ i64Max) (hnew : b.state.answer d = none) {o : ApplyOutcome}
    (hanswer : ((Device.fresh.run pki before).step pki (.call call faults)).1 = some (.ok (.outcome o)))
    (ha : (Device.fresh.run pki (before ++ .call call faults :: between)).agent = some a)
    (hd' : call'.delivery = some d') (hid : d'.commandId = d.commandId) (hwindow : d'.now < d.now + b.retention.1)
    (hadm : a.state.Admits call') (hevents : EventsDistinct (a.state.events ++ [(.ack, d.commandId)]))
    (hseq : a.state.deviceSequence < u64Max) :
    ∃ s first, ((Device.fresh.run pki before).step pki (.call call faults)).2.agent = some { b with state := s } ∧
      .ack (Agent.eventId .ack d.commandId) first ∈ s.outbox ∧
      (d'.fingerprint = d.fingerprint → Repeats pki (Device.fresh.run pki (before ++ .call call faults :: between)) a
        call' d.commandId first.toFact) ∧
      (d'.fingerprint ≠ d.fingerprint → Conflicts pki (Device.fresh.run pki (before ++ .call call faults :: between)) a
        call') := by
  have hsound := sound_run pki before
  obtain ⟨s, hs, hcall⟩ := hsound.call_ok hb hanswer
  have hcoh := (hsound.memory b hb).1.coherent
  -- the delivery was not known, so the answer was written
  have hcommits : manifest ((Device.fresh.run pki before).step pki (.call call faults)).2.tree = some s ∧
      Commits pki b.retention call b.state s (.outcome o) := by
    rcases hcall with ⟨-, -, hp⟩ | hcommits
    · cases plan_cases hcoh.consistent hp with
      | duplicate hd₁ hm hack =>
        obtain rfl := Option.some.inj (hd.symm.trans hd₁)
        cases hnew.symm.trans hm
      | conflicting hd₁ hm hknown =>
        obtain rfl := Option.some.inj (hd.symm.trans hd₁)
        cases hnew.symm.trans hm
    · exact hcommits
  obtain ⟨k, hk⟩ := hcommits.2.noted hcoh hd hnew
  have hretained := hk.retained ht
  have hstand := standing_agent hs
  have hholding : ((Device.fresh.run pki before).step pki (.call call faults)).2.Holding (Journals k) := by
    refine ⟨by rw [hstand]; exact fun h => (by cases h), ?_⟩
    rintro s' (h' | h')
    · obtain rfl := Option.some.inj (hstand.symm.trans h')
      exact hk.journals
    · obtain rfl := Option.some.inj (hcommits.1.symm.trans h')
      exact hk.journals
  have hrun : ((((Device.fresh.run pki before).step pki (.call call faults)).2).run pki between).Holding (Journals k) := by
    refine (hsound.step (.call call faults)).journals_run hholding ?_
    intro action hmem t htime
    have hlast : (Action.call call' clean).clock = some d'.now := by simp [Action.clock, hd']
    have hle : t ≤ d'.now := hclock.le hlast (List.mem_append_right _ (List.mem_cons_of_mem _ hmem)) htime
    omega
  have hmem : a.state.Journals k := by
    refine hrun.copies _ (.inl ?_)
    rw [Device.run_append] at ha
    exact standing_agent ha
  have hend := sound_run pki (before ++ .call call faults :: between)
  have hlt : d'.now < k.retainUntilEpochSeconds := hretained ▸ hwindow
  refine ⟨s, k.acknowledgement, hs, hk.queued, fun hfp => ?_, fun hfp => ?_⟩
  · rw [← hid]
    refine hend.repeats ha hmem hd' hadm (hk.commandId.trans hid.symm) (hk.fingerprint.trans hfp.symm) hlt ?_ hseq
    rw [hid]
    exact hevents
  · exact hend.conflicts ha hmem hd' hadm (hk.commandId.trans hid.symm)
      (fun h => hfp (h.symm.trans hk.fingerprint)) hlt hseq

open Fixture in
/-- A payload that was rejected comes again a minute later. -/
theorem redelivery_idempotent_rejection : ∃ first, Repeats Fixture.pki
    (Device.fresh.run Fixture.pki [start, .call (malformed [1] now) clean]) ⟨noted 1 [rejectionEntry], retention⟩
    (malformed [1] (now + 60)) commandId.expose first := by
  have hanswer : ((Device.fresh.run Fixture.pki [start]).step Fixture.pki (.call (malformed [1] now) clean)).1 =
      some (.ok (.outcome (.rejected .malformedCommand))) := by decide +kernel
  have hclock : Clocked ([start] ++ .call (malformed [1] now) clean :: [] ++ [.call (malformed [1] (now + 60)) clean]) := by
    decide
  have hevents : EventsDistinct ((noted 1 [rejectionEntry]).events ++ [(.ack, commandId.expose)]) := by decide +kernel
  obtain ⟨s, first, -, -, hrepeats, -⟩ := redelivery_idempotent hclock run_start rfl (by decide) rfl hanswer run_once rfl rfl
    (by decide) (.inl ⟨_, coherent_first.consistent.currentIdentity, rfl⟩) hevents (by decide)
  exact ⟨_, hrepeats rfl⟩

/-! ### When the sequence numbers run out -/

namespace Fixture

/-- Each rejection of the second payload uses up a sequence number and leaves nothing behind once it is confirmed. -/
theorem reach_noted (n : ℕ) (hn : n + 1 < u64Max) : ∃ actions : List Action,
    (∀ action ∈ actions, ∀ t, action.clock = some t → t = now) ∧
    (Device.fresh.run Fixture.pki actions).agent = some ⟨noted (n + 1) [], retention⟩ := by
  induction n with
  | zero =>
    refine ⟨[start, .call (malformed [1] now) clean] ++ [.call (.confirmOutbound rejectionEntry.eventId) clean], ?_, ?_⟩
    · intro action hmem t ht
      simp only [List.cons_append, List.nil_append, List.mem_cons, List.not_mem_nil, or_false] at hmem
      rcases hmem with rfl | rfl | rfl <;> cases ht <;> rfl
    · rw [Device.run_concat]
      exact step_confirm (sound_run _ _) run_once rfl
  | succ n ih =>
    obtain ⟨actions, hclock, hrun⟩ := ih (by omega)
    refine ⟨actions ++ [.call (malformed [2] now) clean] ++
      [.call (.confirmOutbound (conflictEntry (n + 1 + 1) now).eventId) clean], ?_, ?_⟩
    · intro action hmem t ht
      simp only [List.mem_append, List.mem_singleton] at hmem
      rcases hmem with (hmem | rfl) | rfl
      · exact hclock action hmem t ht
      · cases ht
        rfl
      · cases ht
    · have hrejected : (Device.fresh.run Fixture.pki (actions ++ [.call (malformed [2] now) clean])).agent =
          some ⟨noted (n + 1 + 1) [conflictEntry (n + 1 + 1) now], retention⟩ := by
        rw [Device.run_concat]
        exact step_conflict (sound_run _ _) hrun (by decide) (by omega) (by decide) fun o ho => (by cases ho)
      rw [Device.run_concat]
      exact step_confirm (sound_run _ _) hrejected rfl

/-- A command of another name. -/
def other (serial : UInt8) : DeviceCommand :=
  { command serial with commandId := ⟨"command-0002", by decide +kernel⟩ }

/-- It comes on a topic that is not its own. -/
def misplaced (serial : UInt8) : Call := .applyCommand "rss/v1/wrong" (other serial) now (catalog serial)

/-- The document after its rejection with the last sequence number. -/
def exhausted : StateV1 :=
  ((noted (u64Max - 1) []).expireCommandJournal (unsigned (observedAt now))).reject (rejectedCommand retention
    (other 0).commandId.expose (commandFingerprint (other 0)) 2 2 .malformedCommand now)

/-- The document another payload under the name would lead to: its rejection has no number of its own. -/
def overflowing : StateV1 :=
  exhausted.rejectConflictingReplay (other 1).commandId.expose (commandFingerprint (other 1)) 2 2 (observedAt now)

theorem plan_misplaced :
    plan Fixture.pki retention (noted (u64Max - 1) []) (misplaced 0) =
      .ok (.store exhausted (.outcome (.rejected .malformedCommand))) ∧
    plan Fixture.pki retention exhausted (misplaced 1) =
      .ok (.store overflowing (.outcome (.rejected .malformedCommand))) ∧
    exhausted.validate = .ok () ∧ overflowing.validate ≠ .ok () := by decide +kernel

theorem clocked_of_now {actions : List Action} (h : ∀ action ∈ actions, ∀ t, action.clock = some t → t = now) :
    Clocked actions := by
  have hnow : ∀ t ∈ actions.filterMap Action.clock, t = now := by
    intro t ht
    obtain ⟨action, hmem, hclock⟩ := List.mem_filterMap.1 ht
    exact h action hmem t hclock
  refine List.pairwise_iff_forall_sublist.2 fun {t t'} hsub => ?_
  rw [hnow t (hsub.subset (by simp)), hnow t' (hsub.subset (by simp))]

end Fixture

open Fixture in
/-- A command is rejected with the last sequence number.  Another payload under its name, at the same time, then ends in
`InvalidState`. -/
theorem redelivery_exhausted : ∃ before b a,
    Clocked (before ++ .call (misplaced 0) clean :: [] ++ [.call (misplaced 1) clean]) ∧
    (Device.fresh.run Fixture.pki before).agent = some b ∧
    b.state.answer ⟨(other 0).commandId.expose, commandFingerprint (other 0), now⟩ = none ∧
    ((Device.fresh.run Fixture.pki before).step Fixture.pki (.call (misplaced 0) clean)).1 =
      some (.ok (.outcome (.rejected .malformedCommand))) ∧
    (Device.fresh.run Fixture.pki (before ++ [.call (misplaced 0) clean])).agent = some a ∧
    (other 1).commandId = (other 0).commandId ∧ now < now + b.retention.1 ∧
    commandFingerprint (other 1) ≠ commandFingerprint (other 0) ∧
    ((Device.fresh.run Fixture.pki (before ++ [.call (misplaced 0) clean])).step Fixture.pki
      (.call (misplaced 1) clean)).1 = some (.err (.store .invalidState)) := by
  obtain ⟨before, hclock, hb⟩ := reach_noted (u64Max - 2) (by decide)
  obtain ⟨hp, hp', hv, hv'⟩ := plan_misplaced
  obtain ⟨hanswer, hagent⟩ := (sound_run Fixture.pki before).step_store hb hp hv
  rw [← Device.run_concat] at hagent
  refine ⟨before, _, _, ?_, hb, ?_, hanswer, hagent, rfl, by decide, by decide +kernel, ?_⟩
  · refine clocked_of_now fun action hmem t ht => ?_
    simp only [List.append_assoc, List.cons_append, List.nil_append, List.mem_append, List.mem_cons, List.not_mem_nil,
      or_false] at hmem
    rcases hmem with hmem | rfl | rfl
    · exact hclock action hmem t ht
    · cases ht
      rfl
    · cases ht
      rfl
  · decide +kernel
  · rw [Device.step_call hagent, perform_eq]
    show some ((plan Fixture.pki retention exhausted (misplaced 1)).execute clean _).1 = _
    rw [hp', execute_store_invalid clean hv']

end RssIncubator.Agent
