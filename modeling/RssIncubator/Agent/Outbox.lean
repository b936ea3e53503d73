import RssIncubator.Agent.Durable

/-!
# The outbox is a queue

Four operations add to the outbox and one removes from it.  What is in it stays, in its order and with its
payload, until it is confirmed under its own name; what is added comes with new sequence numbers, or is the
acknowledgement of a journalled command again.
-/

namespace RssIncubator.Agent

open Lib StateV1

/-! ### One operation -/

/-- The queue after an operation that confirms nothing: the old one, then what is new. -/
structure Extends (s c : StateV1) (new : List StoredOutbound) : Prop where
  outbox : c.outbox = s.outbox ++ new ∨ new = [] ∧ c.outbox = s.outbox.map unblock
  /-- A new entry has a new sequence number, unless it is taken from the journal. -/
  sequences : ∀ o ∈ new, s.deviceSequence < o.sequence ∨
    ∃ k ∈ s.commandJournal, o = .ack (eventId .ack k.commandId) k.acknowledgement.replayed

/-- What a published outcome says about the reason of a rejection. -/
def ApplyOutcome.rejection : ApplyOutcome → Option CommandRejection
  | .rejected reason => some reason
  | _ => none

/-- The acknowledgement that answers a delivery is in the outbox.  A conflicting payload is found by the name of its
event, which is that of the delivery as far as the hash tells events apart. -/
def Answered (s : StateV1) (d : Delivery) (o : ApplyOutcome) : Prop :=
  ∃ e p, .ack e p ∈ s.outbox ∧ p.rejection = o.rejection ∧
    (e = eventId .ack d.commandId ∧ p.commandId = d.commandId ∨
      e = eventId .rejected (conflictSource d.commandId d.fingerprint) ∧
        (EventsDistinct (s.events ++ [(.rejected, conflictSource d.commandId d.fingerprint)]) → p.commandId = d.commandId))

/-- A conflicting payload is told by its command and its fingerprint. -/
theorem conflictSource_inj {c c' fp fp' : String} (hfp : validDigest fp = true) (hfp' : validDigest fp' = true)
    (h : conflictSource c fp = conflictSource c' fp') : c = c' := by
  have hu := congrArg utf8 h
  unfold conflictSource at hu
  rw [utf8_append, utf8_append, utf8_append, utf8_append] at hu
  have hlen : (utf8 fp).length = (utf8 fp').length := by
    rw [utf8_length_of_validDigest hfp, utf8_length_of_validDigest hfp']
  obtain ⟨hu, -⟩ := List.append_inj' hu hlen
  exact utf8_inj.1 (List.append_inj' hu rfl).1

section Operations

variable {pki : Pki} {retention : NonZeroU32} {s c : StateV1} {call : Call} {reply : Reply}

/-- A confirmation removes the one entry of that name. -/
theorem Commits.confirmed {event : String} (h : Commits pki retention (.confirmOutbound event) s c reply) (hs : s.Coherent) :
    s.confirmOutbound event = some c ∧ ∃ o before after, o.eventId = event ∧ s.outbox = before ++ o :: after ∧
      c.outbox = before ++ after := by
  obtain ⟨dec, hp, hc, -⟩ := h
  rw [plan, planChange_eq_ok] at hp
  obtain ⟨s', hconf, rfl⟩ := hp
  cases hc
  refine ⟨hconf, ?_⟩
  obtain ⟨o, ho, he, -, rfl⟩ := confirmOutbound_eq_some hconf
  obtain ⟨before, after, hsplit, herase⟩ := hs.consistent.confirmed_outbox ho
  exact ⟨o, before, after, he, hsplit, herase⟩

/-- **An operation that confirms nothing extends the queue.** -/
theorem Commits.extends (h : Commits pki retention call s c reply) (hs : s.Coherent)
    (hcall : ∀ event, call ≠ .confirmOutbound event) (hseq : s.deviceSequence < u64Max - 1) :
    ∃ new, Extends s c new := by
  obtain ⟨dec, hp, hc, -⟩ := h
  have hnext : saturatingAdd s.deviceSequence 1 = s.deviceSequence + 1 := saturatingAdd_one_of_lt (by omega)
  have hfirst : s.deviceSequence < saturatingAdd s.deviceSequence 1 := by omega
  cases plan_cases hs.consistent hp with
  | duplicate hdel hm hack => cases hc
  | conflicting hdel hm hknown => cases hc
  | replay hdel hm hack hroom hfind =>
    cases hc
    refine ⟨_, .inl rfl, ?_⟩
    intro o ho
    exact .inr ⟨_, List.mem_of_find?_eq_some hfind, List.mem_singleton.1 ho⟩
  | conflict hdel hm hknown hroom hgen hfence =>
    cases hc
    refine ⟨_, .inl rfl, ?_⟩
    intro o ho
    rw [List.mem_singleton.1 ho]
    exact .inl hfirst
  | reject hdel hm hgen hfence hexpiry hroom hjournal =>
    cases hc
    refine ⟨_, .inl rfl, ?_⟩
    intro o ho
    rw [List.mem_singleton.1 ho]
    exact .inl hfirst
  | accept hm hflight hid htopic hdevice hdeadline hres hfence hgen hcred hroom hjournal hrev =>
    cases hc
    have hsecond : s.deviceSequence < saturatingAdd (saturatingAdd s.deviceSequence 1) 1 := by
      rw [hnext, saturatingAdd_one_of_lt (by omega)]
      omega
    refine ⟨_, .inl rfl, ?_⟩
    intro o ho
    rcases List.mem_pair.1 ho with rfl | rfl
    · exact .inl hfirst
    · exact .inl hsecond
  | confirm hconf => exact absurd rfl (hcall _)
  | reconnect hrec =>
    cases hc
    obtain ⟨-, rfl⟩ := markReconnected_eq_some.1 hrec
    exact ⟨[], .inr ⟨rfl, rfl⟩, fun o ho => (by cases ho)⟩
  | settled hset =>
    cases hc
    obtain ⟨p, -, -, rfl⟩ := markInboundSettled_eq_some hset
    exact ⟨[], .inl (List.append_nil _).symm, fun o ho => (by cases ho)⟩
  | absent hset =>
    cases hc
    obtain ⟨p, -, -, rfl⟩ := markInboundSettled_eq_some hset
    exact ⟨[], .inl (List.append_nil _).symm, fun o ho => (by cases ho)⟩

/-- An acknowledgement stays when anything but itself is confirmed. -/
theorem Commits.ack_kept (h : Commits pki retention call s c reply) (hs : s.Coherent) {e : String} {p : StoredAck}
    (ho : .ack e p ∈ s.outbox) (hcall : call ≠ .confirmOutbound e) : .ack e p ∈ c.outbox := by
  obtain ⟨dec, hp, hc, -⟩ := h
  cases plan_cases hs.consistent hp with
  | duplicate hdel hm hack => cases hc
  | conflicting hdel hm hknown => cases hc
  | replay hdel hm hack hroom hfind =>
    cases hc
    exact List.mem_append_left _ ho
  | conflict hdel hm hknown hroom hgen hfence =>
    cases hc
    exact List.mem_append_left _ ho
  | reject hdel hm hgen hfence hexpiry hroom hjournal =>
    cases hc
    exact List.mem_append_left _ ho
  | accept hm hflight hid htopic hdevice hdeadline hres hfence hgen hcred hroom hjournal hrev =>
    cases hc
    exact List.mem_append_left _ ho
  | confirm hconf =>
    cases hc
    obtain ⟨o, -, rfl, -, rfl⟩ := confirmOutbound_eq_some hconf
    refine (List.mem_eraseP_of_neg ?_).2 ho
    rw [decide_eq_true_eq]
    rintro rfl
    exact hcall rfl
  | reconnect hrec =>
    cases hc
    obtain ⟨-, rfl⟩ := markReconnected_eq_some.1 hrec
    exact List.mem_map_of_mem (f := unblock) ho
  | settled hset =>
    cases hc
    obtain ⟨q, -, -, rfl⟩ := markInboundSettled_eq_some hset
    exact ho
  | absent hset =>
    cases hc
    obtain ⟨q, -, -, rfl⟩ := markInboundSettled_eq_some hset
    exact ho

/-- The rejection of a conflicting payload is found by its name. -/
theorem StateV1.Coherent.answered_conflict (h : s.Coherent) {d : Delivery} (hfp : validDigest d.fingerprint = true)
    (hknown : s.hasConflictingReplay d.commandId d.fingerprint = true) :
    Answered s d (.rejected .malformedCommand) := by
  obtain ⟨o, ho, he⟩ : ∃ o ∈ s.outbox, o.eventId = eventId .rejected (conflictSource d.commandId d.fingerprint) := by
    simpa [hasConflictingReplay] using hknown
  have hid := (h.consistent.eventId_eq ho).symm.trans he
  -- the kind of the event shows that the entry is the rejection of a conflicting payload
  have hkind := eventId_kind hid
  cases o with
  | ack e p =>
    have hcause : p.Conflicting := by
      refine (h.acks _ ho p rfl).resolve_left ?_
      intro hord
      have hcause : p.eventCause = p.commandId := hord
      simp [StoredOutbound.event, hcause] at hkind
    obtain ⟨fp, hvalid, hsource, hrej⟩ := hcause
    refine ⟨e, p, ho, hrej, .inr ⟨he, ?_⟩⟩
    intro hd
    have hinj := (eventId_inj hd (List.mem_append_left _ (mem_events ho)) (by simp) hid).2
    exact conflictSource_inj hvalid hfp (hsource.symm.trans hinj)
  | reportBlocked e r => cases hkind
  | reportReady e r => cases hkind

/-- A decision that is no duplicate is answered by an acknowledgement: the one outstanding, -/
theorem answered_keep (hs : s.Coherent) {d : Delivery} {o : ApplyOutcome} (hd : call.delivery = some d)
    (ho : o ≠ .duplicate) (hp : plan pki retention s call = .ok (.keep (.outcome o))) : Answered s d o := by
  cases plan_cases hs.consistent hp with
  | duplicate hdel hm hack => exact absurd rfl ho
  | conflicting hdel hm hknown =>
    obtain rfl := Option.some.inj (hd.symm.trans hdel)
    exact hs.answered_conflict (Call.delivery_valid hd) hknown

/-- or the one that is queued with it. -/
theorem Commits.answered {o : ApplyOutcome} (h : Commits pki retention call s c (.outcome o)) (hs : s.Coherent)
    {d : Delivery} (hd : call.delivery = some d) (ho : o ≠ .duplicate) : Answered c d o := by
  obtain ⟨dec, hp, hc, -⟩ := h
  cases plan_cases hs.consistent hp with
  | duplicate hdel hm hack => cases hc
  | conflicting hdel hm hknown => cases hc
  | replay hdel hm hack hroom hfind =>
    cases hc
    exact absurd rfl ho
  | conflict hdel hm hknown hroom hgen hfence =>
    cases hc
    obtain rfl := Option.some.inj (hd.symm.trans hdel)
    exact ⟨_, _, List.mem_append_right _ List.mem_cons_self, rfl, .inr ⟨rfl, fun _ => rfl⟩⟩
  | reject hdel hm hgen hfence hexpiry hroom hjournal =>
    cases hc
    obtain rfl := Option.some.inj (hd.symm.trans hdel)
    exact ⟨_, _, List.mem_append_right _ List.mem_cons_self, rfl, .inl ⟨rfl, rfl⟩⟩
  | accept hm hflight hid htopic hdevice hdeadline hres hfence hgen hcred hroom hjournal hrev =>
    cases hc
    cases hd
    exact ⟨_, _, List.mem_append_right _ List.mem_cons_self, rfl, .inl ⟨rfl, rfl⟩⟩
  | confirm hconf => cases hd
  | reconnect hrec => cases hd
  | settled hset => cases hd
  | absent hset => cases hd

end Operations

/-! ### Runs -/

section Runs

variable {pki : Pki} {d : Device}

/-- An entry is in the outbox, in memory and on disk. -/
structure Device.Queues (d : Device) (o : StoredOutbound) : Prop where
  stands : d.standing ≠ none
  copies : ∀ s, d.standing = some s ∨ manifest d.tree = some s → o ∈ s.outbox

theorem Sound.queues_step (h : Sound pki d) {e : String} {p : StoredAck} (hq : d.Queues (.ack e p)) {action : Action}
    (haction : ∀ faults, action ≠ .call (.confirmOutbound e) faults) : (d.step pki action).2.Queues (.ack e p) := by
  have hnext := h.holding_step (P := fun s => .ack e p ∈ s.outbox) ⟨hq.stands, hq.copies⟩ action ?_
  · exact ⟨hnext.stands, hnext.copies⟩
  intro a call faults c reply ha hcall hc hmem
  refine hc.ack_kept (h.memory a ha).1.coherent hmem ?_
  rintro rfl
  exact haction faults hcall

/-- **An acknowledgement stays in the outbox** until it is confirmed under its name, whatever fails and wherever the
machine stops. -/
theorem Sound.queues_run {e : String} {p : StoredAck} {actions : List Action} (h : Sound pki d)
    (hq : d.Queues (.ack e p)) (hactions : ∀ faults, .call (.confirmOutbound e) faults ∉ actions) :
    (d.run pki actions).Queues (.ack e p) := by
  induction actions generalizing d with
  | nil => exact hq
  | cons action actions ih =>
    refine ih (h.step action) (h.queues_step hq ?_) fun faults hm => hactions faults (List.mem_cons_of_mem _ hm)
    rintro faults rfl
    exact hactions faults List.mem_cons_self

/-- The queue of a document. -/
structure QueueValid (s : StateV1) : Prop where
  length : s.outbox.length ≤ 128
  eventIds : (s.outbox.map StoredOutbound.eventId).Nodup
  sequences : (s.outbox.map StoredOutbound.sequence).Nodup
  range : ∀ o ∈ s.outbox, 1 ≤ o.sequence ∧ o.sequence ≤ s.deviceSequence

theorem StateV1.Consistent.queueValid {s : StateV1} (h : s.Consistent) : QueueValid s :=
  ⟨h.outbox_length, h.eventIds, h.sequences, fun o ho => ⟨(h.entries o ho).sequence_pos, (h.entries o ho).sequence_le⟩⟩

theorem copy_coherent (h : Sound pki d) {s : StateV1} (hs : d.standing = some s ∨ manifest d.tree = some s) :
    s.Coherent :=
  hs.elim (standing_coherent h) fun hs => (h.disk s hs).coherent

end Runs

/-- **No fact is lost, overwritten or duplicated.**  In memory and on disk the outbox is a valid queue at all times.  An
operation that is answered extends it, or removes the one entry it confirms.  A command that is accepted or
rejected has its acknowledgement in the queue, and once it is on disk it stays there until it is confirmed. -/
theorem queue_conserved (pki : Pki) (actions : List Action) :
    (∀ s, (Device.fresh.run pki actions).standing = some s ∨ manifest (Device.fresh.run pki actions).tree = some s →
      QueueValid s) ∧
    ∀ a call faults reply, (Device.fresh.run pki actions).agent = some a → a.state.deviceSequence ≤ u64Max - 2 →
      ((Device.fresh.run pki actions).step pki (.call call faults)).1 = some (.ok reply) →
      ∃ s', ((Device.fresh.run pki actions).step pki (.call call faults)).2.agent = some { a with state := s' } ∧
        (∀ event, call = .confirmOutbound event → ∃ o before after, o.eventId = event ∧
          a.state.outbox = before ++ o :: after ∧ s'.outbox = before ++ after) ∧
        ((∀ event, call ≠ .confirmOutbound event) → ∃ new, Extends a.state s' new) ∧
        (∀ d o, call.delivery = some d → reply = .outcome o → o ≠ .duplicate → Answered s' d o) ∧
        (manifest ((Device.fresh.run pki actions).step pki (.call call faults)).2.tree = some s' →
          ∀ e p more, .ack e p ∈ s'.outbox → (∀ faults', .call (.confirmOutbound e) faults' ∉ more) →
            ∃ s, (Device.fresh.run pki (actions ++ .call call faults :: more)).standing = some s ∧
              .ack e p ∈ s.outbox) := by
  have hsound := sound_run pki actions
  refine ⟨fun s hs => (copy_coherent hsound hs).consistent.queueValid, ?_⟩
  intro a call faults reply ha hseq hr
  have hcoh := (hsound.memory a ha).1.coherent
  obtain ⟨s', hs', hcall⟩ := hsound.call_ok ha hr
  refine ⟨s', hs', ?_, ?_, ?_, ?_⟩
  · rintro event rfl
    rcases hcall with ⟨-, -, hp⟩ | ⟨-, hc⟩
    · rw [plan, planChange_eq_ok] at hp
      obtain ⟨_, -, h⟩ := hp
      cases h
    · exact (hc.confirmed hcoh).2
  · intro hne
    rcases hcall with ⟨rfl, -, -⟩ | ⟨-, hc⟩
    · exact ⟨[], .inl (List.append_nil _).symm, fun o ho => (by cases ho)⟩
    · exact hc.extends hcoh hne (by have hmax : u64Max = 2 ^ 64 - 1 := rfl; omega)
  · rintro d o hd rfl ho
    rcases hcall with ⟨rfl, -, hp⟩ | ⟨-, hc⟩
    · exact answered_keep hcoh hd ho hp
    · exact hc.answered hcoh hd ho
  · intro hm e p more hmem hmore
    have hstand := standing_agent hs'
    have hq : ((Device.fresh.run pki actions).step pki (.call call faults)).2.Queues (.ack e p) := by
      refine ⟨by rw [hstand]; exact fun h => (by cases h), ?_⟩
      rintro s (hs | hs)
      · obtain rfl := Option.some.inj (hstand.symm.trans hs)
        exact hmem
      · obtain rfl := Option.some.inj (hm.symm.trans hs)
        exact hmem
    have hfin := (hsound.step (.call call faults)).queues_run hq hmore
    obtain ⟨s, hs⟩ := Option.ne_none_iff_exists'.1 hfin.stands
    rw [Device.run_append]
    exact ⟨s, hs, hfin.copies s (.inl hs)⟩

open Fixture in
/-- A malformed payload on a fresh device is rejected, and the rejection is in the outbox. -/
theorem queue_conserved_rejection : ∃ s', ((Device.fresh.run Fixture.pki [start]).step Fixture.pki
      (.call (malformed [1] now) clean)).2.agent = some ⟨s', retention⟩ ∧
    Answered s' ⟨commandId.expose, malformedFingerprint topic commandId.expose [1], now⟩ (.rejected .malformedCommand) := by
  have hr : ((Device.fresh.run Fixture.pki [start]).step Fixture.pki (.call (malformed [1] now) clean)).1 =
      some (.ok (.outcome (.rejected .malformedCommand))) := by decide +kernel
  obtain ⟨s', hs', -, -, hanswer, -⟩ := (queue_conserved Fixture.pki [start]).2 _ _ _ _ run_start (by decide) hr
  exact ⟨s', hs', hanswer _ _ rfl rfl (by decide)⟩

end RssIncubator.Agent
