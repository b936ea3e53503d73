import RssIncubator.Lib.Runs
import RssIncubator.Agent.Durable

/-!
# One event, one fact

The name of an event is derived from the command it is about, so a fact that is published again must say what
it said before.  Acknowledgements are replayed from the journal, reports are written once: as long as the
journal keeps its entries both are stable.  The rejection of a conflicting payload is remembered by the outbox
alone, and is made up anew, with another sequence number, when the payload comes again after its rejection has
been confirmed.
-/

namespace RssIncubator.Agent

open Lib StateV1

/-! ### Facts -/

/-- The fact of an entry, whether or not it may be published yet. -/
def StoredOutbound.fact : StoredOutbound → OutboundFact
  | .ack e payload => .commandAcknowledged e payload.toFact
  | .reportBlocked e payload | .reportReady e payload => .certificateReported e payload.toFact

namespace StoredOutbound

@[simp] theorem fact_eventId (o : StoredOutbound) : o.fact.eventId = o.eventId := by cases o <;> rfl

@[simp] theorem fact_deviceSequence (o : StoredOutbound) : o.fact.deviceSequence = o.sequence := by cases o <;> rfl

@[simp] theorem fact_unblock (o : StoredOutbound) : (unblock o).fact = o.fact := by cases o <;> rfl

theorem fact_of_ready {o : StoredOutbound} {f : OutboundFact} (h : o.readyFact = some f) : o.fact = f := by
  cases o <;> cases h <;> rfl

end StoredOutbound

/-- What is published of an acknowledgement is the same when it is replayed. -/
theorem StoredAck.toFact_replayed (a : StoredAck) : a.replayed.toFact = a.toFact := by
  unfold StoredAck.replayed
  split <;> rfl

/-- The facts of the outbox. -/
def StateV1.facts (s : StateV1) : List OutboundFact := s.outbox.map StoredOutbound.fact

theorem StateV1.mem_facts_of_next {s : StateV1} {f : OutboundFact} (h : s.nextOutbound = some f) : f ∈ s.facts := by
  obtain ⟨o, ho, hf⟩ := List.exists_of_findSome?_eq_some h
  split at hf
  · cases hf
  · exact List.mem_map.2 ⟨o, ho, StoredOutbound.fact_of_ready hf⟩

namespace StateV1

variable (s : StateV1)

theorem facts_replayed (k : StoredCommand) : (s.replayed k).facts =
    s.facts ++ [.commandAcknowledged (eventId .ack k.commandId) k.acknowledgement.toFact] := by
  rw [← StoredAck.toFact_replayed]
  exact List.map_append

theorem facts_rejectConflictingReplay (commandId fingerprint : String) (generation fence : ℕ) (observedAt : ℤ) :
    (s.rejectConflictingReplay commandId fingerprint generation fence observedAt).facts =
      s.facts ++ [.commandAcknowledged (eventId .rejected (conflictSource commandId fingerprint))
        (conflictAck commandId fingerprint generation fence (saturatingAdd s.deviceSequence 1) observedAt).toFact] :=
  List.map_append

theorem facts_reject (k : RejectedCommand) : (s.reject k).facts = s.facts ++
    [.commandAcknowledged (eventId .ack k.commandId) (k.acknowledgement (saturatingAdd s.deviceSequence 1)).toFact] :=
  List.map_append

theorem facts_accepted (previous : DeviceIdentity) (k : AcceptedCommand) : (s.accepted previous k).facts = s.facts ++
    [.commandAcknowledged (eventId .ack k.commandId) (k.acknowledgement (saturatingAdd s.deviceSequence 1)).toFact,
      .certificateReported (eventId .report k.commandId)
        (k.report s.identity (saturatingAdd (saturatingAdd s.deviceSequence 1) 1)).toFact] :=
  List.map_append

theorem facts_unblocked : (s.outbox.map unblock).map StoredOutbound.fact = s.facts := by
  rw [List.map_map]
  exact List.map_congr_left fun o _ => o.fact_unblock

end StateV1

/-! ### The facts of a run -/

/-- The events a delivery can give rise to. -/
def Call.events (call : Call) : List Event :=
  match call.delivery with
  | none => []
  | some d => [(.ack, d.commandId), (.report, d.commandId), (.rejected, conflictSource d.commandId d.fingerprint)]

def Action.events : Action → List Event
  | .call c _ => c.events
  | _ => []

/-- The events are those of the deliveries, the facts of commands are in the journal or were taken from it, and
no two facts share a name. -/
structure Ledger (queued : OutboundFact → Prop) (events : List Event) (s : StateV1) : Prop where
  outbox : ∀ f ∈ s.facts, queued f
  journal : ∀ c ∈ s.commandJournal, queued (.commandAcknowledged (eventId .ack c.commandId) c.acknowledgement.toFact)
  source : ∀ f, queued f → ∃ e ∈ events, f.eventId = eventId e.1 e.2 ∧
    (e.1 = .rejected ∨ ∃ c ∈ s.commandJournal, c.commandId = e.2)
  unique : ∀ f g, queued f → queued g → f.eventId = g.eventId → f = g

section Ledger

variable {queued : OutboundFact → Prop} {events : List Event} {s c : StateV1} {call : Call}

theorem Ledger.congr {queued' : OutboundFact → Prop} (hq : ∀ f, queued f ↔ queued' f) (h : Ledger queued events s) :
    Ledger queued' events s := by
  obtain rfl : queued = queued' := funext fun f => propext (hq f)
  exact h

/-- A step that queues no new fact. -/
theorem Ledger.keep (h : Ledger queued events s) (hfacts : ∀ f ∈ c.facts, queued f)
    (hjournal : c.commandJournal = s.commandJournal) : Ledger (fun f => queued f ∨ f ∈ c.facts) events c := by
  have hq : ∀ f, queued f ↔ queued f ∨ f ∈ c.facts := fun f => ⟨.inl, fun hf => hf.elim id (hfacts f)⟩
  refine Ledger.congr hq ?_
  refine ⟨hfacts, ?_, ?_, h.unique⟩
  · rw [hjournal]
    exact h.journal
  · rw [hjournal]
    exact h.source

/-- A step that queues new facts, under names that no earlier fact has. -/
theorem Ledger.grow (h : Ledger queued events s) {new : List OutboundFact} (hfacts : c.facts = s.facts ++ new)
    (hfresh : ∀ f ∈ new, ∀ g, queued g → g.eventId ≠ f.eventId) (hnew : (new.map OutboundFact.eventId).Nodup)
    (hkeep : ∀ k ∈ s.commandJournal, ∃ k' ∈ c.commandJournal, k'.commandId = k.commandId)
    (hjournal : ∀ k ∈ c.commandJournal, k ∈ s.commandJournal ∨
      .commandAcknowledged (eventId .ack k.commandId) k.acknowledgement.toFact ∈ new)
    (hsource : ∀ f ∈ new, ∃ e ∈ events, f.eventId = eventId e.1 e.2 ∧
      (e.1 = .rejected ∨ ∃ k ∈ c.commandJournal, k.commandId = e.2)) :
    Ledger (fun f => queued f ∨ f ∈ c.facts) events c := by
  have hq : ∀ f, queued f ∨ f ∈ new ↔ queued f ∨ f ∈ c.facts := by
    intro f
    rw [hfacts, List.mem_append]
    exact ⟨fun hf => hf.imp id .inr, fun hf => hf.elim .inl fun hf => hf.imp (h.outbox f) id⟩
  refine Ledger.congr hq ⟨?_, ?_, ?_, ?_⟩
  · intro f hf
    rw [hfacts, List.mem_append] at hf
    exact hf.imp (h.outbox f) id
  · intro k hk
    exact (hjournal k hk).imp (h.journal k) id
  · rintro f (hf | hf)
    · obtain ⟨e, he, hid, hor⟩ := h.source f hf
      refine ⟨e, he, hid, hor.imp id ?_⟩
      rintro ⟨k, hk, hke⟩
      obtain ⟨k', hk', hkk⟩ := hkeep k hk
      exact ⟨k', hk', hkk.trans hke⟩
    · exact hsource f hf
  · rintro f g (hf | hf) (hg | hg) he
    · exact h.unique f g hf hg he
    · exact absurd he (hfresh g hg f hf)
    · exact absurd he.symm (hfresh f hf g hg)
    · exact List.inj_on_of_nodup_map hnew hf hg he

/-- No entry of the journal has reached its retention deadline when the delivery comes. -/
def StateV1.Retains (s : StateV1) (d : Delivery) : Prop := ∀ k ∈ s.commandJournal, d.now < k.retainUntilEpochSeconds

theorem StateV1.Retains.expire {d : Delivery} (h : s.Retains d) {expiry : ℕ} (he : expiry ≤ d.now) {k : StoredCommand}
    (hk : k ∈ s.commandJournal) : k ∈ (s.expireCommandJournal expiry).commandJournal :=
  mem_expire.2 ⟨hk, .inl (he.trans_lt (h k hk))⟩

/-- A command the journal does not know has not been heard of. -/
theorem Ledger.unheard (hl : Ledger queued events s) (hd : EventsDistinct events) {d : Delivery} (hret : s.Retains d)
    (hm : s.answer d = none) {k : EventKind} (hk : k ≠ .rejected) (he : (k, d.commandId) ∈ events) {f : OutboundFact}
    (hf : queued f) : f.eventId ≠ eventId k d.commandId := by
  intro heq
  obtain ⟨e, hmem, hid, hor⟩ := hl.source f hf
  obtain ⟨hek, hec⟩ := eventId_inj hd hmem he (hid.symm.trans heq)
  rcases hor with hrej | ⟨c, hc, hce⟩
  · exact hk (hek ▸ hrej)
  · have hlt := hret c hc
    have hle := commandMatch_eq_none.1 hm c hc (hce.trans hec)
    omega

variable {pki : Pki} {retention : NonZeroU32} {reply : Reply}

/-- **One operation keeps the names of the facts apart**, if the journal is within its retention and a conflicting
payload whose rejection is no longer in the outbox has not been rejected before. -/
theorem Commits.ledger (h : Commits pki retention call s c reply) (hs : s.Coherent) (hl : Ledger queued events s)
    (hd : EventsDistinct events) (hev : ∀ e ∈ call.events, e ∈ events)
    (hret : ∀ d, call.delivery = some d → s.Retains d)
    (hunr : ∀ d, call.delivery = some d → s.answer d = some false →
      s.hasConflictingReplay d.commandId d.fingerprint = false →
      ∀ f, queued f → f.eventId ≠ eventId .rejected (conflictSource d.commandId d.fingerprint)) :
    Ledger (fun f => queued f ∨ f ∈ c.facts) events c := by
  obtain ⟨dec, hp, hc, -⟩ := h
  have hevents : ∀ {d}, call.delivery = some d → (.ack, d.commandId) ∈ events ∧ (.report, d.commandId) ∈ events ∧
      (.rejected, conflictSource d.commandId d.fingerprint) ∈ events := by
    intro d hdel
    unfold Call.events at hev
    rw [hdel] at hev
    exact ⟨hev _ (by simp), hev _ (by simp), hev _ (by simp)⟩
  cases plan_cases hs.consistent hp with
  | duplicate hdel hm hack => cases hc
  | conflicting hdel hm hknown => cases hc
  | replay hdel hm hack hroom hfind =>
    cases hc
    refine hl.keep ?_ rfl
    intro f hf
    rw [facts_replayed, List.mem_append, List.mem_singleton] at hf
    rcases hf with hf | rfl
    · exact hl.outbox f hf
    · exact hl.journal _ (List.mem_of_find?_eq_some hfind)
  | conflict hdel hm hknown hroom hgen hfence =>
    cases hc
    refine hl.grow (facts_rejectConflictingReplay ..) ?_ (List.nodup_singleton _) (fun k hk => ⟨k, hk, rfl⟩)
      (fun k hk => .inl hk) ?_
    · intro f hf g hg
      rw [List.mem_singleton] at hf
      subst hf
      exact hunr _ hdel hm hknown g hg
    · intro f hf
      rw [List.mem_singleton] at hf
      subst hf
      exact ⟨_, (hevents hdel).2.2, rfl, .inl rfl⟩
  | reject hdel hm hgen hfence hexpiry hroom hjournal =>
    rename_i d generation fence rejection expiry
    cases hc
    have hle : expiry ≤ d.now := by
      rcases hexpiry with rfl | rfl
      · exact le_rfl
      · exact unsigned_observedAt_le _
    refine hl.grow (facts_reject ..) ?_ (List.nodup_singleton _) ?_ ?_ ?_
    · intro f hf g hg
      rw [List.mem_singleton] at hf
      subst hf
      exact hl.unheard hd (hret _ hdel) hm (by decide) (hevents hdel).1 hg
    · intro k hk
      exact ⟨k, List.mem_append_left _ ((hret _ hdel).expire hle hk), rfl⟩
    · intro k hk
      rcases List.mem_append.1 hk with hk | hk
      · exact .inl (mem_expire.1 hk).1
      · rw [List.mem_singleton] at hk
        subst hk
        exact .inr List.mem_cons_self
    · intro f hf
      rw [List.mem_singleton] at hf
      subst hf
      exact ⟨_, (hevents hdel).1, rfl, .inr ⟨_, List.mem_append_right _ List.mem_cons_self, rfl⟩⟩
  | accept hm hflight hid htopic hdevice hdeadline hres hfence hgen hcred hroom hjournal hrev =>
    rename_i topic command now catalog identity artifact revision
    cases hc
    have hret' : s.Retains ⟨command.commandId.expose, commandFingerprint command, now⟩ := hret _ rfl
    obtain ⟨hack, hrep, -⟩ := hevents (d := ⟨command.commandId.expose, commandFingerprint command, now⟩) rfl
    refine hl.grow (facts_accepted ..) ?_ ?_ ?_ ?_ ?_
    · intro f hf g hg
      rcases List.mem_pair.1 hf with rfl | rfl
      · exact hl.unheard hd hret' hm (by decide) hack hg
      · exact hl.unheard hd hret' hm (by decide) hrep hg
    · refine List.nodup_cons.2 ⟨?_, List.nodup_singleton _⟩
      intro he
      cases eventId_kind (List.mem_singleton.1 he)
    · intro k hk
      exact ⟨k, List.mem_append_left _ (hret'.expire (unsigned_observedAt_le _) hk), rfl⟩
    · intro k hk
      rcases List.mem_append.1 hk with hk | hk
      · exact .inl (mem_expire.1 hk).1
      · rw [List.mem_singleton] at hk
        subst hk
        exact .inr List.mem_cons_self
    · have hnew : ∃ k ∈ ((s.expireCommandJournal (unsigned (observedAt now))).accepted identity
          (acceptedCommand retention command artifact revision now)).commandJournal,
          k.commandId = command.commandId.expose := ⟨_, List.mem_append_right _ List.mem_cons_self, rfl⟩
      intro f hf
      rcases List.mem_pair.1 hf with rfl | rfl
      · exact ⟨_, hack, rfl, .inr hnew⟩
      · exact ⟨_, hrep, rfl, .inr hnew⟩
  | confirm hconf =>
    cases hc
    obtain ⟨entry, -, -, -, rfl⟩ := confirmOutbound_eq_some hconf
    refine hl.keep ?_ rfl
    intro f hf
    obtain ⟨o, ho, rfl⟩ := List.mem_map.1 hf
    exact hl.outbox _ (List.mem_map_of_mem (List.mem_of_mem_eraseP ho))
  | reconnect hrec =>
    cases hc
    obtain ⟨-, rfl⟩ := markReconnected_eq_some.1 hrec
    exact hl.keep (fun f hf => hl.outbox f (s.facts_unblocked ▸ hf)) rfl
  | settled hset =>
    cases hc
    obtain ⟨p, -, -, rfl⟩ := markInboundSettled_eq_some hset
    exact hl.keep hl.outbox rfl
  | absent hset =>
    cases hc
    obtain ⟨p, -, -, rfl⟩ := markInboundSettled_eq_some hset
    exact hl.keep hl.outbox rfl

end Ledger

/-! ### Runs -/

section Runs

variable {pki : Pki} {actions : List Action}

/-- The fact has been in the outbox at some point of the run. -/
def Queued (pki : Pki) (actions : List Action) (f : OutboundFact) : Prop :=
  ∃ p, p <+: actions ∧ ∃ s, (Device.fresh.run pki p).standing = some s ∧ f ∈ s.facts

theorem queued_concat {action : Action} {f : OutboundFact} : Queued pki (actions ++ [action]) f ↔
    Queued pki actions f ∨ ∃ s, (Device.fresh.run pki (actions ++ [action])).standing = some s ∧ f ∈ s.facts := by
  constructor
  · rintro ⟨p, hp, s, hs, hf⟩
    rcases List.prefix_concat_iff.1 hp with rfl | hp
    · exact .inr ⟨s, hs, hf⟩
    · exact .inl ⟨p, hp, s, hs, hf⟩
  · rintro (⟨p, hp, s, hs, hf⟩ | ⟨s, hs, hf⟩)
    · exact ⟨p, hp.trans (List.prefix_append _ _), s, hs, hf⟩
    · exact ⟨_, List.prefix_rfl, s, hs, hf⟩

/-- No entry of the journal reaches its retention deadline in the run. -/
def RetainedRun (pki : Pki) : List Action → Prop := AtEvery fun q action => ∀ call faults a d,
  action = .call call faults → (Device.fresh.run pki q).agent = some a → call.delivery = some d → a.state.Retains d

/-- A payload that conflicts with its journal entry does not come again once its rejection has left the outbox. -/
def UnrepeatedRun (pki : Pki) : List Action → Prop := AtEvery fun q action => ∀ call faults a d,
  action = .call call faults → (Device.fresh.run pki q).agent = some a → call.delivery = some d →
  a.state.answer d = some false → ∀ p s, p <+: q → (Device.fresh.run pki p).standing = some s →
    s.hasConflictingReplay d.commandId d.fingerprint = true → a.state.hasConflictingReplay d.commandId d.fingerprint = true

/-- Either copy of the state keeps the names of the facts apart. -/
structure Stable (pki : Pki) (events : List Event) (actions : List Action) : Prop where
  copies : ∀ s, (Device.fresh.run pki actions).standing = some s ∨ manifest (Device.fresh.run pki actions).tree = some s →
    Ledger (fun f => Queued pki actions f ∨ f ∈ s.facts) events s
  unborn : manifest (Device.fresh.run pki actions).tree = none → ∀ f, ¬ Queued pki actions f

theorem Stable.standing {events : List Event} (h : Stable pki events actions) {s : StateV1}
    (hs : (Device.fresh.run pki actions).standing = some s) : Ledger (Queued pki actions) events s :=
  (h.copies s (.inl hs)).congr fun _ => ⟨fun hf => hf.elim id fun hf => ⟨actions, List.prefix_rfl, s, hs, hf⟩, .inl⟩

/-- An operation of a run that meets the conditions. -/
theorem Stable.commits {events : List Event} (hd : EventsDistinct events) (h : Stable pki events actions) {a : Running}
    (ha : (Device.fresh.run pki actions).agent = some a) {call : Call} {faults : Faults} {c : StateV1} {reply : Reply}
    (hc : Commits pki a.retention call a.state c reply) (hev : ∀ e ∈ call.events, e ∈ events)
    (hret : RetainedRun pki (actions ++ [.call call faults])) (hunr : UnrepeatedRun pki (actions ++ [.call call faults])) :
    Ledger (fun f => Queued pki actions f ∨ f ∈ c.facts) events c := by
  have hs := ((sound_run pki actions).memory a ha).1.coherent
  refine hc.ledger hs (h.standing (standing_agent ha)) hd hev ?_ ?_
  · exact fun d hdel => (atEvery_concat.1 hret).2 call faults a d rfl ha hdel
  · rintro d hdel hm hknown f ⟨p, hp, s, hsp, hf⟩ he
    -- a fact of that name has been in the outbox, so it should be there still
    obtain ⟨o, ho, rfl⟩ := List.mem_map.1 hf
    have hold : s.hasConflictingReplay d.commandId d.fingerprint = true := by
      rw [← Bool.not_eq_false, hasConflictingReplay_eq_false]
      exact fun hno => hno o ho (o.fact_eventId ▸ he)
    have := (atEvery_concat.1 hunr).2 call faults a d rfl ha hdel hm p s hp hsp hold
    rw [hknown] at this
    cases this

theorem Stable.copied {events : List Event} (hd : EventsDistinct events) (h : Stable pki events actions)
    {action : Action} (hev : ∀ e ∈ action.events, e ∈ events) (hret : RetainedRun pki (actions ++ [action]))
    (hunr : UnrepeatedRun pki (actions ++ [action])) {next disk : Option StateV1}
    (hcopied : Copied pki (Device.fresh.run pki actions) action next disk) :
    (∀ s, next = some s ∨ disk = some s →
      Ledger (fun f => (Queued pki actions f ∨ ∃ s' ∈ next, f ∈ s'.facts) ∨ f ∈ s.facts) events s) ∧
    (disk = none → ∀ f, ¬ (Queued pki actions f ∨ ∃ s' ∈ next, f ∈ s'.facts)) := by
  have hstand : ∀ f, (∃ s' ∈ (Device.fresh.run pki actions).standing, f ∈ s'.facts) → Queued pki actions f :=
    fun f ⟨s', hs', hf⟩ => ⟨actions, List.prefix_rfl, s', hs', hf⟩
  -- the facts of the state the device stands on next are accounted for
  have hcongr : ∀ {s : StateV1} {next : Option StateV1}, (∀ f, (∃ s' ∈ next, f ∈ s'.facts) → Queued pki actions f ∨ f ∈ s.facts) →
      Ledger (fun f => Queued pki actions f ∨ f ∈ s.facts) events s →
      Ledger (fun f => (Queued pki actions f ∨ ∃ s' ∈ next, f ∈ s'.facts) ∨ f ∈ s.facts) events s :=
    fun hnext hl => hl.congr fun f => ⟨fun hf => hf.imp .inl id, fun hf => hf.elim (fun hf => hf.elim .inl (hnext f)) .inr⟩
  have hself : ∀ {s : StateV1} (f), (∃ s' ∈ some s, f ∈ s'.facts) → Queued pki actions f ∨ f ∈ s.facts :=
    fun f ⟨s', hs', hf⟩ => .inr (Option.mem_some.1 hs' ▸ hf)
  cases hcopied with
  | same =>
    exact ⟨fun s hs => hcongr (fun f hf => .inl (hstand f hf)) (h.copies s hs),
      fun hm f hf => h.unborn hm f (hf.elim id (hstand f))⟩
  | dropped =>
    refine ⟨fun s hs => ?_, fun hm f hf => ?_⟩
    · have hs := hs.elim id id
      rw [hs]
      exact hcongr hself (h.copies s (.inr hs))
    · rcases hf with hf | ⟨s', hs', -⟩
      · exact h.unborn hm f hf
      · rw [hm] at hs'
        cases hs'
  | first hnone hb =>
    refine ⟨fun s hs => ?_, fun hm => (by cases hm)⟩
    obtain rfl := Option.some.inj (hs.elim id id)
    refine hcongr hself ⟨fun f hf => .inr hf, fun k hk => (by cases hk), ?_, ?_⟩
    · rintro f (hf | hf)
      · exact absurd hf (h.unborn hnone f)
      · cases hf
    · rintro f g (hf | hf)
      · exact absurd hf (h.unborn hnone f)
      · cases hf
  | commits ha haction hc =>
    subst haction
    refine ⟨fun s hs => ?_, fun hm => (by cases hm)⟩
    obtain rfl := Option.some.inj (hs.elim id id)
    exact hcongr hself (h.commits hd ha hc hev hret hunr)
  | unsynced ha haction hc hfail =>
    subst haction
    rw [standing_agent ha] at hstand
    refine ⟨fun s hs => hcongr (fun f hf => .inl (hstand f hf)) ?_, fun hm => (by cases hm)⟩
    rcases hs with hs | hs
    · exact h.copies s (.inl ((standing_agent ha).trans hs))
    · obtain rfl := Option.some.inj hs
      exact h.commits hd ha hc hev hret hunr

theorem Stable.step {events : List Event} (hd : EventsDistinct events) (h : Stable pki events actions) {action : Action}
    (hev : ∀ e ∈ action.events, e ∈ events) (hret : RetainedRun pki (actions ++ [action]))
    (hunr : UnrepeatedRun pki (actions ++ [action])) : Stable pki events (actions ++ [action]) := by
  have hrun := Device.run_concat pki Device.fresh actions action
  have hq : ∀ f, Queued pki (actions ++ [action]) f ↔ Queued pki actions f ∨
      ∃ s ∈ ((Device.fresh.run pki actions).step pki action).2.standing, f ∈ s.facts := by
    intro f
    rw [queued_concat, hrun]
    rfl
  obtain ⟨hcopies, hunborn⟩ := h.copied hd hev hret hunr ((sound_run pki actions).copied action)
  refine ⟨?_, ?_⟩
  · rw [hrun]
    intro s hs
    exact (hcopies s hs).congr fun f => or_congr_left (hq f).symm
  · rw [hrun]
    intro hm f hf
    exact hunborn hm f ((hq f).1 hf)

/-- **The names of the facts are kept apart over a run** that meets the conditions. -/
theorem stable_run {events : List Event} (hd : EventsDistinct events) :
    ∀ actions : List Action, (∀ action ∈ actions, ∀ e ∈ action.events, e ∈ events) → RetainedRun pki actions →
      UnrepeatedRun pki actions → Stable pki events actions := by
  intro actions
  induction actions using List.reverseRecOn with
  | nil =>
    intro _ _ _
    have hnone : ∀ f, ¬ Queued pki [] f := by
      rintro f ⟨p, hp, s, hs, -⟩
      obtain rfl := List.prefix_nil.1 hp
      cases hs
    exact ⟨fun s hs => (by rcases hs with hs | hs <;> cases hs), fun _ => hnone⟩
  | append_singleton actions action ih =>
    intro hev hret hunr
    refine Stable.step hd (ih (fun x hx => hev x (List.mem_append_left _ hx)) ?_ ?_)
      (hev action (List.mem_append_right _ List.mem_cons_self)) hret hunr
    · exact (atEvery_concat.1 hret).1
    · exact (atEvery_concat.1 hunr).1

end Runs

/-- **One event, one fact**: two facts the agent yields under one name, at any two points of a run, are equal, if
nothing in the journal runs out, the hash keeps the events of the run apart, and no conflicting payload comes again
after its rejection has left the outbox. -/
theorem stable_identity (pki : Pki) {actions : List Action} (hret : RetainedRun pki actions)
    (hd : EventsDistinct (actions.flatMap Action.events)) (hunr : UnrepeatedRun pki actions) {p q : List Action}
    (hp : p <+: actions) (hq : q <+: actions) {a b : Running} (ha : (Device.fresh.run pki p).agent = some a)
    (hb : (Device.fresh.run pki q).agent = some b) {f g : OutboundFact} (hf : a.state.nextOutbound = some f)
    (hg : b.state.nextOutbound = some g) (he : f.eventId = g.eventId) : f = g := by
  have hstable : Stable pki (actions.flatMap Action.events) actions :=
    stable_run hd actions (fun action hm e he => List.mem_flatMap.2 ⟨action, hm, he⟩) hret hunr
  have hqf : Queued pki actions f := ⟨p, hp, _, standing_agent ha, mem_facts_of_next hf⟩
  have hqg : Queued pki actions g := ⟨q, hq, _, standing_agent hb, mem_facts_of_next hg⟩
  rcases hm : manifest (Device.fresh.run pki actions).tree with _ | s
  · exact absurd hqf (hstable.unborn hm f)
  · exact (hstable.copies s (.inr hm)).unique f g (.inl hqf) (.inl hqg) he

/-! ### A payload and another one under its name -/

namespace Fixture

def fingerprint (payload : Bytes) : String := malformedFingerprint topic commandId.expose payload

/-- The rejection of the first payload. -/
def rejection : RejectedCommand :=
  rejectedCommand retention commandId.expose (fingerprint [1]) 1 1 .malformedCommand now

/-- The document with it. -/
def once : StateV1 := first.reject rejection

def rejectionEntry : StoredOutbound := .ack (eventId .ack commandId.expose) (rejection.acknowledgement 1)

/-- The rejection of the second payload. -/
def conflictEntry (sequence time : ℕ) : StoredOutbound :=
  .ack (eventId .rejected (conflictSource commandId.expose (fingerprint [2])))
    (conflictAck commandId.expose (fingerprint [2]) 1 1 sequence (observedAt time))

/-- A document with one entry in its journal, and these in its outbox. -/
def noted (sequence : ℕ) (outbox : List StoredOutbound) : StateV1 :=
  { once with deviceSequence := sequence, outbox := outbox }

theorem fingerprint_ne : fingerprint [1] ≠ fingerprint [2] := by decide +kernel

/-- The journal of these documents knows the first payload. -/
theorem noted_journal {sequence : ℕ} {outbox : List StoredOutbound} :
    (noted sequence outbox).commandJournal =
      [⟨commandId.expose, fingerprint [1], rejection.acknowledgement 1, now + 300⟩] := by
  have hdeadline : rejection.retainUntilEpochSeconds = now + 300 := by decide
  show [] ++ [_] = _
  rw [hdeadline]
  rfl

theorem noted_answer {sequence : ℕ} {outbox : List StoredOutbound} (payload : Bytes) {time : ℕ} (h : time < now + 300) :
    (noted sequence outbox).commandMatch commandId.expose (fingerprint payload) time =
      some (decide (fingerprint [1] = fingerprint payload)) := by
  unfold StateV1.commandMatch
  rw [noted_journal, List.find?_cons_of_pos (by simp [h])]
  rfl

theorem run_once : (Device.fresh.run Fixture.pki [start, .call (malformed [1] now) clean]).agent =
    some ⟨noted 1 [rejectionEntry], retention⟩ := by
  have hsound := sound_run Fixture.pki [start]
  exact (hsound.step_malformed positiveExpiry run_start coherent_first.consistent rfl
    (ne_empty_of_validCommandId commandId.valid) (fun c hc => (by cases hc)) (by decide) (by decide) (by decide) (by decide)).2

section Steps

variable {d : Device} {sequence time : ℕ} {outbox : List StoredOutbound}

/-- The second payload is rejected, with the next sequence number, whenever its rejection is not outstanding. -/
theorem step_conflict (h : Sound Fixture.pki d) (ha : d.agent = some ⟨noted sequence outbox, retention⟩)
    (htime : time < now + 300) (hseq : sequence < u64Max) (hroom : outbox.length < outboxLimit)
    (hknown : ∀ o ∈ outbox, o.eventId ≠ eventId .rejected (conflictSource commandId.expose (fingerprint [2]))) :
    (d.step Fixture.pki (.call (malformed [2] time) clean)).2.agent =
      some ⟨noted (sequence + 1) (outbox ++ [conflictEntry (sequence + 1) time]), retention⟩ := by
  have hs := (h.memory _ ha).1.coherent.consistent
  have hm : (noted sequence outbox).commandMatch commandId.expose (fingerprint [2]) time = some false := by
    rw [noted_answer [2] htime, decide_eq_false fingerprint_ne]
  rw [← saturatingAdd_one_of_lt hseq]
  exact (h.step_conflicting positiveExpiry ha hs (.inl rfl) (ne_empty_of_validCommandId commandId.valid) hm
    (hasConflictingReplay_eq_false.2 hknown) hroom hseq).2

/-- The acknowledgement at the head of the outbox is confirmed. -/
theorem step_confirm {e : String} {ack : StoredAck} (h : Sound Fixture.pki d)
    (ha : d.agent = some ⟨noted sequence (.ack e ack :: outbox), retention⟩) (hack : ack.activatesRevision = none) :
    (d.step Fixture.pki (.call (.confirmOutbound e) clean)).2.agent = some ⟨noted sequence outbox, retention⟩ := by
  have hstep := (h.step_confirm ha (h.expires positiveExpiry ha)
    (show StoredOutbound.ack e ack ∈ (noted sequence (.ack e ack :: outbox)).outbox from List.mem_cons_self) rfl
    fun hr => (by cases hr)).2
  have herase : (noted sequence (.ack e ack :: outbox)).confirmed (.ack e ack) = noted sequence outbox := by
    simp only [StateV1.confirmed, noted, StoredOutbound.ackPayload, StoredOutbound.isReportReady, Option.bind_some, hack,
      List.eraseP_cons, decide_true, cond_true]
    rfl
  rw [← herase]
  exact hstep

end Steps

/-- The events of the two payloads. -/
theorem events_distinct : EventsDistinct [(.ack, commandId.expose), (.report, commandId.expose),
    (.rejected, conflictSource commandId.expose (fingerprint [1])),
    (.rejected, conflictSource commandId.expose (fingerprint [2]))] := by decide +kernel

def malformedEvents (payload : Bytes) : List Event :=
  [(.ack, commandId.expose), (.report, commandId.expose),
    (.rejected, conflictSource commandId.expose (fingerprint payload))]

theorem malformed_events (payload : Bytes) (time : ℕ) :
    Action.events (.call (malformed payload time) clean) = malformedEvents payload := rfl

theorem start_events : start.events = [] := rfl

theorem confirm_events (event : String) : Action.events (.call (.confirmOutbound event) clean) = [] := rfl

/-- The second payload comes, the two rejections are confirmed, and it comes again. -/
def conflicting : List Action :=
  [start, .call (malformed [1] now) clean] ++ [.call (malformed [2] now) clean]

def firstConfirmed : List Action := conflicting ++ [.call (.confirmOutbound rejectionEntry.eventId) clean]

def bothConfirmed : List Action := firstConfirmed ++ [.call (.confirmOutbound (conflictEntry 2 now).eventId) clean]

def repeated : List Action := bothConfirmed ++ [.call (malformed [2] (now + 1)) clean]

theorem run_conflicting : (Device.fresh.run Fixture.pki conflicting).agent =
    some ⟨noted 2 [rejectionEntry, conflictEntry 2 now], retention⟩ := by
  rw [conflicting, Device.run_concat]
  refine step_conflict (sound_run ..) run_once (by decide) (by decide) (by decide) ?_
  intro o ho he
  rw [List.mem_singleton] at ho
  subst ho
  cases eventId_kind he

theorem run_firstConfirmed : (Device.fresh.run Fixture.pki firstConfirmed).agent =
    some ⟨noted 2 [conflictEntry 2 now], retention⟩ := by
  rw [firstConfirmed, Device.run_concat]
  exact step_confirm (sound_run ..) run_conflicting rfl

theorem run_bothConfirmed : (Device.fresh.run Fixture.pki bothConfirmed).agent = some ⟨noted 2 [], retention⟩ := by
  rw [bothConfirmed, Device.run_concat]
  exact step_confirm (sound_run ..) run_firstConfirmed rfl

theorem run_repeated : (Device.fresh.run Fixture.pki repeated).agent =
    some ⟨noted 3 [conflictEntry 3 (now + 1)], retention⟩ := by
  rw [repeated, Device.run_concat]
  exact step_conflict (sound_run ..) run_bothConfirmed (by decide) (by decide) (by decide) fun o ho => (by cases ho)

section Retained

variable {actions : List Action}

theorem retained_once : RetainedRun Fixture.pki [start, .call (malformed [1] now) clean] := by
  refine atEvery_cons.2 ⟨fun call faults a d h => (by cases h), atEvery_cons.2 ⟨?_, atEvery_nil⟩⟩
  intro call faults a d h ha hd k hk
  obtain rfl := Option.some.inj (run_start.symm.trans ha)
  cases hk

theorem retained_confirm (h : RetainedRun Fixture.pki actions) (event : String) :
    RetainedRun Fixture.pki (actions ++ [.call (.confirmOutbound event) clean]) := by
  refine atEvery_concat.2 ⟨h, ?_⟩
  intro call faults a d he ha hd
  cases he
  cases hd

theorem retained_malformed (h : RetainedRun Fixture.pki actions) {sequence time : ℕ} {outbox : List StoredOutbound}
    (hrun : (Device.fresh.run Fixture.pki actions).agent = some ⟨noted sequence outbox, retention⟩)
    (htime : time < now + 300) (payload : Bytes) :
    RetainedRun Fixture.pki (actions ++ [.call (malformed payload time) clean]) := by
  refine atEvery_concat.2 ⟨h, ?_⟩
  intro call faults a d he ha hd k hk
  obtain rfl := Option.some.inj (hrun.symm.trans ha)
  cases he
  cases hd
  rw [noted_journal, List.mem_singleton] at hk
  subst hk
  exact htime

end Retained

/-- Once is not repeated. -/
theorem unrepeated_conflicting : UnrepeatedRun Fixture.pki conflicting := by
  refine atEvery_concat.2 ⟨atEvery_cons.2 ⟨fun call faults a d h => (by cases h), atEvery_cons.2 ⟨?_, atEvery_nil⟩⟩, ?_⟩
  · intro call faults a d h ha hd hm
    obtain rfl := Option.some.inj (run_start.symm.trans ha)
    cases hm
  · intro call faults a d h ha hd hm p s hp hs hold
    cases h
    cases hd
    -- before it came, no document had an entry of that kind
    have hno : ∀ o ∈ s.outbox, o.eventId ≠ eventId .rejected (conflictSource commandId.expose (fingerprint [2])) := by
      rcases p with _ | ⟨x, _ | ⟨y, p⟩⟩
      · cases hs
      · obtain ⟨rfl, -⟩ := List.cons_prefix_cons.1 hp
        obtain rfl := Option.some.inj ((standing_agent run_start).symm.trans hs)
        intro o ho
        cases ho
      · obtain ⟨rfl, htail⟩ := List.cons_prefix_cons.1 hp
        obtain ⟨rfl, hnil⟩ := List.cons_prefix_cons.1 htail
        obtain rfl := List.prefix_nil.1 hnil
        obtain rfl := Option.some.inj ((standing_agent run_once).symm.trans hs)
        intro o ho he
        cases List.mem_singleton.1 ho
        cases eventId_kind he
    exact absurd hold (Bool.not_eq_true _ ▸ hasConflictingReplay_eq_false.2 hno)

end Fixture

open Fixture in
/-- The rejection of the first payload says the same before and after the second payload. -/
theorem stable_identity_conflicting : ∃ a b f g,
    (Device.fresh.run Fixture.pki [start, .call (malformed [1] now) clean]).agent = some a ∧
    (Device.fresh.run Fixture.pki conflicting).agent = some b ∧ a.state.nextOutbound = some f ∧
    b.state.nextOutbound = some g ∧ f.eventId = g.eventId ∧ f = g := by
  refine ⟨_, _, rejectionEntry.fact, rejectionEntry.fact, run_once, run_conflicting, rfl, rfl, rfl, ?_⟩
  refine stable_identity Fixture.pki (retained_malformed retained_once run_once (by decide) _) ?_ unrepeated_conflicting
    (List.prefix_append _ _) List.prefix_rfl run_once run_conflicting rfl rfl rfl
  refine events_distinct.mono ?_
  intro e he
  simp only [List.flatMap_append, List.flatMap_cons, List.flatMap_nil, start_events, malformed_events, malformedEvents,
    List.mem_append, List.mem_cons, List.not_mem_nil, or_false, false_or] at he ⊢
  tauto

open Fixture in
/-- The rejection of a conflicting payload has been confirmed; when the payload comes again it is rejected under the
same name with another sequence number and another time. -/
theorem identity_reissued : RetainedRun Fixture.pki repeated ∧ EventsDistinct (repeated.flatMap Action.events) ∧
    firstConfirmed <+: repeated ∧
    ∃ a b f g, (Device.fresh.run Fixture.pki firstConfirmed).agent = some a ∧
      (Device.fresh.run Fixture.pki repeated).agent = some b ∧ a.state.nextOutbound = some f ∧
      b.state.nextOutbound = some g ∧ f.eventId = g.eventId ∧ f ≠ g := by
  refine ⟨?_, ?_, ?_, _, _, (conflictEntry 2 now).fact, (conflictEntry 3 (now + 1)).fact, run_firstConfirmed, run_repeated,
    rfl, rfl, rfl, ?_⟩
  · exact retained_malformed (retained_confirm (retained_confirm (retained_malformed retained_once run_once (by decide) _) _) _)
      run_bothConfirmed (by decide) _
  · refine events_distinct.mono ?_
    intro e he
    simp only [repeated, bothConfirmed, firstConfirmed, conflicting, List.flatMap_append, List.flatMap_cons, List.flatMap_nil,
      start_events, malformed_events, confirm_events, malformedEvents, List.mem_append, List.mem_cons, List.not_mem_nil,
      or_false, false_or] at he ⊢
    tauto
  · exact (List.prefix_append _ _).trans (List.prefix_append _ _)
  · intro he
    have hseq : (conflictEntry 2 now).sequence = (conflictEntry 3 (now + 1)).sequence := by
      rw [← StoredOutbound.fact_deviceSequence, he, StoredOutbound.fact_deviceSequence]
    cases hseq

end RssIncubator.Agent
