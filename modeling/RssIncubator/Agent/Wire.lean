import RssIncubator.Agent.Identity
import RssIncubator.Agent.Outbox

/-!
# The order of facts on the wire

Sequence numbers are given out when a fact is queued, and a session publishes what `nextOutbound` yields.  The
queue is in order, and what is published for the first time is in order too, but for one thing: a report that is
withheld is passed over, and what was queued behind it goes out first, with larger numbers.  As long as that does not
happen the numbers on the wire increase.
-/

namespace RssIncubator.Agent

open Lib StateV1

/-! ### Sessions -/

/-- A device, the fact it is publishing, and the facts confirmed so far, each when it was confirmed first. -/
structure Session where
  device : Device
  taken : Option OutboundFact
  confirmed : List OutboundFact

inductive Move where
  | act (action : Action)
  | take
  | confirm (faults : Faults)

/-- A fact counts when it is confirmed for the first time. -/
def record (confirmed : List OutboundFact) (f : OutboundFact) : List OutboundFact :=
  if f.eventId ∈ confirmed.map OutboundFact.eventId then confirmed else confirmed ++ [f]

namespace Session

def fresh : Session := ⟨Device.fresh, none, []⟩

/-- One move.  A confirmation is for the fact that was taken, and counts when that has left the outbox on disk. -/
def step (pki : Pki) (x : Session) : Move → Session
  | .act action => { x with device := (x.device.step pki action).2 }
  | .take =>
    match x.device.agent with
    | none => x
    | some a => { x with taken := a.state.nextOutbound }
  | .confirm faults =>
    match x.taken, x.device.agent with
    | some f, some _ =>
      let d := (x.device.step pki (.call (.confirmOutbound f.eventId) faults)).2
      if (manifest d.tree).any fun s => s.outbox.any fun o => o.eventId = f.eventId then { x with device := d }
      else ⟨d, none, record x.confirmed f⟩
    | _, _ => x

def run (pki : Pki) (x : Session) : List Move → Session
  | [] => x
  | move :: moves => run pki (x.step pki move) moves

theorem run_append (pki : Pki) (x : Session) (l l' : List Move) :
    x.run pki (l ++ l') = (x.run pki l).run pki l' := by
  induction l generalizing x with
  | nil => rfl
  | cons move l ih => exact ih _

theorem run_concat (pki : Pki) (x : Session) (l : List Move) (move : Move) :
    x.run pki (l ++ [move]) = (x.run pki l).step pki move := run_append ..

end Session

/-! ### Order -/

/-- A report that may not be published yet. -/
def StateV1.Withheld (s : StateV1) (o : StoredOutbound) : Prop :=
  o.reportPayload.isSome = true ∧ ¬ (o.isReportReady = true ∧ s.pendingSettled = true)

/-- The facts of the outbox that have not been confirmed yet. -/
def StateV1.unheard (s : StateV1) (confirmed : List OutboundFact) : List OutboundFact :=
  s.facts.filter fun f => f.eventId ∉ confirmed.map OutboundFact.eventId

/-- What is confirmed is in order, and so is what is still to be confirmed for the first time. -/
structure InOrder (s : StateV1) (taken : Option OutboundFact) (confirmed : List OutboundFact) : Prop where
  increasing : (confirmed.map OutboundFact.deviceSequence).Pairwise (· < ·)
  bounded : ∀ f ∈ confirmed, f.deviceSequence ≤ s.deviceSequence
  queue : (s.unheard confirmed).Pairwise fun f g => f.deviceSequence < g.deviceSequence
  later : ∀ f ∈ confirmed, ∀ g ∈ s.unheard confirmed, f.deviceSequence < g.deviceSequence
  /-- The acknowledgement of a journalled command has been confirmed or is outstanding. -/
  journal : ∀ k ∈ s.commandJournal, eventId .ack k.commandId ∈ confirmed.map OutboundFact.eventId ∨
    ∃ o ∈ s.outbox, o.eventId = eventId .ack k.commandId ∧ ∃ a ∈ o.ackPayload, a.commandId = k.commandId
  /-- What is published for the first time is the first of the queue that is. -/
  head : ∀ f ∈ taken, f.eventId ∉ confirmed.map OutboundFact.eventId → (s.unheard confirmed).head? = some f

section Order

variable {s c : StateV1} {taken : Option OutboundFact} {confirmed : List OutboundFact}

theorem StateV1.mem_unheard {f : OutboundFact} :
    f ∈ s.unheard confirmed ↔ f ∈ s.facts ∧ f.eventId ∉ confirmed.map OutboundFact.eventId := by
  unfold StateV1.unheard
  rw [List.mem_filter, decide_eq_true_eq]

theorem StateV1.Consistent.facts_le (h : s.Consistent) {f : OutboundFact} (hf : f ∈ s.facts) :
    f.deviceSequence ≤ s.deviceSequence := by
  obtain ⟨o, ho, rfl⟩ := List.mem_map.1 hf
  rw [StoredOutbound.fact_deviceSequence]
  exact (h.entries o ho).sequence_le

theorem InOrder.idle (h : InOrder s taken confirmed) : InOrder s none confirmed :=
  ⟨h.increasing, h.bounded, h.queue, h.later, h.journal, fun f hf => (by cases hf)⟩

/-- Facts are queued behind the others, with new numbers unless they repeat a confirmed one. -/
theorem InOrder.grow (h : InOrder s taken confirmed) (hs : s.Consistent) {new : List OutboundFact}
    (hfacts : c.facts = s.facts ++ new) (hseq : s.deviceSequence ≤ c.deviceSequence)
    (hnew : ∀ f ∈ new, f.eventId ∈ confirmed.map OutboundFact.eventId ∨ s.deviceSequence < f.deviceSequence)
    (hpair : new.Pairwise fun f g => f.deviceSequence < g.deviceSequence)
    (hjournal : ∀ k ∈ c.commandJournal, k ∈ s.commandJournal ∨
      ∃ o ∈ c.outbox, o.eventId = eventId .ack k.commandId ∧ ∃ a ∈ o.ackPayload, a.commandId = k.commandId)
    (hold : ∀ o ∈ s.outbox, ∀ a ∈ o.ackPayload, o ∈ c.outbox) : InOrder c taken confirmed := by
  have hunheard : c.unheard confirmed = s.unheard confirmed ++
      new.filter fun f => f.eventId ∉ confirmed.map OutboundFact.eventId := by
    unfold StateV1.unheard
    rw [hfacts, List.filter_append]
  have hlast : ∀ g ∈ new.filter fun f => f.eventId ∉ confirmed.map OutboundFact.eventId,
      s.deviceSequence < g.deviceSequence := by
    intro g hg
    rw [List.mem_filter, decide_eq_true_eq] at hg
    exact (hnew g hg.1).resolve_left hg.2
  refine ⟨h.increasing, fun f hf => (h.bounded f hf).trans hseq, ?_, ?_, ?_, ?_⟩
  · rw [hunheard, List.pairwise_append]
    refine ⟨h.queue, hpair.filter _, ?_⟩
    intro f hf g hg
    exact (hs.facts_le (mem_unheard.1 hf).1).trans_lt (hlast g hg)
  · intro f hf g hg
    rw [hunheard, List.mem_append] at hg
    rcases hg with hg | hg
    · exact h.later f hf g hg
    · exact (h.bounded f hf).trans_lt (hlast g hg)
  · intro k hk
    rcases hjournal k hk with hk | hk
    · rcases h.journal k hk with hk | ⟨o, ho, he, a, ha, hid⟩
      · exact .inl hk
      · exact .inr ⟨o, hold o ho a ha, he, a, ha, hid⟩
    · exact .inr hk
  · intro f hf hfk
    rw [hunheard, List.head?_append, h.head f hf hfk]
    rfl

/-- A step that leaves the facts and the journal as they are. -/
theorem InOrder.keep (h : InOrder s taken confirmed) (hs : s.Consistent) (hfacts : c.facts = s.facts)
    (hseq : c.deviceSequence = s.deviceSequence) (hjournal : c.commandJournal = s.commandJournal)
    (hold : ∀ o ∈ s.outbox, ∀ a ∈ o.ackPayload, o ∈ c.outbox) : InOrder c taken confirmed := by
  refine h.grow hs (hfacts.trans (List.append_nil _).symm) hseq.ge (by simp) List.Pairwise.nil ?_ hold
  intro k hk
  exact .inl (hjournal ▸ hk)

variable {pki : Pki} {retention : NonZeroU32} {call : Call} {reply : Reply}

/-- **An operation of the agent that confirms nothing keeps the order.** -/
theorem Commits.inOrder (h : Commits pki retention call s c reply) (hs : s.Coherent) (ho : InOrder s taken confirmed)
    (hseq : s.deviceSequence < u64Max - 1) (hcall : ∀ event, call ≠ .confirmOutbound event) :
    InOrder c taken confirmed := by
  obtain ⟨dec, hp, hc, -⟩ := h
  have hnext : saturatingAdd s.deviceSequence 1 = s.deviceSequence + 1 := saturatingAdd_one_of_lt (by omega)
  cases plan_cases hs.consistent hp with
  | duplicate hdel hm hack => cases hc
  | conflicting hdel hm hknown => cases hc
  | replay hdel hm hack hroom hfind =>
    rename_i d k
    cases hc
    have hmem := List.mem_of_find?_eq_some hfind
    have hid : k.commandId = d.commandId := (by simpa using List.find?_some hfind : _ ∧ _).1
    refine ho.grow hs.consistent (facts_replayed ..) le_rfl ?_ (List.pairwise_singleton ..) (fun k hk => .inl hk)
      fun o ho a ha => List.mem_append_left _ ho
    intro f hf
    rw [List.mem_singleton] at hf
    subst hf
    refine .inl ((ho.journal k hmem).resolve_right ?_)
    -- a replay is queued when no acknowledgement of the command is outstanding
    rintro ⟨o, ho, -, a, ha, hak⟩
    exact hasCommandAck_eq_false.1 hack o ho a ha (hak.trans hid)
  | conflict hdel hm hknown hroom hgen hfence =>
    cases hc
    refine ho.grow hs.consistent (facts_rejectConflictingReplay ..) ?_ ?_ (List.pairwise_singleton ..)
      (fun k hk => .inl hk) fun o ho a ha => List.mem_append_left _ ho
    · exact (Nat.le_succ _).trans hnext.ge
    · intro f hf
      rw [List.mem_singleton] at hf
      subst hf
      exact .inr ((Nat.lt_succ_self _).trans_le hnext.ge)
  | reject hdel hm hgen hfence hexpiry hroom hjournal =>
    cases hc
    refine ho.grow hs.consistent (facts_reject ..) ?_ ?_ (List.pairwise_singleton ..) ?_
      fun o ho a ha => List.mem_append_left _ ho
    · exact (Nat.le_succ _).trans hnext.ge
    · intro f hf
      rw [List.mem_singleton] at hf
      subst hf
      exact .inr ((Nat.lt_succ_self _).trans_le hnext.ge)
    · intro k hk
      rcases List.mem_append.1 hk with hk | hk
      · exact .inl (mem_expire.1 hk).1
      · rw [List.mem_singleton] at hk
        subst hk
        exact .inr ⟨_, List.mem_append_right _ List.mem_cons_self, rfl, _, rfl, rfl⟩
  | accept hm hflight hid htopic hdevice hdeadline hres hfence hgen hcred hroom hjournal hrev =>
    cases hc
    have hlast : saturatingAdd (saturatingAdd s.deviceSequence 1) 1 = s.deviceSequence + 2 := by
      rw [hnext, saturatingAdd_one_of_lt (by omega)]
    refine ho.grow hs.consistent (facts_accepted ..) ?_ ?_ ?_ ?_ fun o ho a ha => List.mem_append_left _ ho
    · exact (Nat.le_add_right _ 2).trans hlast.ge
    · intro f hf
      rcases List.mem_pair.1 hf with rfl | rfl
      · exact .inr ((Nat.lt_succ_self _).trans_le hnext.ge)
      · exact .inr ((Nat.lt_add_of_pos_right (by decide)).trans_le hlast.ge)
    · refine List.pairwise_pair.2 ?_
      show saturatingAdd s.deviceSequence 1 < saturatingAdd (saturatingAdd s.deviceSequence 1) 1
      omega
    · intro k hk
      rcases List.mem_append.1 hk with hk | hk
      · exact .inl (mem_expire.1 hk).1
      · rw [List.mem_singleton] at hk
        subst hk
        exact .inr ⟨_, List.mem_append_right _ List.mem_cons_self, rfl, _, rfl, rfl⟩
  | confirm hconf => exact absurd rfl (hcall _)
  | reconnect hrec =>
    cases hc
    obtain ⟨-, rfl⟩ := markReconnected_eq_some.1 hrec
    refine ho.keep hs.consistent s.facts_unblocked rfl rfl ?_
    intro o ho a ha
    obtain ⟨e, rfl⟩ := StoredOutbound.mem_ackPayload.1 ha
    exact List.mem_map_of_mem (f := unblock) ho
  | settled hset =>
    cases hc
    obtain ⟨p, -, -, rfl⟩ := markInboundSettled_eq_some hset
    exact ho.keep hs.consistent rfl rfl rfl fun o ho a ha => ho
  | absent hset =>
    cases hc
    obtain ⟨p, -, -, rfl⟩ := markInboundSettled_eq_some hset
    exact ho.keep hs.consistent rfl rfl rfl fun o ho a ha => ho

/-- What is left of the journal's outstanding acknowledgements when an entry is confirmed. -/
theorem InOrder.journal_confirmed (h : InOrder s taken confirmed) {event : String}
    (hconf : s.confirmOutbound event = some c) (hk : event ∈ confirmed.map OutboundFact.eventId) :
    ∀ k ∈ c.commandJournal, eventId .ack k.commandId ∈ confirmed.map OutboundFact.eventId ∨
      ∃ o ∈ c.outbox, o.eventId = eventId .ack k.commandId ∧ ∃ a ∈ o.ackPayload, a.commandId = k.commandId := by
  obtain ⟨entry, -, rfl, -, rfl⟩ := confirmOutbound_eq_some hconf
  intro k hmem
  rcases h.journal k hmem with hc | ⟨o, ho, he, a, ha, hid⟩
  · exact .inl hc
  · by_cases hoe : o.eventId = entry.eventId
    · exact .inl (he ▸ hoe ▸ hk)
    · exact .inr ⟨o, (List.mem_eraseP_of_neg (by simpa using hoe)).2 ho, he, a, ha, hid⟩

/-- An entry that has been confirmed may leave. -/
theorem InOrder.confirm (h : InOrder s taken confirmed) (hs : s.Consistent) {event : String}
    (hconf : s.confirmOutbound event = some c) (hk : event ∈ confirmed.map OutboundFact.eventId) :
    c.unheard confirmed = s.unheard confirmed ∧ InOrder c none confirmed := by
  have hsame : c.unheard confirmed = s.unheard confirmed := by
    obtain ⟨entry, hmem, rfl, -, rfl⟩ := confirmOutbound_eq_some hconf
    obtain ⟨before, after, hsplit, herase⟩ := hs.confirmed_outbox hmem
    unfold StateV1.unheard StateV1.facts
    rw [hsplit, herase, List.map_append, List.map_append, List.map_cons, List.filter_append, List.filter_append,
      List.filter_cons_of_neg]
    rw [decide_eq_true_eq, not_not, StoredOutbound.fact_eventId]
    exact hk
  have hseq : c.deviceSequence = s.deviceSequence := by
    obtain ⟨entry, -, -, -, rfl⟩ := confirmOutbound_eq_some hconf
    rfl
  refine ⟨hsame, h.increasing, ?_, ?_, ?_, h.journal_confirmed hconf hk, fun f hf => (by cases hf)⟩
  · rw [hseq]
    exact h.bounded
  · rw [hsame]
    exact h.queue
  · rw [hsame]
    exact h.later

/-- The fact that was taken is confirmed for the first time. -/
theorem InOrder.record {f : OutboundFact} (h : InOrder s (some f) confirmed) (hs : s.Consistent) :
    InOrder s none (record confirmed f) := by
  unfold Agent.record
  split
  · exact h.idle
  · rename_i hk
    have hhead := h.head f rfl hk
    obtain ⟨rest, hrest⟩ : ∃ rest, s.unheard confirmed = f :: rest := by
      rcases hl : s.unheard confirmed with _ | ⟨g, rest⟩ <;> rw [hl] at hhead
      · cases hhead
      · cases hhead
        exact ⟨rest, rfl⟩
    have hmem : f ∈ s.unheard confirmed := by
      rw [hrest]
      exact List.mem_cons_self
    have hqueue := h.queue
    rw [hrest, List.pairwise_cons] at hqueue
    -- what is still unheard was so before, and is not the fact itself
    have hless : ∀ {g}, g ∈ s.unheard (confirmed ++ [f]) → g ∈ s.unheard confirmed ∧ g ∈ rest := by
      intro g hg
      rw [mem_unheard, List.map_append, List.mem_append, not_or] at hg
      have hold : g ∈ s.unheard confirmed := mem_unheard.2 ⟨hg.1, hg.2.1⟩
      refine ⟨hold, ?_⟩
      rw [hrest, List.mem_cons] at hold
      refine hold.resolve_left ?_
      rintro rfl
      exact hg.2.2 (List.mem_singleton.2 rfl)
    have hsub : (s.unheard (confirmed ++ [f])).Sublist (s.unheard confirmed) := by
      refine List.monotone_filter_right _ ?_
      intro g hg
      rw [decide_eq_true_eq, List.map_append, List.mem_append, not_or] at hg
      rw [decide_eq_true_eq]
      exact hg.1
    refine ⟨?_, ?_, h.queue.sublist hsub, ?_, ?_, fun g hg => (by cases hg)⟩
    · rw [List.map_append, List.pairwise_append]
      refine ⟨h.increasing, List.pairwise_singleton .., ?_⟩
      intro n hn m hm
      obtain ⟨g, hg, rfl⟩ := List.mem_map.1 hn
      rw [List.map_singleton, List.mem_singleton] at hm
      subst hm
      exact h.later g hg f hmem
    · intro g hg
      rw [List.mem_append, List.mem_singleton] at hg
      rcases hg with hg | hg
      · exact h.bounded g hg
      · rw [hg]
        exact hs.facts_le (mem_unheard.1 hmem).1
    · intro g hg g' hg'
      rw [List.mem_append, List.mem_singleton] at hg
      rcases hg with hg | hg
      · exact h.later g hg g' (hless hg').1
      · rw [hg]
        exact hqueue.1 g' (hless hg').2
    · intro k hmem
      rw [List.map_append, List.mem_append]
      exact (h.journal k hmem).imp .inl id

/-- What is taken is the first of the queue, unless a withheld report stands before it. -/
theorem InOrder.take (h : InOrder s taken confirmed) (hs : s.Consistent)
    (hkeeps : ∀ o o' rest, s.outbox = o :: o' :: rest → s.Withheld o →
      o.eventId ∈ confirmed.map OutboundFact.eventId ∨ o'.eventId ∈ confirmed.map OutboundFact.eventId) :
    InOrder s s.nextOutbound confirmed := by
  refine ⟨h.increasing, h.bounded, h.queue, h.later, h.journal, ?_⟩
  intro f hf hfk
  obtain ⟨before, o, after, hsplit, ho, hbefore⟩ := List.findSome?_eq_some_iff.1 hf
  have hof : o.fact = f := by
    split at ho
    · cases ho
    · exact StoredOutbound.fact_of_ready ho
  -- what `nextOutbound` passes over is a withheld report, and there is only one
  have hheld : ∀ r ∈ before, s.Withheld r := by
    intro r hr
    have hnone := hbefore r hr
    split at hnone
    · rename_i hready
      refine ⟨?_, fun hr => hready.2 hr.2⟩
      cases r with
      | ack e a => cases hready.1
      | reportBlocked e r => rfl
      | reportReady e r => rfl
    · cases r with
      | ack e a => cases hnone
      | reportBlocked e r => exact ⟨rfl, fun hr => (by cases hr.1)⟩
      | reportReady e r => cases hnone
  have hone : (before.countP fun entry => entry.reportPayload.isSome) ≤ 1 := by
    refine le_trans ?_ hs.reports_le
    unfold StateV1.reports
    rw [hsplit, List.countP_append]
    omega
  rw [List.countP_eq_length.2 fun r hr => (hheld r hr).1] at hone
  have hknown : ∀ r ∈ before, r.eventId ∈ confirmed.map OutboundFact.eventId := by
    intro r hr
    rcases before with _ | ⟨r', _ | ⟨r'', before⟩⟩
    · cases hr
    · rw [List.mem_singleton] at hr
      rw [← hof, StoredOutbound.fact_eventId] at hfk
      rw [hr]
      exact (hkeeps r' o after hsplit (hheld r' List.mem_cons_self)).resolve_right hfk
    · simp at hone
  have hskip : (before.map StoredOutbound.fact).filter
      (fun f => f.eventId ∉ confirmed.map OutboundFact.eventId) = [] := by
    rw [List.filter_eq_nil_iff]
    intro g hg
    obtain ⟨r, hr, rfl⟩ := List.mem_map.1 hg
    rw [decide_eq_true_eq, not_not, StoredOutbound.fact_eventId]
    exact hknown r hr
  unfold StateV1.unheard StateV1.facts
  rw [hsplit, List.map_append, List.map_cons, List.filter_append, hskip, hof, List.filter_cons_of_pos]
  · rfl
  · rw [decide_eq_true_eq]
    exact hfk

/-- An operation that confirms nothing leaves what was unheard, and may add to it. -/
theorem Commits.unheard_prefix (h : Commits pki retention call s c reply) (hs : s.Coherent)
    (hcall : ∀ event, call ≠ .confirmOutbound event) (hseq : s.deviceSequence < u64Max - 1) :
    s.unheard confirmed <+: c.unheard confirmed := by
  obtain ⟨new, hout, -⟩ := h.extends hs hcall hseq
  have hfacts : s.facts <+: c.facts := by
    unfold StateV1.facts
    rcases hout with hout | ⟨rfl, hout⟩ <;> rw [hout]
    · rw [List.map_append]
      exact List.prefix_append _ _
    · rw [s.facts_unblocked]
      exact List.prefix_rfl
  exact hfacts.filter _

end Order

/-! ### Runs -/

section Runs

variable {pki : Pki} {x : Session}

/-- Memory and disk are in order.  What has not been heard of the state in memory is on disk too. -/
structure Session.Ordered (pki : Pki) (x : Session) : Prop where
  sound : Sound pki x.device
  copies : ∀ s, x.device.standing = some s ∨ manifest x.device.tree = some s → InOrder s x.taken x.confirmed
  ahead : ∀ s m, x.device.standing = some s → manifest x.device.tree = some m →
    s.unheard x.confirmed <+: m.unheard x.confirmed
  unborn : manifest x.device.tree = none → x.taken = none ∧ x.confirmed = []

/-- A move of a session: facts are confirmed through the session, and the sequence numbers do not run out. -/
structure Publishes (x : Session) (move : Move) : Prop where
  act : ∀ event faults, move ≠ .act (.call (.confirmOutbound event) faults)
  sequence : ∀ s, x.device.standing = some s → s.deviceSequence < 2 ^ 64 - 2

/-- No fact is taken that has not been confirmed before, past a withheld report that has not been either. -/
def KeepsOrder (x : Session) (move : Move) : Prop :=
  move = .take → ∀ s o o' rest, x.device.standing = some s → s.outbox = o :: o' :: rest → s.Withheld o →
    o.eventId ∈ x.confirmed.map OutboundFact.eventId ∨ o'.eventId ∈ x.confirmed.map OutboundFact.eventId

/-- What one action does to a session, its taken fact and its history apart. -/
theorem Session.Ordered.copied (h : x.Ordered pki) {action : Action} (hseq : ∀ s, x.device.standing = some s →
      s.deviceSequence < 2 ^ 64 - 2) (hact : ∀ event faults, action ≠ .call (.confirmOutbound event) faults)
    {next disk : Option StateV1} (hc : Copied pki x.device action next disk) :
    (∀ s, next = some s ∨ disk = some s → InOrder s x.taken x.confirmed) ∧
    (∀ s m, next = some s → disk = some m → s.unheard x.confirmed <+: m.unheard x.confirmed) ∧
    (disk = none → x.taken = none ∧ x.confirmed = []) := by
  have hcommits : ∀ {a : Running} {call faults c reply}, x.device.agent = some a → action = .call call faults →
      Commits pki a.retention call a.state c reply →
      InOrder c x.taken x.confirmed ∧ a.state.unheard x.confirmed <+: c.unheard x.confirmed := by
    intro a call faults c reply ha haction hc
    have hcoh := (h.sound.memory a ha).1.coherent
    have hlt := hseq _ (standing_agent ha)
    have hne : ∀ event, call ≠ .confirmOutbound event := by
      rintro event rfl
      exact hact event faults haction
    exact ⟨hc.inOrder hcoh (h.copies _ (.inl (standing_agent ha))) hlt hne, hc.unheard_prefix hcoh hne hlt⟩
  have hequal : ∀ {t : Option StateV1}, (∀ s, t = some s → InOrder s x.taken x.confirmed) →
      (∀ s, t = some s ∨ t = some s → InOrder s x.taken x.confirmed) ∧
      ∀ s m, t = some s → t = some m → s.unheard x.confirmed <+: m.unheard x.confirmed := by
    intro t ht
    refine ⟨fun s hs => ht s (hs.elim id id), ?_⟩
    intro s m hs hm
    obtain rfl := Option.some.inj (hs.symm.trans hm)
    exact List.prefix_rfl
  cases hc with
  | same => exact ⟨h.copies, h.ahead, h.unborn⟩
  | dropped =>
    obtain ⟨h1, h2⟩ := hequal fun s hs => h.copies s (.inr hs)
    exact ⟨h1, h2, h.unborn⟩
  | first hnone hb =>
    obtain ⟨htaken, hconf⟩ := h.unborn hnone
    rw [htaken, hconf]
    rw [htaken, hconf] at hequal
    obtain ⟨h1, h2⟩ := hequal (t := some (firstState ..)) fun s hs => (by
      cases hs
      exact ⟨.nil, by simp, .nil, by simp, fun k hk => (by cases hk), fun f hf => (by cases hf)⟩)
    exact ⟨h1, h2, fun hm => (by cases hm)⟩
  | commits ha haction hc =>
    obtain ⟨h1, h2⟩ := hequal (t := some _) fun s hs => (by cases hs; exact (hcommits ha haction hc).1)
    exact ⟨h1, h2, fun hm => (by cases hm)⟩
  | unsynced ha haction hc hfail =>
    obtain ⟨horder, hprefix⟩ := hcommits ha haction hc
    refine ⟨?_, ?_, fun hm => (by cases hm)⟩
    · rintro s (hs | hs)
      · cases hs
        exact h.copies _ (.inl (standing_agent ha))
      · cases hs
        exact horder
    · intro s m hs hm
      cases hs
      cases hm
      exact hprefix

theorem Session.Ordered.act (h : x.Ordered pki) {action : Action} (hp : Publishes x (.act action)) :
    (x.step pki (.act action)).Ordered pki := by
  obtain ⟨h1, h2, h3⟩ := h.copied hp.sequence (fun event faults he => hp.act event faults (congrArg Move.act he))
    (h.sound.copied action)
  exact ⟨h.sound.step action, h1, h2, h3⟩

theorem Session.Ordered.take (h : x.Ordered pki) (hk : KeepsOrder x .take) : (x.step pki .take).Ordered pki := by
  unfold Session.step
  rcases ha : x.device.agent with _ | a
  · exact h
  · dsimp only
    have hstand := standing_agent ha
    have hcoh := (h.sound.memory a ha).1.coherent
    have horder := (h.copies _ (.inl hstand)).take hcoh.consistent fun o o' rest => hk rfl _ o o' rest hstand
    refine ⟨h.sound, ?_, h.ahead, ?_⟩
    · rintro s (hs | hs)
      · obtain rfl := Option.some.inj (hstand.symm.trans hs)
        exact horder
      · -- the head of what is unheard in memory is the head on disk
        have hdisk := h.copies s (.inr hs)
        refine ⟨hdisk.increasing, hdisk.bounded, hdisk.queue, hdisk.later, hdisk.journal, ?_⟩
        intro f hf hfk
        obtain ⟨rest, hrest⟩ := h.ahead _ s hstand hs
        rw [← hrest, List.head?_append, horder.head f hf hfk]
        rfl
    · intro hm
      obtain ⟨-, s, hs, -⟩ := h.sound.memory a ha
      rw [hm] at hs
      cases hs

/-- A confirmation whose fact has left the outbox on disk. -/
theorem Session.Ordered.confirmed (h : x.Ordered pki) {f : OutboundFact} (hf : x.taken = some f) {faults : Faults}
    {next disk : Option StateV1} (hc : Copied pki x.device (.call (.confirmOutbound f.eventId) faults) next disk)
    (hgone : ∀ m, disk = some m → ∀ o ∈ m.outbox, o.eventId ≠ f.eventId) {a : Running} (ha : x.device.agent = some a) :
    (∀ s, next = some s ∨ disk = some s → InOrder s none (record x.confirmed f)) ∧
    (∀ s m, next = some s → disk = some m →
      s.unheard (record x.confirmed f) <+: m.unheard (record x.confirmed f)) ∧ disk ≠ none := by
  have hcopy : ∀ s, x.device.standing = some s ∨ manifest x.device.tree = some s →
      InOrder s none (record x.confirmed f) := fun s hs =>
    (hf ▸ h.copies s hs).record (copy_coherent h.sound hs).consistent
  -- as long as the fact is new it is on disk, so it is an old one if it is not there
  have hknown : (∀ m, manifest x.device.tree = some m → ∀ o ∈ m.outbox, o.eventId ≠ f.eventId) →
      record x.confirmed f = x.confirmed := by
    intro hno
    obtain ⟨-, m, hm, -⟩ := h.sound.memory a ha
    refine if_pos ?_
    by_contra hk
    have hhead := (h.copies m (.inr hm)).head f (hf ▸ rfl) hk
    obtain ⟨hmem, -⟩ := mem_unheard.1 (List.mem_of_mem_head? (Option.mem_def.2 hhead))
    obtain ⟨o, ho, rfl⟩ := List.mem_map.1 hmem
    exact hno m hm o ho o.fact_eventId.symm
  have hborn : manifest x.device.tree ≠ none := by
    obtain ⟨-, m, hm, -⟩ := h.sound.memory a ha
    rw [hm]
    exact fun h => (by cases h)
  have hcommits : ∀ {c reply}, Commits pki a.retention (.confirmOutbound f.eventId) a.state c reply →
      c.unheard (record x.confirmed f) = a.state.unheard (record x.confirmed f) ∧ InOrder c none (record x.confirmed f) := by
    intro c reply hc
    have hcoh := (h.sound.memory a ha).1.coherent
    refine (hcopy _ (.inl (standing_agent ha))).confirm hcoh.consistent (hc.confirmed hcoh).1 ?_
    unfold record
    split
    · assumption
    · rw [List.map_append]
      exact List.mem_append_right _ (List.mem_singleton.2 rfl)
  cases hc with
  | same =>
    rw [hknown hgone]
    exact ⟨fun s hs => (h.copies s hs).idle, h.ahead, hborn⟩
  | dropped =>
    refine ⟨fun s hs => hcopy s (.inr (hs.elim id id)), ?_, hborn⟩
    intro s m hs hm
    obtain rfl := Option.some.inj (hs.symm.trans hm)
    exact List.prefix_rfl
  | first hnone hb => exact absurd hnone hborn
  | commits ha' haction hc =>
    cases haction
    obtain rfl := Option.some.inj (ha.symm.trans ha')
    obtain ⟨-, horder⟩ := hcommits hc
    refine ⟨fun s hs => ?_, fun s m hs hm => ?_, fun h => (by cases h)⟩
    · cases hs.elim id id
      exact horder
    · obtain rfl := Option.some.inj (hs.symm.trans hm)
      exact List.prefix_rfl
  | unsynced ha' haction hc hfail =>
    cases haction
    obtain rfl := Option.some.inj (ha.symm.trans ha')
    obtain ⟨hsame, horder⟩ := hcommits hc
    refine ⟨?_, ?_, fun h => (by cases h)⟩
    · rintro s (hs | hs)
      · cases hs
        exact hcopy _ (.inl (standing_agent ha))
      · cases hs
        exact horder
    · intro s m hs hm
      cases hs
      cases hm
      rw [hsame]

/-- A confirmation whose fact is still on disk has changed nothing. -/
theorem Session.Ordered.unconfirmed (h : x.Ordered pki) {f : OutboundFact} {faults : Faults}
    {next disk : Option StateV1} (hc : Copied pki x.device (.call (.confirmOutbound f.eventId) faults) next disk)
    {m : StateV1} (hm : disk = some m) {o : StoredOutbound} (ho : o ∈ m.outbox) (he : o.eventId = f.eventId)
    {a : Running} (ha : x.device.agent = some a) :
    disk = manifest x.device.tree ∧ (next = x.device.standing ∨ next = manifest x.device.tree) := by
  have hgone : ∀ {c reply}, Commits pki a.retention (.confirmOutbound f.eventId) a.state c reply → c ≠ m := by
    rintro c reply hc rfl
    have hcoh := (h.sound.memory a ha).1.coherent
    obtain ⟨-, o', before, after, he', hsplit, hrest⟩ := hc.confirmed hcoh
    have hnodup := hcoh.consistent.eventIds
    rw [hsplit, List.map_append, List.map_cons] at hnodup
    refine (List.nodup_middle.1 hnodup).notMem ?_
    rw [← List.map_append, ← hrest, he', ← he]
    exact List.mem_map_of_mem ho
  cases hc with
  | same => exact ⟨rfl, .inl rfl⟩
  | dropped => exact ⟨rfl, .inr rfl⟩
  | first hnone hb =>
    obtain ⟨-, m', hm', -⟩ := h.sound.memory a ha
    rw [hnone] at hm'
    cases hm'
  | commits ha' haction hc =>
    cases haction
    obtain rfl := Option.some.inj (ha.symm.trans ha')
    exact absurd (Option.some.inj hm) (hgone hc)
  | unsynced ha' haction hc hfail =>
    cases haction
    obtain rfl := Option.some.inj (ha.symm.trans ha')
    exact absurd (Option.some.inj hm) (hgone hc)

theorem Session.Ordered.confirm (h : x.Ordered pki) (faults : Faults) : (x.step pki (.confirm faults)).Ordered pki := by
  unfold Session.step
  rcases hf : x.taken with _ | f
  · exact h
  rcases ha : x.device.agent with _ | a
  · exact h
  dsimp only
  have hcopied := h.sound.copied (.call (.confirmOutbound f.eventId) faults)
  have hsound := h.sound.step (.call (.confirmOutbound f.eventId) faults)
  split
  · rename_i hany
    rw [Option.any_eq_true] at hany
    obtain ⟨m, hm, hany⟩ := hany
    rw [List.any_eq_true] at hany
    obtain ⟨o, ho, he⟩ := hany
    obtain ⟨hdisk, hnext⟩ := h.unconfirmed hcopied hm ho (by simpa using he) ha
    refine ⟨hsound, ?_, ?_, ?_⟩
    · dsimp only
      rw [← hf]
      rintro s (hs | hs)
      · rcases hnext with hnext | hnext
        · exact h.copies s (.inl (hnext ▸ hs))
        · exact h.copies s (.inr (hnext ▸ hs))
      · exact h.copies s (.inr (hdisk ▸ hs))
    · dsimp only
      intro s m' hs hm'
      rcases hnext with hnext | hnext
      · exact h.ahead s m' (hnext ▸ hs) (hdisk ▸ hm')
      · obtain rfl := Option.some.inj (hs.symm.trans (hnext.trans (hdisk.symm.trans hm')))
        exact List.prefix_rfl
    · dsimp only
      intro hnone
      rw [hm] at hnone
      cases hnone
  · rename_i hnone
    obtain ⟨h1, h2, h3⟩ := h.confirmed hf hcopied (fun m hm o ho he => hnone (by
      rw [hm]
      exact List.any_eq_true.2 ⟨o, ho, by simpa using he⟩)) ha
    exact ⟨hsound, h1, h2, fun hm => absurd hm h3⟩

/-- **One move keeps a session in order**, if it takes nothing past a withheld report. -/
theorem Session.Ordered.step (h : x.Ordered pki) {move : Move} (hp : Publishes x move) (hk : KeepsOrder x move) :
    (x.step pki move).Ordered pki := by
  cases move with
  | act action => exact h.act hp
  | take => exact h.take hk
  | confirm faults => exact h.confirm faults

theorem Session.ordered_fresh : Session.fresh.Ordered pki :=
  ⟨sound_fresh, fun s hs => (by rcases hs with hs | hs <;> cases hs), fun s m hs => (by cases hs), fun _ => ⟨rfl, rfl⟩⟩

theorem Session.ordered_run {moves : List Move}
    (hp : AtEvery (fun before move => Publishes (Session.fresh.run pki before) move) moves)
    (hk : AtEvery (fun before move => KeepsOrder (Session.fresh.run pki before) move) moves) :
    (Session.fresh.run pki moves).Ordered pki := by
  induction moves using List.reverseRecOn with
  | nil => exact Session.ordered_fresh
  | append_singleton moves move ih =>
    obtain ⟨hp, hpm⟩ := atEvery_concat.1 hp
    obtain ⟨hk, hkm⟩ := atEvery_concat.1 hk
    rw [Session.run_concat]
    exact (ih hp hk).step hpm hkm

end Runs

/-- **The sequence numbers on the wire increase**, over every run of a session that never publishes past a withheld
report. -/
theorem wire_order (pki : Pki) {moves : List Move}
    (hp : AtEvery (fun before move => Publishes (Session.fresh.run pki before) move) moves)
    (hk : AtEvery (fun before move => KeepsOrder (Session.fresh.run pki before) move) moves) :
    ((Session.fresh.run pki moves).confirmed.map OutboundFact.deviceSequence).Pairwise (· < ·) := by
  have h := Session.ordered_run hp hk
  rcases hm : manifest (Session.fresh.run pki moves).device.tree with _ | m
  · rw [(h.unborn hm).2]
    exact .nil
  · exact (h.copies m (.inr hm)).increasing

/-! ### A rotation on the wire -/

namespace Fixture

/-- Where a run without failures has come to. -/
structure Trace (moves : List Move) (s : StateV1) (taken : Option OutboundFact) (confirmed : List OutboundFact) : Prop where
  sound : Sound Fixture.pki (Session.fresh.run Fixture.pki moves).device
  agrees : (Session.fresh.run Fixture.pki moves).device.Agrees
  agent : (Session.fresh.run Fixture.pki moves).device.agent = some ⟨s, retention⟩
  taken : (Session.fresh.run Fixture.pki moves).taken = taken
  confirmed : (Session.fresh.run Fixture.pki moves).confirmed = confirmed
  publishes : AtEvery (fun before move => Publishes (Session.fresh.run Fixture.pki before) move) moves

section Trace

variable {moves : List Move} {s s' : StateV1} {taken : Option OutboundFact} {confirmed : List OutboundFact}

theorem Trace.publish (h : Trace moves s taken confirmed) (hseq : s.deviceSequence < 2 ^ 64 - 2) {move : Move}
    (hmove : ∀ event faults, move ≠ .act (.call (.confirmOutbound event) faults)) :
    AtEvery (fun before move => Publishes (Session.fresh.run Fixture.pki before) move) (moves ++ [move]) := by
  refine atEvery_concat.2 ⟨h.publishes, hmove, ?_⟩
  intro s'' hs''
  obtain rfl := Option.some.inj ((standing_agent h.agent).symm.trans hs'')
  exact hseq

theorem Trace.act (h : Trace moves s taken confirmed) (hseq : s.deviceSequence < 2 ^ 64 - 2) {call : Call}
    (hcall : ∀ event, call ≠ .confirmOutbound event)
    (hstep : ((Session.fresh.run Fixture.pki moves).device.step Fixture.pki (.call call clean)).2.agent =
      some ⟨s', retention⟩) : Trace (moves ++ [.act (.call call clean)]) s' taken confirmed := by
  have hrun := Session.run_concat Fixture.pki Session.fresh moves (.act (.call call clean))
  refine ⟨?_, ?_, ?_, ?_, ?_, h.publish hseq fun event faults he => ?_⟩
  · rw [hrun]
    exact h.sound.step _
  · rw [hrun]
    exact h.sound.agrees_step h.agrees _ fun _ _ he => (by cases he; exact synced_clean)
  · rw [hrun]
    exact hstep
  · rw [hrun]
    exact h.taken
  · rw [hrun]
    exact h.confirmed
  · cases he
    exact hcall event rfl

theorem Trace.take (h : Trace moves s taken confirmed) (hseq : s.deviceSequence < 2 ^ 64 - 2) :
    Trace (moves ++ [.take]) s s.nextOutbound confirmed := by
  have hrun := Session.run_concat Fixture.pki Session.fresh moves .take
  have hstep : (Session.fresh.run Fixture.pki moves).step Fixture.pki .take =
      { Session.fresh.run Fixture.pki moves with taken := s.nextOutbound } := by
    unfold Session.step
    rw [h.agent]
  rw [hstep] at hrun
  refine ⟨?_, ?_, ?_, ?_, ?_, h.publish hseq fun event faults he => (by cases he)⟩
  · rw [hrun]
    exact h.sound
  · rw [hrun]
    exact h.agrees
  · rw [hrun]
    exact h.agent
  · rw [hrun]
  · rw [hrun]
    exact h.confirmed

theorem Trace.confirm (entry : StoredOutbound) (h : Trace moves s (some entry.fact) confirmed)
    (hseq : s.deviceSequence < 2 ^ 64 - 2) (he : entry ∈ s.outbox) (hb : entry.blockedPayload = none)
    (hready : entry.isReportReady = true → s.pendingSettled = true)
    (hnew : entry.eventId ∉ confirmed.map OutboundFact.eventId) :
    Trace (moves ++ [.confirm clean]) (s.confirmed entry) none (confirmed ++ [entry.fact]) := by
  have hrun := Session.run_concat Fixture.pki Session.fresh moves (.confirm clean)
  have hagent := (h.sound.step_confirm h.agent (h.sound.expires positiveExpiry h.agent) he hb hready).2
  have hagrees := h.sound.agrees_step h.agrees (.call (.confirmOutbound entry.eventId) clean)
    fun _ _ he => (by cases he; exact synced_clean)
  have hgone : ∀ o ∈ (s.confirmed entry).outbox, o.eventId ≠ entry.eventId := by
    have hs := (h.sound.memory _ h.agent).1.coherent.consistent
    obtain ⟨before, after, hsplit, hrest⟩ := hs.confirmed_outbox he
    have hnodup := hs.eventIds
    rw [hsplit, List.map_append, List.map_cons] at hnodup
    intro o ho heq
    refine (List.nodup_middle.1 hnodup).notMem ?_
    rw [← List.map_append, ← hrest, ← heq]
    exact List.mem_map_of_mem ho
  have hstep : (Session.fresh.run Fixture.pki moves).step Fixture.pki (.confirm clean) =
      ⟨((Session.fresh.run Fixture.pki moves).device.step Fixture.pki (.call (.confirmOutbound entry.eventId) clean)).2,
        none, confirmed ++ [entry.fact]⟩ := by
    unfold Session.step
    rw [h.taken, h.agent, h.confirmed]
    dsimp only
    rw [StoredOutbound.fact_eventId, if_neg, record, StoredOutbound.fact_eventId, if_neg hnew]
    rw [hagrees, standing_agent hagent, Option.any_some, List.any_eq_true]
    rintro ⟨o, ho, heq⟩
    exact hgone o ho (by simpa using heq)
  rw [hstep] at hrun
  refine ⟨?_, ?_, ?_, ?_, ?_, h.publish hseq fun event faults he => (by cases he)⟩
  · rw [hrun]
    exact h.sound.step _
  · rw [hrun]
    exact hagrees
  · rw [hrun]
    exact hagent
  · rw [hrun]
  · rw [hrun]

end Trace

/-! The documents of a rotation, for the artifact the catalog resolves. -/

variable (artifact : ResolvedArtifact)

def ackEntry : StoredOutbound :=
  .ack (eventId .ack commandId.expose) ((acceptedCommand retention (command 0) artifact two now).acknowledgement 1)

def reportOf : StoredReport := (acceptedCommand retention (command 0) artifact two now).report first.identity 2

/-- The rejection of another payload under the name of the command. -/
def payloadEntry : StoredOutbound :=
  .ack (eventId .rejected (conflictSource commandId.expose (fingerprint [1])))
    (conflictAck commandId.expose (fingerprint [1]) 2 2 3 (observedAt now))

/-- A document of the rotation with these entries in its outbox. -/
def stage (sequence : ℕ) (outbox : List StoredOutbound) (reconnect : Option ℕ) (settled : Bool) : StateV1 :=
  { rotating 0 artifact with
    deviceSequence := sequence
    outbox := outbox
    reconnectRevision := reconnect
    pendingInbound := some { (acceptedCommand retention (command 0) artifact two now).pending (identity one) with
      settled := settled } }

theorem rotating_eq : rotating 0 artifact = stage artifact 2
    [ackEntry artifact, .reportBlocked (eventId .report commandId.expose) (reportOf artifact)] none false := rfl

theorem confirmed_ack : (rotating 0 artifact).confirmed (ackEntry artifact) = stage artifact 2
    [.reportBlocked (eventId .report commandId.expose) (reportOf artifact)] (some 2) false := by
  rw [rotating_eq]
  simp only [StateV1.confirmed, stage, List.eraseP_cons, decide_true, cond_true]
  rfl

theorem confirmed_payload : (stage artifact 3 [.reportBlocked (eventId .report commandId.expose) (reportOf artifact),
      payloadEntry] (some 2) false).confirmed payloadEntry = stage artifact 3
    [.reportBlocked (eventId .report commandId.expose) (reportOf artifact)] (some 2) false := by
  have hne : ¬ eventId .report commandId.expose = payloadEntry.eventId := fun he => (by cases eventId_kind he)
  have hfirst : decide ((StoredOutbound.reportBlocked (eventId .report commandId.expose) (reportOf artifact)).eventId =
      payloadEntry.eventId) = false := decide_eq_false hne
  simp only [StateV1.confirmed, stage, List.eraseP_cons, hfirst, decide_true, cond_true, cond_false]
  rfl

theorem conflict_payload : (stage artifact 2 [.reportBlocked (eventId .report commandId.expose) (reportOf artifact)] (some 2)
      false).rejectConflictingReplay commandId.expose (fingerprint [1]) (rotating 0 artifact).current.desiredGeneration
      (rotating 0 artifact).current.fenceEpoch (observedAt now) = stage artifact 3
    [.reportBlocked (eventId .report commandId.expose) (reportOf artifact), payloadEntry] (some 2) false := by
  have hnext : saturatingAdd (stage artifact 2 [.reportBlocked (eventId .report commandId.expose) (reportOf artifact)]
      (some 2) false).deviceSequence 1 = 3 := rfl
  simp only [rejectConflictingReplay, hnext]
  rfl

/-- The command is accepted. -/
def applied : List Move := [.act start, .act (.call (apply 0 now) clean)]

/-- Its acknowledgement is confirmed. -/
def acked : List Move := applied ++ [.take] ++ [.confirm clean]

/-- Another payload comes under its name, and its rejection is confirmed. -/
def overtaken : List Move := acked ++ [.act (.call (malformed [1] now) clean)] ++ [.take] ++ [.confirm clean]

/-- The new session, and the settlement of the delivery. -/
def settle (moves : List Move) : List Move :=
  moves ++ [.act (.call (.markCurrentCredentialConnected two) clean)] ++ [.act (.call .markPendingInboundAbsent clean)]

/-- The report. -/
def finish (moves : List Move) : List Move := settle moves ++ [.take] ++ [.confirm clean]

theorem trace_applied : ∃ artifact, Trace applied (rotating 0 artifact) none [] := by
  obtain ⟨artifact, ha⟩ := run_apply
  refine ⟨artifact, sound_run Fixture.pki [start, .call (apply 0 now) clean], agrees_run synced_apply, ha, rfl, rfl, ?_⟩
  refine atEvery_cons.2 ⟨⟨fun event faults he => (by cases he), fun s hs => (by cases hs)⟩, atEvery_cons.2 ⟨?_, atEvery_nil⟩⟩
  refine ⟨fun event faults he => (by cases he), ?_⟩
  intro s hs
  obtain rfl := Option.some.inj ((standing_agent run_start).symm.trans hs)
  decide

variable {artifact}

theorem trace_acked (h : Trace applied (rotating 0 artifact) none []) :
    Trace acked (stage artifact 2 [.reportBlocked (eventId .report commandId.expose) (reportOf artifact)] (some 2) false)
      none [(ackEntry artifact).fact] := by
  have htake : Trace (applied ++ [.take]) (rotating 0 artifact) (some (ackEntry artifact).fact) [] :=
    h.take (show 2 < 2 ^ 64 - 2 by decide)
  have hconf := Trace.confirm _ htake (show 2 < 2 ^ 64 - 2 by decide) List.mem_cons_self rfl (fun hr => (by cases hr)) (by simp)
  rw [confirmed_ack] at hconf
  exact hconf

section Finish

variable {moves : List Move} {sequence : ℕ} {confirmed : List OutboundFact}

theorem trace_settle (h : Trace moves (stage artifact sequence [.reportBlocked (eventId .report commandId.expose)
      (reportOf artifact)] (some 2) false) none confirmed) (hseq : sequence < 2 ^ 64 - 2) :
    Trace (settle moves) (stage artifact sequence [.reportReady (eventId .report commandId.expose) (reportOf artifact)]
      none true) none confirmed := by
  have hready : Trace (moves ++ [.act (.call (.markCurrentCredentialConnected two) clean)])
      (stage artifact sequence [.reportReady (eventId .report commandId.expose) (reportOf artifact)] none false) none
      confirmed :=
    h.act hseq (fun event he => (by cases he)) 
      (h.sound.step_reconnect h.agent (h.sound.expires positiveExpiry h.agent) rfl).2
  exact hready.act hseq (fun event he => (by cases he)) 
    (hready.sound.step_absent hready.agent (hready.sound.expires positiveExpiry hready.agent) rfl).2

/-- From the new session on, the report is published. -/
theorem trace_finish (h : Trace moves (stage artifact sequence [.reportBlocked (eventId .report commandId.expose)
      (reportOf artifact)] (some 2) false) none confirmed) (hseq : sequence < 2 ^ 64 - 2)
    (hnew : eventId .report commandId.expose ∉ confirmed.map OutboundFact.eventId) :
    ∃ s, Trace (finish moves) s none
      (confirmed ++ [.certificateReported (eventId .report commandId.expose) (reportOf artifact).toFact]) := by
  have htake := (trace_settle h hseq).take hseq
  exact ⟨_, Trace.confirm (.reportReady (eventId .report commandId.expose) (reportOf artifact)) htake hseq
    List.mem_cons_self rfl (fun _ => rfl) hnew⟩

end Finish

/-- Nothing is passed over where the first entry is an acknowledgement or the only one. -/
theorem Trace.keeps_take {moves : List Move} {s : StateV1} {taken : Option OutboundFact} {confirmed : List OutboundFact}
    (h : Trace moves s taken confirmed) (hs : ∀ o o' rest, s.outbox = o :: o' :: rest → o.reportPayload = none)
    (hk : AtEvery (fun before move => KeepsOrder (Session.fresh.run Fixture.pki before) move) moves) :
    AtEvery (fun before move => KeepsOrder (Session.fresh.run Fixture.pki before) move) (moves ++ [.take]) := by
  refine atEvery_concat.2 ⟨hk, ?_⟩
  intro _ s' o o' rest hs' hsplit hheld
  obtain rfl := Option.some.inj ((standing_agent h.agent).symm.trans hs')
  have hnone := hheld.1
  rw [hs o o' rest hsplit] at hnone
  cases hnone

theorem keeps_other (moves : List Move) {move : Move} (hmove : move ≠ .take)
    (hk : AtEvery (fun before move => KeepsOrder (Session.fresh.run Fixture.pki before) move) moves) :
    AtEvery (fun before move => KeepsOrder (Session.fresh.run Fixture.pki before) move) (moves ++ [move]) :=
  atEvery_concat.2 ⟨hk, fun he => absurd he hmove⟩

theorem fingerprint_command_ne : commandFingerprint (command 0) ≠ fingerprint [1] := by decide +kernel

theorem trace_overtaken (h : Trace applied (rotating 0 artifact) none []) :
    Trace overtaken (stage artifact 3 [.reportBlocked (eventId .report commandId.expose) (reportOf artifact)] (some 2) false)
      none [(ackEntry artifact).fact, payloadEntry.fact] := by
  have hacked := trace_acked h
  have hs := (hacked.sound.memory _ hacked.agent).1.coherent.consistent
  -- the journal knows the command with another fingerprint
  have hm : (stage artifact 2 [.reportBlocked (eventId .report commandId.expose) (reportOf artifact)] (some 2)
      false).commandMatch commandId.expose (fingerprint [1]) now = some false := by
    have hret : now < (acceptedCommand retention (command 0) artifact two now).retainUntilEpochSeconds := by
      show now < retentionDeadline retention (observedAt now)
      decide
    unfold StateV1.commandMatch
    show Option.map _ (List.find? _ ([] ++ [_])) = _
    rw [List.nil_append, List.find?_cons_of_pos]
    · exact congrArg some (decide_eq_false fingerprint_command_ne)
    · rw [decide_eq_true_eq]
      exact ⟨rfl, hret⟩
  have hknown : (stage artifact 2 [.reportBlocked (eventId .report commandId.expose) (reportOf artifact)] (some 2)
      false).hasConflictingReplay commandId.expose (fingerprint [1]) = false := by
    refine hasConflictingReplay_eq_false.2 ?_
    intro o ho he
    cases List.mem_singleton.1 ho
    cases eventId_kind he
  have hnew : payloadEntry.eventId ∉ [(ackEntry artifact).fact].map OutboundFact.eventId := by
    rw [List.map_singleton, List.mem_singleton]
    intro he
    cases eventId_kind he
  have htopic : (stage artifact 2 [.reportBlocked (eventId .report commandId.expose) (reportOf artifact)] (some 2)
      false).pendingInbound.map (·.topic) = some topic := rfl
  have hroom : (stage artifact 2 [.reportBlocked (eventId .report commandId.expose) (reportOf artifact)] (some 2)
      false).outbox.length < outboxLimit := show 1 < 128 by decide
  have hseq : (stage artifact 2 [.reportBlocked (eventId .report commandId.expose) (reportOf artifact)] (some 2)
      false).deviceSequence < u64Max := show 2 < 18446744073709551615 by decide
  have hpayload : Trace (acked ++ [.act (.call (malformed [1] now) clean)]) (stage artifact 3
      [.reportBlocked (eventId .report commandId.expose) (reportOf artifact), payloadEntry] (some 2) false) none
      [(ackEntry artifact).fact] :=
    hacked.act (show 2 < 2 ^ 64 - 2 by decide) (fun event he => (by cases he)) (by
      rw [← conflict_payload]
      unfold malformed
      exact (hacked.sound.step_conflicting positiveExpiry hacked.agent hs (.inr htopic)
        (ne_empty_of_validCommandId commandId.valid) hm hknown hroom hseq).2)
  have htake : Trace (acked ++ [.act (.call (malformed [1] now) clean)] ++ [.take]) (stage artifact 3
      [.reportBlocked (eventId .report commandId.expose) (reportOf artifact), payloadEntry] (some 2) false)
      (some payloadEntry.fact) [(ackEntry artifact).fact] := hpayload.take (show 3 < 2 ^ 64 - 2 by decide)
  have hconf := Trace.confirm _ htake (show 3 < 2 ^ 64 - 2 by decide) (List.mem_cons_of_mem _ List.mem_cons_self) rfl
    (fun hr => (by cases hr)) hnew
  rw [confirmed_payload] at hconf
  exact hconf

end Fixture

open Fixture in
/-- A rotation that nothing comes between: the acknowledgement goes out with number 1, the report with number 2. -/
theorem wire_order_rotation :
    AtEvery (fun before move => Publishes (Session.fresh.run Fixture.pki before) move) (finish acked) ∧
    AtEvery (fun before move => KeepsOrder (Session.fresh.run Fixture.pki before) move) (finish acked) ∧
    (Session.fresh.run Fixture.pki (finish acked)).confirmed.map OutboundFact.deviceSequence = [1, 2] ∧
    ((Session.fresh.run Fixture.pki (finish acked)).confirmed.map OutboundFact.deviceSequence).Pairwise (· < ·) := by
  obtain ⟨artifact, happlied⟩ := trace_applied
  have hacked := trace_acked happlied
  obtain ⟨s, hfinish⟩ := trace_finish hacked (by decide) fun hmem => (by
    cases eventId_kind (List.mem_singleton.1 hmem))
  have hfirst : AtEvery (fun before move => KeepsOrder (Session.fresh.run Fixture.pki before) move) acked := by
    refine keeps_other _ (fun he => (by cases he)) (happlied.keeps_take ?_ ?_)
    · intro o o' rest hsplit
      obtain ⟨rfl, -⟩ := List.cons.inj hsplit
      rfl
    · exact keeps_other [.act start] (fun he => (by cases he)) (keeps_other [] (fun he => (by cases he)) atEvery_nil)
  have hkeeps : AtEvery (fun before move => KeepsOrder (Session.fresh.run Fixture.pki before) move) (finish acked) := by
    refine keeps_other _ (fun he => (by cases he)) ((trace_settle hacked (by decide)).keeps_take ?_ ?_)
    · intro o o' rest hsplit
      cases (List.cons.inj hsplit).2
    · exact keeps_other _ (fun he => (by cases he)) (keeps_other _ (fun he => (by cases he)) hfirst)
  refine ⟨hfinish.publishes, hkeeps, ?_, wire_order Fixture.pki hfinish.publishes hkeeps⟩
  rw [hfinish.confirmed]
  rfl

open Fixture in
/-- Another payload comes while the report is withheld: its rejection, number 3, goes out before the report, number 2. -/
theorem wire_overtaken :
    AtEvery (fun before move => Publishes (Session.fresh.run Fixture.pki before) move) (finish overtaken) ∧
    (Session.fresh.run Fixture.pki (finish overtaken)).confirmed.map OutboundFact.deviceSequence = [1, 3, 2] ∧
    ¬ ((Session.fresh.run Fixture.pki (finish overtaken)).confirmed.map OutboundFact.deviceSequence).Pairwise
      (· < ·) := by
  obtain ⟨artifact, happlied⟩ := trace_applied
  obtain ⟨s, hfinish⟩ := trace_finish (trace_overtaken happlied) (by decide) fun hmem => (by
    rcases List.mem_pair.1 hmem with he | he <;> cases eventId_kind he)
  have hsequences : (Session.fresh.run Fixture.pki (finish overtaken)).confirmed.map OutboundFact.deviceSequence =
      [1, 3, 2] := by
    rw [hfinish.confirmed]
    rfl
  refine ⟨hfinish.publishes, hsequences, ?_⟩
  rw [hsequences]
  decide

end RssIncubator.Agent
