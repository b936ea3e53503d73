import RssIncubator.Driver.Reachable

/-!
# What the driver sees of a change

The spec of each operation as its caller meets it: from the answer, what has become of the pending delivery, the
reconnect marker, the outbox and the journal.
-/

namespace RssIncubator.Driver

open Agent Lib StateV1 StoredOutbound

section

variable {pki : Pki} {wire : Wire} {ambient : Ambient} {retention : NonZeroU32} {s s' : StateV1} {call : Call} {reply : Reply}

theorem Answers.coherent (h : Answers pki retention call s s' reply) (hs : s.Coherent) : s'.Coherent := by
  rcases h with ⟨rfl, -⟩ | hc
  · exact hs
  · exact hc.coherent hs

/-! ### The four changes that are no delivery -/

theorem Answers.change {error : AgentError} (h : Answers pki retention call s s' reply) (change : StateV1 → Option StateV1)
    (hplan : plan pki retention s call = planChange s change error) : change s = some s' := by
  rcases h with ⟨-, hk⟩ | ⟨dec, hp, hc, -⟩
  · rw [hplan, planChange_eq_ok] at hk
    obtain ⟨c, -, hk⟩ := hk
    cases hk
  · rw [hplan, planChange_eq_ok] at hp
    obtain ⟨c, hchange, rfl⟩ := hp
    cases hc
    exact hchange

theorem Answers.mark {revision : NonZeroU64}
    (h : Answers pki retention (.markCurrentCredentialConnected revision) s s' reply) :
    s.reconnectRevision = some revision.1 ∧ s' = { s with outbox := s.outbox.map unblock, reconnectRevision := none } :=
  markReconnected_eq_some.1 (h.change (·.markReconnected revision.1) rfl)

theorem Answers.confirm {event : String} (h : Answers pki retention (.confirmOutbound event) s s' reply) :
    ∃ entry ∈ s.outbox, entry.eventId = event ∧ (entry.isReportReady = true → s.pendingSettled = true) ∧
      s' = s.confirmed entry := confirmOutbound_eq_some (h.change (·.confirmOutbound event) rfl)

theorem Answers.settle {token : String} (h : Answers pki retention (.markPendingInboundSettled token) s s' reply) :
    ∃ p, s.pendingInbound = some p ∧ p.settlementToken = token ∧
      s' = { s with pendingInbound := some { p with settled := true } } := by
  obtain ⟨p, hpend, ht, hs'⟩ := markInboundSettled_eq_some (h.change (·.markInboundSettled (some token)) rfl)
  exact ⟨p, hpend, (ht token rfl).symm, hs'⟩

theorem Answers.absent (h : Answers pki retention .markPendingInboundAbsent s s' reply) :
    ∃ p, s.pendingInbound = some p ∧ s' = { s with pendingInbound := some { p with settled := true } } := by
  obtain ⟨p, hpend, -, hs'⟩ := markInboundSettled_eq_some (h.change (·.markInboundSettled none) rfl)
  exact ⟨p, hpend, hs'⟩

/-! ### Deliveries -/

/-- A delivery that changes no credential: acknowledgements are queued, and the journal may take it up. -/
structure Notes (s s' : StateV1) (d : Delivery) : Prop where
  credential : SameCredential s s'
  pendingInbound : s'.pendingInbound = s.pendingInbound
  reconnectRevision : s'.reconnectRevision = s.reconnectRevision
  outbox : ∃ new, s'.outbox = s.outbox ++ new ∧ ∀ o ∈ new, o.reportPayload = none
  journal : s'.commandJournal = s.commandJournal ∨
    s.answer d = none ∧ s'.commandJournal.length ≤ s.commandJournal.length + 1

/-- A delivery that is accepted. -/
structure Accepts (s s' : StateV1) (call : Call) (d : Delivery) : Prop where
  idle : s.rotationInFlight = false
  unheard : s.answer d = none
  revision : s'.current.credentialRevision = s.current.credentialRevision + 1
  pending : ∃ p, s'.pendingInbound = some p ∧ p.commandId = d.commandId ∧ p.fingerprint = d.fingerprint ∧
    p.settled = false ∧ ∃ command now catalog, call = .applyCommand p.topic command now catalog
  reconnectRevision : s'.reconnectRevision = s.reconnectRevision
  outbox : ∃ ack report e e', s'.outbox = s.outbox ++ [.ack e ack, .reportBlocked e' report] ∧
    report.commandId = d.commandId ∧ report.credentialRevision = s'.current.credentialRevision
  journal : s'.commandJournal.length ≤ s.commandJournal.length + 1

/-- What comes of a delivery. -/
structure Delivers (s s' : StateV1) (call : Call) (d : Delivery) (reply : Reply) : Prop where
  /-- The command is in the journal. -/
  noted : ∃ k ∈ s'.commandJournal, k.commandId = d.commandId
  accepted : reply = .outcome .accepted → Accepts s s' call d
  other : reply ≠ .outcome .accepted → Notes s s' d

theorem mem_journal_of_answer {d : Delivery} {b : Bool} (h : s.answer d = some b) :
    ∃ k ∈ s.commandJournal, k.commandId = d.commandId := by
  unfold StateV1.answer commandMatch at h
  obtain ⟨k, hk, -⟩ := Option.map_eq_some_iff.1 h
  have := List.find?_some hk
  exact ⟨k, List.mem_of_find?_eq_some hk, by simp_all⟩

theorem length_expire_le (s : StateV1) (now : ℕ) : (s.expireCommandJournal now).commandJournal.length ≤ s.commandJournal.length :=
  List.length_filter_le _ _

/-- **The spec of a delivery.** -/
theorem Answers.delivery {d : Delivery} (h : Answers pki retention call s s' reply) (hs : s.Coherent)
    (hd : call.delivery = some d) : Delivers s s' call d reply := by
  have known : ∀ {b r} new, s.answer d = some b → r ≠ .outcome .accepted →
      (∀ o ∈ new, o.reportPayload = none) → SameCredential s s' → s'.pendingInbound = s.pendingInbound →
      s'.reconnectRevision = s.reconnectRevision → s'.outbox = s.outbox ++ new →
      s'.commandJournal = s.commandJournal → Delivers s s' call d r := by
    intro b r new hm hr hnew hcred hpend hrec hout hj
    refine ⟨?_, fun h => absurd h hr, fun _ => ⟨hcred, hpend, hrec, ⟨new, hout, hnew⟩, .inl hj⟩⟩
    rw [hj]
    exact mem_journal_of_answer hm
  rcases h with ⟨rfl, hk⟩ | ⟨dec, hp, hc, -⟩
  · cases plan_cases hs.consistent hk with
    | duplicate hd' hm hack =>
      obtain rfl := Option.some.inj (hd.symm.trans hd')
      exact known [] hm (by decide) (by simp) ⟨rfl, rfl⟩ rfl rfl (by simp) rfl
    | conflicting hd' hm hknown =>
      obtain rfl := Option.some.inj (hd.symm.trans hd')
      exact known [] hm (by decide) (by simp) ⟨rfl, rfl⟩ rfl rfl (by simp) rfl
  · cases plan_cases hs.consistent hp with
    | duplicate hd' hm hack => cases hc
    | replay hd' hm hack hroom hfind =>
      obtain rfl := Option.some.inj (hd.symm.trans hd')
      cases hc
      exact known _ hm (by decide) (by simp [reportPayload]) ⟨rfl, rfl⟩ rfl rfl rfl rfl
    | conflicting hd' hm hknown => cases hc
    | conflict hd' hm hknown hroom hgen hfence =>
      obtain rfl := Option.some.inj (hd.symm.trans hd')
      cases hc
      exact known _ hm (by decide) (by simp [reportPayload]) ⟨rfl, rfl⟩ rfl rfl rfl rfl
    | reject hd' hm hgen hfence hexpiry hroom hjournal =>
      obtain rfl := Option.some.inj (hd.symm.trans hd')
      cases hc
      refine ⟨⟨_, List.mem_append_right _ (List.mem_singleton_self _), rfl⟩, fun h => (by cases h), fun _ => ?_⟩
      refine ⟨⟨rfl, rfl⟩, rfl, rfl, ⟨_, rfl, by simp [reportPayload]⟩, .inr ⟨hm, ?_⟩⟩
      have := length_expire_le s
      simp only [StateV1.reject, List.length_append, List.length_singleton]
      exact Nat.add_le_add_right (this _) 1
    | accept hm hflight hid htopic hdevice hdeadline hres hfence hgen hcred hroom hjournal hrev =>
      cases hd
      cases hc
      refine ⟨⟨_, List.mem_append_right _ (List.mem_singleton_self _), rfl⟩, fun _ => ?_, fun h => absurd rfl h⟩
      refine ⟨hflight, hm, hrev, ⟨_, rfl, rfl, rfl, rfl, _, _, _, by rw [htopic]; rfl⟩, rfl, ⟨_, _, _, _, rfl, rfl, rfl⟩, ?_⟩
      have := length_expire_le s
      simp only [StateV1.accepted, List.length_append, List.length_singleton]
      exact Nat.add_le_add_right (this _) 1
    | confirm h => cases hd
    | reconnect h => cases hd
    | settled h => cases hd
    | absent h => cases hd

/-- The delivery of a packet is a delivery to the agent, under its own name. -/
theorem commandCall_delivery (wire : Wire) (ambient : Ambient) (delivery : CommandDelivery) : ∃ d,
    (commandCall wire ambient delivery).delivery = some d ∧ d.commandId = delivery.commandId.expose ∧ d.now = ambient.now := by
  unfold commandCall
  split
  · rename_i command hdecode
    exact ⟨_, rfl, by rw [wire.decodeCommand_id hdecode], rfl⟩
  · exact ⟨_, rfl, rfl, rfl⟩

end

end RssIncubator.Driver
