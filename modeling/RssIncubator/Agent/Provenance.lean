import RssIncubator.Agent.Identity

/-!
# Where a fact comes from

What a document holds for the service is the answer to a call: an acknowledgement names the command of a delivery, and an
acknowledgement of receipt and a report repeat the generation and the fence of the command that was applied.  The journal
keeps answers for later, so it is looked at beside the outbox.
-/

namespace RssIncubator.Agent

open StateV1

/-- The fact is an answer to the call. -/
inductive OutboundFact.From : OutboundFact → Call → Prop
  | rejected {e : String} {a : AckFact} {call d} (hd : call.delivery = some d) (hid : a.commandId = d.commandId)
      (hrej : a.rejection ≠ none) : From (.commandAcknowledged e a) call
  | received {e : String} {a : AckFact} {topic command now catalog} (hid : a.commandId = command.commandId.expose)
      (hrej : a.rejection = none) (hgen : a.desiredGeneration = command.desiredGeneration.1)
      (hfence : a.fenceEpoch = command.fenceEpoch.1) :
      From (.commandAcknowledged e a) (.applyCommand topic command now catalog)
  | reported {e : String} {r : ReportFact} {topic command now catalog} (hid : e = Agent.eventId .report command.commandId.expose)
      (hgen : r.observedGeneration = command.desiredGeneration.1) (hfence : r.fenceEpoch = command.fenceEpoch.1) :
      From (.certificateReported e r) (.applyCommand topic command now catalog)

theorem OutboundFact.From.delivery {f : OutboundFact} {call : Call} (h : f.From call) : call.delivery.isSome := by
  cases h with
  | rejected hd => rw [hd]; rfl
  | received => rfl
  | reported => rfl

/-- What a document has to say, now or when a command comes back. -/
def StateV1.tells (s : StateV1) (f : OutboundFact) : Prop :=
  f ∈ s.facts ∨ ∃ k ∈ s.commandJournal, f = .commandAcknowledged (eventId .ack k.commandId) k.acknowledgement.toFact

section

variable {pki : Pki} {retention : NonZeroU32} {s c : StateV1} {call : Call} {reply : Reply} {f : OutboundFact}

/-- **An operation says nothing new but the answer to its call.** -/
theorem Commits.tells (h : Commits pki retention call s c reply) (hs : s.Coherent) (hf : c.tells f) : s.tells f ∨ f.From call := by
  have old : ∀ {k : StoredCommand}, k ∈ s.commandJournal →
      s.tells (.commandAcknowledged (eventId .ack k.commandId) k.acknowledgement.toFact) := fun hk => .inr ⟨_, hk, rfl⟩
  obtain ⟨dec, hp, hc, -⟩ := h
  cases plan_cases hs.consistent hp with
  | duplicate hd hm hack => cases hc
  | conflicting hd hm hknown => cases hc
  | replay hd hm hack hroom hfind =>
    cases hc
    rcases hf with hf | ⟨k, hk, rfl⟩
    · rw [facts_replayed, List.mem_append, List.mem_singleton] at hf
      rcases hf with hf | rfl
      · exact .inl (.inl hf)
      · exact .inl (old (List.mem_of_find?_eq_some hfind))
    · exact .inl (old hk)
  | conflict hd hm hknown hroom hgen hfence =>
    cases hc
    rcases hf with hf | ⟨k, hk, rfl⟩
    · rw [facts_rejectConflictingReplay, List.mem_append, List.mem_singleton] at hf
      rcases hf with hf | rfl
      · exact .inl (.inl hf)
      · exact .inr (.rejected hd rfl fun h => by cases h)
    · exact .inl (old hk)
  | reject hd hm hgen hfence hexpiry hroom hjournal =>
    cases hc
    rcases hf with hf | ⟨k, hk, rfl⟩
    · rw [facts_reject, List.mem_append, List.mem_singleton] at hf
      rcases hf with hf | rfl
      · exact .inl (.inl hf)
      · exact .inr (.rejected hd rfl fun h => by cases h)
    · rcases List.mem_append.1 hk with hk | hk
      · exact .inl (old (mem_expire.1 hk).1)
      · rw [List.mem_singleton] at hk
        subst hk
        exact .inr (.rejected hd rfl fun h => by cases h)
  | accept hm hflight hid htopic hdevice hdeadline hres hfence hgen hcred hroom hjournal hrev =>
    cases hc
    rcases hf with hf | ⟨k, hk, rfl⟩
    · rw [facts_accepted, List.mem_append] at hf
      rcases hf with hf | hf
      · exact .inl (.inl hf)
      · rcases List.mem_pair.1 hf with rfl | rfl
        · exact .inr (.received rfl rfl rfl rfl)
        · exact .inr (.reported rfl rfl rfl)
    · rcases List.mem_append.1 hk with hk | hk
      · exact .inl (old (mem_expire.1 hk).1)
      · rw [List.mem_singleton] at hk
        subst hk
        exact .inr (.received rfl rfl rfl rfl)
  | confirm hconf =>
    cases hc
    obtain ⟨entry, -, -, -, rfl⟩ := confirmOutbound_eq_some hconf
    rcases hf with hf | ⟨k, hk, rfl⟩
    · obtain ⟨o, ho, rfl⟩ := List.mem_map.1 hf
      exact .inl (.inl (List.mem_map_of_mem (List.mem_of_mem_eraseP ho)))
    · exact .inl (old hk)
  | reconnect hrec =>
    cases hc
    obtain ⟨-, rfl⟩ := markReconnected_eq_some.1 hrec
    rcases hf with hf | ⟨k, hk, rfl⟩
    · have hf' : f ∈ (s.outbox.map unblock).map StoredOutbound.fact := hf
      rw [s.facts_unblocked] at hf'
      exact .inl (.inl hf')
    · exact .inl (old hk)
  | settled hset =>
    cases hc
    obtain ⟨p, -, -, rfl⟩ := markInboundSettled_eq_some hset
    exact .inl (hf.imp id fun ⟨k, hk, he⟩ => ⟨k, hk, he⟩)
  | absent hset =>
    cases hc
    obtain ⟨p, -, -, rfl⟩ := markInboundSettled_eq_some hset
    exact .inl (hf.imp id fun ⟨k, hk, he⟩ => ⟨k, hk, he⟩)

end

end RssIncubator.Agent
