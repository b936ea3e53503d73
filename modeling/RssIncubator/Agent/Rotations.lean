import RssIncubator.Agent.Linear

/-!
# The generation tells the rotation

An accepted command is acknowledged and, once its credential is in use, reported.  The two facts carry a generation, and
no name for the rotation they belong to.  `one_rotation` says that none is needed: of all that a device ever queues, what
has one generation is about one rotation.  A command identity would not do, for it may come back when the journal has
forgotten it.
-/

namespace RssIncubator.Agent

open Lib StateV1

/-- The generation that a fact of a rotation is about. -/
def OutboundFact.turned : OutboundFact → Option ℕ
  | .commandAcknowledged _ a => if a.rejection = none then some a.desiredGeneration else none
  | .certificateReported _ r => some r.observedGeneration

/-- A command, the identity it was accepted on and the last sequence number before it. -/
structure Rotation where
  command : AcceptedCommand
  identity : StoredIdentity
  sequence : ℕ

namespace Rotation

def acknowledgement (r : Rotation) : StoredAck := r.command.acknowledgement (saturatingAdd r.sequence 1)

def report (r : Rotation) : StoredReport := r.command.report r.identity (saturatingAdd (saturatingAdd r.sequence 1) 1)

/-- The two facts of a rotation. -/
def facts (r : Rotation) : List OutboundFact :=
  [.commandAcknowledged (eventId .ack r.command.commandId) r.acknowledgement.toFact,
    .certificateReported (eventId .report r.command.commandId) r.report.toFact]

theorem turned_facts {r : Rotation} {f : OutboundFact} (hf : f ∈ r.facts) : f.turned = some r.command.generation := by
  rcases List.mem_pair.1 hf with rfl | rfl <;> rfl

end Rotation

/-- All that was queued, beside a document. -/
structure Rotated (shown : Set OutboundFact) (s : StateV1) : Prop where
  journal : ∀ k ∈ s.commandJournal, .commandAcknowledged (eventId .ack k.commandId) k.acknowledgement.toFact ∈ shown
  below : ∀ f ∈ shown, ∀ n, f.turned = some n → n ≤ s.current.desiredGeneration
  one : ∀ f ∈ shown, ∀ g ∈ shown, ∀ n, f.turned = some n → g.turned = some n → ∃ r : Rotation, f ∈ r.facts ∧ g ∈ r.facts

section

variable {shown : Set OutboundFact} {s c : StateV1}

/-- The facts that a document holds. -/
def StateV1.queue (s : StateV1) : Set OutboundFact := {f | f ∈ s.facts}

/-- An operation that queues nothing new. -/
theorem Rotated.keep (h : Rotated shown s) (hqueue : c.queue ⊆ shown) (hjournal : c.commandJournal = s.commandJournal)
    (hcurrent : c.current = s.current) : Rotated (shown ∪ c.queue) c := by
  rw [Set.union_eq_self_of_subset_right hqueue]
  exact ⟨hjournal ▸ h.journal, hcurrent ▸ h.below, h.one⟩

/-- An operation that queues a fact of no rotation. -/
theorem Rotated.reject (h : Rotated shown s) (hqueue : s.queue ⊆ shown) {f : OutboundFact} (hfacts : c.facts = s.facts ++ [f])
    (hf : f.turned = none) (hjournal : ∀ k ∈ c.commandJournal, k ∈ s.commandJournal ∨
      .commandAcknowledged (eventId .ack k.commandId) k.acknowledgement.toFact = f)
    (hcurrent : c.current = s.current) : Rotated (shown ∪ c.queue) c := by
  have hmem : ∀ g ∈ shown ∪ c.queue, g ∈ shown ∨ g = f := by
    rintro g (hg | hg)
    · exact .inl hg
    · have hg' : g ∈ s.facts ++ [f] := hfacts ▸ hg
      rw [List.mem_append, List.mem_singleton] at hg'
      exact hg'.imp_left fun hg => hqueue hg
  have hturned : ∀ g ∈ shown ∪ c.queue, ∀ n, g.turned = some n → g ∈ shown := by
    intro g hg n hn
    rcases hmem g hg with hg | rfl
    · exact hg
    · rw [hf] at hn
      cases hn
  refine ⟨?_, ?_, ?_⟩
  · intro k hk
    rcases hjournal k hk with hk | hk
    · exact .inl (h.journal k hk)
    · refine .inr (show _ ∈ c.facts from ?_)
      rw [hfacts, hk]
      exact List.mem_append_right _ (List.mem_singleton_self _)
  · intro g hg n hn
    rw [hcurrent]
    exact h.below g (hturned g hg n hn) n hn
  · intro g hg g' hg' n hn hn'
    exact h.one g (hturned g hg n hn) g' (hturned g' hg' n hn') n hn hn'

/-- An operation that queues a rotation, with a generation above the others. -/
theorem Rotated.turn (h : Rotated shown s) (hqueue : s.queue ⊆ shown) {r : Rotation} (hfacts : c.facts = s.facts ++ r.facts)
    (hgen : s.current.desiredGeneration < r.command.generation) (hcurrent : c.current.desiredGeneration = r.command.generation)
    (hjournal : ∀ k ∈ c.commandJournal, k ∈ s.commandJournal ∨
      .commandAcknowledged (eventId .ack k.commandId) k.acknowledgement.toFact ∈ r.facts) : Rotated (shown ∪ c.queue) c := by
  have hmem : ∀ g ∈ shown ∪ c.queue, g ∈ shown ∨ g ∈ r.facts := by
    rintro g (hg | hg)
    · exact .inl hg
    · have hg' : g ∈ s.facts ++ r.facts := hfacts ▸ hg
      rw [List.mem_append] at hg'
      exact hg'.imp_left fun hg => hqueue hg
  -- what was queued before has another generation
  have hold : ∀ g ∈ shown, g.turned ≠ some r.command.generation := by
    intro g hg hn
    exact absurd (h.below g hg _ hn) (not_le.2 hgen)
  refine ⟨?_, ?_, ?_⟩
  · intro k hk
    rcases hjournal k hk with hk | hk
    · exact .inl (h.journal k hk)
    · refine .inr (show _ ∈ c.facts from ?_)
      rw [hfacts]
      exact List.mem_append_right _ hk
  · intro g hg n hn
    rw [hcurrent]
    rcases hmem g hg with hg | hg
    · exact (h.below g hg n hn).trans hgen.le
    · rw [Rotation.turned_facts hg] at hn
      exact (Option.some.inj hn).ge
  · intro g hg g' hg' n hn hn'
    rcases hmem g hg with hg | hg <;> rcases hmem g' hg' with hg' | hg'
    · exact h.one g hg g' hg' n hn hn'
    · rw [Rotation.turned_facts hg'] at hn'
      exact absurd (hn.trans hn'.symm) (hold g hg)
    · rw [Rotation.turned_facts hg] at hn
      exact absurd (hn'.trans hn.symm) (hold g' hg')
    · exact ⟨r, hg, hg'⟩

variable {pki : Pki} {retention : NonZeroU32} {call : Call} {reply : Reply}

/-- **One operation queues at most one rotation**, and with a new generation. -/
theorem Commits.rotated (h : Commits pki retention call s c reply) (hs : s.Coherent) (hr : Rotated shown s)
    (hqueue : s.queue ⊆ shown) : Rotated (shown ∪ c.queue) c := by
  obtain ⟨dec, hp, hc, -⟩ := h
  cases plan_cases hs.consistent hp with
  | duplicate hdel hm hack => cases hc
  | conflicting hdel hm hknown => cases hc
  | replay hdel hm hack hroom hfind =>
    cases hc
    refine hr.keep ?_ rfl rfl
    intro f hf
    have hf' : f ∈ (s.replayed _).facts := hf
    rw [facts_replayed, List.mem_append, List.mem_singleton] at hf'
    rcases hf' with hf' | rfl
    · exact hqueue hf'
    · exact hr.journal _ (List.mem_of_find?_eq_some hfind)
  | conflict hdel hm hknown hroom hgen hfence =>
    cases hc
    exact hr.reject hqueue (facts_rejectConflictingReplay ..) rfl (fun k hk => .inl hk) rfl
  | reject hdel hm hgen hfence hexpiry hroom hjournal =>
    cases hc
    refine hr.reject hqueue (facts_reject ..) rfl ?_ rfl
    intro k hk
    rcases List.mem_append.1 hk with hk | hk
    · exact .inl (mem_expire.1 hk).1
    · rw [List.mem_singleton] at hk
      subst hk
      exact .inr rfl
  | accept hm hflight hid htopic hdevice hdeadline hres hfence hgen hcred hroom hjournal hrev =>
    rename_i topic command now catalog identity artifact revision
    cases hc
    let r : Rotation := ⟨acceptedCommand retention command artifact revision now, s.identity, s.deviceSequence⟩
    refine hr.turn (r := r) hqueue (facts_accepted ..) hgen rfl ?_
    intro k hk
    rcases List.mem_append.1 hk with hk | hk
    · exact .inl (mem_expire.1 hk).1
    · rw [List.mem_singleton] at hk
      subst hk
      exact .inr List.mem_cons_self
  | confirm hconf =>
    cases hc
    obtain ⟨entry, -, -, -, rfl⟩ := confirmOutbound_eq_some hconf
    refine hr.keep ?_ rfl rfl
    intro f hf
    obtain ⟨o, ho, rfl⟩ := List.mem_map.1 hf
    exact hqueue (List.mem_map_of_mem (List.mem_of_mem_eraseP ho))
  | reconnect hrec =>
    cases hc
    obtain ⟨-, rfl⟩ := markReconnected_eq_some.1 hrec
    refine hr.keep (fun f hf => hqueue ?_) rfl rfl
    have hf' : f ∈ (s.outbox.map unblock).map StoredOutbound.fact := hf
    rw [s.facts_unblocked] at hf'
    exact hf'
  | settled hset =>
    cases hc
    obtain ⟨p, -, -, rfl⟩ := markInboundSettled_eq_some hset
    exact hr.keep hqueue rfl rfl
  | absent hset =>
    cases hc
    obtain ⟨p, -, -, rfl⟩ := markInboundSettled_eq_some hset
    exact hr.keep hqueue rfl rfl

end

/-! ### Every run -/

section

variable {pki : Pki} {actions : List Action}

/-- What a device has queued is what its document has shown. -/
theorem displays_run (pki : Pki) (actions : List Action) :
    Displays (Does pki) (First pki) StateV1.queue (Device.fresh.run pki actions).copies {f | Queued pki actions f} := by
  induction actions using List.reverseRecOn with
  | nil =>
    have hnone : {f | Queued pki [] f} = ∅ := by
      refine Set.eq_empty_iff_forall_notMem.2 ?_
      rintro f ⟨p, hp, s, hs, -⟩
      obtain rfl := List.prefix_nil.1 hp
      cases hs
    rw [hnone]
    exact .nil
  | append_singleton l action ih =>
    have hqueued : {f | Queued pki (l ++ [action]) f} =
        {f | Queued pki l f} ∪ (Device.fresh.run pki (l ++ [action])).copies.shows StateV1.queue := by
      ext f
      refine queued_concat.trans ?_
      rw [← Device.copies_standing]
      rfl
    rw [hqueued, Device.run_concat]
    exact .concat ih ((sound_run pki l).persists action)

/-- What holds of the document of a device that has queued anything. -/
theorem Queued.rotated {f : OutboundFact} (hf : Queued pki actions f) : ∃ s, Rotated {f | Queued pki actions f} s := by
  have hkeeps := (displays_run pki actions).keeps (P := fun shown s => s.Coherent ∧ Rotated shown s) ?_ ?_
  · rcases hkeeps with ⟨-, hnone⟩ | ⟨s, ⟨-, hr⟩, -⟩
    · exact absurd hf (Set.eq_empty_iff_forall_notMem.1 hnone f)
    · exact ⟨s, hr⟩
  · rintro s ⟨config, now, c, digest, hb, rfl⟩
    exact ⟨coherent_initial .., fun k hk => (by cases hk), fun f hf => (by cases hf), fun f hf => (by cases hf)⟩
  · rintro shown s op s' reply ⟨hcoherent, hr⟩ hqueue hdoes
    cases hdoes with
    | kept h =>
      rw [Set.union_eq_self_of_subset_right hqueue]
      exact ⟨hcoherent, hr⟩
    | committed hc => exact ⟨hc.coherent hcoherent, hc.rotated hcoherent hr hqueue⟩
    | refused h =>
      rw [Set.union_eq_self_of_subset_right hqueue]
      exact ⟨hcoherent, hr⟩

end

/-- **One generation, one rotation**: two facts that a device has queued at any two points of its life, whatever failed
and wherever it was restarted in between, are of one rotation if they are about the same generation. -/
theorem one_rotation (pki : Pki) (actions : List Action) {f g : OutboundFact} {n : ℕ} (hf : Queued pki actions f)
    (hg : Queued pki actions g) (hturned : f.turned = some n) (hturned' : g.turned = some n) :
    ∃ r : Rotation, f ∈ r.facts ∧ g ∈ r.facts := by
  obtain ⟨s, hs⟩ := hf.rotated
  exact hs.one f hf g hg n hturned hturned'

namespace Fixture

/-- The rotation of the first command. -/
def rotation (artifact : ResolvedArtifact) : Rotation :=
  ⟨acceptedCommand retention (command 0) artifact two now, first.identity, first.deviceSequence⟩

theorem queued_rotation {artifact : ResolvedArtifact} (ha : (Device.fresh.run Fixture.pki [start, .call (apply 0 now) clean]).agent =
    some ⟨rotating 0 artifact, retention⟩) {f : OutboundFact} (hf : f ∈ (rotation artifact).facts) :
    Queued Fixture.pki [start, .call (apply 0 now) clean] f := ⟨_, List.prefix_rfl, _, standing_agent ha, hf⟩

end Fixture

open Fixture in
/-- The acknowledgement and the report of the first command. -/
theorem one_rotation_first : ∃ f g : OutboundFact, f.turned = some 2 ∧ g.turned = some 2 ∧ f ≠ g ∧
    ∃ r : Rotation, f ∈ r.facts ∧ g ∈ r.facts := by
  obtain ⟨artifact, ha⟩ := run_apply
  have hack := queued_rotation ha List.mem_cons_self
  have hreport := queued_rotation ha (List.mem_cons_of_mem _ (List.mem_singleton_self _))
  have hne : ∀ {e e' : String} {a : AckFact} {r : ReportFact},
      OutboundFact.commandAcknowledged e a ≠ .certificateReported e' r := fun h => by cases h
  exact ⟨_, _, rfl, rfl, hne, one_rotation Fixture.pki _ hack hreport rfl rfl⟩

end RssIncubator.Agent
