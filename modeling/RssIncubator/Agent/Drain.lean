import RssIncubator.Agent.Queries
import RssIncubator.Agent.Journal

/-!
# No state is wedged

A device that is only asked to finish what it has begun comes to rest: the new credential connects, the pending
delivery is settled, and what may be published is published and confirmed, one entry after the other.  Every step
goes through, and there are finitely many of them, because an entry leaves the outbox with each confirmation and
the two other steps are made once for each rotation.
-/

namespace RssIncubator.Agent

open Lib StateV1

/-! ### The steps -/

/-- The next step of a device that takes no more commands. -/
def Running.settle (a : Running) : Except AgentError (Option Call) := do
  match ← a.reconnectRevision with
  | some revision => .ok (some (.markCurrentCredentialConnected revision))
  | none =>
    if a.pendingInboundSettled then .ok (a.nextOutbound.map fun fact => .confirmOutbound fact.eventId)
    else .ok (some .markPendingInboundAbsent)

namespace Device

/-- Take the next step, if there is one. -/
def settle (pki : Pki) (d : Device) : Option (Outcome AgentError Reply) × Device :=
  match d.agent with
  | none => (none, d)
  | some a =>
    match a.settle with
    | .error e => (some (.err e), d)
    | .ok none => (none, d)
    | .ok (some call) => d.step pki (.call call clean)

/-- The device after a number of steps. -/
def settled (pki : Pki) (d : Device) : ℕ → Device
  | 0 => d
  | n + 1 => ((d.settled pki n).settle pki).2

end Device

/-- An entry that may be published: an acknowledgement, or a report that is released and whose delivery is settled. -/
def StateV1.Publishable (s : StateV1) : StoredOutbound → Prop
  | .ack _ _ => True
  | .reportBlocked _ _ => False
  | .reportReady _ _ => s.pendingSettled = true

/-! ### What the checks leave out -/

/-- A document that has been worked on has a journal, and its revision is a machine integer. -/
structure StateV1.Worked (s : StateV1) : Prop where
  revision : s.current.credentialRevision ≤ u64Max
  journal : s.commandJournal = [] → s.outbox = []

section Worked

variable {pki : Pki} {retention : NonZeroU32} {s c : StateV1} {call : Call} {reply : Reply}

theorem journal_ne_nil_of_answer {d : Delivery} {b : Bool} (h : s.answer d = some b) : s.commandJournal ≠ [] := by
  intro hnil
  unfold StateV1.answer StateV1.commandMatch at h
  rw [hnil] at h
  cases h

theorem Commits.worked (h : Commits pki retention call s c reply) (hs : s.Coherent) (hw : s.Worked) : c.Worked := by
  obtain ⟨dec, hp, hc, -⟩ := h
  cases plan_cases hs.consistent hp with
  | duplicate hdel hm hack => cases hc
  | conflicting hdel hm hknown => cases hc
  | replay hdel hm hack hroom hfind =>
    cases hc
    exact ⟨hw.revision, fun hnil => absurd hnil (journal_ne_nil_of_answer hm)⟩
  | conflict hdel hm hknown hroom hgen hfence =>
    cases hc
    exact ⟨hw.revision, fun hnil => absurd hnil (journal_ne_nil_of_answer hm)⟩
  | reject hdel hm hgen hfence hexpiry hroom hjournal =>
    cases hc
    exact ⟨hw.revision, fun hnil => absurd hnil (List.append_ne_nil_of_right_ne_nil _ (List.cons_ne_nil _ _))⟩
  | accept hm hflight hid htopic hdevice hdeadline hres hfence hgen hcred hroom hjournal hrev =>
    rename_i revision
    cases hc
    exact ⟨revision.2.2, fun hnil => absurd hnil (List.append_ne_nil_of_right_ne_nil _ (List.cons_ne_nil _ _))⟩
  | confirm hconf =>
    cases hc
    obtain ⟨entry, hmem, -, -, rfl⟩ := confirmOutbound_eq_some hconf
    refine ⟨hw.revision, fun hnil => ?_⟩
    rw [hw.journal hnil] at hmem
    cases hmem
  | reconnect hrec =>
    cases hc
    obtain ⟨-, rfl⟩ := markReconnected_eq_some.1 hrec
    exact ⟨hw.revision, fun hnil => List.map_eq_nil_iff.2 (hw.journal hnil)⟩
  | settled hset =>
    cases hc
    obtain ⟨p, -, -, rfl⟩ := markInboundSettled_eq_some hset
    exact ⟨hw.revision, hw.journal⟩
  | absent hset =>
    cases hc
    obtain ⟨p, -, -, rfl⟩ := markInboundSettled_eq_some hset
    exact ⟨hw.revision, hw.journal⟩

/-- The state a device stands on has been worked on. -/
structure Sound.Settling (pki : Pki) (d : Device) : Prop where
  sound : Sound pki d
  worked : ∀ s, d.standing = some s → s.Worked

theorem Sound.Settling.step {d : Device} (h : Sound.Settling pki d) (action : Action) :
    Sound.Settling pki (d.step pki action).2 := by
  refine ⟨h.sound.step action, ?_⟩
  have hmoved := h.sound.moved action
  have hworked := h.worked
  have hcoh : ∀ s, d.standing = some s → s.Coherent := fun s hs => standing_coherent h.sound hs
  generalize d.standing = before, (d.step pki action).2.standing = next at hmoved hworked hcoh ⊢
  intro s hs
  cases hmoved with
  | same => exact hworked s hs
  | first hb =>
    rename_i config now credential digest
    cases hs
    exact ⟨config.initialPosition.credentialRevision.2.2, fun _ => rfl⟩
  | commits hc =>
    cases hs
    exact hc.worked (hcoh _ rfl) (hworked _ rfl)

theorem settling_run (pki : Pki) (actions : List Action) : Sound.Settling pki (Device.fresh.run pki actions) :=
  Device.run_induction (fun _ action h => h.step action) actions _ ⟨sound_fresh, fun s hs => (by cases hs)⟩

end Worked

/-! ### One step -/

section Step

variable {pki : Pki} {d : Device} {a : Running} {s : StateV1}

/-- What is left to do. -/
def StateV1.weight (s : StateV1) : ℕ :=
  3 * s.outbox.length + (if s.reconnectRevision.isSome then 1 else 0) +
    (if s.pendingInbound.all fun pending => pending.settled then 0 else 1)

theorem publishable_iff {o : StoredOutbound} : s.Publishable o ↔
    o.blockedPayload = none ∧ (o.isReportReady = true → s.pendingSettled = true) := by
  cases o <;> simp [StateV1.Publishable, StoredOutbound.blockedPayload, StoredOutbound.isReportReady]

/-- What `nextOutbound` yields is the fact of an entry that may be published, -/
theorem nextOutbound_publishable {f : OutboundFact} (h : s.nextOutbound = some f) :
    ∃ o ∈ s.outbox, o.eventId = f.eventId ∧ s.Publishable o := by
  obtain ⟨o, ho, hf⟩ := List.exists_of_findSome?_eq_some h
  split at hf
  · cases hf
  · rename_i hready
    refine ⟨o, ho, ?_⟩
    cases o with
    | ack e p =>
      cases hf
      exact ⟨rfl, trivial⟩
    | reportBlocked e r => cases hf
    | reportReady e r =>
      cases hf
      refine ⟨rfl, ?_⟩
      show s.pendingSettled = true
      simpa [StoredOutbound.isReportReady] using hready

/-- and if it yields nothing there is no such entry. -/
theorem not_publishable_of_next (h : s.nextOutbound = none) {o : StoredOutbound} (ho : o ∈ s.outbox) :
    ¬ s.Publishable o := by
  have hnone := List.findSome?_eq_none_iff.1 h o ho
  cases o with
  | ack e p => exact absurd hnone (by simp [StoredOutbound.isReportReady, StoredOutbound.readyFact])
  | reportBlocked e r => exact id
  | reportReady e r =>
    intro hset
    have hset' : s.pendingSettled = true := hset
    simp [StoredOutbound.isReportReady, StoredOutbound.readyFact, hset'] at hnone

/-- A device at rest: it has published everything and awaits nothing. -/
structure StateV1.AtRest (s : StateV1) : Prop where
  phase : s.phase = .idle
  outbox : s.outbox = []
  pendingInbound : s.pendingInbound = none
  reconnectRevision : s.reconnectRevision = none

/-- **Nothing is stuck**: if no session has to be opened, no delivery settled and nothing published, the device is at
rest.  A blocked report waits for an acknowledgement that is in the outbox, or for the session. -/
theorem StateV1.Coherent.atRest (h : s.Coherent) (hrec : s.reconnectRevision = none)
    (hset : s.pendingInbound.all (fun pending => pending.settled) = true) (hnext : s.nextOutbound = none) : s.AtRest := by
  have hreports : s.reports = 0 := by
    rw [reports_eq_zero]
    intro o ho
    by_contra hne
    obtain ⟨r, hr⟩ := Option.ne_none_iff_exists'.1 hne
    obtain ⟨-, p, hp, -⟩ := h.report o ho r hr
    have hsettled : s.pendingSettled = true := by
      unfold StateV1.pendingSettled
      rw [Option.mem_def.1 hp] at hset ⊢
      exact hset
    have hpub := not_publishable_of_next hnext ho
    cases o with
    | ack e p => cases hr
    | reportReady e r => exact hpub hsettled
    | reportBlocked e r' =>
      obtain ⟨hwait, -⟩ := h.consistent.phases _ ho
      have hack : ∃ entry ∈ s.outbox, ∃ ack ∈ entry.ackPayload,
          ack.activatesRevision = some r'.credentialRevision ∧ ack.commandId = r'.commandId := by
        by_contra hno
        refine hwait ⟨fun hex => absurd hex hno, fun hsome => ?_⟩
        rw [hrec] at hsome
        cases hsome
      obtain ⟨entry, hentry, ack, hmem, -⟩ := hack
      obtain ⟨e', rfl⟩ := StoredOutbound.mem_ackPayload.1 hmem
      exact not_publishable_of_next hnext hentry trivial
  have hout : s.outbox = [] := by
    refine List.eq_nil_iff_forall_not_mem.2 ?_
    intro o ho
    have hnone := reports_eq_zero.1 hreports o ho
    cases o with
    | ack e p => exact not_publishable_of_next hnext ho trivial
    | reportBlocked e r => cases hnone
    | reportReady e r => cases hnone
  refine ⟨?_, hout, ?_, hrec⟩
  · refine phase_eq_idle ?_ ?_
    · rw [StateV1.blocked, hout, List.filterMap_nil]
    · rw [StateV1.ready, hout, List.filterMap_nil]
  · rcases hp : s.pendingInbound with _ | p
    · rfl
    · have hone := h.consistent.pending_iff.1 (by rw [hp]; rfl)
      omega

/-- What is in the outbox was put there by an operation, and an operation checks the expiry. -/
theorem Sound.Settling.expires (h : Sound.Settling pki d) (ha : d.agent = some a) (hout : a.state.outbox ≠ []) :
    0 < a.state.current.expiresAt :=
  (h.sound.memory a ha).1.expires (.inr fun hnil => hout ((h.worked _ (standing_agent ha)).journal hnil))

theorem outbox_ne_nil_of_reports (h : s.reports = 1) : s.outbox ≠ [] := by
  intro hnil
  unfold StateV1.reports at h
  rw [hnil] at h
  cases h

theorem confirmed_length {s : StateV1} (h : s.Consistent) {entry : StoredOutbound} (he : entry ∈ s.outbox) :
    (s.confirmed entry).outbox.length + 1 = s.outbox.length := by
  obtain ⟨before, after, hsplit, hrest⟩ := h.confirmed_outbox he
  rw [hsplit, hrest]
  simp only [List.length_append, List.length_cons]
  omega

/-- **One step goes through and leaves less to do.** -/
theorem Sound.Settling.settle (h : Sound.Settling pki d) (ha : d.agent = some a) :
    a.settle = .ok none ∧ a.state.AtRest ∨
    ∃ call s', a.settle = .ok (some call) ∧ (d.step pki (.call call clean)).1 = some (.ok .done) ∧
      (d.step pki (.call call clean)).2.agent = some { a with state := s' } ∧ s'.weight < a.state.weight := by
  have hcoh := (h.sound.memory a ha).1.coherent
  have hworked := h.worked _ (standing_agent ha)
  rcases hrec : a.state.reconnectRevision with _ | revision
  · have hrevision : a.reconnectRevision = .ok none := by
      unfold Running.reconnectRevision
      rw [hrec]
    by_cases hset : a.pendingInboundSettled = true
    · have hsettle : a.settle = .ok (a.nextOutbound.map fun fact => .confirmOutbound fact.eventId) := by
        unfold Running.settle
        rw [hrevision]
        exact if_pos hset
      rcases hnext : a.state.nextOutbound with _ | f
      · refine .inl ⟨?_, hcoh.atRest hrec hset hnext⟩
        rw [hsettle, Running.nextOutbound, hnext]
        rfl
      · refine .inr ?_
        obtain ⟨o, ho, he, hpub⟩ := nextOutbound_publishable hnext
        obtain ⟨hb, hready⟩ := publishable_iff.1 hpub
        obtain ⟨hr, hagent⟩ := h.sound.step_confirm ha (h.expires ha (List.ne_nil_of_mem ho)) ho hb hready
        refine ⟨.confirmOutbound o.eventId, _, ?_, hr, hagent, ?_⟩
        · rw [hsettle, Running.nextOutbound, hnext, he]
          rfl
        · have hlen := confirmed_length hcoh.consistent ho
          unfold StateV1.weight
          split <;> split <;> split <;> split <;> omega
    · refine .inr ?_
      have hne : a.state.pendingInbound ≠ none := by
        intro hnone
        apply hset
        unfold Running.pendingInboundSettled
        rw [hnone]
        rfl
      obtain ⟨p, hp⟩ := Option.ne_none_iff_exists'.1 hne
      have hone := hcoh.consistent.pending_iff.1 (by rw [hp]; rfl)
      obtain ⟨hr, hagent⟩ := h.sound.step_absent ha (h.expires ha (outbox_ne_nil_of_reports hone)) hp
      refine ⟨.markPendingInboundAbsent, _, ?_, hr, hagent, ?_⟩
      · unfold Running.settle
        rw [hrevision]
        exact if_neg hset
      · unfold Running.pendingInboundSettled at hset
        unfold StateV1.weight
        rw [if_neg hset]
        simp
  · refine .inr ?_
    obtain ⟨hone, hcurrent⟩ := hcoh.consistent.reconnect revision hrec
    have hrange : 0 < revision ∧ revision ≤ u64Max := by
      rw [hcurrent]
      exact ⟨hcoh.consistent.credentialRevision_pos, hworked.revision⟩
    obtain ⟨hr, hagent⟩ := h.sound.step_reconnect ha (h.expires ha (outbox_ne_nil_of_reports hone))
      (show a.state.reconnectRevision = some (⟨revision, hrange⟩ : NonZeroU64).1 from hrec)
    refine ⟨.markCurrentCredentialConnected ⟨revision, hrange⟩, _, ?_, hr, hagent, ?_⟩
    · have hrevision : a.reconnectRevision = .ok (some ⟨revision, hrange⟩) := by
        unfold Running.reconnectRevision
        rw [hrec]
        show ((NonZeroU64.tryFrom revision).map some).mapError _ = _
        rw [NonZeroU64.tryFrom_eq_ok.2 (show (⟨revision, hrange⟩ : NonZeroU64).1 = revision from rfl)]
        rfl
      unfold Running.settle
      rw [hrevision]
      rfl
    · unfold StateV1.weight
      rw [hrec, List.length_map]
      simp

/-- A blocked report cannot be confirmed: without it the pending delivery has no report. -/
theorem StateV1.Coherent.confirmed_blocked (h : s.Coherent) {o : StoredOutbound} (ho : o ∈ s.outbox) {r : StoredReport}
    (hr : r ∈ o.blockedPayload) : (s.confirmed o).validate ≠ .ok () := by
  intro hv
  obtain ⟨hc, -⟩ := validate_eq_ok.1 hv
  have hrep := blockedPayload_reportPayload hr
  obtain ⟨-, p, hp, -⟩ := h.report o ho r hrep
  have hpending : (s.confirmed o).pendingInbound = some p := by
    cases o with
    | ack e a => cases hr
    | reportReady e r => cases hr
    | reportBlocked e r => exact hp
  have hone := hc.pending_iff.1 (by rw [hpending]; rfl)
  obtain ⟨before, after, hsplit, hrest⟩ := h.consistent.confirmed_outbox ho
  have hle := h.consistent.reports_le
  unfold StateV1.reports at hone hle
  rw [hsplit, List.countP_append, List.countP_cons, if_pos (by rw [Option.mem_def.1 hrep]; rfl)] at hle
  rw [hrest, List.countP_append] at hone
  omega

/-- **What can be confirmed**: exactly the entries that may be published.  Anything else is refused, and nothing
changes. -/
theorem Sound.Settling.confirm (h : Sound.Settling pki d) (ha : d.agent = some a) (event : String) :
    ((∃ o ∈ a.state.outbox, o.eventId = event ∧ a.state.Publishable o) →
      (d.step pki (.call (.confirmOutbound event) clean)).1 = some (.ok .done)) ∧
    ((¬ ∃ o ∈ a.state.outbox, o.eventId = event ∧ a.state.Publishable o) →
      ∃ e, d.step pki (.call (.confirmOutbound event) clean) = (some (.err e), d)) := by
  have hcoh := (h.sound.memory a ha).1.coherent
  constructor
  · rintro ⟨o, ho, rfl, hpub⟩
    obtain ⟨hb, hready⟩ := publishable_iff.1 hpub
    exact (h.sound.step_confirm ha (h.expires ha (List.ne_nil_of_mem ho)) ho hb hready).1
  · intro hno
    rcases hc : a.state.confirmOutbound event with _ | c
    · refine ⟨.unknownOutbound, Sound.step_error ha ?_ clean⟩
      show planChange a.state (·.confirmOutbound event) .unknownOutbound = .error .unknownOutbound
      unfold planChange
      dsimp only
      rw [hc]
    · obtain ⟨o, ho, he, hready, rfl⟩ := confirmOutbound_eq_some hc
      -- the entry is there and may not be published, so it is a blocked report
      have hblocked : ∃ r, r ∈ o.blockedPayload := by
        cases o with
        | ack e p => exact absurd ⟨_, ho, he, trivial⟩ hno
        | reportBlocked e r => exact ⟨r, rfl⟩
        | reportReady e r => exact absurd ⟨_, ho, he, hready rfl⟩ hno
      obtain ⟨r, hr⟩ := hblocked
      refine ⟨.store .invalidState, ?_⟩
      have hp : plan pki a.retention a.state (.confirmOutbound event) = .ok (.store (a.state.confirmed o) .done) := by
        rw [plan, planChange_eq_ok]
        exact ⟨_, hc, rfl⟩
      rw [Device.step_call ha, perform_eq]
      show Device.afterCall a ((plan pki a.retention a.state (.confirmOutbound event)).execute clean
        ⟨d.tree, a.state⟩) = _
      rw [hp, execute_store_invalid clean (hcoh.confirmed_blocked ho hr)]
      show (some (Outcome.err (AgentError.store .invalidState)), Device.mk d.tree (some a)) = _
      rw [← ha]

end Step

/-! ### All the steps -/

section Steps

variable {pki : Pki} {d : Device} {a : Running}

/-- One step of the device, and what is left to do after it. -/
theorem Sound.Settling.settle_device (h : Sound.Settling pki d) (ha : d.agent = some a) :
    ((d.settle pki).1 = none ∨ (d.settle pki).1 = some (.ok .done)) ∧ Sound.Settling pki (d.settle pki).2 ∧
    ∃ a', (d.settle pki).2.agent = some a' ∧ (a'.state.weight < a.state.weight ∨ a' = a ∧ a.state.AtRest) := by
  unfold Device.settle
  rw [ha]
  dsimp only
  rcases h.settle ha with ⟨hsettle, hrest⟩ | ⟨call, s', hsettle, hr, hagent, hlt⟩
  · rw [hsettle]
    exact ⟨.inl rfl, h, a, ha, .inr ⟨rfl, hrest⟩⟩
  · rw [hsettle]
    exact ⟨.inr hr, h.step _, _, hagent, .inl hlt⟩

theorem Sound.Settling.settled (h : Sound.Settling pki d) (ha : d.agent = some a) (n : ℕ) :
    Sound.Settling pki (d.settled pki n) ∧ ∃ a', (d.settled pki n).agent = some a' ∧
      (a'.state.weight + n ≤ a.state.weight ∨ a'.state.AtRest) := by
  induction n with
  | zero => exact ⟨h, a, ha, .inl le_rfl⟩
  | succ n ih =>
    obtain ⟨hn, a', ha', hor⟩ := ih
    obtain ⟨-, hnext, a'', ha'', hstep⟩ := hn.settle_device ha'
    refine ⟨hnext, a'', ha'', ?_⟩
    rcases hstep with hlt | ⟨rfl, hrest⟩
    · rcases hor with hle | hrest
      · exact .inl (by omega)
      · -- a device at rest has nothing left to lose
        have hzero : a'.state.weight = 0 := by
          unfold StateV1.weight
          rw [hrest.outbox, hrest.pendingInbound, hrest.reconnectRevision]
          rfl
        omega
    · exact .inr hrest

end Steps

/-- **No state is wedged.**  From every reachable state the steps go through without an error, and after finitely many
of them the device is at rest.  On the way exactly what may be published can be confirmed. -/
theorem no_wedged_state (pki : Pki) (actions : List Action) {a : Running}
    (ha : (Device.fresh.run pki actions).agent = some a) :
    (∀ n, (((Device.fresh.run pki actions).settled pki n).settle pki).1 = none ∨
      (((Device.fresh.run pki actions).settled pki n).settle pki).1 = some (.ok .done)) ∧
    (∃ n a', ((Device.fresh.run pki actions).settled pki n).agent = some a' ∧ a'.state.AtRest) ∧
    ∀ n, ∃ a', ((Device.fresh.run pki actions).settled pki n).agent = some a' ∧ ∀ event,
      ((∃ o ∈ a'.state.outbox, o.eventId = event ∧ a'.state.Publishable o) →
        (((Device.fresh.run pki actions).settled pki n).step pki (.call (.confirmOutbound event) clean)).1 =
          some (.ok .done)) ∧
      ((¬ ∃ o ∈ a'.state.outbox, o.eventId = event ∧ a'.state.Publishable o) →
        ∃ e, ((Device.fresh.run pki actions).settled pki n).step pki (.call (.confirmOutbound event) clean) =
          (some (.err e), (Device.fresh.run pki actions).settled pki n)) := by
  have h := settling_run pki actions
  refine ⟨?_, ?_, ?_⟩
  · intro n
    obtain ⟨hn, a', ha', -⟩ := h.settled ha n
    exact (hn.settle_device ha').1
  · obtain ⟨-, a', ha', hor⟩ := h.settled ha (a.state.weight + 1)
    exact ⟨_, a', ha', hor.resolve_left (by omega)⟩
  · intro n
    obtain ⟨hn, a', ha', -⟩ := h.settled ha n
    exact ⟨a', ha', hn.confirm ha'⟩

open Fixture in
/-- A rotation that has just begun comes to its end. -/
theorem no_wedged_state_rotation : ∃ a, (Device.fresh.run Fixture.pki [start, .call (apply 0 now) clean]).agent = some a ∧
    a.state.outbox ≠ [] ∧ ∃ n a', ((Device.fresh.run Fixture.pki [start, .call (apply 0 now) clean]).settled
      Fixture.pki n).agent = some a' ∧ a'.state.AtRest := by
  obtain ⟨artifact, ha⟩ := run_apply
  exact ⟨_, ha, List.cons_ne_nil _ _, (no_wedged_state Fixture.pki _ ha).2.1⟩

end RssIncubator.Agent
