import RssIncubator.Agent.Reachable

/-!
# The phases of a rotation

A coherent document is in exactly one of four phases.  An accepted command starts a rotation; the
confirmation of its acknowledgement asks for a new session, the new session releases the report, and the
confirmation of the report ends the rotation.  No other operation leaves its phase.
-/

namespace RssIncubator.Agent

open Lib StateV1 StoredOutbound

/-- The payload of a report that may be published. -/
def StoredOutbound.readyPayload : StoredOutbound → Option StoredReport
  | .reportReady _ payload => some payload
  | _ => none

/-- The payload of an acknowledgement that activates a revision. -/
def StoredOutbound.activatingPayload (o : StoredOutbound) : Option StoredAck :=
  o.ackPayload.filter fun payload => payload.activatesRevision.isSome

inductive Phase where
  | idle
  | awaitAck
  | awaitReconnect
  | reportReady
  deriving DecidableEq

namespace StateV1

def blocked (s : StateV1) : List StoredReport := s.outbox.filterMap blockedPayload

def ready (s : StateV1) : List StoredReport := s.outbox.filterMap readyPayload

def activating (s : StateV1) : List StoredAck := s.outbox.filterMap activatingPayload

/-- A report is that of the pending delivery and of the current credential. -/
structure Describes (s : StateV1) (r : StoredReport) : Prop where
  pending : ∃ p ∈ s.pendingInbound, p.commandId = r.commandId
  desiredGeneration : r.observedGeneration = s.current.desiredGeneration
  fenceEpoch : r.fenceEpoch = s.current.fenceEpoch
  credentialRevision : r.credentialRevision = s.current.credentialRevision
  artifactDigest : r.artifactDigest = s.current.artifactDigest
  credentialGeneration : r.credentialGeneration = s.identity.credentialGeneration

def InPhase (s : StateV1) : Phase → Prop
  | .idle => s.blocked = [] ∧ s.ready = [] ∧ s.activating = [] ∧ s.pendingInbound = none ∧
      s.reconnectRevision = none
  | .awaitAck => ∃ r a, s.blocked = [r] ∧ s.ready = [] ∧ s.activating = [a] ∧
      a.activatesRevision = some s.current.credentialRevision ∧ a.commandId = r.commandId ∧
      s.reconnectRevision = none ∧ s.Describes r
  | .awaitReconnect => ∃ r, s.blocked = [r] ∧ s.ready = [] ∧ s.activating = [] ∧
      s.reconnectRevision = some s.current.credentialRevision ∧ s.Describes r
  | .reportReady => ∃ r, s.blocked = [] ∧ s.ready = [r] ∧ s.activating = [] ∧ s.reconnectRevision = none ∧
      s.Describes r

/-- The phase of a document. -/
def phase (s : StateV1) : Phase :=
  if s.blocked = [] then (if s.ready = [] then .idle else .reportReady)
  else if s.reconnectRevision = none then .awaitAck else .awaitReconnect

variable {s s' : StateV1}

/-- A document in a phase is in no other. -/
theorem InPhase.eq_phase {p : Phase} (h : s.InPhase p) : p = s.phase := by
  cases p with
  | idle =>
    obtain ⟨hb, hr, -, -, -⟩ := h
    simp [phase, hb, hr]
  | awaitAck =>
    obtain ⟨r, a, hb, -, -, -, -, hrec, -⟩ := h
    simp [phase, hb, hrec]
  | awaitReconnect =>
    obtain ⟨r, hb, -, -, hrec, -⟩ := h
    simp [phase, hb, hrec]
  | reportReady =>
    obtain ⟨r, hb, hr, -, -, -⟩ := h
    simp [phase, hb, hr]

/-! ### The three lists -/

/-- A list with one image. -/
theorem filterMap_eq_singleton {α β : Type} {l : List α} {f : α → Option β} {x : α} {b : β} (hnd : l.Nodup)
    (hx : x ∈ l) (hb : f x = some b) (hone : ∀ y ∈ l, f y ≠ none → y = x) : l.filterMap f = [b] := by
  obtain ⟨l₁, l₂, rfl⟩ := List.append_of_mem hx
  obtain ⟨h1, h2, h12⟩ := List.nodup_append.1 hnd
  have hx1 : x ∉ l₁ := fun h => h12 x h x (by simp) rfl
  have hx2 : x ∉ l₂ := (List.nodup_cons.1 h2).1
  have hnone1 : l₁.filterMap f = [] := by
    refine List.filterMap_eq_nil_iff.2 fun y hy => ?_
    by_contra hne
    exact hx1 (hone y (by simp [hy]) hne ▸ hy)
  have hnone2 : l₂.filterMap f = [] := by
    refine List.filterMap_eq_nil_iff.2 fun y hy => ?_
    by_contra hne
    exact hx2 (hone y (by simp [hy]) hne ▸ hy)
  rw [List.filterMap_append, List.filterMap_cons_some hb, hnone1, hnone2]
  rfl

/-- The reports are the blocked and the ready ones. -/
theorem reports_eq : s.reports = s.blocked.length + s.ready.length := by
  unfold reports blocked ready
  induction s.outbox with
  | nil => rfl
  | cons o l ih =>
    rw [List.countP_cons, ih]
    cases o <;> simp [List.filterMap_cons, reportPayload, blockedPayload, readyPayload] <;> omega

theorem mem_activating {a : StoredAck} :
    a ∈ s.activating ↔ ∃ o ∈ s.outbox, a ∈ o.ackPayload ∧ a.activatesRevision.isSome := by
  unfold activating activatingPayload
  simp [List.mem_filterMap, Option.filter_eq_some_iff]

theorem mem_blocked {r : StoredReport} : r ∈ s.blocked ↔ ∃ o ∈ s.outbox, r ∈ o.blockedPayload := by
  simp [blocked, List.mem_filterMap]

theorem blockedPayload_reportPayload {o : StoredOutbound} {r : StoredReport} (h : r ∈ o.blockedPayload) :
    r ∈ o.reportPayload := by cases o <;> simp_all [blockedPayload, reportPayload]

theorem readyPayload_reportPayload {o : StoredOutbound} {r : StoredReport} (h : r ∈ o.readyPayload) :
    r ∈ o.reportPayload := by cases o <;> simp_all [readyPayload, reportPayload]

theorem mem_ready {r : StoredReport} : r ∈ s.ready ↔ ∃ o ∈ s.outbox, r ∈ o.readyPayload := by
  simp [ready, List.mem_filterMap]

/-- An acknowledgement that activates a revision waits with its report. -/
theorem Consistent.activating_blocked (h : s.Consistent) {a : StoredAck} (ha : a ∈ s.activating) :
    a.activatesRevision = some s.current.credentialRevision ∧ s.reconnectRevision = none ∧
      ∃ r ∈ s.blocked, r.commandId = a.commandId := by
  obtain ⟨o, ho, hao, hact⟩ := mem_activating.1 ha
  obtain ⟨e, rfl⟩ := mem_ackPayload.1 hao
  obtain ⟨revision, hrev⟩ := Option.isSome_iff_exists.1 hact
  obtain ⟨hcur, ⟨o', ho', r, hr, -, hid⟩, hrec⟩ := h.phases _ ho revision hrev
  exact ⟨hcur ▸ hrev, hrec, r, mem_blocked.2 ⟨o', ho', hr⟩, hid⟩

theorem Consistent.nodup_outbox (h : s.Consistent) : s.outbox.Nodup := h.eventIds.of_map

/-- An acknowledgement that activates a revision goes out under the event of the command of the blocked report. -/
theorem Coherent.activating_eventId (h : s.Coherent) {o : StoredOutbound} (ho : o ∈ s.outbox)
    (ha : o.activatingPayload ≠ none) : ∃ r ∈ s.blocked, o.eventId = Agent.eventId .ack r.commandId := by
  obtain ⟨a, ha⟩ := Option.ne_none_iff_exists'.1 ha
  obtain ⟨hao, hact⟩ := Option.filter_eq_some_iff.1 ha
  obtain ⟨-, -, r, hr, hid⟩ := h.consistent.activating_blocked (mem_activating.2 ⟨o, ho, hao, hact⟩)
  obtain ⟨hev, hval⟩ := h.consistent.ack_eventId ho hao
  refine ⟨r, hr, ?_⟩
  rcases h.acks o ho a hao with hord | ⟨-, -, -, hrej⟩
  · rw [hev, ackEvent_ordinary hord, hid]
  · -- a rejection activates nothing
    obtain ⟨-, -, -, -, -, -, -, hshape⟩ := hval
    obtain ⟨n, hn⟩ := Option.isSome_iff_exists.1 hact
    simp [StoredAck.Shape, hrej, hn] at hshape

/-- Two acknowledgements that activate a revision are one. -/
theorem Coherent.activating_unique (h : s.Coherent) (hb : s.blocked.length ≤ 1) {o o' : StoredOutbound}
    (ho : o ∈ s.outbox) (ho' : o' ∈ s.outbox) (ha : o.activatingPayload ≠ none) (ha' : o'.activatingPayload ≠ none) :
    o = o' := by
  -- both are acknowledgements of the command of the one blocked report
  obtain ⟨r, hr, he⟩ := h.activating_eventId ho ha
  obtain ⟨r', hr', he'⟩ := h.activating_eventId ho' ha'
  have hrr : r = r' := by
    obtain ⟨x, hx⟩ : ∃ x, s.blocked = [x] := by
      refine List.length_eq_one_iff.1 (le_antisymm hb ?_)
      exact List.length_pos_of_mem hr
    rw [hx, List.mem_singleton] at hr hr'
    rw [hr, hr']
  exact h.consistent.outbox_unique ho ho' (by rw [he, he', hrr])

theorem Coherent.describes (h : s.Coherent) {o : StoredOutbound} (ho : o ∈ s.outbox) {r : StoredReport}
    (hr : r ∈ o.reportPayload) : s.Describes r := by
  obtain ⟨hgen, hp⟩ := h.report o ho r hr
  obtain ⟨-, h1, h2, h3, h4⟩ := (h.consistent.entries o ho).current r hr
  exact ⟨hp, h2, h3, h1, h4, hgen⟩

/-! ### Every coherent document is in its phase -/

theorem Coherent.inPhase_blocked (h : s.Coherent) {r : StoredReport} (hb : s.blocked = [r]) (hr : s.ready = []) :
    s.InPhase s.phase := by
  have hmem : r ∈ s.blocked := by rw [hb]; simp
  obtain ⟨o, ho, hor⟩ := mem_blocked.1 hmem
  have hdesc := h.describes ho (blockedPayload_reportPayload hor)
  obtain ⟨e, rfl⟩ : ∃ e, o = .reportBlocked e r := by cases o <;> simp_all [blockedPayload]
  obtain ⟨hxor, hrev⟩ := h.consistent.phases _ ho
  rcases hrec : s.reconnectRevision with _ | revision
  · -- no marker: the acknowledgement is still there
    have hphase : s.phase = .awaitAck := by simp [phase, hb, hrec]
    rw [hphase]
    rw [hrec] at hxor
    have hex : ∃ entry ∈ s.outbox, ∃ ack ∈ entry.ackPayload,
        ack.activatesRevision = some r.credentialRevision ∧ ack.commandId = r.commandId := by
      by_contra hno
      exact hxor ⟨fun h => absurd h hno, fun h => by cases h⟩
    obtain ⟨o, ho', a, ha, hact, hid⟩ := hex
    have hpay : o.activatingPayload = some a := Option.filter_eq_some_iff.2 ⟨ha, by rw [hact]; rfl⟩
    refine ⟨r, a, hb, hr, ?_, hdesc.credentialRevision ▸ hact, hid, hrec, hdesc⟩
    refine filterMap_eq_singleton h.consistent.nodup_outbox ho' hpay ?_
    intro o' ho'' hne
    exact h.activating_unique (by rw [hb]; simp) ho'' ho' hne (by simp [hpay])
  · have hphase : s.phase = .awaitReconnect := by simp [phase, hb, hrec]
    rw [hphase]
    refine ⟨r, hb, hr, ?_, ?_, hdesc⟩
    · refine List.eq_nil_iff_forall_not_mem.2 fun a ha => ?_
      obtain ⟨-, hnone, -⟩ := h.consistent.activating_blocked ha
      rw [hrec] at hnone
      cases hnone
    · rw [hrec, (h.consistent.reconnect revision (by rw [hrec]; rfl)).2]

theorem Coherent.inPhase (h : s.Coherent) : s.InPhase s.phase := by
  have hle := h.consistent.reports_le
  rw [reports_eq] at hle
  -- without a blocked report nothing is activated and no marker is set
  have hact : s.blocked = [] → s.activating = [] := by
    intro hb
    refine List.eq_nil_iff_forall_not_mem.2 fun a ha => ?_
    obtain ⟨-, -, r, hr, -⟩ := h.consistent.activating_blocked ha
    rw [hb] at hr
    cases hr
  rcases hb : s.blocked with _ | ⟨r, _ | ⟨r', l⟩⟩
  · rcases hr : s.ready with _ | ⟨r, _ | ⟨r', l⟩⟩
    · have hphase : s.phase = .idle := by simp [phase, hb, hr]
      have hzero : s.reports = 0 := by rw [reports_eq, hb, hr]; rfl
      rw [hphase]
      refine ⟨hb, hr, hact hb, ?_, ?_⟩
      · have hno := h.consistent.pending_iff
        rw [hzero] at hno
        simpa using hno
      · rw [Option.eq_none_iff_forall_not_mem]
        intro revision hm
        have := (h.consistent.reconnect revision hm).1
        omega
    · have hphase : s.phase = .reportReady := by simp [phase, hb, hr]
      have hmem : r ∈ s.ready := by rw [hr]; simp
      obtain ⟨o, ho, hor⟩ := mem_ready.1 hmem
      have hnone : s.reconnectRevision = none := by
        have := h.consistent.phases o ho
        cases o <;> simp_all [readyPayload, PhaseValid]
      rw [hphase]
      exact ⟨r, hb, hr, hact hb, hnone, h.describes ho (readyPayload_reportPayload hor)⟩
    · rw [hb, hr] at hle
      simp at hle
  · rcases hr : s.ready with _ | ⟨r', l⟩
    · exact h.inPhase_blocked hb hr
    · rw [hb, hr] at hle
      simp at hle
  · rw [hb] at hle
    simp at hle
    omega

/-- **Exactly one phase.** -/
theorem Coherent.existsUnique_phase (h : s.Coherent) : ∃! p, s.InPhase p :=
  ⟨s.phase, h.inPhase, fun _ hp => hp.eq_phase⟩

/-! ### What the transitions do to the lists -/

theorem Consistent.confirmed_outbox (h : s.Consistent) {entry : StoredOutbound} (he : entry ∈ s.outbox) :
    ∃ l₁ l₂, s.outbox = l₁ ++ entry :: l₂ ∧ (s.confirmed entry).outbox = l₁ ++ l₂ := by
  obtain ⟨o, l₁, l₂, -, ho, hsplit, herase⟩ := List.exists_of_eraseP (p := fun other => other.eventId = entry.eventId)
    he (by simp)
  have hmem : o ∈ s.outbox := by rw [hsplit]; simp
  obtain rfl := h.outbox_unique hmem he (by simpa using ho)
  exact ⟨l₁, l₂, hsplit, herase⟩

/-- The phase is read off the reports and the marker. -/
theorem phase_congr (hb : s'.blocked = s.blocked) (hr : s'.ready = s.ready)
    (hrec : s'.reconnectRevision = s.reconnectRevision) : s'.phase = s.phase := by
  unfold phase
  rw [hb, hr, hrec]

theorem phase_of_ack {e : String} {a : StoredAck} (hout : s'.outbox = s.outbox ++ [.ack e a])
    (hrec : s'.reconnectRevision = s.reconnectRevision) : s'.phase = s.phase := by
  refine phase_congr ?_ ?_ hrec
  · unfold blocked
    rw [hout, List.filterMap_append, List.filterMap_cons_none rfl, List.filterMap_nil, List.append_nil]
  · unfold ready
    rw [hout, List.filterMap_append, List.filterMap_cons_none rfl, List.filterMap_nil, List.append_nil]

theorem phase_eq_idle (hb : s.blocked = []) (hr : s.ready = []) : s.phase = .idle := by simp [phase, hb, hr]

theorem phase_eq_awaitAck (hb : s.blocked ≠ []) (hrec : s.reconnectRevision = none) : s.phase = .awaitAck := by
  simp [phase, hb, hrec]

theorem phase_eq_reportReady (hb : s.blocked = []) (hr : s.ready ≠ []) : s.phase = .reportReady := by
  simp [phase, hb, hr]

theorem phase_accepted {previous : DeviceIdentity} {c : AcceptedCommand} {now : ℕ} (hrec : s.reconnectRevision = none) :
    ((s.expireCommandJournal now).accepted previous c).phase = .awaitAck := by
  refine phase_eq_awaitAck ?_ hrec
  simp [blocked, StateV1.accepted, List.filterMap_append, blockedPayload]

theorem Coherent.phase_idle (h : s.Coherent) (hflight : s.rotationInFlight = false) : s.InPhase .idle := by
  have hzero := reports_eq_zero.2 (rotationInFlight_eq_false.1 hflight)
  rw [reports_eq] at hzero
  have hphase : s.phase = .idle :=
    phase_eq_idle (List.length_eq_zero_iff.1 (by omega)) (List.length_eq_zero_iff.1 (by omega))
  exact hphase ▸ h.inPhase

end StateV1

/-- How an operation that answers `reply` may change the phase. -/
inductive Turn : Call → Reply → Phase → Phase → Prop
  | keep {call reply} (p : Phase) : Turn call reply p p
  | accept {topic command now catalog} :
      Turn (.applyCommand topic command now catalog) (.outcome .accepted) .idle .awaitAck
  | acknowledged {event} : Turn (.confirmOutbound event) .done .awaitAck .awaitReconnect
  | connected {revision} : Turn (.markCurrentCredentialConnected revision) .done .awaitReconnect .reportReady
  | reported {event} : Turn (.confirmOutbound event) .done .reportReady .idle

theorem Turn.of_ack {call : Call} {reply : Reply} {s s' : StateV1} {e : String} {a : StoredAck}
    (hout : s'.outbox = s.outbox ++ [.ack e a]) (hrec : s'.reconnectRevision = s.reconnectRevision) :
    Turn call reply s.phase s'.phase := by
  rw [phase_of_ack hout hrec]
  exact .keep _

namespace StateV1

variable {s s' : StateV1}

/-- Confirming an entry: an acknowledgement may ask for the reconnect, a report ends the rotation. -/
theorem Coherent.turn_confirm (h : s.Coherent) {event : String} (hs : s.confirmOutbound event = some s')
    (hs' : s'.Coherent) : Turn (.confirmOutbound event) .done s.phase s'.phase := by
  obtain ⟨entry, hentry, -, -, rfl⟩ := confirmOutbound_eq_some hs
  obtain ⟨l₁, l₂, hsplit, herase⟩ := h.consistent.confirmed_outbox hentry
  have hle := h.consistent.reports_le
  rw [reports_eq] at hle
  cases entry with
  | ack e a =>
    have hb : (s.confirmed (.ack e a)).blocked = s.blocked := by
      unfold blocked
      rw [hsplit, herase, List.filterMap_append, List.filterMap_append, List.filterMap_cons_none rfl]
    have hr : (s.confirmed (.ack e a)).ready = s.ready := by
      unfold ready
      rw [hsplit, herase, List.filterMap_append, List.filterMap_append, List.filterMap_cons_none rfl]
    rcases hact : a.activatesRevision with _ | revision
    · have hrec : (s.confirmed (.ack e a)).reconnectRevision = s.reconnectRevision := by
        simp [confirmed, ackPayload, hact]
      rw [phase_congr hb hr hrec]
      exact .keep _
    · obtain ⟨-, hrec, r, hr, -⟩ := h.consistent.activating_blocked
        (mem_activating.2 ⟨_, hentry, rfl, by rw [hact]; rfl⟩)
      have hne : s.blocked ≠ [] := List.ne_nil_of_mem hr
      rw [phase_eq_awaitAck hne hrec]
      unfold phase
      rw [hb, if_neg hne]
      split_ifs
      · exact .keep _
      · exact .acknowledged
  | reportBlocked e r =>
    -- the pending delivery would be left without its report
    exfalso
    have hone : s.reports = 1 := le_antisymm h.consistent.reports_le (reports_pos hentry (r := r) rfl)
    have hpend : (s.confirmed (.reportBlocked e r)).pendingInbound.isSome := h.consistent.pending_iff.2 hone
    have hone' := hs'.consistent.pending_iff.1 hpend
    unfold reports at hone hone'
    rw [hsplit] at hone
    rw [herase] at hone'
    simp [reportPayload] at hone hone'
    omega
  | reportReady e r =>
    have hr : s.ready = l₁.filterMap readyPayload ++ r :: l₂.filterMap readyPayload := by
      have hpay : readyPayload (.reportReady e r) = some r := rfl
      unfold ready
      rw [hsplit, List.filterMap_append, List.filterMap_cons_some hpay]
    have hb : (s.confirmed (.reportReady e r)).blocked = s.blocked := by
      unfold blocked
      rw [hsplit, herase, List.filterMap_append, List.filterMap_append, List.filterMap_cons_none rfl]
    have hr' : (s.confirmed (.reportReady e r)).ready = l₁.filterMap readyPayload ++ l₂.filterMap readyPayload := by
      unfold ready
      rw [herase, List.filterMap_append]
    have hlen := congrArg List.length hr
    have hlen' := congrArg List.length hr'
    simp only [List.length_append, List.length_cons] at hlen hlen'
    have hnil : s.blocked = [] := List.length_eq_zero_iff.1 (by omega)
    have hready : s.ready ≠ [] := by rw [hr]; simp
    have hnil' : (s.confirmed (.reportReady e r)).ready = [] := List.length_eq_zero_iff.1 (by omega)
    rw [phase_eq_reportReady hnil hready, phase_eq_idle (hb.trans hnil) hnil']
    exact .reported

theorem Coherent.turn_reconnect (h : s.Coherent) {revision : NonZeroU64} (hs : s.markReconnected revision.1 = some s') :
    Turn (.markCurrentCredentialConnected revision) .done s.phase s'.phase := by
  obtain ⟨hrec, rfl⟩ := markReconnected_eq_some.1 hs
  -- the marker is only set while the report waits for it
  have hphase : s.phase = .awaitReconnect := by
    have hin := h.inPhase
    generalize s.phase = p at hin ⊢
    cases p with
    | idle =>
      obtain ⟨-, -, -, -, hnone⟩ := hin
      rw [hrec] at hnone
      cases hnone
    | awaitAck =>
      obtain ⟨r, a, -, -, -, -, -, hnone, -⟩ := hin
      rw [hrec] at hnone
      cases hnone
    | awaitReconnect => rfl
    | reportReady =>
      obtain ⟨r, -, -, -, hnone, -⟩ := hin
      rw [hrec] at hnone
      cases hnone
  obtain ⟨r, hb, hr, -, -, -⟩ := hphase ▸ h.inPhase
  have hb' : StateV1.blocked { s with outbox := s.outbox.map unblock, reconnectRevision := none } = [] := by
    refine List.filterMap_eq_nil_iff.2 fun o ho => ?_
    obtain ⟨o', -, rfl⟩ := List.mem_map.1 ho
    cases o' <;> rfl
  have hr' : StateV1.ready { s with outbox := s.outbox.map unblock, reconnectRevision := none } ≠ [] := by
    have hmem : r ∈ s.blocked := by rw [hb]; simp
    obtain ⟨o, ho, hor⟩ := mem_blocked.1 hmem
    refine List.ne_nil_of_mem (a := r) (List.mem_filterMap.2 ⟨unblock o, List.mem_map_of_mem ho, ?_⟩)
    cases o <;> simp_all [blockedPayload, readyPayload, unblock]
  rw [hphase, phase_eq_reportReady hb' hr']
  exact .connected

end StateV1

section

variable {pki : Pki} {retention : NonZeroU32} {s c : StateV1} {call : Call} {reply : Reply}

/-- **An operation keeps the phase or goes on to the next one.** -/
theorem Commits.turn (h : Commits pki retention call s c reply) (hs : s.Coherent) :
    Turn call reply s.phase c.phase := by
  have hc := h.coherent hs
  obtain ⟨dec, hp, hcand, -⟩ := h
  cases plan_cases hs.consistent hp with
  | duplicate hd hm hack => cases hcand
  | replay hd hm hack hroom hfind =>
    cases hcand
    exact .of_ack rfl rfl
  | conflicting hd hm hknown => cases hcand
  | conflict hd hm hknown hroom hgen hfence =>
    cases hcand
    exact .of_ack rfl rfl
  | reject hd hm hgen hfence hexpiry hroom hjournal =>
    cases hcand
    exact .of_ack rfl rfl
  | accept hm hflight hid htopic hdevice hdeadline hres hfence hgen hcred hroom hjournal hrev =>
    cases hcand
    have hidle := hs.phase_idle hflight
    rw [← hidle.eq_phase]
    obtain ⟨hb, hr, -, -, hrec⟩ := hidle
    rw [phase_accepted hrec]
    exact .accept
  | confirm h =>
    cases hcand
    exact hs.turn_confirm h hc
  | reconnect h =>
    cases hcand
    exact hs.turn_reconnect h
  | settled h =>
    cases hcand
    obtain ⟨p, -, -, rfl⟩ := markInboundSettled_eq_some h
    exact .keep _
  | absent h =>
    cases hcand
    obtain ⟨p, -, -, rfl⟩ := markInboundSettled_eq_some h
    exact .keep _

end

/-- **The phases of a device**, over every run of operations, drops and openings, whatever fails in between:
the state in memory and the one on disk are each in exactly one phase, and an operation that succeeds keeps
the phase or goes on to the next one. -/
theorem run_phases (pki : Pki) (actions : List Action) :
    (∀ s, manifest (Device.fresh.run pki actions).tree = some s → ∃! p, s.InPhase p) ∧
    ∀ a, (Device.fresh.run pki actions).agent = some a → (∃! p, a.state.InPhase p) ∧
      ∀ call faults reply, ((Device.fresh.run pki actions).step pki (.call call faults)).1 = some (.ok reply) →
        ∃ s', ((Device.fresh.run pki actions).step pki (.call call faults)).2.agent = some { a with state := s' } ∧
          ∀ p p', a.state.InPhase p → s'.InPhase p' → Turn call reply p p' := by
  have hsound := sound_run pki actions
  refine ⟨fun s hs => (hsound.disk s hs).coherent.existsUnique_phase, fun a ha => ?_⟩
  have hmem := (hsound.memory a ha).1.coherent
  refine ⟨hmem.existsUnique_phase, fun call faults reply hr => ?_⟩
  obtain ⟨s', hs', h⟩ := hsound.call_ok ha hr
  refine ⟨s', hs', fun p p' hp hp' => ?_⟩
  rw [hp.eq_phase, hp'.eq_phase]
  rcases h with ⟨rfl, -, -⟩ | ⟨-, hc⟩
  · exact .keep _
  · exact hc.turn hmem

end RssIncubator.Agent
