import RssIncubator.Driver.Changes
import RssIncubator.Driver.Exact
import Mathlib.Data.List.DropRight

/-!
# Durable before PUBACK

A session with a receive maximum of one has at most one delivery that the broker has not seen a PUBACK for: it is held
back behind an unsubscription, or its PUBACK is on its way.  `Tracks` says so, and that the agent has answered the one
that is held and still has on record what it answered.
-/

namespace RssIncubator.Driver

open Agent Lib StateV1

/-! ### Deeds of a session -/

namespace Deed

/-- The delivery that is received. -/
def delivery : Deed → Option CommandDelivery
  | .polled _ (.command delivery) => some delivery
  | _ => none

/-- The delivery whose PUBACK is queued. -/
def puback : Deed → Option CommandDelivery
  | .queued (.ack delivery) => some delivery
  | _ => none

def isOpened : Deed → Bool
  | .opened _ _ => true
  | _ => false

end Deed

/-- The deeds since the last session was opened. -/
def lastSession (deeds : List Deed) : List Deed := deeds.rtakeWhile fun deed => !deed.isOpened

/-- The deliveries received, in their order. -/
def received (deeds : List Deed) : List CommandDelivery := deeds.filterMap Deed.delivery

/-- The deliveries whose PUBACK was queued, in that order. -/
def pubacked (deeds : List Deed) : List CommandDelivery := deeds.filterMap Deed.puback

/-- Deeds that say nothing about deliveries. -/
def Silent (new : List Deed) : Prop := ∀ deed ∈ new, deed.isOpened = false ∧ deed.delivery = none ∧ deed.puback = none

section

variable {deeds new : List Deed}

theorem lastSession_append (h : ∀ deed ∈ new, deed.isOpened = false) : lastSession (deeds ++ new) = lastSession deeds ++ new := by
  induction new using List.reverseRecOn with
  | nil => simp
  | append_singleton new deed ih =>
    have hlast : deed.isOpened = false := h deed (by simp)
    have hrest := ih fun deed hmem => h deed (by simp [hmem])
    unfold lastSession at hrest ⊢
    rw [← List.append_assoc, List.rtakeWhile_concat, hlast, if_pos (by rfl), hrest, List.append_assoc]

theorem lastSession_opened (deeds : List Deed) (driver : SessionDriver) (s : StateV1) :
    lastSession (deeds ++ [.opened driver s]) = [] := List.rtakeWhile_concat_neg _ _ _ (by simp [Deed.isOpened])

theorem silent_nil : Silent [] := fun _ h => by cases h

theorem Silent.append {new' : List Deed} (h : Silent new) (h' : Silent new') : Silent (new ++ new') := by
  intro deed hmem
  rcases List.mem_append.1 hmem with hmem | hmem
  · exact h deed hmem
  · exact h' deed hmem

theorem Silent.received (h : Silent new) : received new = [] := List.filterMap_eq_nil_iff.2 fun deed hmem => (h deed hmem).2.1

theorem Silent.pubacked (h : Silent new) : pubacked new = [] := List.filterMap_eq_nil_iff.2 fun deed hmem => (h deed hmem).2.2

theorem received_append : received (deeds ++ new) = received deeds ++ received new := List.filterMap_append ..

theorem pubacked_append : pubacked (deeds ++ new) = pubacked deeds ++ pubacked new := List.filterMap_append ..

theorem Silent.lastSession (h : Silent new) : lastSession (deeds ++ new) = lastSession deeds ++ new :=
  lastSession_append fun deed hmem => (h deed hmem).1

theorem Questions.silent {new : List Deed} (hq : Questions new) : Silent new := by
  cases hq with
  | none => exact silent_nil
  | asked h => rcases h with rfl | ⟨reply, s', rfl⟩ <;> simp [Silent, Deed.isOpened, Deed.delivery, Deed.puback]

theorem silent_queued {r : Request} (h : ∀ d, r ≠ .ack d) : Silent [.queued r] := by
  intro deed hmem
  obtain rfl := List.mem_singleton.1 hmem
  cases r with
  | ack d => exact absurd rfl (h d)
  | _ => exact ⟨rfl, rfl, rfl⟩

end

/-! ### What is on record for a delivery -/

/-- The agent has answered the delivery in this session, and its document still says so: the command is in the journal,
and if it was accepted, its revision is the current one and the delivery is pending. -/
structure Applied (wire : Wire) (s : StateV1) (deeds : List Deed) (delivery : CommandDelivery) : Prop where
  answered : ∃ earlier packet ambient before reply after later,
    deeds = earlier ++ .polled packet (.command delivery) :: .asked (commandCall wire ambient delivery) before ::
      .answered (commandCall wire ambient delivery) reply after :: later ∧
    (reply = .outcome .accepted → s.current = after.current ∧
      s.current.credentialRevision = before.current.credentialRevision + 1 ∧
      ∃ p, s.pendingInbound = some p ∧ p.topic = delivery.topic ∧ p.commandId = delivery.commandId.expose ∧
        (commandCall wire ambient delivery).delivery.map (·.fingerprint) = some p.fingerprint ∧ p.settled = false)
  journalled : ∃ k ∈ s.commandJournal, k.commandId = delivery.commandId.expose

/-- What a session keeps track of. -/
structure Tracks (wire : Wire) (h : Host) : Prop where
  received : received (lastSession h.deeds) =
    pubacked (lastSession h.deeds) ++ h.driver.state.pendingCommandAck.toList.map Prod.fst
  inflight : h.driver.session.inflight =
    h.driver.state.pendingCommandAck.toList.length + h.driver.session.inboundAcknowledgements.length
  one : h.driver.session.inflight ≤ 1
  held : ∀ delivery token, h.driver.state.pendingCommandAck = some (delivery, token) →
    Applied wire h.agent.state (lastSession h.deeds) delivery

/-- Nothing happens that a session keeps track of. -/
structure Passes (h h' : Host) : Prop where
  held : h'.driver.state.pendingCommandAck = h.driver.state.pendingCommandAck
  acks : h'.driver.session.inboundAcknowledgements = h.driver.session.inboundAcknowledgements
  inflight : h'.driver.session.inflight = h.driver.session.inflight
  deeds : ∃ new, h'.deeds = h.deeds ++ new ∧ Silent new
  state : h.driver.state.pendingCommandAck ≠ none → h'.agent.state.commandJournal = h.agent.state.commandJournal ∧
    h'.agent.state.current = h.agent.state.current ∧
    (h'.agent.state.pendingInbound = h.agent.state.pendingInbound ∨ h.agent.state.pendingSettled = true)

section

variable {pki : Pki} {wire : Wire} {ambient : Ambient} {h h₁ h' : Host}

theorem Applied.mono {s s' : StateV1} {deeds new : List Deed} {delivery : CommandDelivery} (ha : Applied wire s deeds delivery)
    (hjournal : s'.commandJournal = s.commandJournal) (hcur : s'.current = s.current)
    (hpend : s'.pendingInbound = s.pendingInbound ∨ s.pendingSettled = true) : Applied wire s' (deeds ++ new) delivery := by
  obtain ⟨⟨earlier, packet, ambient, before, reply, after, later, rfl, haccept⟩, hnoted⟩ := ha
  refine ⟨⟨earlier, packet, ambient, before, reply, after, later ++ new, by simp, fun hreply => ?_⟩, hjournal ▸ hnoted⟩
  obtain ⟨hafter, hrev, p, hp, htopic, hid, hfp, hset⟩ := haccept hreply
  rw [hcur]
  refine ⟨hafter, hrev, p, ?_, htopic, hid, hfp, hset⟩
  rcases hpend with hpend | hpend
  · rw [hpend, hp]
  · -- the delivery that is held is not settled
    simp [StateV1.pendingSettled, hp, hset] at hpend

theorem Passes.refl (h : Host) : Passes h h := ⟨rfl, rfl, rfl, ⟨[], by simp, silent_nil⟩, fun _ => ⟨rfl, rfl, .inl rfl⟩⟩

theorem Tracks.passes (ht : Tracks wire h) (hp : Passes h h') : Tracks wire h' := by
  obtain ⟨new, hnew, hsilent⟩ := hp.deeds
  refine ⟨?_, ?_, ?_, ?_⟩
  · rw [hnew, hsilent.lastSession, received_append, pubacked_append, hsilent.received, hsilent.pubacked, hp.held,
      List.append_nil, List.append_nil]
    exact ht.received
  · rw [hp.inflight, hp.held, hp.acks]
    exact ht.inflight
  · rw [hp.inflight]
    exact ht.one
  · intro delivery token hheld
    rw [hp.held] at hheld
    obtain ⟨hjournal, hcur, hpend⟩ := hp.state (by rw [hheld]; simp)
    rw [hnew, hsilent.lastSession]
    exact (ht.held delivery token hheld).mono hjournal hcur hpend

theorem Passes.trans {h h₁ h' : Host} (hp : Passes h h₁) (hp' : Passes h₁ h') : Passes h h' := by
  obtain ⟨new, hnew, hsilent⟩ := hp.deeds
  obtain ⟨new', hnew', hsilent'⟩ := hp'.deeds
  refine ⟨hp'.held.trans hp.held, hp'.acks.trans hp.acks, hp'.inflight.trans hp.inflight,
    ⟨new ++ new', by rw [hnew', hnew, List.append_assoc], hsilent.append hsilent'⟩, fun hheld => ?_⟩
  obtain ⟨hj, hc, hpend⟩ := hp.state hheld
  obtain ⟨hj', hc', hpend'⟩ := hp'.state (by rw [hp.held]; exact hheld)
  refine ⟨hj'.trans hj, hc'.trans hc, ?_⟩
  rcases hpend with hpend | hpend
  · rcases hpend' with hpend' | hpend'
    · exact .inl (hpend'.trans hpend)
    · right
      rw [StateV1.pendingSettled, ← hpend]
      exact hpend'
  · exact .inr hpend

theorem passes_set (h : Host) (f : SessionState → SessionState)
    (hf : (f h.driver.state).pendingCommandAck = h.driver.state.pendingCommandAck) : Passes h (h.set f) :=
  ⟨hf, rfl, rfl, ⟨[], by simp [Host.set], silent_nil⟩, fun _ => ⟨rfl, rfl, .inl rfl⟩⟩

theorem passes_sent (h : Host) (r : Request) (note : MqttSession → MqttSession) (hr : ∀ d, r ≠ .ack d)
    (hacks : (note h.driver.session).inboundAcknowledgements = h.driver.session.inboundAcknowledgements)
    (hinflight : (note h.driver.session).inflight = h.driver.session.inflight) : Passes h (h.sent r note) :=
  ⟨rfl, hacks, hinflight, ⟨_, rfl, silent_queued hr⟩, fun _ => ⟨rfl, rfl, .inl rfl⟩⟩

theorem passes_subscribes (h : Host) : Passes h h.subscribes := passes_sent _ _ _ (fun _ h => by cases h) rfl rfl

theorem passes_unsubscribes (h : Host) (topic : String) : Passes h (h.unsubscribes topic) :=
  (passes_sent _ _ _ (fun _ h => by cases h) rfl rfl).trans (passes_set _ _ rfl)

theorem Heads.passes {o : Outcome SessionError (Option SessionCompletion)} (hh : Heads wire h o h') : Passes h h' := by
  cases hh with
  | published hcan hnext hencode =>
    exact (passes_sent _ _ _ (fun _ h => by cases h) rfl rfl).trans (passes_set _ _ rfl)
  | quiet => exact .refl h
  | disconnected => exact passes_sent _ _ _ (fun _ h => by cases h) rfl rfl
  | failed he => exact .refl h

theorem Stops.passes (hs : Stops h h') : Passes h h' := by
  cases hs with
  | unsubscribe hcan => exact (passes_set _ _ rfl).trans (passes_unsubscribes _ _)
  | wait => exact passes_set _ _ rfl

theorem Listens.passes (hl : Listens ambient h h') : Passes h h' := by
  cases hl with
  | recovery hdriver hscope => exact passes_unsubscribes _ _
  | subscribe hdriver hshut hflight hopen => exact passes_subscribes _
  | wait hdriver hno => exact .refl h

theorem Confirms.passes {control : DriverControl} (hc : Confirms ambient h h' control) : Passes h h' := by
  cases hc with
  | exit hrec hsub hset => exact .refl h
  | unsubscribe hrec hset hcan => exact (passes_set _ _ rfl).trans (passes_unsubscribes _ _)
  | ready hrec hno hcan => exact passes_set _ _ rfl
  | subscribe hrec hsub hshut hopen => exact passes_subscribes _
  | idle hrec hno => exact .refl h

theorem Completes.passes {control : DriverControl} (hc : Completes ambient h h' control) : Passes h h' := by
  cases hc with
  | exit hready hset => exact .refl h
  | subscribe hno hflight hshut hopen => exact passes_subscribes _
  | idle hno hclosed => exact .refl h

/-- A change that is no delivery says nothing about the one that is held. -/
theorem Changed.passes {call : Call} {reply : Reply} (hc : Changed pki h call reply h')
    (hstate : h.driver.state.pendingCommandAck ≠ none → h'.agent.state.commandJournal = h.agent.state.commandJournal ∧
      h'.agent.state.current = h.agent.state.current ∧
      (h'.agent.state.pendingInbound = h.agent.state.pendingInbound ∨ h.agent.state.pendingSettled = true)) :
    Passes h h' := by
  refine ⟨by rw [hc.driver], by rw [hc.driver], by rw [hc.driver], ⟨_, hc.deeds, ?_⟩, hstate⟩
  exact Questions.silent (.asked (.inr ⟨reply, _, rfl⟩))

theorem Marks.passes (hm : Marks pki ambient h h') (hg : h.Good pki) : Passes h h' := by
  cases hm with
  | unmarked hrec => exact .refl h
  | marked hrec hask =>
    have hc := hg.ask hask
    refine hc.passes fun _ => ?_
    obtain ⟨-, hs'⟩ := hc.answers.mark
    rw [hs']
    exact ⟨rfl, rfl, .inl rfl⟩

theorem Absents.passes (ha : Absents pki ambient h h') (hg : h.Good pki)
    (hheld : h.driver.state.pendingCommandAck = none) : Passes h h' := by
  cases ha with
  | absent hscope hobs hset hask => exact (hg.ask hask).passes fun hne => absurd hheld hne
  | present hno => exact .refl h

theorem Changed.passes_confirm {event : String} {reply : Reply} (hc : Changed pki h (.confirmOutbound event) reply h') :
    Passes h h' := by
  refine hc.passes fun _ => ?_
  obtain ⟨entry, -, -, hsettled, hs'⟩ := hc.answers.confirm
  rw [hs']
  refine ⟨rfl, rfl, ?_⟩
  by_cases hready : entry.isReportReady = true
  · exact .inr (hsettled hready)
  · exact .inl (if_neg hready)

/-! ### One round -/

/-- A delivery that was held is held still, or its PUBACK is among the new deeds. -/
def Keeps (h h' : Host) (new : List Deed) : Prop := ∀ delivery token,
  h.driver.state.pendingCommandAck = some (delivery, token) →
    h'.driver.state.pendingCommandAck = some (delivery, token) ∨
      h'.driver.state.pendingCommandAck = none ∧ .queued (.ack delivery) ∈ new

/-- The session goes on keeping track, and every PUBACK that is queued is of a delivery on record. -/
structure Pubacks (wire : Wire) (h h' : Host) : Prop where
  tracks : Tracks wire h'
  deeds : ∃ new, h'.deeds = h.deeds ++ new ∧ (∀ deed ∈ new, deed.isOpened = false) ∧
    (∀ pre post delivery, new = pre ++ .queued (.ack delivery) :: post →
      Applied wire h'.agent.state (lastSession (h.deeds ++ pre)) delivery) ∧ Keeps h h' new

theorem Silent.not_ack {new pre post : List Deed} {delivery : CommandDelivery} (hs : Silent new)
    (h : new = pre ++ .queued (.ack delivery) :: post) : False := by
  have hack := (hs (.queued (.ack delivery)) (by rw [h]; simp)).2.2
  cases hack

theorem Tracks.pubacks (ht : Tracks wire h') (hdeeds : ∃ new, h'.deeds = h.deeds ++ new ∧ Silent new)
    (hheld : h'.driver.state.pendingCommandAck = h.driver.state.pendingCommandAck) : Pubacks wire h h' := by
  obtain ⟨new, hnew, hsilent⟩ := hdeeds
  exact ⟨ht, new, hnew, fun deed hmem => (hsilent deed hmem).1, fun _ _ _ h => (hsilent.not_ack h).elim,
    fun _ _ h => .inl (hheld.trans h)⟩

theorem Passes.pubacks (hp : Passes h h') (ht : Tracks wire h) : Pubacks wire h h' :=
  (ht.passes hp).pubacks hp.deeds hp.held

/-- Where a list has the one element of a kind. -/
theorem split_unique {α : Type} {P : α → Prop} {l₁ l₂ pre post : List α} {x y : α} (h₁ : ∀ a ∈ l₁, ¬ P a)
    (h₂ : ∀ a ∈ l₂, ¬ P a) (hy : P y) (h : l₁ ++ x :: l₂ = pre ++ y :: post) : pre = l₁ ∧ y = x := by
  rcases List.append_eq_append_iff.1 h with ⟨mid, rfl, hmid⟩ | ⟨mid, rfl, hmid⟩
  · cases mid with
    | nil =>
      cases hmid
      exact ⟨by simp, rfl⟩
    | cons a mid =>
      have hmem : y ∈ l₂ := by
        rw [List.cons_append, List.cons.injEq] at hmid
        rw [hmid.2]
        simp
      exact absurd hy (h₂ y hmem)
  · cases mid with
    | nil =>
      cases hmid
      exact ⟨by simp, rfl⟩
    | cons a mid =>
      have hmem : y ∈ pre ++ a :: mid := by
        rw [List.cons_append, List.cons.injEq] at hmid
        rw [hmid.1]
        simp
      exact absurd hy (h₁ y hmem)

/-- The one PUBACK among deeds that are silent otherwise. -/
theorem puback_unique (l₁ l₂ : List Deed) {pre post : List Deed} {d delivery : CommandDelivery}
    (h₁ : ∀ deed ∈ l₁, deed.puback = none) (h₂ : ∀ deed ∈ l₂, deed.puback = none)
    (h : l₁ ++ .queued (.ack d) :: l₂ = pre ++ .queued (.ack delivery) :: post) :
    pre = l₁ ∧ delivery = d := by
  obtain ⟨hpre, hdeed⟩ := split_unique (P := fun deed => deed.puback ≠ none) (fun a ha => not_not.2 (h₁ a ha))
    (fun a ha => not_not.2 (h₂ a ha)) (by simp [Deed.puback]) h
  refine ⟨hpre, ?_⟩
  cases hdeed
  rfl

theorem Pubacks.passes (hp : Pubacks wire h h₁) (hpass : Passes h₁ h') (hagent : h'.agent = h₁.agent) : Pubacks wire h h' := by
  obtain ⟨new, hnew, hopened, hacks, hkeeps⟩ := hp.deeds
  obtain ⟨new', hnew', hsilent⟩ := hpass.deeds
  refine ⟨hp.tracks.passes hpass, new ++ new', by rw [hnew', hnew, List.append_assoc], ?_, ?_, ?_⟩
  · intro deed hmem
    rcases List.mem_append.1 hmem with hmem | hmem
    · exact hopened deed hmem
    · exact (hsilent deed hmem).1
  · intro pre post delivery h
    rw [hagent]
    rcases List.append_eq_append_iff.1 h with ⟨mid, rfl, hmid⟩ | ⟨mid, rfl, hmid⟩
    · exact (hsilent.not_ack hmid).elim
    · cases mid with
      | nil =>
        rw [List.nil_append] at hmid
        exact (hsilent.not_ack (hmid.symm.trans (List.nil_append _).symm)).elim
      | cons deed mid =>
        rw [List.cons_append, List.cons.injEq] at hmid
        exact hacks pre mid delivery (by rw [hmid.1])
  · intro delivery token hheld
    rw [hpass.held]
    exact (hkeeps delivery token hheld).imp id fun h => ⟨h.1, List.mem_append_left _ h.2⟩

theorem passes_polled {p : Packet} {event : MqttEvent} {session : MqttSession} (hevent : ∀ d, event ≠ .command d)
    (hacks : session.inboundAcknowledgements = h.driver.session.inboundAcknowledgements)
    (hinflight : session.inflight = h.driver.session.inflight) : Passes h (h.polled p event session) := by
  refine ⟨rfl, hacks, hinflight, ⟨_, rfl, ?_⟩, fun _ => ⟨rfl, rfl, .inl rfl⟩⟩
  intro deed hmem
  obtain rfl := List.mem_singleton.1 hmem
  refine ⟨rfl, ?_, rfl⟩
  cases event with
  | command d => exact absurd rfl (hevent d)
  | _ => rfl

/-- A delivery is taken when nothing is held and no PUBACK is on its way. -/
theorem Tracks.free (ht : Tracks wire h) (hfree : h.driver.session.inflight = 0) :
    h.driver.state.pendingCommandAck = none ∧ h.driver.session.inboundAcknowledgements = [] := by
  have hsum := ht.inflight
  rw [hfree] at hsum
  refine ⟨?_, List.length_eq_zero_iff.1 (by omega)⟩
  have hlen : h.driver.state.pendingCommandAck.toList.length = 0 := by omega
  exact Option.toList_eq_nil_iff.1 (List.length_eq_zero_iff.1 hlen)

theorem observes_deeds (h : Host) (delivery : CommandDelivery) : (h.observes delivery).deeds = h.deeds := by
  obtain ⟨f, hf⟩ := observes_eq h delivery
  rw [hf]
  rfl

theorem observes_agent (h : Host) (delivery : CommandDelivery) : (h.observes delivery).agent = h.agent := by
  obtain ⟨f, hf⟩ := observes_eq h delivery
  rw [hf]
  rfl

theorem observes_tree (h : Host) (delivery : CommandDelivery) : (h.observes delivery).tree = h.tree := by
  obtain ⟨f, hf⟩ := observes_eq h delivery
  rw [hf]
  rfl

theorem observes_session (h : Host) (delivery : CommandDelivery) : (h.observes delivery).driver.session = h.driver.session := by
  obtain ⟨f, hf⟩ := observes_eq h delivery
  rw [hf]
  rfl

/-- A delivery that the agent has just answered. -/
theorem Changed.applied {delivery : CommandDelivery} {reply : Reply} {h h₁ : Host} (packet : Packet) (deeds : List Deed)
    (hg : h.Good pki) (hc : Changed pki h (commandCall wire ambient delivery) reply h₁) :
    Applied wire h₁.agent.state (deeds ++ [.polled packet (.command delivery),
      .asked (commandCall wire ambient delivery) h.agent.state,
      .answered (commandCall wire ambient delivery) reply h₁.agent.state]) delivery := by
  obtain ⟨d, hd, hid, -⟩ := commandCall_delivery wire ambient delivery
  have hdel := hc.answers.delivery hg.coherent hd
  refine ⟨⟨deeds, packet, ambient, _, reply, _, [], rfl, fun hreply => ?_⟩, hid ▸ hdel.noted⟩
  have hacc := hdel.accepted hreply
  obtain ⟨p, hp, hpid, hpfp, hset, command, now, catalog, hcall⟩ := hacc.pending
  refine ⟨rfl, hacc.revision, p, hp, ?_, hpid.trans hid, by rw [hd, hpfp]; rfl, hset⟩
  unfold commandCall at hcall
  split at hcall
  · exact (Call.applyCommand.inj hcall).1.symm
  · cases hcall

/-- The host when the agent has answered a delivery. -/
structure Taken (wire : Wire) (ambient : Ambient) (h : Host) (packet : Packet) (delivery : CommandDelivery) (h₁ : Host) : Prop where
  deeds : ∃ reply, h₁.deeds = h.deeds ++ [.polled packet (.command delivery),
    .asked (commandCall wire ambient delivery) h.agent.state,
    .answered (commandCall wire ambient delivery) reply h₁.agent.state]
  received : received (lastSession h.deeds) = pubacked (lastSession h.deeds)
  free : h.driver.state.pendingCommandAck = none
  applied : Applied wire h₁.agent.state (lastSession h₁.deeds) delivery
  held : h₁.driver.state.pendingCommandAck = none
  unsent : h₁.driver.session.inboundAcknowledgements = []
  inflight : h₁.driver.session.inflight = 1

theorem Tracks.taken {p : Publish} {delivery : CommandDelivery} {reply : Reply} (ht : Tracks wire h) (hg : h.Good pki)
    (hfree : h.driver.session.inflight = 0)
    (hask : ask pki ambient (commandCall wire ambient delivery) ((h.polled (.publish p) (.command delivery)
      { h.driver.session with inflight := h.driver.session.inflight + 1 }).observes delivery) = (.ok reply, h₁)) :
    Taken wire ambient h (.publish p) delivery h₁ := by
  set h₀ := h.polled (.publish p) (.command delivery) { h.driver.session with inflight := h.driver.session.inflight + 1 } with hh₀
  have hg₀ : h₀.Good pki := hg.polled _ _ _
  obtain ⟨f, hf⟩ := observes_eq h₀ delivery
  have hgo : (h₀.observes delivery).Good pki := by
    rw [hf]
    exact hg₀.set f
  have hc := hgo.ask hask
  obtain ⟨hheld, hacks⟩ := ht.free hfree
  have hagent : (h₀.observes delivery).agent = h.agent := observes_agent _ _
  have hdeeds : h₁.deeds = h.deeds ++ [.polled (.publish p) (.command delivery),
      .asked (commandCall wire ambient delivery) h.agent.state,
      .answered (commandCall wire ambient delivery) reply h₁.agent.state] := by
    rw [hc.deeds, observes_deeds, hagent]
    simp [hh₀, Host.polled]
  have hsession : h₁.driver.session = h₀.driver.session := by rw [hc.driver, observes_session]
  have hstate : h₁.driver.state.pendingCommandAck = h.driver.state.pendingCommandAck := by
    rw [hc.driver]
    unfold Host.observes
    split_ifs <;> rfl
  have hopened : ∀ deed ∈ [Deed.polled (.publish p) (.command delivery),
      .asked (commandCall wire ambient delivery) h.agent.state,
      .answered (commandCall wire ambient delivery) reply h₁.agent.state], deed.isOpened = false := by simp [Deed.isOpened]
  refine ⟨⟨reply, hdeeds⟩, ?_, hheld, ?_, hstate.trans hheld, ?_, ?_⟩
  · have hr := ht.received
    rw [hheld] at hr
    simpa using hr
  · rw [hdeeds, lastSession_append hopened]
    have happlied := hc.applied (.publish p) (lastSession h.deeds) hgo
    rw [hagent] at happlied
    exact happlied
  · rw [hsession]
    exact hacks
  · rw [hsession]
    show h.driver.session.inflight + 1 = 1
    rw [hfree]

theorem Taken.keeps {packet : Packet} {delivery : CommandDelivery} (ht : Taken wire ambient h packet delivery h₁)
    (new : List Deed) : Keeps h h' new := by
  intro d token hheld
  rw [ht.free] at hheld
  cases hheld

theorem Taken.holds {packet : Packet} {delivery : CommandDelivery} (ht : Taken wire ambient h packet delivery h₁)
    (token : Option String) : Pubacks wire h (h₁.holds delivery token) := by
  obtain ⟨reply, hdeeds⟩ := ht.deeds
  have hqueued : Silent [.queued (.unsubscribe h₁.driver.session.topics.commandTopic)] := silent_queued fun _ h => by cases h
  have hnew : (h₁.holds delivery token).deeds = h₁.deeds ++ [.queued (.unsubscribe h₁.driver.session.topics.commandTopic)] := rfl
  have hopened : ∀ deed ∈ [Deed.polled packet (.command delivery),
      .asked (commandCall wire ambient delivery) h.agent.state,
      .answered (commandCall wire ambient delivery) reply h₁.agent.state,
      .queued (.unsubscribe h₁.driver.session.topics.commandTopic)], deed.isOpened = false := by simp [Deed.isOpened]
  rw [hdeeds, List.append_assoc, List.cons_append, List.cons_append, List.cons_append, List.nil_append] at hnew
  refine ⟨⟨?_, ?_, ?_, ?_⟩, _, hnew, hopened, ?_, ht.keeps _⟩
  · rw [hnew, lastSession_append hopened, received_append, pubacked_append, ht.received, List.append_assoc]
    rfl
  · show h₁.driver.session.inflight = 1 + h₁.driver.session.inboundAcknowledgements.length
    rw [ht.inflight, ht.unsent]
    rfl
  · show h₁.driver.session.inflight ≤ 1
    rw [ht.inflight]
  · rintro d t heq
    cases heq
    show Applied wire h₁.agent.state (lastSession (h₁.deeds ++ _)) _
    rw [hqueued.lastSession]
    exact ht.applied.mono rfl rfl (.inl rfl)
  · intro pre post d h
    have hmem : Deed.queued (.ack d) ∈ pre ++ .queued (.ack d) :: post := by simp
    rw [← h] at hmem
    simp at hmem

theorem Taken.pubacks {packet : Packet} {delivery : CommandDelivery} (ht : Taken wire ambient h packet delivery h₁)
    (token : Option String) : Pubacks wire h (h₁.acks delivery token) := by
  obtain ⟨reply, hdeeds⟩ := ht.deeds
  have hnew : (h₁.acks delivery token).deeds = h₁.deeds ++ [.queued (.ack delivery)] := rfl
  have hopened : ∀ deed ∈ [Deed.polled packet (.command delivery),
      .asked (commandCall wire ambient delivery) h.agent.state,
      .answered (commandCall wire ambient delivery) reply h₁.agent.state,
      .queued (.ack delivery)], deed.isOpened = false := by simp [Deed.isOpened]
  rw [hdeeds, List.append_assoc, List.cons_append, List.cons_append, List.cons_append, List.nil_append] at hnew
  refine ⟨⟨?_, ?_, ?_, ?_⟩, _, hnew, hopened, ?_, ht.keeps _⟩
  · have hheld : (h₁.acks delivery token).driver.state.pendingCommandAck = none := ht.held
    rw [hnew, lastSession_append hopened, received_append, pubacked_append, ht.received, hheld, List.append_assoc]
    rfl
  · show h₁.driver.session.inflight = h₁.driver.state.pendingCommandAck.toList.length +
      (PacketMap.insert h₁.driver.session.inboundAcknowledgements delivery.publish.pkid token).length
    rw [ht.inflight, ht.unsent, ht.held]
    rfl
  · show h₁.driver.session.inflight ≤ 1
    rw [ht.inflight]
  · intro d t heq
    have hheld : h₁.driver.state.pendingCommandAck = some (d, t) := heq
    rw [ht.held] at hheld
    cases hheld
  · intro pre post d h
    obtain ⟨rfl, rfl⟩ := puback_unique [.polled packet (.command delivery),
      .asked (commandCall wire ambient delivery) _, .answered (commandCall wire ambient delivery) reply _] []
      (by simp [Deed.puback]) (by simp) h
    rw [← hdeeds]
    exact ht.applied

theorem Tracks.released {p : Packet} {session : MqttSession} {delivery : CommandDelivery} {token : Option String}
    {f : SessionState → SessionState} (ht : Tracks wire h)
    (hacks : session.inboundAcknowledgements = h.driver.session.inboundAcknowledgements)
    (hinflight : session.inflight = h.driver.session.inflight)
    (hheld : h.driver.state.pendingCommandAck = some (delivery, token)) (hf : (f h.driver.state).pendingCommandAck = none) :
    Pubacks wire h (((h.polled p .unsubscribed session).set f).acks delivery token) := by
  have hsum := ht.inflight
  have hone := ht.one
  rw [hheld] at hsum
  have hnone : h.driver.session.inboundAcknowledgements = [] := by
    refine List.length_eq_zero_iff.1 ?_
    simp only [Option.toList_some, List.length_singleton] at hsum
    omega
  have hnew : (((h.polled p .unsubscribed session).set f).acks delivery token).deeds =
      h.deeds ++ [.polled p .unsubscribed, .queued (.ack delivery)] := by
    simp [Host.acks, Host.sent, Host.set, Host.polled]
  have hopened : ∀ deed ∈ [Deed.polled p .unsubscribed, .queued (.ack delivery)], deed.isOpened = false := by
    simp [Deed.isOpened]
  refine ⟨⟨?_, ?_, ?_, ?_⟩, _, hnew, hopened, ?_, ?_⟩
  · have hr := ht.received
    rw [hheld] at hr
    have hheld' : (((h.polled p .unsubscribed session).set f).acks delivery token).driver.state.pendingCommandAck = none := hf
    rw [hnew, lastSession_append hopened, received_append, pubacked_append, hr, hheld', List.append_assoc, List.append_assoc]
    rfl
  · show session.inflight = (f h.driver.state).pendingCommandAck.toList.length +
      (PacketMap.insert session.inboundAcknowledgements delivery.publish.pkid token).length
    rw [hinflight, hacks, hf, hsum, hnone]
    rfl
  · show session.inflight ≤ 1
    rw [hinflight]
    exact hone
  · intro d t heq
    have heq' : (f h.driver.state).pendingCommandAck = some (d, t) := heq
    rw [hf] at heq'
    cases heq'
  · intro pre post d h'
    obtain ⟨rfl, rfl⟩ := puback_unique [.polled p .unsubscribed] [] (by simp [Deed.puback]) (by simp) h'
    rw [lastSession_append (by simp [Deed.isOpened])]
    exact (ht.held _ _ hheld).mono rfl rfl (.inl rfl)
  · intro d t heq
    rw [hheld] at heq
    cases heq
    exact .inr ⟨hf, by simp⟩

theorem silent_inbound (pkid : ℕ) (token : Option String) :
    Silent [.polled (.sentPubAck pkid) (.inboundAcknowledged token)] := by
  simp [Silent, Deed.isOpened, Deed.delivery, Deed.puback]

/-- The PUBACK has left. -/
theorem Tracks.flushed {pkid : ℕ} {token : Option String} {rest : PacketMap (Option String)} (ht : Tracks wire h)
    (hremove : PacketMap.remove h.driver.session.inboundAcknowledgements pkid = some (token, rest)) :
    Tracks wire (h.polled (.sentPubAck pkid) (.inboundAcknowledged token) { h.driver.session with
      inboundAcknowledgements := rest, inflight := h.driver.session.inflight - 1 }) ∧
    h.driver.state.pendingCommandAck = none ∧ h.driver.session.inboundAcknowledgements = [(pkid, token)] := by
  have hsum := ht.inflight
  have hone := ht.one
  obtain ⟨hacks, rfl⟩ := PacketMap.remove_one hremove (by omega)
  rw [hacks, List.length_singleton] at hsum
  have hlen : h.driver.state.pendingCommandAck.toList.length = 0 := by omega
  have hheld : h.driver.state.pendingCommandAck = none := Option.toList_eq_nil_iff.1 (List.length_eq_zero_iff.1 hlen)
  have hsilent := silent_inbound pkid token
  refine ⟨⟨?_, ?_, ?_, ?_⟩, hheld, hacks⟩
  · show Driver.received (lastSession (h.deeds ++ _)) = pubacked (lastSession (h.deeds ++ _)) ++ _
    rw [hsilent.lastSession, received_append, pubacked_append, hsilent.received, hsilent.pubacked, List.append_nil,
      List.append_nil]
    exact ht.received
  · show h.driver.session.inflight - 1 = h.driver.state.pendingCommandAck.toList.length + 0
    omega
  · show h.driver.session.inflight - 1 ≤ 1
    omega
  · intro d t heq
    have heq' : h.driver.state.pendingCommandAck = some (d, t) := heq
    rw [hheld] at heq'
    cases heq'

theorem Handled.pubacks {p : Packet} {event : MqttEvent} {session : MqttSession} {control : DriverControl} (hg : h.Good pki)
    (ht : Tracks wire h) (hrm : ReceiveMaximum h (.packet p) ambient)
    (hpolls : MqttSession.Polls wire h.driver.session p event session)
    (hh : Handled pki wire ambient (h.polled p event session) event h' control) : Pubacks wire h h' := by
  have hg' : (h.polled p event session).Good pki := hg.polled _ _ _
  have hpolled : (∀ d, event ≠ .command d) → session.inboundAcknowledgements = h.driver.session.inboundAcknowledgements →
    session.inflight = h.driver.session.inflight → Passes h (h.polled p event session) := passes_polled
  cases hh with
  | connected hmark hlisten =>
    cases hpolls
    have hmarked := hmark.passes (hg'.set _)
    exact ((hpolled (fun _ h => by cases h) rfl rfl).trans ((passes_set _ _ rfl).trans
      (hmarked.trans hlisten.passes))).pubacks ht
  | subscribed =>
    cases hpolls
    exact ((hpolled (fun _ h => by cases h) rfl rfl).trans (passes_set _ _ rfl)).pubacks ht
  | held hask hhold =>
    cases hpolls
    exact (ht.taken hg (hrm _ rfl) hask).holds _
  | acked hask hreply hopen hshut =>
    cases hpolls
    exact (ht.taken hg (hrm _ rfl) hask).pubacks _
  | confirmed hpending hask hnext =>
    cases hpolls
    have hc := (hg'.set _).ask hask
    exact ((hpolled (fun _ h => by cases h) rfl rfl).trans ((passes_set _ _ rfl).trans
      (hc.passes_confirm.trans hnext.passes))).pubacks ht
  | released hheld =>
    cases hpolls
    exact ht.released rfl rfl hheld rfl
  | unsubscribed hheld habsent hnext =>
    cases hpolls
    have habsented := habsent.passes (hg'.set _) hheld
    exact ((hpolled (fun _ h => by cases h) rfl rfl).trans ((passes_set _ _ rfl).trans
      (habsented.trans hnext.passes))).pubacks ht
  | inboundOther =>
    cases hpolls with
    | inbound hremove =>
      exact (ht.flushed hremove).1.pubacks ⟨_, rfl, silent_inbound _ _⟩ rfl
  | inboundSettled hask hcontrol =>
    cases hpolls with
    | inbound hremove =>
      obtain ⟨htracks, hheld, -⟩ := ht.flushed hremove
      have hpass := (hg'.ask hask).passes fun hne => absurd hheld hne
      obtain ⟨new, hnew, hsilent⟩ := hpass.deeds
      have hdeeds := hnew.trans (List.append_assoc h.deeds [_] new)
      exact (htracks.passes hpass).pubacks ⟨_, hdeeds, (silent_inbound _ _).append hsilent⟩ hpass.held
  | progress =>
    cases hpolls with
    | published hawaiting => exact (hpolled (fun _ h => by cases h) rfl rfl).pubacks ht
    | other => exact (hpolled (fun _ h => by cases h) rfl rfl).pubacks ht

/-- What a round does about PUBACKs, whatever becomes of the session. -/
structure Acknowledges (wire : Wire) (h h' : Host) : Prop where
  pubacked : pubacked (lastSession h'.deeds) <+: received (lastSession h'.deeds)
  deeds : ∃ new, h'.deeds = h.deeds ++ new ∧ ∀ pre post delivery, new = pre ++ .queued (.ack delivery) :: post →
    ∃ s, manifest h'.tree = some s ∧ Applied wire s (lastSession (h.deeds ++ pre)) delivery

theorem Tracks.inOrder (ht : Tracks wire h) : pubacked (lastSession h.deeds) <+: Driver.received (lastSession h.deeds) :=
  ht.received ▸ List.prefix_append _ _

theorem Pubacks.acknowledges (hp : Pubacks wire h h') (hg : h'.Good pki) : Acknowledges wire h h' := by
  obtain ⟨new, hnew, -, hacks, -⟩ := hp.deeds
  exact ⟨hp.tracks.inOrder, new, hnew, fun pre post delivery h => ⟨_, hg.agrees, hacks pre post delivery h⟩⟩

/-- A packet whose handler fails queues nothing. -/
theorem Tracks.acknowledges_failed {p : Packet} {event : MqttEvent} (session : MqttSession) (ht : Tracks wire h)
    (hnew : ∃ new, h'.deeds = (h.polled p event session).deeds ++ new ∧ Questions new) : Acknowledges wire h h' := by
  obtain ⟨new, hnew, hquestions⟩ := hnew
  have hsilent := hquestions.silent
  have hdeeds : h'.deeds = h.deeds ++ ([.polled p event] ++ new) := by
    rw [hnew]
    exact List.append_assoc ..
  have hopened : ∀ deed ∈ [.polled p event] ++ new, deed.isOpened = false := by
    intro deed hmem
    rcases List.mem_append.1 hmem with hmem | hmem
    · rw [List.mem_singleton.1 hmem]
      rfl
    · exact (hsilent deed hmem).1
  have hnone : Driver.pubacked ([.polled p event] ++ new) = [] := by
    rw [pubacked_append, hsilent.pubacked]
    rfl
  refine ⟨?_, _, hdeeds, ?_⟩
  · rw [hdeeds, lastSession_append hopened, received_append, pubacked_append, hnone, List.append_nil]
    exact ht.inOrder.trans (List.prefix_append _ _)
  · intro pre post delivery h
    rw [h] at hnone
    simp [Driver.pubacked, Deed.puback] at hnone

theorem Rounds.acknowledges {poll : Poll} {o : Outcome SessionError (Option SessionCompletion)} (hg : h.Good pki)
    (ht : Tracks wire h) (hrm : ReceiveMaximum h poll ambient) (hr : Rounds pki wire ambient h poll o h') :
    Acknowledges wire h h' ∧ (o = .ok none → Pubacks wire h h') := by
  have hgood := hr.good hg
  have passing : ∀ {h' : Host}, Passes h h' → h'.Good pki → Acknowledges wire h h' ∧ (o = .ok none → Pubacks wire h h') :=
    fun hp hg' => ⟨(hp.pubacks ht).acknowledges hg', fun _ => hp.pubacks ht⟩
  cases hr with
  | lost e => exact passing (.refl h) hg
  | refused hpoll => exact passing (.refl h) hg
  | broken hpoll hbroken => exact ⟨ht.acknowledges_failed _ (hbroken.questions (hg.polled _ _ _)), fun h => by cases h⟩
  | crashed hpoll hcrash =>
    exact ⟨ht.acknowledges_failed _ (hcrash.questions (hg.polled _ _ _)), fun h => by cases h⟩
  | switched hpoll hhandled =>
    have hp := hhandled.pubacks hg ht hrm (MqttSession.poll_cases hpoll)
    exact ⟨hp.acknowledges (hgood (fun h => by cases h) (fun _ h => by cases h)), fun h => by cases h⟩
  | handled hpoll hhandled hhead =>
    have hp := (hhandled.pubacks hg ht hrm (MqttSession.poll_cases hpoll)).passes hhead.passes hhead.sends.agent
    obtain ⟨h₁, hbefore, hsends⟩ := hhandled.before
    have hg' := (hsends.trans hhead.sends).good (hbefore.good (hg.polled _ _ _))
    exact ⟨hp.acknowledges hg', fun _ => hp⟩
  | stopping hstop hhead =>
    exact passing (hstop.passes.trans hhead.passes) ((hstop.sends.trans hhead.sends).good hg)
  | unstopped => exact passing (passes_set _ _ rfl) (hg.set _)
  | expired hshut => exact passing (.refl h) hg
  | nothing hpoll => exact passing (.refl h) hg

end

/-! ### Every run -/

section

variable {pki : Pki} {wire : Wire}

/-- A session that was just opened. -/
theorem create_cases {a : Running} {readable : Bool} {driver : SessionDriver}
    (h : SessionDriver.create a readable = .ok driver) : ∃ identity recoveryCommand, a.currentIdentity = .ok identity ∧
      a.pendingCommandScope = .ok recoveryCommand ∧ driver = ⟨MqttSession.new identity a.state.current.credentialRevision
        recoveryCommand, identity, recoveryCommand, {}⟩ := by
  unfold SessionDriver.create at h
  simp only [except_bind_ok, mapError_eq_ok] at h
  obtain ⟨identity, hid, recoveryCommand, hrec, h⟩ := h
  split_ifs at h
  cases h
  exact ⟨identity, recoveryCommand, hid, hrec, rfl⟩

theorem tracks_inductive : Inductive pki wire ReceiveMaximum
    (fun _ deeds => pubacked (lastSession deeds) <+: received (lastSession deeds)) (Tracks wire) where
  fresh := List.prefix_rfl
  first _ h := h
  ended result h := by
    have hr : received [.ended result] = [] := rfl
    have hp : pubacked [.ended result] = [] := rfl
    rw [lastSession_append (by simp [Deed.isOpened]), received_append, pubacked_append, hr, hp, List.append_nil,
      List.append_nil]
    exact h
  opened hg hcreate _ := by
    obtain ⟨identity, recoveryCommand, -, -, hdriver⟩ := create_cases hcreate
    rw [lastSession_opened]
    refine ⟨List.prefix_rfl, ?_⟩
    rw [hdriver]
    refine ⟨?_, rfl, Nat.zero_le _, fun _ _ h => (by cases h)⟩
    show received (lastSession (_ ++ _)) = pubacked (lastSession (_ ++ _)) ++ _
    rw [lastSession_opened]
    rfl
  round hg _ ht hrm hr := by
    obtain ⟨hack, hpub⟩ := hr.acknowledges hg ht hrm
    exact ⟨hack.pubacked, fun ho => (hpub ho).tracks⟩

/-- **Durable before PUBACK**, over every run of processes and sessions in which a delivery comes only when nothing is
left to PUBACK: whenever a PUBACK is queued the agent has answered the delivery in this session, and the persisted
document has its command in the journal and, if it was accepted, its revision and its pending record.  The PUBACKs of a
session go to the deliveries in the order in which they came, one each; while the session lives what is left over is
the one that is held, and it stays until its PUBACK is queued. -/
theorem durable_before_puback {inputs : List Input} {input : Input}
    (hrun : Along pki wire ReceiveMaximum (inputs ++ [input])) :
    let p := Process.fresh.run pki wire inputs
    let q := Process.fresh.run pki wire (inputs ++ [input])
    (∀ pre post delivery, q.deeds = p.deeds ++ (pre ++ .queued (.ack delivery) :: post) →
      ∃ s, manifest q.device.tree = some s ∧ Applied wire s (lastSession (p.deeds ++ pre)) delivery) ∧
    pubacked (lastSession q.deeds) <+: received (lastSession q.deeds) ∧
    (∀ a driver, q.device.agent = some a → q.stage = .session driver → received (lastSession q.deeds) =
      pubacked (lastSession q.deeds) ++ driver.state.pendingCommandAck.toList.map Prod.fst) ∧
    ∀ a driver a' driver', p.device.agent = some a → p.stage = .session driver → q.device.agent = some a' →
      q.stage = .session driver' → ∀ delivery token, driver.state.pendingCommandAck = some (delivery, token) →
        driver'.state.pendingCommandAck = some (delivery, token) ∨
        driver'.state.pendingCommandAck = none ∧ .queued (.ack delivery) ∈ q.deeds.drop p.deeds.length := by
  obtain ⟨hbefore, hmeets⟩ := atEvery_concat.1 hrun
  have hp := tracks_inductive.run hbefore
  have hq := tracks_inductive.run hrun
  rw [Process.run_concat] at hq ⊢
  dsimp only
  generalize Process.fresh.run pki wire inputs = p at hp hq hmeets ⊢
  have hstepped : Stepped pki wire p input (p.step pki wire input) := p.step_cases input
  generalize p.step pki wire input = q at hq hstepped ⊢
  refine ⟨?_, hq.deeds, fun a driver ha hstage => (hq.session a driver ha hstage).received, ?_⟩
  · intro pre post delivery heq
    have hnone : ∀ new, q.deeds = p.deeds ++ new → pubacked new = [] → False := by
      intro new hnew hnil
      rw [hnew, List.append_cancel_left_eq] at heq
      rw [heq] at hnil
      simp [pubacked, Deed.puback] at hnil
    cases hstepped with
    | still hdeeds hsession => exact (hnone [] (by rw [hdeeds, List.append_nil]) rfl).elim
    | failed => exact (hnone _ (p.conclude_deeds _).1 rfl).elim
    | opened ha hcreate hstage => exact (hnone _ rfl rfl).elim
    | round ha hstage hinput hr =>
      rename_i a driver poll ambient o h'
      have hg : (p.host a driver).Good pki := hp.good ha
      obtain ⟨hack, -⟩ := hr.acknowledges hg (hp.session a driver ha hstage) (hmeets _ _ _ _ ha hstage hinput)
      obtain ⟨htree, hdeeds, -⟩ := (p.after_cases o h').deeds
      obtain ⟨new, hnew, hacks⟩ := hack.deeds
      have hnew' : h'.deeds = p.deeds ++ new := hnew
      rw [htree]
      rcases hdeeds with hdeeds | ⟨result, hdeeds⟩
      · rw [hdeeds, hnew', List.append_cancel_left_eq] at heq
        exact hacks pre post delivery heq
      · rw [hdeeds, hnew', List.append_assoc, List.append_cancel_left_eq] at heq
        rcases List.append_eq_append_iff.1 heq with ⟨mid, rfl, hmid⟩ | ⟨mid, rfl, hmid⟩
        · -- what comes after the deeds of the host is no PUBACK
          cases mid with
          | nil => cases hmid
          | cons deed mid => simp at hmid
        · cases mid with
          | nil => cases hmid
          | cons deed mid =>
            rw [List.cons_append, List.cons.injEq] at hmid
            exact hacks pre mid delivery (by rw [hmid.1])
  · intro a driver a' driver' ha hstage ha' hstage' delivery token hheld
    cases hstepped with
    | still hdeeds hsession =>
      obtain ⟨-, hs⟩ := hsession a' driver' ha' hstage'
      rw [hstage] at hs
      cases hs
      exact .inl hheld
    | failed => exact absurd hstage' ((p.conclude_deeds _).2.2 driver')
    | opened ha₀ hcreate hno => exact absurd hstage (hno driver)
    | round ha₀ hstage₀ hinput hr =>
      rename_i a₀ driver₀ poll ambient o h'
      obtain rfl := Option.some.inj (ha₀.symm.trans ha)
      obtain ⟨⟩ := hstage₀.symm.trans hstage
      have hg : (p.host a₀ driver).Good pki := hp.good ha
      obtain ⟨-, hpub⟩ := hr.acknowledges hg (hp.session a₀ driver ha hstage) (hmeets _ _ _ _ ha hstage hinput)
      obtain ⟨-, -, hopen⟩ := (p.after_cases o h').deeds
      obtain ⟨rfl, -, hdriver, hdeeds⟩ := hopen a' driver' ha' hstage'
      obtain ⟨new, hnew, -, -, hkeeps⟩ := (hpub rfl).deeds
      rw [hdeeds, hnew, ← hdriver]
      have hdrop : ((p.host a₀ driver).deeds ++ new).drop p.deeds.length = new := List.drop_left
      rw [hdrop]
      exact hkeeps delivery token hheld

open Fixture in
/-- A session takes a delivery that does not decode: its rejection is on disk when its PUBACK is queued. -/
theorem durable_before_puback_rejection :
    Along Agent.Fixture.pki Fixture.wire ReceiveMaximum (Fixture.listen ++ [packet (.publish (badDelivery 0).publish)]) ∧
    ∃ pre post s, (run (Fixture.listen ++ [packet (.publish (badDelivery 0).publish)])).deeds =
        (run Fixture.listen).deeds ++ (pre ++ .queued (.ack (badDelivery 0)) :: post) ∧
      manifest (run (Fixture.listen ++ [packet (.publish (badDelivery 0).publish)])).device.tree = some s ∧
      Applied Fixture.wire s (lastSession ((run Fixture.listen).deeds ++ pre)) (badDelivery 0) := by
  have hlistening : At ReceiveMaximum Fixture.listen (resting 0 []) listening _ :=
    at_listening fun _ _ _ hallowed _ => hallowed.receiveMaximum
  have hanswered := hlistening.answers (by decide) fun _ _ _ => rfl
  obtain ⟨tree, hstands⟩ := hlistening
  obtain ⟨tree', hstands'⟩ := hanswered
  have hdeeds : (run (Fixture.listen ++ [packet (.publish (badDelivery 0).publish)])).deeds = (run Fixture.listen).deeds ++
      ([.polled (.publish (badDelivery 0).publish) (.command (badDelivery 0)), .asked (badCall 0) (resting 0 []),
        .answered (badCall 0) (.outcome (.rejected .malformedCommand)) (resting 1 [rejectionEntry 0])] ++
        .queued (.ack (badDelivery 0)) :: [.queued (.publish (commandAcknowledgedTopic opened.sessionIdentity) (badFact 0)
          (factPayload opened.sessionIdentity (badFact 0)))]) := by
    rw [run, run, hstands.run, hstands'.run]
    rfl
  unfold run at hdeeds ⊢
  obtain ⟨s, hs, happlied⟩ := (durable_before_puback hstands'.along).1 _ _ _ hdeeds
  exact ⟨hstands'.along, _, _, s, hdeeds, hs, happlied⟩

end

end RssIncubator.Driver
