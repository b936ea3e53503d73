import RssIncubator.Driver.Publication
import RssIncubator.Driver.Attentive
import RssIncubator.Driver.Backpressure

/-!
# Why a session ends

A session tells packets apart by identifiers that the client assigns.  `Client` is what it is held to: a publication
leaves after it was queued, what has left is acknowledged once and in its order, and so are the PUBACKs that were queued.
`Numbered` compares the two maps of the session with the deeds.  Under this condition no session ends because it does not
know a packet identifier, an event to confirm or the revision it was opened for; what is left are the errors of the store,
of the transport, of the wire format and of the broker.
-/

namespace RssIncubator.Driver

open Agent Lib Prog StateV1

/-! ### Packet identifiers -/

namespace Deed

/-- The packet identifier of a publication that has left. -/
def sentId : Deed → Option ℕ
  | .polled (.sentPublish pkid) _ => some pkid
  | _ => none

/-- That of a publication whose PUBACK has come. -/
def ackedId : Deed → Option ℕ
  | .polled (.pubAck pkid) _ => some pkid
  | _ => none

/-- That of a delivery whose PUBACK has left. -/
def flushedId : Deed → Option ℕ
  | .polled (.sentPubAck pkid) _ => some pkid
  | _ => none

end Deed

def sentIds (deeds : List Deed) : List ℕ := deeds.filterMap Deed.sentId

def ackedIds (deeds : List Deed) : List ℕ := deeds.filterMap Deed.ackedId

def flushedIds (deeds : List Deed) : List ℕ := deeds.filterMap Deed.flushedId

/-- What the client is held to. -/
structure Client (h : Host) (poll : Poll) (ambient : Ambient) : Prop where
  /-- A publication leaves after it was queued. -/
  sent : ∀ pkid, poll = .packet (.sentPublish pkid) →
    (sentIds (lastSession h.deeds)).length < (publications (lastSession h.deeds)).length
  /-- A PUBACK that comes is for the next of what has left. -/
  acked : ∀ pkid, poll = .packet (.pubAck pkid) → ackedIds (lastSession h.deeds) ++ [pkid] <+: sentIds (lastSession h.deeds)
  /-- A PUBACK that leaves is the next of what was queued. -/
  flushed : ∀ pkid, poll = .packet (.sentPubAck pkid) →
    flushedIds (lastSession h.deeds) ++ [pkid] <+: (pubacked (lastSession h.deeds)).map (·.publish.pkid)

/-- The maps of a session, from its deeds. -/
structure Numbered (h : Host) : Prop where
  sent : sentIds (lastSession h.deeds) = ackedIds (lastSession h.deeds) ++ h.driver.session.packetEvents.map Prod.fst
  count : (ackedIds (lastSession h.deeds)).length = (acknowledgements (lastSession h.deeds)).length
  flushed : (pubacked (lastSession h.deeds)).map (·.publish.pkid) =
    flushedIds (lastSession h.deeds) ++ h.driver.session.inboundAcknowledgements.map Prod.fst

/-- Deeds without a packet identifier. -/
def Unnumbered (new : List Deed) : Prop := ∀ deed ∈ new, deed.isOpened = false ∧ deed.sentId = none ∧ deed.ackedId = none ∧
  deed.flushedId = none ∧ deed.acknowledgement = none ∧ deed.puback = none

/-- The maps stay, and nothing is said about packet identifiers. -/
structure Renumbers (h h' : Host) : Prop where
  packetEvents : h'.driver.session.packetEvents = h.driver.session.packetEvents
  acks : h'.driver.session.inboundAcknowledgements = h.driver.session.inboundAcknowledgements
  deeds : ∃ new, h'.deeds = h.deeds ++ new ∧ Unnumbered new

section

variable {pki : Pki} {wire : Wire} {ambient : Ambient} {h h₁ h' : Host} {event : MqttEvent} {deeds new new' : List Deed}

theorem sentIds_append : sentIds (deeds ++ new) = sentIds deeds ++ sentIds new := List.filterMap_append ..

theorem ackedIds_append : ackedIds (deeds ++ new) = ackedIds deeds ++ ackedIds new := List.filterMap_append ..

theorem flushedIds_append : flushedIds (deeds ++ new) = flushedIds deeds ++ flushedIds new := List.filterMap_append ..

theorem unnumbered_nil : Unnumbered [] := fun _ h => by cases h

theorem Unnumbered.append (h : Unnumbered new) (h' : Unnumbered new') : Unnumbered (new ++ new') := by
  intro deed hmem
  rcases List.mem_append.1 hmem with hmem | hmem
  · exact h deed hmem
  · exact h' deed hmem

theorem unnumbered_queued {r : Request} (hr : ∀ delivery, r ≠ .ack delivery) : Unnumbered [.queued r] := by
  intro deed hmem
  obtain rfl := List.mem_singleton.1 hmem
  cases r with
  | ack delivery => exact absurd rfl (hr _)
  | _ => exact ⟨rfl, rfl, rfl, rfl, rfl, rfl⟩

theorem Questions.unnumbered (hq : Questions new) : Unnumbered new := by
  cases hq with
  | none => exact unnumbered_nil
  | asked h =>
    rcases h with rfl | ⟨reply, s', rfl⟩ <;>
      simp [Unnumbered, Deed.isOpened, Deed.sentId, Deed.ackedId, Deed.flushedId, Deed.acknowledgement, Deed.puback]

theorem Renumbers.refl (h : Host) : Renumbers h h := ⟨rfl, rfl, [], by simp, unnumbered_nil⟩

theorem Renumbers.trans (hr : Renumbers h h₁) (hr' : Renumbers h₁ h') : Renumbers h h' := by
  obtain ⟨new, hnew, hun⟩ := hr.deeds
  obtain ⟨new', hnew', hun'⟩ := hr'.deeds
  exact ⟨hr'.packetEvents.trans hr.packetEvents, hr'.acks.trans hr.acks, new ++ new',
    by rw [hnew', hnew, List.append_assoc], hun.append hun'⟩

theorem renumbers_set (h : Host) (f : SessionState → SessionState) : Renumbers h (h.set f) :=
  ⟨rfl, rfl, [], by simp [Host.set], unnumbered_nil⟩

theorem Changed.renumbers {call : Call} {reply : Reply} (hc : Changed pki h call reply h') : Renumbers h h' :=
  ⟨by rw [hc.driver], by rw [hc.driver], _, hc.deeds, Questions.unnumbered (.asked (.inr ⟨reply, _, rfl⟩))⟩

theorem Moves.renumbers (hm : Moves pki h h') : Renumbers h h' := by
  induction hm with
  | refl => exact .refl _
  | tail _ hstep ih =>
    refine ih.trans ?_
    cases hstep with
    | set f hf => exact renumbers_set _ _
    | subscribe => exact ⟨rfl, rfl, _, rfl, unnumbered_queued fun _ h => by cases h⟩
    | unsubscribe topic => exact ⟨rfl, rfl, _, rfl, unnumbered_queued fun _ h => by cases h⟩
    | changed hg hcall hc => exact hc.renumbers

theorem Heads.renumbers {o : Outcome SessionError (Option SessionCompletion)} (hh : Heads wire h o h') : Renumbers h h' := by
  cases hh with
  | published hcan hnext hencode => exact ⟨rfl, rfl, _, rfl, unnumbered_queued fun _ h => by cases h⟩
  | quiet => exact .refl _
  | disconnected => exact ⟨rfl, rfl, _, rfl, unnumbered_queued fun _ h => by cases h⟩
  | failed he => exact .refl _

theorem Numbered.renumbers (hn : Numbered h) (hr : Renumbers h h') : Numbered h' := by
  obtain ⟨new, hnew, hun⟩ := hr.deeds
  have hsession : lastSession (h.deeds ++ new) = lastSession h.deeds ++ new := lastSession_append fun deed hmem => (hun deed hmem).1
  have hsent : sentIds new = [] := List.filterMap_eq_nil_iff.2 fun deed hmem => (hun deed hmem).2.1
  have hacked : ackedIds new = [] := List.filterMap_eq_nil_iff.2 fun deed hmem => (hun deed hmem).2.2.1
  have hflushed : flushedIds new = [] := List.filterMap_eq_nil_iff.2 fun deed hmem => (hun deed hmem).2.2.2.1
  have hconfirmed : acknowledgements new = [] := List.filterMap_eq_nil_iff.2 fun deed hmem => (hun deed hmem).2.2.2.2.1
  have hpubacked : pubacked new = [] := List.filterMap_eq_nil_iff.2 fun deed hmem => (hun deed hmem).2.2.2.2.2
  refine ⟨?_, ?_, ?_⟩
  · rw [hnew, hsession, sentIds_append, ackedIds_append, hsent, hacked, List.append_nil, List.append_nil, hr.packetEvents]
    exact hn.sent
  · rw [hnew, hsession, ackedIds_append, acknowledgements_append, hacked, hconfirmed, List.append_nil, List.append_nil]
    exact hn.count
  · rw [hnew, hsession, flushedIds_append, pubacked_append, hflushed, hpubacked, List.append_nil, List.append_nil, hr.acks]
    exact hn.flushed

theorem filterMap_concat {α : Type} (f : Deed → Option α) (deeds : List Deed) (deed : Deed) :
    (deeds ++ [deed]).filterMap f = deeds.filterMap f ++ (f deed).toList := by
  rw [List.filterMap_append]
  rcases hf : f deed with _ | a <;> simp [hf]

/-- One deed more. -/
theorem Numbered.concat (hn : Numbered h) {deed : Deed} (hdeeds : h'.deeds = h.deeds ++ [deed]) (hopened : deed.isOpened = false)
    (hsent : h.driver.session.packetEvents.map Prod.fst ++ deed.sentId.toList =
      deed.ackedId.toList ++ h'.driver.session.packetEvents.map Prod.fst)
    (hcount : deed.ackedId.toList.length = deed.acknowledgement.toList.length)
    (hflushed : h.driver.session.inboundAcknowledgements.map Prod.fst ++ deed.puback.toList.map (·.publish.pkid) =
      deed.flushedId.toList ++ h'.driver.session.inboundAcknowledgements.map Prod.fst) : Numbered h' := by
  have hsession : lastSession h'.deeds = lastSession h.deeds ++ [deed] := by
    rw [hdeeds]
    exact lastSession_append (by simpa using hopened)
  refine ⟨?_, ?_, ?_⟩
  · rw [hsession, sentIds, ackedIds, filterMap_concat, filterMap_concat, ← sentIds, ← ackedIds, hn.sent, List.append_assoc,
      hsent, List.append_assoc]
  · rw [hsession, ackedIds, acknowledgements, filterMap_concat, filterMap_concat, List.length_append, List.length_append,
      ← ackedIds, ← acknowledgements, hn.count, hcount]
  · rw [hsession, pubacked, flushedIds, filterMap_concat, filterMap_concat, ← pubacked, ← flushedIds, List.map_append, hn.flushed,
      List.append_assoc, hflushed, List.append_assoc]

/-- A PUBACK that is queued is the next, if no other is on its way. -/
theorem Numbered.acks (hn : Numbered h) (hfree : h.driver.session.inboundAcknowledgements = []) (delivery : CommandDelivery)
    (token : Option String) : Numbered (h.acks delivery token) := by
  have hdeeds : (h.acks delivery token).deeds = h.deeds ++ [.queued (.ack delivery)] := rfl
  refine hn.concat hdeeds rfl (List.append_nil _) rfl ?_
  show List.map Prod.fst h.driver.session.inboundAcknowledgements ++ [delivery.publish.pkid] =
    List.map Prod.fst (PacketMap.insert h.driver.session.inboundAcknowledgements delivery.publish.pkid token)
  rw [hfree]
  rfl

theorem Tracks.acks_le (hk : Tracks wire h) : h.driver.session.inboundAcknowledgements.length ≤ 1 := by
  have hsum := hk.inflight
  have hone := hk.one
  omega

/-- **A packet moves the identifier it carries.** -/
theorem Numbered.polled {p : Packet} {session : MqttSession} (hn : Numbered h) (ht : InTransit h) (hk : Tracks wire h)
    (hp : MqttSession.Polls wire h.driver.session p event session) : Numbered (h.polled p event session) := by
  have hdeeds : (h.polled p event session).deeds = h.deeds ++ [.polled p event] := rfl
  cases hp with
  | connected => exact hn.concat hdeeds rfl (List.append_nil _) rfl (List.append_nil _)
  | subscribed => exact hn.concat hdeeds rfl (List.append_nil _) rfl (List.append_nil _)
  | unsubscribed => exact hn.concat hdeeds rfl (List.append_nil _) rfl (List.append_nil _)
  | command hdelivery => exact hn.concat hdeeds rfl (List.append_nil _) rfl (List.append_nil _)
  | other => exact hn.concat hdeeds rfl (List.append_nil _) rfl (List.append_nil _)
  | published hawaiting =>
    rename_i pkid eventId awaiting
    have hle := ht.length_le
    simp only [Host.transit, hawaiting, List.length_append, List.length_map, List.length_cons] at hle
    have hevents : h.driver.session.packetEvents = [] := List.length_eq_zero_iff.1 (by omega)
    refine hn.concat hdeeds rfl ?_ rfl (List.append_nil _)
    show List.map Prod.fst h.driver.session.packetEvents ++ [pkid] =
      List.map Prod.fst (PacketMap.insert h.driver.session.packetEvents pkid eventId)
    rw [hevents]
    rfl
  | outbound hremove =>
    rename_i pkid eventId rest
    obtain ⟨hone, hrest⟩ := PacketMap.remove_one hremove ht.packetEvents_le
    refine hn.concat hdeeds rfl ?_ rfl (List.append_nil _)
    show List.map Prod.fst h.driver.session.packetEvents ++ [] = [pkid] ++ List.map Prod.fst rest
    rw [hone, hrest]
    rfl
  | inbound hremove =>
    rename_i pkid token rest
    obtain ⟨hone, hrest⟩ := PacketMap.remove_one hremove hk.acks_le
    refine hn.concat hdeeds rfl (List.append_nil _) rfl ?_
    show List.map Prod.fst h.driver.session.inboundAcknowledgements ++ [] = [pkid] ++ List.map Prod.fst rest
    rw [hone, hrest]
    rfl

/-! ### One round -/

theorem Handled.numbered {p : Packet} {session : MqttSession} {control : DriverControl} (hg : h.Good pki) (hn : Numbered h)
    (ht : InTransit h) (hk : Tracks wire h) (hrm : ReceiveMaximum h (.packet p) ambient)
    (hp : MqttSession.Polls wire h.driver.session p event session)
    (hh : Handled pki wire ambient (h.polled p event session) event h' control) : Numbered h' := by
  have hn' := hn.polled ht hk hp
  by_cases hevent : ∀ eventId, event ≠ .outboundAcknowledged eventId
  · rcases hh.moves (hg.polled _ _ _) hevent with hm | ⟨hwhy, h₁, delivery, token, hm, rfl⟩
    · exact hn'.renumbers hm.renumbers
    · -- at most one delivery is in flight: this one
      refine (hn'.renumbers hm.renumbers).acks ?_ delivery token
      rw [hm.renumbers.acks]
      rcases hwhy with ⟨d, rfl⟩ | hheld
      · cases hp with | command hdelivery =>
        exact (hk.free (hrm _ rfl)).2
      · obtain ⟨held, hheld⟩ := Option.ne_none_iff_exists'.1 hheld
        cases hp with
        | inbound hremove =>
          obtain ⟨-, hrest⟩ := PacketMap.remove_one hremove hk.acks_le
          exact hrest
        | _ => exact hk.unsent hheld
  · simp only [not_forall, not_not] at hevent
    obtain ⟨eventId, rfl⟩ := hevent
    cases hh with
    | confirmed hpending hask hnext =>
      have hc := ((hg.polled p (.outboundAcknowledged eventId) session).set _).ask hask
      exact hn'.renumbers (((renumbers_set _ _).trans hc.renumbers).trans (hnext.moves pki).renumbers)

theorem Rounds.numbered {poll : Poll} (hg : h.Good pki) (hn : Numbered h) (ht : InTransit h) (hk : Tracks wire h)
    (hrm : ReceiveMaximum h poll ambient) (hr : Rounds pki wire ambient h poll (.ok none) h') : Numbered h' := by
  cases hr with
  | handled hpoll hhandled hhead =>
    exact (hhandled.numbered hg hn ht hk hrm (MqttSession.poll_cases hpoll)).renumbers hhead.renumbers
  | stopping hstop hhead => exact (hn.renumbers (hstop.moves pki).renumbers).renumbers hhead.renumbers
  | nothing hpoll => exact hn

/-! ### Errors -/

/-- The session does not know what it is told. -/
def Confused (e : SessionError) : Prop :=
  e = .agent .unknownOutbound ∨ e = .agent .unexpectedReconnect ∨ e = .mqtt .unknownPubAck

theorem not_confused_store (e : StoreError) : ¬ Confused (.agent (.store e)) := by
  rintro (h | h | h) <;> cases h

theorem not_confused_request : ¬ Confused (.mqtt .request) := by
  rintro (h | h | h) <;> cases h

theorem lookup_head {α : Type} {m : PacketMap α} {ids : List ℕ} {pkid : ℕ} (h : ids ++ [pkid] <+: ids ++ m.map Prod.fst) :
    ∃ a rest, m = (pkid, a) :: rest := by
  rw [List.prefix_append_right_inj] at h
  cases m with
  | nil => simp at h
  | cons entry rest =>
    obtain ⟨k, a⟩ := entry
    rw [List.map_cons, List.cons_prefix_cons] at h
    exact ⟨a, rest, by rw [h.1]⟩

theorem remove_head {α : Type} {m : PacketMap α} {pkid : ℕ} {a : α} {rest : PacketMap α} (h : m = (pkid, a) :: rest) :
    PacketMap.remove m pkid ≠ none := by
  rw [h]
  simp [PacketMap.remove]

/-- **A faithful client is never misunderstood.** -/
theorem Numbered.poll {p : Packet} {e : MqttError} (hn : Numbered h) (ht : InTransit h)
    (hclient : Client h (.packet p) ambient) (hpoll : h.driver.session.poll wire p = .error e) : e ≠ .unknownPubAck := by
  rintro rfl
  cases p with
  | connAck => cases hpoll
  | subAck codes =>
    simp only [MqttSession.poll] at hpoll
    split_ifs at hpoll
    cases hpoll
  | unsubAck topic reasons =>
    simp only [MqttSession.poll] at hpoll
    split_ifs at hpoll
    cases hpoll
  | publish p =>
    simp only [MqttSession.poll] at hpoll
    rcases hd : h.driver.session.commandDelivery wire p with e | delivery <;> rw [hd] at hpoll <;> cases hpoll
    unfold MqttSession.commandDelivery at hd
    split at hd
    · cases hd
    split_ifs at hd
    · cases hd
    split at hd
    · cases hd
    split at hd
    · cases hd
    split at hd
    · cases hd
    split_ifs at hd
    cases hd
  | pubAck pkid =>
    have hacked := hclient.acked pkid rfl
    rw [hn.sent] at hacked
    obtain ⟨a, rest, hm⟩ := lookup_head hacked
    simp only [MqttSession.poll] at hpoll
    split at hpoll
    · rename_i hnone
      exact remove_head hm hnone
    · cases hpoll
  | sentPublish pkid =>
    have hsent := hclient.sent pkid rfl
    have hledger := congrArg List.length ht.ledger
    rw [List.length_map, List.length_append, ← hn.count] at hledger
    rw [hn.sent, List.length_append, List.length_map, hledger] at hsent
    have hle := ht.length_le
    simp only [Host.transit, List.length_append, List.length_map] at hsent hle
    have hevents : h.driver.session.packetEvents = [] := List.length_eq_zero_iff.1 (by omega)
    simp only [MqttSession.poll] at hpoll
    split at hpoll
    · rename_i hnone
      rw [hnone, List.length_nil] at hsent
      omega
    · rw [hevents, List.lookup_nil] at hpoll
      cases hpoll
  | sentPubAck pkid =>
    have hflushed := hclient.flushed pkid rfl
    rw [hn.flushed] at hflushed
    obtain ⟨a, rest, hm⟩ := lookup_head hflushed
    simp only [MqttSession.poll] at hpoll
    split at hpoll
    · rename_i hnone
      exact remove_head hm hnone
    · cases hpoll
  | other => cases hpoll

/-- What surrounds a change fails with the errors of the store. -/
theorem errs_persist (faults : Faults) (candidate : StateV1) :
    Errs (fun e => ∃ e', e = AgentError.store e') (persistCandidate faults candidate) := by
  intro w e he
  by_cases hv : candidate.validate = .ok ()
  · rw [persistCandidate_valid hv] at he
    rcases hr : persist faults candidate w.tree with ⟨_ | e' | _, t⟩ <;> rw [hr] at he <;> cases he
    exact ⟨e', rfl⟩
  · rw [persistCandidate_invalid hv] at he
    cases he
    exact ⟨_, rfl⟩

theorem errs_onDisk {α : Type} (x : StoreProg α) : Errs (fun e => ∃ e', e = AgentError.store e') (onDisk x) := by
  intro w e he
  rw [onDisk_apply] at he
  have hmap : Errs (fun e => ∃ e', e = AgentError.store e') (mapErr AgentError.store x) := Errs.mapErr fun e' => ⟨e', rfl⟩
  exact hmap w.tree e he

/-- An operation fails as it decided to, or for the store. -/
theorem perform_err {retention : NonZeroU32} {faults : Faults} {call : Call} {w : World} {e : AgentError}
    (he : (perform pki retention faults call w).1 = .err e) : plan pki retention w.state call = .error e ∨ ∃ e', e = .store e' := by
  rw [perform_eq] at he
  generalize plan pki retention w.state call = decided at he ⊢
  rcases decided with e' | (reply | ⟨c, reply⟩ | ⟨n, cred, c, reply⟩)
  · cases he
    exact .inl rfl
  · cases he
  · exact .inr ((errs_persist faults c).bind (fun _ => Errs.pure reply) w e he)
  · exact .inr ((errs_onDisk _).bind (fun _ => (errs_persist faults c).bind fun _ => Errs.pure reply) w e he)

/-- A change fails as the agent decided to, or for the store. -/
theorem ask_errs {call : Call} {e : SessionError} (he : (ask pki ambient call h).1 = .err e) :
    (∃ e', e = .agent e' ∧ plan pki h.agent.retention h.agent.state call = .error e') ∨ ∃ e', e = .agent (.store e') := by
  unfold ask at he
  have hperform : ∀ e', (perform pki h.agent.retention ambient.faults call ⟨h.tree, h.agent.state⟩).1 = .err e' →
      plan pki h.agent.retention h.agent.state call = .error e' ∨ ∃ e'', e' = .store e'' := fun e' => perform_err
  generalize perform pki h.agent.retention ambient.faults call ⟨h.tree, h.agent.state⟩ = r at he hperform
  obtain ⟨_ | e' | _, w⟩ := r
  · cases he
  · cases he
    rcases hperform e' rfl with hplan | ⟨e'', rfl⟩
    · exact .inl ⟨e', rfl, hplan⟩
    · exact .inr ⟨e'', rfl⟩
  · cases he

/-- What is neither a confirmation nor a new connection is refused for no confusion. -/
theorem plan_not_confused {retention : NonZeroU32} {s : StateV1} {call : Call} {e : AgentError}
    (hplan : plan pki retention s call = .error e) (hcall : ∀ event, call ≠ .confirmOutbound event)
    (hmark : ∀ revision, call ≠ .markCurrentCredentialConnected revision) : ¬ Confused (.agent e) := by
  have hnot : (∃ e', e = .store e') ∨ e = .rotationInFlight ∨ e = .unexpectedDelivery → ¬ Confused (.agent e) := by
    rintro (⟨e', rfl⟩ | rfl | rfl)
    · exact not_confused_store e'
    · rintro (h | h | h) <;> cases h
    · rintro (h | h | h) <;> cases h
  apply hnot
  cases call with
  | applyCommand topic command now catalog => exact (plan_apply_error hplan).imp id fun h => .inl h.1
  | rejectMalformedDelivery topic commandId payload now =>
    simp only [plan, except_bind_error, mapError_eq_error] at hplan
    rcases hplan with ⟨e', -, rfl⟩ | ⟨identity, -, hplan⟩
    · exact .inl ⟨e', rfl⟩
    split_ifs at hplan
    · cases hplan
      exact .inr (.inr rfl)
    · left
      split at hplan
      · exact fromStore_replay _ _ _ hplan
      · exact fromStore_conflict _ _ _ _ _ _ hplan
      · exact fromStore_rejection _ _ _ hplan
  | confirmOutbound event => exact absurd rfl (hcall event)
  | markCurrentCredentialConnected revision => exact absurd rfl (hmark revision)
  | markPendingInboundSettled token =>
    obtain ⟨rfl, -⟩ := plan_change_error (·.markInboundSettled (some token)) rfl hplan
    exact .inr (.inr rfl)
  | markPendingInboundAbsent =>
    obtain ⟨rfl, -⟩ := plan_change_error (·.markInboundSettled none) rfl hplan
    exact .inr (.inr rfl)

/-! ### Handlers that are not confused -/

/-- The rule for an error of a sequence. -/
theorem bind_eq_err {α β : Type} {x : DriverProg α} {f : α → DriverProg β} {e : SessionError} (he : ((x >>= f) h).1 = .err e) :
    (x h).1 = .err e ∨ ∃ a h₁, x h = (.ok a, h₁) ∧ (f a h₁).1 = .err e := by
  rw [bind_apply] at he
  rcases hx : x h with ⟨a | e' | _, h₁⟩ <;> rw [hx] at he
  · exact .inr ⟨a, h₁, rfl, he⟩
  · have he' : (Outcome.err e' : Outcome SessionError β) = .err e := he
    exact .inl (congrArg _ (Outcome.err.inj he'))
  · cases he

/-- Programs of a handler that are not confused, whatever host they run on. -/
abbrev Clear {α : Type} (x : DriverProg α) : Prop := Errs (fun e => ¬ Confused e) x

theorem clear_pure {α : Type} (a : α) : Clear (pure a : DriverProg α) := Errs.pure a

theorem clear_driver {α : Type} {f : SessionDriver → DriverProg α} (hf : ∀ d, Clear (f d)) : Clear (driver >>= f) :=
  Errs.bind (fun _ _ h => by cases h) hf

theorem clear_agent {α : Type} {f : Running → DriverProg α} (hf : ∀ a, Clear (f a)) : Clear (agent >>= f) :=
  Errs.bind (fun _ _ h => by cases h) hf

theorem clear_set (g : SessionState → SessionState) : Clear (modify g) := fun _ _ h => by cases h

theorem clear_modify {α : Type} {f : Unit → DriverProg α} (g : SessionState → SessionState) (hf : Clear (f ())) :
    Clear (modify g >>= f) := Errs.bind (fun _ _ h => by cases h) fun _ => hf

theorem clear_ite {α : Type} {c : Prop} [Decidable c] {x y : DriverProg α} (hx : Clear x) (hy : Clear y) :
    Clear (if c then x else y) := by
  split_ifs
  · exact hx
  · exact hy

variable (ambient)

theorem clear_request (r : Request) (note : MqttSession → MqttSession) : Clear (request ambient r note) := by
  intro h e he
  unfold request at he
  split_ifs at he
  cases he
  exact not_confused_request

theorem clear_subscribe : Clear (subscribe ambient) := clear_driver fun _ => clear_request ambient _ _

theorem clear_unsubscribeCommand : Clear (unsubscribeCommand ambient) := clear_driver fun _ => clear_request ambient _ _

theorem clear_unsubscribeRecovery : Clear (unsubscribeRecovery ambient) := by
  refine clear_driver fun d => ?_
  rcases d.session.recoveryCommand with _ | scope
  · exact Errs.fail (by rintro (h | h | h) <;> cases h)
  · exact clear_request ambient _ _

theorem clear_reconnectRevision {α : Type} {f : Option NonZeroU64 → DriverProg α} (hf : ∀ revision, Clear (f revision)) :
    Clear (reconnectRevision >>= f) := by
  refine Errs.bind (clear_agent fun a => ?_) hf
  rcases hrec : a.reconnectRevision with e | revision
  · obtain rfl := reconnectRevision_error hrec
    exact Errs.fail (not_confused_store _)
  · exact Errs.pure _

variable (pki)

/-- Most changes are refused for no confusion. -/
theorem clear_ask {call : Call} (hcall : ∀ event, call ≠ .confirmOutbound event)
    (hmark : ∀ revision, call ≠ .markCurrentCredentialConnected revision) : Clear (ask pki ambient call) := by
  intro h e he
  rcases ask_errs he with ⟨e', rfl, hplan⟩ | ⟨e', rfl⟩
  · exact plan_not_confused hplan hcall hmark
  · exact not_confused_store e'

/-- The revision that is reported is the one the agent waits for. -/
theorem clear_markConnected : Clear (markConnected pki ambient) := by
  refine fun h e he => ?_
  unfold markConnected at he
  rcases hrec : h.agent.reconnectRevision with e' | _ | revision
  · obtain rfl := reconnectRevision_error hrec
    unfold reconnectRevision at he
    rw [bind_assoc, agent_bind, hrec] at he
    cases he
    exact not_confused_store _
  · rw [reconnectRevision_ok hrec] at he
    cases he
  · rw [reconnectRevision_ok hrec] at he
    rcases bind_eq_err he with hask | ⟨reply, h₁, -, hpure⟩
    · rcases ask_errs hask with ⟨e', rfl, hplan⟩ | ⟨e', rfl⟩
      · obtain ⟨-, hnone⟩ := plan_change_error (·.markReconnected revision.1) rfl hplan
        have hmark := markReconnected_eq_some.2 ⟨reconnectRevision_eq_some.1 hrec, rfl⟩
        rw [hnone] at hmark
        cases hmark
      · exact not_confused_store e'
    · cases hpure

theorem clear_listen : Clear (listen ambient) :=
  clear_driver fun _ => clear_agent fun _ => clear_ite
    ((clear_unsubscribeRecovery ambient).bind fun _ => clear_modify _ (clear_pure _))
    (clear_ite (clear_subscribe ambient) (clear_pure _))

variable (wire)

theorem clear_command (delivery : CommandDelivery) : Clear (onCommand pki wire ambient delivery) := by
  have hmark : ∀ revision, commandCall wire ambient delivery ≠ .markCurrentCredentialConnected revision := by
    intro revision
    unfold commandCall
    split
    · exact fun h => by cases h
    · exact fun h => by cases h
  have hobserve : Clear (observe delivery) := clear_driver fun _ => clear_ite (clear_set _) (clear_pure _)
  refine hobserve.bind fun _ => (clear_ask pki ambient (commandCall_ne_confirm wire ambient delivery) hmark).bind fun _ =>
    clear_driver fun _ => clear_agent fun _ => ?_
  exact clear_ite ((clear_unsubscribeCommand ambient).bind fun _ => clear_set _) (clear_request ambient _ _)

theorem clear_afterConfirm : Clear (afterConfirm ambient) := by
  refine clear_reconnectRevision fun revision => clear_driver fun d => clear_agent fun a => ?_
  refine clear_ite (clear_ite (clear_pure _) (clear_modify _ (clear_ite ?_ (clear_pure _))))
    (clear_ite ((clear_subscribe ambient).bind fun _ => clear_pure _) (clear_pure _))
  exact (clear_unsubscribeCommand ambient).bind fun _ => clear_modify _ (clear_pure _)

theorem clear_markAbsent : Clear (markAbsent pki ambient) :=
  clear_driver fun _ => clear_agent fun _ => clear_ite
    ((clear_ask pki ambient (fun _ h => by cases h) (fun _ h => by cases h)).bind fun _ => clear_pure _) (clear_pure _)

theorem clear_complete : Clear (complete ambient) := by
  refine clear_driver fun d => clear_agent fun a => ?_
  cases unsubscribeCompletion (d.state.reconnect = .ready) a.pendingInboundSettled a.rotationInFlight with
  | exit => exact clear_pure _
  | subscribe => exact clear_ite ((clear_subscribe ambient).bind fun _ => clear_pure _) (clear_pure _)
  | wait => exact clear_pure _

theorem clear_unsubscribed : Clear (onUnsubscribed pki ambient) := by
  refine clear_modify _ (clear_driver fun d => ?_)
  rcases d.state.pendingCommandAck with _ | ⟨delivery, token⟩
  · exact (clear_markAbsent pki ambient).bind fun _ => clear_complete ambient
  · exact clear_modify _ ((clear_request ambient _ _).bind fun _ => clear_pure _)

theorem clear_inboundAcknowledged (token : Option String) : Clear (onInboundAcknowledged pki ambient token) := by
  rcases token with _ | token
  · exact clear_pure _
  · exact (clear_ask pki ambient (fun _ h => by cases h) (fun _ h => by cases h)).bind fun _ =>
      clear_driver fun _ => clear_ite (clear_pure _) (clear_pure _)

theorem clear_publishNext : Clear (publishNext wire ambient) := by
  refine clear_driver fun d => clear_agent fun a => clear_ite ?_ (clear_pure _)
  rcases a.nextOutbound with _ | fact
  · exact clear_pure _
  · dsimp only
    rcases wire.encodeOutbound d.sessionIdentity fact with _ | payload
    · exact Errs.fail (by rintro (h | h | h) <;> cases h)
    · exact Errs.bind (clear_driver fun _ => clear_request ambient _ _) fun _ => clear_set _

theorem clear_head : Clear (head wire ambient) :=
  (clear_publishNext wire ambient).bind fun _ => clear_driver fun _ => clear_agent fun _ => clear_ite
    ((clear_request ambient _ _).bind fun _ => clear_pure _) (clear_pure _)

/-- **No handler of another event is confused**, -/
theorem clear_handleEvent {event : MqttEvent} (hevent : ∀ eventId, event ≠ .outboundAcknowledged eventId) :
    Clear (handleEvent pki wire ambient event) := by
  cases event with
  | connected =>
    have hconnected : Clear (onConnected pki ambient) :=
      clear_modify _ ((clear_markConnected pki ambient).bind fun _ => clear_listen ambient)
    exact hconnected.bind fun _ => clear_pure _
  | subscribed => exact clear_modify _ (clear_pure _)
  | unsubscribed => exact clear_unsubscribed pki ambient
  | command delivery => exact (clear_command pki wire ambient delivery).bind fun _ => clear_pure _
  | outboundAcknowledged eventId => exact absurd rfl (hevent eventId)
  | inboundAcknowledged token => exact clear_inboundAcknowledged pki ambient token
  | transportProgress => exact clear_pure _

variable {pki ambient wire}

/-- and that of a PUBACK is not, if its event is the one that is on its way. -/
theorem clear_outboundAcknowledged {eventId : String} {e : SessionError} (hg : h.Good pki)
    (hpending : h.driver.state.publish = .pending) (hoffers : Offers h.agent.state eventId)
    (he : (handleEvent pki wire ambient (.outboundAcknowledged eventId) h).1 = .err e) : ¬ Confused e := by
  simp only [handleEvent, onOutboundAcknowledged, driver_bind] at he
  rw [if_neg (not_not.2 hpending), modify_bind] at he
  rcases bind_eq_err he with hask | ⟨reply, h₁, -, hafter⟩
  · rcases ask_errs hask with ⟨e', rfl, hplan⟩ | ⟨e', rfl⟩
    · obtain ⟨-, hnone⟩ := plan_change_error (·.confirmOutbound eventId) rfl hplan
      obtain ⟨c, hc⟩ := hoffers.confirms hg.coherent
      exact absurd (hc.symm.trans hnone) (by simp)
    · exact not_confused_store e'
  · exact clear_afterConfirm ambient h₁ e hafter

/-- **A round of a session that keeps its maps is not confused.** -/
theorem turn_not_confused {poll : Poll} {e : SessionError} (hg : h.Good pki) (hn : Numbered h) (ht : InTransit h)
    (hclient : Client h poll ambient) (he : (turn pki wire ambient poll h).1 = .err e) : ¬ Confused e := by
  cases poll with
  | packet p =>
    simp only [turn] at he
    rcases bind_eq_err he with hpoll | ⟨event, h₁, hpolled, he⟩
    · unfold pollSession at hpoll
      split at hpoll
      · rename_i e' herror
        cases hpoll
        rintro (h | h | h) <;> cases h
        exact hn.poll ht hclient herror rfl
      · cases hpoll
    · unfold pollSession at hpolled
      split at hpolled
      · cases hpolled
      · rename_i event' session hok
        cases hpolled
        have hp := MqttSession.poll_cases hok
        rcases bind_eq_err he with hhandle | ⟨control, h₂, -, he⟩
        · by_cases hevent : ∀ eventId, event ≠ .outboundAcknowledged eventId
          · exact clear_handleEvent pki wire ambient hevent _ _ hhandle
          · simp only [not_forall, not_not] at hevent
            obtain ⟨eventId, rfl⟩ := hevent
            obtain ⟨htransit, -, -⟩ := ht.acknowledged hp
            have hpending : h.driver.state.publish = .pending := by
              have hlen := ht.pending
              rw [htransit] at hlen
              by_contra hne
              rw [if_neg hne] at hlen
              cases hlen
            have hoffered := ht.offered eventId (by rw [htransit]; simp)
            exact clear_outboundAcknowledged (hg.polled p (.outboundAcknowledged eventId) session) hpending hoffered hhandle
        · cases control with
          | reconnect => cases he
          | proceed => exact clear_head wire ambient h₂ e he
  | failed error =>
    cases he
    rintro (h | h | h) <;> cases h
  | shutdown =>
    simp only [turn, driver_bind] at he
    by_cases hshut : h.driver.state.shutdownDeadline = true
    · rw [if_pos hshut] at he
      cases he
    · rw [if_neg hshut] at he
      have hstart : Clear (startShutdown ambient) := clear_modify _ (clear_driver fun _ => clear_ite
        ((clear_unsubscribeCommand ambient).bind fun _ => clear_set _) (clear_pure _))
      exact (hstart.bind fun _ => clear_head wire ambient) h e he
  | deadline =>
    simp only [turn, driver_bind] at he
    split_ifs at he

end

/-! ### Every run -/

section

variable {pki : Pki} {wire : Wire}

/-- How a session comes to its end. -/
theorem Process.step_ended {p : Process} {input : Input} {e : SessionError}
    (hgood : ∀ a driver, p.device.agent = some a → (p.host a driver).Good pki)
    (hmem : .ended (.error e) ∈ (p.step pki wire input).deeds) :
    .ended (.error e) ∈ p.deeds ∨ (∃ a readable, SessionDriver.create a readable = .error e) ∨
      ∃ a driver poll ambient, p.device.agent = some a ∧ p.stage = .session driver ∧ input = .turn poll ambient ∧
        (turn pki wire ambient poll (p.host a driver)).1 = .err e := by
  cases input with
  | start config now faults =>
    simp only [Process.step] at hmem
    split at hmem <;> exact .inl hmem
  | kill => exact .inl hmem
  | signal =>
    simp only [Process.step] at hmem
    split at hmem <;> exact .inl hmem
  | connect readable =>
    simp only [Process.step] at hmem
    split at hmem
    · exact .inl hmem
    · rename_i a _ _
      unfold Process.connect at hmem
      rcases hcreate : SessionDriver.create a readable with e' | driver <;> rw [hcreate] at hmem
      · rw [(p.conclude_deeds _).1, List.mem_append, List.mem_singleton] at hmem
        rcases hmem with hmem | heq
        · exact .inl hmem
        · cases heq
          exact .inr (.inl ⟨a, readable, hcreate⟩)
      · have hmem' : .ended (.error e) ∈ p.deeds ++ [_] := hmem
        rw [List.mem_append, List.mem_singleton] at hmem'
        exact .inl (hmem'.resolve_right fun h => by cases h)
    · exact .inl hmem
  | turn poll ambient =>
    simp only [Process.step] at hmem
    split at hmem
    · rename_i a driver ha hstage
      split_ifs at hmem
      · have hr : Rounds pki wire ambient (p.host a driver) poll _ _ := turn_cases poll
        rcases hturn : turn pki wire ambient poll (p.host a driver) with ⟨o, h'⟩
        rw [hturn] at hmem hr
        have hearlier : .ended (.error e) ∈ h'.deeds → .ended (.error e) ∈ p.deeds := hr.ended (hgood a driver ha)
        have hafter := p.after_cases o h'
        generalize p.after (o, h') = q at hafter hmem
        cases hafter with
        | proceeds => exact .inl (hearlier hmem)
        | crashed => exact .inl (hearlier hmem)
        | completed completion =>
          rw [((p.resume h').conclude_deeds _).1, List.mem_append, List.mem_singleton] at hmem
          exact .inl (hearlier (hmem.resolve_right fun h => by cases h))
        | failed e' =>
          rw [((p.resume h').conclude_deeds _).1, List.mem_append, List.mem_singleton] at hmem
          rcases hmem with hmem | heq
          · exact .inl (hearlier hmem)
          · cases heq
            exact .inr (.inr ⟨a, driver, poll, ambient, ha, hstage, rfl, by rw [hturn]⟩)
      · exact .inl hmem
    · exact .inl hmem

theorem numbered_inductive : Inductive pki wire (fun h poll ambient => (ReceiveMaximum h poll ambient ∧ Tracks wire h) ∧
    InTransit h) (fun _ _ => True) Numbered where
  fresh := trivial
  first _ _ := trivial
  ended _ _ := trivial
  opened _ hcreate _ := by
    obtain ⟨identity, recoveryCommand, -, -, hdriver⟩ := create_cases hcreate
    refine ⟨trivial, ?_⟩
    rw [hdriver]
    refine ⟨?_, ?_, ?_⟩ <;> dsimp only <;> rw [lastSession_opened] <;> rfl
  round hg _ hn hE hr := by
    refine ⟨trivial, fun ho => ?_⟩
    subst ho
    exact hr.numbered hg hn hE.2 hE.1.2 hE.1.1

/-- **No session is confused.**  While the broker keeps to the receive maximum and the client to its packet identifiers, no
session ends because it does not know a packet identifier, an event to confirm or the revision it was opened for. -/
theorem never_confused {inputs : List Input} (hrun : Along pki wire (fun h poll ambient => ReceiveMaximum h poll ambient ∧
      Client h poll ambient) inputs) :
    ∀ e, .ended (.error e) ∈ (Process.fresh.run pki wire inputs).deeds → ¬ Confused e := by
  have htransit : Along pki wire (fun h _ _ => InTransit h) inputs :=
    (inTransit_inductive.along fun _ _ _ _ _ _ _ _ _ _ => trivial).mono fun _ _ _ h => h.2.2
  have hall := ((hrun.tracks fun _ _ _ h => h.1).and htransit).mono fun _ _ _ h =>
    (⟨⟨⟨h.1.1.1, h.1.2⟩, h.2⟩, h.1.1.2⟩ : ((ReceiveMaximum _ _ _ ∧ Tracks wire _) ∧ InTransit _) ∧ Client _ _ _)
  clear hrun htransit
  induction inputs using List.reverseRecOn with
  | nil =>
    intro e hmem
    cases hmem
  | append_singleton inputs input ih =>
    obtain ⟨hbefore, hmeets⟩ := atEvery_concat.1 hall
    change Along pki wire _ inputs at hbefore
    have hnumbered := numbered_inductive.run (hbefore.mono fun _ _ _ h => h.1)
    have hold := ih hbefore
    rw [Process.run_concat]
    generalize Process.fresh.run pki wire inputs = p at hnumbered hold hmeets ⊢
    intro e hmem
    rcases Process.step_ended (fun a driver ha => hnumbered.good ha) hmem with hmem | ⟨a, readable, hcreate⟩ |
      ⟨a, driver, poll, ambient, ha, hstage, hinput, hturn⟩
    · exact hold e hmem
    · rcases create_refusal hcreate with ⟨e', rfl⟩ | rfl
      · exact not_confused_store e'
      · rintro (h | h | h) <;> cases h
    · obtain ⟨⟨-, ht⟩, hclient⟩ := hmeets _ _ _ _ ha hstage hinput
      exact turn_not_confused (hnumbered.good ha) (hnumbered.session _ _ ha hstage) ht hclient hturn

/-- A packet without a packet identifier of the client. -/
theorem client_plain {h : Host} {p : Packet} {ambient : Ambient} (hsent : ∀ pkid, p ≠ .sentPublish pkid)
    (hacked : ∀ pkid, p ≠ .pubAck pkid) (hflushed : ∀ pkid, p ≠ .sentPubAck pkid) : Client h (.packet p) ambient where
  sent pkid heq := absurd (Poll.packet.inj heq) (hsent pkid)
  acked pkid heq := absurd (Poll.packet.inj heq) (hacked pkid)
  flushed pkid heq := absurd (Poll.packet.inj heq) (hflushed pkid)

open Fixture in
/-- A delivery is answered, its PUBACK leaves, and so does the acknowledgement. -/
theorem never_confused_drained : ¬ ∃ e, .ended (.error e) ∈ (run (Fixture.listen ++
    [packet (.publish (badDelivery 0).publish)] ++ [packet (.sentPubAck 1)] ++ [packet (.sentPublish 1)])).deeds ∧ Confused e := by
  have hlistening : At (fun h poll ambient => ReceiveMaximum h poll ambient ∧ Client h poll ambient) Fixture.listen
      (resting 0 []) listening _ :=
    at_listens (fun _ _ ha => ⟨ha.receiveMaximum, client_plain (by simp) (by simp) (by simp)⟩)
      fun _ _ ha => ⟨ha.receiveMaximum, client_plain (by simp) (by simp) (by simp)⟩
  have hanswered := hlistening.answers (by decide) fun _ =>
    ⟨fun _ _ => rfl, client_plain (by simp) (by simp) (by simp)⟩
  have hflushed : At _ _ (resting 1 [rejectionEntry 0]) (Fixture.flushed .active 0) _ :=
    hanswered.proceeds (p := .sentPubAck 1) (fun _ => ⟨fun _ h => (by cases h),
      { sent := fun _ h => (by cases h), acked := fun _ h => (by cases h),
        flushed := fun _ h => by cases h; exact List.prefix_rfl }⟩) rfl fun tree _ =>
      ⟨tree, _, .inboundOther, head_quiet rfl fun h => by cases h⟩
  have hsent : At _ _ (resting 1 [rejectionEntry 0]) (Fixture.sent .active 0) _ :=
    hflushed.proceeds (p := .sentPublish 1) (fun _ => ⟨fun _ h => (by cases h),
      { sent := fun _ h => Nat.one_pos, acked := fun _ h => (by cases h), flushed := fun _ h => (by cases h) }⟩) rfl
      fun tree _ => ⟨tree, _, .progress, head_quiet rfl fun h => by cases h⟩
  obtain ⟨tree, hs⟩ := hsent
  rintro ⟨e, hmem, hconfused⟩
  exact never_confused hs.along e hmem hconfused

end

end RssIncubator.Driver
