import RssIncubator.Agent.Acceptance
import RssIncubator.Agent.Redelivery
import RssIncubator.Driver.Exact

/-!
# The rounds of a rotation

An accepted command in a session without failures: it is held until its subscription has ended, its PUBACK leaves and
carries its settlement, and its acknowledgement is published.  Before that the place of the new revision must be free;
only a command takes it.  When the acknowledgement is confirmed the session gives way to that of the new credential,
which ends the old subscription, publishes the report and asks for its own.
-/

namespace RssIncubator.Driver

open Agent Lib Prog

/-! ### What a round leaves on disk -/

section Disk

variable {pki : Pki} {wire : Wire} {ambient : Ambient} {h h₁ h' : Host} {event : MqttEvent}

/-- The tree of a round is the old one, or that of the one change it asked for. -/
inductive Leaves (pki : Pki) (wire : Wire) (ambient : Ambient) (h : Host) (poll : Poll) (t : Disk) : Prop
  | same (ht : t = h.tree)
  | asked {p event session call} (hp : poll = .packet p) (hpoll : h.driver.session.poll wire p = .ok (event, session))
      (hasks : Asks wire ambient (h.polled p event session) event call)
      (ht : t = (h.device.step pki (.call call ambient.faults)).2.tree)

theorem Before.leaves {p : Packet} {session : MqttSession} (hpoll : h.driver.session.poll wire p = .ok (event, session))
    (hb : Before pki wire ambient (h.polled p event session) event h₁) (ht : h'.tree = h₁.tree) :
    Leaves pki wire ambient h (.packet p) h'.tree := by
  cases hb with
  | unasked f => exact .same ht
  | asked g hasks hask => exact .asked rfl hpoll hasks (ht.trans (ask_device hask).1)

theorem Rounds.leaves {poll : Poll} {o : Outcome SessionError (Option SessionCompletion)}
    (hr : Rounds pki wire ambient h poll o h') : Leaves pki wire ambient h poll h'.tree := by
  cases hr with
  | lost e => exact .same rfl
  | refused hpoll => exact .same rfl
  | broken hpoll hbroken =>
    cases hbroken with
    | refused hasks hask => exact .asked rfl hpoll hasks (ask_device hask).1
    | unqueued hbefore => exact hbefore.leaves hpoll rfl
    | unknown hbefore => exact hbefore.leaves hpoll rfl
    | invalid hbefore => exact hbefore.leaves hpoll rfl
    | unscoped hbefore hdriver hscope => exact hbefore.leaves hpoll rfl
  | crashed hpoll hcrash =>
    obtain ⟨hasks, hask⟩ := hcrash
    exact .asked rfl hpoll hasks (ask_device hask).1
  | switched hpoll hhandled =>
    obtain ⟨h₁, hbefore, hsends⟩ := hhandled.before
    exact hbefore.leaves hpoll hsends.tree
  | handled hpoll hhandled hhead =>
    obtain ⟨h₁, hbefore, hsends⟩ := hhandled.before
    exact hbefore.leaves hpoll (hhead.sends.tree.trans hsends.tree)
  | stopping hstop hhead => exact .same (hhead.sends.tree.trans hstop.sends.tree)
  | unstopped => exact .same rfl
  | expired hshut => exact .same rfl
  | nothing hpoll => exact .same rfl

/-- A round that takes no command leaves the places of the revisions free. -/
theorem Rounds.free {poll : Poll} {o : Outcome SessionError (Option SessionCompletion)} {n : ℕ} (hg : h.Good pki)
    (hr : Rounds pki wire ambient h poll o h') (hnone : h.tree.get (revisionRoot n) = none)
    (hno : ∀ p, poll = .packet (.publish p) → ∀ identity commandId, wire.decodeCommand identity commandId p.payload = none) :
    h'.tree.get (revisionRoot n) = none := by
  cases hr.leaves with
  | same ht => rw [ht, hnone]
  | asked hp hpoll hasks ht =>
    rw [ht]
    refine hg.sound.step_free rfl ambient.faults ?_ hnone
    rintro topic command now catalog rfl
    subst hp
    generalize hcall : Call.applyCommand topic command now catalog = call at hasks
    cases hasks with
    | mark hrec => cases hcall
    | confirm hpending => cases hcall
    | absent hheld hscope hobs hset => cases hcall
    | settle => cases hcall
    | command delivery =>
      cases MqttSession.poll_cases hpoll with
      | command hdelivery =>
        unfold commandCall at hcall
        rw [MqttSession.commandDelivery_publish hdelivery, hno _ rfl] at hcall
        cases hcall

theorem Process.step_free {p : Process} {q : Packet} {n : ℕ}
    (hgood : ∀ a driver, p.device.agent = some a → (p.host a driver).Good pki)
    (hnone : p.device.tree.get (revisionRoot n) = none)
    (hno : ∀ r, q = .publish r → ∀ identity commandId, wire.decodeCommand identity commandId r.payload = none) :
    (p.step pki wire (.turn (.packet q) ambient)).device.tree.get (revisionRoot n) = none := by
  simp only [Process.step]
  split
  · rename_i a driver ha hstage
    have hr : Rounds pki wire ambient (p.host a driver) (.packet q) _ _ := turn_cases _
    have hfree := hr.free (hgood a driver ha) hnone fun r hr => hno r (by cases hr; rfl)
    split_ifs
    · have htree := (p.after_cases (Driver.turn pki wire ambient (.packet q) (p.host a driver)).1
        (Driver.turn pki wire ambient (.packet q) (p.host a driver)).2).deeds.1
      exact (congrArg (·.get (revisionRoot n)) htree).trans hfree
    · exact hnone
  · exact hnone

end Disk

/-! ### A command on the device of the tests -/

namespace Fixture

open Agent.Fixture

variable {E : Broker} {inputs : List Input} {deeds : List Deed} {artifact : ResolvedArtifact} {n : ℕ}

theorem good_run (inputs : List Input) (a : Running) (driver : SessionDriver) (ha : (run inputs).device.agent = some a) :
    ((run inputs).host a driver).Good Agent.Fixture.pki := by
  have hrun : Along Agent.Fixture.pki wire (fun _ _ _ => True) inputs := fun _ _ _ _ _ _ _ _ _ _ => trivial
  exact (trivial_inductive.run hrun).good ha

/-- The place of the second revision is free. -/
def Vacant (inputs : List Input) : Prop := (run inputs).device.tree.get (revisionRoot 2) = none

theorem Vacant.packet {q : Packet} (h : Vacant inputs)
    (hno : ∀ p, q = .publish p → ∀ identity commandId, wire.decodeCommand identity commandId p.payload = none) :
    Vacant (inputs ++ [packet q]) := by
  unfold Vacant run
  rw [Process.run_concat]
  exact Process.step_free (good_run inputs) h hno

theorem vacant_starting : Vacant starting := by
  have hconnect : ∀ p : Process, (p.step Agent.Fixture.pki wire (.connect true)).device.tree = p.device.tree := by
    intro p
    simp only [Process.step]
    split
    · rfl
    · unfold Process.connect
      split
      · rfl
      · exact (p.conclude_deeds _).2.1
    · rfl
  have hstart : Process.fresh.run Agent.Fixture.pki wire [.start config now clean] =
      ⟨Device.fresh.run Agent.Fixture.pki [start], .opening, false, []⟩ := rfl
  unfold Vacant run starting
  rw [Process.run_concat, hconnect, hstart]
  exact start_revision

theorem vacant_listen : Vacant listen :=
  (vacant_starting.packet fun _ h => by cases h).packet fun _ h => by cases h

/-- A document with the rotation in flight, and these in its outbox. -/
def turning (n : ℕ) (artifact : ResolvedArtifact) (outbox : List StoredOutbound) (reconnect : Option ℕ) (settled : Bool) :
    StateV1 :=
  { (resting n []).accepted (identity one) (acceptedCommand retention (command 0) artifact two now) with
    outbox := outbox
    reconnectRevision := reconnect
    pendingInbound := some { (acceptedCommand retention (command 0) artifact two now).pending (identity one) with
      settled := settled } }

def turningAck (n : ℕ) (artifact : ResolvedArtifact) : StoredOutbound :=
  .ack (eventId .ack commandId.expose)
    ((acceptedCommand retention (command 0) artifact two now).acknowledgement (saturatingAdd n 1))

def turningReport (n : ℕ) (artifact : ResolvedArtifact) : StoredOutbound :=
  .reportBlocked (eventId .report commandId.expose) ((acceptedCommand retention (command 0) artifact two now).report
    first.identity (saturatingAdd (saturatingAdd n 1) 1))

/-- The command is no one of those that do not decode. -/
theorem name_ne (n : ℕ) : (name n).expose ≠ commandId.expose := by
  intro h
  have hlist := congrArg (fun text : String => text.toList.length) h
  simp [name, commandId] at hlist

theorem acceptable_resting (hn : n < 1024) : ∃ credential,
    Acceptable Agent.Fixture.pki (resting n []) topic (command 0) now (catalog 0) credential := by
  obtain ⟨artifact, -, hp, hv⟩ := plan_apply (.inl rfl)
  obtain ⟨-, hacc, -⟩ := acceptable_of_plan coherent_first.consistent (by decide) hp hv
  obtain ⟨owner, entry, howner, htopic, hdevice, ho, hgen⟩ := hacc.offered
  refine ⟨artifact.credential, ?_, rfl, ⟨owner, entry, howner, htopic, hdevice, ho, hgen⟩, hacc.deadline, hacc.fence,
    hacc.generation, Nat.zero_le _, ?_⟩
  · intro c hc hname
    obtain ⟨k, -, rfl⟩ := List.mem_map.1 hc
    exact absurd hname (name_ne k)
  · rw [resting_expire]
    show ((List.range n).map journalEntry).length < 1024
    rw [List.length_map, List.length_range]
    exact hn

/-- While the place of its revision is free, the command is accepted. -/
theorem ask_accepts (hn : n < 1024) {h : Host} (hg : h.Good Agent.Fixture.pki) (hagent : h.agent = ⟨resting n [], retention⟩)
    (hfree : h.tree.get (revisionRoot 2) = none) : ∃ artifact tree, artifact.credentialGeneration = two ∧
      ask Agent.Fixture.pki ambient (apply 0 now) h = (.ok (.outcome .accepted), h.asked (apply 0 now)
        ⟨tree, turning n artifact [turningAck n artifact, turningReport n artifact] none false⟩
        [.answered (apply 0 now) (.outcome .accepted)
          (turning n artifact [turningAck n artifact, turningReport n artifact] none false)]) := by
  obtain ⟨tree, agent, d, deeds⟩ := h
  obtain rfl : agent = ⟨resting n [], retention⟩ := hagent
  obtain ⟨credential, hacc⟩ := acceptable_resting hn
  have hseq : (resting n []).deviceSequence + 2 ≤ u64Max := show n + 2 ≤ 18446744073709551615 by omega
  obtain ⟨hreply, owner, artifact, revision, howner, hres, hrevision, hafter⟩ := hg.sound.step_acceptable positiveExpiry rfl
    (show now ≤ i64Max by decide) hacc (.inl hfree) (show 1 < u64Max by decide) hseq fun ⟨o, ho, _⟩ => by cases ho
  obtain rfl : revision = two := Subtype.ext hrevision
  obtain rfl : owner = identity one := Except.ok.inj (howner.symm.trans coherent_first.consistent.currentIdentity)
  have hstate : ((resting n []).expireCommandJournal now).accepted (identity one)
      (acceptedCommand retention (command 0) artifact two now) =
        turning n artifact [turningAck n artifact, turningReport n artifact] none false := by
    rw [resting_expire]
    rfl
  have htwo : ((catalog 0).resolve Agent.Fixture.pki (identity one) (command 0) now).map (·.credentialGeneration) = .ok two := by
    decide +kernel
  rw [hres] at htwo
  obtain ⟨tree', hask⟩ := ask_answered _ ambient_faults hreply hafter
  refine ⟨artifact, tree', Except.ok.inj htwo, ?_⟩
  rw [← hstate]
  exact hask

/-! ### Its delivery in a session -/

/-- The command as the broker sends it, under any name. -/
def named (commandId : CommandId) : CommandDelivery := delivery (identity one) commandId (commandPayload 0)

theorem commandCall_named (commandId : CommandId) : commandCall wire ambient (named commandId) =
    .applyCommand topic { command 0 with commandId := commandId } now (catalog 0) :=
  commandCall_decoded (if_pos rfl)

/-- The settlement token of the delivery that is accepted. -/
def token : String := settlementToken topic commandId.expose (commandFingerprint (command 0))

/-- The session that holds it, -/
def holding : SessionDriver where
  session := { opened.session with unsubscribing := [topic], inflight := 1 }
  sessionIdentity := identity one
  recoveryCommand := none
  state := { connection := .connected, subscription := .unsubscribing, pendingCommandAck := some (named commandId, some token) }

def turningFact (n : ℕ) (artifact : ResolvedArtifact) : OutboundFact :=
  .commandAcknowledged (eventId .ack commandId.expose)
    ((acceptedCommand retention (command 0) artifact two now).acknowledgement (saturatingAdd n 1)).toFact

/-- the session in which its PUBACK and its acknowledgement are on their way, -/
def releasing (n : ℕ) (artifact : ResolvedArtifact) : SessionDriver where
  session := { opened.session with
    inboundAcknowledgements := [(1, some token)], awaitingPacketId := [(turningFact n artifact).eventId], inflight := 1 }
  sessionIdentity := identity one
  recoveryCommand := none
  state := { connection := .connected, publish := .pending }

/-- and the one after its PUBACK has left. -/
def settling (n : ℕ) (artifact : ResolvedArtifact) : SessionDriver where
  session := { opened.session with awaitingPacketId := [(turningFact n artifact).eventId] }
  sessionIdentity := identity one
  recoveryCommand := none
  state := { connection := .connected, publish := .pending }

/-- What happens when it is taken. -/
def takenDeeds (n : ℕ) (artifact : ResolvedArtifact) : List Deed :=
  [.asked (apply 0 now) (resting n []), .answered (apply 0 now) (.outcome .accepted)
    (turning n artifact [turningAck n artifact, turningReport n artifact] none false)]

theorem turning_token (outbox : List StoredOutbound) (reconnect : Option ℕ) (settled : Bool) :
    Running.pendingDeliverySettlementToken ⟨turning n artifact outbox reconnect settled, retention⟩ topic commandId.expose =
      some token := by
  unfold Running.pendingDeliverySettlementToken
  show Option.bind (some _) _ = _
  rw [Option.bind_some]
  exact if_pos ⟨rfl, rfl⟩

/-- A session that listens takes the command. -/
theorem At.takes (hn : n < 1024) (hat : At E inputs (resting n []) listening deeds) (hvacant : Vacant inputs)
    (hE : ∀ tree, E ⟨tree, ⟨resting n [], retention⟩, listening, deeds⟩ (.packet (.publish (named commandId).publish)) ambient) :
    ∃ artifact, artifact.credentialGeneration = two ∧ At E (inputs ++ [packet (.publish (named commandId).publish)])
      (turning n artifact [turningAck n artifact, turningReport n artifact] none false) holding
      (deeds ++ [.polled (.publish (named commandId).publish) (.command (named commandId))] ++ takenDeeds n artifact ++
        [.queued (.unsubscribe topic)]) := by
  obtain ⟨tree, hs⟩ := hat
  have hfree : tree.get (revisionRoot 2) = none := by
    unfold Vacant run at hvacant
    rw [hs.run] at hvacant
    exact hvacant
  obtain ⟨artifact, tree', htwo, hask⟩ := ask_accepts hn (hs.good.polled (.publish (named commandId).publish)
    (.command (named commandId)) { listening.session with inflight := 1 }) rfl hfree
  have hcall : commandCall wire ambient (named commandId) = apply 0 now := commandCall_named commandId
  rw [← hcall] at hask
  have hscope : listening.session.commandIdentity topic commandId.expose = some (identity one) := if_pos (by decide)
  have hhandled : Handled _ wire _ _ _ _ _ := Handled.held (h := Host.polled ⟨tree, ⟨resting n [], retention⟩, listening,
    deeds⟩ (.publish (named commandId).publish) (.command (named commandId)) { listening.session with inflight := 1 }) hask
    (.inl rfl)
  change Handled _ _ _ _ _ (Host.holds _ _ (Running.pendingDeliverySettlementToken ⟨turning n artifact _ _ _, retention⟩
    topic commandId.expose)) _ at hhandled
  rw [turning_token, hcall] at hhandled
  have hturn := turn_proceeds (h := ⟨tree, ⟨resting n [], retention⟩, listening, deeds⟩) rfl
    (poll_publish (commandPayload 0) hscope) hhandled
  exact ⟨artifact, htwo, tree', hs.turn (hE tree) (hturn.trans (head_quiet rfl fun h => by cases h))⟩

/-- Once its subscription has ended, its PUBACK is queued and its acknowledgement published. -/
theorem At.releases (hat : At E inputs (turning n artifact [turningAck n artifact, turningReport n artifact] none false) holding
    deeds) (hE : ∀ h, h.driver = holding → Allowed h (.packet (.unsubAck topic [.success])) ambient →
      E h (.packet (.unsubAck topic [.success])) ambient) : At E (inputs ++ [packet (.unsubAck topic [.success])])
      (turning n artifact [turningAck n artifact, turningReport n artifact] none false) (releasing n artifact)
      (deeds ++ [.polled (.unsubAck topic [.success]) .unsubscribed] ++ [.queued (.ack (named commandId))] ++
        [.queued (.publish (commandAcknowledgedTopic (identity one)) (turningFact n artifact)
          (factPayload (identity one) (turningFact n artifact)))]) := by
  have hpoll : holding.session.poll wire (.unsubAck topic [.success]) =
      .ok (.unsubscribed, { holding.session with unsubscribing := [] }) := poll_unsubAck rfl
  exact hat.proceeds (fun _ => hE _ rfl (allowed_unsubAck rfl (List.mem_singleton_self _))) hpoll fun tree _ =>
    ⟨tree, _, .released rfl, head_publishes rfl rfl rfl rfl⟩

/-- The settlement token settles the pending delivery. -/
theorem ask_settles {s : StateV1} {p : StoredInboundSettlement} {h : Host} (hg : h.Good Agent.Fixture.pki)
    (hagent : h.agent = ⟨s, retention⟩) (hpending : s.pendingInbound = some p) : ∃ tree,
      ask Agent.Fixture.pki ambient (.markPendingInboundSettled p.settlementToken) h =
        (.ok .done, h.asked (.markPendingInboundSettled p.settlementToken)
          ⟨tree, { s with pendingInbound := some { p with settled := true } }⟩
          [.answered (.markPendingInboundSettled p.settlementToken) .done
            { s with pendingInbound := some { p with settled := true } }]) := by
  obtain ⟨tree, agent, d, deeds⟩ := h
  obtain rfl : agent = ⟨s, retention⟩ := hagent
  obtain ⟨hreply, hafter⟩ := hg.sound.step_settled rfl (hg.sound.expires positiveExpiry rfl) hpending
  exact ask_answered _ ambient_faults hreply hafter

/-- A PUBACK with the token of the pending delivery leaves. -/
theorem At.flushes {s : StateV1} {d : SessionDriver} {p : StoredInboundSettlement} (hat : At E inputs s d deeds)
    (hE : ∀ h, Allowed h (.packet (.sentPubAck 1)) ambient → E h (.packet (.sentPubAck 1)) ambient)
    (hpending : s.pendingInbound = some p) (hacks : d.session.inboundAcknowledgements = [(1, some p.settlementToken)])
    (hconn : d.state.connection = .connected) (hdormant : d.state.reconnect = .dormant) (hshut : d.state.shutdownDeadline = false)
    (hquiet : d.state.canPublish = false) :
    At E (inputs ++ [packet (.sentPubAck 1)]) { s with pendingInbound := some { p with settled := true } }
      { d with session := { d.session with inboundAcknowledgements := [], inflight := d.session.inflight - 1 } }
      (deeds ++ [.polled (.sentPubAck 1) (.inboundAcknowledged (some p.settlementToken))] ++
        [.asked (.markPendingInboundSettled p.settlementToken) s, .answered (.markPendingInboundSettled p.settlementToken) .done
          { s with pendingInbound := some { p with settled := true } }]) := by
  have hpoll : d.session.poll wire (.sentPubAck 1) = .ok (.inboundAcknowledged (some p.settlementToken),
      { d.session with inboundAcknowledgements := [], inflight := d.session.inflight - 1 }) := by
    simp [MqttSession.poll, PacketMap.remove, hacks]
  refine hat.proceeds (fun _ => hE _ (allowed_acknowledgement hconn (.inl rfl))) hpoll fun tree hg => ?_
  have hg' := hg.polled (.sentPubAck 1) (.inboundAcknowledged (some p.settlementToken))
    { d.session with inboundAcknowledgements := [], inflight := d.session.inflight - 1 }
  obtain ⟨tree', hask⟩ := ask_settles hg' rfl hpending
  refine ⟨tree', _, .inboundSettled hask ?_, head_quiet hshut fun h => absurd (hquiet.symm.trans h) Bool.false_ne_true⟩
  rw [if_neg]
  rintro ⟨h, -⟩
  exact absurd (hdormant.symm.trans h) (by decide)

/-- The PUBACK of the command settles it. -/
theorem At.settles (hat : At E inputs (turning n artifact [turningAck n artifact, turningReport n artifact] none false)
    (releasing n artifact) deeds)
    (hE : ∀ h, Allowed h (.packet (.sentPubAck 1)) ambient → E h (.packet (.sentPubAck 1)) ambient) :
    At E (inputs ++ [packet (.sentPubAck 1)])
      (turning n artifact [turningAck n artifact, turningReport n artifact] none true) (settling n artifact)
      (deeds ++ [.polled (.sentPubAck 1) (.inboundAcknowledged (some token))] ++ [.asked (.markPendingInboundSettled token)
        (turning n artifact [turningAck n artifact, turningReport n artifact] none false),
        .answered (.markPendingInboundSettled token) .done
          (turning n artifact [turningAck n artifact, turningReport n artifact] none true)]) :=
  hat.flushes (p := { (acceptedCommand retention (command 0) artifact two now).pending (identity one) with settled := false })
    hE rfl rfl rfl rfl rfl rfl

/-- While there is room, intake is open. -/
theorem turning_open {outbox : List StoredOutbound} {reconnect : Option ℕ} {settled : Bool} (hn : n + 1 < 1024)
    (hout : outbox.length ≤ 126) :
    Running.commandIntakeOpen ⟨turning n artifact outbox reconnect settled, retention⟩ now = true :=
  intakeOpen_of_room (by simpa [turning, resting, StateV1.accepted] using hn) hout

/-- Delivered again, the command is known, and its acknowledgement outstanding. -/
theorem ask_keeps {rest : List StoredOutbound} {settled : Bool} {h : Host} (hg : h.Good Agent.Fixture.pki)
    (hagent : h.agent = ⟨turning n artifact (turningAck n artifact :: rest) none settled, retention⟩) : ∃ tree,
      ask Agent.Fixture.pki ambient (apply 0 now) h = (.ok (.outcome .duplicate), h.asked (apply 0 now)
        ⟨tree, turning n artifact (turningAck n artifact :: rest) none settled⟩ [.answered (apply 0 now) (.outcome .duplicate)
          (turning n artifact (turningAck n artifact :: rest) none settled)]) := by
  obtain ⟨tree, agent, d, deeds⟩ := h
  obtain rfl : agent = ⟨turning n artifact (turningAck n artifact :: rest) none settled, retention⟩ := hagent
  have hs := hg.coherent.consistent
  have hmem : ⟨commandId.expose, commandFingerprint (command 0), (acceptedCommand retention (command 0) artifact two
      now).acknowledgement (saturatingAdd n 1), retentionDeadline retention (observedAt now)⟩ ∈
      (turning n artifact (turningAck n artifact :: rest) none settled).commandJournal :=
    List.mem_append_right _ (List.mem_singleton_self _)
  have hknown : (turning n artifact (turningAck n artifact :: rest) none settled).answer
      ⟨commandId.expose, commandFingerprint (command 0), now⟩ = some true := by
    have hret : now < retentionDeadline retention (observedAt now) := by decide
    rw [hs.answer_eq hmem rfl hret]
    exact congrArg some (decide_eq_true rfl)
  have hplan : plan Agent.Fixture.pki retention (turning n artifact (turningAck n artifact :: rest) none settled) (apply 0 now) =
      .ok (.keep (.outcome .duplicate)) := by
    have hack : (turning n artifact (turningAck n artifact :: rest) none settled).hasCommandAck commandId.expose = true := by
      have hhead : decide (commandId.expose = commandId.expose) = true := decide_eq_true rfl
      exact List.any_eq_true.2 ⟨turningAck n artifact, List.mem_cons_self, hhead⟩
    have hadmits : StateV1.Admits (turning n artifact (turningAck n artifact :: rest) none settled) (apply 0 now) := trivial
    have hreplay : plan Agent.Fixture.pki retention (turning n artifact (turningAck n artifact :: rest) none settled)
        (apply 0 now) = planReplay _ commandId.expose (commandFingerprint (command 0)) := plan_known hs rfl hadmits hknown
    rw [hreplay]
    exact if_pos hack
  have hstep := Sound.step_keep (d := Host.device ⟨tree, ⟨turning n artifact (turningAck n artifact :: rest) none settled,
    retention⟩, d, deeds⟩) rfl hplan clean
  exact ask_answered _ ambient_faults (congrArg Prod.fst hstep) (congrArg (fun r => r.2.agent) hstep)

/-- It is answered at once, and its PUBACK carries the settlement token again. -/
theorem At.repeats {d : SessionDriver} {rest : List StoredOutbound} {settled : Bool} {f : SessionState → SessionState}
    (hn : n + 1 < 1024) (hrest : rest.length ≤ 125)
    (hat : At E inputs (turning n artifact (turningAck n artifact :: rest) none settled) d deeds)
    (hE : ∀ tree, E ⟨tree, ⟨turning n artifact (turningAck n artifact :: rest) none settled, retention⟩, d, deeds⟩
      (.packet (.publish (named commandId).publish)) ambient)
    (hscope : d.session.commandIdentity topic commandId.expose = some (identity one)) (hfree : d.session.inflight = 0)
    (hunsent : d.session.inboundAcknowledgements = [])
    (hobserves : ∀ h : Host, h.driver.recoveryCommand = d.recoveryCommand → h.observes (named commandId) = h.set f)
    (hshut : (f d.state).shutdownDeadline = false) (hquiet : (f d.state).canPublish = false) :
    At E (inputs ++ [packet (.publish (named commandId).publish)])
      (turning n artifact (turningAck n artifact :: rest) none settled)
      { d with
        session := { d.session with inboundAcknowledgements := [(1, some token)], inflight := 1 }
        state := f d.state }
      (deeds ++ [.polled (.publish (named commandId).publish) (.command (named commandId))] ++ [.asked (apply 0 now)
        (turning n artifact (turningAck n artifact :: rest) none settled), .answered (apply 0 now) (.outcome .duplicate)
          (turning n artifact (turningAck n artifact :: rest) none settled)] ++ [.queued (.ack (named commandId))]) := by
  refine hat.proceeds hE (poll_publish (commandPayload 0) hscope) fun tree hg => ?_
  let h : Host := Host.polled ⟨tree, ⟨turning n artifact (turningAck n artifact :: rest) none settled, retention⟩, d, deeds⟩
    (.publish (named commandId).publish) (.command (named commandId)) { d.session with inflight := d.session.inflight + 1 }
  have hcall : commandCall wire ambient (named commandId) = apply 0 now := commandCall_named commandId
  obtain ⟨tree', hask⟩ := ask_keeps (h := h.set f) ((hg.polled _ _ _).set f) rfl
  have hopen : Running.commandIntakeOpen ⟨turning n artifact (turningAck n artifact :: rest) none settled, retention⟩ now = true :=
    turning_open hn (Nat.succ_le_succ hrest)
  rw [← hobserves h rfl, ← hcall] at hask
  have hhandled : Handled Agent.Fixture.pki wire ambient _ _ _ _ := Handled.acked hask (fun h => by cases h) hopen
    (by rw [hobserves h rfl]; exact hshut)
  change Handled _ _ _ _ _ (Host.acks _ _ (Running.pendingDeliverySettlementToken ⟨turning n artifact
    (turningAck n artifact :: rest) none settled, retention⟩ topic commandId.expose)) _ at hhandled
  rw [turning_token, hcall, hobserves h rfl] at hhandled
  refine ⟨tree', _, hhandled, ?_⟩
  rw [head_quiet (by exact hshut) (fun hcan => by exact absurd (hquiet.symm.trans hcan) Bool.false_ne_true)]
  simp only [h, Host.acks, Host.sent, Host.asked, Host.set, Host.polled, hfree, hunsent, List.append_assoc]
  rfl

/-! ### The session of the next credential -/

/-- The session from where the command is settled: its acknowledgement has its packet identifier. -/
def activating (n : ℕ) (artifact : ResolvedArtifact) : SessionDriver :=
  { settling n artifact with session := { opened.session with packetEvents := [(1, (turningFact n artifact).eventId)] } }

/-- What a session with this publication on its way hears of it first. -/
theorem At.sends {s : StateV1} {d : SessionDriver} {event : String} (hat : At E inputs s d deeds)
    (hE : ∀ tree, E ⟨tree, ⟨s, retention⟩, d, deeds⟩ (.packet (.sentPublish 1)) ambient)
    (hwaiting : d.session.awaitingPacketId = [event]) (hfree : d.session.packetEvents = [])
    (hshut : d.state.shutdownDeadline = false) (hquiet : d.state.canPublish = false) :
    At E (inputs ++ [packet (.sentPublish 1)]) s
      { d with session := { d.session with awaitingPacketId := [], packetEvents := [(1, event)] } }
      (deeds ++ [.polled (.sentPublish 1) .transportProgress]) := by
  have hpoll : d.session.poll wire (.sentPublish 1) = .ok (.transportProgress,
      { d.session with awaitingPacketId := [], packetEvents := [(1, event)] }) := by
    simp [MqttSession.poll, hwaiting, hfree, PacketMap.insert]
  exact hat.proceeds hE hpoll fun tree _ =>
    ⟨tree, _, .progress, head_quiet hshut fun h => absurd (hquiet.symm.trans h) Bool.false_ne_true⟩

/-- The acknowledgement of the command asks for the new session. -/
theorem turning_confirmed (rest : List StoredOutbound) (settled : Bool) :
    (turning n artifact (turningAck n artifact :: turningReport n artifact :: rest) none settled).confirmed
      (turningAck n artifact) = turning n artifact (turningReport n artifact :: rest) (some 2) settled := by
  simp only [StateV1.confirmed, turning, List.eraseP_cons, decide_true, cond_true]
  rfl

theorem ask_activates {rest : List StoredOutbound} {settled : Bool} {h : Host} (hg : h.Good Agent.Fixture.pki) (hagent : h.agent =
      ⟨turning n artifact (turningAck n artifact :: turningReport n artifact :: rest) none settled, retention⟩) : ∃ tree,
    ask Agent.Fixture.pki ambient (.confirmOutbound (turningFact n artifact).eventId) h =
      (.ok .done, h.asked (.confirmOutbound (turningFact n artifact).eventId)
        ⟨tree, turning n artifact (turningReport n artifact :: rest) (some 2) settled⟩
        [.answered (.confirmOutbound (turningFact n artifact).eventId) .done
          (turning n artifact (turningReport n artifact :: rest) (some 2) settled)]) := by
  have hmem : turningAck n artifact ∈ (turning n artifact (turningAck n artifact :: turningReport n artifact :: rest) none
    settled).outbox := List.mem_cons_self
  rw [← turning_confirmed]
  exact ask_confirms hg hagent hmem rfl fun h => by cases h

/-- A run whose session has ended with this document, with another to follow. -/
def Over (E : Broker) (inputs : List Input) (s : StateV1) (deeds : List Deed) : Prop :=
  ∃ tree d, Closes Agent.Fixture.pki wire E inputs ⟨tree, ⟨s, retention⟩, d, deeds⟩

/-- The transport is lost. -/
theorem At.loses {s : StateV1} {d : SessionDriver} (hat : At E inputs s d deeds)
    (hE : ∀ tree, E ⟨tree, ⟨s, retention⟩, d, deeds⟩ (.failed .io) ambient) :
    Over E (inputs ++ [.turn (.failed .io) ambient]) s (deeds ++ [.ended (.error (.mqtt (.connection .io)))]) := by
  obtain ⟨tree, hs⟩ := hat
  exact ⟨tree, d, hs.loses (hE tree)⟩

/-- The session asks to be followed by another. -/
theorem At.switches {s s' : StateV1} {d : SessionDriver} {deeds' : List Deed} {p : Packet} {event : MqttEvent}
    {session : MqttSession} (hat : At E inputs s d deeds)
    (hE : ∀ tree, E ⟨tree, ⟨s, retention⟩, d, deeds⟩ (.packet p) ambient) (hpoll : d.session.poll wire p = .ok (event, session))
    (hround : ∀ tree, Host.Good Agent.Fixture.pki ⟨tree, ⟨s, retention⟩, d, deeds⟩ → ∃ tree' d',
      Handled Agent.Fixture.pki wire ambient (Host.polled ⟨tree, ⟨s, retention⟩, d, deeds⟩ p event session) event
        ⟨tree', ⟨s', retention⟩, d', deeds'⟩ .reconnect) :
    Over E (inputs ++ [packet p]) s' (deeds' ++ [.ended (.ok .reconnect)]) := by
  obtain ⟨tree, hs⟩ := hat
  obtain ⟨tree', d', hhandled⟩ := hround tree hs.good
  exact ⟨tree', d', hs.switches (hE tree) (turn_switches rfl hpoll hhandled)⟩

theorem Over.opens {s : StateV1} {d : SessionDriver} (h : Over E inputs s deeds)
    (hcreate : SessionDriver.create ⟨s, retention⟩ true = .ok d) :
    At E (inputs ++ [.connect true]) s d (deeds ++ [.opened d s]) := by
  obtain ⟨tree, _, hs⟩ := h
  exact ⟨tree, hs.opens hcreate⟩

theorem allowed_failed {h : Host} {error : ConnectionError} : Allowed h (.failed error) ambient :=
  ⟨fun _ h => (by cases h), fun _ h => (by cases h), fun _ h => (by cases h), fun _ _ h => by cases h⟩

/-- Once the command is settled, the PUBACK of its acknowledgement ends the session. -/
theorem At.exits {rest : List StoredOutbound}
    (hat : At E inputs (turning n artifact (turningAck n artifact :: turningReport n artifact :: rest) none true)
      (activating n artifact) deeds)
    (hE : ∀ tree, E ⟨tree, ⟨turning n artifact (turningAck n artifact :: turningReport n artifact :: rest) none true, retention⟩,
      activating n artifact, deeds⟩ (.packet (.pubAck 1)) ambient) :
    Over E (inputs ++ [packet (.pubAck 1)]) (turning n artifact (turningReport n artifact :: rest) (some 2) true)
      (deeds ++ [.polled (.pubAck 1) (.outboundAcknowledged (turningFact n artifact).eventId)] ++
        [.asked (.confirmOutbound (turningFact n artifact).eventId)
          (turning n artifact (turningAck n artifact :: turningReport n artifact :: rest) none true),
          .answered (.confirmOutbound (turningFact n artifact).eventId) .done
            (turning n artifact (turningReport n artifact :: rest) (some 2) true)] ++ [.ended (.ok .reconnect)]) := by
  have hpoll : (activating n artifact).session.poll wire (.pubAck 1) =
      .ok (.outboundAcknowledged (turningFact n artifact).eventId, opened.session) := rfl
  refine hat.switches hE hpoll fun tree hg => ?_
  obtain ⟨tree', hask⟩ := ask_activates ((hg.polled (.pubAck 1) (.outboundAcknowledged (turningFact n artifact).eventId)
    opened.session).set fun s => { s with publish := .idle }) rfl
  have hrec : Running.reconnectRevision ⟨turning n artifact (turningReport n artifact :: rest) (some 2) true, retention⟩ =
    .ok (some two) := rfl
  exact ⟨tree', _, .confirmed rfl hask (.exit hrec (fun h => by cases h) rfl)⟩

def oldScope : RecoveryCommandScope := ⟨identity one, topic, commandId.expose⟩

/-- The session that is opened in a rotation, with its old scope, -/
def recovering : SessionDriver := ⟨MqttSession.new (identity two) 2 (some oldScope), identity two, some oldScope, {}⟩

theorem create_turning (htwo : artifact.credentialGeneration = two) (n : ℕ) (outbox : List StoredOutbound)
    (reconnect : Option ℕ) (settled : Bool) :
    SessionDriver.create ⟨turning n artifact outbox reconnect settled, retention⟩ true = .ok recovering := by
  have hid : Running.currentIdentity ⟨turning n artifact outbox reconnect settled, retention⟩ = .ok (identity two) := by
    refine mapError_eq_ok.2 (StateV1.currentIdentity_eq_ok.2 ⟨rfl, rfl, ?_⟩)
    show two.1 = artifact.credentialGeneration.1
    rw [htwo]
  have hscope : Running.pendingCommandScope ⟨turning n artifact outbox reconnect settled, retention⟩ = .ok (some oldScope) := by
    unfold Running.pendingCommandScope
    show (Running.currentIdentity _ >>= _) = _
    rw [hid]
    rfl
  unfold SessionDriver.create
  rw [hid, hscope]
  rfl

/-- ends the old subscription, -/
def ending : SessionDriver :=
  { recovering with
    session := { recovering.session with unsubscribing := [topic] }
    state := { connection := .connected, subscription := .unsubscribing } }

/-- where the command is still within its scope. -/
theorem ending_scope : ending.session.commandIdentity topic commandId.expose = some (identity one) := by
  have hne : ending.session.acceptsCommand topic = false := by decide +kernel
  have hfilter : ending.session.recoveryCommand.filter (fun scope => scope.topic = topic ∧ scope.commandId = commandId.expose) =
      some oldScope := Option.filter_eq_some_iff.2 ⟨rfl, decide_eq_true ⟨rfl, rfl⟩⟩
  unfold MqttSession.commandIdentity
  rw [hne, hfilter]
  rfl

/-- Before the acknowledgement is confirmed it only ends the old subscription. -/
theorem At.recovers {outbox : List StoredOutbound} {settled : Bool}
    (hat : At E inputs (turning n artifact outbox none settled) recovering deeds)
    (hE : ∀ tree, E ⟨tree, ⟨turning n artifact outbox none settled, retention⟩, recovering, deeds⟩ (.packet .connAck) ambient) :
    At E (inputs ++ [packet .connAck]) (turning n artifact outbox none settled) ending
      (deeds ++ [.polled .connAck .connected] ++ [.queued (.unsubscribe topic)]) :=
  hat.proceeds hE rfl fun tree _ =>
    ⟨tree, _, .connected (.unmarked rfl) (.recovery (fun h => by cases h) rfl), head_quiet rfl fun h => by cases h⟩

def turningReady (n : ℕ) (artifact : ResolvedArtifact) : StoredOutbound :=
  .reportReady (eventId .report commandId.expose) ((acceptedCommand retention (command 0) artifact two now).report
    first.identity (saturatingAdd (saturatingAdd n 1) 1))

def reportFact (n : ℕ) (artifact : ResolvedArtifact) : OutboundFact :=
  .certificateReported (eventId .report commandId.expose) ((acceptedCommand retention (command 0) artifact two now).report
    first.identity (saturatingAdd (saturatingAdd n 1) 1)).toFact

/-- publishes the report, -/
def reporting (n : ℕ) (artifact : ResolvedArtifact) : SessionDriver :=
  { recovering with
    session := { recovering.session with awaitingPacketId := [(reportFact n artifact).eventId] }
    state := { connection := .connected, publish := .pending } }

/-- and asks for its own subscription. -/
def relistening : SessionDriver :=
  { recovering with
    session := { recovering.session with subscribing := 1 }
    state := { connection := .connected } }

/-- The document when the rotation is over. -/
def rotated (n : ℕ) (artifact : ResolvedArtifact) : StateV1 := { turning n artifact [] none true with pendingInbound := none }

/-- With its CONNACK the report becomes ready. -/
theorem At.marks (hat : At E inputs (turning n artifact [turningReport n artifact] (some 2) true) recovering deeds)
    (hE : ∀ tree, E ⟨tree, ⟨turning n artifact [turningReport n artifact] (some 2) true, retention⟩, recovering, deeds⟩
      (.packet .connAck) ambient) :
    At E (inputs ++ [packet .connAck]) (turning n artifact [turningReady n artifact] none true) ending
      (deeds ++ [.polled .connAck .connected] ++ [.asked (.markCurrentCredentialConnected two)
        (turning n artifact [turningReport n artifact] (some 2) true), .answered (.markCurrentCredentialConnected two) .done
          (turning n artifact [turningReady n artifact] none true)] ++ [.queued (.unsubscribe topic)]) := by
  refine hat.proceeds hE rfl fun tree hg => ?_
  have hg' := (hg.polled .connAck .connected recovering.session).set fun s =>
    { s with connection := .connected, subscription := .inactive }
  obtain ⟨hreply, hafter⟩ := hg'.sound.step_reconnect rfl (hg'.sound.expires positiveExpiry rfl)
    (show some 2 = some two.1 from rfl)
  obtain ⟨tree', hask⟩ := ask_answered (turning n artifact [turningReady n artifact] none true) ambient_faults hreply hafter
  have hrec : Running.reconnectRevision ⟨turning n artifact [turningReport n artifact] (some 2) true, retention⟩ =
    .ok (some two) := rfl
  exact ⟨tree', _, .connected (.marked hrec hask) (.recovery (fun h => by cases h) rfl), head_quiet rfl fun h => by cases h⟩

/-- The end of the old subscription lets it go out, -/
theorem At.reports (hat : At E inputs (turning n artifact [turningReady n artifact] none true) ending deeds)
    (hE : ∀ tree, E ⟨tree, ⟨turning n artifact [turningReady n artifact] none true, retention⟩, ending, deeds⟩
      (.packet (.unsubAck topic [.success])) ambient) :
    At E (inputs ++ [packet (.unsubAck topic [.success])]) (turning n artifact [turningReady n artifact] none true)
      (reporting n artifact) (deeds ++ [.polled (.unsubAck topic [.success]) .unsubscribed] ++
        [.queued (.publish (certificateReportedTopic (identity two)) (reportFact n artifact)
          (factPayload (identity two) (reportFact n artifact)))]) := by
  have hpoll : ending.session.poll wire (.unsubAck topic [.success]) =
      .ok (.unsubscribed, { ending.session with unsubscribing := [] }) := poll_unsubAck rfl
  exact hat.proceeds hE hpoll fun tree _ => ⟨tree, _, .unsubscribed rfl (.present fun _ _ => rfl)
    (.idle (fun h => by cases h) fun h => by cases h), head_publishes rfl rfl rfl rfl⟩

/-- and its PUBACK is the end of the rotation. -/
theorem At.rotates (hn : n + 1 < 1024) (hat : At E inputs (turning n artifact [turningReady n artifact] none true)
      { reporting n artifact with session := { recovering.session with
        packetEvents := [(1, (reportFact n artifact).eventId)] } } deeds)
    (hE : ∀ tree, E ⟨tree, ⟨turning n artifact [turningReady n artifact] none true, retention⟩,
      { reporting n artifact with session := { recovering.session with
        packetEvents := [(1, (reportFact n artifact).eventId)] } }, deeds⟩ (.packet (.pubAck 1)) ambient) :
    At E (inputs ++ [packet (.pubAck 1)]) (rotated n artifact) relistening
      (deeds ++ [.polled (.pubAck 1) (.outboundAcknowledged (reportFact n artifact).eventId)] ++
        [.asked (.confirmOutbound (reportFact n artifact).eventId) (turning n artifact [turningReady n artifact] none true),
          .answered (.confirmOutbound (reportFact n artifact).eventId) .done (rotated n artifact)] ++
        [.queued (.subscribe (identity two).commandTopic)]) := by
  refine hat.proceeds hE rfl fun tree hg => ?_
  have hg' := (hg.polled (.pubAck 1) (.outboundAcknowledged (reportFact n artifact).eventId) recovering.session).set fun s =>
    { s with publish := .idle }
  have hmem : turningReady n artifact ∈ (turning n artifact [turningReady n artifact] none true).outbox := List.mem_singleton_self _
  have hconfirmed : (turning n artifact [turningReady n artifact] none true).confirmed (turningReady n artifact) =
      rotated n artifact := by
    simp only [StateV1.confirmed, turning, List.eraseP_cons, decide_true, cond_true]
    rfl
  obtain ⟨tree', hask⟩ := ask_confirms hg' rfl hmem rfl fun _ => rfl
  rw [hconfirmed] at hask
  have hopen : Running.commandIntakeOpen ⟨rotated n artifact, retention⟩ now = true :=
    intakeOpen_of_room (by simpa [rotated, turning, resting, StateV1.accepted] using hn) (Nat.zero_le _)
  exact ⟨tree', _, .confirmed rfl hask (.subscribe rfl rfl rfl hopen), head_quiet rfl fun _ => rfl⟩

/-! ### A whole rotation -/

/-- The broker of a rotation: it delivers the command, on the topic of the session or of the pending delivery, when no
rotation is in flight or the journal has it; and it acknowledges no publication before the PUBACK of a delivery. -/
structure Orderly (h : Host) (poll : Poll) (around : Ambient) : Prop where
  allowed : Allowed h poll around
  deliveries : ∀ p, poll = .packet (.publish p) → p = (named commandId).publish ∧
    (∃ generation, h.driver.session.topics = identity generation) ∧
    h.driver.session.commandIdentity topic commandId.expose = some (identity one) ∧
    (h.agent.state.rotationInFlight = false ∨ ∃ c ∈ h.agent.state.commandJournal, c.commandId = commandId.expose ∧
      around.now < c.retainUntilEpochSeconds)
  acknowledgements : ∀ pkid, poll = .packet (.pubAck pkid) → h.driver.state.pendingCommandAck = none ∧
    h.driver.session.inboundAcknowledgements = []

theorem orderly_other {h : Host} {p : Packet} (hallowed : Allowed h (.packet p) ambient) (hno : ∀ q, p ≠ .publish q)
    (hpuback : ∀ pkid, p ≠ .pubAck pkid) : Orderly h (.packet p) ambient := by
  refine ⟨hallowed, ?_, ?_⟩
  · rintro q ⟨⟩
    exact absurd rfl (hno q)
  · rintro pkid ⟨⟩
    exact absurd rfl (hpuback pkid)

theorem orderly_sent {h : Host} {pkid : ℕ} {p : Packet} (hconn : h.driver.state.connection = .connected)
    (hp : p = .sentPubAck pkid ∨ p = .sentPublish pkid) : Orderly h (.packet p) ambient := by
  have hallowed : p = .sentPubAck pkid ∨ p = .sentPublish pkid ∨ p = .pubAck pkid := hp.imp_right .inl
  refine orderly_other (allowed_acknowledgement hconn hallowed) ?_ ?_ <;> rcases hp with rfl | rfl <;> simp

theorem orderly_pubAck {h : Host} {pkid : ℕ} (hconn : h.driver.state.connection = .connected)
    (hheld : h.driver.state.pendingCommandAck = none) (hacks : h.driver.session.inboundAcknowledgements = []) :
    Orderly h (.packet (.pubAck pkid)) ambient := by
  refine ⟨allowed_acknowledgement hconn (.inr (.inr rfl)), ?_, fun _ _ => ⟨hheld, hacks⟩⟩
  rintro q ⟨⟩

theorem orderly_connAck {h : Host} (hconn : h.driver.state.connection = .connecting) : Orderly h (.packet .connAck) ambient :=
  orderly_other (allowed_connAck hconn) (fun _ h => by cases h) fun _ h => by cases h

theorem orderly_failed {h : Host} {error : ConnectionError} : Orderly h (.failed error) ambient :=
  ⟨allowed_failed, fun _ h => (by cases h), fun _ h => by cases h⟩

theorem orderly_named {h : Host} {generation : NonZeroU64} (hconn : h.driver.state.connection = .connected)
    (hfree : h.driver.session.inflight = 0) (htopics : h.driver.session.topics = identity generation)
    (hscope : h.driver.session.commandIdentity topic commandId.expose = some (identity one))
    (hspare : h.agent.state.rotationInFlight = false ∨ ∃ c ∈ h.agent.state.commandJournal, c.commandId = commandId.expose ∧
      now < c.retainUntilEpochSeconds) : Orderly h (.packet (.publish (named commandId).publish)) ambient := by
  refine ⟨allowed_publish hconn hfree, ?_, fun _ h => by cases h⟩
  rintro _ ⟨⟩
  exact ⟨rfl, ⟨generation, htopics⟩, hscope, hspare⟩

/-- The journal has the accepted command. -/
theorem turning_known (outbox : List StoredOutbound) (reconnect : Option ℕ) (settled : Bool) :
    ∃ c ∈ (turning n artifact outbox reconnect settled).commandJournal, c.commandId = commandId.expose ∧
      now < c.retainUntilEpochSeconds := by
  have hret : now < retentionDeadline retention (observedAt now) := by decide
  exact ⟨_, List.mem_append_right _ (List.mem_singleton_self _), rfl, hret⟩

/-- A command is accepted and its subscription ends. -/
def admitting : List Input :=
  listen ++ [packet (.publish (named commandId).publish)] ++ [packet (.unsubAck topic [.success])]

/-- It is settled, delivered again and settled again, and its acknowledgement is on its way. -/
def leaving : List Input :=
  admitting ++ [packet (.sentPubAck 1)] ++ [packet (.publish (named commandId).publish)] ++ [packet (.sentPubAck 1)] ++
    [packet (.sentPublish 1)]

/-- The acknowledgement is confirmed, and the next session opened, -/
def reopening : List Input := leaving ++ [packet (.pubAck 1)] ++ [.connect true]

/-- which ends the old subscription, publishes the report and gets its own subscription. -/
def wholeRotation : List Input :=
  reopening ++ [packet .connAck] ++ [packet (.unsubAck topic [.success])] ++ [packet (.sentPublish 1)] ++
    [packet (.pubAck 1)] ++ [packet (.subAck [.success .atLeastOnce])]

/-- One publication is delivered in it, the command. -/
theorem rotation_inputs {poll : Poll} {around : Ambient} (h : .turn poll around ∈ wholeRotation) :
    around = ambient ∧ ∀ p, poll = .packet (.publish p) → p = (named commandId).publish := by
  simp only [wholeRotation, reopening, leaving, admitting, listen, starting, packet, List.mem_append, List.mem_singleton,
    Input.turn.injEq, reduceCtorEq, or_false, false_or] at h
  have hambient : around = ambient := by tauto
  refine ⟨hambient, ?_⟩
  rintro p rfl
  have hnamed : p = (named commandId).publish ∧ around = ambient := by simpa using h
  exact hnamed.1

/-- A command is accepted, the transport is lost, and the command comes again to the session that recovers it. -/
def recovery : List Input :=
  listen ++ [packet (.publish (named commandId).publish)] ++ [.turn (.failed .io) ambient] ++ [.connect true] ++
    [packet .connAck] ++ [packet (.publish (named commandId).publish)]

/-- These are the facts that go out, each with its topic and its text, and no session fails. -/
structure Tells (facts : List (String × OutboundFact × Bytes)) (deeds : List Deed) : Prop where
  published : ∀ topic fact payload, .queued (.publish topic fact payload) ∈ deeds ↔ (topic, fact, payload) ∈ facts
  unfailing : ∀ e, .ended (.error e) ∉ deeds

/-- The acknowledgement of the rotation, as it goes out, -/
def toldAck (artifact : ResolvedArtifact) : String × OutboundFact × Bytes :=
  (commandAcknowledgedTopic (identity one), turningFact 0 artifact, factPayload (identity one) (turningFact 0 artifact))

/-- and its report. -/
def toldReport (artifact : ResolvedArtifact) : String × OutboundFact × Bytes :=
  (certificateReportedTopic (identity two), reportFact 0 artifact, factPayload (identity two) (reportFact 0 artifact))

theorem at_taken : ∃ artifact deeds, artifact.credentialGeneration = two ∧
    (∃ s, .answered (apply 0 now) (.outcome .accepted) s ∈ deeds) ∧ Tells [] deeds ∧
    At Orderly (listen ++ [packet (.publish (named commandId).publish)])
      (turning 0 artifact [turningAck 0 artifact, turningReport 0 artifact] none false) holding deeds := by
  have hother : ∀ {h p}, (∀ q, p ≠ .publish q) → (∀ pkid, p ≠ .pubAck pkid) → Allowed h (.packet p) ambient →
      Orderly h (.packet p) ambient := fun hno hpuback ha => orderly_other ha hno hpuback
  have hlistening : At Orderly listen (resting 0 []) listening _ :=
    at_listens (fun _ _ ha => hother (fun _ h => by cases h) (fun _ h => by cases h) ha)
      fun _ _ ha => hother (fun _ h => by cases h) (fun _ h => by cases h) ha
  have hscope : listening.session.commandIdentity topic commandId.expose = some (identity one) := if_pos (by decide)
  have hidle : (resting 0 []).rotationInFlight = false := by decide +kernel
  obtain ⟨artifact, htwo, htaken⟩ := hlistening.takes (by decide) vacant_listen fun _ =>
    orderly_named rfl rfl rfl hscope (.inl hidle)
  exact ⟨artifact, _, htwo, ⟨turning 0 artifact [turningAck 0 artifact, turningReport 0 artifact] none false,
    by simp [takenDeeds]⟩, ⟨by simp [takenDeeds], by simp [takenDeeds]⟩, htaken⟩

theorem at_leaving : ∃ artifact deeds, artifact.credentialGeneration = two ∧
    (∃ s, .answered (apply 0 now) (.outcome .duplicate) s ∈ deeds) ∧ Tells [toldAck artifact] deeds ∧
    At Orderly leaving (turning 0 artifact [turningAck 0 artifact, turningReport 0 artifact] none true) (activating 0 artifact)
      deeds := by
  obtain ⟨artifact, deeds, htwo, -, ⟨hpublished, hunfailing⟩, htaken⟩ := at_taken
  have hsettled := (htaken.releases fun _ _ ha => orderly_other ha (fun _ h => by cases h) fun _ h => by cases h).settles
    fun _ ha => orderly_other ha (fun _ h => by cases h) fun _ h => by cases h
  have hscope : (settling 0 artifact).session.commandIdentity topic commandId.expose = some (identity one) :=
    if_pos (decide_eq_true rfl)
  have hrepeated := hsettled.repeats (f := id) (by decide) (by simp)
    (fun _ => orderly_named rfl rfl rfl hscope (.inr (turning_known _ _ _))) hscope rfl rfl (fun _ h => observes_unscoped h) rfl rfl
  have hflushed : At Orderly _ (turning 0 artifact _ none true) (settling 0 artifact) _ := hrepeated.flushes
    (p := { (acceptedCommand retention (command 0) artifact two now).pending (identity one) with settled := true })
    (fun _ ha => orderly_other ha (fun _ h => by cases h) fun _ h => by cases h) rfl rfl rfl rfl rfl rfl
  have hleaving := hflushed.sends (fun _ => orderly_sent rfl (.inr rfl)) rfl rfl rfl rfl
  exact ⟨artifact, _, htwo, ⟨turning 0 artifact [turningAck 0 artifact, turningReport 0 artifact] none true, by simp⟩,
    ⟨by simp [hpublished, toldAck], by simp [hunfailing]⟩, hleaving⟩

/-- The report of a rotation is valid. -/
theorem turning_valid {outbox : List StoredOutbound} {reconnect : Option ℕ} {settled : Bool} {d : SessionDriver}
    (hat : At E inputs (turning n artifact outbox reconnect settled) d deeds) (hmem : turningReport n artifact ∈ outbox) :
    ((acceptedCommand retention (command 0) artifact two now).report first.identity
      (saturatingAdd (saturatingAdd n 1) 1)).SemanticValid := by
  obtain ⟨tree, hs⟩ := hat
  exact (hs.good.coherent.consistent.entries (turningReport n artifact) hmem).semantic.2

/-- The whole rotation: its two facts go out, and its report is confirmed. -/
theorem at_rotation : ∃ artifact deeds, artifact.credentialGeneration = two ∧
    (∃ s, .answered (apply 0 now) (.outcome .duplicate) s ∈ deeds) ∧
    .answered (.confirmOutbound (reportFact 0 artifact).eventId) .done (rotated 0 artifact) ∈ deeds ∧
    Tells [toldAck artifact, toldReport artifact] deeds ∧
    ((acceptedCommand retention (command 0) artifact two now).report first.identity
      (saturatingAdd (saturatingAdd 0 1) 1)).SemanticValid ∧
    ∃ d, At Orderly wholeRotation (rotated 0 artifact) d deeds := by
  obtain ⟨artifact, deeds, htwo, ⟨s, hduplicate⟩, ⟨hpublished, hunfailing⟩, hleaving⟩ := at_leaving
  have hreopened : At Orderly reopening _ recovering _ :=
    (hleaving.exits fun _ => orderly_pubAck rfl rfl rfl).opens (create_turning htwo _ _ _ _)
  have hreported := (hreopened.marks fun _ => orderly_connAck rfl).reports fun _ =>
    orderly_other (allowed_unsubAck rfl (List.mem_singleton_self _)) (fun _ h => by cases h) fun _ h => by cases h
  have hsent := hreported.sends (fun _ => orderly_sent rfl (.inr rfl)) rfl rfl rfl rfl
  have hrotated := At.rotates (by decide) hsent fun _ => orderly_pubAck rfl rfl rfl
  have hsubscribed := hrotated.subscribes (fun _ => orderly_other (allowed_subAck rfl Nat.one_pos) (fun _ h => by cases h)
    fun _ h => by cases h) rfl rfl
  exact ⟨artifact, _, htwo, ⟨s, by simp [hduplicate]⟩, by simp, ⟨by simp [hpublished, toldReport], by simp [hunfailing]⟩,
    turning_valid hleaving (List.mem_cons_of_mem _ (List.mem_singleton_self _)), _, hsubscribed⟩

theorem at_recovery : ∃ s d deeds, .ended (.error (.mqtt (.connection .io))) ∈ deeds ∧
    (∃ s', .answered (apply 0 now) (.outcome .duplicate) s' ∈ deeds) ∧ At Orderly recovery s d deeds := by
  obtain ⟨artifact, deeds, htwo, -, -, htaken⟩ := at_taken
  have hopened := (htaken.loses fun _ => orderly_failed).opens (create_turning htwo _ _ _ _)
  have hending := hopened.recovers fun _ => orderly_connAck rfl
  have hobserves : ∀ h : Host, h.driver.recoveryCommand = ending.recoveryCommand →
      h.observes (named commandId) = h.set fun s => { s with recoveryObservation := .observed } := by
    intro h hscope
    unfold Host.observes
    rw [hscope]
    exact if_pos (show decide (topic = topic) = true from decide_eq_true rfl)
  have hrepeated := hending.repeats (by decide) (by simp)
    (fun _ => orderly_named rfl rfl rfl ending_scope (.inr (turning_known _ _ _))) ending_scope rfl rfl hobserves rfl rfl
  exact ⟨_, _, _, by simp, ⟨turning 0 artifact [turningAck 0 artifact, turningReport 0 artifact] none false, by simp⟩, hrepeated⟩

end Fixture

end RssIncubator.Driver
