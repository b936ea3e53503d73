import RssIncubator.Driver.Rotation
import RssIncubator.Driver.Tokens

/-!
# A command that waits for a rotation

The broker may have queued a second command behind one that is accepted.  `Fatal` are the errors that end the process
and say that such a command came at the wrong time; `Backpressured` is when none of them can happen.  A broker is not
held to it: after the UNSUBACK it may still send what it had queued, and the agent refuses that.
-/

namespace RssIncubator.Driver

open Agent Lib StateV1 StoredOutbound

/-- The errors of a delivery that comes at the wrong time.  The loop of `main` does not retry after them. -/
def Fatal (e : SessionError) : Prop :=
  e = .agent .rotationInFlight ∨ e = .agent .unexpectedDelivery ∨ e = .mqtt .invalidCommandFrame

/-- A command for this device, as the broker sends it: framed, signed for its topic, and it decodes. -/
structure Genuine (wire : Wire) (h : Host) (p : Publish) (identity : DeviceIdentity) (command : DeviceCommand) : Prop where
  tenant : identity.tenant = h.driver.session.topics.tenant
  device : identity.device = h.driver.session.topics.device
  topic : p.topic = utf8 identity.commandTopic
  qos : p.qos = .atLeastOnce
  correlation : p.correlationData = some (utf8 command.commandId.expose)
  signed : wire.verifyCommand identity p = true
  decodes : wire.decodeCommand identity command.commandId p.payload = some command
  addressed : command.deviceId = identity.device

/-- Every delivery is one. -/
def Deliveries (wire : Wire) : Broker := fun h poll _ => ∀ p, poll = .packet (.publish p) →
  ∃ identity command, Genuine wire h p identity command

/-- The topic is that of the session, or that of the pending delivery under its own name. -/
def Within (m : MqttSession) (identity : DeviceIdentity) (command : DeviceCommand) : Prop :=
  identity = m.topics ∨ ∃ scope, m.recoveryCommand = some scope ∧ scope.topic = identity.commandTopic ∧
    scope.commandId = command.commandId.expose

/-- The journal knows the command, within its retention. -/
def Known (s : StateV1) (command : DeviceCommand) (now : ℕ) : Prop :=
  ∃ c ∈ s.commandJournal, c.commandId = command.commandId.expose ∧ now < c.retainUntilEpochSeconds

/-- A delivery is within the scope of the session and finds no rotation in flight, or the journal knows it; and no
report is confirmed with a settlement token on its way. -/
structure Backpressured (wire : Wire) (h : Host) (poll : Poll) (ambient : Ambient) : Prop where
  scope : ∀ p identity command, poll = .packet (.publish p) → Genuine wire h p identity command →
    Within h.driver.session identity command
  spare : ∀ p identity command, poll = .packet (.publish p) → Genuine wire h p identity command →
    h.agent.state.rotationInFlight = false ∨ Known h.agent.state command ambient.now
  tokens : TokensFirst h poll ambient

/-! ### Refusals -/

section Refusals

variable {pki : Pki} {retention : NonZeroU32} {s : StateV1} {e : AgentError}

/-- What is decided with the checks of the store fails with its errors. -/
def FromStore (x : Plan) : Prop := ∀ e, x = .error e → ∃ e', e = .store e'

theorem fromStore_ok (dec : Decision) : FromStore (.ok dec) := fun _ h => by cases h

theorem FromStore.bind {α : Type} {x : Except StoreError α} {f : α → Plan} (hf : ∀ a, FromStore (f a)) :
    FromStore (x.mapError .store >>= f) := by
  intro e h
  cases x with
  | error e' =>
    cases h
    exact ⟨e', rfl⟩
  | ok a => exact hf a e h

theorem FromStore.ite {p : Prop} [Decidable p] {x y : Plan} (hx : FromStore x) (hy : FromStore y) :
    FromStore (if p then x else y) := by
  split
  · exact hx
  · exact hy

theorem fromStore_rejection (t : ℕ) (c : RejectedCommand) : FromStore (planRejection s t c) :=
  .bind fun _ => .bind fun _ => fromStore_ok _

theorem fromStore_replay (commandId fingerprint : String) : FromStore (planReplay s commandId fingerprint) := by
  unfold planReplay
  split_ifs
  · exact fromStore_ok _
  · exact .bind fun _ => .bind fun _ => fromStore_ok _

theorem fromStore_conflict (commandId fingerprint : String) (generation fence now : ℕ) :
    FromStore (planConflict s commandId fingerprint generation fence now) := by
  unfold planConflict
  split_ifs
  · exact fromStore_ok _
  · exact .bind fun _ => fromStore_ok _

theorem fromStore_commit (identity : DeviceIdentity) (command : DeviceCommand) (artifact : ResolvedArtifact) (now : ℕ) :
    FromStore (planCommit retention s identity command artifact now) :=
  .bind fun _ => .bind fun _ => .bind fun _ => fromStore_ok _

/-- A command is refused for the store, or because of a rotation when the journal does not know it. -/
theorem plan_apply_error {topic : String} {command : DeviceCommand} {now : ℕ} {catalog : ArtifactCatalog}
    (h : plan pki retention s (.applyCommand topic command now catalog) = .error e) :
    (∃ e', e = .store e') ∨ e = .rotationInFlight ∧ s.rotationInFlight = true ∧ ¬ Known s command now := by
  simp only [plan] at h
  rcases hm : s.commandMatch command.commandId.expose (commandFingerprint command) now with _ | _ | _ <;> rw [hm] at h <;>
    dsimp only at h
  · unfold planEvaluate at h
    by_cases hflight : s.rotationInFlight = true
    · rw [if_pos hflight] at h
      cases h
      refine .inr ⟨rfl, hflight, ?_⟩
      rintro ⟨c, hc, hid, hlt⟩
      have hexpired := commandMatch_eq_none.1 hm c hc hid
      omega
    · rw [if_neg hflight] at h
      refine .inl ((FromStore.bind (fun identity => ?_) : FromStore _) e h)
      refine .ite (fromStore_rejection _ _) (.ite (fromStore_rejection _ _) ?_)
      rcases catalog.resolve pki identity command now with error | artifact
      · exact fromStore_rejection _ _
      · exact .ite (fromStore_rejection _ _) (.ite (fromStore_rejection _ _) (.ite (fromStore_rejection _ _)
          (fromStore_commit _ _ _ _)))
  · exact .inl (fromStore_conflict _ _ _ _ _ e h)
  · exact .inl (fromStore_replay _ _ e h)

end Refusals

/-! ### One round -/

section Rounds

variable {pki : Pki} {wire : Wire} {ambient : Ambient} {h h₁ h' : Host} {poll : Poll} {event : MqttEvent}

theorem Before.fixed (hb : Before pki wire ambient h event h₁) : Fixed h h₁ := by
  cases hb with
  | unasked f => exact fixed_set _ _
  | asked g hasks hask => exact ((fixed_set _ _).trans (fixed_asked hask)).trans (fixed_set _ _)

/-- A genuine command within the scope of the session is delivered. -/
theorem Genuine.delivery {p : Publish} {identity : DeviceIdentity} {command : DeviceCommand} (hscoped : Scoped h)
    (hgen : Genuine wire h p identity command) (hwithin : Within h.driver.session identity command) :
    h.driver.session.commandDelivery wire p = .ok ⟨p, identity.commandTopic, command.commandId, identity⟩ := by
  have hid : p.correlationData.bind fromUtf8 = some command.commandId.expose := by
    rw [hgen.correlation, Option.bind_some, fromUtf8_utf8]
  refine MqttSession.commandDelivery_ok (hgen.topic ▸ fromUtf8_utf8 _) hgen.qos hid ?_ hgen.signed
  by_cases haccepts : h.driver.session.acceptsCommand identity.commandTopic = true
  · obtain rfl := Broker.commandTopic_inj (of_decide_eq_true haccepts)
    exact if_pos haccepts
  · obtain ⟨scope, hscope, htopic, hname⟩ := hwithin.resolve_left fun heq => haccepts (by
      rw [heq]
      exact decide_eq_true rfl)
    have hmatch : h.driver.session.recoveryCommand.filter (fun scope => scope.topic = identity.commandTopic ∧
        scope.commandId = command.commandId.expose) = some scope :=
      Option.filter_eq_some_iff.2 ⟨hscope, decide_eq_true ⟨htopic, hname⟩⟩
    have hidentity : scope.identity = identity :=
      Broker.commandTopic_inj ((hscoped.topic scope (hscoped.copies ▸ hscope)).symm.trans htopic)
    unfold MqttSession.commandIdentity
    rw [if_neg haccepts, hmatch, ← hidentity]
    rfl

/-- Only a delivery can be badly framed. -/
theorem poll_frame {m : MqttSession} {p : Packet} (h : m.poll wire p = .error .invalidCommandFrame) :
    ∃ q, p = .publish q ∧ m.commandDelivery wire q = .error .invalidCommandFrame := by
  cases p with
  | publish q =>
    refine ⟨q, rfl, ?_⟩
    simp only [MqttSession.poll] at h
    rcases hd : m.commandDelivery wire q with e | delivery <;> rw [hd] at h <;> cases h
    rfl
  | connAck => cases h
  | subAck codes =>
    simp only [MqttSession.poll] at h
    split_ifs at h
    cases h
  | unsubAck topic reasons =>
    simp only [MqttSession.poll] at h
    split_ifs at h
    cases h
  | pubAck pkid =>
    simp only [MqttSession.poll] at h
    split at h <;> cases h
  | sentPublish pkid =>
    simp only [MqttSession.poll] at h
    split at h
    · cases h
    · split_ifs at h
      cases h
  | sentPubAck pkid =>
    simp only [MqttSession.poll] at h
    split at h <;> cases h
  | other => cases h

/-- A change that is refused for another reason than the store was not possible. -/
theorem planChange_error {s : StateV1} {change : StateV1 → Option StateV1} {error e : AgentError}
    (h : planChange s change error = .error e) : e = error ∧ change s = none := by
  unfold planChange at h
  split at h
  · rename_i hnone
    cases h
    exact ⟨rfl, hnone⟩
  · cases h

theorem plan_change_error {s : StateV1} {retention : NonZeroU32} {call : Call} {error e : AgentError}
    (change : StateV1 → Option StateV1) (hplan : plan pki retention s call = planChange s change error)
    (h : plan pki retention s call = .error e) : e = error ∧ change s = none := planChange_error (hplan.symm.trans h)

theorem markInboundSettled_eq_none {s : StateV1} {token : Option String} (h : s.markInboundSettled token = none) :
    ∀ p, s.pendingInbound = some p → ∃ t ∈ token, t ≠ p.settlementToken := by
  intro p hp
  unfold StateV1.markInboundSettled at h
  rw [hp] at h
  dsimp only at h
  split_ifs at h with hany
  simpa [Option.any_eq_true] using hany

/-- The agent refuses as it decided to, or for the store. -/
theorem ask_refusal {call : Call} {e : AgentError} (hg : h.Good pki) (hask : ask pki ambient call h = (.err (.agent e), h₁)) :
    plan pki h.agent.retention h.agent.state call = .error e ∨ ∃ e', e = .store e' := by
  obtain ⟨-, -, -, herr⟩ := ask_device hask
  exact hg.sound.call_err_cases rfl (herr e rfl)

theorem mem_of_remove {m rest : PacketMap (Option String)} {pkid : ℕ} {token : Option String}
    (hremove : PacketMap.remove m pkid = some (token, rest)) : (pkid, token) ∈ m := by
  obtain ⟨a, hlookup, hpair⟩ := Option.map_eq_some_iff.1 hremove
  cases hpair
  obtain ⟨l₁, l₂, rfl, -⟩ := List.lookup_eq_some_iff.1 hlookup
  simp

/-- The command that a genuine publication is. -/
theorem Genuine.call {p : Publish} {identity : DeviceIdentity} {command : DeviceCommand} {delivery : CommandDelivery}
    (hscoped : Scoped h) (hgen : Genuine wire h p identity command) (hwithin : Within h.driver.session identity command)
    (hdelivery : h.driver.session.commandDelivery wire p = .ok delivery) :
    commandCall wire ambient delivery = .applyCommand identity.commandTopic command ambient.now ambient.catalog := by
  rw [hgen.delivery hscoped hwithin] at hdelivery
  cases hdelivery
  unfold commandCall
  dsimp only
  rw [hgen.decodes]

/-- What the agent refuses in a round is the store's, or nothing to do with deliveries. -/
theorem Asks.not_fatal {call : Call} {e : AgentError} {p : Packet} {session : MqttSession} (hscoped : Scoped h)
    (htokened : Tokened h) (hdeliveries : Deliveries wire h (.packet p) ambient)
    (hb : Backpressured wire h (.packet p) ambient) (hpolls : MqttSession.Polls wire h.driver.session p event session)
    (hasks : Asks wire ambient (h.polled p event session) event call)
    (hplan : plan pki h.agent.retention h.agent.state call = .error e) : ¬ Fatal (.agent e) := by
  have hnot : e ≠ .rotationInFlight → e ≠ .unexpectedDelivery → ¬ Fatal (.agent e) := by
    rintro h₁ h₂ (heq | heq | heq)
    · exact h₁ (SessionError.agent.inj heq)
    · exact h₂ (SessionError.agent.inj heq)
    · cases heq
  cases hasks with
  | mark hrec =>
    rename_i revision
    obtain ⟨rfl, -⟩ := plan_change_error (·.markReconnected revision.1) rfl hplan
    exact hnot (by decide) (by decide)
  | confirm hpending =>
    rename_i name
    obtain ⟨rfl, -⟩ := plan_change_error (·.confirmOutbound name) rfl hplan
    exact hnot (by decide) (by decide)
  | absent hheld hscope hobs hset =>
    -- what is not settled is pending
    obtain ⟨-, hnone⟩ := plan_change_error (·.markInboundSettled none) rfl hplan
    have hset' : h.agent.pendingInboundSettled = false := hset
    unfold Running.pendingInboundSettled at hset'
    rcases hp : h.agent.state.pendingInbound with _ | pending
    · rw [hp] at hset'
      cases hset'
    · obtain ⟨t, ht, -⟩ := markInboundSettled_eq_none hnone pending hp
      cases ht
  | settle =>
    rename_i token
    obtain ⟨-, hnone⟩ := plan_change_error (·.markInboundSettled (some token)) rfl hplan
    cases hpolls with
    | inbound hremove =>
      have hmem : token ∈ h.tokens :=
        List.mem_append_right _ (List.mem_filterMap.2 ⟨_, mem_of_remove hremove, rfl⟩)
      obtain ⟨pending, hp, htoken⟩ := htokened token hmem
      obtain ⟨t, ht, hne⟩ := markInboundSettled_eq_none hnone pending hp
      cases ht
      exact absurd htoken.symm hne
  | command delivery =>
    cases hpolls with
    | command hdelivery =>
      obtain ⟨identity, command, hgen⟩ := hdeliveries _ rfl
      have hwithin := hb.scope _ _ _ rfl hgen
      rw [hgen.call hscoped hwithin hdelivery] at hplan
      rcases plan_apply_error hplan with ⟨e', rfl⟩ | ⟨rfl, hflight, hunknown⟩
      · exact hnot (fun h => by cases h) (fun h => by cases h)
      · rcases hb.spare _ _ _ rfl hgen with hidle | hknown
        · rw [hidle] at hflight
          cases hflight
        · exact absurd hknown hunknown

/-- **A round in which a delivery finds its place is not the end of the process.** -/
theorem Rounds.not_fatal {e : SessionError} (hg : h.Good pki) (hscoped : Scoped h) (htokened : Tokened h)
    (hdeliveries : Deliveries wire h poll ambient) (hb : Backpressured wire h poll ambient)
    (hr : Rounds pki wire ambient h poll (.err e) h') : ¬ Fatal e := by
  have plain : ∀ {e}, e = .wire ∨ e = .mqtt .request → ¬ Fatal e := by
    rintro _ (rfl | rfl) (h | h | h) <;> cases h
  cases hr with
  | lost e => rintro (h | h | h) <;> cases h
  | refused hpoll =>
    rintro (heq | heq | heq) <;> cases heq
    obtain ⟨p, rfl, hframe⟩ := poll_frame hpoll
    obtain ⟨identity, command, hgen⟩ := hdeliveries _ rfl
    rw [hgen.delivery hscoped (hb.scope _ _ _ rfl hgen)] at hframe
    cases hframe
  | broken hpoll hbroken =>
    have hpolls := MqttSession.poll_cases hpoll
    cases hbroken with
    | refused hasks hask =>
      rcases ask_refusal ((hg.polled _ _ _).set _) hask with hplan | ⟨e', rfl⟩
      · exact hasks.not_fatal hscoped htokened hdeliveries hb hpolls hplan
      · rintro (h | h | h) <;> cases h
    | unqueued hbefore => exact plain (.inr rfl)
    | unknown hbefore => rintro (h | h | h) <;> cases h
    | invalid hbefore => rintro (h | h | h) <;> cases h
    | unscoped hbefore hdriver hscope =>
      have hfixed := (fixed_polled hpolls).trans hbefore.fixed
      rw [hfixed.session, hscoped.copies, ← hfixed.driver] at hscope
      exact absurd hscope hdriver
  | handled hpoll hhandled hhead =>
    cases hhead with
    | failed he => exact plain he
  | stopping hstop hhead =>
    cases hhead with
    | failed he => exact plain he
  | unstopped => exact plain (.inr rfl)

end Rounds

/-! ### Every run -/

section Runs

variable {pki : Pki} {wire : Wire} {ambient : Ambient} {h h' : Host} {poll : Poll}

/-- A session is not opened because of the store or of the credential files. -/
theorem create_refusal {a : Running} {readable : Bool} {e : SessionError}
    (h : SessionDriver.create a readable = .error e) : (∃ e', e = .agent (.store e')) ∨ e = .mqtt .credentialUnavailable := by
  have hid : ∀ {e'}, a.currentIdentity = .error e' → ∃ e'', e' = .store e'' := by
    intro e' h'
    obtain ⟨e'', -, rfl⟩ := mapError_eq_error.1 h'
    exact ⟨e'', rfl⟩
  have hscope : ∀ {e'}, a.pendingCommandScope = .error e' → ∃ e'', e' = .store e'' := by
    intro e' h'
    unfold Running.pendingCommandScope at h'
    split at h'
    · cases h'
    · simp only [except_bind_error, mapError_eq_error] at h'
      rcases h' with h' | ⟨_, -, ⟨_, -, rfl⟩ | ⟨_, -, ⟨_, -, rfl⟩ | ⟨_, -, h'⟩⟩⟩
      · exact hid h'
      · exact ⟨_, rfl⟩
      · exact ⟨_, rfl⟩
      · cases h'
  unfold SessionDriver.create at h
  simp only [except_bind_error, mapError_eq_error] at h
  rcases h with ⟨e', he', rfl⟩ | ⟨_, -, ⟨e', he', rfl⟩ | ⟨_, -, h⟩⟩
  · obtain ⟨e'', rfl⟩ := hid he'
    exact .inl ⟨e'', rfl⟩
  · obtain ⟨e'', rfl⟩ := hscope he'
    exact .inl ⟨e'', rfl⟩
  · split_ifs at h
    cases h
    exact .inr rfl

/-- No round leaves the end of a session among the deeds. -/
theorem Rounds.ended {o : Outcome SessionError (Option SessionCompletion)} {result : Except SessionError SessionCompletion}
    (hg : h.Good pki) (hr : Rounds pki wire ambient h poll o h') (hmem : .ended result ∈ h'.deeds) :
    .ended result ∈ h.deeds := by
  cases hr.trace hg with
  | unpolled queued hdeeds hm =>
    rw [hdeeds] at hmem
    simpa using hmem
  | polled hp hpoll queued hdeeds hm =>
    rw [hdeeds] at hmem
    simpa using hmem
  | asked hp hpoll hasks answer hanswer queued hdeeds hm =>
    rw [hdeeds] at hmem
    rcases hanswer with rfl | ⟨reply, s, rfl⟩
    · simpa using hmem
    · simpa using hmem

/-- **Backpressure.**  In every run that MQTT allows, with commands for this device only, in which each of them comes
within the scope of the session and finds no rotation in flight, or is known to the journal, and in which no report
overtakes a settlement token, no session ends with an error that says that a command came at the wrong time. -/
theorem backpressure {inputs : List Input} (hrun : Along pki wire (fun h poll ambient => Allowed h poll ambient ∧
      Deliveries wire h poll ambient ∧ Backpressured wire h poll ambient) inputs) :
    ∀ e, .ended (.error e) ∈ (Process.fresh.run pki wire inputs).deeds → ¬ Fatal e := by
  induction inputs using List.reverseRecOn with
  | nil =>
    intro e hmem
    cases hmem
  | append_singleton inputs input ih =>
    obtain ⟨hbefore, hmeets⟩ := atEvery_concat.1 hrun
    change Along pki wire _ inputs at hbefore
    have hscoped := scoped_inductive.run (fun _ _ _ _ _ _ _ _ _ _ => trivial : Along pki wire (fun _ _ _ => True) inputs)
    have hrm := hbefore.mono fun _ _ _ h => (⟨h.1.receiveMaximum, h.2.2.tokens⟩ : _ ∧ TokensFirst _ _ _)
    have htokened := tokened_inductive.run (hrm.tracks fun _ _ _ h => h.1)
    have hold := ih hbefore
    rw [Process.run_concat]
    generalize Process.fresh.run pki wire inputs = p at hscoped htokened hold hmeets ⊢
    have hstepped : Stepped pki wire p input (p.step pki wire input) := p.step_cases input
    generalize p.step pki wire input = q at hstepped ⊢
    intro e hmem
    cases hstepped with
    | still hdeeds hsession => exact hold e (hdeeds ▸ hmem)
    | failed hcreate =>
      rw [(p.conclude_deeds _).1, List.mem_append, List.mem_singleton] at hmem
      rcases hmem with hmem | heq
      · exact hold e hmem
      · cases heq
        rcases create_refusal hcreate with ⟨e', rfl⟩ | rfl
        · rintro (h | h | h) <;> cases h
        · rintro (h | h | h) <;> cases h
    | opened ha hcreate hstage =>
      have hmem' : .ended (.error e) ∈ p.deeds ++ [_] := hmem
      rw [List.mem_append, List.mem_singleton] at hmem'
      exact hold e (hmem'.resolve_right fun h => by cases h)
    | round ha hstage hinput hr =>
      rename_i a driver poll ambient o h'
      have hg : (p.host a driver).Good pki := hscoped.good ha
      have hearlier : .ended (.error e) ∈ h'.deeds → ¬ Fatal e := fun h => hold e (hr.ended hg h)
      have hafter := p.after_cases o h'
      generalize p.after (o, h') = q at hafter hmem
      cases hafter with
      | proceeds => exact hearlier hmem
      | crashed => exact hearlier hmem
      | completed completion =>
        rw [((p.resume h').conclude_deeds _).1, List.mem_append, List.mem_singleton] at hmem
        exact hearlier (hmem.resolve_right fun h => by cases h)
      | failed e' =>
        rw [((p.resume h').conclude_deeds _).1, List.mem_append, List.mem_singleton] at hmem
        rcases hmem with hmem | heq
        · exact hearlier hmem
        · cases heq
          obtain ⟨-, hdeliveries, hb⟩ := hmeets _ _ _ _ ha hstage hinput
          exact hr.not_fatal hg (hscoped.session _ _ ha hstage) (htokened.session _ _ ha hstage) hdeliveries hb

end Runs

/-! ### A command behind another -/

namespace Fixture

open Agent.Fixture

variable {inputs : List Input} {s : StateV1} {d : SessionDriver} {deeds : List Deed}

theorem genuine_named (commandId : CommandId) {h : Host} {generation : NonZeroU64}
    (htopics : h.driver.session.topics = identity generation) :
    Genuine wire h (named commandId).publish (identity one) { command 0 with commandId := commandId } where
  tenant := (congrArg DeviceIdentity.tenant htopics).symm
  device := (congrArg DeviceIdentity.device htopics).symm
  topic := rfl
  qos := rfl
  correlation := rfl
  signed := verify_publish.2 rfl
  decodes := if_pos rfl
  addressed := rfl

/-- Every delivery is a command for this device. -/
abbrev Commands : Broker := fun h poll ambient => Allowed h poll ambient ∧ Deliveries wire h poll ambient

theorem admits_commands : Admits Commands := by
  intro h p ambient hallowed hno
  refine ⟨hallowed, ?_⟩
  rintro q ⟨⟩
  exact absurd rfl (hno q)

theorem commands_named (commandId : CommandId) {h : Host} (htopics : h.driver.session.topics = identity one)
    (hconn : h.driver.state.connection = .connected) (hfree : h.driver.session.inflight = 0) :
    Commands h (.packet (.publish (named commandId).publish)) ambient := by
  refine ⟨allowed_publish hconn hfree, ?_⟩
  rintro _ ⟨⟩
  exact ⟨_, _, genuine_named commandId htopics⟩

/-- An orderly broker is one of them. -/
theorem Orderly.backpressured {h : Host} {poll : Poll} {around : Ambient} (ho : Orderly h poll around) :
    Allowed h poll around ∧ Deliveries wire h poll around ∧ Backpressured wire h poll around := by
  have htopic : ∀ {p identity' command'}, p = (named commandId).publish → Genuine wire h p identity' command' →
      identity' = identity one ∧ command'.commandId.expose = commandId.expose := by
    rintro _ identity' command' rfl hgen
    refine ⟨(Broker.commandTopic_inj (utf8_inj.1 hgen.topic)).symm, ?_⟩
    exact (utf8_inj.1 (Option.some.inj hgen.correlation)).symm
  refine ⟨ho.allowed, fun p hp => ?_, fun p identity' command' hp hgen => ?_, fun p identity' command' hp hgen => ?_, ?_⟩
  · obtain ⟨rfl, ⟨generation, htopics⟩, -⟩ := ho.deliveries p hp
    exact ⟨_, _, genuine_named commandId htopics⟩
  · obtain ⟨hnamed, -, hscope, -⟩ := ho.deliveries p hp
    obtain ⟨rfl, hid⟩ := htopic hnamed hgen
    unfold MqttSession.commandIdentity at hscope
    split_ifs at hscope with haccepts
    · exact .inl (Option.some.inj hscope).symm
    · obtain ⟨scope, hfilter, -⟩ := Option.map_eq_some_iff.1 hscope
      obtain ⟨hsome, hmatch⟩ := Option.filter_eq_some_iff.1 hfilter
      obtain ⟨htopic, hname⟩ := of_decide_eq_true hmatch
      exact .inr ⟨scope, hsome, htopic, hname.trans hid.symm⟩
  · obtain ⟨hnamed, -, -, hspare⟩ := ho.deliveries p hp
    obtain ⟨-, hid⟩ := htopic hnamed hgen
    rcases hspare with hidle | ⟨c, hc, hname, hret⟩
    · exact .inl hidle
    · exact .inr ⟨c, hc, hname.trans hid.symm, hret⟩
  · intro pkid event rest hp _ _
    obtain ⟨hheld, hunsent⟩ := ho.acknowledgements pkid hp
    exact tokens_nil hheld hunsent

/-- A command that is new to the journal is refused while a rotation is in flight, -/
theorem plan_inFlight {pki : Pki} {retention : NonZeroU32} {topic : String} {command : DeviceCommand} {now : ℕ}
    {catalog : ArtifactCatalog} (hflight : s.rotationInFlight = true) (hnew : ¬ Known s command now) :
    plan pki retention s (.applyCommand topic command now catalog) = .error .rotationInFlight := by
  have hnone : s.commandMatch command.commandId.expose (commandFingerprint command) now = none := by
    refine commandMatch_eq_none.2 fun c hc hid => ?_
    by_contra hlt
    exact hnew ⟨c, hc, hid, not_le.1 hlt⟩
  simp only [plan, hnone]
  exact if_pos hflight

/-- and its session ends. -/
theorem At.refuses {commandId : CommandId} {E : Broker} (hat : At E inputs s d deeds)
    (hE : ∀ tree, E ⟨tree, ⟨s, retention⟩, d, deeds⟩ (.packet (.publish (named commandId).publish)) ambient)
    (htopics : d.session.topics = identity one) (hscope : d.recoveryCommand = none) (hflight : s.rotationInFlight = true)
    (hnew : ¬ Known s { command 0 with commandId := commandId } now) :
    Along Agent.Fixture.pki wire E (inputs ++ [packet (.publish (named commandId).publish)]) ∧
    ∀ deed ∈ deeds ++ [.ended (.error (.agent .rotationInFlight))],
      deed ∈ (run (inputs ++ [packet (.publish (named commandId).publish)])).deeds := by
  obtain ⟨tree, hs⟩ := hat
  have haccepts : d.session.commandIdentity (identity one).commandTopic commandId.expose = some (identity one) := by
    have htopic : d.session.acceptsCommand (identity one).commandTopic = true := decide_eq_true (by rw [htopics])
    unfold MqttSession.commandIdentity
    rw [if_pos htopic, htopics]
  have hpoll := poll_publish (commandPayload 0) haccepts
  have hplan : plan Agent.Fixture.pki retention s (.applyCommand topic { command 0 with commandId := commandId } now (catalog 0)) =
      .error .rotationInFlight := plan_inFlight hflight hnew
  have hreply : (Device.step Agent.Fixture.pki ⟨tree, some ⟨s, retention⟩⟩ (.call (commandCall wire ambient (named commandId))
      clean)).1 = some (.err .rotationInFlight) := by
    rw [commandCall_named, Device.step_call rfl, perform_eq, hplan]
    rfl
  obtain ⟨w, hask⟩ := ask_refused (h := Host.polled ⟨tree, ⟨s, retention⟩, d, deeds⟩ (.publish (named commandId).publish)
    (.command (named commandId)) { d.session with inflight := d.session.inflight + 1 }) ambient_faults hreply
  have hturn := turn_refused (h := ⟨tree, ⟨s, retention⟩, d, deeds⟩) hpoll
    ((congrArg (ask Agent.Fixture.pki ambient _) (observes_unscoped hscope)).trans hask)
  refine ⟨hs.meets (hE tree), fun deed hmem => ?_⟩
  have hrun : run (inputs ++ [packet (.publish (named commandId).publish)]) = _ := hs.step.trans (congrArg _ hturn)
  rw [hrun]
  show deed ∈ ((Process.resume _ _).conclude (.error (.agent .rotationInFlight))).deeds
  rw [(Process.conclude_deeds _ _).1]
  simp only [List.mem_append, List.mem_singleton] at hmem ⊢
  exact hmem.imp_left fun h => List.mem_append_left _ (List.mem_append_left _ h)

/-- A command comes behind the accepted one, when that is settled. -/
def behind : List Input :=
  listen ++ [packet (.publish (named commandId).publish)] ++ [packet (.unsubAck topic [.success])] ++ [packet (.sentPubAck 1)] ++
    [packet (.publish (named (name 0)).publish)]

end Fixture

open Fixture Agent.Fixture in
/-- A rotation in which the command comes again after its PUBACK, and a session that recovers it: both are answered, the
report is confirmed, and the one session that fails has lost its transport. -/
theorem backpressure_rotation :
    ((∃ s, .answered (apply 0 now) (.outcome .duplicate) s ∈ (run wholeRotation).deeds) ∧
      (∃ artifact, .answered (.confirmOutbound (reportFact 0 artifact).eventId) .done (rotated 0 artifact) ∈
        (run wholeRotation).deeds) ∧
      ∀ e, .ended (.error e) ∈ (run wholeRotation).deeds → ¬ Fatal e) ∧
    (∃ s, .answered (apply 0 now) (.outcome .duplicate) s ∈ (run recovery).deeds) ∧
      .ended (.error (.mqtt (.connection .io))) ∈ (run recovery).deeds ∧
      ∀ e, .ended (.error e) ∈ (run recovery).deeds → ¬ Fatal e := by
  obtain ⟨artifact, deeds, -, ⟨s, hduplicate⟩, hconfirmed, -, -, d, tree, hs⟩ := at_rotation
  obtain ⟨s', d', deeds', hlost, ⟨s'', hduplicate'⟩, tree', hs'⟩ := at_recovery
  have hfirst := backpressure (hs.along.mono fun _ _ _ => Orderly.backpressured)
  have hsecond := backpressure (hs'.along.mono fun _ _ _ => Orderly.backpressured)
  refine ⟨⟨⟨s, ?_⟩, ⟨artifact, ?_⟩, hfirst⟩, ⟨s'', ?_⟩, ?_, hsecond⟩
  · rw [run, hs.run]
    exact hduplicate
  · rw [run, hs.run]
    exact hconfirmed
  · rw [run, hs'.run]
    exact hduplicate'
  · rw [run, hs'.run]
    exact hlost

open Fixture Agent.Fixture in
/-- **What a broker may do.**  It sends a second command, which it had queued, after the UNSUBACK and the PUBACK of the
first: the process ends. -/
theorem backpressure_overtaken : Along Agent.Fixture.pki Fixture.wire Commands behind ∧
    (∃ s, .answered (apply 0 now) (.outcome .accepted) s ∈ (run behind).deeds) ∧
    .ended (.error (.agent .rotationInFlight)) ∈ (run behind).deeds := by
  have hlistening : At Commands Fixture.listen (resting 0 []) listening _ := at_listening admits_commands
  obtain ⟨artifact, -, htaken⟩ := hlistening.takes (by decide) vacant_listen fun _ => commands_named commandId rfl rfl rfl
  have hsettled := (htaken.releases fun h _ ha => admits_commands h _ _ ha fun _ h => by cases h).settles fun h ha =>
    admits_commands h _ _ ha fun _ h => by cases h
  have hnew : ¬ Known (turning 0 artifact [turningAck 0 artifact, turningReport 0 artifact] none true)
      { command 0 with commandId := name 0 } now := by
    rintro ⟨c, hc, hid, -⟩
    rw [List.mem_singleton.1 hc] at hid
    exact name_ne 0 hid.symm
  obtain ⟨hrun, hdeeds⟩ := hsettled.refuses (fun _ => commands_named (name 0) rfl rfl rfl) rfl rfl rfl hnew
  refine ⟨hrun, ⟨_, hdeeds (.answered (apply 0 now) (.outcome .accepted)
    (turning 0 artifact [turningAck 0 artifact, turningReport 0 artifact] none false)) ?_⟩, hdeeds _ ?_⟩
  · simp [takenDeeds]
  · simp

end RssIncubator.Driver
