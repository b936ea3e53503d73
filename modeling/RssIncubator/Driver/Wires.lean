import RssIncubator.Driver.Exact

/-!
# The same run over another wire

What a process does with its inputs depends on its wire in three places: whom a delivery is verified for, what its payload
is under its name, and how a fact is encoded.  Over a wire that tells the same of the deliveries that come, and encodes the
same way the facts that go out, the run is the same.
-/

namespace RssIncubator.Driver

open Agent Lib Prog

/-- The other wire tells the same of a publication: whom it is verified for, and there what its payload is under its
name. -/
structure Wire.Agrees (wire wire' : Wire) (p : Publish) : Prop where
  verifies : ∀ identity, wire'.verifyCommand identity p = wire.verifyCommand identity p
  decodes : ∀ identity commandId, wire.verifyCommand identity p = true → p.correlationData = some (utf8 commandId.expose) →
    wire'.decodeCommand identity commandId p.payload = wire.decodeCommand identity commandId p.payload

section Agreement

variable {pki : Pki} {wire wire' : Wire} {ambient : Ambient} {h : Host} {poll : Poll}

theorem Wire.Agrees.polls {p : Publish} (hp : wire.Agrees wire' p) (m : MqttSession) :
    m.poll wire' (.publish p) = m.poll wire (.publish p) := by
  simp only [MqttSession.poll, MqttSession.commandDelivery, hp.verifies]

/-- What is said over the one wire, as far as it is said, is said over the other. -/
def Echoes (wire wire' : Wire) (deeds : List Deed) : Prop := ∀ identity topic fact payload,
  wire.encodeOutbound identity fact = some payload → .queued (.publish topic fact payload) ∈ deeds →
    wire'.encodeOutbound identity fact = some payload

theorem head_agrees (hq : ambient.queueing = true) (hsaid : Echoes wire wire' (head wire ambient h).2.deeds)
    (hfails : (head wire ambient h).1 ≠ .err .wire) : head wire' ambient h = head wire ambient h := by
  by_cases hcan : h.driver.state.canPublish = true
  · rcases hnext : h.agent.nextOutbound with _ | fact
    · have hsame : ∀ w : Wire, publishNext w ambient h = (.ok (), h) := fun w => by
        unfold publishNext
        rw [driver_bind, agent_bind, if_pos hcan, hnext]
        rfl
      unfold head
      rw [bind_apply, bind_apply, hsame, hsame]
    · rcases hencode : wire.encodeOutbound h.driver.sessionIdentity fact with _ | payload
      · refine absurd ?_ hfails
        unfold head publishNext
        rw [bind_apply, driver_bind, agent_bind, if_pos hcan, hnext]
        dsimp only
        rw [hencode]
        rfl
      · rw [head_publishes hq hcan hnext hencode] at hsaid ⊢
        exact head_publishes hq hcan hnext
          (hsaid _ _ _ _ hencode (List.mem_append_right _ (List.mem_singleton_self _)))
  · have hsame : ∀ w : Wire, publishNext w ambient h = (.ok (), h) := fun w => by
      unfold publishNext
      rw [driver_bind, agent_bind, if_neg hcan]
      rfl
    unfold head
    rw [bind_apply, bind_apply, hsame, hsame]

theorem handleEvent_agrees {p : Packet} {event : MqttEvent} {session : MqttSession} (hp : ∀ q, p = .publish q → wire.Agrees wire' q)
    (hpoll : h.driver.session.poll wire p = .ok (event, session)) :
    handleEvent pki wire' ambient event = handleEvent pki wire ambient event := by
  cases event with
  | command delivery =>
    have hcall : commandCall wire' ambient delivery = commandCall wire ambient delivery := by
      cases MqttSession.poll_cases hpoll with
      | command hdelivery =>
        obtain ⟨-, ⟨correlation, hcorrelation, hname⟩, -, hverified⟩ := commandDelivery_cases hdelivery
        rw [← fromUtf8_eq_some.1 hname] at hcorrelation
        unfold commandCall
        rw [MqttSession.commandDelivery_publish hdelivery, (hp _ rfl).decodes _ _ hverified hcorrelation]
    simp only [handleEvent, onCommand, hcall]
  | _ => rfl

theorem turn_agrees (hq : ambient.queueing = true) (hp : ∀ p, poll = .packet (.publish p) → wire.Agrees wire' p)
    (hsaid : Echoes wire wire' (turn pki wire ambient poll h).2.deeds)
    (hfails : (turn pki wire ambient poll h).1 ≠ .err .wire) : turn pki wire' ambient poll h = turn pki wire ambient poll h := by
  cases poll with
  | packet p =>
    have hpolls : pollSession wire' p h = pollSession wire p h := by
      cases p with
      | publish q => simp only [pollSession, (hp q rfl).polls]
      | _ => rfl
    simp only [turn] at hsaid hfails ⊢
    rw [bind_apply] at hsaid hfails ⊢
    rw [bind_apply, hpolls]
    rcases hpoll : h.driver.session.poll wire p with e | ⟨event, session⟩
    · simp only [pollSession, hpoll]
    · simp only [pollSession, hpoll] at hsaid hfails ⊢
      have hhandle : handleEvent pki wire' ambient event = handleEvent pki wire ambient event :=
        handleEvent_agrees (fun q hq => hp q (hq ▸ rfl)) hpoll
      rw [bind_apply] at hsaid hfails ⊢
      rw [bind_apply, hhandle]
      rcases hend : handleEvent pki wire ambient event (h.polled p event session) with ⟨(_ | _) | e | _, h₁⟩ <;>
        rw [hend] at hsaid hfails
      exact head_agrees hq hsaid hfails
  | failed error => rfl
  | shutdown =>
    simp only [turn] at hsaid hfails ⊢
    rw [driver_bind] at hsaid hfails ⊢
    rw [driver_bind]
    split_ifs with hshut
    · rfl
    · rw [if_neg hshut, bind_apply] at hsaid hfails
      rw [bind_apply, bind_apply]
      rcases hend : startShutdown ambient h with ⟨_ | e | _, h₁⟩ <;> rw [hend] at hsaid hfails
      exact head_agrees hq hsaid hfails
  | deadline => rfl

end Agreement

/-- No input takes a deed away. -/
theorem Process.deeds_step {pki : Pki} {wire : Wire} {p : Process} (hgood : ∀ a driver, p.device.agent = some a →
    (p.host a driver).Good pki) (input : Input) : p.deeds ⊆ (p.step pki wire input).deeds := by
  have hstepped : Stepped pki wire p input (p.step pki wire input) := p.step_cases input
  generalize p.step pki wire input = q at hstepped ⊢
  cases hstepped with
  | still hdeeds => rw [hdeeds]; exact List.Subset.refl _
  | failed hcreate =>
    rw [(p.conclude_deeds _).1]
    exact List.subset_append_left _ _
  | opened => exact List.subset_append_left _ _
  | round ha hstage hinput hr =>
    rename_i a driver poll ambient o h'
    have hhost : p.deeds ⊆ h'.deeds := by
      cases hr.trace (hgood a driver ha) with
      | unpolled queued hdeeds => rw [hdeeds]; exact List.subset_append_left _ _
      | polled hp hpoll queued hdeeds => rw [hdeeds]; exact List.subset_append_left _ _
      | asked hp hpoll hasks answer hanswer queued hdeeds => rw [hdeeds]; exact List.subset_append_left _ _
    obtain ⟨-, hdeeds | ⟨result, hdeeds⟩, -⟩ := (p.after_cases o h').deeds
    · rw [hdeeds]
      exact hhost
    · rw [hdeeds]
      exact List.subset_append_of_subset_left _ hhost

/-- **A run over another wire is the same run**, if the wire tells the same of all that is delivered and what is published
over the one is encoded the same over the other. -/
theorem run_agrees {pki : Pki} {wire wire' : Wire} {inputs : List Input}
    (hinputs : ∀ poll ambient, .turn poll ambient ∈ inputs → ambient.queueing = true ∧
      ∀ p, poll = .packet (.publish p) → wire.Agrees wire' p)
    (hsaid : Echoes wire wire' (Process.fresh.run pki wire inputs).deeds)
    (hfails : .ended (.error .wire) ∉ (Process.fresh.run pki wire inputs).deeds) :
    Process.fresh.run pki wire' inputs = Process.fresh.run pki wire inputs := by
  induction inputs using List.reverseRecOn with
  | nil => rfl
  | append_singleton inputs input ih =>
    have hinductive : Inductive pki wire (fun _ _ _ => True) (fun _ _ => True) fun _ => True := trivial_inductive
    have halong : Along pki wire (fun _ _ _ => True) inputs := fun _ _ _ _ _ _ _ _ _ _ => trivial
    have hgood := hinductive.run halong
    rw [Process.run_concat] at hsaid hfails
    have hmore : (Process.fresh.run pki wire inputs).deeds ⊆ ((Process.fresh.run pki wire inputs).step pki wire input).deeds :=
      Process.deeds_step (fun a driver ha => hgood.good ha) input
    rw [Process.run_concat, Process.run_concat,
      ih (fun poll ambient h => hinputs poll ambient (List.mem_append_left _ h))
        (fun identity topic fact payload hencode h => hsaid identity topic fact payload hencode (hmore h)) fun h => hfails (hmore h)]
    generalize Process.fresh.run pki wire inputs = p at hsaid hfails
    cases input with
    | turn poll ambient =>
      obtain ⟨hq, hp⟩ := hinputs poll ambient (List.mem_append_right _ (List.mem_singleton_self _))
      simp only [Process.step] at hsaid hfails ⊢
      split at hsaid
      · rename_i a driver ha hstage
        rw [ha, hstage] at hfails
        dsimp only at hfails
        split_ifs at hsaid hfails ⊢ with hpossible
        · have hkept : (turn pki wire ambient poll (p.host a driver)).2.deeds ⊆
              (p.after (turn pki wire ambient poll (p.host a driver))).deeds := by
            obtain ⟨-, hdeeds | ⟨result, hdeeds⟩, -⟩ := (p.after_cases _ (turn pki wire ambient poll (p.host a driver)).2).deeds
            · exact hdeeds ▸ List.Subset.refl _
            · exact hdeeds ▸ List.subset_append_left _ _
          rw [turn_agrees hq hp (fun identity topic fact payload hencode h => hsaid identity topic fact payload hencode (hkept h))]
          intro herr
          refine hfails ?_
          rcases hturn : turn pki wire ambient poll (p.host a driver) with ⟨o, h'⟩
          rw [hturn] at herr
          obtain rfl : o = .err .wire := herr
          exact ((p.resume h').conclude_deeds (.error .wire)).1 ▸ List.mem_append_right _ (List.mem_singleton_self _)
        · rfl
      · rfl
    | _ => rfl

end RssIncubator.Driver
