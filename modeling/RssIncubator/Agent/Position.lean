import RssIncubator.Agent.Reachable

/-!
# The credential position only moves forward

Four numbers say which credential a device has: the desired generation, the credential generation, the fence
epoch and the revision.  An accepted command moves all of them forward, the fence possibly not; nothing else
moves any.  Over a run, restarts included, a device never goes back on one of them, and so no command is
accepted twice, however old its journal entry.
-/

namespace RssIncubator.Agent

open Lib StateV1

/-- The second document is on none of the four axes behind the first. -/
structure NotBehind (s s' : StateV1) : Prop where
  desiredGeneration : s.current.desiredGeneration ≤ s'.current.desiredGeneration
  credentialGeneration : s.identity.credentialGeneration ≤ s'.identity.credentialGeneration
  fenceEpoch : s.current.fenceEpoch ≤ s'.current.fenceEpoch
  credentialRevision : s.current.credentialRevision ≤ s'.current.credentialRevision

theorem NotBehind.refl (s : StateV1) : NotBehind s s := ⟨le_rfl, le_rfl, le_rfl, le_rfl⟩

theorem NotBehind.trans {s s' s'' : StateV1} (h : NotBehind s s') (h' : NotBehind s' s'') : NotBehind s s'' :=
  ⟨h.1.trans h'.1, h.2.trans h'.2, h.3.trans h'.3, h.4.trans h'.4⟩

theorem Advances.notBehind {s s' : StateV1} (h : Advances s s') : NotBehind s s' :=
  ⟨h.desiredGeneration.le, h.credentialGeneration.le, h.fenceEpoch, by rw [h.credentialRevision]; omega⟩

theorem SameCredential.notBehind {s s' : StateV1} (h : SameCredential s s') : NotBehind s s' := by
  obtain ⟨h1, h2⟩ := h
  constructor <;> simp [h1, h2]

section

variable {pki : Pki} {retention : NonZeroU32} {s c : StateV1} {call : Call} {reply : Reply}

theorem Commits.notBehind (h : Commits pki retention call s c reply) (hs : s.Coherent) : NotBehind s c := by
  obtain ⟨dec, hcred⟩ := h.credential hs
  cases hcred with
  | same h _ _ => exact h.notBehind
  | new _ _ h _ _ _ => exact h.notBehind

/-- One step of a device takes it nowhere back. -/
theorem Sound.notBehind {d : Device} (h : Sound pki d) (action : Action) (hs : d.standing = some s) :
    ∃ s', (d.step pki action).2.standing = some s' ∧ NotBehind s s' := by
  have hcoh := standing_coherent h hs
  have hmoved := h.moved action
  rw [hs] at hmoved
  generalize (d.step pki action).2.standing = next at hmoved ⊢
  cases hmoved with
  | same => exact ⟨s, rfl, .refl s⟩
  | commits hc => exact ⟨_, rfl, hc.notBehind hcoh⟩

/-- Nor does a run. -/
theorem Sound.run_notBehind (actions : List Action) {d : Device} (h : Sound pki d) (hs : d.standing = some s) :
    ∃ s', (d.run pki actions).standing = some s' ∧ NotBehind s s' := by
  induction actions generalizing d s with
  | nil => exact ⟨s, hs, .refl s⟩
  | cons action actions ih =>
    obtain ⟨s', hs', hle⟩ := h.notBehind action hs
    obtain ⟨s'', hs'', hle'⟩ := ih (h.step action) hs'
    exact ⟨s'', hs'', hle.trans hle'⟩

/-- A call that is answered `Accepted` has installed a newer credential, the one the command asked for. -/
theorem Sound.call_accepted {d : Device} (h : Sound pki d) {a : Running} (ha : d.agent = some a) {faults : Faults}
    (hr : (d.step pki (.call call faults)).1 = some (.ok (.outcome .accepted))) :
    ∃ s' topic command now catalog, (d.step pki (.call call faults)).2.agent = some { a with state := s' } ∧
      call = .applyCommand topic command now catalog ∧ Advances a.state s' ∧
      s'.current.desiredGeneration = command.desiredGeneration.1 := by
  have hs := (h.memory a ha).1.coherent
  obtain ⟨s', hs', ⟨-, -, hk⟩ | ⟨-, hc⟩⟩ := h.call_ok ha hr
  · cases plan_cases hs.consistent hk
  · obtain ⟨dec, hcred⟩ := hc.credential hs
    cases hcred with
    | same _ _ hne => exact absurd rfl hne
    | new hcall _ hadv hgen _ _ => exact ⟨s', _, _, _, _, hs', hcall, hadv, hgen⟩

/-- With any other answer the agent keeps its credential. -/
theorem Sound.call_other {d : Device} (h : Sound pki d) {a : Running} (ha : d.agent = some a) {faults : Faults}
    {answer : Outcome AgentError Reply} (hr : (d.step pki (.call call faults)).1 = some answer)
    (hne : answer ≠ .ok (.outcome .accepted)) (hcrash : answer ≠ .crash) :
    ∃ s', (d.step pki (.call call faults)).2.agent = some { a with state := s' } ∧ SameCredential a.state s' := by
  have hs := (h.memory a ha).1.coherent
  rcases answer with reply | e | _
  · obtain ⟨s', hs', ⟨rfl, -, -⟩ | ⟨-, hc⟩⟩ := h.call_ok ha hr
    · exact ⟨_, hs', rfl, rfl⟩
    · obtain ⟨dec, hcred⟩ := hc.credential hs
      cases hcred with
      | same hsame _ _ => exact ⟨s', hs', hsame⟩
      | new _ hreply _ _ _ _ => exact absurd (congrArg Outcome.ok hreply) hne
  · exact ⟨a.state, h.call_err ha hr, rfl, rfl⟩
  · exact absurd rfl hcrash

end

/-- **The credential position over every run**, whatever the clocks, the catalogs and the failures: an accepted
command moves it forward and nothing else moves it, it never goes back, across restarts too, and no command is
accepted twice. -/
theorem run_position (pki : Pki) (actions : List Action) :
    (∀ a call faults answer, (Device.fresh.run pki actions).agent = some a →
      ((Device.fresh.run pki actions).step pki (.call call faults)).1 = some answer → answer ≠ .crash →
      ∃ s', ((Device.fresh.run pki actions).step pki (.call call faults)).2.agent = some { a with state := s' } ∧
        if answer = .ok (.outcome .accepted) then Advances a.state s' else SameCredential a.state s') ∧
    (∀ more s s', (Device.fresh.run pki actions).standing = some s →
      (Device.fresh.run pki (actions ++ more)).standing = some s' → NotBehind s s') ∧
    ∀ command topic now catalog faults more topic' now' catalog' faults',
      ((Device.fresh.run pki actions).step pki (.call (.applyCommand topic command now catalog) faults)).1 =
        some (.ok (.outcome .accepted)) →
      ((Device.fresh.run pki (actions ++ .call (.applyCommand topic command now catalog) faults :: more)).step pki
        (.call (.applyCommand topic' command now' catalog') faults')).1 ≠ some (.ok (.outcome .accepted)) := by
  have hsound := sound_run pki actions
  refine ⟨?_, ?_, ?_⟩
  · intro a call faults answer ha hr hcrash
    by_cases hacc : answer = .ok (.outcome .accepted)
    · obtain ⟨s', -, -, -, -, hs', -, hadv, -⟩ := hsound.call_accepted ha (hacc ▸ hr)
      exact ⟨s', hs', by rwa [if_pos hacc]⟩
    · obtain ⟨s', hs', hsame⟩ := hsound.call_other ha hr hacc hcrash
      exact ⟨s', hs', by rwa [if_neg hacc]⟩
  · intro more s s' hs hs'
    obtain ⟨s'', hs'', hle⟩ := hsound.run_notBehind more hs
    rw [Device.run_append, hs''] at hs'
    exact Option.some.inj hs' ▸ hle
  · intro command topic now catalog faults more topic' now' catalog' faults' hr hr'
    rw [Device.run_append, Device.run] at hr'
    -- the second acceptance would need a desired generation above the one the first has set
    have hagent : ∀ {d : Device} {call faults}, (d.step pki (.call call faults)).1 = some (.ok (.outcome .accepted)) →
        ∃ a, d.agent = some a := by
      intro d call faults h
      rcases ha : d.agent with _ | a
      · simp only [Device.step, ha] at h
        cases h
      · exact ⟨a, rfl⟩
    obtain ⟨a, ha⟩ := hagent hr
    obtain ⟨s₁, _, c₁, _, _, hs₁, hcall₁, -, hgen₁⟩ := hsound.call_accepted ha hr
    cases hcall₁
    set d₁ := ((Device.fresh.run pki actions).step pki (.call (.applyCommand topic command now catalog) faults)).2
    have hsound₁ : Sound pki d₁ := hsound.step _
    have hstand : d₁.standing = some s₁ := standing_agent hs₁
    obtain ⟨s₂, hs₂, hle⟩ := hsound₁.run_notBehind more hstand
    obtain ⟨a₂, ha₂⟩ := hagent hr'
    have hsound₂ : Sound pki (d₁.run pki more) := Device.run_induction (fun _ action h => h.step action) more _ hsound₁
    obtain ⟨s₃, _, c₃, _, _, -, hcall₃, hadv, hgen₃⟩ := hsound₂.call_accepted ha₂ hr'
    cases hcall₃
    have hs₂' : a₂.state = s₂ := Option.some.inj ((standing_agent ha₂).symm.trans hs₂)
    have h1 := hadv.desiredGeneration
    have h2 := hle.desiredGeneration
    rw [hs₂'] at h1
    omega

end RssIncubator.Agent
