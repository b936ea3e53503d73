import RssIncubator.Agent.Invariant

/-!
# Every reachable device

`Sound` holds of a device at all times, whatever fails and wherever the machine stops: both copies of the
state are coherent, the directory of the current revision is complete and hashes to the recorded digest,
and the manifest is the state in memory or the outcome of one operation on it.

`Sound.moved` reads the steps of a device as steps of the protocol: the state a device stands on, which
is the one in memory while the agent runs and the manifest otherwise, stays or takes one operation.
-/

namespace RssIncubator.Agent

open Lib Prog StateV1

/-! ### One operation on the document -/

/-- An operation on `s` answers `reply` with the document `c` once it is persisted. -/
def Commits (pki : Pki) (retention : NonZeroU32) (call : Call) (s c : StateV1) (reply : Reply) : Prop :=
  ∃ dec, plan pki retention s call = .ok dec ∧ dec.candidate = some (c, reply) ∧ c.validate = .ok ()

/-- A newer credential has taken the place of the current one. -/
structure Advances (s c : StateV1) : Prop where
  desiredGeneration : s.current.desiredGeneration < c.current.desiredGeneration
  credentialGeneration : s.identity.credentialGeneration < c.identity.credentialGeneration
  fenceEpoch : s.current.fenceEpoch ≤ c.current.fenceEpoch
  credentialRevision : c.current.credentialRevision = s.current.credentialRevision + 1

/-- The document is about the same credential. -/
structure SameCredential (s c : StateV1) : Prop where
  current : c.current = s.current
  identity : c.identity = s.identity

/-- The digest of a revision. -/
def digestOf (c : MaterialFile → Bytes) : String :=
  (computeArtifactDigestBytes (c .ca) (c .certificate) (c .privateKey)).expose

section Decision

variable {pki : Pki} {retention : NonZeroU32} {s c : StateV1} {call : Call} {dec : Decision} {reply : Reply}

/-- How a decision comes by the credential of its candidate. -/
inductive Credential (s : StateV1) (call : Call) (dec : Decision) (c : StateV1) (reply : Reply) : Prop
  | same (h : SameCredential s c) (hinst : dec.installs = none) (hreply : reply ≠ .outcome .accepted)
  | new {topic command now catalog credential} (hcall : call = .applyCommand topic command now catalog)
      (hreply : reply = .outcome .accepted) (h : Advances s c)
      (hgen : c.current.desiredGeneration = command.desiredGeneration.1)
      (hinst : dec.installs = some (c.current.credentialRevision, credential))
      (hdigest : digestOf credential.file = c.current.artifactDigest)

theorem Decides.credential (h : Decides pki retention s call dec) (hc : dec.candidate = some (c, reply)) :
    Credential s call dec c reply := by
  cases h with
  | duplicate hd hm hack => cases hc
  | replay hd hm hack hroom hfind =>
    cases hc
    exact .same ⟨rfl, rfl⟩ rfl (by decide)
  | conflicting hd hm hknown => cases hc
  | conflict hd hm hknown hroom hgen hfence =>
    cases hc
    exact .same ⟨rfl, rfl⟩ rfl (by decide)
  | reject hd hm hgen hfence hexpiry hroom hjournal =>
    cases hc
    exact .same ⟨rfl, rfl⟩ rfl (by intro he; cases he)
  | accept hm hflight hid htopic hdevice hdeadline hres hfence hgen hcred hroom hjournal hrev =>
    cases hc
    obtain ⟨-, hdigest⟩ := ArtifactCatalog.resolve_ok hres
    refine .new rfl rfl ⟨hgen, hcred, hfence, hrev⟩ rfl rfl ?_
    exact congrArg Sha256Digest.expose hdigest.symm
  | confirm h =>
    cases hc
    obtain ⟨entry, -, -, -, rfl⟩ := confirmOutbound_eq_some h
    exact .same ⟨rfl, rfl⟩ rfl (by decide)
  | reconnect h =>
    cases hc
    obtain ⟨-, rfl⟩ := markReconnected_eq_some.1 h
    exact .same ⟨rfl, rfl⟩ rfl (by decide)
  | settled h =>
    cases hc
    obtain ⟨p, -, -, rfl⟩ := markInboundSettled_eq_some h
    exact .same ⟨rfl, rfl⟩ rfl (by decide)
  | absent h =>
    cases hc
    obtain ⟨p, -, -, rfl⟩ := markInboundSettled_eq_some h
    exact .same ⟨rfl, rfl⟩ rfl (by decide)

theorem Commits.coherent (h : Commits pki retention call s c reply) (hs : s.Coherent) : c.Coherent := by
  obtain ⟨dec, hp, hc, hv⟩ := h
  exact (plan_cases hs.consistent hp).coherent hs hc hv

theorem Commits.credential (h : Commits pki retention call s c reply) (hs : s.Coherent) :
    ∃ dec, Credential s call dec c reply := by
  obtain ⟨dec, hp, hc, -⟩ := h
  exact ⟨dec, (plan_cases hs.consistent hp).credential hc⟩

end Decision

/-! ### The device -/

/-- The directory of the current revision is complete and hashes to the recorded digest. -/
def Installed (t : Disk) (s : StateV1) : Prop :=
  ∃ c, Holds t s.current.credentialRevision c ∧ digestOf c = s.current.artifactDigest

theorem Installed.mono {t t' : Disk} {s : StateV1} (h : Installed t s)
    (hholds : ∀ n c, Holds t n c → Holds t' n c) : Installed t' s := by
  obtain ⟨c, hc, hd⟩ := h
  exact ⟨c, hholds _ _ hc, hd⟩

theorem SameCredential.installed {t : Disk} {s c : StateV1} (h : SameCredential s c) (hi : Installed t s) :
    Installed t c := by
  unfold Installed
  rw [h.current]
  exact hi

/-- What holds of either copy of the state. -/
structure Good (pki : Pki) (t : Disk) (s : StateV1) : Prop where
  coherent : s.Coherent
  installed : Installed t s
  /-- Only the first document is written without a check of its expiry. -/
  expires : PositiveExpiry pki ∨ s.commandJournal ≠ [] → 0 < s.current.expiresAt

theorem Good.mono {pki : Pki} {t t' : Disk} {s : StateV1} (h : Good pki t s)
    (hholds : ∀ n c, Holds t n c → Holds t' n c) : Good pki t' s :=
  ⟨h.coherent, h.installed.mono hholds, h.expires⟩

/-- What holds of a device at all times. -/
structure Sound (pki : Pki) (d : Device) : Prop where
  layout : Layout d.tree
  disk : ∀ s, manifest d.tree = some s → Good pki d.tree s
  memory : ∀ a, d.agent = some a → Good pki d.tree a.state ∧ ∃ s, manifest d.tree = some s ∧
    (s = a.state ∨ ∃ call reply, Commits pki a.retention call a.state s reply)

section Runs

variable {pki : Pki} {d : Device}

theorem sound_fresh : Sound pki Device.fresh :=
  ⟨layout_empty, fun _ h => (by cases h), fun _ h => (by cases h)⟩

/-- A credential that passed the checks expires after the epoch. -/
theorem Sound.expires (h : Sound pki d) (hpki : PositiveExpiry pki) {a : Running} (ha : d.agent = some a) :
    0 < a.state.current.expiresAt := (h.memory a ha).1.expires (.inl hpki)

/-- What opening relies on: with a manifest there is a revision. -/
theorem Sound.revision (h : Sound pki d) : manifest d.tree ≠ none → ∃ n, d.tree.get (revisionRoot n) ≠ none := by
  intro hm
  obtain ⟨s, hs⟩ := Option.ne_none_iff_exists'.1 hm
  obtain ⟨c, hc, -⟩ := (h.disk s hs).installed
  exact ⟨_, by rw [hc.dir]; simp⟩

theorem Device.step_call {a : Running} (ha : d.agent = some a) (call : Call) (faults : Faults) :
    d.step pki (.call call faults) =
      Device.afterCall a (perform pki a.retention faults call ⟨d.tree, a.state⟩) := by
  unfold Device.step
  rw [ha]

/-- The tree after a call, and the state in memory if there is still one. -/
theorem afterCall_agent {a a' : Running} {r : Outcome AgentError Reply × World}
    (h : (Device.afterCall a r).2.agent = some a') : a' = { a with state := r.2.state } ∧ r.1 ≠ .crash := by
  unfold Device.afterCall at h
  rcases r with ⟨_ | _ | _, w⟩ <;> cases h <;> exact ⟨rfl, fun h => (by cases h)⟩

theorem Sound.step_call (h : Sound pki d) {a : Running} (ha : d.agent = some a) (call : Call) (faults : Faults) :
    Sound pki (Device.afterCall a (perform pki a.retention faults call ⟨d.tree, a.state⟩)).2 := by
  obtain ⟨hgood, s₀, hs₀, hahead⟩ := h.memory a ha
  obtain ⟨hend, hlayout, hholds⟩ := perform_cases faults (w := ⟨d.tree, a.state⟩) pki a.retention h.layout call
  set r := perform pki a.retention faults call ⟨d.tree, a.state⟩
  cases hend with
  | kept hstate hm hok herr =>
    refine ⟨hlayout, ?_, ?_⟩
    · intro s hs
      exact (h.disk s (hm ▸ hs)).mono hholds
    · intro a' ha'
      obtain ⟨rfl, -⟩ := afterCall_agent ha'
      refine ⟨hstate ▸ hgood.mono hholds, s₀, hm.trans hs₀, ?_⟩
      rw [hstate]
      exact hahead
  | committed hp hc hv hm hinst ho =>
    rename_i dec c reply
    have hcommits : Commits pki a.retention call a.state c reply := ⟨dec, hp, hc, hv⟩
    have hci : Installed r.2.tree c := by
      cases (plan_cases hgood.coherent.consistent hp).credential hc with
      | same hsame _ _ => exact hsame.installed (hgood.installed.mono hholds)
      | new _ _ _ _ hi hdigest => exact ⟨_, hinst _ _ hi, hdigest⟩
    have hgood' : Good pki r.2.tree c := ⟨hcommits.coherent hgood.coherent, hci, fun _ => (validate_eq_ok.1 hv).2⟩
    refine ⟨hlayout, ?_, ?_⟩
    · intro s hs
      obtain rfl := Option.some.inj (hm.symm.trans hs)
      exact hgood'
    · intro a' ha'
      obtain ⟨rfl, hnc⟩ := afterCall_agent ha'
      rcases ho with ⟨-, hst⟩ | ⟨-, hst, -⟩ | ⟨hcr, -⟩
      · exact ⟨hst ▸ hgood', c, hm, .inl hst.symm⟩
      · refine ⟨hst ▸ hgood.mono hholds, c, hm, .inr ⟨call, reply, ?_⟩⟩
        rw [hst]
        exact hcommits
      · exact absurd hcr hnc

theorem Bootstrap.good {config : AgentConfig} {now : ℕ} {c : ValidatedCredential} {digest : Sha256Digest} {t : Disk}
    (h : Bootstrap pki config now c digest) (hold : Holds t config.initialPosition.credentialRevision.1 c.file) :
    Good pki t (firstState config.identity config.initialPosition c digest) :=
  ⟨coherent_initial .., ⟨c.file, hold, congrArg Sha256Digest.expose h.digest_eq.symm⟩,
    fun hor => hor.elim (fun hpki => hpki _ _ _ _ _ _ h.validateBytes) fun hne => absurd rfl hne⟩

theorem Sound.step_open (h : Sound pki d) (config : AgentConfig) (now : ℕ) (faults : Faults) :
    Sound pki (Device.afterOpen d config (openAgent pki faults d.agent.isSome config now d.tree)).2 := by
  have hend : OpenEnd pki config now d.agent.isSome d.tree (openAgent pki faults d.agent.isSome config now d.tree) :=
    openAgent_cases h.layout h.revision
  set r := openAgent pki faults d.agent.isSome config now d.tree
  have hdisk : ∀ s, manifest r.2 = some s → Good pki r.2 s := by
    intro s hs
    rcases hend.manifest with hm | ⟨-, c, digest, hb, hm, hold⟩
    · exact (h.disk s (hm ▸ hs)).mono hend.holds
    · obtain rfl := Option.some.inj (hm.symm.trans hs)
      exact hb.good hold
  -- an agent that keeps running keeps its manifest: there was one before
  have hkeep : ∀ a, d.agent = some a → Good pki r.2 a.state ∧ ∃ s, manifest r.2 = some s ∧
      (s = a.state ∨ ∃ call reply, Commits pki a.retention call a.state s reply) := by
    intro a ha
    obtain ⟨hgood, s, hs, h3⟩ := h.memory a ha
    refine ⟨hgood.mono hend.holds, s, ?_, h3⟩
    rcases hend.manifest with hm | ⟨hnone, -⟩
    · exact hm.trans hs
    · rw [hnone] at hs
      cases hs
  unfold Device.afterOpen
  rcases hr : r.1 with s | e | _
  · refine ⟨hend.layout, hdisk, ?_⟩
    intro a ha
    cases ha
    obtain ⟨-, hm⟩ := hend.opened s hr
    exact ⟨hdisk s hm, s, hm, .inl rfl⟩
  · exact ⟨hend.layout, hdisk, hkeep⟩
  · exact ⟨hend.layout, hdisk, fun a ha => (by cases ha)⟩

theorem Sound.step (h : Sound pki d) (action : Action) : Sound pki (d.step pki action).2 := by
  cases action with
  | call call faults =>
    rcases ha : d.agent with _ | a
    · unfold Device.step
      rw [ha]
      exact h
    · rw [Device.step_call ha]
      exact h.step_call ha call faults
  | drop => exact ⟨h.layout, h.disk, fun a ha => (by cases ha)⟩
  | openAgent config now faults => exact h.step_open config now faults

/-- **Every reachable device is sound.** -/
theorem sound_run (pki : Pki) (actions : List Action) : Sound pki (Device.fresh.run pki actions) :=
  Device.run_induction (fun _ action h => h.step action) actions _ sound_fresh

/-! ### Answers -/

/-- A call that is answered kept the state, or has persisted its candidate. -/
theorem Sound.call_ok (h : Sound pki d) {a : Running} (ha : d.agent = some a) {call : Call} {faults : Faults}
    {reply : Reply} (hr : (d.step pki (.call call faults)).1 = some (.ok reply)) :
    ∃ s', (d.step pki (.call call faults)).2.agent = some { a with state := s' } ∧
      (s' = a.state ∧ manifest (d.step pki (.call call faults)).2.tree = manifest d.tree ∧
          plan pki a.retention a.state call = .ok (.keep reply) ∨
        manifest (d.step pki (.call call faults)).2.tree = some s' ∧ Commits pki a.retention call a.state s' reply) := by
  rw [Device.step_call ha] at hr ⊢
  obtain ⟨hend, -, -⟩ := perform_cases faults (w := ⟨d.tree, a.state⟩) pki a.retention h.layout call
  generalize perform pki a.retention faults call ⟨d.tree, a.state⟩ = r at hend hr ⊢
  obtain ⟨o, w⟩ := r
  cases hr
  refine ⟨w.state, rfl, ?_⟩
  cases hend with
  | kept hstate hm hok herr => exact .inl ⟨hstate, hm, hok _ rfl⟩
  | committed hp hc hv hm hinst ho =>
    rcases ho with ⟨ho, hst⟩ | ⟨ho, -⟩ | ⟨ho, -⟩
    · cases ho
      rw [hst]
      exact .inr ⟨hm, _, hp, hc, hv⟩
    · cases ho
    · cases ho

/-- A call that fails leaves the state in memory. -/
theorem Sound.call_err (h : Sound pki d) {a : Running} (ha : d.agent = some a) {call : Call} {faults : Faults}
    {e : AgentError} (hr : (d.step pki (.call call faults)).1 = some (.err e)) :
    (d.step pki (.call call faults)).2.agent = some a := by
  rw [Device.step_call ha] at hr ⊢
  obtain ⟨hend, -, -⟩ := perform_cases faults (w := ⟨d.tree, a.state⟩) pki a.retention h.layout call
  generalize perform pki a.retention faults call ⟨d.tree, a.state⟩ = r at hend hr ⊢
  obtain ⟨o, w⟩ := r
  cases hr
  have hstate : w.state = a.state := by
    cases hend with
    | kept hstate hm hok herr => exact hstate
    | committed hp hc hv hm hinst ho =>
      rcases ho with ⟨ho, -⟩ | ⟨-, hst, -⟩ | ⟨ho, -⟩
      · cases ho
      · exact hst
      · cases ho
  show some { a with state := w.state } = some a
  rw [hstate]

/-- It fails as it decided to, or for the store. -/
theorem Sound.call_err_cases (h : Sound pki d) {a : Running} (ha : d.agent = some a) {call : Call} {faults : Faults}
    {e : AgentError} (hr : (d.step pki (.call call faults)).1 = some (.err e)) :
    plan pki a.retention a.state call = .error e ∨ ∃ e', e = .store e' := by
  rw [Device.step_call ha] at hr
  obtain ⟨hend, -, -⟩ := perform_cases faults (w := ⟨d.tree, a.state⟩) pki a.retention h.layout call
  generalize perform pki a.retention faults call ⟨d.tree, a.state⟩ = r at hend hr
  obtain ⟨o, w⟩ := r
  cases hr
  cases hend with
  | kept hstate hm hok herr =>
    rcases herr e rfl with hp | ⟨dec, c, -, -, ⟨-, rfl⟩ | rfl | ⟨-, rfl⟩⟩
    · exact .inl hp
    · exact .inr ⟨_, rfl⟩
    · exact .inr ⟨_, rfl⟩
    · exact .inr ⟨_, rfl⟩
  | committed hp hc hv hm hinst ho =>
    rcases ho with ⟨ho, -⟩ | ⟨ho, -, -⟩ | ⟨ho, -⟩
    · cases ho
    · cases ho
      exact .inr ⟨_, rfl⟩
    · cases ho

/-- Without failures a call that keeps the state answers and changes nothing. -/
theorem Sound.step_keep {a : Running} (ha : d.agent = some a) {call : Call} {reply : Reply}
    (hp : plan pki a.retention a.state call = .ok (.keep reply)) (faults : Faults) :
    d.step pki (.call call faults) = (some (.ok reply), d) := by
  rw [Device.step_call ha, perform_eq]
  show Device.afterCall a ((plan pki a.retention a.state call).execute faults ⟨d.tree, a.state⟩) = _
  rw [hp]
  show (some (Outcome.ok reply), Device.mk d.tree (some a)) = _
  rw [← ha]

/-- A call that is refused before anything is written. -/
theorem Sound.step_error {a : Running} (ha : d.agent = some a) {call : Call} {e : AgentError}
    (hp : plan pki a.retention a.state call = .error e) (faults : Faults) :
    d.step pki (.call call faults) = (some (.err e), d) := by
  rw [Device.step_call ha, perform_eq]
  show Device.afterCall a ((plan pki a.retention a.state call).execute faults ⟨d.tree, a.state⟩) = _
  rw [hp]
  show (some (Outcome.err e), Device.mk d.tree (some a)) = _
  rw [← ha]

/-- Without failures a candidate that passes the checks is persisted. -/
theorem Sound.step_store (h : Sound pki d) {a : Running} (ha : d.agent = some a) {call : Call} {c : StateV1} {reply : Reply}
    (hp : plan pki a.retention a.state call = .ok (.store c reply)) (hv : c.validate = .ok ()) :
    (d.step pki (.call call clean)).1 = some (.ok reply) ∧
    (d.step pki (.call call clean)).2.agent = some { a with state := c } := by
  have hr : (d.step pki (.call call clean)).1 = some (.ok reply) := by
    rw [Device.step_call ha, perform_eq]
    show some ((plan pki a.retention a.state call).execute clean ⟨d.tree, a.state⟩).1 = _
    rw [hp, execute_store_pass h.layout hv]
  refine ⟨hr, ?_⟩
  obtain ⟨s', hs', ⟨-, -, hk⟩ | ⟨-, dec, hp', hc, -⟩⟩ := h.call_ok ha hr
  · rw [hp] at hk
    cases hk
  · rw [hp] at hp'
    cases hp'
    cases hc
    exact hs'

/-- A state directory with a revision has a place for revisions. -/
theorem Installed.credentials {t : Disk} {s : StateV1} (h : Installed t s) : t.get credentialsRoot = some .dir := by
  obtain ⟨c, hc, -⟩ := h
  have hne : t.get (revisionRoot s.current.credentialRevision) ≠ none := by
    rw [hc.dir]
    simp
  exact t.get_dropLast hne

/-- Without failures an accepted command is committed, if its revision can be installed. -/
theorem Sound.step_install (h : Sound pki d) {a : Running} (ha : d.agent = some a) {call : Call} {n : ℕ}
    {cred : ValidatedCredential} {c : StateV1} {reply : Reply}
    (hp : plan pki a.retention a.state call = .ok (.install n cred c reply)) (hv : c.validate = .ok ())
    (hinst : (installRevision clean n cred d.tree).1 = .ok ()) :
    (d.step pki (.call call clean)).1 = some (.ok reply) ∧
    (d.step pki (.call call clean)).2.agent = some { a with state := c } := by
  have hr : (d.step pki (.call call clean)).1 = some (.ok reply) := by
    rw [Device.step_call ha, perform_eq]
    show some ((plan pki a.retention a.state call).execute clean ⟨d.tree, a.state⟩).1 = _
    rw [hp, execute_install_pass h.layout hv hinst]
  refine ⟨hr, ?_⟩
  obtain ⟨s', hs', ⟨-, -, hk⟩ | ⟨-, dec, hp', hc, -⟩⟩ := h.call_ok ha hr
  · rw [hp] at hk
    cases hk
  · rw [hp] at hp'
    cases hp'
    cases hc
    exact hs'

/-! ### The state a device stands on -/

/-- The state in memory while the agent runs, and the manifest otherwise. -/
def Device.standing (d : Device) : Option StateV1 :=
  match d.agent with
  | some a => some a.state
  | none => manifest d.tree

theorem standing_coherent (h : Sound pki d) {s : StateV1} (hs : d.standing = some s) : s.Coherent := by
  unfold Device.standing at hs
  rcases ha : d.agent with _ | a <;> rw [ha] at hs
  · exact (h.disk s hs).coherent
  · cases hs
    exact (h.memory a ha).1.coherent

theorem standing_agent {a : Running} (ha : d.agent = some a) : d.standing = some a.state := by
  unfold Device.standing
  rw [ha]

theorem standing_none (ha : d.agent = none) : d.standing = manifest d.tree := by
  unfold Device.standing
  rw [ha]

/-- What one action does to the state a device stands on and to its manifest. -/
inductive Copied (pki : Pki) (d : Device) (action : Action) : Option StateV1 → Option StateV1 → Prop
  | same : Copied pki d action d.standing (manifest d.tree)
  | dropped : Copied pki d action (manifest d.tree) (manifest d.tree)
  | first {config now c digest} (hnone : manifest d.tree = none) (h : Bootstrap pki config now c digest) :
      Copied pki d action (some (firstState config.identity config.initialPosition c digest))
        (some (firstState config.identity config.initialPosition c digest))
  | commits {a call faults c reply} (ha : d.agent = some a) (haction : action = .call call faults)
      (h : Commits pki a.retention call a.state c reply) : Copied pki d action (some c) (some c)
  | unsynced {a call faults c reply} (ha : d.agent = some a) (haction : action = .call call faults)
      (h : Commits pki a.retention call a.state c reply) (hfail : faults.Unsynced) :
      Copied pki d action (some a.state) (some c)

theorem Sound.copied_call (h : Sound pki d) {a : Running} (ha : d.agent = some a) (call : Call) (faults : Faults) :
    let next := (Device.afterCall a (perform pki a.retention faults call ⟨d.tree, a.state⟩)).2
    Copied pki d (.call call faults) next.standing (manifest next.tree) := by
  obtain ⟨hend, -, -⟩ := perform_cases faults (w := ⟨d.tree, a.state⟩) pki a.retention h.layout call
  generalize perform pki a.retention faults call ⟨d.tree, a.state⟩ = r at hend ⊢
  obtain ⟨o, w⟩ := r
  have hsame : Copied pki d (.call call faults) (some a.state) (manifest d.tree) := standing_agent ha ▸ .same
  cases hend with
  | kept hstate hm hok herr =>
    rcases o with reply | e | _
    · show Copied pki d _ (some w.state) (manifest w.tree)
      rw [hstate, hm]
      exact hsame
    · show Copied pki d _ (some w.state) (manifest w.tree)
      rw [hstate, hm]
      exact hsame
    · show Copied pki d _ (manifest w.tree) (manifest w.tree)
      rw [hm]
      exact .dropped
  | committed hp hc hv hm hinst ho =>
    rcases ho with ⟨rfl, hst⟩ | ⟨rfl, hst, hfail⟩ | ⟨rfl, -⟩
    · show Copied pki d _ (some w.state) (manifest w.tree)
      rw [hst, hm]
      exact .commits ha rfl ⟨_, hp, hc, hv⟩
    · show Copied pki d _ (some w.state) (manifest w.tree)
      rw [hst, hm]
      exact .unsynced ha rfl ⟨_, hp, hc, hv⟩ hfail
    · show Copied pki d _ (manifest w.tree) (manifest w.tree)
      rw [hm]
      exact .commits ha rfl ⟨_, hp, hc, hv⟩

theorem Sound.copied_open (h : Sound pki d) (config : AgentConfig) (now : ℕ) (faults : Faults) :
    let next := (d.step pki (.openAgent config now faults)).2
    Copied pki d (.openAgent config now faults) next.standing (manifest next.tree) := by
  have hend : OpenEnd pki config now d.agent.isSome d.tree (openAgent pki faults d.agent.isSome config now d.tree) :=
    openAgent_cases h.layout h.revision
  -- the manifest is the old one or the first
  have hboth : Copied pki d (.openAgent config now faults)
      (manifest (openAgent pki faults d.agent.isSome config now d.tree).2)
      (manifest (openAgent pki faults d.agent.isSome config now d.tree).2) := by
    rcases hend.manifest with hm | ⟨hnone, c, digest, hb, hm, -⟩
    · rw [hm]
      exact .dropped
    · rw [hm]
      exact .first hnone hb
  have hman := hend.manifest
  have hopened := hend.opened
  show Copied pki d _ (Device.afterOpen d config _).2.standing (manifest (Device.afterOpen d config _).2.tree)
  generalize openAgent pki faults d.agent.isSome config now d.tree = r at hopened hboth hman ⊢
  obtain ⟨o, t⟩ := r
  rcases o with s | e | _
  · show Copied pki d _ (some s) (manifest t)
    rw [← (hopened s rfl).2]
    exact hboth
  · show Copied pki d _ (Device.standing ⟨t, d.agent⟩) (manifest t)
    rcases ha : d.agent with _ | a
    · exact hboth
    · rcases hman with hm | ⟨hnone, -⟩
      · show Copied pki d _ (some a.state) (manifest t)
        rw [hm, ← standing_agent ha]
        exact .same
      · obtain ⟨-, s, hs, -⟩ := h.memory a ha
        rw [hnone] at hs
        cases hs
  · exact hboth

/-- **What a device can do to the two copies of its state.** -/
theorem Sound.copied (h : Sound pki d) (action : Action) :
    Copied pki d action (d.step pki action).2.standing (manifest (d.step pki action).2.tree) := by
  cases action with
  | call call faults =>
    rcases ha : d.agent with _ | a
    · unfold Device.step
      rw [ha]
      exact .same
    · rw [Device.step_call ha]
      exact h.copied_call ha call faults
  | drop => exact .dropped
  | openAgent config now faults => exact h.copied_open config now faults

/-- A device stands on a state, and both copies of it have the property. -/
structure Device.Holding (d : Device) (P : StateV1 → Prop) : Prop where
  stands : d.standing ≠ none
  copies : ∀ s, d.standing = some s ∨ manifest d.tree = some s → P s

/-- **A property of both copies is kept** by every action whose commit, if it comes to one, keeps it. -/
theorem Sound.holding_step (h : Sound pki d) {P : StateV1 → Prop} (hd : d.Holding P) (action : Action)
    (hcommits : ∀ {a call faults c reply}, d.agent = some a → action = .call call faults →
      Commits pki a.retention call a.state c reply → P a.state → P c) : (d.step pki action).2.Holding P := by
  have hcopied := h.copied action
  have hmanifest : manifest d.tree ≠ none := by
    rcases ha : d.agent with _ | a
    · rw [← standing_none ha]
      exact hd.stands
    · obtain ⟨-, s, hs, -⟩ := h.memory a ha
      rw [hs]
      exact fun h => (by cases h)
  -- whatever stands next is one of the old copies or comes from the one in memory
  have hnext : (d.step pki action).2.standing ≠ none ∧ ∀ s, (d.step pki action).2.standing = some s ∨
      manifest (d.step pki action).2.tree = some s → P s := by
    generalize (d.step pki action).2.standing = next, manifest (d.step pki action).2.tree = disk at hcopied ⊢
    have hmemory : ∀ {a : Running}, d.agent = some a → P a.state := fun ha => hd.copies _ (.inl (standing_agent ha))
    cases hcopied with
    | same => exact ⟨hd.stands, hd.copies⟩
    | dropped => exact ⟨hmanifest, fun s hs => hd.copies s (.inr (hs.elim id id))⟩
    | first hnone hb => exact absurd hnone hmanifest
    | commits ha hcall hc =>
      refine ⟨fun h => (by cases h), ?_⟩
      rintro s (hs | hs)
      · cases hs
        exact hcommits ha hcall hc (hmemory ha)
      · cases hs
        exact hcommits ha hcall hc (hmemory ha)
    | unsynced ha hcall hc hfail =>
      refine ⟨fun h => (by cases h), ?_⟩
      rintro s (hs | hs)
      · cases hs
        exact hmemory ha
      · cases hs
        exact hcommits ha hcall hc (hmemory ha)
  exact ⟨hnext.1, hnext.2⟩

/-- What one action does to the state a device stands on. -/
inductive Moved (pki : Pki) : Option StateV1 → Option StateV1 → Prop
  | same (s : Option StateV1) : Moved pki s s
  | first {config now c digest} (h : Bootstrap pki config now c digest) :
      Moved pki none (some (firstState config.identity config.initialPosition c digest))
  | commits {retention call s c reply} (h : Commits pki retention call s c reply) : Moved pki (some s) (some c)

/-- **A step of the device is at most one step of the protocol.** -/
theorem Sound.moved (h : Sound pki d) (action : Action) : Moved pki d.standing (d.step pki action).2.standing := by
  have hcopied := h.copied action
  generalize (d.step pki action).2.standing = next, manifest (d.step pki action).2.tree = disk at hcopied ⊢
  cases hcopied with
  | same => exact .same _
  | dropped =>
    rcases ha : d.agent with _ | a
    · rw [standing_none ha]
      exact .same _
    · obtain ⟨-, s, hs, rfl | ⟨call, reply, hc⟩⟩ := h.memory a ha <;> rw [standing_agent ha, hs]
      · exact .same _
      · exact .commits hc
  | first hnone hb =>
    rcases ha : d.agent with _ | a
    · rw [standing_none ha, hnone]
      exact .first hb
    · obtain ⟨-, s, hs, -⟩ := h.memory a ha
      rw [hnone] at hs
      cases hs
  | commits ha haction hc =>
    rw [standing_agent ha]
    exact .commits hc
  | unsynced ha haction hc hfail =>
    rw [standing_agent ha]
    exact .same _

end Runs

/-! ### The device of the tests

The fixture of the durability tests.  A certificate is two bytes, its credential generation and a serial
number, and is its own private key; the certificate library knows those that were issued.
-/

namespace Fixture

def one : NonZeroU64 := ⟨1, by decide⟩
def two : NonZeroU64 := ⟨2, by decide⟩

def identity (generation : NonZeroU64) : DeviceIdentity where
  tenant := ⟨List.replicate 15 0 ++ [1], rfl⟩
  device := ⟨List.replicate 14 0 ++ [1, 1], rfl⟩
  credentialGeneration := generation
  tenant_ne_nil := by decide
  device_ne_nil := by decide

def topic : String := (identity one).commandTopic

def now : ℕ := 1800000000

/-- The certificate of a generation with a serial number. -/
def certificate (generation : NonZeroU64) (serial : UInt8) : Bytes := [UInt8.ofNat generation.1, serial]

def issued : List (NonZeroU64 × UInt8) := [(one, 0), (two, 0), (two, 1)]

def pki : Pki where
  certs b := if b = [] then none else some [b]
  privateKey b := if b = [] then none else some b
  keysMatch chain key := chain.head? = some key
  rootsUsable _ := true
  chainTrusted _ _ _ now := now < 4102444800
  parse b := (issued.find? fun i => certificate i.1 i.2 = b).map fun i =>
    ⟨some [(identity i.1).principalUrn], 4102444800⟩

/-- The certificates of the tests expire in 2100. -/
theorem positiveExpiry : PositiveExpiry pki := by
  intro ca certificate privateKey identity now credential h
  have hparse : ∀ {b e}, verifyIdentity pki b identity = .ok e → 0 < e := by
    intro b e he
    unfold verifyIdentity at he
    rcases hp : pki.parse b with _ | x <;> rw [hp] at he
    · cases he
    · obtain ⟨i, -, rfl⟩ := Option.map_eq_some_iff.1 hp
      dsimp only at he
      split_ifs at he
      cases he
      decide
  unfold validateCredentialBytes at h
  simp only [except_bind_ok] at h
  obtain ⟨roots, -, chain, -, key, -, h⟩ := h
  cases chain with
  | nil => cases h
  | cons endEntity intermediates =>
    simp only [except_bind_ok, Except.ok.injEq] at h
    obtain ⟨-, -, -, -, e, he, rfl⟩ := h
    exact hparse he

def material (generation : NonZeroU64) (serial : UInt8) : MaterialFile → Bytes
  | .ca => [0]
  | .certificate | .privateKey => certificate generation serial

def config : AgentConfig where
  identity := identity one
  initialPosition := ⟨one, one, one⟩
  initialCredentials := ⟨some 0o600, fun file => some (material one 0 file)⟩
  commandRetentionSeconds := ⟨300, by decide⟩

def intent : Sha256Digest :=
  ⟨"sha256:1111111111111111111111111111111111111111111111111111111111111111", by decide +kernel⟩

def policy : Sha256Digest :=
  ⟨"sha256:2222222222222222222222222222222222222222222222222222222222222222", by decide +kernel⟩

def artifactId : ArtifactId := ⟨"fixture-device-certificate-0001", by decide +kernel⟩

/-- The digest of the next credential with a serial number. -/
def artifactDigest (serial : UInt8) : Sha256Digest :=
  computeArtifactDigestBytes (material two serial .ca) (material two serial .certificate)
    (material two serial .privateKey)

def commandId : CommandId := ⟨"command-0001", by decide +kernel⟩

/-- The command that installs the next credential with a serial number. -/
def command (serial : UInt8) : DeviceCommand where
  commandId := commandId
  deviceId := (identity one).device
  artifactId := artifactId
  artifactDigest := artifactDigest serial
  authorizationReceiptId :=
    ⟨[0x01, 0x98, 0xd5, 0xf2, 0x70, 0xde, 0x7a, 0x2d, 0xb3, 0xf4, 0x01, 0x23, 0x45, 0x67, 0x89, 0xab], rfl⟩
  deadlineEpochSeconds := ⟨1800000600, by decide⟩
  desiredGeneration := two
  fenceEpoch := two
  intentDigest := intent
  policyHash := policy

/-- The catalog that offers it. -/
def catalog (serial : UInt8) : ArtifactCatalog where
  document := .document ⟨1, [{
    artifactId := artifactId.expose
    artifactDigest := (artifactDigest serial).expose
    tenantId := (identity one).tenant
    deviceId := (identity one).device
    credentialGeneration := 2
    desiredGeneration := 2
    fenceEpoch := 2
    intentDigest := intent.expose
    policyHash := policy.expose
    caPath := "material/ca.pem"
    certificatePath := "material/certificate.pem"
    privateKeyPath := "material/private-key.pem"
    revoked := false }]⟩
  readCatalogFile path _ :=
    if path = "material/ca.pem" then .ok (material two serial .ca)
    else if path = "material/certificate.pem" then .ok (material two serial .certificate)
    else if path = "material/private-key.pem" then .ok (material two serial .privateKey)
    else .error .unavailable

/-- The first start. -/
def start : Action := .openAgent config now clean

def apply (serial : UInt8) (now : ℕ) : Call := .applyCommand topic (command serial) now (catalog serial)

/-- A payload that is no command, under the name of one. -/
def malformed (payload : Bytes) (now : ℕ) : Call := .rejectMalformedDelivery topic commandId.expose payload now

end Fixture

end RssIncubator.Agent
