import RssIncubator.Agent.Journal

/-!
# Failures and crashes

What an operation leaves behind that did not run to its end.  A failed one has changed nothing, with one
exception: when the sync after the manifest rename fails, the new document stands on disk while the agent
goes on with the old one.  A crash leaves the state before the operation or the state after it, in a
directory that opens.  An attempt that got as far as its revision directory leaves an orphan there, and the
next command can only be carried out if it brings the same bytes.
-/

namespace RssIncubator.Agent

open Lib Prog StateV1

/-! ### Memory and disk -/

/-- A call that gets past the rename of the manifest does not lose the sync of the directory after it. -/
def Faults.Synced (faults : Faults) : Prop := ¬ faults.Unsynced

theorem synced_clean : clean.Synced := by
  rintro ⟨-, -, step, done, h⟩
  cases h

/-- The calls of a run never lose the last sync. -/
def SyncedRun (actions : List Action) : Prop := ∀ call faults, .call call faults ∈ actions → faults.Synced

/-- The manifest is the state the device stands on. -/
def Device.Agrees (d : Device) : Prop := manifest d.tree = d.standing

section Agreement

variable {pki : Pki} {d : Device}

theorem Sound.agrees_step (h : Sound pki d) (hd : d.Agrees) (action : Action)
    (hf : ∀ call faults, action = .call call faults → faults.Synced) : (d.step pki action).2.Agrees := by
  have hcopied := h.copied action
  unfold Device.Agrees at hd ⊢
  generalize (d.step pki action).2.standing = next, manifest (d.step pki action).2.tree = disk at hcopied ⊢
  cases hcopied with
  | same => exact hd
  | dropped => rfl
  | first hnone hb => rfl
  | commits ha haction hc => rfl
  | unsynced ha haction hc hfail => exact absurd hfail (hf _ _ haction)

theorem Sound.agrees_run {actions : List Action} (hrun : SyncedRun actions) (h : Sound pki d) (hd : d.Agrees) :
    (d.run pki actions).Agrees := by
  induction actions generalizing d with
  | nil => exact hd
  | cons action actions ih =>
    refine ih (fun call faults hm => hrun call faults (List.mem_cons_of_mem _ hm)) (h.step action) ?_
    exact h.agrees_step hd action fun call faults he => hrun call faults (he ▸ List.mem_cons_self)

theorem agrees_run {actions : List Action} (hrun : SyncedRun actions) : (Device.fresh.run pki actions).Agrees :=
  sound_fresh.agrees_run hrun rfl

end Agreement

/-- **A failed operation changes nothing**, in memory or on disk, as long as no sync after a manifest rename
fails; then the two copies agree at all times. -/
theorem failure_atomic (pki : Pki) {actions : List Action} (hrun : SyncedRun actions) {a : Running}
    (ha : (Device.fresh.run pki actions).agent = some a) :
    manifest (Device.fresh.run pki actions).tree = some a.state ∧
    ∀ call faults e, faults.Synced →
      ((Device.fresh.run pki actions).step pki (.call call faults)).1 = some (.err e) →
      ((Device.fresh.run pki actions).step pki (.call call faults)).2.agent = some a ∧
      manifest ((Device.fresh.run pki actions).step pki (.call call faults)).2.tree = some a.state := by
  have hsound := sound_run pki actions
  have hagrees : (Device.fresh.run pki actions).Agrees := agrees_run hrun
  refine ⟨hagrees.trans (standing_agent ha), ?_⟩
  intro call faults e hf hr
  have hagent := hsound.call_err ha hr
  have hnext := hsound.agrees_step hagrees (.call call faults) fun _ _ he => (by cases he; exact hf)
  exact ⟨hagent, hnext.trans (standing_agent hagent)⟩

namespace Fixture

/-- Nothing goes wrong but one call. -/
def failing (site : Site) : Faults := fun s => if s = site then .fail ⟨0, []⟩ else .pass

/-- The machine stops in one call. -/
def crashing (site : Site) : Faults := fun s => if s = site then .crash ⟨0, []⟩ else .pass

theorem synced_start : SyncedRun [start] := by
  intro call faults h
  cases List.mem_singleton.1 h

theorem synced_apply : SyncedRun [start, .call (apply 0 now) clean] := by
  intro call faults h
  rcases List.mem_pair.1 h with h | h
  · cases h
  · cases h
    exact synced_clean

theorem failing_synced {site : Site} (h : ∀ step, site ≠ .manifestRenamed step) : (failing site).Synced := by
  rintro ⟨-, -, step, done, hfail⟩
  unfold failing at hfail
  rw [if_neg (h step).symm] at hfail
  cases hfail

end Fixture

open Fixture in
/-- The rename of the manifest fails. -/
theorem failure_atomic_rename : ∃ a, (Device.fresh.run Fixture.pki [start]).agent = some a ∧
    ((Device.fresh.run Fixture.pki [start]).step Fixture.pki
      (.call (malformed [1] now) (failing .renameManifest))).1 = some (.err (.store .unavailable)) ∧
    manifest ((Device.fresh.run Fixture.pki [start]).step Fixture.pki
      (.call (malformed [1] now) (failing .renameManifest))).2.tree = some a.state := by
  have hr : ((Device.fresh.run Fixture.pki [start]).step Fixture.pki
      (.call (malformed [1] now) (failing .renameManifest))).1 = some (.err (.store .unavailable)) := by decide +kernel
  exact ⟨_, run_start, hr, ((failure_atomic Fixture.pki synced_start run_start).2 _ _ _
    (failing_synced fun step => by simp) hr).2⟩

open Fixture in
/-- The sync after the rename fails: the call is answered with an error, memory keeps the first document, and
the rejection is in the manifest. -/
theorem failure_unsynced : (failing (.manifestRenamed .sync)).NoCrash ∧
    ∃ a, (Device.fresh.run Fixture.pki [start]).agent = some a ∧
    ((Device.fresh.run Fixture.pki [start]).step Fixture.pki
      (.call (malformed [1] now) (failing (.manifestRenamed .sync)))).1 = some (.err (.store .unavailable)) ∧
    ((Device.fresh.run Fixture.pki [start]).step Fixture.pki
      (.call (malformed [1] now) (failing (.manifestRenamed .sync)))).2.agent = some a ∧
    manifest ((Device.fresh.run Fixture.pki [start]).step Fixture.pki
      (.call (malformed [1] now) (failing (.manifestRenamed .sync)))).2.tree ≠ some a.state := by
  have hr : ((Device.fresh.run Fixture.pki [start]).step Fixture.pki
        (.call (malformed [1] now) (failing (.manifestRenamed .sync)))).1 = some (.err (.store .unavailable)) ∧
      manifest ((Device.fresh.run Fixture.pki [start]).step Fixture.pki
        (.call (malformed [1] now) (failing (.manifestRenamed .sync)))).2.tree ≠ some first := by decide +kernel
  refine ⟨?_, _, run_start, hr.1, (sound_run Fixture.pki [start]).call_err run_start hr.1, hr.2⟩
  intro site done
  unfold failing
  split
  · exact fun h => (by cases h)
  · exact fun h => (by cases h)

/-! ### Crashes -/

section Crash

variable {pki : Pki} {d : Device} {a : Running} {retention : NonZeroU32} {s c : StateV1} {call : Call} {reply : Reply}

/-- A device belongs to one tenant for good. -/
theorem Commits.owner (h : Commits pki retention call s c reply) (hs : s.Coherent) :
    c.identity.tenantId = s.identity.tenantId ∧ c.identity.deviceId = s.identity.deviceId := by
  obtain ⟨dec, hp, hc, -⟩ := h
  have hdec := plan_cases hs.consistent hp
  cases hdec.credential hc with
  | same hsame _ _ => rw [hsame.identity]; exact ⟨rfl, rfl⟩
  | new hcall hreply hadv hgen hinst hdigest =>
    subst hcall hreply
    cases hdec with
    | accept => cases hc; exact ⟨rfl, rfl⟩
    | duplicate => cases hc
    | replay => cases hc
    | conflicting => cases hc
    | conflict => cases hc
    | reject => cases hc

/-- An operation that left its candidate on disk would have been answered, had nothing gone wrong. -/
theorem Sound.step_committed (h : Sound pki d) (ha : d.agent = some a) {faults : Faults} {dec : Decision}
    (hp : plan pki a.retention a.state call = .ok dec) (hc : dec.candidate = some (c, reply)) (hv : c.validate = .ok ())
    (hinst : ∀ n cred, dec.installs = some (n, cred) →
      Holds (perform pki a.retention faults call ⟨d.tree, a.state⟩).2.tree n cred.file) :
    (d.step pki (.call call clean)).1 = some (.ok reply) ∧
    (d.step pki (.call call clean)).2.agent = some { a with state := c } := by
  rcases dec with reply' | ⟨c', reply'⟩ | ⟨n, cred, c', reply'⟩
  · cases hc
  · cases hc
    exact h.step_store ha hp hv
  · cases hc
    refine h.step_install ha hp hv ?_
    have hnow := hinst n cred rfl
    -- a directory that stood before the call holds what it holds after it
    by_cases hnew : d.tree.get (revisionRoot n) = none
    · exact installRevision_pass_new h.layout (h.memory a ha).1.installed.credentials hnew
    · obtain ⟨bytes, hbytes⟩ := h.layout.revision n hnew
      obtain ⟨-, -, hholds⟩ := perform_cases faults (w := ⟨d.tree, a.state⟩) pki a.retention h.layout call
      rcases installRevision_pass_old (c := cred) hbytes with ⟨-, hok⟩ | ⟨hne, -⟩
      · exact hok
      · exact absurd ((hholds n bytes hbytes).unique hnow) hne

/-- A directory with a manifest opens, for its owner, unless the credential itself no longer validates. -/
theorem Sound.step_reopen (h : Sound pki d) (hpki : PositiveExpiry pki) (ha : d.agent = none)
    (hm : manifest d.tree = some s) {config : AgentConfig} (htenant : config.identity.tenant = s.identity.tenantId)
    (hdevice : config.identity.device = s.identity.deviceId) (now : ℕ) :
    ((d.step pki (.openAgent config now clean)).1 = some (.ok .done) ∧
      (d.step pki (.openAgent config now clean)).2.agent = some ⟨s, config.commandRetentionSeconds⟩) ∨
    ∃ e, (d.step pki (.openAgent config now clean)).1 = some (.err (.credential e)) := by
  have hgood := h.disk s hm
  have hs := hgood.coherent.consistent
  obtain ⟨bytes, hold, hdigest⟩ := hgood.installed
  have hopen : (openAgent pki clean false config now d.tree).1 = _ :=
    openAgent_pass h.layout hm hs (hs.verify_eq_ok.2 ⟨htenant.symm, hdevice.symm, hgood.expires (.inl hpki)⟩) hold hdigest
  have hstep : d.step pki (.openAgent config now clean) =
      Device.afterOpen d config (openAgent pki clean false config now d.tree) := by
    unfold Device.step
    rw [ha]
    rfl
  rw [hstep]
  generalize openAgent pki clean false config now d.tree = r at hopen ⊢
  obtain ⟨o, t⟩ := r
  dsimp only at hopen
  subst hopen
  rcases validateCredentialBytes pki (bytes .ca) (bytes .certificate) (bytes .privateKey) hs.identity now with e | cred
  · exact .inr ⟨e, rfl⟩
  · exact .inl ⟨rfl, rfl⟩

/-- The same action, with nothing going wrong. -/
def Action.undisturbed : Action → Action
  | .call call _ => .call call clean
  | .drop => .drop
  | .openAgent config now _ => .openAgent config now clean

/-- A crash ends the process. -/
theorem Device.step_crash {action : Action} (h : (d.step pki action).1 = some .crash) :
    (d.step pki action).2.agent = none := by
  cases action with
  | call call faults =>
    rcases ha : d.agent with _ | a
    · simp only [Device.step, ha] at h
      cases h
    · rw [Device.step_call ha] at h ⊢
      unfold Device.afterCall at h ⊢
      dsimp only at h ⊢
      rw [Option.some.inj h]
  | drop => cases h
  | openAgent config now faults =>
    simp only [Device.step] at h ⊢
    generalize Agent.openAgent pki faults d.agent.isSome config now d.tree = r at h ⊢
    obtain ⟨o, t⟩ := r
    rcases o with s | e | _
    · cases h
    · cases h
    · rfl

/-- A crash leaves the state before the action or the state after it. -/
theorem Sound.crash_standing (h : Sound pki d) (hd : d.Agrees) (hs : d.standing = some s) {action : Action}
    (hcrash : (d.step pki action).1 = some .crash) :
    ∃ s', manifest (d.step pki action).2.tree = some s' ∧ s'.identity.tenantId = s.identity.tenantId ∧
      s'.identity.deviceId = s.identity.deviceId ∧
      (s' = s ∨ ∃ reply, (d.step pki action.undisturbed).1 = some (.ok reply) ∧
        (d.step pki action.undisturbed).2.standing = some s') := by
  have hm : manifest d.tree = some s := hd.trans hs
  cases action with
  | call call faults =>
    rcases ha : d.agent with _ | a
    · simp only [Device.step, ha] at hcrash
      cases hcrash
    obtain rfl : a.state = s := Option.some.inj ((standing_agent ha).symm.trans hs)
    obtain ⟨hend, -, -⟩ := perform_cases faults (w := ⟨d.tree, a.state⟩) pki a.retention h.layout call
    have htree : (d.step pki (.call call faults)).2.tree =
        (perform pki a.retention faults call ⟨d.tree, a.state⟩).2.tree := by
      rw [Device.step_call ha]
      rfl
    rw [htree]
    cases hend with
    | kept hstate hm' hok herr => exact ⟨a.state, hm'.trans hm, rfl, rfl, .inl rfl⟩
    | committed hp hc hv hm' hinst ho =>
      obtain ⟨htenant, hdevice⟩ := Commits.owner ⟨_, hp, hc, hv⟩ (h.memory a ha).1.coherent
      obtain ⟨hok, hagent⟩ := h.step_committed ha hp hc hv hinst
      exact ⟨_, hm', htenant, hdevice, .inr ⟨_, hok, standing_agent hagent⟩⟩
  | drop => cases hcrash
  | openAgent config now faults =>
    have hend : OpenEnd pki config now d.agent.isSome d.tree (openAgent pki faults d.agent.isSome config now d.tree) :=
      openAgent_cases h.layout h.revision
    have htree : (d.step pki (.openAgent config now faults)).2.tree =
        (openAgent pki faults d.agent.isSome config now d.tree).2 := by
      simp only [Device.step, Device.afterOpen]
      generalize Agent.openAgent pki faults d.agent.isSome config now d.tree = r
      obtain ⟨o, t⟩ := r
      rcases o with s | e | _ <;> rfl
    rw [htree]
    rcases hend.manifest with hsame | ⟨hnone, -⟩
    · exact ⟨s, hsame.trans hm, rfl, rfl, .inl rfl⟩
    · rw [hnone] at hm
      cases hm

end Crash

/-- **Crashes are atomic.**  Wherever the machine stops, the manifest is the state before the action or the
state after it, the directory of the current revision is complete and hashes to the recorded digest, and so the
directory opens for its owner, unless the credential itself no longer validates. -/
theorem crash_atomic {pki : Pki} (hpki : PositiveExpiry pki) {actions : List Action} (hrun : SyncedRun actions)
    {s : StateV1} (hs : (Device.fresh.run pki actions).standing = some s) {action : Action}
    (hcrash : ((Device.fresh.run pki actions).step pki action).1 = some .crash) :
    ∃ s', manifest ((Device.fresh.run pki actions).step pki action).2.tree = some s' ∧
      (s' = s ∨ ∃ reply, ((Device.fresh.run pki actions).step pki action.undisturbed).1 = some (.ok reply) ∧
        ((Device.fresh.run pki actions).step pki action.undisturbed).2.standing = some s') ∧
      Installed ((Device.fresh.run pki actions).step pki action).2.tree s' ∧
      ∀ config : AgentConfig, config.identity.tenant = s.identity.tenantId →
        config.identity.device = s.identity.deviceId → ∀ now,
        let next := ((Device.fresh.run pki actions).step pki action).2.step pki (.openAgent config now clean)
        next.1 = some (.ok .done) ∧ next.2.agent = some ⟨s', config.commandRetentionSeconds⟩ ∨
          ∃ e, next.1 = some (.err (.credential e)) := by
  have hsound := sound_run pki actions
  have hagrees : (Device.fresh.run pki actions).Agrees := agrees_run hrun
  generalize Device.fresh.run pki actions = d at hs hcrash hsound hagrees ⊢
  have hsound' := hsound.step action
  obtain ⟨s', hs', htenant, hdevice, hcase⟩ := hsound.crash_standing hagrees hs hcrash
  refine ⟨s', hs', hcase, (hsound'.disk s' hs').installed, ?_⟩
  intro config hct hcd now
  exact hsound'.step_reopen hpki (Device.step_crash hcrash) hs' (hct.trans htenant.symm) (hcd.trans hdevice.symm) now

open Fixture in
/-- The machine stops as the manifest is renamed: the device comes up again on the first document. -/
theorem crash_atomic_rename : ∃ s, (Device.fresh.run Fixture.pki [start]).standing = some s ∧
    ((Device.fresh.run Fixture.pki [start]).step Fixture.pki
      (.call (malformed [1] now) (crashing .renameManifest))).1 = some .crash ∧
    ∃ s', manifest ((Device.fresh.run Fixture.pki [start]).step Fixture.pki
        (.call (malformed [1] now) (crashing .renameManifest))).2.tree = some s' ∧
      Installed ((Device.fresh.run Fixture.pki [start]).step Fixture.pki
        (.call (malformed [1] now) (crashing .renameManifest))).2.tree s' := by
  have hs : (Device.fresh.run Fixture.pki [start]).standing = some first := standing_agent run_start
  have hcrash : ((Device.fresh.run Fixture.pki [start]).step Fixture.pki
      (.call (malformed [1] now) (crashing .renameManifest))).1 = some .crash := by decide +kernel
  obtain ⟨s', hs', -, hi, -⟩ := crash_atomic positiveExpiry synced_start hs hcrash
  exact ⟨_, hs, hcrash, s', hs', hi⟩

/-! ### An orphan revision -/

/-- The device is switched off and on again. -/
def Device.restart (pki : Pki) (config : AgentConfig) (now : ℕ) (d : Device) : Device :=
  d.run pki [.drop, .openAgent config now clean]

section Orphan

variable {pki : Pki} {d : Device} {a : Running} {s : StateV1} {config : AgentConfig} {now : ℕ}

theorem Device.restart_eq : d.restart pki config now =
    (Device.afterOpen ⟨d.tree, none⟩ config (openAgent pki clean false config now d.tree)).2 := rfl

/-- A device that comes up runs on its manifest, and nothing below the top of the directory has changed. -/
theorem Sound.restart_of_ok (h : Sound pki d) (hm : manifest d.tree = some s)
    (hok : (openAgent pki clean false config now d.tree).1 = .ok s) :
    (d.restart pki config now).agent = some ⟨s, config.commandRetentionSeconds⟩ ∧
    TopMoves d.tree (d.restart pki config now).tree := by
  have hmoves : TopMoves d.tree (openAgent pki clean false config now d.tree).2 := by
    rw [openAgent_resume h.layout hm]
    exact resume_moves d.tree
  rw [Device.restart_eq]
  generalize openAgent pki clean false config now d.tree = r at hok hmoves ⊢
  obtain ⟨o, t⟩ := r
  cases hok
  exact ⟨rfl, hmoves⟩

theorem Sound.restart_agent (h : Sound pki d) (hm : manifest d.tree = some s)
    (ha : (d.restart pki config now).agent = some a) : (openAgent pki clean false config now d.tree).1 = .ok s := by
  have hverified : ∀ s', (openAgent pki clean false config now d.tree).1 = .ok s' → s' = s := fun s' hs' =>
    (openAgent_verified h.layout hm hs').1
  rw [Device.restart_eq] at ha
  generalize openAgent pki clean false config now d.tree = r at ha hverified ⊢
  obtain ⟨o, t⟩ := r
  rcases o with s' | e | _
  · rw [hverified s' rfl]
  · cases ha
  · cases ha

/-- An attempt that leaves the manifest alone does not keep a device from coming up. -/
theorem Sound.restart_again (h : Sound pki d) (hm : manifest d.tree = some s) {call : Call} {faults : Faults}
    (hm' : manifest (d.step pki (.call call faults)).2.tree = some s)
    (ha : (d.restart pki config now).agent = some a) :
    (openAgent pki clean false config now (d.step pki (.call call faults)).2.tree).1 = .ok s := by
  have h' := h.step (.call call faults)
  have hgood := h.disk s hm
  obtain ⟨bytes, hold, hdigest⟩ := hgood.installed
  refine openAgent_again h.layout h'.layout hm hm' hgood.coherent.consistent hold ?_ hdigest (h.restart_agent hm ha)
  rcases hd : d.agent with _ | b
  · unfold Device.step
    rw [hd]
    exact hold
  · rw [Device.step_call hd]
    exact (perform_cases faults (w := ⟨d.tree, b.state⟩) pki b.retention h.layout call).2.2 _ _ hold

/-- The two copies of the state are about the same credential unless the disk is one revision ahead. -/
theorem Sound.credential_ahead (h : Sound pki d) (ha : d.agent = some a) (hm : manifest d.tree = some s)
    (hrev : s.current.credentialRevision = a.state.current.credentialRevision) : s.identity = a.state.identity := by
  obtain ⟨hgood, s₁, hs₁, hcase⟩ := h.memory a ha
  obtain rfl := Option.some.inj (hm.symm.trans hs₁)
  rcases hcase with rfl | ⟨call, reply, hc⟩
  · rfl
  · obtain ⟨dec, hcred⟩ := hc.credential hgood.coherent
    cases hcred with
    | same hsame _ _ => exact hsame.identity
    | new _ _ hadv _ _ _ =>
      have := hadv.credentialRevision
      omega

variable {retention : NonZeroU32} {topic : String} {command : DeviceCommand} {catalog : ArtifactCatalog} {c : StateV1}

/-- The decision to install the artifact of a command as the next revision. -/
structure Installs (pki : Pki) (retention : NonZeroU32) (s : StateV1) (call : Call) (artifact : ResolvedArtifact)
    (c : StateV1) : Prop where
  plan : plan pki retention s call = .ok (.install (s.current.credentialRevision + 1) artifact.credential c
    (.outcome .accepted))
  revision : c.current.credentialRevision = s.current.credentialRevision + 1

theorem plan_install {n : ℕ} {cred : ValidatedCredential} {reply : Reply} (hs : s.Consistent)
    (hp : plan pki retention s (.applyCommand topic command now catalog) = .ok (.install n cred c reply)) :
    ∃ artifact, catalog.resolve pki hs.identity command now = .ok artifact ∧ cred = artifact.credential ∧
      n = s.current.credentialRevision + 1 ∧
      Installs pki retention s (.applyCommand topic command now catalog) artifact c := by
  cases plan_cases hs hp with
  | accept hm hflight hid htopic hdevice hdeadline hres hfence hgen hcred hroom hjournal hrev =>
    rw [hs.currentIdentity] at hid
    cases hid
    refine ⟨_, hres, rfl, hrev, ?_, hrev⟩
    rw [hp, hrev]

theorem Commits.installs (h : Commits pki retention (.applyCommand topic command now catalog) s c (.outcome .accepted))
    (hs : s.Coherent) : ∃ artifact, catalog.resolve pki hs.consistent.identity command now = .ok artifact ∧
      Installs pki retention s (.applyCommand topic command now catalog) artifact c ∧ c.validate = .ok () := by
  obtain ⟨dec, hp, hc, hv⟩ := h
  obtain ⟨n, cred, rfl⟩ : ∃ n cred, dec = .install n cred c (.outcome .accepted) := by
    rcases dec with reply | ⟨c', reply⟩ | ⟨n, cred, c', reply⟩
    · cases hc
    · cases hc
      cases plan_cases hs.consistent hp
    · cases hc
      exact ⟨n, cred, rfl⟩
  obtain ⟨artifact, hres, -, -, hinst⟩ := plan_install hs.consistent hp
  exact ⟨artifact, hres, hinst, hv⟩

/-- A call that is no command leaves the places of the revisions free. -/
theorem Sound.step_free (h : Sound pki d) (ha : d.agent = some a) {call : Call} (faults : Faults) {n : ℕ}
    (hcall : ∀ topic command now catalog, call ≠ .applyCommand topic command now catalog)
    (hnone : d.tree.get (revisionRoot n) = none) : (d.step pki (.call call faults)).2.tree.get (revisionRoot n) = none := by
  by_contra hsome
  rw [Device.step_call ha, perform_eq] at hsome
  obtain ⟨cred, c, reply, hp, -⟩ := execute_revision (w := ⟨d.tree, a.state⟩) h.layout hnone hsome
  cases plan_cases (h.memory a ha).1.coherent.consistent hp with
  | accept => exact hcall _ _ _ _ rfl

/-- Without failures, a command against a revision that stands already. -/
theorem Sound.step_orphan (h : Sound pki d) (ha : d.agent = some a) {call : Call} {artifact : ResolvedArtifact}
    {bytes : MaterialFile → Bytes} (hinst : Installs pki a.retention a.state call artifact c) (hv : c.validate = .ok ())
    (hold : Holds d.tree (a.state.current.credentialRevision + 1) bytes) :
    (bytes = artifact.credential.file ∧ (d.step pki (.call call clean)).1 = some (.ok (.outcome .accepted)) ∧
      (d.step pki (.call call clean)).2.agent = some { a with state := c } ∧
      Holds (d.step pki (.call call clean)).2.tree c.current.credentialRevision bytes) ∨
    (bytes ≠ artifact.credential.file ∧
      d.step pki (.call call clean) = (some (.err (.store .revisionConflict)), d)) := by
  rcases installRevision_pass_old (c := artifact.credential) hold with ⟨hbytes, hok⟩ | ⟨hbytes, herr⟩
  · obtain ⟨hr, hagent⟩ := h.step_install ha hinst.plan hv hok
    refine .inl ⟨hbytes, hr, hagent, ?_⟩
    rw [hinst.revision, Device.step_call ha]
    exact (perform_cases clean (w := ⟨d.tree, a.state⟩) pki a.retention h.layout call).2.2 _ _ hold
  · refine .inr ⟨hbytes, ?_⟩
    rw [Device.step_call ha, perform_eq]
    show Device.afterCall a ((Agent.plan pki a.retention a.state call).execute clean ⟨d.tree, a.state⟩) = _
    rw [hinst.plan, execute_install_err herr, installRevision_old_tree hold]
    show (some (Outcome.err (AgentError.store .revisionConflict)), Device.mk d.tree (some a)) = _
    rw [← ha]

end Orphan

/-- **After an interrupted rotation** has left its revision directory behind, the device comes up as before, and a
command that would have been accepted without the attempt is accepted exactly when it brings the bytes of the
interrupted one; the new current revision then holds them.  With other bytes nothing happens to the device and
the answer is `RevisionConflict`. -/
theorem interrupted_rotation {pki : Pki} {actions : List Action} {topic : String} {command : DeviceCommand} {now : ℕ}
    {catalog : ArtifactCatalog} {faults : Faults} {s : StateV1} (hm : manifest (Device.fresh.run pki actions).tree = some s)
    (hm' : manifest ((Device.fresh.run pki actions).step pki
      (.call (.applyCommand topic command now catalog) faults)).2.tree = some s)
    (hbefore : (Device.fresh.run pki actions).tree.get (revisionRoot (s.current.credentialRevision + 1)) = none)
    (hafter : ((Device.fresh.run pki actions).step pki (.call (.applyCommand topic command now catalog) faults)).2.tree.get
      (revisionRoot (s.current.credentialRevision + 1)) ≠ none)
    {config : AgentConfig} {opened : ℕ} {topic' : String} {command' : DeviceCommand} {now' : ℕ}
    {catalog' : ArtifactCatalog}
    (haccept : (((Device.fresh.run pki actions).restart pki config opened).step pki
      (.call (.applyCommand topic' command' now' catalog') clean)).1 = some (.ok (.outcome .accepted))) :
    ∃ owner x y, s.currentIdentity = .ok owner ∧ catalog.resolve pki owner command now = .ok x ∧
      catalog'.resolve pki owner command' now' = .ok y ∧
      let d := ((Device.fresh.run pki actions).step pki
        (.call (.applyCommand topic command now catalog) faults)).2.restart pki config opened
      let next := d.step pki (.call (.applyCommand topic' command' now' catalog') clean)
      d.agent = some ⟨s, config.commandRetentionSeconds⟩ ∧
      (y.credential.file = x.credential.file → next.1 = some (.ok (.outcome .accepted)) ∧
        ∃ s', next.2.agent = some ⟨s', config.commandRetentionSeconds⟩ ∧
          s'.current.credentialRevision = s.current.credentialRevision + 1 ∧
          Holds next.2.tree s'.current.credentialRevision y.credential.file) ∧
      (y.credential.file ≠ x.credential.file → next = (some (.err (.store .revisionConflict)), d)) := by
  have hsound := sound_run pki actions
  generalize Device.fresh.run pki actions = d₀ at hm hm' hbefore hafter haccept hsound ⊢
  have hs := (hsound.disk s hm).coherent
  -- without the attempt the device comes up, and the second command is accepted
  obtain ⟨b, hb⟩ : ∃ b, (d₀.restart pki config opened).agent = some b := by
    rcases hb : (d₀.restart pki config opened).agent with _ | b
    · simp only [Device.step, hb] at haccept
      cases haccept
    · exact ⟨b, rfl⟩
  have hopen := hsound.restart_agent hm hb
  obtain ⟨hb', -⟩ := hsound.restart_of_ok hm hopen
  obtain rfl := Option.some.inj (hb.symm.trans hb')
  have hsound_restart : Sound pki (d₀.restart pki config opened) :=
    Device.run_induction (fun _ action h => h.step action) _ _ hsound
  obtain ⟨c, -, ⟨-, -, hkeep⟩ | ⟨-, hcommits⟩⟩ := hsound_restart.call_ok hb haccept
  · cases plan_cases hs.consistent hkeep
  obtain ⟨y, hy, hinst, hv⟩ := hcommits.installs hs
  -- the attempt has put the bytes of the first command where the second wants to put its own
  obtain ⟨a, ha⟩ : ∃ a, d₀.agent = some a := by
    rcases ha : d₀.agent with _ | a
    · simp only [Device.step, ha] at hafter
      exact absurd hbefore hafter
    · exact ⟨a, rfl⟩
  have hcoh := (hsound.memory a ha).1.coherent
  obtain ⟨x, hx, hold⟩ : ∃ x, catalog.resolve pki hs.consistent.identity command now = .ok x ∧
      Holds (d₀.step pki (.call (.applyCommand topic command now catalog) faults)).2.tree
        (s.current.credentialRevision + 1) x.credential.file := by
    rw [Device.step_call ha, perform_eq] at hafter ⊢
    obtain ⟨cred, c', reply, hp, hold⟩ := execute_revision (w := ⟨d₀.tree, a.state⟩) hsound.layout hbefore hafter
    obtain ⟨x, hx, rfl, hn, -⟩ := plan_install hcoh.consistent hp
    have howner : hs.consistent.identity = hcoh.consistent.identity := by
      have hid := hsound.credential_ahead ha hm (by omega)
      have hcur : s.currentIdentity = a.state.currentIdentity := by
        unfold currentIdentity
        rw [hid]
      rw [hs.consistent.currentIdentity, hcoh.consistent.currentIdentity] at hcur
      exact Except.ok.inj hcur
    exact ⟨x, howner ▸ hx, hold⟩
  refine ⟨_, x, y, hs.consistent.currentIdentity, hx, hy, ?_⟩
  have hsound' := hsound.step (.call (.applyCommand topic command now catalog) faults)
  obtain ⟨hagent, hmoves⟩ := hsound'.restart_of_ok hm' (hsound.restart_again hm hm' hb)
  have hrestart : Sound pki ((d₀.step pki (.call (.applyCommand topic command now catalog) faults)).2.restart pki
      config opened) := Device.run_induction (fun _ action h => h.step action) _ _ hsound'
  refine ⟨hagent, ?_⟩
  rcases hrestart.step_orphan hagent hinst hv (hmoves.holds hold) with ⟨hbytes, hr, hnext, hdir⟩ | ⟨hbytes, hr⟩
  · exact ⟨fun _ => ⟨hr, c, hnext, hinst.revision, hbytes ▸ hdir⟩, fun hne => absurd hbytes.symm hne⟩
  · exact ⟨fun he => absurd he.symm hbytes, fun _ => hr⟩

namespace Fixture

/-- The old temporary file cannot be removed, or the machine stops there. -/
def Interrupts (faults : Faults) : Prop := faults = failing .removeTemporary ∨ faults = crashing .removeTemporary

/-- An accepted command that is interrupted there: its revision stands and the manifest does not name it. -/
theorem step_attempt {pki : Pki} {d : Device} {a : Running} (ha : d.agent = some a) {call : Call} {n : ℕ}
    {cred : ValidatedCredential} {c : StateV1} {reply : Reply}
    (hp : plan pki a.retention a.state call = .ok (.install n cred c reply)) (hv : c.validate = .ok ())
    (hinst : (installRevision clean n cred d.tree).1 = .ok ()) {faults : Faults} (hf : Interrupts faults) :
    (d.step pki (.call call faults)).2.tree = (installRevision clean n cred d.tree).2 := by
  have hpersist : ∀ w, persistCandidate faults c w = (.err (.store .unavailable), w) ∨
      persistCandidate faults c w = (.crash, w) := by
    intro w
    rw [persistCandidate_valid hv]
    rcases hf with rfl | rfl
    · exact .inl rfl
    · exact .inr rfl
  have hsame : installRevision faults n cred = installRevision clean n cred := by
    rcases hf with rfl | rfl <;> rfl
  have hdisk : (onDisk (installRevision clean n cred) ⟨d.tree, a.state⟩).1 = .ok () := by
    rw [onDisk_apply]
    exact mapErr_eq_ok.2 hinst
  rw [Device.step_call ha, perform_eq]
  show ((plan pki a.retention a.state call).execute faults ⟨d.tree, a.state⟩).2.tree = _
  rw [hp]
  simp only [Plan.execute]
  rw [hsame, bind_of_ok hdisk]
  rcases hpersist (onDisk (installRevision clean n cred) ⟨d.tree, a.state⟩).2 with h | h
  · rw [bind_err h, onDisk_apply]
  · rw [bind_crash h, onDisk_apply]

theorem manifest_start : manifest (Device.fresh.run Fixture.pki [start]).tree = some first :=
  (agrees_run synced_start).trans (standing_agent run_start)

/-- The device after the first command was interrupted that way. -/
theorem attempt_end {faults : Faults} (hf : Interrupts faults) : ∃ artifact : ResolvedArtifact,
    artifact.credential.certificate = certificate two 0 ∧
    manifest ((Device.fresh.run Fixture.pki [start]).step Fixture.pki (.call (apply 0 now) faults)).2.tree = some first ∧
    Holds ((Device.fresh.run Fixture.pki [start]).step Fixture.pki (.call (apply 0 now) faults)).2.tree 2
      artifact.credential.file := by
  have hsound := sound_run Fixture.pki [start]
  obtain ⟨hgood, -⟩ := hsound.memory _ run_start
  obtain ⟨artifact, hcert, hp, hv⟩ := plan_apply (.inl rfl)
  have hinst := installRevision_pass_new (c := artifact.credential) hsound.layout hgood.installed.credentials start_revision
  obtain ⟨hmoves, hok, -⟩ := installRevision_cases clean (n := 2) (c := artifact.credential) hsound.layout
  rw [step_attempt run_start hp hv hinst hf]
  exact ⟨artifact, hcert, hmoves.manifest.trans manifest_start, hok hinst⟩

theorem attempt_revision : ((Device.fresh.run Fixture.pki [start]).step Fixture.pki
    (.call (apply 0 now) (failing .removeTemporary))).2.tree.get (revisionRoot 2) ≠ none := by
  obtain ⟨artifact, -, -, hold⟩ := attempt_end (.inl rfl)
  rw [hold.dir]
  simp

theorem restart_start : ((Device.fresh.run Fixture.pki [start]).restart Fixture.pki config now).agent =
    some ⟨first, retention⟩ := by
  have hsome : ((Device.fresh.run Fixture.pki [start]).restart Fixture.pki config now).agent.isSome = true := by
    decide +kernel
  obtain ⟨a, ha⟩ := Option.isSome_iff_exists.1 hsome
  have hsound := sound_run Fixture.pki [start]
  exact (hsound.restart_of_ok manifest_start (hsound.restart_agent manifest_start ha)).1

/-- Without that attempt either command is accepted. -/
theorem restart_accepts {serial : UInt8} (h : serial = 0 ∨ serial = 1) :
    (((Device.fresh.run Fixture.pki [start]).restart Fixture.pki config now).step Fixture.pki
      (.call (apply serial now) clean)).1 = some (.ok (.outcome .accepted)) := by
  have hsound := sound_run Fixture.pki [start]
  have hrestart : Sound Fixture.pki ((Device.fresh.run Fixture.pki [start]).restart Fixture.pki config now) :=
    Device.run_induction (fun _ action h => h.step action) _ _ hsound
  obtain ⟨hgood, -⟩ := hrestart.memory _ restart_start
  obtain ⟨-, hmoves⟩ := hsound.restart_of_ok manifest_start (hsound.restart_agent manifest_start restart_start)
  obtain ⟨artifact, -, hp, hv⟩ := plan_apply h
  refine (hrestart.step_install restart_start hp hv ?_).1
  refine installRevision_pass_new hrestart.layout hgood.installed.credentials ?_
  rw [hmoves.same _ (by simp [revisionRoot, credentialsRoot, lockPath]) (by simp [revisionRoot]), start_revision]

/-- After the interruption the device comes up, and the directory left behind is in the way of another command. -/
theorem restart_blocked {faults : Faults} (hf : Interrupts faults) :
    (((Device.fresh.run Fixture.pki [start]).step Fixture.pki (.call (apply 0 now) faults)).2.restart Fixture.pki config
      now).agent = some ⟨first, retention⟩ ∧
    ((((Device.fresh.run Fixture.pki [start]).step Fixture.pki (.call (apply 0 now) faults)).2.restart Fixture.pki config
      now).step Fixture.pki (.call (apply 1 now) clean)).1 = some (.err (.store .revisionConflict)) := by
  have hsound := sound_run Fixture.pki [start]
  have hsound' := hsound.step (.call (apply 0 now) faults)
  obtain ⟨x, hcert, hm, hold⟩ := attempt_end hf
  have hopen := hsound.restart_again manifest_start hm restart_start
  obtain ⟨hagent, hmoves⟩ := hsound'.restart_of_ok hm hopen
  refine ⟨hagent, ?_⟩
  obtain ⟨y, hcert', hp, hv⟩ := plan_apply (.inr rfl)
  have hne : x.credential.file ≠ y.credential.file := by
    intro he
    have hfile : x.credential.certificate = y.credential.certificate := congrFun he .certificate
    rw [hcert, hcert'] at hfile
    exact absurd hfile (by decide)
  have hrestart : Sound Fixture.pki (((Device.fresh.run Fixture.pki [start]).step Fixture.pki
      (.call (apply 0 now) faults)).2.restart Fixture.pki config now) :=
    Device.run_induction (fun _ action h => h.step action) _ _ hsound'
  rcases hrestart.step_orphan hagent ⟨hp, rfl⟩ hv (hmoves.holds hold) with ⟨he, -⟩ | ⟨-, hr⟩
  · exact absurd he hne
  · rw [hr]

end Fixture

open Fixture in
/-- The interrupted command itself can be repeated. -/
theorem interrupted_rotation_repeated :
    ((((Device.fresh.run Fixture.pki [start]).step Fixture.pki
      (.call (apply 0 now) (failing .removeTemporary))).2.restart Fixture.pki config now).step Fixture.pki
      (.call (apply 0 now) clean)).1 = some (.ok (.outcome .accepted)) := by
  obtain ⟨artifact, -, hm, -⟩ := attempt_end (.inl rfl)
  obtain ⟨owner, x, y, -, hx, hy, -, hsame, -⟩ :=
    interrupted_rotation manifest_start hm start_revision attempt_revision (restart_accepts (.inl rfl))
  obtain rfl := Except.ok.inj (hx.symm.trans hy)
  exact (hsame rfl).1

open Fixture in
/-- Another command for the same device is refused once the directory of the interrupted one is in its way. -/
theorem rotation_blocked :
    manifest (Device.fresh.run Fixture.pki [start]).tree = some first ∧
    manifest ((Device.fresh.run Fixture.pki [start]).step Fixture.pki
      (.call (apply 0 now) (failing .removeTemporary))).2.tree = some first ∧
    (Device.fresh.run Fixture.pki [start]).tree.get (revisionRoot (first.current.credentialRevision + 1)) = none ∧
    ((Device.fresh.run Fixture.pki [start]).step Fixture.pki
      (.call (apply 0 now) (failing .removeTemporary))).2.tree.get
        (revisionRoot (first.current.credentialRevision + 1)) ≠ none ∧
    (((Device.fresh.run Fixture.pki [start]).restart Fixture.pki config now).step Fixture.pki
      (.call (apply 1 now) clean)).1 = some (.ok (.outcome .accepted)) ∧
    ((((Device.fresh.run Fixture.pki [start]).step Fixture.pki
      (.call (apply 0 now) (failing .removeTemporary))).2.restart Fixture.pki config now).step Fixture.pki
      (.call (apply 1 now) clean)).1 = some (.err (.store .revisionConflict)) := by
  obtain ⟨x, -, hm, -⟩ := attempt_end (.inl rfl)
  exact ⟨manifest_start, hm, start_revision, attempt_revision, restart_accepts (.inr rfl), (restart_blocked (.inl rfl)).2⟩

end RssIncubator.Agent
