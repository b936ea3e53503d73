import RssIncubator.Agent.Durable

/-!
# The first start

A first start installs the initial credential and then writes the first manifest, in two renames.  It may be
interrupted any number of times and is taken up again, with one exception: between the two renames there is a
revision without a manifest, and that is what a lost manifest looks like.  The store does not guess, and the device
stays closed.
-/

namespace RssIncubator.Agent

open Lib Prog StateV1

/-! ### What an interrupted start leaves -/

section Started

variable {pki : Pki} {config : AgentConfig} {c : ValidatedCredential} {digest : Sha256Digest} {t t' : Disk} {now : ℕ}

/-- A directory in which nothing but a first start has been attempted. -/
structure Started (config : AgentConfig) (c : ValidatedCredential) (digest : Sha256Digest) (t : Disk) : Prop where
  layout : Layout t
  names : ∀ x, t.get (credentialsRoot ++ [x]) ≠ none →
    x = "revision-" ++ toString config.initialPosition.credentialRevision.1 ∨
    x = ".revision-" ++ toString config.initialPosition.credentialRevision.1 ++ ".staging"
  revision : t.get (revisionRoot config.initialPosition.credentialRevision.1) ≠ none →
    Holds t config.initialPosition.credentialRevision.1 c.file
  manifest : manifest t = none ∨ manifest t = some (firstState config.identity config.initialPosition c digest) ∧
    Holds t config.initialPosition.credentialRevision.1 c.file

theorem started_empty : Started config c digest FileTree.empty := by
  refine ⟨layout_empty, ?_, ?_, .inl rfl⟩
  · intro x hx
    exact absurd (FileTree.get_empty (by simp [credentialsRoot])) hx
  · intro hne
    exact absurd (FileTree.get_empty (by simp [revisionRoot])) hne

theorem Started.top (h : Started config c digest t) (hmoves : TopMoves t t') : Started config c digest t' := by
  have hbelow : ∀ x q, t'.get (credentialsRoot ++ x :: q) = t.get (credentialsRoot ++ x :: q) := fun x q =>
    hmoves.same _ (by simp [lockPath, credentialsRoot]) (by simp)
  refine ⟨hmoves.layout h.layout, ?_, ?_, ?_⟩
  · intro x hx
    rw [hbelow] at hx
    exact h.names x hx
  · intro hne
    rw [revisionRoot, hbelow] at hne
    exact hmoves.holds (h.revision hne)
  · rw [hmoves.manifest]
    exact h.manifest.imp id (And.imp_right hmoves.holds)

theorem Started.install (h : Started config c digest t)
    (hmoves : InstallMoves config.initialPosition.credentialRevision.1 c.file t t') : Started config c digest t' := by
  refine ⟨hmoves.layout h.layout, ?_, ?_, ?_⟩
  · intro x hx
    by_cases hs : x = ".revision-" ++ toString config.initialPosition.credentialRevision.1 ++ ".staging"
    · exact .inr hs
    by_cases hr : x = "revision-" ++ toString config.initialPosition.credentialRevision.1
    · exact .inl hr
    rw [hmoves.outside] at hx
    · exact h.names x hx
    · simpa [stagingRoot, credentialsRoot, eq_comm] using hs
    · simpa [revisionRoot, credentialsRoot, eq_comm] using hr
  · intro hne
    rcases hmoves.revision with hsame | ⟨-, hold⟩
    · rw [hsame _ List.prefix_rfl] at hne
      exact hmoves.holds (h.revision hne)
    · exact hold
  · rw [hmoves.manifest]
    exact h.manifest.imp id (And.imp_right hmoves.holds)

theorem Started.persist (h : Started config c digest t) (faults : Faults)
    (hold : Holds t config.initialPosition.credentialRevision.1 c.file) :
    Started config c digest (persist faults (firstState config.identity config.initialPosition c digest) t).2 := by
  obtain ⟨hend, hlayout, hsame⟩ := persist_cases faults
    (s := firstState config.identity config.initialPosition c digest) h.layout
  have hold' : Holds (Agent.persist faults (firstState config.identity config.initialPosition c digest) t).2
      config.initialPosition.credentialRevision.1 c.file := persist_holds h.layout hold
  refine ⟨hlayout, ?_, fun _ => hold', ?_⟩
  · intro x hx
    have hout := hsame ("credentials" :: [x]) (not_prefix_credentials (by decide)) (not_prefix_credentials (by decide))
    exact h.names x fun hnone => hx (hout.trans hnone)
  · rcases hend.manifest with hm | hm
    · rw [hm]
      exact h.manifest.imp id fun hman => ⟨hman.1, hold'⟩
    · exact .inr ⟨hm, hold'⟩

/-- What a program keeps. -/
abbrev KeepsStarted (config : AgentConfig) (c : ValidatedCredential) (digest : Sha256Digest) {ε α : Type}
    (x : Prog Disk ε α) : Prop := Moves (fun t t' => Started config c digest t → Started config c digest t') x

theorem KeepsStarted.bind {ε α β : Type} {x : Prog Disk ε α} {f : α → Prog Disk ε β}
    (hx : KeepsStarted config c digest x) (hf : ∀ a, KeepsStarted config c digest (f a)) :
    KeepsStarted config c digest (x >>= f) :=
  Moves.bind (R := fun t t' => Started config c digest t → Started config c digest t') (fun h h' => h' ∘ h) hx hf

theorem KeepsStarted.of_top {ε α : Type} {x : Prog Disk ε α} (h : Moves TopMoves x) : KeepsStarted config c digest x :=
  fun t hs => hs.top (h t)

variable (faults : Faults)

theorem provision_started : KeepsStarted config c digest (provision faults config.initialPosition.credentialRevision.1 c
    (firstState config.identity config.initialPosition c digest)) := by
  intro t hs
  obtain ⟨hmoves, hok, -⟩ := installRevision_cases faults (n := config.initialPosition.credentialRevision.1) (c := c)
    hs.layout
  have hinst := hs.install hmoves
  unfold provision
  rcases bind_cases (installRevision faults config.initialPosition.credentialRevision.1 c) (fun _ =>
    Agent.persist faults (firstState config.identity config.initialPosition c digest) >>= fun _ =>
      pure (firstState config.identity config.initialPosition c digest)) t with ⟨u, h, hb⟩ | ⟨e, -, hb⟩ | ⟨-, hb⟩ <;> rw [hb]
  · have hpersist := hinst.persist faults (hok h)
    set t1 := (installRevision faults config.initialPosition.credentialRevision.1 c t).2
    rcases bind_cases (Agent.persist faults (firstState config.identity config.initialPosition c digest)) (fun _ =>
      (pure (firstState config.identity config.initialPosition c digest) : StoreProg StateV1)) t1 with
      ⟨u', -, hb'⟩ | ⟨e, -, hb'⟩ | ⟨-, hb'⟩ <;> rw [hb']
    · exact hpersist
    · exact hpersist
    · exact hpersist
  · exact hinst
  · exact hinst

theorem openOrInitialize_started (held : Bool) : KeepsStarted config c digest
    (openOrInitialize faults held config.identity config.initialPosition c digest) := by
  rw [openOrInitialize_eq]
  refine .bind (.of_top (openStore_moves _ _)) fun _ => .bind (.of_top (Moves.unavailable (createDirAll_credentials _)))
    fun _ => .bind (.of_top (.of_reads (pathExists_tree _ _))) fun b => ?_
  cases b
  · rw [if_neg (by simp)]
    refine .bind (.of_top (.of_reads (hasCommittedRevision_tree _))) fun b => ?_
    cases b
    · rw [if_neg (by simp)]
      exact provision_started faults
    · rw [if_pos rfl]
      exact .of_top (.of_reads (.fail _))
  · rw [if_pos rfl]
    exact .of_top (.of_reads (readState_tree _ _))

/-- The initial credential does not depend on the time at which it is validated. -/
theorem Bootstrap.unique {now' : ℕ} {c' : ValidatedCredential} {digest' : Sha256Digest}
    (h : Bootstrap pki config now c digest) (h' : Bootstrap pki config now' c' digest') : c' = c ∧ digest' = digest := by
  have hdigest : digest' = digest := Except.ok.inj (h'.digested.symm.trans h.digested)
  refine ⟨?_, hdigest⟩
  have hv := h.validated
  have hv' := h'.validated
  simp only [CredentialFiles.validate, except_bind_ok] at hv hv'
  obtain ⟨-, -, ca, hca, certificate, hcert, key, hkey, hv⟩ := hv
  obtain ⟨-, -, ca', hca', certificate', hcert', key', hkey', hv'⟩ := hv'
  obtain rfl := Except.ok.inj (hca.symm.trans hca')
  obtain rfl := Except.ok.inj (hcert.symm.trans hcert')
  obtain rfl := Except.ok.inj (hkey.symm.trans hkey')
  simp only [validateCredentialBytes, except_bind_ok] at hv hv'
  obtain ⟨roots, -, chain, hchain, k, -, hv⟩ := hv
  obtain ⟨roots', -, chain', hchain', k', -, hv'⟩ := hv'
  obtain rfl := Except.ok.inj (hchain.symm.trans hchain')
  cases chain with
  | nil => cases hv
  | cons endEntity intermediates =>
    simp only [except_bind_ok, Except.ok.injEq] at hv hv'
    obtain ⟨-, -, -, -, e, he, rfl⟩ := hv
    obtain ⟨-, -, -, -, e', he', rfl⟩ := hv'
    obtain rfl := Except.ok.inj (he.symm.trans he')
    rfl

/-- Opening under the same configuration keeps to the first start. -/
theorem openAgent_started {now' : ℕ} (hb : Bootstrap pki config now' c digest) (held : Bool) (now : ℕ) :
    KeepsStarted config c digest (openAgent pki faults held config now) := by
  rw [openAgent_eq]
  refine .bind (.of_top (.of_reads (pathExists_tree _ _))) fun b => ?_
  cases b
  · rw [if_neg (by simp)]
    unfold bootstrap
    rcases hv : config.initialCredentials.validate pki config.identity now with e | c'
    · exact .of_top (.of_reads (.fail _))
    rcases hd : config.initialCredentials.digest with e | digest'
    · exact .of_top (.of_reads (.fail _))
    have hb' : Bootstrap pki config now c' digest' := ⟨hv, hd⟩
    obtain ⟨rfl, rfl⟩ := hb.unique hb'
    exact Moves.mapErr (openOrInitialize_started faults held)
  · rw [if_pos rfl]
    exact .of_top resume_moves

/-! ### Taking it up again -/

theorem createDirAll_pass (h : t.get credentialsRoot = none ∨ t.get credentialsRoot = some .dir) :
    (createDirAll .pass credentialsRoot t).1 = .ok () ∧
    (createDirAll .pass credentialsRoot t).2.get credentialsRoot = some .dir := by
  rcases h with h | h
  · obtain ⟨t', hput⟩ := putNew_ok (n := (.dir : Node Content)) h (by simp [credentialsRoot])
    have hget := (putNew_eq_ok hput).2 credentialsRoot
    have hcall : createDirAll .pass credentialsRoot t = (.ok (), t') := by simp [createDirAll, call, h, hput]
    rw [hcall]
    exact ⟨rfl, hget.trans (if_pos rfl)⟩
  · have hcall : createDirAll .pass credentialsRoot t = (.ok (), t) := by simp [createDirAll, call, h]
    rw [hcall]
    exact ⟨rfl, h⟩

theorem get_of_mem_names {x : String} (h : x ∈ t.names credentialsRoot) : t.get (credentialsRoot ++ [x]) ≠ none := by
  obtain ⟨⟨p, node⟩, hmem, hx⟩ := List.mem_filterMap.1 h
  split at hx
  case isFalse => cases hx
  case isTrue hp =>
    have hpath : p = credentialsRoot ++ [x] := by
      rw [← hp]
      exact (List.dropLast_append_getLast? x hx).symm
    subst hpath
    have hget : t.get (credentialsRoot ++ [x]) = lookup (credentialsRoot ++ [x]) t.entries := nodeAt_of_ne (by simp)
    rw [hget]
    exact Option.isSome_iff_ne_none.1 (lookup_isSome_iff.2 ⟨node, hmem⟩)

/-- The evidence of a lost manifest and of an interrupted start are the same: the initial revision. -/
theorem Started.hasCommittedRevision (h : Started config c digest t) (hcred : t.get credentialsRoot = some .dir) :
    hasCommittedRevision clean t =
      (.ok (t.get (revisionRoot config.initialPosition.credentialRevision.1)).isSome, t) := by
  have hread : (attempt (readDir .pass credentialsRoot) : StoreProg _) t = (.ok (.ok (t.names credentialsRoot)), t) := by
    simp [attempt, readDir, call, hcred]
  simp only [Agent.hasCommittedRevision, clean_apply]
  rw [bind_ok hread]
  simp only [anyRevision, Prod.mk.injEq, Outcome.ok.injEq, and_true]
  rw [Bool.eq_iff_iff, List.any_eq_true, Option.isSome_iff_ne_none]
  constructor
  · rintro ⟨x, hx, hprefix⟩
    rcases h.names x (get_of_mem_names hx) with rfl | rfl
    · exact get_of_mem_names hx
    · simp [String.toList_append] at hprefix
  · intro hne
    exact ⟨_, revision_mem_names hne, by simp [String.toList_append]⟩

theorem Started.openOrInitialize (h : Started config c digest t) (hm : Agent.manifest t = none) :
    (openOrInitialize clean false config.identity config.initialPosition c digest t).1 =
      if t.get (revisionRoot config.initialPosition.credentialRevision.1) = none then
        .ok (firstState config.identity config.initialPosition c digest) else .err .invalidState := by
  have hlock := openStore_moves clean false t
  have h1 := h.top hlock
  rw [openOrInitialize_eq, bind_of_ok (openStore_pass h.layout)]
  set t1 := (openStore clean false t).2
  obtain ⟨hmk, hcred⟩ := createDirAll_pass h1.layout.credentials
  have hdir : TopMoves t1 (createDirAll .pass credentialsRoot t1).2 := createDirAll_credentials .pass t1
  have h2 := h1.top hdir
  rw [clean_apply, bind_of_ok (a := ()) (unavailable_eq_ok.2 hmk), unavailable_snd]
  have hmoves := hlock.trans hdir
  set t2 := (createDirAll .pass credentialsRoot t1).2
  have hnone : t2.get statePath = none := (manifest_eq_none h2.layout).1 (hmoves.manifest.trans hm)
  have hsame : t2.get (revisionRoot config.initialPosition.credentialRevision.1) =
      t.get (revisionRoot config.initialPosition.credentialRevision.1) :=
    hmoves.same _ (by simp [revisionRoot, credentialsRoot, lockPath]) (by simp [revisionRoot])
  rw [bind_ok (r := t2) (a := false) (by simp [pathExists, hnone]), if_neg (by simp), bind_ok (h2.hasCommittedRevision hcred),
    hsame]
  rcases hrev : t.get (revisionRoot config.initialPosition.credentialRevision.1) with _ | node
  · rw [hrev] at hsame
    obtain ⟨hinst, -, -⟩ := installRevision_cases clean (n := config.initialPosition.credentialRevision.1) (c := c) h2.layout
    rw [if_neg (by simp), if_pos rfl, provision, bind_of_ok (installRevision_pass_new h2.layout hcred hsame),
      bind_of_ok (persist_pass (hinst.layout h2.layout))]
    rfl
  · rw [if_pos (by simp), if_neg (by simp)]
    rfl

/-- What the directory of an interrupted start opens as. -/
theorem Started.openAgent (h : Started config c digest t) (hpki : PositiveExpiry pki)
    (hb : Bootstrap pki config now c digest) : (openAgent pki clean false config now t).1 =
      if t.get (revisionRoot config.initialPosition.credentialRevision.1) = none ∨ Agent.manifest t ≠ none then
        .ok (firstState config.identity config.initialPosition c digest) else .err (.store .invalidState) := by
  rcases h.manifest with hm | ⟨hm, hold⟩
  · have hstate := (manifest_eq_none h.layout).1 hm
    rw [openAgent_eq, bind_ok (r := t) (a := false) (by simp [pathExists, hstate]), if_neg (by simp)]
    have hboot : bootstrap pki clean false config now =
        mapErr .store (Agent.openOrInitialize clean false config.identity config.initialPosition c digest) := by
      simp [bootstrap, hb.validated, hb.digested, Except.mapError]
    have hopen := h.openOrInitialize hm
    rw [hboot, mapErr]
    generalize Agent.openOrInitialize clean false config.identity config.initialPosition c digest t = r at hopen ⊢
    obtain ⟨o, t'⟩ := r
    dsimp only at hopen
    subst hopen
    by_cases hrev : t.get (revisionRoot config.initialPosition.credentialRevision.1) = none
    · simp [hrev]
    · simp [hrev, hm]
  · have hs : (firstState config.identity config.initialPosition c digest).Consistent := consistent_initial ..
    have hbytes := hb.validateBytes
    have hv : (firstState config.identity config.initialPosition c digest).verify config.identity = .ok () :=
      hs.verify_eq_ok.2 ⟨rfl, rfl, hpki _ _ _ _ _ _ hbytes⟩
    rw [openAgent_pass h.layout hm hs hv hold (by rw [hb.digest_eq]; rfl), if_pos (.inr (by simp [hm]))]
    have hfiles : validateCredentialBytes pki (c.file .ca) (c.file .certificate) (c.file .privateKey) hs.identity now =
        .ok c := hbytes
    rw [hfiles]

end Started

/-! ### Interrupted starts -/

section Interrupted

variable {pki : Pki} {config : AgentConfig} {c : ValidatedCredential} {digest : Sha256Digest} {d : Device} {now : ℕ}

/-- An action of the operator who is trying to start the device: open, or give up. -/
def Action.Starts (config : AgentConfig) : Action → Prop
  | .call _ _ => False
  | .drop => True
  | .openAgent config' _ _ => config' = config

theorem Started.step {now' : ℕ} (hb : Bootstrap pki config now' c digest) (h : Started config c digest d.tree)
    {action : Action} (hstart : action.Starts config) : Started config c digest (d.step pki action).2.tree := by
  cases action with
  | call call faults => exact hstart.elim
  | drop => exact h
  | openAgent config' now faults =>
    subst hstart
    have hopen := openAgent_started faults hb d.agent.isSome now d.tree h
    have htree : (d.step pki (.openAgent config' now faults)).2.tree =
        (Agent.openAgent pki faults d.agent.isSome config' now d.tree).2 := Device.afterOpen_tree ..
    rw [htree]
    exact hopen

theorem Started.run {now' : ℕ} (hb : Bootstrap pki config now' c digest) {actions : List Action}
    (hstart : ∀ action ∈ actions, action.Starts config) :
    Started config c digest d.tree → Started config c digest (d.run pki actions).tree := by
  induction actions generalizing d with
  | nil => exact id
  | cons action actions ih =>
    intro h
    exact ih (fun a ha => hstart a (List.mem_cons_of_mem _ ha)) (h.step hb (hstart action List.mem_cons_self))

/-- An agent that comes up on an empty directory has validated the initial credential. -/
theorem bootstrap_of_fresh {a : Running} (h : (Device.fresh.step pki (.openAgent config now clean)).2.agent = some a) :
    ∃ c digest, Bootstrap pki config now c digest := by
  have hnone : (FileTree.empty : Disk).get statePath = none := FileTree.get_empty (by decide)
  have hopen : Agent.openAgent pki clean false config now FileTree.empty =
      bootstrap pki clean false config now FileTree.empty := by
    rw [openAgent_eq, bind_ok (r := FileTree.empty) (a := false) (by simp [pathExists, hnone]), if_neg (by simp)]
  change (Device.afterOpen Device.fresh config (Agent.openAgent pki clean false config now FileTree.empty)).2.agent = some a at h
  rw [hopen] at h
  unfold bootstrap at h
  rcases hv : config.initialCredentials.validate pki config.identity now with e | c <;> rw [hv] at h
  · cases h
  rcases hd : config.initialCredentials.digest with e | digest <;> rw [hd] at h
  · cases h
  exact ⟨c, digest, hv, hd⟩

theorem Started.reopen (h : Started config c digest d.tree) (hpki : PositiveExpiry pki)
    (hb : Bootstrap pki config now c digest) (ha : d.agent = none) :
    if d.tree.get (revisionRoot config.initialPosition.credentialRevision.1) = none ∨ Agent.manifest d.tree ≠ none then
      (d.step pki (.openAgent config now clean)).1 = some (.ok .done) ∧
      (d.step pki (.openAgent config now clean)).2.agent =
        some ⟨firstState config.identity config.initialPosition c digest, config.commandRetentionSeconds⟩
    else (d.step pki (.openAgent config now clean)).1 = some (.err (.store .invalidState)) := by
  have hopen := h.openAgent hpki hb
  have hstep : d.step pki (.openAgent config now clean) =
      Device.afterOpen d config (Agent.openAgent pki clean false config now d.tree) := by
    unfold Device.step
    rw [ha]
    rfl
  rw [hstep]
  generalize Agent.openAgent pki clean false config now d.tree = r at hopen ⊢
  obtain ⟨o, t⟩ := r
  dsimp only at hopen
  split
  case isTrue hyes =>
    rw [if_pos hyes] at hopen
    subst hopen
    exact ⟨rfl, rfl⟩
  case isFalse hno =>
    rw [if_neg hno] at hopen
    subst hopen
    rfl

/-- **An interrupted first start**, any number of them, under one configuration: a later opening at which the initial
credential is valid comes up with the agent of a start that was never interrupted, as long as the interruption did not
come between the two renames.  There the directory has a revision and no manifest, and opening is refused. -/
theorem interrupted_start (hpki : PositiveExpiry pki) {actions : List Action}
    (hstart : ∀ action ∈ actions, action.Starts config) {first : ℕ} {a : Running}
    (huninterrupted : (Device.fresh.step pki (.openAgent config first clean)).2.agent = some a)
    (hvalid : config.initialCredentials.validate pki config.identity now = .ok c) :
    let d := Device.fresh.run pki (actions ++ [.drop])
    if d.tree.get (revisionRoot config.initialPosition.credentialRevision.1) = none ∨ manifest d.tree ≠ none then
      (d.step pki (.openAgent config now clean)).1 = some (.ok .done) ∧
      (d.step pki (.openAgent config now clean)).2.agent = some a
    else (d.step pki (.openAgent config now clean)).1 = some (.err (.store .invalidState)) := by
  intro d
  obtain ⟨c₀, digest, hb⟩ := bootstrap_of_fresh huninterrupted
  have hb' : Bootstrap pki config now c digest := ⟨hvalid, hb.digested⟩
  obtain ⟨rfl, -⟩ := hb'.unique hb
  have hfresh := Started.reopen (d := Device.fresh) started_empty hpki hb rfl
  rw [if_pos (.inl (FileTree.get_empty (by simp [revisionRoot])))] at hfresh
  obtain rfl := Option.some.inj (huninterrupted.symm.trans hfresh.2)
  have hrun : Started config c₀ digest (Device.fresh.run pki actions).tree :=
    Started.run (d := Device.fresh) hb hstart started_empty
  have hdropped : d = ⟨(Device.fresh.run pki actions).tree, none⟩ := Device.run_concat ..
  rw [hdropped]
  exact Started.reopen (d := ⟨_, none⟩) hrun hpki hb' rfl

end Interrupted

namespace Fixture

/-- A start that stops in one call. -/
def stopped (site : Site) : Action := .openAgent config now (crashing site)

theorem stopped_starts (site : Site) : ∀ action ∈ [stopped site], action.Starts config := by
  intro action h
  cases List.mem_singleton.1 h
  rfl

end Fixture

open Fixture in
/-- A start that stops in the rename of the revision is taken up again a minute later. -/
theorem interrupted_start_staging : ∃ a,
    ((Device.fresh.run Fixture.pki [stopped .renameRevision, .drop]).step Fixture.pki
      (.openAgent config (now + 60) clean)).2.agent = some a ∧
    (Device.fresh.step Fixture.pki start).2.agent = some a := by
  have hopened : (Device.fresh.step Fixture.pki start).2.agent.isSome = true := by decide +kernel
  obtain ⟨a, ha⟩ := Option.isSome_iff_exists.1 hopened
  have hvalid : ∃ c, config.initialCredentials.validate Fixture.pki config.identity (now + 60) = .ok c :=
    ⟨_, rfl⟩
  obtain ⟨c, hc⟩ := hvalid
  have h := interrupted_start positiveExpiry (stopped_starts .renameRevision) ha hc
  dsimp only at h
  rw [if_pos (.inl (by decide +kernel))] at h
  exact ⟨a, h.2, ha⟩

open Fixture in
/-- A start that stops in the rename of the manifest leaves a revision without one, and is refused for good. -/
theorem interrupted_start_refused : (Device.fresh.step Fixture.pki start).1 = some (.ok .done) ∧
    (Device.fresh.step Fixture.pki (stopped .renameManifest)).1 = some .crash ∧
    ((Device.fresh.run Fixture.pki [stopped .renameManifest]).step Fixture.pki start).1 =
      some (.err (.store .invalidState)) := by
  decide +kernel

end RssIncubator.Agent
