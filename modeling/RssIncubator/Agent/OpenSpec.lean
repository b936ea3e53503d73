import RssIncubator.Agent.Operations
import RssIncubator.Agent.StoreSpec
import RssIncubator.Agent.Verify

/-!
# What opening does

Opening a directory that has a manifest changes nothing but the lock file, and an agent that comes up
runs on the document of the manifest.  A directory without one is initialised: the initial revision is
installed and the first document persisted.
-/

namespace RssIncubator.Agent

open Lib Prog FileTree

section Lock

variable {t : Disk} {faults : Faults} {held : Bool}

/-- Changes confined to the lock file and to the credentials directory itself. -/
theorem Layout.of_top {t t' : Disk} (h : Layout t)
    (hsame : ∀ r, r ≠ lockPath → r ≠ credentialsRoot → t'.get r = t.get r)
    (hlock : t'.get lockPath ≠ some .dir)
    (hcred : t'.get credentialsRoot = none ∨ t'.get credentialsRoot = some .dir) : Layout t' := by
  have hbelow : ∀ x q, t'.get (credentialsRoot ++ x :: q) = t.get (credentialsRoot ++ x :: q) := fun x q =>
    hsame _ (by simp [lockPath, credentialsRoot]) (by simp)
  refine ⟨?_, ?_, hlock, hcred, fun n => ?_, fun n hn => ?_⟩
  · rw [hsame _ (by decide) (by decide)]; exact h.state
  · rw [hsame _ (by decide) (by decide)]; exact h.temporary
  · simpa [stagingRoot, hbelow] using h.staging n
  · rw [revisionRoot, hbelow] at hn
    obtain ⟨c, hc⟩ := h.revision n hn
    refine ⟨c, hc.of_get ?_⟩
    rintro r ⟨q, rfl⟩
    rw [revisionRoot, List.append_assoc]
    exact hbelow _ _

/-- What opening may do before it initialises anything. -/
structure TopMoves (t t' : Disk) : Prop where
  same : ∀ r, r ≠ lockPath → r ≠ credentialsRoot → t'.get r = t.get r
  layout : Layout t → Layout t'

theorem TopMoves.refl (t : Disk) : TopMoves t t := ⟨fun _ _ _ => rfl, id⟩

theorem TopMoves.trans {t t' t'' : Disk} (h : TopMoves t t') (h' : TopMoves t' t'') : TopMoves t t'' :=
  ⟨fun r h1 h2 => (h'.same r h1 h2).trans (h.same r h1 h2), fun hl => h'.layout (h.layout hl)⟩

theorem TopMoves.holds {t' : Disk} {n : ℕ} {c : MaterialFile → Bytes} (h : TopMoves t t') (hold : Holds t n c) :
    Holds t' n c := by
  refine hold.of_get ?_
  rintro r ⟨q, rfl⟩
  exact h.same _ (by simp [revisionRoot, credentialsRoot, lockPath]) (by simp [revisionRoot])

theorem TopMoves.manifest {t' : Disk} (h : TopMoves t t') : manifest t' = manifest t := by
  unfold Agent.manifest
  rw [h.same _ (by decide) (by decide)]

theorem openCreate_lock (v : Verdict) (mode : ℕ) : Moves TopMoves (openCreate v lockPath mode : Prog Disk CallError Unit) := by
  refine call_moves .refl (fun t _ t' h => ?_) fun _ t => .refl t
  split at h
  · simp only [Except.ok.injEq, Prod.mk.injEq, true_and] at h
    subst h; exact .refl t
  · cases h
  · obtain ⟨-, hget⟩ := putNew_eq_ok h
    have hsame : ∀ r, r ≠ lockPath → t'.get r = t.get r := fun r hr => by rw [hget, if_neg hr]
    refine ⟨fun r hr _ => hsame r hr, fun hl => hl.of_top (fun r hr _ => hsame r hr) ?_ ?_⟩
    · rw [hget, if_pos rfl]; simp
    · rw [hsame _ (by decide)]; exact hl.credentials

theorem createDirAll_root (v : Verdict) : Reads (createDirAll v [] : Prog Disk CallError Unit) := fun t => by
  cases v <;> rfl

theorem createDirAll_credentials (v : Verdict) :
    Moves TopMoves (createDirAll v credentialsRoot : Prog Disk CallError Unit) := by
  refine call_moves .refl (fun t _ t' h => ?_) fun _ t => .refl t
  split at h
  · simp only [Except.ok.injEq, Prod.mk.injEq, true_and] at h
    subst h; exact .refl t
  · obtain ⟨-, hget⟩ := putNew_eq_ok h
    have hsame : ∀ r, r ≠ credentialsRoot → t'.get r = t.get r := fun r hr => by rw [hget, if_neg hr]
    refine ⟨fun r _ hr => hsame r hr, fun hl => hl.of_top (fun r _ hr => hsame r hr) ?_ (.inr ?_)⟩
    · rw [hsame _ (by decide)]; exact hl.lock
    · rw [hget, if_pos rfl]

theorem TopMoves.bind {ε α β : Type} {x : Prog Disk ε α} {f : α → Prog Disk ε β} (hx : Moves TopMoves x)
    (hf : ∀ a, Moves TopMoves (f a)) : Moves TopMoves (x >>= f) :=
  Moves.bind (R := TopMoves) (fun h h' => h.trans h') hx hf

theorem TopMoves.of_reads {ε α : Type} {x : Prog Disk ε α} (h : Reads x) : Moves TopMoves x := fun t => by
  rw [h]; exact .refl t

theorem openStore_moves (faults : Faults) (held : Bool) : Moves TopMoves (openStore faults held) := by
  refine TopMoves.bind (.of_reads (.mapErr (createDirAll_root _))) fun _ =>
    TopMoves.bind (Moves.unavailable (openCreate_lock _ _)) fun _ => .of_reads fun t => ?_
  rcases faults .lock with _ | _ | _
  · cases held <;> rfl
  · rfl
  · rfl

theorem openStore_ok {u : Unit} (h : (openStore faults held t).1 = .ok u) : held = false := by
  obtain ⟨_, -, h, -⟩ := bind_eq_ok h
  obtain ⟨_, -, h, -⟩ := bind_eq_ok h
  rcases hl : faults .lock with _ | _ | _ <;> rw [hl] at h
  · cases held
    · rfl
    · cases h
  · cases h
  · cases h

theorem openStore_pass (ht : Layout t) : (openStore clean false t).1 = .ok () := by
  simp only [openStore, clean_apply]
  have hroot : (createDirAll .pass [] t).1 = .ok () := by simp [createDirAll, call]
  have hlock : (openCreate .pass lockPath 0o600 t).1 = .ok () := by
    rcases hg : t.get lockPath with _ | _ | ⟨m, c⟩
    · obtain ⟨t', hput⟩ := putNew_ok (n := Node.file 0o600 (Contents.empty : Content)) hg (by simp [lockPath])
      simp [openCreate, call, hg, hput]
    · exact absurd hg ht.lock
    · simp [openCreate, call, hg]
  rw [bind_of_ok (a := ()) (unavailable_eq_ok.2 hroot), unavailable_snd, createDirAll_root,
    bind_of_ok (a := ()) (unavailable_eq_ok.2 hlock)]
  rfl

end Lock

section Manifest

variable {t : Disk} {faults : Faults} {held : Bool} {identity : DeviceIdentity} {s : StateV1}

theorem readState_tree (faults : Faults) (identity : DeviceIdentity) : Reads (readState faults identity) :=
  .bind (.mapErr (readFile_tree _ _)) fun c => by
    rcases c with b | s | n
    · exact .fail _
    · exact .bind (.ofExcept _) fun _ => .pure _
    · exact .fail _

theorem readState_ok (h : (readState faults identity t).1 = .ok s) : manifest t = some s ∧ s.verify identity = .ok () := by
  obtain ⟨c, hc, h, -⟩ := bind_eq_ok h
  obtain ⟨-, mode, hget⟩ := readFile_ok (unavailable_eq_ok.1 hc)
  rcases c with b | s' | n
  · cases h
  · obtain ⟨u, hv, h, -⟩ := bind_eq_ok h
    cases h
    refine ⟨by simp [manifest, hget], ?_⟩
    rcases hx : s.verify identity with e | u' <;> rw [hx] at hv
    cases hv
  · cases h

theorem readState_pass (ht : Layout t) (hm : manifest t = some s) (hv : s.verify identity = .ok ()) :
    (readState clean identity t).1 = .ok s := by
  have hget := (manifest_eq_some ht).1 hm
  have hread : unavailable (readFile .pass statePath) t = (.ok (.manifest s), t) := by
    simp [unavailable, mapErr, readFile, call, hget]
  simp only [readState, clean_apply]
  rw [bind_ok hread]
  simp [hv]

theorem load_moves (faults : Faults) (held : Bool) (identity : DeviceIdentity) :
    Moves TopMoves (load faults held identity) :=
  TopMoves.bind (openStore_moves _ _) fun _ => .of_reads (readState_tree _ _)

theorem load_ok (h : (load faults held identity t).1 = .ok s) :
    held = false ∧ manifest t = some s ∧ s.verify identity = .ok () := by
  obtain ⟨_, ho, h, -⟩ := bind_eq_ok h
  obtain ⟨hm, hv⟩ := readState_ok h
  exact ⟨openStore_ok ho, (openStore_moves faults held t).manifest ▸ hm, hv⟩

theorem load_pass (ht : Layout t) (hm : manifest t = some s) (hv : s.verify identity = .ok ()) :
    (load clean false identity t).1 = .ok s := by
  have hmoves := openStore_moves clean false t
  rw [load, bind_of_ok (openStore_pass ht)]
  exact readState_pass (hmoves.layout ht) (hmoves.manifest.trans hm) hv

end Manifest

section Committed

variable {t : Disk} {faults : Faults}

theorem hasCommittedRevision_tree (faults : Faults) : Reads (hasCommittedRevision faults) :=
  .bind (.attempt (readDir_tree _ _)) fun r => by
    rcases r with (_ | _) | names
    · exact .pure _
    · exact .fail _
    · intro t
      simp only [anyRevision]
      rcases faults .nextCredentials with _ | done | done
      · rfl
      · dsimp only; split <;> rfl
      · rfl

theorem revision_mem_names {n : ℕ} (h : t.get (revisionRoot n) ≠ none) :
    "revision-" ++ toString n ∈ t.names credentialsRoot := by
  have hne : revisionRoot n ≠ [] := by simp [revisionRoot]
  have hsome : (lookup (revisionRoot n) t.entries).isSome := by
    have : t.get (revisionRoot n) = lookup (revisionRoot n) t.entries := nodeAt_of_ne hne
    rw [← this]
    exact Option.isSome_iff_ne_none.2 h
  obtain ⟨m, hm⟩ := lookup_isSome_iff.1 hsome
  exact List.mem_filterMap.2 ⟨_, hm, by simp [revisionRoot]⟩

/-- Only a directory without revisions is initialised. -/
theorem hasCommittedRevision_false (h : (hasCommittedRevision faults t).1 = .ok false) (n : ℕ) :
    t.get (revisionRoot n) = none := by
  by_contra hne
  have hmem := revision_mem_names hne
  have hdir : t.get credentialsRoot = some .dir := t.get_above (s := ["revision-" ++ toString n]) (by simp) hne
  obtain ⟨r, hr, h, -⟩ := bind_eq_ok h
  have hlist : r = .ok (t.names credentialsRoot) ∨ r = .error .other := by
    rcases hv : faults .readCredentials with _ | done | done <;> simp [attempt, readDir, call, hv, hdir] at hr
    · exact .inl hr.symm
    · exact .inr hr.symm
  rcases hlist with rfl | rfl
  · simp only [anyRevision] at h
    rcases hv : faults .nextCredentials with _ | done | done <;> rw [hv] at h
    · simp only [Outcome.ok.injEq, List.any_eq_false] at h
      have := h _ hmem
      simp [String.toList_append] at this
    · dsimp only at h; split at h <;> cases h
    · cases h
  · cases h

end Committed

/-! ### Initialising and opening -/

section Open

variable {t : Disk} {faults : Faults} {held : Bool} {identity : DeviceIdentity} {s : StateV1}
  {position : InstalledCredentialPosition} {c : ValidatedCredential} {digest : Sha256Digest}

/-- What opening does to the disk, with the document it would write first. -/
structure OpenMoves (revision : ℕ) (c : MaterialFile → Bytes) (first : StateV1) (t t' : Disk) : Prop where
  layout : Layout t'
  holds : ∀ n c', Holds t n c' → Holds t' n c'
  manifest : manifest t' = manifest t ∨
    (Agent.manifest t = none ∧ Agent.manifest t' = some first ∧ Holds t' revision c)

theorem TopMoves.open_ {revision : ℕ} {c : MaterialFile → Bytes} {first : StateV1} {t' : Disk} (h : TopMoves t t')
    (ht : Layout t) : OpenMoves revision c first t t' := ⟨h.layout ht, fun _ _ => h.holds, .inl h.manifest⟩

theorem TopMoves.trans_open {revision : ℕ} {c : MaterialFile → Bytes} {first : StateV1} {t' t'' : Disk}
    (h : TopMoves t t') (h' : OpenMoves revision c first t' t'') : OpenMoves revision c first t t'' :=
  ⟨h'.layout, fun n c' hold => h'.holds n c' (h.holds hold), h.manifest ▸ h'.manifest⟩

/-- The first document of a device. -/
abbrev firstState (identity : DeviceIdentity) (position : InstalledCredentialPosition) (c : ValidatedCredential)
    (digest : Sha256Digest) : StateV1 :=
  .initial identity position.desiredGeneration position.fenceEpoch position.credentialRevision digest c.expiresAt

/-- The end of `openOrInitialize` on an empty directory. -/
def provision (faults : Faults) (revision : ℕ) (c : ValidatedCredential) (first : StateV1) : StoreProg StateV1 := do
  installRevision faults revision c
  persist faults first
  pure first

theorem PersistEnd.manifest {t' : Disk} {o : Outcome StoreError Unit} (h : PersistEnd faults s t t' o) :
    manifest t' = manifest t ∨ Agent.manifest t' = some s := by
  cases h with
  | unavailable h => exact .inl h
  | crash h => exact .inl h
  | done h _ => exact .inr h
  | unsynced h _ => exact .inr h
  | crashUnsynced h _ => exact .inr h

/-- Persisting leaves the revisions alone. -/
theorem persist_holds (ht : Layout t) {n : ℕ} {c' : MaterialFile → Bytes} (hold : Holds t n c') :
    Holds (persist faults s t).2 n c' := by
  refine hold.of_get ?_
  rintro r ⟨q, rfl⟩
  exact (persist_cases faults ht).2.2 _ (not_prefix_credentials (by decide)) (not_prefix_credentials (by decide))

variable (faults) in
theorem provision_cases {revision : ℕ} {first : StateV1} (ht : Layout t) (hnone : manifest t = none) :
    OpenMoves revision c.file first t (provision faults revision c first t).2 ∧
    ((provision faults revision c first t).1 = .ok s → manifest (provision faults revision c first t).2 = some s) := by
  obtain ⟨hmoves, hok, -⟩ := installRevision_cases faults (n := revision) (c := c) ht
  have hinst : OpenMoves revision c.file first t (installRevision faults revision c t).2 :=
    ⟨hmoves.layout ht, fun n c' => hmoves.holds, .inl hmoves.manifest⟩
  unfold provision
  rcases bind_cases (installRevision faults revision c) (fun _ => persist faults first >>= fun _ => pure first) t with
    ⟨u, h, hb⟩ | ⟨e, -, hb⟩ | ⟨-, hb⟩ <;> rw [hb]
  · have hold := hok h
    set t1 := (installRevision faults revision c t).2
    obtain ⟨hend, hlayout, -⟩ := persist_cases faults (s := first) hinst.layout
    have hpersist : OpenMoves revision c.file first t (persist faults first t1).2 := by
      refine ⟨hlayout, fun n c' h' => persist_holds hinst.layout (hmoves.holds h'), ?_⟩
      rcases hend.manifest with h' | h'
      · exact .inl (h'.trans hmoves.manifest)
      · exact .inr ⟨hnone, h', persist_holds hinst.layout hold⟩
    rcases bind_cases (persist faults first) (fun _ => (pure first : StoreProg StateV1)) t1 with
      ⟨u', h', hb'⟩ | ⟨e, -, hb'⟩ | ⟨-, hb'⟩ <;> rw [hb']
    · refine ⟨hpersist, fun hs => ?_⟩
      cases hs
      rw [h'] at hend
      cases hend with
      | done h'' _ => exact h''
    · exact ⟨hpersist, fun hs => (by cases hs)⟩
    · exact ⟨hpersist, fun hs => (by cases hs)⟩
  · exact ⟨hinst, fun hs => (by cases hs)⟩
  · exact ⟨hinst, fun hs => (by cases hs)⟩

theorem openOrInitialize_eq : openOrInitialize faults held identity position c digest =
    openStore faults held >>= fun _ => unavailable (createDirAll (faults .createCredentials) credentialsRoot) >>= fun _ =>
      pathExists (faults .stateExistsAgain) statePath >>= fun b =>
        if b = true then readState faults identity
        else hasCommittedRevision faults >>= fun b => if b = true then fail .invalidState
          else provision faults position.credentialRevision.1 c (firstState identity position c digest) := rfl

/-- A run that opens the directory: what it does to the disk, and that it yields the document it leaves. -/
structure Opens (revision : ℕ) (c : MaterialFile → Bytes) (first : StateV1) {ε : Type} (t : Disk)
    (r : Outcome ε StateV1 × Disk) : Prop where
  moves : OpenMoves revision c first t r.2
  manifest : ∀ s, r.1 = .ok s → manifest r.2 = some s

theorem Opens.of_top {revision : ℕ} {c : MaterialFile → Bytes} {first : StateV1} {ε : Type} (ht : Layout t)
    {r : Outcome ε StateV1 × Disk} (h : TopMoves t r.2) (hno : ∀ s, r.1 ≠ .ok s) : Opens revision c first t r :=
  ⟨h.open_ ht, fun s hs => absurd hs (hno s)⟩

theorem Opens.bind {revision : ℕ} {c : MaterialFile → Bytes} {first : StateV1} {ε α : Type} (ht : Layout t)
    {x : Prog Disk ε α} {f : α → Prog Disk ε StateV1} (hx : Moves TopMoves x)
    (hf : ∀ a, (x t).1 = .ok a → Opens revision c first (x t).2 (f a (x t).2)) :
    Opens revision c first t ((x >>= f) t) := by
  have hmoves := hx t
  rcases bind_cases x f t with ⟨a, h, hb⟩ | ⟨e, -, hb⟩ | ⟨-, hb⟩ <;> rw [hb]
  · exact ⟨hmoves.trans_open (hf a h).moves, (hf a h).manifest⟩
  · exact .of_top ht hmoves fun s hs => (by cases hs)
  · exact .of_top ht hmoves fun s hs => (by cases hs)

theorem openOrInitialize_opens (ht : Layout t) (hrev : manifest t ≠ none → ∃ n, t.get (revisionRoot n) ≠ none) :
    Opens position.credentialRevision.1 c.file (firstState identity position c digest) t
      (openOrInitialize faults held identity position c digest t) := by
  rw [openOrInitialize_eq]
  refine .bind ht (openStore_moves _ _) fun _ _ => ?_
  have h1 := openStore_moves faults held t
  set t1 := (openStore faults held t).2
  refine .bind (h1.layout ht) (Moves.unavailable (createDirAll_credentials _)) fun _ _ => ?_
  have h2 := h1.trans ((Moves.unavailable (createDirAll_credentials (faults .createCredentials)) : Moves TopMoves _) t1)
  set t2 := (unavailable (createDirAll (faults .createCredentials) credentialsRoot) t1).2
  have ht2 := h2.layout ht
  refine .bind ht2 (.of_reads (pathExists_tree _ _)) fun b hb => ?_
  rw [pathExists_tree]
  cases b
  · rw [if_neg (by simp)]
    refine .bind ht2 (.of_reads (hasCommittedRevision_tree _)) fun b hb => ?_
    rw [hasCommittedRevision_tree]
    cases b
    · rw [if_neg (by simp)]
      -- no revision stands, so there is no manifest either
      have hnone : manifest t2 = none := by
        rw [h2.manifest]
        by_contra hne
        obtain ⟨n, hn⟩ := hrev hne
        have hsame := h2.same (revisionRoot n) (by simp [revisionRoot, credentialsRoot, lockPath]) (by simp [revisionRoot])
        exact hn (hsame ▸ hasCommittedRevision_false hb n)
      exact ⟨(provision_cases (s := firstState identity position c digest) faults ht2 hnone).1,
        fun s hs => (provision_cases faults ht2 hnone).2 hs⟩
    · rw [if_pos rfl]
      exact .of_top ht2 (.refl _) fun s hs => (by cases hs)
  · rw [if_pos rfl]
    refine ⟨?_, fun s hs => ?_⟩
    · rw [readState_tree]; exact (TopMoves.refl t2).open_ ht2
    · rw [readState_tree]; exact (readState_ok hs).1

theorem openOrInitialize_ok (h : (openOrInitialize faults held identity position c digest t).1 = .ok s) :
    held = false := by
  rw [openOrInitialize_eq] at h
  obtain ⟨_, ho, -⟩ := bind_eq_ok h
  exact openStore_ok ho

end Open

section Agent

variable {pki : Pki} {t : Disk} {faults : Faults} {held : Bool} {config : AgentConfig} {now : ℕ} {s : StateV1}

theorem readMaterial_tree {ε : Type} (e : ε) (v : Verdict) (root : Path) (f : MaterialFile) :
    Reads (readMaterial e v root f) :=
  .bind (.mapErr (readFile_tree _ _)) fun c => by
    rcases h : c.asBytes with _ | b
    · exact .fail _
    · exact .pure _

theorem validateRevision_tree (root : Path) (identity : DeviceIdentity) (now : ℕ) :
    Reads (validateRevision pki faults root identity now) :=
  .bind (.mapErr (fileMode_tree _ _)) fun _ => .bind (.ofExcept _) fun _ => .bind (readMaterial_tree _ _ _ _) fun _ =>
    .bind (readMaterial_tree _ _ _ _) fun _ => .bind (readMaterial_tree _ _ _ _) fun _ => .ofExcept _

theorem digestRevision_tree (root : Path) : Reads (digestRevision faults root) :=
  .bind (readMaterial_tree _ _ _ _) fun _ => .bind (readMaterial_tree _ _ _ _) fun _ =>
    .bind (readMaterial_tree _ _ _ _) fun _ => .pure _

/-- The bootstrap files were validated and digested. -/
structure Bootstrap (pki : Pki) (config : AgentConfig) (now : ℕ) (c : ValidatedCredential) (digest : Sha256Digest) :
    Prop where
  validated : config.initialCredentials.validate pki config.identity now = .ok c
  digested : config.initialCredentials.digest = .ok digest

/-- The digest is that of the validated bytes. -/
theorem Bootstrap.digest_eq {c : ValidatedCredential} {digest : Sha256Digest} (h : Bootstrap pki config now c digest) :
    digest = computeArtifactDigestBytes c.ca c.certificate c.privateKey := by
  obtain ⟨hv, hd⟩ := h
  simp only [CredentialFiles.validate, except_bind_ok] at hv
  obtain ⟨-, -, ca, hca, certificate, hcert, key, hkey, hv⟩ := hv
  obtain ⟨h1, h2, h3⟩ := validateCredentialBytes_ok pki hv
  unfold CredentialFiles.digest at hd
  rcases hfa : config.initialCredentials.file .ca with _ | a <;> rw [hfa] at hca hd
  · cases hca
  rcases hfb : config.initialCredentials.file .certificate with _ | b <;> rw [hfb] at hcert hd
  · cases hcert
  rcases hfc : config.initialCredentials.file .privateKey with _ | k <;> rw [hfc] at hkey hd
  · cases hkey
  cases hca
  cases hcert
  cases hkey
  cases hd
  rw [h1, h2, h3]

theorem Bootstrap.validateBytes {c : ValidatedCredential} {digest : Sha256Digest}
    (h : Bootstrap pki config now c digest) :
    validateCredentialBytes pki c.ca c.certificate c.privateKey config.identity now = .ok c := by
  have hv := h.validated
  simp only [CredentialFiles.validate, except_bind_ok] at hv
  obtain ⟨-, -, ca, -, certificate, -, key, -, hv⟩ := hv
  obtain ⟨h1, h2, h3⟩ := validateCredentialBytes_ok pki hv
  rw [h1, h2, h3]
  exact hv

/-- What opening an agent does: the disk keeps its manifest or gets its first one, revisions stay, and the
agent runs on the document that is on disk. -/
structure OpenEnd (pki : Pki) (config : AgentConfig) (now : ℕ) (held : Bool) (t : Disk)
    (r : Outcome AgentError StateV1 × Disk) : Prop where
  layout : Layout r.2
  holds : ∀ n c, Holds t n c → Holds r.2 n c
  manifest : manifest r.2 = manifest t ∨ (Agent.manifest t = none ∧ ∃ c digest, Bootstrap pki config now c digest ∧
    Agent.manifest r.2 = some (firstState config.identity config.initialPosition c digest) ∧
    Holds r.2 config.initialPosition.credentialRevision.1 c.file)
  opened : ∀ s, r.1 = .ok s → held = false ∧ Agent.manifest r.2 = some s

theorem TopMoves.openEnd {r : Outcome AgentError StateV1 × Disk} (h : TopMoves t r.2) (ht : Layout t)
    (hok : ∀ s, r.1 = .ok s → held = false ∧ Agent.manifest t = some s) : OpenEnd pki config now held t r :=
  ⟨h.layout ht, fun _ _ => h.holds, .inl h.manifest, fun s hs => h.manifest ▸ hok s hs⟩

/-- The end of `openAgent` on a directory with a manifest. -/
def resume (pki : Pki) (faults : Faults) (held : Bool) (config : AgentConfig) (now : ℕ) : Prog Disk AgentError StateV1 := do
  let s ← mapErr .store (load faults held config.identity)
  let identity ← mapErr .store (ofExcept s.currentIdentity)
  let root := revisionRoot s.current.credentialRevision
  let _ ← mapErr .credential (validateRevision pki faults root identity now)
  let digest ← digestRevision faults root
  if digest.expose ≠ s.current.artifactDigest then fail (.store .invalidState) else pure s

/-- The end of `openAgent` on a directory without one. -/
def bootstrap (pki : Pki) (faults : Faults) (held : Bool) (config : AgentConfig) (now : ℕ) :
    Prog Disk AgentError StateV1 := do
  let initial ← ofExcept ((config.initialCredentials.validate pki config.identity now).mapError .credential)
  let digest ← ofExcept config.initialCredentials.digest
  mapErr .store (openOrInitialize faults held config.identity config.initialPosition initial digest)

theorem openAgent_eq : openAgent pki faults held config now =
    pathExists (faults .stateExists) statePath >>= fun b =>
      if b = true then resume pki faults held config now else bootstrap pki faults held config now := rfl

theorem resume_moves : Moves TopMoves (resume pki faults held config now) :=
  TopMoves.bind (.mapErr (load_moves _ _ _)) fun _ => TopMoves.bind (.of_reads (.mapErr (.ofExcept _))) fun _ =>
    TopMoves.bind (.of_reads (.mapErr (validateRevision_tree _ _ _))) fun _ =>
      TopMoves.bind (.of_reads (digestRevision_tree _)) fun _ => .of_reads (.ite (.fail _) (.pure _))

theorem resume_ok (h : (resume pki faults held config now t).1 = .ok s) : held = false ∧ manifest t = some s := by
  obtain ⟨s', hs', h, -⟩ := bind_eq_ok h
  obtain ⟨_, -, h, -⟩ := bind_eq_ok h
  obtain ⟨_, -, h, -⟩ := bind_eq_ok h
  obtain ⟨_, -, h, -⟩ := bind_eq_ok h
  obtain ⟨h1, h2, -⟩ := load_ok (mapErr_eq_ok.1 hs')
  split at h
  · cases h
  · cases h
    exact ⟨h1, h2⟩

theorem bootstrap_openEnd (ht : Layout t) (hrev : manifest t ≠ none → ∃ n, t.get (revisionRoot n) ≠ none) :
    OpenEnd pki config now held t (bootstrap pki faults held config now t) := by
  unfold bootstrap
  rcases hv : config.initialCredentials.validate pki config.identity now with e | c
  · exact (TopMoves.refl t).openEnd ht fun s hs => (by cases hs)
  rcases hd : config.initialCredentials.digest with e | digest
  · exact (TopMoves.refl t).openEnd ht fun s hs => (by cases hs)
  change OpenEnd pki config now held t
    (mapErr .store (openOrInitialize faults held config.identity config.initialPosition c digest) t)
  have hopens : Opens _ _ _ t (openOrInitialize faults held config.identity config.initialPosition c digest t) :=
    openOrInitialize_opens ht hrev
  obtain ⟨hmoves, hman⟩ := hopens
  rw [← mapErr_snd AgentError.store] at hmoves
  refine ⟨hmoves.layout, hmoves.holds, ?_, fun s hs => ?_⟩
  · rcases hmoves.manifest with h | ⟨h1, h2, h3⟩
    · exact .inl h
    · exact .inr ⟨h1, c, digest, ⟨hv, hd⟩, h2, h3⟩
  · rw [mapErr_eq_ok] at hs
    rw [mapErr_snd]
    exact ⟨openOrInitialize_ok hs, hman s hs⟩

/-- **What opening does**, whatever fails and wherever the machine stops. -/
theorem openAgent_cases (ht : Layout t) (hrev : manifest t ≠ none → ∃ n, t.get (revisionRoot n) ≠ none) :
    OpenEnd pki config now held t (openAgent pki faults held config now t) := by
  rw [openAgent_eq]
  rcases bind_cases (pathExists (faults .stateExists) statePath) (fun b => if b = true then
    resume pki faults held config now else bootstrap pki faults held config now) t with
    ⟨b, hb, h⟩ | ⟨e, he, h⟩ | ⟨-, h⟩ <;> rw [h, pathExists_tree]
  · cases b
    · rw [if_neg (by simp)]
      exact bootstrap_openEnd ht hrev
    · rw [if_pos rfl]
      exact (resume_moves t).openEnd ht fun s hs => resume_ok hs
  · exact (TopMoves.refl t).openEnd ht fun s hs => (by cases hs)
  · exact (TopMoves.refl t).openEnd ht fun s hs => (by cases hs)

/-! ### Opening without failures -/

theorem readMaterial_pass {ε : Type} {e : ε} {root : Path} {f : MaterialFile} {mode : ℕ} {b : Bytes}
    (h : t.get (root ++ [f.name]) = some (.file mode (.bytes b))) : readMaterial e .pass root f t = (.ok b, t) := by
  unfold readMaterial
  rw [bind_ok (r := t) (a := Content.bytes b) (by simp [mapErr, readFile, call, h])]
  rfl

theorem digestRevision_pass {n : ℕ} {c : MaterialFile → Bytes} (hold : Holds t n c) :
    digestRevision clean (revisionRoot n) t =
      (.ok (computeArtifactDigestBytes (c .ca) (c .certificate) (c .privateKey)), t) := by
  simp only [digestRevision, clean_apply]
  rw [bind_ok (readMaterial_pass (hold.file .ca)), bind_ok (readMaterial_pass (hold.file .certificate)),
    bind_ok (readMaterial_pass (hold.file .privateKey))]
  rfl

theorem validateRevision_pass {n : ℕ} {c : MaterialFile → Bytes} (hold : Holds t n c) (identity : DeviceIdentity) :
    validateRevision pki clean (revisionRoot n) identity now t =
      (ofExcept (validateCredentialBytes pki (c .ca) (c .certificate) (c .privateKey) identity now)) t := by
  have hmode : mapErr (fun _ => CredentialError.unavailable)
      (fileMode .pass (revisionRoot n ++ [MaterialFile.privateKey.name])) t = (.ok 0o600, t) := by
    simp [mapErr, fileMode, call, hold.file .privateKey]
  simp only [validateRevision, clean_apply]
  rw [bind_ok hmode, bind_ok (r := t) (a := ()) (by rfl), bind_ok (readMaterial_pass (hold.file .ca)),
    bind_ok (readMaterial_pass (hold.file .certificate)), bind_ok (readMaterial_pass (hold.file .privateKey))]

theorem openAgent_resume (ht : Layout t) (hm : manifest t = some s) :
    openAgent pki clean held config now t = resume pki clean held config now t := by
  have hget := (manifest_eq_some ht).1 hm
  rw [openAgent_eq, bind_ok (r := t) (a := true) (by simp [pathExists, hget]), if_pos rfl]

/-- Without failures an agent comes up on the manifest, unless its credential no longer validates. -/
theorem openAgent_pass (ht : Layout t) (hm : manifest t = some s) (hs : s.Consistent)
    (hv : s.verify config.identity = .ok ()) {c : MaterialFile → Bytes}
    (hold : Holds t s.current.credentialRevision c)
    (hdigest : (computeArtifactDigestBytes (c .ca) (c .certificate) (c .privateKey)).expose = s.current.artifactDigest) :
    (openAgent pki clean false config now t).1 =
      match validateCredentialBytes pki (c .ca) (c .certificate) (c .privateKey) hs.identity now with
      | .ok _ => .ok s
      | .error e => .err (.credential e) := by
  rw [openAgent_resume ht hm, resume]
  have hload : ((mapErr AgentError.store (load clean false config.identity)) t).1 = .ok s :=
    mapErr_eq_ok.2 (load_pass ht hm hv)
  rw [bind_of_ok hload, mapErr_snd]
  have hmoves := load_moves clean false config.identity t
  set t1 := (load clean false config.identity t).2
  have hold1 := hmoves.holds hold
  rw [hs.currentIdentity, bind_ok (r := t1) (a := hs.identity) (by rfl)]
  rcases hval : validateCredentialBytes pki (c .ca) (c .certificate) (c .privateKey) hs.identity now with e | cred
  · rw [bind_err (r := t1) (e := AgentError.credential e)]
    rw [mapErr, validateRevision_pass hold1, hval]
    rfl
  · rw [bind_ok (r := t1) (a := cred)]
    · rw [bind_ok (digestRevision_pass hold1), if_neg (by simp [hdigest])]
      rfl
    · rw [mapErr, validateRevision_pass hold1, hval]
      rfl

theorem openAgent_verified {s' : StateV1} (ht : Layout t) (hm : manifest t = some s)
    (h : (openAgent pki clean held config now t).1 = .ok s') : s' = s ∧ s.verify config.identity = .ok () := by
  rw [openAgent_resume ht hm] at h
  obtain ⟨-, hs'⟩ := resume_ok h
  obtain rfl := Option.some.inj (hm.symm.trans hs')
  obtain ⟨s₁, hload, -⟩ := bind_eq_ok h
  obtain ⟨-, hs₁, hv⟩ := load_ok (mapErr_eq_ok.1 hload)
  obtain rfl := Option.some.inj (hm.symm.trans hs₁)
  exact ⟨rfl, hv⟩

/-- Whether an agent comes up depends on the manifest and on the bytes of the current revision alone. -/
theorem openAgent_again {t' : Disk} (ht : Layout t) (ht' : Layout t') (hm : manifest t = some s)
    (hm' : manifest t' = some s) (hs : s.Consistent) {c : MaterialFile → Bytes}
    (hold : Holds t s.current.credentialRevision c) (hold' : Holds t' s.current.credentialRevision c)
    (hdigest : (computeArtifactDigestBytes (c .ca) (c .certificate) (c .privateKey)).expose = s.current.artifactDigest)
    (h : (openAgent pki clean false config now t).1 = .ok s) : (openAgent pki clean false config now t').1 = .ok s := by
  obtain ⟨-, hv⟩ := openAgent_verified ht hm h
  rw [openAgent_pass ht hm hs hv hold hdigest] at h
  rw [openAgent_pass ht' hm' hs hv hold' hdigest]
  exact h

end Agent

end RssIncubator.Agent
