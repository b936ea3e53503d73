import RssIncubator.Agent.Store

/-!
# What the store does to the disk

`Layout` is what holds of a state directory at any moment, whatever calls have failed and wherever the
machine has stopped: which paths are files and which are directories, and that a revision directory is
complete as soon as it exists.  `persist` and `installRevision` keep it, each with one point where its
effect becomes visible: the rename.
-/

namespace RssIncubator.Agent

open Lib Prog FileTree

/-! ### Paths -/

theorem revisionName_inj {n m : ℕ} (h : "revision-" ++ toString n = "revision-" ++ toString m) : n = m :=
  toString_nat_inj (String.append_right_inj _ |>.1 h)

theorem stagingName_inj {n m : ℕ}
    (h : ".revision-" ++ toString n ++ ".staging" = ".revision-" ++ toString m ++ ".staging") : n = m :=
  toString_nat_inj (String.append_right_inj _ |>.1 (String.append_left_inj _ |>.1 h))

theorem stagingName_ne (n m : ℕ) : ".revision-" ++ toString n ++ ".staging" ≠ "revision-" ++ toString m := by
  intro h
  have := congrArg String.toList h
  simp [String.toList_append] at this

theorem not_revision_prefix_revision {n m : ℕ} (h : n ≠ m) (p : Path) : ¬ revisionRoot n <+: revisionRoot m ++ p := by
  intro hp
  simp only [revisionRoot, credentialsRoot, List.cons_append, List.nil_append, List.cons_prefix_cons] at hp
  exact h (revisionName_inj hp.2.1)

theorem not_staging_prefix_revision (n m : ℕ) (p : Path) : ¬ stagingRoot n <+: revisionRoot m ++ p := by
  intro hp
  simp only [stagingRoot, revisionRoot, credentialsRoot, List.cons_append, List.nil_append,
    List.cons_prefix_cons] at hp
  exact stagingName_ne n m hp.2.1

theorem not_revision_prefix_staging (n m : ℕ) (p : Path) : ¬ revisionRoot n <+: stagingRoot m ++ p := by
  intro hp
  simp only [stagingRoot, revisionRoot, credentialsRoot, List.cons_append, List.nil_append,
    List.cons_prefix_cons] at hp
  exact stagingName_ne m n hp.2.1.symm

theorem not_staging_prefix_staging {n m : ℕ} (h : n ≠ m) : ¬ stagingRoot n <+: stagingRoot m := by
  intro hp
  simp only [stagingRoot, credentialsRoot, List.cons_append, List.nil_append, List.cons_prefix_cons] at hp
  exact h (stagingName_inj hp.2.1)

/-- The paths of the two manifests and of the lock stand apart from the credentials. -/
theorem not_prefix_credentials {x y : String} {p q : Path} (h : x ≠ y) : ¬ x :: p <+: y :: q := by
  simp [List.cons_prefix_cons, h]

/-! ### The layout of a state directory -/

/-- The revision directory is complete and holds these bytes. -/
structure Holds (t : Disk) (revision : ℕ) (c : MaterialFile → Bytes) : Prop where
  dir : t.get (revisionRoot revision) = some .dir
  file : ∀ f : MaterialFile, t.get (revisionRoot revision ++ [f.name]) = some (.file 0o600 (.bytes (c f)))

theorem Holds.unique {t : Disk} {n : ℕ} {c c' : MaterialFile → Bytes} (h : Holds t n c) (h' : Holds t n c') : c = c' := by
  funext f
  have := (h.file f).symm.trans (h'.file f)
  simpa using this

theorem Holds.of_get {t t' : Disk} {n : ℕ} {c : MaterialFile → Bytes}
    (hsame : ∀ r, revisionRoot n <+: r → t'.get r = t.get r) (h : Holds t n c) : Holds t' n c :=
  ⟨by rw [hsame _ List.prefix_rfl, h.dir], fun f => by rw [hsame _ (List.prefix_append _ _), h.file]⟩

structure Layout (t : Disk) : Prop where
  state : t.get statePath = none ∨ ∃ s, t.get statePath = some (.file 0o600 (.manifest s))
  temporary : t.get temporaryPath ≠ some .dir
  lock : t.get lockPath ≠ some .dir
  credentials : t.get credentialsRoot = none ∨ t.get credentialsRoot = some .dir
  staging : ∀ n, t.get (stagingRoot n) = none ∨ t.get (stagingRoot n) = some .dir
  revision : ∀ n, t.get (revisionRoot n) ≠ none → ∃ c, Holds t n c

/-- The document the manifest holds. -/
def manifest (t : Disk) : Option StateV1 :=
  match t.get statePath with
  | some (.file _ (.manifest s)) => some s
  | _ => none

theorem manifest_eq_some {t : Disk} (h : Layout t) {s : StateV1} :
    manifest t = some s ↔ t.get statePath = some (.file 0o600 (.manifest s)) := by
  unfold manifest
  rcases h.state with hs | ⟨s', hs⟩ <;> simp [hs]

theorem manifest_eq_none {t : Disk} (h : Layout t) : manifest t = none ↔ t.get statePath = none := by
  unfold manifest
  rcases h.state with hs | ⟨s', hs⟩ <;> simp [hs]

theorem layout_empty : Layout FileTree.empty := by
  have hnone : ∀ p : Path, p ≠ [] → (FileTree.empty : Disk).get p = none := fun p hp => get_empty hp
  refine ⟨.inl (hnone _ (by decide)), ?_, ?_, .inl (hnone _ (by decide)), fun n => .inl (hnone _ ?_), fun n h => ?_⟩
  · rw [hnone _ (by decide)]; simp
  · rw [hnone _ (by decide)]; simp
  · simp [stagingRoot]
  · exact absurd (hnone _ (by simp [revisionRoot])) h

/-- Changes confined to the two manifest paths. -/
theorem Layout.of_manifests {t t' : Disk} (h : Layout t)
    (hsame : ∀ r, ¬ temporaryPath <+: r → ¬ statePath <+: r → t'.get r = t.get r)
    (hstate : t'.get statePath = none ∨ ∃ s, t'.get statePath = some (.file 0o600 (.manifest s)))
    (htemp : t'.get temporaryPath ≠ some .dir) : Layout t' := by
  have hcred : ∀ p : Path, t'.get (credentialsRoot ++ p) = t.get (credentialsRoot ++ p) := fun p =>
    hsame _ (not_prefix_credentials (by decide)) (not_prefix_credentials (by decide))
  refine ⟨hstate, htemp, ?_, ?_, fun n => ?_, fun n hn => ?_⟩
  · rw [hsame lockPath (by decide) (by decide)]; exact h.lock
  · simpa using (hcred []) ▸ h.credentials
  · simpa [stagingRoot, hcred] using h.staging n
  · rw [revisionRoot, hcred] at hn
    obtain ⟨c, hc⟩ := h.revision n hn
    refine ⟨c, hc.of_get fun r hr => ?_⟩
    obtain ⟨q, rfl⟩ := hr
    rw [revisionRoot, List.append_assoc]
    exact hcred _

/-- Changes confined to one revision and its staging directory. -/
theorem Layout.of_revision {t t' : Disk} {n : ℕ} (h : Layout t)
    (hsame : ∀ r, ¬ stagingRoot n <+: r → ¬ revisionRoot n <+: r → t'.get r = t.get r)
    (hstaging : t'.get (stagingRoot n) = none ∨ t'.get (stagingRoot n) = some .dir)
    (hrev : t'.get (revisionRoot n) ≠ none → ∃ c, Holds t' n c) : Layout t' := by
  have hout : ∀ x : String, x ≠ "credentials" → t'.get [x] = t.get [x] := fun x hx =>
    hsame _ (not_prefix_credentials (Ne.symm hx)) (not_prefix_credentials (Ne.symm hx))
  refine ⟨?_, ?_, ?_, ?_, fun m => ?_, fun m hm => ?_⟩
  · rw [statePath, hout _ (by decide)]; exact h.state
  · rw [temporaryPath, hout _ (by decide)]; exact h.temporary
  · rw [lockPath, hout _ (by decide)]; exact h.lock
  · rw [hsame credentialsRoot (by simp [stagingRoot, credentialsRoot]) (by simp [revisionRoot, credentialsRoot])]
    exact h.credentials
  · by_cases hnm : n = m
    · subst hnm; exact hstaging
    · rw [hsame _ (not_staging_prefix_staging hnm) (by simpa using not_revision_prefix_staging n m [])]
      exact h.staging m
  · by_cases hnm : n = m
    · subst hnm; exact hrev hm
    · have hrm : ∀ r, revisionRoot m <+: r → t'.get r = t.get r := by
        rintro r ⟨q, rfl⟩
        exact hsame _ (not_staging_prefix_revision n m q) (not_revision_prefix_revision hnm q)
      rw [hrm _ List.prefix_rfl] at hm
      obtain ⟨c, hc⟩ := h.revision m hm
      exact ⟨c, hc.of_get hrm⟩

/-! ### Steps -/

section Steps

variable {t : Disk} {p : Path} {U : Path → Prop}

@[simp] theorem unavailable_snd {α : Type} (x : Prog Disk CallError α) (t : Disk) : (unavailable x t).2 = (x t).2 :=
  mapErr_snd _ _ _

@[simp] theorem unavailable_eq_ok {α : Type} {x : Prog Disk CallError α} {a : α} :
    (unavailable x t).1 = .ok a ↔ (x t).1 = .ok a := mapErr_eq_ok

theorem Moves.unavailable {α : Type} {R : Disk → Disk → Prop} {x : Prog Disk CallError α} (h : Moves R x) :
    Moves R (unavailable x) := Moves.mapErr h

/-- The errors a program of the store reports for failed calls. -/
abbrev Unavailable {α : Type} (x : StoreProg α) : Prop := Errs (fun e => e = .unavailable) x

theorem unavailable_errs {α : Type} (x : Prog Disk CallError α) : Unavailable (unavailable x) := Errs.mapErr fun _ => rfl

theorem syncDirectory_tree (v : SyncStep → Verdict) (p : Path) : Reads (syncDirectory v p) :=
  .bind (.mapErr (openPath_tree _ _)) fun _ => .mapErr (syncAll_tree _)

theorem syncDirectory_errs (v : SyncStep → Verdict) (p : Path) : Unavailable (syncDirectory v p) :=
  .bind (unavailable_errs _) fun _ => unavailable_errs _

/-- A directory sync ends as the verdicts on its two calls say. -/
theorem syncDirectory_end (v : SyncStep → Verdict) (hp : t.get p ≠ none) :
    ((syncDirectory v p t).1 = .ok () ∧ ∀ step, v step = .pass) ∨
    ((syncDirectory v p t).1 = .err .unavailable ∧ ∃ step done, v step = .fail done) ∨
    ((syncDirectory v p t).1 = .crash ∧ ∃ step done, v step = .crash done) := by
  have hsome := Option.isSome_iff_ne_none.2 hp
  rcases ho : v .opening with _ | done | done
  · have hopen : (unavailable (openPath (v .opening) p) t) = (.ok (), t) := by
      simp [unavailable, mapErr, openPath, call, ho, hsome]
    rcases hs : v .sync with _ | done | done
    · refine .inl ⟨?_, fun step => by cases step <;> assumption⟩
      rw [syncDirectory, bind_ok hopen]
      simp [unavailable, mapErr, syncAll, call, hs]
    · refine .inr (.inl ⟨?_, .sync, done, hs⟩)
      rw [syncDirectory, bind_ok hopen]
      simp [unavailable, mapErr, syncAll, call, hs]
    · refine .inr (.inr ⟨?_, .sync, done, hs⟩)
      rw [syncDirectory, bind_ok hopen]
      simp [unavailable, mapErr, syncAll, call, hs]
  · refine .inr (.inl ⟨?_, .opening, done, ho⟩)
    rw [syncDirectory, bind_err (r := t) (e := StoreError.unavailable)]
    simp [unavailable, mapErr, openPath, call, ho]
  · refine .inr (.inr ⟨?_, .opening, done, ho⟩)
    rw [syncDirectory, bind_crash (r := t)]
    simp [unavailable, mapErr, openPath, call, ho]

theorem writeSynced_moves (v : WriteStep → Verdict) (c : Content) (mode : ℕ) (hp : U p) :
    Moves (Untouched U) (writeSynced v p c mode) :=
  Untouched.bind (Moves.unavailable (createNew_moves _ _ hp)) fun _ =>
    Untouched.bind (Moves.unavailable (writeAll_moves _ _ hp)) fun _ =>
      Moves.unavailable (Untouched.of_tree (syncAll_tree _))

theorem writeSynced_errs (v : WriteStep → Verdict) (c : Content) (mode : ℕ) : Unavailable (writeSynced v p c mode) :=
  .bind (unavailable_errs _) fun _ => .bind (unavailable_errs _) fun _ => unavailable_errs _

theorem writeSynced_ok {v : WriteStep → Verdict} {c : Content} {mode : ℕ} {u : Unit}
    (h : (writeSynced v p c mode t).1 = .ok u) :
    t.get p = none ∧ ∀ r, (writeSynced v p c mode t).2.get r = if r = p then some (.file mode c) else t.get r := by
  obtain ⟨_, h1, h, he⟩ := bind_eq_ok h
  obtain ⟨_, h2, h, he'⟩ := bind_eq_ok h
  rw [writeSynced, he, he']
  simp only [unavailable_eq_ok, unavailable_snd] at h1 h2 ⊢
  rw [syncAll_tree]
  obtain ⟨-, hfree, hcreate⟩ := createNew_ok h1
  obtain ⟨-, hwrite⟩ := writeAll_ok h2
  refine ⟨hfree, fun r => ?_⟩
  rw [hwrite, get_rewrite, hcreate, hcreate]
  by_cases hr : r = p <;> simp [hr]

theorem writeSynced_verdicts {v : WriteStep → Verdict} {c : Content} {mode : ℕ} {u : Unit}
    (h : (writeSynced v p c mode t).1 = .ok u) (step : WriteStep) : v step = .pass := by
  obtain ⟨_, h1, h, -⟩ := bind_eq_ok h
  obtain ⟨_, h2, h3, -⟩ := bind_eq_ok h
  simp only [unavailable_eq_ok] at h1 h2 h3
  cases step with
  | create => exact (createNew_ok h1).1
  | write => exact (writeAll_ok h2).1
  | sync => exact (call_ok h3).1

theorem writeSynced_pass {c : Content} {mode : ℕ} (hfree : t.get p = none) (hpar : t.get p.dropLast = some .dir) :
    (writeSynced (fun _ => .pass) p c mode t).1 = .ok () := by
  rw [writeSynced, bind_of_ok (a := ()) (unavailable_eq_ok.2 (createNew_pass hfree hpar)),
    bind_of_ok (a := ()) (unavailable_eq_ok.2 (writeAll_pass c))]
  exact unavailable_eq_ok.2 syncAll_pass

theorem removed_tree (v : SyncStep → Verdict) (p : Path) (r : Except CallError Unit) : Reads (removed v p r) := by
  rcases r with (_ | _) | ⟨⟩
  · exact .pure _
  · exact .fail _
  · exact syncDirectory_tree _ _

theorem removed_errs (v : SyncStep → Verdict) (p : Path) (r : Except CallError Unit) : Unavailable (removed v p r) := by
  rcases r with (_ | _) | ⟨⟩
  · exact .pure _
  · exact .fail rfl
  · exact syncDirectory_errs _ _

theorem removeStaleFile_moves (v : Verdict) (w : SyncStep → Verdict) (hU : ∀ r, p <+: r → U r) :
    Moves (Untouched U) (removeStaleFile v w p) :=
  Untouched.bind (.attempt (removeFile_moves v hU)) fun r => Untouched.of_tree (removed_tree w p r)

theorem syncDirectory_pass (hp : t.get p ≠ none) : (syncDirectory (fun _ => .pass) p t).1 = .ok () := by
  rcases syncDirectory_end (fun _ => .pass) hp with ⟨h, -⟩ | ⟨-, _, _, h⟩ | ⟨-, _, _, h⟩
  · exact h
  · cases h
  · cases h

/-- After a clean removal nothing stands at the path, and its directory can be synced. -/
theorem removed_pass (hp : p ≠ []) (h : t.get p ≠ none) :
    (removed (fun _ => .pass) p (.ok ()) (t.prune [p])).1 = .ok () ∧
    (removed (fun _ => .pass) p (.ok ()) (t.prune [p])).2.get p = none := by
  have hpar : (t.prune [p]).get p.dropLast ≠ none := by
    rw [get_prune, if_neg, t.get_dropLast h]
    · simp
    · rintro ⟨q, hq, -, hpre⟩
      rw [List.mem_singleton.1 hq] at hpre
      exact dropLast_ne hp ((List.dropLast_prefix p).eq_of_length_le hpre.length_le)
  refine ⟨syncDirectory_pass hpar, ?_⟩
  rw [removed_tree, get_prune, if_pos ⟨p, by simp, hp, List.prefix_rfl⟩]

theorem removeStaleFile_pass (hp : p ≠ []) (hdir : t.get p ≠ some .dir) :
    (removeStaleFile .pass (fun _ => .pass) p t).1 = .ok () ∧
    (removeStaleFile .pass (fun _ => .pass) p t).2.get p = none := by
  rcases hg : t.get p with _ | _ | ⟨m, c⟩
  · rw [removeStaleFile, bind_ok (r := t) (a := Except.error CallError.notFound)]
    · exact ⟨rfl, hg⟩
    · simp [attempt, removeFile_pass_none hg]
  · exact absurd hg hdir
  · rw [removeStaleFile, bind_ok (r := t.prune [p]) (a := Except.ok ())]
    · exact removed_pass hp (by simp [hg])
    · simp [attempt, removeFile_pass_file hg]

theorem removeStaleDirectory_pass (hp : p ≠ []) (hdir : t.get p = none ∨ t.get p = some .dir) :
    (removeStaleDirectory .pass (fun _ => .pass) p t).1 = .ok () ∧
    (removeStaleDirectory .pass (fun _ => .pass) p t).2.get p = none := by
  rcases hdir with hg | hg
  · rw [removeStaleDirectory, bind_ok (r := t) (a := Except.error CallError.notFound)]
    · exact ⟨rfl, hg⟩
    · simp [attempt, removeDirAll_pass_none hg]
  · rw [removeStaleDirectory, bind_ok (r := t.prune [p]) (a := Except.ok ())]
    · exact removed_pass hp (by simp [hg])
    · simp [attempt, removeDirAll_pass_dir hg]

end Steps

/-! ### Replacing the manifest -/

section Persist

variable {t : Disk} {faults : Faults} {s : StateV1}

/-- What is not a directory does not become one. -/
def KeepsFile (p : Path) (t t' : Disk) : Prop := t.get p ≠ some .dir → t'.get p ≠ some .dir

theorem KeepsFile.bind {p : Path} {α β : Type} {x : StoreProg α} {f : α → StoreProg β}
    (hx : Moves (KeepsFile p) x) (hf : ∀ a, Moves (KeepsFile p) (f a)) : Moves (KeepsFile p) (x >>= f) :=
  Moves.bind (R := KeepsFile p) (fun h h' hd => h' (h hd)) hx hf

theorem KeepsFile.of_tree {p : Path} {ε α : Type} {x : Prog Disk ε α} (h : ∀ t, (x t).2 = t) : Moves (KeepsFile p) x :=
  fun t => by rw [h]; exact id

theorem removeStaleFile_keeps (v : Verdict) (w : SyncStep → Verdict) (p : Path) :
    Moves (KeepsFile p) (removeStaleFile v w p) := by
  refine KeepsFile.bind (.attempt (call_moves (fun _ => id) (fun t _ t' h hd => ?_) fun _ _ => id)) fun r =>
    KeepsFile.of_tree (removed_tree w p r)
  split at h <;> simp only [reduceCtorEq, Except.ok.injEq, Prod.mk.injEq, true_and] at h
  subst h
  rw [get_prune]
  split
  · simp
  · exact hd

theorem writeSynced_keeps (v : WriteStep → Verdict) (p : Path) (c : Content) (mode : ℕ) :
    Moves (KeepsFile p) (writeSynced v p c mode) := by
  have hrewrite : ∀ (t : Disk) c', KeepsFile p t (rewrite t p c') := fun t c' hd => by
    rw [get_rewrite, if_pos rfl]
    rcases hg : t.get p with _ | _ | ⟨m, c''⟩
    · simp
    · exact absurd hg hd
    · simp
  refine KeepsFile.bind (Moves.unavailable (call_moves (fun _ => id) (fun t _ t' h _ => ?_) fun _ _ => id)) fun _ =>
    KeepsFile.bind (Moves.unavailable (call_moves (fun _ => id) (fun t _ t' h => ?_) fun _ t => hrewrite t _)) fun _ =>
      Moves.unavailable (KeepsFile.of_tree (syncAll_tree _))
  · rw [(putNew_eq_ok h).2, if_pos rfl]; simp
  · simp only [Except.ok.injEq, Prod.mk.injEq, true_and] at h
    subst h
    exact hrewrite t c

/-- The part of `persist` before its effect becomes visible. -/
def prepare (faults : Faults) (s : StateV1) : StoreProg Unit := do
  removeStaleFile (faults .removeTemporary) (fun step => faults (.temporaryRemoved step)) temporaryPath
  writeSynced (fun step => faults (.temporary step)) temporaryPath (.manifest s) 0o600

/-- The part of `persist` from the rename on. -/
def publish (faults : Faults) : StoreProg Unit := do
  unavailable (rename (faults .renameManifest) temporaryPath statePath)
  syncDirectory (fun step => faults (.manifestRenamed step)) []

theorem persist_eq (faults : Faults) (s : StateV1) : persist faults s = prepare faults s >>= fun _ => publish faults := by
  simp only [persist, prepare, publish, bind_assoc]

theorem prepare_moves (faults : Faults) (s : StateV1) :
    Moves (Untouched fun r => temporaryPath <+: r) (prepare faults s) :=
  Untouched.bind (removeStaleFile_moves _ _ fun _ => id) fun _ => writeSynced_moves _ _ _ List.prefix_rfl

theorem prepare_keeps (faults : Faults) (s : StateV1) : Moves (KeepsFile temporaryPath) (prepare faults s) :=
  KeepsFile.bind (removeStaleFile_keeps _ _ _) fun _ => writeSynced_keeps _ _ _ _

theorem prepare_errs (faults : Faults) (s : StateV1) : Unavailable (prepare faults s) :=
  .bind (.bind .attempt fun r => removed_errs _ _ r) fun _ => writeSynced_errs _ _ _

theorem prepare_ok {u : Unit} (h : (prepare faults s t).1 = .ok u) :
    (prepare faults s t).2.get temporaryPath = some (.file 0o600 (.manifest s)) ∧ ∀ step, faults (.temporary step) = .pass := by
  obtain ⟨_, -, h, he⟩ := bind_eq_ok h
  refine ⟨?_, writeSynced_verdicts h⟩
  rw [prepare, he, (writeSynced_ok h).2, if_pos rfl]

/-- The manifest is written and renamed, and the sync after it fails. -/
structure Faults.Unsynced (faults : Faults) : Prop where
  written : ∀ step, faults (.temporary step) = .pass
  renamed : faults .renameManifest = .pass
  failed : ∃ step done, faults (.manifestRenamed step) = .fail done

/-- How a replacement of the manifest ends: before the rename nothing has changed, after it the new
document stands and only the last sync is open. -/
inductive PersistEnd (faults : Faults) (s : StateV1) (t t' : Disk) : Outcome StoreError Unit → Prop
  | unavailable (h : manifest t' = manifest t) : PersistEnd faults s t t' (.err .unavailable)
  | crash (h : manifest t' = manifest t) : PersistEnd faults s t t' .crash
  | done (h : manifest t' = some s) (hsync : ∀ step, faults (.manifestRenamed step) = .pass) :
      PersistEnd faults s t t' (.ok ())
  | unsynced (h : manifest t' = some s) (hsync : faults.Unsynced) :
      PersistEnd faults s t t' (.err .unavailable)
  | crashUnsynced (h : manifest t' = some s) (hsync : ∃ step done, faults (.manifestRenamed step) = .crash done) :
      PersistEnd faults s t t' .crash

variable (faults) in
/-- The rename of a prepared manifest either does nothing or installs the document. -/
theorem publish_cases (ht : Layout t) (htemp : t.get temporaryPath = some (.file 0o600 (.manifest s)))
    (hwritten : ∀ step, faults (.temporary step) = .pass) :
    PersistEnd faults s t (publish faults t).2 (publish faults t).1 ∧ Layout (publish faults t).2 ∧
    ∀ r, ¬ temporaryPath <+: r → ¬ statePath <+: r → (publish faults t).2.get r = t.get r := by
  have hrename := rename_cases (faults .renameManifest) temporaryPath statePath t
  unfold publish
  rcases hrename with ⟨hsame, hno⟩ | ⟨hv, hok, -, hget⟩
  · rcases bind_cases (unavailable (rename (faults .renameManifest) temporaryPath statePath))
      (fun _ => syncDirectory (fun step => faults (.manifestRenamed step)) []) t with ⟨u, h, -⟩ | ⟨e, h, hb⟩ | ⟨-, hb⟩
    · exact absurd (unavailable_eq_ok.1 h) hno
    · rw [hb, unavailable_errs _ _ _ h, unavailable_snd, hsame]
      exact ⟨.unavailable rfl, ht, fun _ _ _ => rfl⟩
    · rw [hb, unavailable_snd, hsame]
      exact ⟨.crash rfl, ht, fun _ _ _ => rfl⟩
  · rw [bind_of_ok (a := ()) (unavailable_eq_ok.2 hok), unavailable_snd, syncDirectory_tree]
    set t' := (rename (faults .renameManifest) temporaryPath statePath t).2
    have hstate : t'.get statePath = some (.file 0o600 (.manifest s)) := by
      rw [hget, if_pos List.prefix_rfl]
      simpa using htemp
    have hlayout : Layout t' := by
      refine ht.of_manifests (fun r h1 h2 => ?_) (.inr ⟨s, hstate⟩) ?_
      · rw [hget, if_neg h2, if_neg h1]
      · rw [hget, if_neg (by decide), if_pos List.prefix_rfl]; simp
    have hman := (manifest_eq_some hlayout).2 hstate
    refine ⟨?_, hlayout, fun r h1 h2 => by rw [hget, if_neg h2, if_neg h1]⟩
    rcases syncDirectory_end (t := t') (p := []) (fun step => faults (.manifestRenamed step)) (by simp) with
      ⟨h, hs⟩ | ⟨h, hs⟩ | ⟨h, hs⟩ <;> rw [h]
    · exact .done hman hs
    · exact .unsynced hman ⟨hwritten, hv, hs⟩
    · exact .crashUnsynced hman hs

variable (faults) in
/-- **What `persist` does**, whatever fails and wherever the machine stops. -/
theorem persist_cases (ht : Layout t) :
    PersistEnd faults s t (persist faults s t).2 (persist faults s t).1 ∧ Layout (persist faults s t).2 ∧
    ∀ r, ¬ temporaryPath <+: r → ¬ statePath <+: r → (persist faults s t).2.get r = t.get r := by
  rw [persist_eq]
  have hmoves := prepare_moves faults s t
  have hlayout : Layout (prepare faults s t).2 := by
    refine ht.of_manifests (fun r h1 _ => hmoves r h1) ?_ (prepare_keeps faults s t ht.temporary)
    rw [hmoves _ (by decide)]
    exact ht.state
  have hman : manifest (prepare faults s t).2 = manifest t := by
    unfold manifest; rw [hmoves _ (by decide)]
  rcases bind_cases (prepare faults s) (fun _ => publish faults) t with ⟨u, h, hb⟩ | ⟨e, h, hb⟩ | ⟨-, hb⟩ <;> rw [hb]
  · obtain ⟨htemp, hwritten⟩ := prepare_ok h
    obtain ⟨hend, hl, hsame⟩ := publish_cases faults hlayout htemp hwritten
    refine ⟨?_, hl, fun r h1 h2 => (hsame r h1 h2).trans (hmoves r h1)⟩
    generalize (publish faults _).1 = o at hend
    cases hend with
    | unavailable h' => exact .unavailable (h'.trans hman)
    | crash h' => exact .crash (h'.trans hman)
    | done h' hs => exact .done h' hs
    | unsynced h' hs => exact .unsynced h' hs
    | crashUnsynced h' hs => exact .crashUnsynced h' hs
  · rw [prepare_errs _ _ _ _ h]
    exact ⟨.unavailable hman, hlayout, fun r h1 _ => hmoves r h1⟩
  · exact ⟨.crash hman, hlayout, fun r h1 _ => hmoves r h1⟩

/-- With nothing in its way the manifest is replaced. -/
theorem persist_pass (ht : Layout t) : (persist clean s t).1 = .ok () := by
  obtain ⟨hrem, hnone⟩ := removeStaleFile_pass (t := t) (p := temporaryPath) (by decide) ht.temporary
  have hwrite : (writeSynced (fun _ => .pass) temporaryPath (.manifest s) 0o600 _).1 = .ok () :=
    writeSynced_pass hnone (by simp [temporaryPath])
  have hprep : (prepare clean s t).1 = .ok () := by
    rw [prepare]
    exact (congrArg Prod.fst (bind_of_ok hrem)).trans hwrite
  rw [persist_eq, bind_of_ok hprep]
  set t1 := (prepare clean s t).2
  have htemp : t1.get temporaryPath = some (.file 0o600 (.manifest s)) := (prepare_ok hprep).1
  have hstate : t1.get statePath = t.get statePath := prepare_moves clean s t _ (by decide)
  have hrename : (rename (clean .renameManifest) temporaryPath statePath t1).1 = .ok () := by
    refine rename_pass htemp (by decide) (by decide) (by simp [statePath]) (by decide) ?_
    unfold replaceable
    rcases ht.state with hs | ⟨s', hs⟩ <;> simp [hstate, hs]
  rw [publish, bind_of_ok (a := ()) (unavailable_eq_ok.2 hrename)]
  exact syncDirectory_pass (by simp)

end Persist

/-! ### Installing a revision -/

section Install

variable {t : Disk} {faults : Faults} {n : ℕ} {c : ValidatedCredential}

/-- What an installation does to the disk, however it ends: a revision that stands is not touched, and
one that appears is complete. -/
structure InstallMoves (n : ℕ) (c : MaterialFile → Bytes) (t t' : Disk) : Prop where
  outside : ∀ r, ¬ stagingRoot n <+: r → ¬ revisionRoot n <+: r → t'.get r = t.get r
  staging : t'.get (stagingRoot n) = none ∨ t'.get (stagingRoot n) = some .dir
  revision : (∀ r, revisionRoot n <+: r → t'.get r = t.get r) ∨ (t.get (revisionRoot n) = none ∧ Holds t' n c)

theorem InstallMoves.layout {c : MaterialFile → Bytes} {t' : Disk} (h : InstallMoves n c t t') (ht : Layout t) :
    Layout t' := by
  refine ht.of_revision h.outside h.staging fun hne => ?_
  rcases h.revision with hsame | ⟨-, hholds⟩
  · rw [hsame _ List.prefix_rfl] at hne
    obtain ⟨c', hc'⟩ := ht.revision n hne
    exact ⟨c', hc'.of_get hsame⟩
  · exact ⟨_, hholds⟩

theorem InstallMoves.manifest {c : MaterialFile → Bytes} {t' : Disk} (h : InstallMoves n c t t') :
    manifest t' = manifest t := by
  have hs : t'.get statePath = t.get statePath :=
    h.outside _ (not_prefix_credentials (by decide)) (not_prefix_credentials (by decide))
  unfold Agent.manifest
  rw [hs]

theorem InstallMoves.holds {c c' : MaterialFile → Bytes} {t' : Disk} {m : ℕ} (h : InstallMoves n c t t')
    (hm : Holds t m c') : Holds t' m c' := by
  refine hm.of_get fun r hr => ?_
  by_cases hnm : n = m
  · subst hnm
    rcases h.revision with hsame | ⟨hnone, -⟩
    · exact hsame r hr
    · rw [hm.dir] at hnone; cases hnone
  · obtain ⟨q, rfl⟩ := hr
    exact h.outside _ (not_staging_prefix_revision n m q) (not_revision_prefix_revision hnm q)

/-- What happens to a staging directory before and after its revision is put in place. -/
structure StagingMoves (n : ℕ) (t t' : Disk) : Prop where
  outside : Untouched (fun r => stagingRoot n <+: r) t t'
  staging : (t.get (stagingRoot n) = none ∨ t.get (stagingRoot n) = some .dir) →
    (t'.get (stagingRoot n) = none ∨ t'.get (stagingRoot n) = some .dir)

theorem StagingMoves.refl (t : Disk) : StagingMoves n t t := ⟨Untouched.refl t, id⟩

theorem StagingMoves.bind {α β : Type} {x : StoreProg α} {f : α → StoreProg β} (hx : Moves (StagingMoves n) x)
    (hf : ∀ a, Moves (StagingMoves n) (f a)) : Moves (StagingMoves n) (x >>= f) :=
  Moves.bind (R := StagingMoves n) (fun h h' => ⟨h.outside.trans h'.outside, fun hd => h'.staging (h.staging hd)⟩) hx hf

theorem StagingMoves.of_reads {α : Type} {x : StoreProg α} (h : Reads x) : Moves (StagingMoves n) x := fun t => by
  rw [h]; exact .refl t

theorem StagingMoves.revision {t' : Disk} (h : StagingMoves n t t') {r : Path} (hr : revisionRoot n <+: r) :
    t'.get r = t.get r := by
  obtain ⟨q, rfl⟩ := hr
  exact h.outside _ (not_staging_prefix_revision n n q)

theorem StagingMoves.install {c : MaterialFile → Bytes} {t' : Disk} (h : StagingMoves n t t') (ht : Layout t) :
    InstallMoves n c t t' :=
  ⟨fun r h1 _ => h.outside r h1, h.staging (ht.staging n), .inl fun _ hr => h.revision hr⟩

theorem StagingMoves.before {c : MaterialFile → Bytes} {t' t'' : Disk} (h : StagingMoves n t t')
    (h' : InstallMoves n c t' t'') : InstallMoves n c t t'' := by
  refine ⟨fun r h1 h2 => (h'.outside r h1 h2).trans (h.outside r h1), h'.staging, ?_⟩
  rcases h'.revision with hsame | ⟨hnone, hholds⟩
  · exact .inl fun r hr => (hsame r hr).trans (h.revision hr)
  · exact .inr ⟨(h.revision List.prefix_rfl).symm.trans hnone, hholds⟩

theorem StagingMoves.after {c : MaterialFile → Bytes} {t' t'' : Disk} (h' : StagingMoves n t' t'')
    (h : InstallMoves n c t t') : InstallMoves n c t t'' := by
  refine ⟨fun r h1 h2 => (h'.outside r h1).trans (h.outside r h1 h2), h'.staging h.staging, ?_⟩
  rcases h.revision with hsame | ⟨hnone, hholds⟩
  · exact .inl fun r hr => (h'.revision hr).trans (hsame r hr)
  · exact .inr ⟨hnone, hholds.of_get fun _ hr => h'.revision hr⟩

theorem removeDirAll_staging (v : Verdict) (n : ℕ) :
    Moves (StagingMoves n) (removeDirAll v (stagingRoot n) : Prog Disk CallError Unit) := fun t => by
  refine ⟨removeDirAll_moves v (fun _ => id) t, fun hd => ?_⟩
  have hprune : ∀ ps, (t.prune ps).get (stagingRoot n) = none ∨ (t.prune ps).get (stagingRoot n) = some .dir := fun ps => by
    rw [get_prune]
    split
    · exact .inl rfl
    · exact hd
  unfold removeDirAll call
  rcases v with _ | done | done
  · rcases hd with hd' | hd' <;> simp only [hd']
    · exact .inl trivial
    · exact hprune _
  · exact hprune _
  · exact hprune _

theorem createDir_staging (v : Verdict) (n : ℕ) :
    Moves (StagingMoves n) (createDir v (stagingRoot n) : Prog Disk CallError Unit) :=
  call_moves (fun t => .refl t)
    (fun _ _ _ h => ⟨untouched_of_get (putNew_eq_ok h).2 List.prefix_rfl, fun _ => .inr (by
      rw [(putNew_eq_ok h).2, if_pos rfl])⟩)
    fun _ t => .refl t

/-! ### Comparing an existing revision -/

theorem fileHolds_tree (v : Verdict) (p : Path) (b : Bytes) : Reads (fileHolds v p b) :=
  .bind (.attempt (readFile_tree v p)) fun r => by
    rcases r with e | content
    · exact .pure _
    · exact .pure _

theorem fileHolds_true {v : Verdict} {p : Path} {b : Bytes} (h : (fileHolds v p b t).1 = .ok true) :
    ∃ mode, t.get p = some (.file mode (.bytes b)) := by
  obtain ⟨r, hr, hf, -⟩ := bind_eq_ok h
  rcases r with e | content
  · cases hf
  · simp only [pure_apply, Outcome.ok.injEq, decide_eq_true_eq] at hf
    subst hf
    have hread : (readFile v p t).1 = .ok (.bytes b) := by
      unfold attempt at hr
      rcases hx : readFile v p t with ⟨_ | _ | _, _⟩ <;> rw [hx] at hr <;> cases hr
      rfl
    exact (readFile_ok hread).2

theorem fileHolds_pass {p : Path} {b b' : Bytes} {mode : ℕ} (h : t.get p = some (.file mode (.bytes b'))) :
    fileHolds .pass p b t = (.ok (decide (b' = b)), t) := by
  have hread : readFile .pass p t = (.ok (.bytes b'), t) := by simp [readFile, call, h]
  unfold fileHolds
  rw [bind_ok (r := t) (a := Except.ok (Content.bytes b'))]
  · simp
  · simp [attempt, hread]

theorem verifyExistingRevision_tree (faults : Faults) (root : Path) (c : ValidatedCredential) :
    Reads (verifyExistingRevision faults root c) :=
  .bind (fileHolds_tree _ _ _) fun _ => .ite (.fail _) (.bind (fileHolds_tree _ _ _) fun _ =>
    .ite (.fail _) (.bind (fileHolds_tree _ _ _) fun _ => .ite (.fail _) (.pure _)))

/-- An existing revision passes only with the bytes it holds. -/
theorem verifyExistingRevision_ok {c' : MaterialFile → Bytes} (hold : Holds t n c') {u : Unit}
    (h : (verifyExistingRevision faults (revisionRoot n) c t).1 = .ok u) : Holds t n c.file := by
  -- each of the three comparisons came out true on the unchanged tree
  have hstep : ∀ {f : MaterialFile} {v : Verdict} {b : Bytes} {x : StoreProg Unit} {t' : Disk}, t' = t →
      ((fileHolds v (revisionRoot n ++ [f.name]) b >>= fun ok => if ¬ ok = true then fail .revisionConflict else x)
        t').1 = .ok u → b = c' f ∧ (x t).1 = .ok u := by
    rintro f v b x t' rfl h
    obtain ⟨ok, hok, h, -⟩ := bind_eq_ok h
    rw [fileHolds_tree v _ _ t'] at h
    split at h
    · cases h
    · rename_i hne
      rw [not_not.1 hne] at hok
      obtain ⟨mode, hget⟩ := fileHolds_true hok
      rw [hold.file f] at hget
      simp only [Option.some.injEq, Node.file.injEq, Content.bytes.injEq] at hget
      exact ⟨hget.2.symm, h⟩
  obtain ⟨hca, h⟩ := hstep (f := .ca) rfl h
  obtain ⟨hcert, h⟩ := hstep (f := .certificate) rfl h
  obtain ⟨hkey, -⟩ := hstep (f := .privateKey) rfl h
  have heq : c.file = c' := by
    funext f
    cases f
    · exact hca
    · exact hcert
    · exact hkey
  rw [heq]
  exact hold

theorem verifyExistingRevision_errs (faults : Faults) (root : Path) (c : ValidatedCredential) :
    Errs (fun e => e = .unavailable ∨ e = .revisionConflict) (verifyExistingRevision faults root c) := by
  have hread : ∀ v p b, Errs (fun e => e = .unavailable ∨ e = .revisionConflict) (fileHolds v p b) := fun v p b =>
    .bind .attempt fun r => by
      rcases r with e | content
      · exact .pure _
      · exact .pure _
  have hite : ∀ {ok : Bool} {x : StoreProg Unit}, Errs (fun e => e = .unavailable ∨ e = .revisionConflict) x →
      Errs (fun e => e = .unavailable ∨ e = .revisionConflict) (if ¬ ok = true then fail .revisionConflict else x) := by
    intro ok x hx
    split
    · exact .fail (.inr rfl)
    · exact hx
  exact .bind (hread _ _ _) fun _ => hite (.bind (hread _ _ _) fun _ => hite (.bind (hread _ _ _) fun _ =>
    hite (.pure _)))

/-- Without failures an existing revision is compared byte by byte. -/
theorem verifyExistingRevision_pass {c' : MaterialFile → Bytes} (hold : Holds t n c') :
    (c' = c.file ∧ (verifyExistingRevision clean (revisionRoot n) c t).1 = .ok ()) ∨
    (c' ≠ c.file ∧ (verifyExistingRevision clean (revisionRoot n) c t).1 = .err .revisionConflict) := by
  have hfile : c' = c.file ↔ c' .ca = c.ca ∧ c' .certificate = c.certificate ∧ c' .privateKey = c.privateKey := by
    constructor
    · rintro rfl; exact ⟨rfl, rfl, rfl⟩
    · rintro ⟨h1, h2, h3⟩
      funext f
      cases f
      · exact h1
      · exact h2
      · exact h3
  simp only [verifyExistingRevision, clean_apply]
  rw [bind_ok (fileHolds_pass (hold.file .ca))]
  by_cases h1 : c' .ca = c.ca
  · rw [if_neg (by simp [h1]), bind_ok (fileHolds_pass (hold.file .certificate))]
    by_cases h2 : c' .certificate = c.certificate
    · rw [if_neg (by simp [h2]), bind_ok (fileHolds_pass (hold.file .privateKey))]
      by_cases h3 : c' .privateKey = c.privateKey
      · rw [if_neg (by simp [h3])]
        exact .inl ⟨hfile.2 ⟨h1, h2, h3⟩, rfl⟩
      · rw [if_pos (by simp [h3])]
        exact .inr ⟨fun h => h3 (hfile.1 h).2.2, rfl⟩
    · rw [if_pos (by simp [h2])]
      exact .inr ⟨fun h => h2 (hfile.1 h).2.1, rfl⟩
  · rw [if_pos (by simp [h1])]
    exact .inr ⟨fun h => h1 (hfile.1 h).1, rfl⟩

/-! ### Staging -/

theorem writeStaged_moves (faults : Faults) (staging : Path) (c : ValidatedCredential) :
    Moves (Untouched fun r => staging <+: r ∧ r ≠ staging) (writeStaged faults staging c) := by
  have hp : ∀ x : String, staging <+: staging ++ [x] ∧ staging ++ [x] ≠ staging := fun x => by simp
  exact Untouched.bind (writeSynced_moves _ _ _ (hp _)) fun _ => Untouched.bind (writeSynced_moves _ _ _ (hp _)) fun _ =>
    writeSynced_moves _ _ _ (hp _)

theorem writeStaged_ok {staging : Path} {u : Unit} (h : (writeStaged faults staging c t).1 = .ok u) (f : MaterialFile) :
    (writeStaged faults staging c t).2.get (staging ++ [f.name]) = some (.file 0o600 (.bytes (c.file f))) := by
  obtain ⟨_, h1, h, he⟩ := bind_eq_ok h
  obtain ⟨_, h2, h3, he'⟩ := bind_eq_ok h
  rw [writeStaged, he, he', (writeSynced_ok h3).2, (writeSynced_ok h2).2, (writeSynced_ok h1).2]
  cases f <;> simp [MaterialFile.name, ValidatedCredential.file]

/-- The part of `stageRevision` before its effect becomes visible. -/
def fillStaging (faults : Faults) (staging : Path) (c : ValidatedCredential) : StoreProg Unit := do
  writeStaged faults staging c
  syncDirectory (fun step => faults (.stagingWritten step)) staging

theorem fillStaging_moves (faults : Faults) (staging : Path) (c : ValidatedCredential) :
    Moves (Untouched fun r => staging <+: r ∧ r ≠ staging) (fillStaging faults staging c) :=
  Untouched.bind (writeStaged_moves _ _ _) fun _ => Untouched.of_tree (syncDirectory_tree _ _)

theorem fillStaging_ok {staging : Path} {u : Unit} (h : (fillStaging faults staging c t).1 = .ok u) (f : MaterialFile) :
    (fillStaging faults staging c t).2.get (staging ++ [f.name]) = some (.file 0o600 (.bytes (c.file f))) := by
  obtain ⟨_, h1, -, he⟩ := bind_eq_ok h
  rw [fillStaging, he, syncDirectory_tree]
  exact writeStaged_ok h1 f

theorem fillStaging_errs (faults : Faults) (staging : Path) (c : ValidatedCredential) :
    Unavailable (fillStaging faults staging c) :=
  .bind (.bind (writeSynced_errs _ _ _) fun _ => .bind (writeSynced_errs _ _ _) fun _ => writeSynced_errs _ _ _) fun _ =>
    syncDirectory_errs _ _

/-- The part of `stageRevision` from the rename on. -/
def placeRevision (faults : Faults) (staging target : Path) : StoreProg Unit := do
  unavailable (rename (faults .renameRevision) staging target)
  syncDirectory (fun step => faults (.revisionRenamed step)) credentialsRoot

theorem stageRevision_eq (faults : Faults) (staging target : Path) (c : ValidatedCredential) :
    stageRevision faults staging target c = fillStaging faults staging c >>= fun _ => placeRevision faults staging target := by
  simp only [stageRevision, fillStaging, placeRevision, bind_assoc]

theorem placeRevision_errs (faults : Faults) (staging target : Path) : Unavailable (placeRevision faults staging target) :=
  .bind (unavailable_errs _) fun _ => syncDirectory_errs _ _

variable (faults) in
/-- The rename of a filled staging directory either does nothing or puts the whole revision in place. -/
theorem placeRevision_cases (ht : Layout t) (hdir : t.get (stagingRoot n) = some .dir)
    (hfill : ∀ f : MaterialFile, t.get (stagingRoot n ++ [f.name]) = some (.file 0o600 (.bytes (c.file f)))) :
    InstallMoves n c.file t (placeRevision faults (stagingRoot n) (revisionRoot n) t).2 ∧
    ((placeRevision faults (stagingRoot n) (revisionRoot n) t).1 = .ok () →
      Holds (placeRevision faults (stagingRoot n) (revisionRoot n) t).2 n c.file) := by
  unfold placeRevision
  rcases rename_cases (faults .renameRevision) (stagingRoot n) (revisionRoot n) t with
    ⟨hsame, hno⟩ | ⟨-, hok, ⟨m, hm, hrep⟩, hget⟩
  · have hstay : InstallMoves n c.file t t := (StagingMoves.refl t).install ht
    rcases bind_cases (unavailable (rename (faults .renameRevision) (stagingRoot n) (revisionRoot n)))
      (fun _ => syncDirectory (fun step => faults (.revisionRenamed step)) credentialsRoot) t with
      ⟨u, h, -⟩ | ⟨e, -, hb⟩ | ⟨-, hb⟩
    · exact absurd (unavailable_eq_ok.1 h) hno
    · rw [hb, unavailable_snd, hsame]
      exact ⟨hstay, fun h => by cases h⟩
    · rw [hb, unavailable_snd, hsame]
      exact ⟨hstay, fun h => by cases h⟩
  · rw [bind_of_ok (a := ()) (unavailable_eq_ok.2 hok), unavailable_snd, syncDirectory_tree]
    set t' := (rename (faults .renameRevision) (stagingRoot n) (revisionRoot n) t).2
    -- a revision that stood there would have stopped the rename: it is never empty
    have hnone : t.get (revisionRoot n) = none := by
      by_contra hne
      obtain ⟨c', hc'⟩ := ht.revision n hne
      rw [replaceable_dir (x := MaterialFile.ca.name) (by rw [hc'.file]; simp)] at hrep
      cases hrep
    have hholds : Holds t' n c.file := by
      refine ⟨?_, fun f => ?_⟩
      · rw [hget, if_pos List.prefix_rfl]
        simpa using hdir
      · rw [hget, if_pos (List.prefix_append _ _), List.drop_left]
        exact hfill f
    refine ⟨⟨fun r h1 h2 => by rw [hget, if_neg h2, if_neg h1], .inl ?_, .inr ⟨hnone, hholds⟩⟩, fun _ => hholds⟩
    rw [hget, if_neg (by simpa using not_revision_prefix_staging n n []), if_pos List.prefix_rfl]

variable (faults) in
theorem fillStaging_staging (hdir : t.get (stagingRoot n) = some .dir) :
    StagingMoves n t (fillStaging faults (stagingRoot n) c t).2 ∧
    (fillStaging faults (stagingRoot n) c t).2.get (stagingRoot n) = some .dir := by
  have hmoves := fillStaging_moves faults (stagingRoot n) c t
  have hdir' := (hmoves _ fun h => h.2 rfl).trans hdir
  exact ⟨⟨hmoves.mono fun _ h => h.1, fun _ => .inr hdir'⟩, hdir'⟩

variable (faults) in
theorem stageRevision_cases (ht : Layout t) (hdir : t.get (stagingRoot n) = some .dir) :
    InstallMoves n c.file t (stageRevision faults (stagingRoot n) (revisionRoot n) c t).2 ∧
    ((stageRevision faults (stagingRoot n) (revisionRoot n) c t).1 = .ok () →
      Holds (stageRevision faults (stagingRoot n) (revisionRoot n) c t).2 n c.file) := by
  rw [stageRevision_eq]
  obtain ⟨hfill, hdir'⟩ := fillStaging_staging faults (c := c) hdir
  rcases bind_cases (fillStaging faults (stagingRoot n) c) (fun _ => placeRevision faults (stagingRoot n) (revisionRoot n)) t
    with ⟨u, h, hb⟩ | ⟨e, -, hb⟩ | ⟨-, hb⟩ <;> rw [hb]
  · obtain ⟨hplace, hok⟩ := placeRevision_cases faults ((hfill.install (c := c.file) ht).layout ht) hdir'
      (fillStaging_ok h)
    exact ⟨hfill.before hplace, hok⟩
  · exact ⟨hfill.install ht, fun h => by cases h⟩
  · exact ⟨hfill.install ht, fun h => by cases h⟩

theorem stageRevision_errs (faults : Faults) (staging target : Path) (c : ValidatedCredential) :
    Unavailable (stageRevision faults staging target c) := by
  rw [stageRevision_eq]
  exact .bind (fillStaging_errs _ _ _) fun _ => placeRevision_errs _ _ _

theorem cleanUp_staging (faults : Faults) (n : ℕ) : Moves (StagingMoves n) (cleanUp faults (stagingRoot n)) := by
  refine StagingMoves.bind (.of_reads (pathExists_tree _ _)) fun b => ?_
  cases b
  · exact .of_reads (.pure _)
  · exact StagingMoves.bind (.attempt (removeDirAll_staging _ n)) fun _ => .of_reads (.pure _)

/-- The removal of the staging directory swallows its own errors. -/
theorem cleanUp_errs (faults : Faults) (staging : Path) : Errs (fun _ => False) (cleanUp faults staging) := by
  refine .bind (fun t e h => ?_) fun b => ?_
  · unfold pathExists at h; split at h <;> cases h
  · cases b
    · exact .pure _
    · exact .bind .attempt fun _ => .pure _

/-! ### The whole installation -/

/-- An empty staging directory. -/
def clearStaging (faults : Faults) (n : ℕ) : StoreProg Unit := do
  removeStaleDirectory (faults .removeStaging) (fun step => faults (.stagingRemoved step)) (stagingRoot n)
  unavailable (createDir (faults .createStaging) (stagingRoot n))

/-- What remains of `installRevision` once the staging directory has been created. -/
def fillRevision (faults : Faults) (n : ℕ) (c : ValidatedCredential) : StoreProg Unit := do
  match ← attempt (stageRevision faults (stagingRoot n) (revisionRoot n) c) with
  | .ok () => pure ()
  | .error e => do
    cleanUp faults (stagingRoot n)
    fail e

theorem installRevision_eq (faults : Faults) (n : ℕ) (c : ValidatedCredential) : installRevision faults n c =
    pathExists (faults .targetExists) (revisionRoot n) >>= fun b =>
      if b = true then verifyExistingRevision faults (revisionRoot n) c
      else clearStaging faults n >>= fun _ => fillRevision faults n c := by
  simp only [installRevision, clearStaging, bind_assoc]
  rfl

theorem clearStaging_staging (faults : Faults) (n : ℕ) : Moves (StagingMoves n) (clearStaging faults n) :=
  StagingMoves.bind (StagingMoves.bind (.attempt (removeDirAll_staging _ n)) fun r => .of_reads (removed_tree _ _ r))
    fun _ => Moves.unavailable (createDir_staging _ n)

theorem clearStaging_errs (faults : Faults) (n : ℕ) : Unavailable (clearStaging faults n) :=
  .bind (.bind .attempt fun r => removed_errs _ _ r) fun _ => unavailable_errs _

theorem clearStaging_ok {u : Unit} (h : (clearStaging faults n t).1 = .ok u) :
    (clearStaging faults n t).2.get (stagingRoot n) = some .dir := by
  obtain ⟨_, -, h, he⟩ := bind_eq_ok h
  rw [clearStaging, he, unavailable_snd, (createDir_ok (unavailable_eq_ok.1 h)).2.2, if_pos rfl]

variable (faults) in
theorem fillRevision_cases (ht : Layout t) (hdir : t.get (stagingRoot n) = some .dir) :
    InstallMoves n c.file t (fillRevision faults n c t).2 ∧
    ((fillRevision faults n c t).1 = .ok () → Holds (fillRevision faults n c t).2 n c.file) ∧
    ∀ e, (fillRevision faults n c t).1 = .err e → e = .unavailable := by
  obtain ⟨hmoves, hok⟩ := stageRevision_cases faults (c := c) ht hdir
  unfold fillRevision
  rcases hx : stageRevision faults (stagingRoot n) (revisionRoot n) c t with ⟨u | e | _, t'⟩ <;> rw [hx] at hmoves hok
  · rw [bind_ok (r := t') (a := Except.ok ()) (by simp [attempt, hx])]
    exact ⟨hmoves, fun _ => hok rfl, fun e h => by cases h⟩
  · rw [bind_ok (r := t') (a := Except.error e) (by simp [attempt, hx])]
    have he : e = .unavailable := stageRevision_errs _ _ _ _ t e (by rw [hx])
    have hclean := (cleanUp_staging faults n t').after hmoves
    dsimp only
    rcases bind_cases (cleanUp faults (stagingRoot n)) (fun _ => (fail e : StoreProg Unit)) t' with
      ⟨_, -, h⟩ | ⟨e', he', h⟩ | ⟨-, h⟩ <;> rw [h]
    · refine ⟨hclean, fun h => (by cases h), fun e' h => ?_⟩
      cases h
      exact he
    · exact (cleanUp_errs _ _ _ _ he').elim
    · exact ⟨hclean, fun h => (by cases h), fun e h => (by cases h)⟩
  · rw [bind_crash (r := t') (by simp [attempt, hx])]
    exact ⟨hmoves, fun h => (by cases h), fun e h => (by cases h)⟩

theorem pathExists_true {ε : Type} {v : Verdict} {p : Path}
    (h : ((pathExists v p : Prog Disk ε Bool) t).1 = .ok true) : t.get p ≠ none := by
  unfold pathExists at h
  cases v
  · simp only [Outcome.ok.injEq] at h
    exact Option.isSome_iff_ne_none.1 h
  · cases h
  · cases h

theorem pathExists_errs (v : Verdict) (p : Path) {ε : Type} {P : ε → Prop} :
    Errs P (pathExists v p : Prog Disk ε Bool) := fun t e h => by
  unfold pathExists at h; split at h <;> cases h

variable (faults) in
/-- **What `installRevision` does**, whatever fails and wherever the machine stops. -/
theorem installRevision_cases (ht : Layout t) :
    InstallMoves n c.file t (installRevision faults n c t).2 ∧
    ((installRevision faults n c t).1 = .ok () → Holds (installRevision faults n c t).2 n c.file) ∧
    ∀ e, (installRevision faults n c t).1 = .err e → e = .unavailable ∨ e = .revisionConflict := by
  have hstay : InstallMoves n c.file t t := (StagingMoves.refl t).install ht
  rw [installRevision_eq]
  rcases bind_cases (pathExists (faults .targetExists) (revisionRoot n)) (fun b => if b = true then
      verifyExistingRevision faults (revisionRoot n) c
    else clearStaging faults n >>= fun _ => fillRevision faults n c) t with ⟨b, hb, h⟩ | ⟨e, he, h⟩ | ⟨-, h⟩ <;>
    rw [h, pathExists_tree]
  · cases b
    · rw [if_neg (by simp)]
      have hclear := clearStaging_staging faults n t
      rcases bind_cases (clearStaging faults n) (fun _ => fillRevision faults n c) t with
        ⟨_, hc, h⟩ | ⟨e, he, h⟩ | ⟨-, h⟩ <;> rw [h]
      · obtain ⟨hfill, hok, herr⟩ := fillRevision_cases faults (c := c)
          ((hclear.install (c := c.file) ht).layout ht) (clearStaging_ok hc)
        exact ⟨hclear.before hfill, hok, fun e he => .inl (herr e he)⟩
      · refine ⟨hclear.install ht, fun h => (by cases h), fun e' h => ?_⟩
        cases h
        exact .inl (clearStaging_errs _ _ _ _ he)
      · exact ⟨hclear.install ht, fun h => (by cases h), fun e h => (by cases h)⟩
    · rw [if_pos rfl, verifyExistingRevision_tree]
      obtain ⟨c', hc'⟩ := ht.revision n (pathExists_true hb)
      exact ⟨hstay, verifyExistingRevision_ok hc', fun e h => verifyExistingRevision_errs _ _ _ _ _ h⟩
  · exact absurd he (fun h => pathExists_errs (P := fun _ => False) _ _ _ _ h)
  · exact ⟨hstay, fun h => (by cases h), fun e h => (by cases h)⟩

/-! ### Installing without failures -/

theorem writeStaged_pass {staging : Path} (hdir : t.get staging = some .dir)
    (hempty : ∀ x : String, t.get (staging ++ [x]) = none) : (writeStaged clean staging c t).1 = .ok () := by
  -- each file is new, and writing it leaves the directory and the other names alone
  have hstep : ∀ {t' : Disk} {x : String} {b : Bytes}, t'.get staging = some .dir → t'.get (staging ++ [x]) = none →
      let w : StoreProg Unit := writeSynced (fun _ => .pass) (staging ++ [x]) (.bytes b) 0o600
      (w t').1 = .ok () ∧ (w t').2.get staging = some .dir ∧
        ∀ y, y ≠ x → (w t').2.get (staging ++ [y]) = t'.get (staging ++ [y]) := by
    intro t' x b hd hn w
    have hok : (w t').1 = .ok () := writeSynced_pass hn (by simpa using hd)
    have hget := (writeSynced_ok hok).2
    exact ⟨hok, by rw [hget, if_neg (by simp), hd], fun y hy => by rw [hget, if_neg (by simp [hy])]⟩
  obtain ⟨h1, hd1, hn1⟩ := hstep (b := c.ca) hdir (hempty MaterialFile.ca.name)
  obtain ⟨h2, hd2, hn2⟩ := hstep (b := c.certificate) hd1
    ((hn1 MaterialFile.certificate.name (by decide)).trans (hempty _))
  obtain ⟨h3, -, -⟩ := hstep (b := c.privateKey) hd2 ((hn2 MaterialFile.privateKey.name (by decide)).trans
    ((hn1 _ (by decide)).trans (hempty _)))
  simp only [writeStaged, clean_apply]
  rw [bind_of_ok h1, bind_of_ok h2]
  exact h3

theorem fillStaging_pass {staging : Path} (hdir : t.get staging = some .dir)
    (hempty : ∀ x : String, t.get (staging ++ [x]) = none) : (fillStaging clean staging c t).1 = .ok () := by
  have hok := writeStaged_pass (c := c) hdir hempty
  simp only [fillStaging, clean_apply]
  rw [bind_of_ok hok]
  refine syncDirectory_pass ?_
  rw [writeStaged_moves clean staging c t _ fun h => h.2 rfl, hdir]
  simp

theorem clearStaging_pass (ht : Layout t) (hcred : t.get credentialsRoot = some .dir) :
    (clearStaging clean n t).1 = .ok () ∧
    ∀ x : String, (clearStaging clean n t).2.get (stagingRoot n ++ [x]) = none := by
  obtain ⟨hrem, hgone⟩ := removeStaleDirectory_pass (t := t) (p := stagingRoot n) (by simp [stagingRoot]) (ht.staging n)
  have hstale : StagingMoves n t (removeStaleDirectory .pass (fun _ => .pass) (stagingRoot n) t).2 :=
    StagingMoves.bind (.attempt (removeDirAll_staging _ n)) (fun r => .of_reads (removed_tree _ _ r)) t
  have hpar : (removeStaleDirectory .pass (fun _ => .pass) (stagingRoot n) t).2.get (stagingRoot n).dropLast = some .dir := by
    have : (stagingRoot n).dropLast = credentialsRoot := by simp [stagingRoot]
    rw [this, hstale.outside _ (by simp [stagingRoot, credentialsRoot]), hcred]
  have hcreate := createDir_pass hgone hpar
  simp only [clearStaging, clean_apply]
  rw [bind_of_ok hrem]
  refine ⟨unavailable_eq_ok.2 hcreate, fun x => ?_⟩
  rw [unavailable_snd, (createDir_ok hcreate).2.2, if_neg (by simp)]
  exact FileTree.get_below _ (by rw [hgone]; simp) (List.prefix_append _ _) (by simp)

theorem placeRevision_pass (hcred : t.get credentialsRoot = some .dir) (hnew : t.get (revisionRoot n) = none)
    (hdir : t.get (stagingRoot n) = some .dir) :
    (placeRevision clean (stagingRoot n) (revisionRoot n) t).1 = .ok () := by
  have hpar : (revisionRoot n).dropLast = credentialsRoot := by simp [revisionRoot]
  have hrename : (rename (clean .renameRevision) (stagingRoot n) (revisionRoot n) t).1 = .ok () := by
    refine rename_pass hdir (by simp [stagingRoot]) (by simp [revisionRoot]) (by rw [hpar, hcred])
      (by rw [hpar]; simp [stagingRoot, credentialsRoot]) ?_
    simp [replaceable, hnew]
  rw [placeRevision, bind_of_ok (a := ()) (unavailable_eq_ok.2 hrename), unavailable_snd]
  refine syncDirectory_pass ?_
  rcases rename_cases (clean .renameRevision) (stagingRoot n) (revisionRoot n) t with ⟨h, -⟩ | ⟨-, -, -, h⟩ <;> rw [h]
  · rw [hcred]; simp
  · rw [if_neg (by simp [revisionRoot, credentialsRoot]), if_neg (by simp [stagingRoot, credentialsRoot]), hcred]; simp

/-- With nothing in its way a revision that does not stand yet is installed. -/
theorem installRevision_pass_new (ht : Layout t) (hcred : t.get credentialsRoot = some .dir)
    (hnew : t.get (revisionRoot n) = none) : (installRevision clean n c t).1 = .ok () := by
  rw [installRevision_eq, bind_ok (r := t) (a := false) (by simp [pathExists, hnew]), if_neg (by simp)]
  obtain ⟨hclear, hempty⟩ := clearStaging_pass (n := n) ht hcred
  have hmoves := clearStaging_staging clean n t
  have hdir := clearStaging_ok hclear
  rw [bind_of_ok hclear]
  have hfill := fillStaging_pass (c := c) hdir hempty
  obtain ⟨hmoves', hdir'⟩ := fillStaging_staging clean (c := c) hdir
  have hout : ∀ r, ¬ stagingRoot n <+: r →
      (fillStaging clean (stagingRoot n) c (clearStaging clean n t).2).2.get r = t.get r := fun r hr =>
    (hmoves'.outside r hr).trans (hmoves.outside r hr)
  have hplace := placeRevision_pass (n := n) (t := (fillStaging clean (stagingRoot n) c (clearStaging clean n t).2).2)
    (by rw [hout _ (by simp [stagingRoot, credentialsRoot]), hcred])
    (by rw [hout _ (by simpa using not_staging_prefix_revision n n []), hnew]) hdir'
  have hstage : (stageRevision clean (stagingRoot n) (revisionRoot n) c (clearStaging clean n t).2).1 = .ok () := by
    rw [stageRevision_eq, bind_of_ok hfill]
    exact hplace
  unfold fillRevision
  rw [bind_of_ok (a := Except.ok ())]
  · rfl
  · unfold attempt
    rcases hx : stageRevision clean (stagingRoot n) (revisionRoot n) c (clearStaging clean n t).2 with ⟨_ | _ | _, _⟩ <;>
      rw [hx] at hstage <;> cases hstage

/-- Without failures a revision that stands is accepted exactly with the bytes it holds. -/
theorem installRevision_pass_old {c' : MaterialFile → Bytes} (hold : Holds t n c') :
    (c' = c.file ∧ (installRevision clean n c t).1 = .ok ()) ∨
    (c' ≠ c.file ∧ (installRevision clean n c t).1 = .err .revisionConflict) := by
  rw [installRevision_eq, bind_ok (r := t) (a := true) (by simp [pathExists, hold.dir]), if_pos rfl]
  exact verifyExistingRevision_pass hold

theorem installRevision_old_tree {c' : MaterialFile → Bytes} (hold : Holds t n c') :
    (installRevision clean n c t).2 = t := by
  rw [installRevision_eq, bind_ok (r := t) (a := true) (by simp [pathExists, hold.dir]), if_pos rfl]
  exact verifyExistingRevision_tree _ _ _ t

end Install

end RssIncubator.Agent
