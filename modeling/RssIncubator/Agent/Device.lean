import RssIncubator.Agent.Decides
import RssIncubator.Agent.OpenSpec

/-!
# The device over its whole life

A device is a state directory and, while the agent runs, the state in memory.  Its life is a list of
actions: calls on the running agent, drops, and openings, each with its own pattern of failures and
crashes.  A crash ends the process; what it leaves is the directory.

`call_cases` is what one call does to both copies of the state, derived from the decision and from what
the store does.
-/

namespace RssIncubator.Agent

open Lib Prog

/-! ### Runs -/

/-- An agent in memory. -/
structure Running where
  state : StateV1
  retention : NonZeroU32

structure Device where
  tree : Disk
  agent : Option Running

inductive Action where
  | call (c : Call) (faults : Faults)
  | drop
  | openAgent (config : AgentConfig) (now : ℕ) (faults : Faults)

namespace Device

/-- A device that has never been started. -/
def fresh : Device := ⟨FileTree.empty, none⟩

/-- What is left of an agent after a call that ended in the given way. -/
def afterCall (a : Running) (r : Outcome AgentError Reply × World) : Option (Outcome AgentError Reply) × Device :=
  (some r.1, ⟨r.2.tree, match r.1 with
    | .crash => none
    | _ => some { a with state := r.2.state }⟩)

/-- What is left after an attempt to open. -/
def afterOpen (d : Device) (config : AgentConfig) (r : Outcome AgentError StateV1 × Disk) :
    Option (Outcome AgentError Reply) × Device :=
  match r.1 with
  | .ok s => (some (.ok .done), ⟨r.2, some ⟨s, config.commandRetentionSeconds⟩⟩)
  | .err e => (some (.err e), ⟨r.2, d.agent⟩)
  | .crash => (some .crash, ⟨r.2, none⟩)

theorem afterOpen_tree (d : Device) (config : AgentConfig) (r : Outcome AgentError StateV1 × Disk) :
    (d.afterOpen config r).2.tree = r.2 := by
  obtain ⟨_ | _ | _, t⟩ := r <;> rfl

/-- One action: its answer, if there is someone to answer, and the device after it. -/
def step (pki : Pki) (d : Device) : Action → Option (Outcome AgentError Reply) × Device
  | .call c faults =>
    match d.agent with
    | none => (none, d)
    | some a => afterCall a (perform pki a.retention faults c ⟨d.tree, a.state⟩)
  | .drop => (none, ⟨d.tree, none⟩)
  | .openAgent config now faults =>
    afterOpen d config (Agent.openAgent pki faults d.agent.isSome config now d.tree)

/-- The device after a list of actions. -/
def run (pki : Pki) (d : Device) : List Action → Device
  | [] => d
  | a :: actions => run pki (d.step pki a).2 actions

theorem run_append (pki : Pki) (d : Device) (l l' : List Action) : d.run pki (l ++ l') = (d.run pki l).run pki l' := by
  induction l generalizing d with
  | nil => rfl
  | cons a l ih => exact ih _

theorem run_concat (pki : Pki) (d : Device) (l : List Action) (action : Action) :
    d.run pki (l ++ [action]) = ((d.run pki l).step pki action).2 := run_append ..

/-- An invariant of every step is an invariant of every run. -/
theorem run_induction {pki : Pki} {P : Device → Prop} (hstep : ∀ d a, P d → P (d.step pki a).2) :
    ∀ (l : List Action) (d : Device), P d → P (d.run pki l) := by
  intro l
  induction l with
  | nil => exact fun d h => h
  | cons a l ih => exact fun d h => ih _ (hstep d a h)

end Device

/-! ### One call -/

/-- The candidate of a decision, with the answer that follows it. -/
def Decision.candidate : Decision → Option (StateV1 × Reply)
  | .keep _ => none
  | .store c reply => some (c, reply)
  | .install _ _ c reply => some (c, reply)

/-- The revision a decision installs first. -/
def Decision.installs : Decision → Option (ℕ × ValidatedCredential)
  | .install n c _ _ => some (n, c)
  | _ => none

/-- How a call ends: both copies of the state are as before, or the candidate stands on disk.  In the
second case memory follows unless the last sync failed or the machine stopped. -/
inductive CallEnd (faults : Faults) (p : Plan) (w : World) : Outcome AgentError Reply → World → Prop
  | kept {o w'} (hstate : w'.state = w.state) (hm : manifest w'.tree = manifest w.tree)
      (hok : ∀ reply, o = .ok reply → p = .ok (.keep reply))
      (herr : ∀ e, o = .err e → p = .error e ∨ ∃ dec c, p = .ok dec ∧ dec.candidate = some c ∧
        (c.1.validate ≠ .ok () ∧ e = .store .invalidState ∨ e = .store .unavailable ∨
          dec.installs ≠ none ∧ e = .store .revisionConflict)) : CallEnd faults p w o w'
  | committed {dec c reply o w'} (hp : p = .ok dec) (hc : dec.candidate = some (c, reply)) (hv : c.validate = .ok ())
      (hm : manifest w'.tree = some c) (hinst : ∀ n cred, dec.installs = some (n, cred) → Holds w'.tree n cred.file)
      (ho : o = .ok reply ∧ w'.state = c ∨
        o = .err (.store .unavailable) ∧ w'.state = w.state ∧ faults.Unsynced ∨
        o = .crash ∧ w'.state = w.state) : CallEnd faults p w o w'

section Call

variable {faults : Faults} {w : World} {candidate : StateV1} {reply : Reply}

theorem persistCandidate_invalid (h : candidate.validate ≠ .ok ()) :
    persistCandidate faults candidate w = (.err (.store .invalidState), w) := by
  unfold persistCandidate
  rw [checked_bind]
  rcases hv : candidate.validate with e | u
  · rw [StateV1.onlyInvalid_validate candidate e hv]
  · cases u; exact absurd hv h

theorem persistCandidate_valid (h : candidate.validate = .ok ()) :
    persistCandidate faults candidate w = match persist faults candidate w.tree with
      | (.ok (), t) => (.ok (), ⟨t, candidate⟩)
      | (.err e, t) => (.err (.store e), ⟨t, w.state⟩)
      | (.crash, t) => (.crash, ⟨t, w.state⟩) := by
  unfold persistCandidate
  rw [checked_bind, h]
  simp only [onDisk, bind_apply, zoom, mapErr]
  rcases persist faults candidate w.tree with ⟨_ | _ | _, t⟩ <;> rfl

/-- The end of a decision to persist a candidate. -/
theorem persist_end (ht : Layout w.tree) {p : Plan} {dec : Decision} (hp : p = .ok dec)
    (hc : dec.candidate = some (candidate, reply)) {w₀ : World} (hstate : w.state = w₀.state)
    (hman : manifest w.tree = manifest w₀.tree)
    (hinst : ∀ n cred, dec.installs = some (n, cred) → Holds w.tree n cred.file) :
    CallEnd faults p w₀ ((persistCandidate faults candidate >>= fun _ => pure reply) w).1
      ((persistCandidate faults candidate >>= fun _ => pure reply) w).2 := by
  by_cases hv : candidate.validate = .ok ()
  · obtain ⟨hend, -, -⟩ := persist_cases faults (s := candidate) ht
    have hholds : ∀ n cred, dec.installs = some (n, cred) → Holds (persist faults candidate w.tree).2 n cred.file :=
      fun n cred h => persist_holds ht (hinst n cred h)
    rw [bind_apply, persistCandidate_valid hv]
    rcases hr : persist faults candidate w.tree with ⟨o, t⟩
    rw [hr] at hend hholds
    cases hend with
    | unavailable h =>
      exact .kept hstate (h.trans hman) (fun _ h => by cases h) fun e he => .inr ⟨dec, _, hp, hc, .inr (.inl (by cases he; rfl))⟩
    | crash h => exact .kept hstate (h.trans hman) (fun _ h => by cases h) fun e he => by cases he
    | done h _ => exact .committed hp hc hv h hholds (.inl ⟨rfl, rfl⟩)
    | unsynced h hs => exact .committed hp hc hv h hholds (.inr (.inl ⟨rfl, hstate, hs⟩))
    | crashUnsynced h _ => exact .committed hp hc hv h hholds (.inr (.inr ⟨rfl, hstate⟩))
  · rw [bind_err (persistCandidate_invalid hv)]
    exact .kept hstate hman (fun _ h => by cases h) fun e he => .inr ⟨dec, _, hp, hc, .inl ⟨hv, by cases he; rfl⟩⟩

variable (faults candidate) in
theorem persistCandidate_layout (ht : Layout w.tree) : Layout (persistCandidate faults candidate w).2.tree ∧
    ∀ n c, Holds w.tree n c → Holds (persistCandidate faults candidate w).2.tree n c := by
  by_cases hv : candidate.validate = .ok ()
  · obtain ⟨-, hl, -⟩ := persist_cases faults (s := candidate) ht
    have hh : ∀ n c, Holds w.tree n c → Holds (persist faults candidate w.tree).2 n c := fun n c => persist_holds ht
    rw [persistCandidate_valid hv]
    rcases hr : persist faults candidate w.tree with ⟨_ | _ | _, t⟩ <;> rw [hr] at hl hh
    · exact ⟨hl, hh⟩
    · exact ⟨hl, hh⟩
    · exact ⟨hl, hh⟩
  · rw [persistCandidate_invalid hv]
    exact ⟨ht, fun _ _ => id⟩

variable (faults candidate) in
/-- Persisting touches the two manifests alone. -/
theorem persistCandidate_outside (ht : Layout w.tree) {r : Path} (htemp : ¬ temporaryPath <+: r)
    (hstate : ¬ statePath <+: r) : (persistCandidate faults candidate w).2.tree.get r = w.tree.get r := by
  by_cases hv : candidate.validate = .ok ()
  · obtain ⟨-, -, hsame⟩ := persist_cases faults (s := candidate) ht
    have hr := hsame r htemp hstate
    rw [persistCandidate_valid hv]
    rcases hp : persist faults candidate w.tree with ⟨_ | _ | _, t⟩ <;> rw [hp] at hr
    · exact hr
    · exact hr
    · exact hr
  · rw [persistCandidate_invalid hv]

theorem bind_pure_snd {α β : Type} (x : AgentProg α) (b : β) (w : World) :
    ((x >>= fun _ => pure b) w).2 = (x w).2 := by
  rcases bind_cases x (fun _ => (pure b : AgentProg β)) w with ⟨_, -, h⟩ | ⟨_, -, h⟩ | ⟨-, h⟩ <;> rw [h]
  rfl

theorem onDisk_apply {α : Type} (x : StoreProg α) (w : World) : onDisk x w =
    ((mapErr AgentError.store x w.tree).1, ⟨(x w.tree).2, w.state⟩) := by
  unfold onDisk zoom; rw [mapErr_snd]

/-- **What one call does**: to the two copies of the state, to the layout and to the revisions. -/
theorem execute_cases (ht : Layout w.tree) (p : Plan) :
    CallEnd faults p w (p.execute faults w).1 (p.execute faults w).2 ∧ Layout (p.execute faults w).2.tree ∧
    ∀ n c, Holds w.tree n c → Holds (p.execute faults w).2.tree n c := by
  rcases p with e | (reply | ⟨candidate, reply⟩ | ⟨n, cred, candidate, reply⟩)
  · exact ⟨.kept rfl rfl (fun _ h => by cases h) (fun e' h => .inl (by cases h; rfl)), ht, fun _ _ => id⟩
  · exact ⟨.kept rfl rfl (fun _ h => by cases h; rfl) (fun e' h => by cases h), ht, fun _ _ => id⟩
  · simp only [Plan.execute]
    refine ⟨persist_end ht rfl rfl rfl rfl fun n cred h => (by cases h), ?_⟩
    rw [bind_pure_snd]
    exact persistCandidate_layout faults candidate ht
  · simp only [Plan.execute]
    obtain ⟨hmoves, hok, herr⟩ := installRevision_cases faults (n := n) (c := cred) ht
    have hlayout := hmoves.layout ht
    rcases bind_cases (onDisk (installRevision faults n cred))
      (fun _ => persistCandidate faults candidate >>= fun _ => pure reply) w with ⟨u, h, hb⟩ | ⟨e, h, hb⟩ | ⟨h, hb⟩ <;>
      rw [hb] <;> rw [onDisk_apply] at h ⊢
    · rw [mapErr_eq_ok] at h
      refine ⟨persist_end hlayout rfl rfl rfl hmoves.manifest fun n' c' h' => ?_, ?_⟩
      · cases h'
        exact hok h
      · rw [bind_pure_snd]
        obtain ⟨hl, hh⟩ := persistCandidate_layout faults candidate
          (w := ⟨(installRevision faults n cred w.tree).2, w.state⟩) hlayout
        exact ⟨hl, fun n c h => hh n c (hmoves.holds h)⟩
    · have he : ∃ e', (installRevision faults n cred w.tree).1 = .err e' ∧ e = .store e' := by
        unfold mapErr at h
        rcases hx : installRevision faults n cred w.tree with ⟨_ | e' | _, t⟩ <;> rw [hx] at h <;> cases h
        exact ⟨e', rfl, rfl⟩
      obtain ⟨e', he', rfl⟩ := he
      refine ⟨.kept rfl hmoves.manifest (fun _ h => by cases h) fun e'' he'' => .inr ⟨_, _, rfl, rfl, ?_⟩, hlayout,
        fun n c h => hmoves.holds h⟩
      cases he''
      rcases herr e' he' with rfl | rfl
      · exact .inr (.inl rfl)
      · exact .inr (.inr ⟨by simp [Decision.installs], rfl⟩)
    · exact ⟨.kept rfl hmoves.manifest (fun _ h => by cases h) (fun e he => by cases he), hlayout,
        fun n c h => hmoves.holds h⟩

variable (faults) in
theorem perform_cases (pki : Pki) (retention : NonZeroU32) (ht : Layout w.tree) (call : Call) :
    CallEnd faults (plan pki retention w.state call) w (perform pki retention faults call w).1
      (perform pki retention faults call w).2 ∧
    Layout (perform pki retention faults call w).2.tree ∧
    ∀ n c, Holds w.tree n c → Holds (perform pki retention faults call w).2.tree n c := by
  rw [perform_eq]
  exact execute_cases ht _

/-- A revision directory that appears in a call is the one its decision installs. -/
theorem execute_revision (ht : Layout w.tree) {p : Plan} {n : ℕ} (hnone : w.tree.get (revisionRoot n) = none)
    (hsome : (p.execute faults w).2.tree.get (revisionRoot n) ≠ none) :
    ∃ cred c reply, p = .ok (.install n cred c reply) ∧ Holds (p.execute faults w).2.tree n cred.file := by
  have hpersist : ∀ (c : StateV1) (w' : World), Layout w'.tree →
      (persistCandidate faults c w').2.tree.get (revisionRoot n) = w'.tree.get (revisionRoot n) := fun c w' ht' =>
    persistCandidate_outside faults c ht' (not_prefix_credentials (by decide)) (not_prefix_credentials (by decide))
  rcases p with e | (reply | ⟨c, reply⟩ | ⟨m, cred, c, reply⟩)
  · exact absurd hnone hsome
  · exact absurd hnone hsome
  · simp only [Plan.execute] at hsome
    rw [bind_pure_snd, hpersist c w ht] at hsome
    exact absurd hnone hsome
  · obtain ⟨hmoves, -, -⟩ := installRevision_cases faults (n := m) (c := cred) ht
    have hlayout := hmoves.layout ht
    -- the manifest comes after the revision and leaves it alone
    have hend : ∀ {w' : World}, w'.tree = (installRevision faults m cred w.tree).2 →
        w'.tree.get (revisionRoot n) ≠ none → n = m ∧ Holds w'.tree n cred.file := by
      intro w' hw hne
      rw [hw] at hne ⊢
      by_cases hnm : n = m
      · subst hnm
        refine ⟨rfl, ?_⟩
        rcases hmoves.revision with hsame | ⟨-, hold⟩
        · rw [hsame _ List.prefix_rfl] at hne
          exact absurd hnone hne
        · exact hold
      · have hout := hmoves.outside (revisionRoot n)
          (by simpa using not_staging_prefix_revision m n [])
          (by simpa using not_revision_prefix_revision (Ne.symm hnm) [])
        rw [hout] at hne
        exact absurd hnone hne
    simp only [Plan.execute] at hsome ⊢
    rcases bind_cases (onDisk (installRevision faults m cred))
      (fun _ => persistCandidate faults c >>= fun _ => pure reply) w with ⟨u, -, hb⟩ | ⟨e, -, hb⟩ | ⟨-, hb⟩ <;>
      rw [hb] at hsome ⊢
    · rw [onDisk_apply] at hsome ⊢
      rw [bind_pure_snd] at hsome ⊢
      rw [hpersist c _ hlayout] at hsome
      obtain ⟨rfl, hold⟩ := hend rfl hsome
      exact ⟨cred, c, reply, rfl, (persistCandidate_layout faults c
        (w := ⟨(installRevision faults n cred w.tree).2, w.state⟩) hlayout).2 _ _ hold⟩
    · rw [onDisk_apply] at hsome ⊢
      obtain ⟨rfl, hold⟩ := hend rfl hsome
      exact ⟨cred, c, reply, rfl, hold⟩
    · rw [onDisk_apply] at hsome ⊢
      obtain ⟨rfl, hold⟩ := hend rfl hsome
      exact ⟨cred, c, reply, rfl, hold⟩

/-! ### Calls without failures -/

variable (faults) in
theorem execute_store_invalid (hv : candidate.validate ≠ .ok ()) :
    Plan.execute faults (.ok (.store candidate reply)) w = (.err (.store .invalidState), w) := by
  simp only [Plan.execute]
  rw [bind_err (persistCandidate_invalid hv)]

theorem persistCandidate_pass (ht : Layout w.tree) (hv : candidate.validate = .ok ()) :
    (persistCandidate clean candidate w).1 = .ok () := by
  have hp := persist_pass (s := candidate) ht
  rw [persistCandidate_valid hv]
  generalize persist clean candidate w.tree = r at hp ⊢
  obtain ⟨o, t⟩ := r
  cases hp
  rfl

theorem execute_store_pass (ht : Layout w.tree) (hv : candidate.validate = .ok ()) :
    (Plan.execute clean (.ok (.store candidate reply)) w).1 = .ok reply := by
  simp only [Plan.execute]
  rw [bind_of_ok (persistCandidate_pass ht hv)]
  rfl

variable {n : ℕ} {cred : ValidatedCredential}

/-- Once its revision is installed a command is committed. -/
theorem execute_install_pass (ht : Layout w.tree) (hv : candidate.validate = .ok ())
    (hinst : (installRevision clean n cred w.tree).1 = .ok ()) :
    (Plan.execute clean (.ok (.install n cred candidate reply)) w).1 = .ok reply := by
  have hdisk : (onDisk (installRevision clean n cred) w).1 = .ok () := by
    rw [onDisk_apply]
    exact mapErr_eq_ok.2 hinst
  obtain ⟨hmoves, -, -⟩ := installRevision_cases clean (n := n) (c := cred) ht
  simp only [Plan.execute]
  rw [bind_of_ok hdisk, bind_of_ok (persistCandidate_pass ?_ hv)]
  · rfl
  · rw [onDisk_apply]
    exact hmoves.layout ht

/-- A revision that cannot be installed ends the call. -/
theorem execute_install_err {e : StoreError} (hinst : (installRevision faults n cred w.tree).1 = .err e) :
    Plan.execute faults (.ok (.install n cred candidate reply)) w =
      (.err (.store e), ⟨(installRevision faults n cred w.tree).2, w.state⟩) := by
  have hdisk : onDisk (installRevision faults n cred) w =
      (.err (.store e), ⟨(installRevision faults n cred w.tree).2, w.state⟩) := by
    rw [onDisk_apply, mapErr]
    generalize installRevision faults n cred w.tree = r at hinst ⊢
    obtain ⟨o, t⟩ := r
    cases hinst
    rfl
  simp only [Plan.execute]
  rw [bind_err hdisk]

end Call

end RssIncubator.Agent
