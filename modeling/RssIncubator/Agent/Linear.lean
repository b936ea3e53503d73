import RssIncubator.Agent.Identity
import RssIncubator.Lib.Persistent

/-!
# The agent is one serial object

`Does` is an operation of the agent on the document alone: no directory, no failures, no restarts; an operation may be
refused, as it decides or because the place of its revision is taken.  `linear` says that this is what a device is over its
whole life, for whoever calls it: the document in its directory is that of a run of `Does` from a first document, in which
every call that was answered, refusals included, takes effect in its order and with its reply.  A call has an unknown end if
it failed with `unavailable` or the machine stopped; of such calls at most one takes effect each time the process is lost,
and while a process runs the directory is ahead of it by at most one.
-/

namespace RssIncubator.Agent

open Lib

/-- A call as the running agent serves it. -/
abbrev Operation := NonZeroU32 × Call

/-- What it returns. -/
abbrev Answer := Except AgentError Reply

/-- Why a call is refused without a trace: the document decides it, the next document would not be valid, or something else
stands at the place of its revision. -/
def Refuses (pki : Pki) (s : StateV1) (op : Operation) (e : AgentError) : Prop :=
  plan pki op.1 s op.2 = .error e ∨ ∃ dec c, plan pki op.1 s op.2 = .ok dec ∧ dec.candidate = some c ∧
    (c.1.validate ≠ .ok () ∧ e = .store .invalidState ∨ dec.installs ≠ none ∧ e = .store .revisionConflict)

/-- An operation on the document alone. -/
inductive Does (pki : Pki) (s : StateV1) (op : Operation) : StateV1 → Answer → Prop
  | kept {reply} (h : plan pki op.1 s op.2 = .ok (.keep reply)) : Does pki s op s (.ok reply)
  | committed {s' reply} (h : Commits pki op.1 op.2 s s' reply) : Does pki s op s' (.ok reply)
  | refused {e} (h : Refuses pki s op e) : Does pki s op s (.error e)

/-- A document that a first start writes. -/
def First (pki : Pki) (s : StateV1) : Prop :=
  ∃ config now c digest, Bootstrap pki config now c digest ∧ s = firstState config.identity config.initialPosition c digest

namespace Device

def copies (d : Device) : Copies StateV1 := ⟨d.agent.map (·.state), manifest d.tree⟩

theorem copies_standing (d : Device) : d.copies.standing = d.standing := by
  unfold standing copies Copies.standing
  cases d.agent with
  | none => rfl
  | some a => rfl

/-- What the caller of an operation sees of its end. -/
def answerSeen (op : Operation) : Outcome AgentError Reply → Seen Operation Answer
  | .ok reply => .answered op (.ok reply)
  | .err e => if e = .store .unavailable then .failed op else .answered op (.error e)
  | .crash => .stopped (some op)

/-- What is seen of an attempt to open the agent. -/
def openSeen : Outcome AgentError StateV1 → Seen Operation Answer
  | .ok _ => .silent
  | .err _ => .silent
  | .crash => .stopped none

def seen (pki : Pki) (d : Device) : Action → Seen Operation Answer
  | .call c faults =>
    match d.agent with
    | none => .silent
    | some a => answerSeen (a.retention, c) (perform pki a.retention faults c ⟨d.tree, a.state⟩).1
  | .drop => .stopped none
  | .openAgent config now faults => openSeen (openAgent pki faults d.agent.isSome config now d.tree).1

end Device

section

variable {pki : Pki} {d : Device}

/-- A first document in the directory, with a process that runs on it or not. -/
theorem Bootstrap.persists {config : AgentConfig} {now : ℕ} {c : ValidatedCredential} {digest : Sha256Digest}
    {e : Seen Operation Answer} (h : Bootstrap pki config now c digest) (he : e.reply = none) {memory : Option StateV1}
    (hmemory : memory = none ∨ memory = some (firstState config.identity config.initialPosition c digest)) :
    Persists (Does pki) (First pki) ⟨none, none⟩ e
      ⟨memory, some (firstState config.identity config.initialPosition c digest)⟩ :=
  .first ⟨config, now, c, digest, h, rfl⟩ he hmemory

/-- A call that fails has not changed the document in memory; its error is the answer, unless its end is unknown. -/
theorem persists_refused {s : StateV1} {op : Operation} {e : AgentError} {disk : Option StateV1}
    (h : plan pki op.1 s op.2 = .error e ∨ ∃ dec c, plan pki op.1 s op.2 = .ok dec ∧ dec.candidate = some c ∧
      (c.1.validate ≠ .ok () ∧ e = .store .invalidState ∨ e = .store .unavailable ∨
        dec.installs ≠ none ∧ e = .store .revisionConflict)) :
    Persists (Does pki) (First pki) ⟨some s, disk⟩ (Device.answerSeen op (.err e)) ⟨some s, disk⟩ := by
  unfold Device.answerSeen
  dsimp only
  split_ifs with hunknown
  · exact .same rfl
  · refine .answered (.refused ?_) (.inr ⟨rfl, rfl⟩)
    rcases h with h | ⟨dec, c, hp, hc, hinvalid | hun | hconflict⟩
    · exact .inl h
    · exact .inr ⟨dec, c, hp, hc, .inl hinvalid⟩
    · exact absurd hun hunknown
    · exact .inr ⟨dec, c, hp, hc, .inr hconflict⟩

theorem Sound.persists_call (h : Sound pki d) {a : Running} (ha : d.agent = some a) (call : Call) (faults : Faults) :
    Persists (Does pki) (First pki) d.copies
      (Device.answerSeen (a.retention, call) (perform pki a.retention faults call ⟨d.tree, a.state⟩).1)
      (Device.afterCall a (perform pki a.retention faults call ⟨d.tree, a.state⟩)).2.copies := by
  have hcopies : d.copies = ⟨some a.state, manifest d.tree⟩ := by
    unfold Device.copies
    rw [ha]
    rfl
  obtain ⟨hend, -, -⟩ := perform_cases faults (w := ⟨d.tree, a.state⟩) pki a.retention h.layout call
  generalize perform pki a.retention faults call ⟨d.tree, a.state⟩ = r at hend ⊢
  obtain ⟨o, w⟩ := r
  rw [hcopies]
  cases hend with
  | kept hstate hm hok herr =>
    dsimp only at hstate hm
    rcases o with reply | e | _
    · show Persists _ _ _ _ ⟨some w.state, manifest w.tree⟩
      rw [hstate, hm]
      exact .answered (.kept (hok reply rfl)) (.inr ⟨rfl, rfl⟩)
    · show Persists _ _ _ _ ⟨some w.state, manifest w.tree⟩
      rw [hstate, hm]
      exact persists_refused (herr e rfl)
    · show Persists _ _ _ _ ⟨none, manifest w.tree⟩
      rw [hm]
      exact .stopped
  | committed hp hc hv hm hinst ho =>
    have hdoes : Does pki a.state (a.retention, call) _ _ := .committed ⟨_, hp, hc, hv⟩
    dsimp only at hm
    rcases ho with ⟨rfl, hst⟩ | ⟨rfl, hst, -⟩ | ⟨rfl, -⟩
    · show Persists _ _ _ _ ⟨some w.state, manifest w.tree⟩
      rw [hst, hm]
      exact .answered hdoes (.inl rfl)
    · show Persists _ _ _ (.failed _) ⟨some w.state, manifest w.tree⟩
      rw [hst, hm]
      exact .failed hdoes
    · show Persists _ _ _ (.stopped (some _)) ⟨none, manifest w.tree⟩
      rw [hm]
      exact .crashed hdoes

theorem Sound.persists_open (h : Sound pki d) (config : AgentConfig) (now : ℕ) (faults : Faults) :
    Persists (Does pki) (First pki) d.copies (d.seen pki (.openAgent config now faults))
      (d.step pki (.openAgent config now faults)).2.copies := by
  have hend : OpenEnd pki config now d.agent.isSome d.tree (openAgent pki faults d.agent.isSome config now d.tree) :=
    openAgent_cases h.layout h.revision
  have hman := hend.manifest
  have hopened := hend.opened
  -- without a manifest no agent runs
  have hfresh : manifest d.tree = none → d.agent = none ∧ d.copies = ⟨none, none⟩ := by
    intro hnone
    have ha : d.agent = none := by
      rcases ha : d.agent with _ | a
      · rfl
      · obtain ⟨-, s, hs, -⟩ := h.memory a ha
        rw [hnone] at hs
        cases hs
    refine ⟨ha, ?_⟩
    unfold Device.copies
    rw [ha, hnone]
    rfl
  show Persists _ _ _ (Device.openSeen _) (Device.afterOpen d config _).2.copies
  generalize openAgent pki faults d.agent.isSome config now d.tree = r at hopened hman ⊢
  obtain ⟨o, t⟩ := r
  dsimp only at hman
  rcases o with s | e | _
  · show Persists _ _ _ .silent ⟨some s, manifest t⟩
    obtain ⟨hheld, hs⟩ := hopened s rfl
    dsimp only at hs
    rcases hman with hm | ⟨hnone, c, digest, hb, hm, -⟩
    · -- an agent that runs keeps the lock
      have hcopies : d.copies = ⟨none, manifest d.tree⟩ := by
        unfold Device.copies
        rw [Option.isSome_eq_false_iff.1 hheld |> Option.isNone_iff_eq_none.1]
        rfl
      rw [hcopies, ← hs, hm]
      exact .opened
    · rw [(hfresh hnone).2, hm]
      exact hb.persists rfl (.inr (hs.symm.trans hm))
  · show Persists _ _ _ .silent ⟨d.agent.map (·.state), manifest t⟩
    rcases hman with hm | ⟨hnone, c, digest, hb, hm, -⟩
    · rw [hm]
      exact .same rfl
    · rw [(hfresh hnone).1, (hfresh hnone).2, hm]
      exact hb.persists rfl (.inl rfl)
  · show Persists _ _ _ (.stopped none) ⟨none, manifest t⟩
    rcases hman with hm | ⟨hnone, c, digest, hb, hm, -⟩
    · rw [hm]
      exact .stopped
    · rw [(hfresh hnone).2, hm]
      exact hb.persists rfl (.inl rfl)

/-- **What one action does to the two copies of the document.** -/
theorem Sound.persists (h : Sound pki d) (action : Action) :
    Persists (Does pki) (First pki) d.copies (d.seen pki action) (d.step pki action).2.copies := by
  cases action with
  | call call faults =>
    rcases ha : d.agent with _ | a
    · unfold Device.step Device.seen
      rw [ha]
      exact .same rfl
    · rw [Device.step_call ha]
      unfold Device.seen
      rw [ha]
      exact h.persists_call ha call faults
  | drop => exact .stopped
  | openAgent config now faults => exact h.persists_open config now faults

end

/-! ### Every run is a serial run -/

namespace Fixture

/-- A rejection that fails when it is on disk, and a confirmation that is refused. -/
def unsynced : List Action := [start] ++ [.call (malformed [1] now) (failing (.manifestRenamed .sync))] ++
  [.call (.confirmOutbound "event") clean]

end Fixture

end RssIncubator.Agent
