import RssIncubator.Agent.Operations
import RssIncubator.Agent.Verify

/-!
# What an operation decides

Every operation first decides, from its arguments and the state in memory alone, and then carries the
decision out: it answers, persists a candidate, or installs a revision and then persists a candidate.
`plan` is that decision and `perform_eq` says that the operations of the source are its execution.
`plan_cases` lists once all that can be decided, with the guards passed on the way.
-/

namespace RssIncubator.Agent

open Lib Prog

/-- The operations of the agent, with the catalog a command finds. -/
inductive Call where
  | applyCommand (topic : String) (command : DeviceCommand) (now : ℕ) (catalog : ArtifactCatalog)
  | rejectMalformedDelivery (topic commandId : String) (payload : Bytes) (now : ℕ)
  | confirmOutbound (event : String)
  | markCurrentCredentialConnected (revision : NonZeroU64)
  | markPendingInboundSettled (token : String)
  | markPendingInboundAbsent

inductive Reply where
  | outcome (o : ApplyOutcome)
  | done
  deriving DecidableEq

def perform (pki : Pki) (retention : NonZeroU32) (faults : Faults) : Call → AgentProg Reply
  | .applyCommand topic command now catalog =>
    applyCommand pki retention faults topic command now catalog >>= fun o => pure (.outcome o)
  | .rejectMalformedDelivery topic commandId payload now =>
    rejectMalformedDelivery retention faults topic commandId payload now >>= fun o => pure (.outcome o)
  | .confirmOutbound event => confirmOutbound faults event >>= fun _ => pure .done
  | .markCurrentCredentialConnected revision =>
    markCurrentCredentialConnected faults revision >>= fun _ => pure .done
  | .markPendingInboundSettled token => markPendingInboundSettled faults token >>= fun _ => pure .done
  | .markPendingInboundAbsent => markPendingInboundAbsent faults >>= fun _ => pure .done

/-! ### Decisions -/

inductive Decision where
  | keep (reply : Reply)
  | store (candidate : StateV1) (reply : Reply)
  | install (revision : ℕ) (credential : ValidatedCredential) (candidate : StateV1) (reply : Reply)
  deriving DecidableEq

abbrev Plan := Except AgentError Decision

def Plan.execute (faults : Faults) : Plan → AgentProg Reply
  | .error e => fail e
  | .ok (.keep reply) => pure reply
  | .ok (.store candidate reply) => do
    persistCandidate faults candidate
    pure reply
  | .ok (.install revision credential candidate reply) => do
    onDisk (installRevision faults revision credential)
    persistCandidate faults candidate
    pure reply

section Plans

variable (pki : Pki) (retention : NonZeroU32)

/-- What is recorded of an accepted command. -/
def acceptedCommand (command : DeviceCommand) (artifact : ResolvedArtifact) (revision : NonZeroU64) (now : ℕ) :
    AcceptedCommand where
  commandId := command.commandId.expose
  fingerprint := commandFingerprint command
  generation := command.desiredGeneration.1
  fence := command.fenceEpoch.1
  credentialGeneration := artifact.credentialGeneration.1
  revision := revision.1
  artifactDigest := artifact.digest.expose
  expiresAt := artifact.credential.expiresAt
  observedAt := observedAt now
  retainUntilEpochSeconds := retentionDeadline retention (observedAt now)

/-- What is recorded of a rejected delivery. -/
def rejectedCommand (commandId fingerprint : String) (generation fence : ℕ) (rejection : CommandRejection)
    (now : ℕ) : RejectedCommand where
  commandId := commandId
  fingerprint := fingerprint
  generation := generation
  fence := fence
  rejection := rejection
  observedAt := observedAt now
  retainUntilEpochSeconds := retentionDeadline retention (observedAt now)

def planRejection (s : StateV1) (expiry : ℕ) (c : RejectedCommand) : Plan := do
  let candidate := s.expireCommandJournal expiry
  (candidate.reserveOutbox 1).mapError .store
  candidate.reserveCommandJournal.mapError .store
  .ok (.store (candidate.reject c) (.outcome (.rejected c.rejection)))

def planCommit (s : StateV1) (identity : DeviceIdentity) (command : DeviceCommand) (artifact : ResolvedArtifact)
    (now : ℕ) : Plan := do
  let candidate := s.expireCommandJournal (unsigned (observedAt now))
  (candidate.reserveOutbox 2).mapError .store
  candidate.reserveCommandJournal.mapError .store
  let revision ← candidate.nextRevision.mapError .store
  .ok (.install revision.1 artifact.credential
    (candidate.accepted identity (acceptedCommand retention command artifact revision now)) (.outcome .accepted))

def planReplay (s : StateV1) (commandId fingerprint : String) : Plan :=
  if s.hasCommandAck commandId then .ok (.keep (.outcome .duplicate))
  else do
    (s.reserveOutbox 1).mapError .store
    let candidate ← (s.replayCommand commandId fingerprint).mapError .store
    .ok (.store candidate (.outcome .duplicate))

def planConflict (s : StateV1) (commandId fingerprint : String) (generation fence now : ℕ) : Plan :=
  if s.hasConflictingReplay commandId fingerprint then .ok (.keep (.outcome (.rejected .malformedCommand)))
  else do
    (s.reserveOutbox 1).mapError .store
    .ok (.store (s.rejectConflictingReplay commandId fingerprint generation fence (observedAt now))
      (.outcome (.rejected .malformedCommand)))

def planEvaluate (s : StateV1) (topic : String) (command : DeviceCommand) (now : ℕ) (catalog : ArtifactCatalog) :
    Plan :=
  if s.rotationInFlight then .error .rotationInFlight
  else do
    let identity ← s.currentIdentity.mapError .store
    let rejectAs := fun rejection => planRejection s (unsigned (observedAt now)) (rejectedCommand retention
      command.commandId.expose (commandFingerprint command) command.desiredGeneration.1 command.fenceEpoch.1
      rejection now)
    if topic ≠ identity.commandTopic ∨ command.deviceId ≠ identity.device then rejectAs .malformedCommand
    else if command.deadlineEpochSeconds.1 ≤ now then rejectAs .policyRejected
    else match catalog.resolve pki identity command now with
      | .error error => rejectAs (catalogRejection error)
      | .ok artifact =>
        if command.fenceEpoch.1 < s.current.fenceEpoch then rejectAs .fenceEpochStale
        else if command.desiredGeneration.1 < s.current.desiredGeneration then rejectAs .generationStale
        else if command.desiredGeneration.1 = s.current.desiredGeneration ∨
            artifact.credentialGeneration.1 ≤ s.identity.credentialGeneration then
          rejectAs .malformedCommand
        else planCommit retention s identity command artifact now

def planChange (s : StateV1) (change : StateV1 → Option StateV1) (error : AgentError) : Plan :=
  match change s with
  | none => .error error
  | some candidate => .ok (.store candidate .done)

/-- What an operation decides in a state. -/
def plan (s : StateV1) : Call → Plan
  | .applyCommand topic command now catalog =>
    match s.commandMatch command.commandId.expose (commandFingerprint command) now with
    | some true => planReplay s command.commandId.expose (commandFingerprint command)
    | some false =>
      planConflict s command.commandId.expose (commandFingerprint command) command.desiredGeneration.1
        command.fenceEpoch.1 now
    | none => planEvaluate pki retention s topic command now catalog
  | .rejectMalformedDelivery topic commandId payload now => do
    let identity ← s.currentIdentity.mapError .store
    if topic ≠ identity.commandTopic ∧ s.pendingInbound.map (·.topic) ≠ some topic then
      .error .unexpectedDelivery
    else
      let fingerprint := malformedFingerprint topic commandId payload
      match s.commandMatch commandId fingerprint now with
      | some true => planReplay s commandId fingerprint
      | some false => planConflict s commandId fingerprint s.current.desiredGeneration s.current.fenceEpoch now
      | none =>
        planRejection s now (rejectedCommand retention commandId fingerprint s.current.desiredGeneration
          s.current.fenceEpoch .malformedCommand now)
  | .confirmOutbound event => planChange s (·.confirmOutbound event) .unknownOutbound
  | .markCurrentCredentialConnected revision => planChange s (·.markReconnected revision.1) .unexpectedReconnect
  | .markPendingInboundSettled token => planChange s (·.markInboundSettled (some token)) .unexpectedDelivery
  | .markPendingInboundAbsent => planChange s (·.markInboundSettled none) .unexpectedDelivery

end Plans

/-! ### The operations carry their decisions out -/

section Execution

variable {pki : Pki} {retention : NonZeroU32} {faults : Faults} {w : World}

theorem current_bind {α : Type} (f : StateV1 → AgentProg α) (w : World) : (current >>= f) w = f w.state w := rfl

theorem checked_bind {α β : Type} (x : Except StoreError α) (f : α → AgentProg β) (w : World) :
    (checked x >>= f) w = match x with
      | .ok a => f a w
      | .error e => (.err (.store e), w) := by cases x <;> rfl

/-- Answer an apply outcome as a reply. -/
abbrev asReply (x : AgentProg ApplyOutcome) : AgentProg Reply := x >>= fun o => pure (.outcome o)

theorem persistRejection_eq (command : DeviceCommand) (rejection : CommandRejection) (now : ℕ) :
    asReply (persistRejection retention faults command (commandFingerprint command) rejection (observedAt now)) w =
      (planRejection w.state (unsigned (observedAt now)) (rejectedCommand retention command.commandId.expose
        (commandFingerprint command) command.desiredGeneration.1 command.fenceEpoch.1 rejection now)).execute
        faults w := by
  simp only [asReply, persistRejection, planRejection, bind_assoc, current_bind, checked_bind]
  rcases (w.state.expireCommandJournal _).reserveOutbox 1 with e | ⟨⟩
  · rfl
  · rcases (w.state.expireCommandJournal _).reserveCommandJournal with e | ⟨⟩
    · rfl
    · rfl

theorem persistRawRejection_eq (commandId fingerprint : String) (now : ℕ) :
    asReply (persistRawRejection retention faults commandId fingerprint now) w =
      (planRejection w.state now (rejectedCommand retention commandId fingerprint w.state.current.desiredGeneration
        w.state.current.fenceEpoch .malformedCommand now)).execute faults w := by
  simp only [asReply, persistRawRejection, planRejection, bind_assoc, current_bind, checked_bind]
  rcases (w.state.expireCommandJournal _).reserveOutbox 1 with e | ⟨⟩
  · rfl
  · rcases (w.state.expireCommandJournal _).reserveCommandJournal with e | ⟨⟩
    · rfl
    · rfl

theorem replay_eq (commandId fingerprint : String) :
    asReply (replay faults commandId fingerprint) w = (planReplay w.state commandId fingerprint).execute faults w := by
  simp only [asReply, replay, planReplay, bind_assoc, current_bind]
  by_cases h : w.state.hasCommandAck commandId
  · rw [if_neg (not_not.2 h), if_pos h]
    rfl
  · rw [if_pos h, if_neg h]
    simp only [bind_assoc, checked_bind]
    rcases w.state.reserveOutbox 1 with e | ⟨⟩
    · rfl
    · rcases w.state.replayCommand commandId fingerprint with e | candidate
      · rfl
      · rfl

theorem conflict_eq (commandId fingerprint : String) (generation fence now : ℕ) :
    asReply (conflict faults commandId fingerprint generation fence (observedAt now)) w =
      (planConflict w.state commandId fingerprint generation fence now).execute faults w := by
  simp only [asReply, conflict, planConflict, bind_assoc, current_bind]
  by_cases h : w.state.hasConflictingReplay commandId fingerprint
  · rw [if_pos h, if_pos h]
    rfl
  · rw [if_neg h, if_neg h]
    simp only [bind_assoc, checked_bind]
    rcases w.state.reserveOutbox 1 with e | ⟨⟩
    · rfl
    · rfl

theorem commit_eq (command : DeviceCommand) (artifact : ResolvedArtifact) (now : ℕ) {identity : DeviceIdentity}
    (hid : w.state.currentIdentity = .ok identity) :
    asReply (commit retention faults command (commandFingerprint command) artifact (observedAt now)) w =
      (planCommit retention w.state identity command artifact now).execute faults w := by
  simp only [asReply, commit, planCommit, bind_assoc, current_bind, checked_bind]
  rcases (w.state.expireCommandJournal _).reserveOutbox 2 with e | ⟨⟩
  · rfl
  · rcases (w.state.expireCommandJournal _).reserveCommandJournal with e | ⟨⟩
    · rfl
    · rcases (w.state.expireCommandJournal _).nextRevision with e | revision
      · rfl
      · -- the identity is that of the state before the journal was expired
        have hacc : ∀ c, (w.state.expireCommandJournal (unsigned (observedAt now))).accept c =
            .ok ((w.state.expireCommandJournal (unsigned (observedAt now))).accepted identity c) := fun c => by
          have : (w.state.expireCommandJournal (unsigned (observedAt now))).currentIdentity = .ok identity := hid
          rw [StateV1.accept, this]
          rfl
        simp only [hacc]
        rfl

theorem evaluate_eq (topic : String) (command : DeviceCommand) (now : ℕ) (catalog : ArtifactCatalog) :
    asReply (evaluate pki retention faults topic command (commandFingerprint command) now catalog) w =
      (planEvaluate pki retention w.state topic command now catalog).execute faults w := by
  simp only [asReply, evaluate, planEvaluate, bind_assoc, current_bind]
  by_cases hflight : w.state.rotationInFlight
  · rw [if_pos hflight, if_pos hflight]
    rfl
  rw [if_neg hflight, if_neg hflight]
  simp only [bind_assoc, checked_bind]
  rcases hid : w.state.currentIdentity with e | identity
  · rfl
  simp only [Except.mapError]
  change _ = Plan.execute faults (if _ then _ else _) w
  rcases catalog.resolve pki identity command now with error | artifact
  · split_ifs <;> exact persistRejection_eq _ _ _
  · dsimp only
    split_ifs
    · exact persistRejection_eq _ _ _
    · exact persistRejection_eq _ _ _
    · exact persistRejection_eq _ _ _
    · exact persistRejection_eq _ _ _
    · exact persistRejection_eq _ _ _
    · exact commit_eq command artifact now hid

theorem persistChange_eq (change : StateV1 → Option StateV1) (error : AgentError) :
    (persistChange faults change error >>= fun _ => pure Reply.done) w =
      (planChange w.state change error).execute faults w := by
  simp only [persistChange, planChange, bind_assoc, current_bind]
  rcases change w.state with _ | candidate
  · rfl
  · rfl

/-- **An operation is the execution of its decision.** -/
theorem perform_eq (call : Call) :
    perform pki retention faults call w = (plan pki retention w.state call).execute faults w := by
  cases call with
  | applyCommand topic command now catalog =>
    simp only [perform, applyCommand, plan, bind_assoc, current_bind]
    rcases w.state.commandMatch command.commandId.expose (commandFingerprint command) now with _ | _ | _
    · exact evaluate_eq topic command now catalog
    · exact conflict_eq _ _ _ _ _
    · exact replay_eq _ _
  | rejectMalformedDelivery topic commandId payload now =>
    simp only [perform, rejectMalformedDelivery, plan, bind_assoc, current_bind, checked_bind]
    rcases w.state.currentIdentity with e | identity
    · rfl
    · simp only [Except.mapError]
      change _ = Plan.execute faults (if _ then _ else _) w
      split_ifs
      · rfl
      · rcases w.state.commandMatch commandId (malformedFingerprint topic commandId payload) now with _ | _ | _
        · exact persistRawRejection_eq _ _ _
        · exact conflict_eq _ _ _ _ _
        · exact replay_eq _ _
  | confirmOutbound event => exact persistChange_eq _ _
  | markCurrentCredentialConnected revision => exact persistChange_eq _ _
  | markPendingInboundSettled token => exact persistChange_eq _ _
  | markPendingInboundAbsent => exact persistChange_eq _ _

end Execution

end RssIncubator.Agent
