import RssIncubator.Agent.Journal
import RssIncubator.Agent.Queries

/-!
# Room for one more command

Before it takes a delivery the session asks whether there is room; the operation it then calls drops what has expired
and reserves what it needs.  The question and the reservation are two texts of one rule.  They agree, whatever the
document and whatever the branch the operation takes.
-/

namespace RssIncubator.Agent

open Lib Prog StateV1

/-! ### The journal -/

section

variable {s : StateV1} {now : ℕ}

/-- An entry may be dropped: it has expired and is not that of the pending delivery. -/
theorem droppable_iff {c : StoredCommand} : (c.retainUntilEpochSeconds ≤ now ∧
      s.pendingInbound.all fun pending => pending.commandId ≠ c.commandId) ↔
    ¬ (now < c.retainUntilEpochSeconds ∨ s.pendingInbound.map (·.commandId) = some c.commandId) := by
  rcases s.pendingInbound with _ | p
  · simp
  · simp

theorem expire_length_lt (hlen : s.commandJournal.length ≤ commandJournalLimit) :
    (s.expireCommandJournal now).commandJournal.length < commandJournalLimit ↔ s.commandJournal.length < commandJournalLimit ∨
      ∃ c ∈ s.commandJournal, ¬ (now < c.retainUntilEpochSeconds ∨ s.pendingInbound.map (·.commandId) = some c.commandId) := by
  have hle : (s.expireCommandJournal now).commandJournal.length ≤ s.commandJournal.length := List.length_filter_le _ _
  have hfull : (s.expireCommandJournal now).commandJournal.length = s.commandJournal.length ↔
      ∀ c ∈ s.commandJournal, now < c.retainUntilEpochSeconds ∨ s.pendingInbound.map (·.commandId) = some c.commandId := by
    simp [expireCommandJournal, List.length_filter_eq_length_iff]
  constructor
  · intro hlt
    by_cases hroom : s.commandJournal.length < commandJournalLimit
    · exact .inl hroom
    · right
      by_contra hnone
      push Not at hnone
      have heq := hfull.2 hnone
      omega
  · rintro (hroom | ⟨c, hc, hdrop⟩)
    · omega
    · have hne : (s.expireCommandJournal now).commandJournal.length ≠ s.commandJournal.length := fun heq =>
        hdrop (hfull.1 heq c hc)
      omega

/-- The question of the session is what the operation reserves after it has dropped what expired. -/
theorem commandJournalHasCapacity_iff (hlen : s.commandJournal.length ≤ commandJournalLimit) :
    s.commandJournalHasCapacity now = true ↔ (s.expireCommandJournal now).reserveCommandJournal = .ok () := by
  rw [reserveCommandJournal_eq_ok, expire_length_lt hlen]
  simp only [commandJournalHasCapacity, Bool.or_eq_true, decide_eq_true_eq, List.any_eq_true, droppable_iff]

end

/-! ### What an operation can be refused with -/

theorem persist_errs (faults : Faults) (s : StateV1) : Unavailable (persist faults s) := by
  rw [persist_eq]
  exact .bind (prepare_errs _ _) fun _ => .bind (unavailable_errs _) fun _ => syncDirectory_errs _ _

theorem fillRevision_errs (faults : Faults) (n : ℕ) (c : ValidatedCredential) : Unavailable (fillRevision faults n c) := by
  intro t e h
  unfold fillRevision at h
  rcases hx : stageRevision faults (stagingRoot n) (revisionRoot n) c t with ⟨u | e' | _, t'⟩
  · rw [bind_ok (r := t') (a := Except.ok ()) (by simp [attempt, hx])] at h
    cases h
  · rw [bind_ok (r := t') (a := Except.error e') (by simp [attempt, hx])] at h
    have hstage : e' = .unavailable := stageRevision_errs _ _ _ _ t e' (by rw [hx])
    have hclean : Unavailable (cleanUp faults (stagingRoot n) >>= fun _ => (fail e' : StoreProg Unit)) :=
      .bind (fun t e h => (cleanUp_errs _ _ t e h).elim) fun _ => .fail hstage
    exact hclean t' e h
  · rw [bind_crash (r := t') (by simp [attempt, hx])] at h
    cases h

theorem installRevision_errs (faults : Faults) (n : ℕ) (c : ValidatedCredential) :
    Errs (fun e => e = .unavailable ∨ e = .revisionConflict) (installRevision faults n c) := by
  rw [installRevision_eq]
  refine .bind (pathExists_errs _ _) fun b => ?_
  cases b with
  | false => exact .bind (fun t e h => .inl (clearStaging_errs _ _ t e h)) fun _ t e h => .inl (fillRevision_errs _ _ _ t e h)
  | true => exact verifyExistingRevision_errs _ _ _

/-- Carrying a decision out fails with what the store fails with, or on a candidate that does not validate. -/
theorem execute_errs {p : Plan} {faults : Faults} {w : World} {e : AgentError} (h : (p.execute faults w).1 = .err e) :
    p = .error e ∨ e = .store .invalidState ∨ e = .store .unavailable ∨ e = .store .revisionConflict := by
  have hdisk : ∀ {α : Type} {P : StoreError → Prop} (x : StoreProg α), Errs P x → ∀ w e, (onDisk x w).1 = .err e →
      ∃ e', P e' ∧ e = .store e' := by
    intro α P x hx w e he
    rw [onDisk_apply] at he
    unfold mapErr at he
    rcases hr : x w.tree with ⟨_ | e' | _, t⟩ <;> rw [hr] at he <;> cases he
    exact ⟨e', hx w.tree e' (by rw [hr]), rfl⟩
  have hpersist : ∀ {candidate : StateV1} {reply : Reply} {w e},
      ((persistCandidate faults candidate >>= fun _ => pure reply) w).1 = .err e →
      e = .store .invalidState ∨ e = .store .unavailable := by
    intro candidate reply w e he
    by_cases hv : candidate.validate = .ok ()
    · rw [bind_apply, persistCandidate_valid hv] at he
      rcases hr : persist faults candidate w.tree with ⟨_ | e' | _, t⟩ <;> rw [hr] at he <;> cases he
      rw [persist_errs faults candidate w.tree e' (by rw [hr])]
      exact .inr rfl
    · rw [bind_err (persistCandidate_invalid hv)] at he
      cases he
      exact .inl rfl
  rcases p with e' | (reply | ⟨candidate, reply⟩ | ⟨n, cred, candidate, reply⟩)
  · cases h
    exact .inl rfl
  · cases h
  · rcases hpersist h with rfl | rfl
    · exact .inr (.inl rfl)
    · exact .inr (.inr (.inl rfl))
  · simp only [Plan.execute] at h
    rcases bind_cases (onDisk (installRevision faults n cred))
      (fun _ => persistCandidate faults candidate >>= fun _ => pure reply) w with ⟨u, -, hb⟩ | ⟨e', he', hb⟩ | ⟨-, hb⟩ <;>
      rw [hb] at h
    · rcases hpersist h with rfl | rfl
      · exact .inr (.inl rfl)
      · exact .inr (.inr (.inl rfl))
    · cases h
      obtain ⟨e'', hor, rfl⟩ := hdisk _ (installRevision_errs faults n cred) w _ he'
      rcases hor with rfl | rfl
      · exact .inr (.inr (.inl rfl))
      · exact .inr (.inr (.inr rfl))
    · cases h

/-! ### The reservations -/

/-- There was no room for a delivery. -/
def AgentError.Crowded (e : AgentError) : Prop := e = .store .outboxFull ∨ e = .store .commandJournalFull

section

variable {pki : Pki} {retention : NonZeroU32} {s : StateV1} {now : ℕ} {e : AgentError}

/-- The room for the largest change: two entries of the outbox and one of the journal. -/
structure Roomy (s : StateV1) (now : ℕ) : Prop where
  outbox : s.outbox.length + 2 ≤ outboxLimit
  journal : (s.expireCommandJournal now).commandJournal.length < commandJournalLimit

theorem roomy_of_open (hlen : s.commandJournal.length ≤ commandJournalLimit)
    (hopen : Running.commandIntakeOpen ⟨s, retention⟩ now = true) : Roomy s now := by
  simp only [Running.commandIntakeOpen, Bool.and_eq_true] at hopen
  refine ⟨?_, reserveCommandJournal_eq_ok.1 ((commandJournalHasCapacity_iff hlen).1 hopen.2)⟩
  by_contra hno
  rw [reserveOutbox, if_neg hno] at hopen
  exact absurd hopen.1 (by decide)

theorem Roomy.reserve (h : Roomy s now) {n : ℕ} (hn : n ≤ 2) : s.reserveOutbox n = .ok () :=
  reserveOutbox_eq_ok.2 (by have := h.outbox; omega)

theorem Roomy.planRejection {c : RejectedCommand} (h : Roomy s now) : planRejection s now c ≠ .error e := by
  have hone : (s.expireCommandJournal now).reserveOutbox 1 = .ok () := h.reserve (by decide)
  have hjournal : (s.expireCommandJournal now).reserveCommandJournal = .ok () := reserveCommandJournal_eq_ok.2 h.journal
  simp only [Agent.planRejection, hone, hjournal]
  intro he
  cases he

theorem Roomy.planConflict {commandId fingerprint : String} {generation fence at' : ℕ} (h : Roomy s now) :
    planConflict s commandId fingerprint generation fence at' ≠ .error e := by
  unfold Agent.planConflict
  split
  · intro he
    cases he
  · rw [h.reserve (by decide)]
    intro he
    cases he

theorem Roomy.planReplay {commandId fingerprint : String} (h : Roomy s now)
    (hp : planReplay s commandId fingerprint = .error e) : ¬ e.Crowded := by
  unfold Agent.planReplay at hp
  split at hp
  · cases hp
  · rw [h.reserve (by decide)] at hp
    simp only [except_bind_error, mapError_eq_error, mapError_eq_ok] at hp
    rcases hp with ⟨e', he', -⟩ | ⟨u, -, ⟨e', he', rfl⟩ | ⟨c, -, hp⟩⟩
    · cases he'
    · unfold replayCommand at he'
      split at he' <;> cases he'
      rintro (h | h) <;> cases h
    · cases hp

theorem Roomy.planCommit {identity : DeviceIdentity} {command : DeviceCommand} {artifact : ResolvedArtifact}
    (h : Roomy s now) (hnow : now ≤ i64Max) (hp : planCommit retention s identity command artifact now = .error e) :
    ¬ e.Crowded := by
  have htwo : (s.expireCommandJournal now).reserveOutbox 2 = .ok () := h.reserve le_rfl
  have hjournal : (s.expireCommandJournal now).reserveCommandJournal = .ok () := reserveCommandJournal_eq_ok.2 h.journal
  simp only [Agent.planCommit, unsigned_observedAt hnow, htwo, hjournal, except_bind_error, mapError_eq_error,
    mapError_eq_ok] at hp
  rcases hp with ⟨e', he', -⟩ | ⟨u, -, ⟨e', he', -⟩ | ⟨u', -, ⟨e', he', rfl⟩ | ⟨r, -, hp⟩⟩⟩
  · cases he'
  · cases he'
  · unfold nextRevision at he'
    split at he'
    · obtain ⟨_, -, rfl⟩ := mapError_eq_error.1 he'
      rintro (h | h) <;> cases h
    · cases he'
      rintro (h | h) <;> cases h
  · cases hp

theorem not_crowded_invalid : ¬ (AgentError.store .invalidState).Crowded := by rintro (h | h) <;> cases h

theorem currentIdentity_not_crowded (h : s.currentIdentity.mapError AgentError.store = .error e) : ¬ e.Crowded := by
  obtain ⟨e', he', rfl⟩ := mapError_eq_error.1 h
  rw [onlyInvalid_currentIdentity s e' he']
  exact not_crowded_invalid

theorem Roomy.planEvaluate {topic : String} {command : DeviceCommand} {catalog : ArtifactCatalog} (h : Roomy s now)
    (hnow : now ≤ i64Max) (hp : planEvaluate pki retention s topic command now catalog = .error e) : ¬ e.Crowded := by
  unfold Agent.planEvaluate at hp
  rw [unsigned_observedAt hnow] at hp
  split at hp
  · cases hp
    rintro (h | h) <;> cases h
  · rcases except_bind_error.1 hp with hid | ⟨identity, -, hp⟩
    · exact currentIdentity_not_crowded hid
    · rcases hres : catalog.resolve pki identity command now with error | artifact <;> rw [hres] at hp <;> dsimp only at hp
      · split_ifs at hp
        · exact absurd hp h.planRejection
        · exact absurd hp h.planRejection
        · exact absurd hp h.planRejection
      · split_ifs at hp
        · exact absurd hp h.planRejection
        · exact absurd hp h.planRejection
        · exact absurd hp h.planRejection
        · exact absurd hp h.planRejection
        · exact absurd hp h.planRejection
        · exact h.planCommit hnow hp

/-- With room for the largest change no delivery is refused for want of it. -/
theorem Roomy.plan {call : Call} {d : Delivery} (hd : call.delivery = some d) (h : Roomy s d.now) (hnow : d.now ≤ i64Max)
    (hp : plan pki retention s call = .error e) : ¬ e.Crowded := by
  cases call with
  | applyCommand topic command now catalog =>
    cases hd
    simp only [Agent.plan] at hp
    split at hp
    · exact h.planReplay hp
    · exact absurd hp h.planConflict
    · exact h.planEvaluate hnow hp
  | rejectMalformedDelivery topic commandId payload now =>
    cases hd
    simp only [Agent.plan] at hp
    rcases except_bind_error.1 hp with hid | ⟨identity, -, hp⟩
    · exact currentIdentity_not_crowded hid
    · split at hp
      · cases hp
        rintro (h | h) <;> cases h
      · split at hp
        · exact h.planReplay hp
        · exact absurd hp h.planConflict
        · exact absurd hp h.planRejection
  | confirmOutbound event => cases hd
  | markCurrentCredentialConnected revision => cases hd
  | markPendingInboundSettled token => cases hd
  | markPendingInboundAbsent => cases hd

theorem Roomy.perform {call : Call} {d : Delivery} {faults : Faults} {tree : Disk} (hd : call.delivery = some d)
    (h : Roomy s d.now) (hnow : d.now ≤ i64Max) (hp : (perform pki retention faults call ⟨tree, s⟩).1 = .err e) :
    ¬ e.Crowded := by
  rw [perform_eq] at hp
  rcases execute_errs hp with hp | rfl | rfl | rfl
  · exact h.plan hd hnow hp
  · exact not_crowded_invalid
  · rintro (h | h) <;> cases h
  · rintro (h | h) <;> cases h

end

/-- **The question and the reservation agree**, for every document with at most 1024 journal entries: the journal is
said to have room exactly when dropping the expired entries makes room; where intake is open neither operation on a
delivery is refused for want of room, on any branch, whatever the file system does; and dropping takes no entry that is
within its retention, nor that of the pending delivery. -/
theorem intake_reserves {s : StateV1} {now : ℕ} (hlen : s.commandJournal.length ≤ commandJournalLimit) (hnow : now ≤ i64Max) :
    (s.commandJournalHasCapacity now = true ↔ (s.expireCommandJournal now).reserveCommandJournal = .ok ()) ∧
    (∀ pki retention faults tree, Running.commandIntakeOpen ⟨s, retention⟩ now = true →
      (∀ topic command catalog e,
        (applyCommand pki retention faults topic command now catalog ⟨tree, s⟩).1 = .err e → ¬ e.Crowded) ∧
      ∀ topic commandId payload e,
        (rejectMalformedDelivery retention faults topic commandId payload now ⟨tree, s⟩).1 = .err e → ¬ e.Crowded) ∧
    ∀ c ∈ s.commandJournal, now < c.retainUntilEpochSeconds ∨ s.pendingInbound.map (·.commandId) = some c.commandId →
      c ∈ (s.expireCommandJournal now).commandJournal := by
  refine ⟨commandJournalHasCapacity_iff hlen, ?_, fun c hc hkeep => mem_expire.2 ⟨hc, hkeep.imp_right Option.map_eq_some_iff.1⟩⟩
  intro pki retention faults tree hopen
  have hroomy := roomy_of_open hlen hopen
  refine ⟨fun topic command catalog e he => ?_, fun topic commandId payload e he => ?_⟩
  · have hp : (perform pki retention faults (.applyCommand topic command now catalog) ⟨tree, s⟩).1 = .err e := by
      rw [perform, bind_err (Prod.ext he rfl)]
    exact Roomy.perform rfl hroomy hnow hp
  · have hp : (perform pki retention faults (.rejectMalformedDelivery topic commandId payload now) ⟨tree, s⟩).1 = .err e := by
      rw [perform, bind_err (Prod.ext he rfl)]
    exact Roomy.perform rfl hroomy hnow hp

namespace Fixture

/-- A rejection, the first of which has just expired. -/
def spent (n : ℕ) : StoredCommand :=
  let rejection := rejectedCommand retention ("command-" ++ toString n) intent.expose 1 1 .malformedCommand now
  ⟨rejection.commandId, rejection.fingerprint, rejection.acknowledgement (n + 1), if n = 0 then now else now + 300⟩

/-- A document with so many of them in its journal. -/
def crowded (size : ℕ) : StateV1 := { first with deviceSequence := size, commandJournal := (List.range size).map spent }

theorem crowded_length (size : ℕ) : (crowded size).commandJournal.length = size := by simp [crowded]

theorem mem_crowded {size n : ℕ} (hn : n < size) : spent n ∈ (crowded size).commandJournal :=
  List.mem_map_of_mem (List.mem_range.2 hn)

/-- The first of them makes room. -/
theorem crowded_capacity {size : ℕ} (hsize : 0 < size) : (crowded size).commandJournalHasCapacity now = true := by
  unfold commandJournalHasCapacity
  rw [Bool.or_eq_true, List.any_eq_true]
  exact .inr ⟨spent 0, mem_crowded hsize, decide_eq_true ⟨le_refl now, rfl⟩⟩

theorem crowded_open {size : ℕ} (hsize : 0 < size) : Running.commandIntakeOpen ⟨crowded size, retention⟩ now = true := by
  have hroom : (crowded size).reserveOutbox 2 = .ok () := if_pos (show 0 + 2 ≤ 128 by decide)
  unfold Running.commandIntakeOpen
  rw [hroom, crowded_capacity hsize]
  rfl

end Fixture

open Fixture in
/-- A full journal with one entry that has expired: the entry makes room, and the others stay. -/
theorem intake_reserves_crowded : (crowded 1024).commandJournal.length = commandJournalLimit ∧
    ((crowded 1024).expireCommandJournal now).reserveCommandJournal = .ok () ∧
    (∀ tree topic commandId payload e,
      (rejectMalformedDelivery retention clean topic commandId payload now ⟨tree, crowded 1024⟩).1 = .err e → ¬ e.Crowded) ∧
    ∀ n, 0 < n → n < 1024 → spent n ∈ ((crowded 1024).expireCommandJournal now).commandJournal := by
  have hlen : (crowded 1024).commandJournal.length ≤ commandJournalLimit := (crowded_length _).le
  obtain ⟨hreserve, hcalls, hkept⟩ := intake_reserves hlen (show now ≤ i64Max by decide)
  refine ⟨crowded_length _, hreserve.1 (crowded_capacity (by decide)),
    fun tree => (hcalls Fixture.pki retention clean tree (crowded_open (by decide))).2, fun n hpos hn => ?_⟩
  refine hkept _ (mem_crowded hn) (.inl ?_)
  show now < if n = 0 then now else now + 300
  rw [if_neg (by omega)]
  omega

end RssIncubator.Agent
