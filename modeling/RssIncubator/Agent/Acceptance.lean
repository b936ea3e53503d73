import RssIncubator.Agent.Durable
import RssIncubator.Agent.Intake

/-!
# Exactly which commands are accepted

`Offers` is what the catalog must hold for a command and `Acceptable` what `apply_command` asks of the state, the
command and the clock; neither mentions the order in which the source checks.  `accepted_iff` says that in every
reachable state the checks of `apply_command`, `commit` and `resolve` come to exactly that, a place for the new
revision and the ends of the two counters apart.
-/

namespace RssIncubator.Agent

open Lib Prog StateV1

/-! ### What the catalog offers -/

/-- The catalog offers the material of an entry to the command: the entry is the first one for the artifact, bound
to the device and to the command and not revoked, its files are there under the commanded and declared digest, and
the material validates for the target of the entry. -/
structure Offers (pki : Pki) (c : ArtifactCatalog) (owner : DeviceIdentity) (command : DeviceCommand) (now : ℕ)
    (entry : CatalogEntryV1) (credential : ValidatedCredential) : Prop where
  first : ∃ catalog, c.document = .document catalog ∧ catalog.schemaVersion = 1 ∧
    catalog.artifacts.find? (fun entry => entry.artifactId = command.artifactId.expose) = some entry
  tenant : entry.tenantId = owner.tenant
  device : entry.deviceId = owner.device
  generation : entry.desiredGeneration = command.desiredGeneration.1
  fence : entry.fenceEpoch = command.fenceEpoch.1
  intent : entry.intentDigest = command.intentDigest.expose
  policy : entry.policyHash = command.policyHash.expose
  standing : entry.revoked = false
  ca : c.readCatalogFile entry.caPath false = .ok credential.ca
  certificate : c.readCatalogFile entry.certificatePath false = .ok credential.certificate
  privateKey : c.readCatalogFile entry.privateKeyPath true = .ok credential.privateKey
  declared : (computeArtifactDigestBytes credential.ca credential.certificate credential.privateKey).expose =
    entry.artifactDigest
  commanded : computeArtifactDigestBytes credential.ca credential.certificate credential.privateKey =
    command.artifactDigest
  material : ∃ target : DeviceIdentity, target.tenant = owner.tenant ∧ target.device = owner.device ∧
    target.credentialGeneration.1 = entry.credentialGeneration ∧
    validateCredentialBytes pki credential.ca credential.certificate credential.privateKey target now = .ok credential

section Resolve

variable {pki : Pki} {c : ArtifactCatalog} {owner : DeviceIdentity} {command : DeviceCommand} {now : ℕ}

theorem load_eq_ok {catalog : CatalogV1} :
    c.load = .ok catalog ↔ c.document = .document catalog ∧ catalog.schemaVersion = 1 := by
  unfold ArtifactCatalog.load
  split
  · simp_all
  · simp_all
  · rename_i found hdoc
    rw [hdoc, CatalogDocument.document.injEq]
    split
    · rename_i hne
      simp only [reduceCtorEq, false_iff, not_and]
      rintro rfl
      exact hne
    · rename_i hone
      rw [Except.ok.injEq]
      constructor
      · rintro rfl
        exact ⟨rfl, not_not.1 hone⟩
      · exact And.left

theorem validateBinding_eq_ok {entry : CatalogEntryV1} {u : Unit} : validateBinding owner command entry = .ok u ↔
    entry.tenantId = owner.tenant ∧ entry.deviceId = owner.device ∧
      entry.desiredGeneration = command.desiredGeneration.1 ∧ entry.fenceEpoch = command.fenceEpoch.1 ∧
      entry.intentDigest = command.intentDigest.expose ∧ entry.policyHash = command.policyHash.expose := by
  unfold validateBinding
  split <;> simp_all

theorem digest_tryFrom_eq_ok {text : String} {digest : Sha256Digest} :
    Sha256Digest.tryFrom text = .ok digest ↔ digest.expose = text := by
  unfold Sha256Digest.tryFrom
  split
  · rename_i h
    rw [Except.ok.injEq]
    constructor
    · rintro rfl
      rfl
    · rintro rfl
      rfl
  · rename_i h
    simp only [reduceCtorEq, false_iff]
    rintro rfl
    exact h digest.valid

/-- **What resolving asks for.**  The answer is the material of the offered entry. -/
theorem resolve_iff {artifact : ResolvedArtifact} : c.resolve pki owner command now = .ok artifact ↔
    ∃ entry, Offers pki c owner command now entry artifact.credential ∧
      artifact.credentialGeneration.1 = entry.credentialGeneration ∧ artifact.digest = command.artifactDigest := by
  unfold ArtifactCatalog.resolve
  rw [except_bind_ok]
  constructor
  · rintro ⟨catalog, hload, h⟩
    obtain ⟨hdoc, hversion⟩ := load_eq_ok.1 hload
    split at h
    · cases h
    rename_i entry hfind
    obtain ⟨_, hbind, h⟩ := except_bind_ok.1 h
    obtain ⟨h1, h2, h3, h4, h5, h6⟩ := validateBinding_eq_ok.1 hbind
    split at h
    · cases h
    rename_i hrevoked
    obtain ⟨ca, hca, h⟩ := except_bind_ok.1 h
    obtain ⟨certificate, hcert, h⟩ := except_bind_ok.1 h
    obtain ⟨privateKey, hkey, h⟩ := except_bind_ok.1 h
    obtain ⟨declared, hdeclared, h⟩ := except_bind_ok.1 h
    rw [mapError_eq_ok, digest_tryFrom_eq_ok] at hdeclared
    split at h
    · cases h
    rename_i hdigest
    rw [not_or, not_not, not_not] at hdigest
    obtain ⟨generation, hgen, h⟩ := except_bind_ok.1 h
    rw [mapError_eq_ok, NonZeroU64.tryFrom_eq_ok] at hgen
    obtain ⟨target, htarget, h⟩ := except_bind_ok.1 h
    rw [mapError_eq_ok, DeviceIdentity.tryNew_eq_ok] at htarget
    obtain ⟨ht, hdev, hcg⟩ := htarget
    obtain ⟨credential, hcred, h⟩ := except_bind_ok.1 h
    rw [mapError_eq_ok] at hcred
    cases h
    obtain ⟨rfl, rfl, rfl⟩ := validateCredentialBytes_ok pki hcred
    refine ⟨entry, ⟨⟨catalog, hdoc, hversion, hfind⟩, h1, h2, h3, h4, h5, h6, by simpa using hrevoked, hca, hcert, hkey,
      ?_, hdigest.1, target, ht, hdev, ?_, hcred⟩, hgen, hdigest.1⟩
    · rw [hdigest.2, hdeclared]
    · rw [hcg, hgen]
  · rintro ⟨entry, ho, hgen, hdigest⟩
    obtain ⟨catalog, hdoc, hversion, hfind⟩ := ho.first
    obtain ⟨target, ht, hdev, hcg, hval⟩ := ho.material
    refine ⟨catalog, load_eq_ok.2 ⟨hdoc, hversion⟩, ?_⟩
    rw [hfind]
    refine except_bind_ok.2 ⟨(), validateBinding_eq_ok.2 ⟨ho.tenant, ho.device, ho.generation, ho.fence, ho.intent,
      ho.policy⟩, ?_⟩
    rw [if_neg (by simp [ho.standing])]
    refine except_bind_ok.2 ⟨_, ho.ca, except_bind_ok.2 ⟨_, ho.certificate, except_bind_ok.2 ⟨_, ho.privateKey,
      except_bind_ok.2 ⟨_, mapError_eq_ok.2 (digest_tryFrom_eq_ok.2 ho.declared), ?_⟩⟩⟩⟩
    rw [if_neg (by simp [ho.commanded])]
    refine except_bind_ok.2 ⟨target.credentialGeneration, mapError_eq_ok.2 (NonZeroU64.tryFrom_eq_ok.2 hcg),
      except_bind_ok.2 ⟨target, mapError_eq_ok.2 (DeviceIdentity.tryNew_eq_ok.2 ⟨ht, hdev, rfl⟩),
      except_bind_ok.2 ⟨_, mapError_eq_ok.2 hval, ?_⟩⟩⟩
    obtain ⟨generation, credential, digest⟩ := artifact
    obtain rfl : target.credentialGeneration = generation := Subtype.ext (hcg.trans hgen.symm)
    obtain rfl : digest = command.artifactDigest := hdigest
    rw [ho.commanded]

end Resolve

/-! ### Acceptance -/

/-- What a command must meet: it is new, nothing is under way, it came to the current device in time, the catalog
offers its material, it is ahead of what is installed, and there is room for it. -/
structure Acceptable (pki : Pki) (s : StateV1) (topic : String) (command : DeviceCommand) (now : ℕ)
    (catalog : ArtifactCatalog) (credential : ValidatedCredential) : Prop where
  unknown : ∀ c ∈ s.commandJournal, c.commandId = command.commandId.expose → c.retainUntilEpochSeconds ≤ now
  idle : s.rotationInFlight = false
  offered : ∃ owner entry, s.currentIdentity = .ok owner ∧ topic = owner.commandTopic ∧
    command.deviceId = owner.device ∧ Offers pki catalog owner command now entry credential ∧
    s.identity.credentialGeneration < entry.credentialGeneration
  deadline : now < command.deadlineEpochSeconds.1
  fence : s.current.fenceEpoch ≤ command.fenceEpoch.1
  generation : s.current.desiredGeneration < command.desiredGeneration.1
  outbox : s.outbox.length ≤ 126
  journal : (s.expireCommandJournal now).commandJournal.length < commandJournalLimit

/-- The place of the next revision is free, or holds just what is to be installed there. -/
def PlaceFor (t : Disk) (s : StateV1) (credential : ValidatedCredential) : Prop :=
  t.get (revisionRoot (s.current.credentialRevision + 1)) = none ∨
    Holds t (s.current.credentialRevision + 1) credential.file

section Acceptance

variable {pki : Pki} {retention : NonZeroU32} {s : StateV1} {topic : String} {command : DeviceCommand} {now : ℕ}
  {catalog : ArtifactCatalog} {artifact : ResolvedArtifact} {c : StateV1}

variable (retention) in
/-- An acceptable command is planned to be installed, short of the last revision. -/
theorem Acceptable.plan {credential : ValidatedCredential}
    (h : Acceptable pki s topic command now catalog credential) (hnow : now ≤ i64Max)
    (hrev : s.current.credentialRevision < u64Max) : ∃ owner artifact revision,
    s.currentIdentity = .ok owner ∧ catalog.resolve pki owner command now = .ok artifact ∧
    revision.1 = s.current.credentialRevision + 1 ∧
    Agent.plan pki retention s (.applyCommand topic command now catalog) =
      .ok (.install (s.current.credentialRevision + 1) credential ((s.expireCommandJournal now).accepted owner
        (acceptedCommand retention command artifact revision now)) (.outcome .accepted)) := by
  obtain ⟨owner, entry, hid, rfl, hdevice, hoffers, hcred⟩ := h.offered
  obtain ⟨target, -, -, hcg, -⟩ := hoffers.material
  have hres : catalog.resolve pki owner command now = .ok ⟨target.credentialGeneration, credential, command.artifactDigest⟩ :=
    resolve_iff.2 ⟨entry, hoffers, hcg, rfl⟩
  have hflight := h.idle
  have hfence := h.fence
  have hgen := h.generation
  have hdeadline := h.deadline
  obtain ⟨revision, hrevision⟩ : ∃ revision : NonZeroU64, revision.1 = s.current.credentialRevision + 1 :=
    ⟨⟨_, Nat.succ_pos _, Nat.succ_le_of_lt hrev⟩, rfl⟩
  refine ⟨owner, ⟨target.credentialGeneration, credential, command.artifactDigest⟩, revision, hid, hres, hrevision, ?_⟩
  simp only [Agent.plan, commandMatch_eq_none.2 h.unknown, planEvaluate]
  rw [if_neg (by simp [hflight])]
  refine except_bind_ok.2 ⟨owner, mapError_eq_ok.2 hid, ?_⟩
  rw [if_neg (by simp [hdevice]), if_neg (by omega), hres]
  dsimp only
  rw [if_neg (by omega), if_neg (by omega), if_neg (by omega)]
  simp only [planCommit, unsigned_observedAt hnow, except_bind_ok, mapError_eq_ok, reserveOutbox_eq_ok,
    reserveCommandJournal_eq_ok, nextRevision_eq_ok, exists_const]
  have houtbox : s.outbox.length + 2 ≤ outboxLimit := Nat.add_le_add_right h.outbox 2
  refine ⟨houtbox, h.journal, revision, hrevision, ?_⟩
  rw [hrevision]

/-- Short of the saturation point two numbers in a row are different. -/
theorem two_numbers {d : ℕ} (h : ¬ saturatingAdd d 1 = saturatingAdd (saturatingAdd d 1) 1) : d + 2 ≤ u64Max := by
  by_contra hlt
  have hmax : ∀ {n}, u64Max ≤ n + 1 → saturatingAdd n 1 = u64Max := fun h => min_eq_right h
  rw [hmax (n := d) (by omega), hmax (Nat.le_succ _)] at h
  exact h rfl

/-- What is planned to be installed is acceptable, and there are numbers for it if its candidate passes the checks. -/
theorem acceptable_of_plan (hs : s.Consistent) (hnow : now ≤ i64Max) {n : ℕ} {credential : ValidatedCredential} {reply : Reply}
    (hp : Agent.plan pki retention s (.applyCommand topic command now catalog) = .ok (.install n credential c reply))
    (hv : c.validate = .ok ()) : n = s.current.credentialRevision + 1 ∧
      Acceptable pki s topic command now catalog credential ∧ s.deviceSequence + 2 ≤ u64Max ∧
      s.current.credentialRevision < u64Max := by
  cases plan_cases hs hp with
  | accept hm hflight hid htopic hdevice hdeadline hres hfence hgen hcred hroom hjournal hrev =>
    rename_i owner artifact revision
    obtain ⟨entry, hoffers, hcg, -⟩ := resolve_iff.1 hres
    rw [unsigned_observedAt hnow] at hjournal
    refine ⟨hrev, ⟨commandMatch_eq_none.1 hm, hflight, ⟨owner, entry, hid, htopic, hdevice, hoffers, hcg ▸ hcred⟩,
      hdeadline, hfence, hgen, ?_, hjournal⟩, ?_, ?_⟩
    · have hlimit : outboxLimit = 128 := rfl
      omega
    · -- the two new entries have different numbers
      have hnodup := (validate_eq_ok.1 hv).1.sequences
      simp only [accepted, List.map_append, List.map_cons, List.map_nil, List.nodup_append, List.nodup_cons,
        StoredOutbound.sequence] at hnodup
      have hne := hnodup.2.1.1
      simp only [List.mem_singleton] at hne
      exact two_numbers hne
    · have hle := revision.2.2
      omega

theorem installRevision_ok_iff {t : Disk} {n : ℕ} {credential : ValidatedCredential} (ht : Layout t)
    (hcred : t.get credentialsRoot = some .dir) : (installRevision clean n credential t).1 = .ok () ↔
      t.get (revisionRoot n) = none ∨ Holds t n credential.file := by
  constructor
  · intro h
    by_cases hnew : t.get (revisionRoot n) = none
    · exact .inl hnew
    · obtain ⟨c', hold⟩ := ht.revision n hnew
      rcases installRevision_pass_old (c := credential) hold with ⟨hbytes, -⟩ | ⟨-, herr⟩
      · exact .inr (hbytes ▸ hold)
      · rw [herr] at h
        cases h
  · rintro (hnew | hold)
    · exact installRevision_pass_new ht hcred hnew
    · rcases installRevision_pass_old (c := credential) hold with ⟨-, hok⟩ | ⟨hne, -⟩
      · exact hok
      · exact absurd rfl hne

/-- An acceptable command with a place and numbers for it is accepted. -/
theorem Sound.step_acceptable {device : Device} {a : Running} {credential : ValidatedCredential} (hsound : Sound pki device)
    (hpki : PositiveExpiry pki) (ha : device.agent = some a) (hnow : now ≤ i64Max)
    (hacc : Acceptable pki a.state topic command now catalog credential) (hplace : PlaceFor device.tree a.state credential)
    (hrev : a.state.current.credentialRevision < u64Max) (hseq : a.state.deviceSequence + 2 ≤ u64Max)
    (hack : ¬ a.state.AckOutstanding command.commandId.expose) :
    (device.step pki (.call (.applyCommand topic command now catalog) clean)).1 = some (.ok (.outcome .accepted)) ∧
    ∃ owner artifact revision, a.state.currentIdentity = .ok owner ∧ catalog.resolve pki owner command now = .ok artifact ∧
      revision.1 = a.state.current.credentialRevision + 1 ∧
      (device.step pki (.call (.applyCommand topic command now catalog) clean)).2.agent = some
        ⟨(a.state.expireCommandJournal now).accepted owner (acceptedCommand a.retention command artifact revision now),
          a.retention⟩ := by
  obtain ⟨hgood, -⟩ := hsound.memory a ha
  have hs := hgood.coherent
  obtain ⟨owner, artifact, revision, hid, hres, hrevision, hp⟩ := hacc.plan a.retention hnow hrev
  have hstranded : ¬ a.state.Stranded command.commandId.expose now := by
    rintro ⟨-, hlingers | ⟨p, hpending, -⟩, -, -⟩
    · exact hack hlingers
    · have hflight := hs.consistent.pending_flight hpending
      rw [hacc.idle] at hflight
      cases hflight
  have hv := (plan_cases hs.consistent hp).validate hs (hgood.expires (.inl hpki)) hpki rfl
    (ne_empty_of_validCommandId command.commandId.valid) hnow hseq (fun h => by cases h) rfl hstranded
  obtain ⟨hr, hagent⟩ := hsound.step_install ha hp hv
    ((installRevision_ok_iff hsound.layout hgood.installed.credentials).2 hplace)
  exact ⟨hr, owner, artifact, revision, hid, hres, hrevision, hagent⟩

end Acceptance

/-- **Which commands are accepted**, in every reachable state and without failures in the store: exactly the
acceptable ones with a place for their revision and numbers for their acknowledgement and report.  A command whose
acknowledgement is still outstanding is left out. -/
theorem accepted_iff {pki : Pki} (hpki : PositiveExpiry pki) (actions : List Action) {a : Running}
    (ha : (Device.fresh.run pki actions).agent = some a) (topic : String) (command : DeviceCommand) {now : ℕ}
    (hnow : now ≤ i64Max) (catalog : ArtifactCatalog) (hack : ¬ a.state.AckOutstanding command.commandId.expose) :
    ((Device.fresh.run pki actions).step pki (.call (.applyCommand topic command now catalog) clean)).1 =
      some (.ok (.outcome .accepted)) ↔
    ∃ credential, Acceptable pki a.state topic command now catalog credential ∧
      PlaceFor (Device.fresh.run pki actions).tree a.state credential ∧
      a.state.current.credentialRevision < u64Max ∧ a.state.deviceSequence + 2 ≤ u64Max := by
  have hsound := sound_run pki actions
  generalize Device.fresh.run pki actions = device at ha hsound ⊢
  obtain ⟨hgood, -⟩ := hsound.memory a ha
  have hs := hgood.coherent
  constructor
  · intro hr
    obtain ⟨c, -, ⟨-, -, hkeep⟩ | ⟨-, hcommits⟩⟩ := hsound.call_ok ha hr
    · cases plan_cases hs.consistent hkeep
    obtain ⟨artifact, -, hinst, hv⟩ := hcommits.installs hs
    obtain ⟨-, hacc, hseq, hrev⟩ := acceptable_of_plan hs.consistent hnow hinst.plan hv
    refine ⟨artifact.credential, hacc, ?_, hrev, hseq⟩
    refine (installRevision_ok_iff hsound.layout hgood.installed.credentials).1 ?_
    by_cases hnew : device.tree.get (revisionRoot (a.state.current.credentialRevision + 1)) = none
    · exact installRevision_pass_new hsound.layout hgood.installed.credentials hnew
    · -- with other bytes in its place the command would have been refused
      obtain ⟨bytes, hold⟩ := hsound.layout.revision _ hnew
      rcases installRevision_pass_old (c := artifact.credential) hold with ⟨-, hok⟩ | ⟨hne, -⟩
      · exact hok
      · rcases hsound.step_orphan ha hinst hv hold with ⟨heq, -⟩ | ⟨-, hrefused⟩
        · exact absurd heq hne
        · rw [hrefused] at hr
          cases hr
  · rintro ⟨credential, hacc, hplace, hrev, hseq⟩
    exact (hsound.step_acceptable hpki ha hnow hacc hplace hrev hseq hack).1

open Fixture in
/-- A fresh device accepts the first command, which meets all of it. -/
theorem accepted_iff_first :
    ((Device.fresh.run Fixture.pki [start]).step Fixture.pki (.call (apply 0 now) clean)).1 =
      some (.ok (.outcome .accepted)) ∧
    ∃ credential, Acceptable Fixture.pki first topic (command 0) now (catalog 0) credential ∧
      PlaceFor (Device.fresh.run Fixture.pki [start]).tree first credential ∧
      first.current.credentialRevision < u64Max ∧ first.deviceSequence + 2 ≤ u64Max := by
  have hsound := sound_run Fixture.pki [start]
  obtain ⟨hgood, -⟩ := hsound.memory _ run_start
  obtain ⟨artifact, -, hp, hv⟩ := plan_apply (.inl rfl)
  have hinst := installRevision_pass_new (c := artifact.credential) hsound.layout hgood.installed.credentials start_revision
  have hr := (hsound.step_install run_start hp hv hinst).1
  exact ⟨hr, (accepted_iff positiveExpiry [start] run_start topic (command 0) (show now ≤ i64Max by decide) (catalog 0)
    (by decide)).1 hr⟩

namespace Fixture

/-- The machine stops after the revision of the first command is in place, and comes up again. -/
def interrupted : List Action :=
  ([start] ++ [.call (apply 0 now) (crashing .removeTemporary)]) ++ [.drop, .openAgent config now clean]

theorem run_interrupted : Device.fresh.run Fixture.pki interrupted =
    ((Device.fresh.run Fixture.pki [start]).step Fixture.pki
      (.call (apply 0 now) (crashing .removeTemporary))).2.restart Fixture.pki config now := by
  rw [interrupted, Device.run_append, Device.run_concat, Device.restart]

end Fixture

open Fixture in
/-- A crash has left the directory of another credential where the next revision belongs: an acceptable command is
refused although no call ever failed. -/
theorem acceptable_refused : ∃ credential,
    (Device.fresh.run Fixture.pki interrupted).agent = some ⟨first, retention⟩ ∧
    Acceptable Fixture.pki first topic (command 1) now (catalog 1) credential ∧
    ((Device.fresh.run Fixture.pki interrupted).step Fixture.pki (.call (apply 1 now) clean)).1 =
      some (.err (.store .revisionConflict)) := by
  obtain ⟨hagent, hrefused⟩ := restart_blocked (show Interrupts (crashing .removeTemporary) from .inr rfl)
  obtain ⟨artifact, -, hp, hv⟩ := plan_apply (.inr rfl)
  obtain ⟨-, hacc, -⟩ := acceptable_of_plan coherent_first.consistent (by decide) hp hv
  rw [run_interrupted]
  exact ⟨artifact.credential, hagent, hacc, hrefused⟩

end RssIncubator.Agent
