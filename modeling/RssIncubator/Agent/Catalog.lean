import RssIncubator.Agent.Types

/-!
# Credential material and the artifact catalog (`material.rs`, `catalog.rs`)

PEM decoding, X.509 parsing and chain verification are library code outside the repository: `Pki` is
that library, one field for each function the agent calls.  The catalog directory is what one call of
`resolve` finds on disk: its document, and what `read_catalog_file` returns for a raw path.
-/

namespace RssIncubator.Agent

open Lib

/-! ### Credential material -/

inductive CredentialError where
  | unavailable
  | malformed
  | untrusted
  | insecurePrivateKey
  | identityMismatch
  deriving DecidableEq

/-- What the agent reads off a parsed certificate; `none` is an unreadable name extension. -/
structure X509 where
  subjectUris : Option (List String)
  notAfter : ℤ

/-- The certificate library. -/
structure Pki where
  /-- The DER certificates of a PEM file. -/
  certs : Bytes → Option (List Bytes)
  /-- The private key of a PEM file. -/
  privateKey : Bytes → Option Bytes
  /-- The key belongs to the first certificate of the chain. -/
  keysMatch : List Bytes → Bytes → Bool
  /-- A verifier can be built from the roots. -/
  rootsUsable : List Bytes → Bool
  /-- The end entity chains to the roots through the intermediates at the time. -/
  chainTrusted : List Bytes → Bytes → List Bytes → ℕ → Bool
  /-- The certificate, if it parses. -/
  parse : Bytes → Option X509

structure ValidatedCredential where
  ca : Bytes
  certificate : Bytes
  privateKey : Bytes
  expiresAt : ℤ
  deriving DecidableEq

section Material

variable (pki : Pki)

def parseCertificates (bytes : Bytes) : Except CredentialError (List Bytes) :=
  match pki.certs bytes with
  | none => .error .malformed
  | some [] => .error .malformed
  | some certificates => .ok certificates

def parsePrivateKey (bytes : Bytes) : Except CredentialError Bytes :=
  match pki.privateKey bytes with
  | none => .error .malformed
  | some key => .ok key

def verifyKeyMatches (chain : List Bytes) (key : Bytes) : Except CredentialError Unit :=
  if pki.keysMatch chain key then .ok () else .error .malformed

def verifyChain (roots : List Bytes) (endEntity : Bytes) (intermediates : List Bytes) (now : ℕ) :
    Except CredentialError Unit :=
  if pki.rootsUsable roots then
    if pki.chainTrusted roots endEntity intermediates now then .ok () else .error .untrusted
  else .error .malformed

def verifyIdentity (endEntity : Bytes) (identity : DeviceIdentity) : Except CredentialError ℤ :=
  match pki.parse endEntity with
  | none => .error .malformed
  | some certificate =>
    match certificate.subjectUris with
    | none => .error .malformed
    | some uris => if identity.principalUrn ∈ uris then .ok certificate.notAfter else .error .identityMismatch

def validateCredentialBytes (ca certificate privateKey : Bytes) (identity : DeviceIdentity) (now : ℕ) :
    Except CredentialError ValidatedCredential := do
  let roots ← parseCertificates pki ca
  let chain ← parseCertificates pki certificate
  let key ← parsePrivateKey pki privateKey
  match chain with
  | [] => .error .malformed
  | endEntity :: intermediates =>
    verifyKeyMatches pki chain key
    verifyChain pki roots endEntity intermediates now
    let expiresAt ← verifyIdentity pki endEntity identity
    .ok ⟨ca, certificate, privateKey, expiresAt⟩

/-- A validated credential expires after the epoch: it is valid now, and now is not before it. -/
def PositiveExpiry : Prop := ∀ ca certificate privateKey identity now credential,
  validateCredentialBytes pki ca certificate privateKey identity now = .ok credential → 0 < credential.expiresAt

/-- Validation returns the bytes it was given. -/
theorem validateCredentialBytes_ok {ca certificate privateKey : Bytes} {identity : DeviceIdentity} {now : ℕ}
    {c : ValidatedCredential} (h : validateCredentialBytes pki ca certificate privateKey identity now = .ok c) :
    c.ca = ca ∧ c.certificate = certificate ∧ c.privateKey = privateKey := by
  unfold validateCredentialBytes at h
  simp only [bind, Except.bind] at h
  repeat' split at h
  all_goals cases h
  exact ⟨rfl, rfl, rfl⟩

end Material

/-! ### The digest of an artifact -/

/-- What is hashed for an artifact: a domain, and the three files with their lengths. -/
def artifactPreimage (ca certificate privateKey : Bytes) : Bytes :=
  utf8 "rss.reference-device-agent.artifact.v1\x00" ++ [ca, certificate, privateKey].flatMap fun b =>
    beBytes (min b.length u64Max) ++ b

/-- `compute_artifact_digest_bytes`; the finished hash always passes the check of a digest. -/
def computeArtifactDigestBytes (ca certificate privateKey : Bytes) : Sha256Digest :=
  ⟨digestText (artifactPreimage ca certificate privateKey), validDigest_digestText _⟩

/-! ### The catalog -/

inductive CatalogError where
  | unavailable
  | malformed
  | notFound
  | bindingMismatch
  | digestMismatch
  | revoked
  | credential (error : CredentialError)
  deriving DecidableEq

structure CatalogEntryV1 where
  artifactId : String
  artifactDigest : String
  tenantId : Uuid
  deviceId : Uuid
  credentialGeneration : ℕ
  desiredGeneration : ℕ
  fenceEpoch : ℕ
  intentDigest : String
  policyHash : String
  caPath : String
  certificatePath : String
  privateKeyPath : String
  revoked : Bool

structure CatalogV1 where
  schemaVersion : ℕ
  artifacts : List CatalogEntryV1

/-- What reading and parsing the catalog file gives. -/
inductive CatalogDocument where
  | unreadable
  | malformed
  | document (catalog : CatalogV1)

/-- What one call finds in the catalog directory. -/
structure ArtifactCatalog where
  document : CatalogDocument
  /-- `read_catalog_file` on a raw path; the flag asks for an owner-only file. -/
  readCatalogFile : String → Bool → Except CatalogError Bytes

structure ResolvedArtifact where
  credentialGeneration : NonZeroU64
  credential : ValidatedCredential
  digest : Sha256Digest

def validateBinding (identity : DeviceIdentity) (command : DeviceCommand) (entry : CatalogEntryV1) :
    Except CatalogError Unit :=
  if entry.tenantId = identity.tenant ∧ entry.deviceId = identity.device ∧
      entry.desiredGeneration = command.desiredGeneration.1 ∧ entry.fenceEpoch = command.fenceEpoch.1 ∧
      entry.intentDigest = command.intentDigest.expose ∧ entry.policyHash = command.policyHash.expose
  then .ok () else .error .bindingMismatch

/-- The document of the catalog, read and of the supported version. -/
def ArtifactCatalog.load (c : ArtifactCatalog) : Except CatalogError CatalogV1 :=
  match c.document with
  | .unreadable => .error .unavailable
  | .malformed => .error .malformed
  | .document catalog => if catalog.schemaVersion ≠ 1 then .error .malformed else .ok catalog

def ArtifactCatalog.resolve (pki : Pki) (c : ArtifactCatalog) (identity : DeviceIdentity)
    (command : DeviceCommand) (now : ℕ) : Except CatalogError ResolvedArtifact := do
  let catalog ← c.load
  match catalog.artifacts.find? fun entry => entry.artifactId = command.artifactId.expose with
  | none => .error .notFound
  | some entry =>
    validateBinding identity command entry
    if entry.revoked then .error .revoked
    else
      let ca ← c.readCatalogFile entry.caPath false
      let certificate ← c.readCatalogFile entry.certificatePath false
      let privateKey ← c.readCatalogFile entry.privateKeyPath true
      let computed := computeArtifactDigestBytes ca certificate privateKey
      let declared ← (Sha256Digest.tryFrom entry.artifactDigest).mapError fun _ => .malformed
      if computed ≠ command.artifactDigest ∨ computed ≠ declared then .error .digestMismatch
      else
        let generation ← (NonZeroU64.tryFrom entry.credentialGeneration).mapError fun _ => .malformed
        let target ← (DeviceIdentity.tryNew identity.tenant identity.device generation).mapError
          fun _ => .bindingMismatch
        let credential ← (validateCredentialBytes pki ca certificate privateKey target now).mapError .credential
        .ok ⟨generation, credential, computed⟩

theorem mapError_eq_ok {ε ε' α : Type} {f : ε → ε'} {x : Except ε α} {a : α} :
    x.mapError f = .ok a ↔ x = .ok a := by cases x <;> simp [Except.mapError]

/-- A resolved artifact: its material was validated, and its digest is that of its three files. -/
theorem ArtifactCatalog.resolve_ok {pki : Pki} {c : ArtifactCatalog} {identity : DeviceIdentity}
    {command : DeviceCommand} {now : ℕ} {a : ResolvedArtifact} (h : c.resolve pki identity command now = .ok a) :
    (∃ target, validateCredentialBytes pki a.credential.ca a.credential.certificate a.credential.privateKey
      target now = .ok a.credential) ∧
    a.digest = computeArtifactDigestBytes a.credential.ca a.credential.certificate a.credential.privateKey := by
  unfold ArtifactCatalog.resolve at h
  simp only [bind, Except.bind] at h
  repeat' split at h
  all_goals cases h
  rename_i hcred
  have hval := mapError_eq_ok.1 hcred
  obtain ⟨h1, h2, h3⟩ := validateCredentialBytes_ok pki hval
  subst h1 h2 h3
  exact ⟨⟨_, hval⟩, rfl⟩

end RssIncubator.Agent
