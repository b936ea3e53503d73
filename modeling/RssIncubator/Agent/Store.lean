import RssIncubator.Lib.FileCalls
import RssIncubator.Agent.State
import RssIncubator.Agent.Catalog

/-!
# The durable store (`StateStore` of `state.rs`)

The state directory is a file tree whose root is the directory itself.  A file holds bytes, the JSON
document of a state, or the beginning of such a document: what `serde_json` writes it reads back, and
nothing shorter parses.

Every call of the source is a `Site` of its own; no operation reaches a site twice, so one verdict a
site is every pattern of failures and crashes an operation can meet.
-/

namespace RssIncubator.Agent

open Lib Prog

/-- What a file of the state directory holds. -/
inductive Content where
  | bytes (b : Bytes)
  | manifest (s : StateV1)
  | torn (n : ℕ)
  deriving DecidableEq

instance : Contents Content where
  empty := .bytes []
  cut n
    | .bytes b => .bytes (b.take n)
    | .manifest _ => .torn n
    | .torn m => .torn (min n m)

abbrev Disk := FileTree Content

/-- A program of the store. -/
abbrev StoreProg := Prog Disk StoreError

/-! ### Paths -/

def statePath : Path := ["state.v1.json"]
def temporaryPath : Path := ["state.v1.json.tmp"]
def lockPath : Path := ["state.owner.lock"]
def credentialsRoot : Path := ["credentials"]
def revisionRoot (revision : ℕ) : Path := credentialsRoot ++ ["revision-" ++ toString revision]
def stagingRoot (revision : ℕ) : Path := credentialsRoot ++ [".revision-" ++ toString revision ++ ".staging"]

/-- The three files of a revision. -/
inductive MaterialFile where
  | ca
  | certificate
  | privateKey
  deriving DecidableEq

def MaterialFile.name : MaterialFile → String
  | .ca => "ca.pem"
  | .certificate => "certificate.pem"
  | .privateKey => "private-key.pem"

def ValidatedCredential.file (c : ValidatedCredential) : MaterialFile → Bytes
  | .ca => c.ca
  | .certificate => c.certificate
  | .privateKey => c.privateKey

/-! ### Call sites -/

/-- The calls of `write_synced`. -/
inductive WriteStep where
  | create
  | write
  | sync
  deriving DecidableEq

/-- The calls of `sync_directory`. -/
inductive SyncStep where
  | opening
  | sync
  deriving DecidableEq

inductive Site where
  -- `persist`
  | removeTemporary
  | temporaryRemoved (step : SyncStep)
  | temporary (step : WriteStep)
  | renameManifest
  | manifestRenamed (step : SyncStep)
  -- `install_revision`
  | targetExists
  | existing (file : MaterialFile)
  | removeStaging
  | stagingRemoved (step : SyncStep)
  | createStaging
  | staged (file : MaterialFile) (step : WriteStep)
  | stagingWritten (step : SyncStep)
  | renameRevision
  | revisionRenamed (step : SyncStep)
  | stagingExists
  | cleanStaging
  -- `open`
  | stateExists
  | createRoot
  | openLock
  | lock
  | readManifest
  | keyMode
  | material (file : MaterialFile)
  | digest (file : MaterialFile)
  | createCredentials
  | stateExistsAgain
  | readCredentials
  | nextCredentials
  deriving DecidableEq

/-- One verdict a site. -/
abbrev Faults := Site → Verdict

/-- Nothing goes wrong. -/
def clean : Faults := fun _ => .pass

@[simp] theorem clean_apply (site : Site) : clean site = .pass := rfl

/-- Calls may fail, but the machine does not stop. -/
def Faults.NoCrash (faults : Faults) : Prop := ∀ site done, faults site ≠ .crash done

/-! ### Steps -/

/-- Every error of a file-system call counts as `Unavailable`. -/
def unavailable {α : Type} (x : Prog Disk CallError α) : StoreProg α := mapErr (fun _ => .unavailable) x

def writeSynced (v : WriteStep → Verdict) (p : Path) (c : Content) (mode : ℕ) : StoreProg Unit := do
  unavailable (createNew (v .create) p mode)
  unavailable (writeAll (v .write) p c)
  unavailable (syncAll (v .sync))

def syncDirectory (v : SyncStep → Verdict) (p : Path) : StoreProg Unit := do
  unavailable (openPath (v .opening) p)
  unavailable (syncAll (v .sync))

/-- The end of both removals: what was not there need not be removed. -/
def removed (v : SyncStep → Verdict) (p : Path) : Except CallError Unit → StoreProg Unit
  | .ok () => syncDirectory v p.dropLast
  | .error .notFound => pure ()
  | .error .other => fail .unavailable

def removeStaleFile (v : Verdict) (w : SyncStep → Verdict) (p : Path) : StoreProg Unit := do
  let result ← attempt (removeFile v p)
  removed w p result

def removeStaleDirectory (v : Verdict) (w : SyncStep → Verdict) (p : Path) : StoreProg Unit := do
  let result ← attempt (removeDirAll v p)
  removed w p result

/-- A file can be read and holds exactly these bytes. -/
def fileHolds (v : Verdict) (p : Path) (b : Bytes) : StoreProg Bool := do
  match ← attempt (readFile v p) with
  | .ok content => pure (content = .bytes b)
  | .error _ => pure false

/-! ### The store -/

/-- Replace the manifest: a synced temporary file, an atomic rename, a directory sync. -/
def persist (faults : Faults) (s : StateV1) : StoreProg Unit := do
  removeStaleFile (faults .removeTemporary) (fun step => faults (.temporaryRemoved step)) temporaryPath
  writeSynced (fun step => faults (.temporary step)) temporaryPath (.manifest s) 0o600
  unavailable (rename (faults .renameManifest) temporaryPath statePath)
  syncDirectory (fun step => faults (.manifestRenamed step)) []

def verifyExistingRevision (faults : Faults) (root : Path) (c : ValidatedCredential) : StoreProg Unit := do
  let ca ← fileHolds (faults (.existing .ca)) (root ++ [MaterialFile.ca.name]) c.ca
  if ¬ ca then fail .revisionConflict
  else
    let certificate ← fileHolds (faults (.existing .certificate)) (root ++ [MaterialFile.certificate.name])
      c.certificate
    if ¬ certificate then fail .revisionConflict
    else
      let privateKey ← fileHolds (faults (.existing .privateKey)) (root ++ [MaterialFile.privateKey.name])
        c.privateKey
      if ¬ privateKey then fail .revisionConflict else pure ()

/-- The three files of a credential, into the staging directory. -/
def writeStaged (faults : Faults) (staging : Path) (c : ValidatedCredential) : StoreProg Unit := do
  writeSynced (fun step => faults (.staged .ca step)) (staging ++ [MaterialFile.ca.name]) (.bytes c.ca) 0o600
  writeSynced (fun step => faults (.staged .certificate step)) (staging ++ [MaterialFile.certificate.name])
    (.bytes c.certificate) 0o600
  writeSynced (fun step => faults (.staged .privateKey step)) (staging ++ [MaterialFile.privateKey.name])
    (.bytes c.privateKey) 0o600

/-- The closure of `install_revision`: fill the staging directory and move it into place. -/
def stageRevision (faults : Faults) (staging target : Path) (c : ValidatedCredential) : StoreProg Unit := do
  writeStaged faults staging c
  syncDirectory (fun step => faults (.stagingWritten step)) staging
  unavailable (rename (faults .renameRevision) staging target)
  syncDirectory (fun step => faults (.revisionRenamed step)) credentialsRoot

/-- Remove a staging directory, whatever comes of it. -/
def cleanUp (faults : Faults) (staging : Path) : StoreProg Unit := do
  if ← pathExists (faults .stagingExists) staging then
    let _ ← attempt (removeDirAll (faults .cleanStaging) staging)
  else pure ()

def installRevision (faults : Faults) (revision : ℕ) (c : ValidatedCredential) : StoreProg Unit := do
  let target := revisionRoot revision
  let staging := stagingRoot revision
  if ← pathExists (faults .targetExists) target then verifyExistingRevision faults target c
  else
    removeStaleDirectory (faults .removeStaging) (fun step => faults (.stagingRemoved step)) staging
    unavailable (createDir (faults .createStaging) staging)
    match ← attempt (stageRevision faults staging target c) with
    | .ok () => pure ()
    | .error e => do
      cleanUp faults staging
      fail e

/-- `StateStore::open`: the state directory, and the lock on it that another owner may hold. -/
def openStore (faults : Faults) (held : Bool) : StoreProg Unit := do
  unavailable (createDirAll (faults .createRoot) [])
  unavailable (openCreate (faults .openLock) lockPath 0o600)
  match faults .lock with
  | .pass => if held then fail .alreadyOpen else pure ()
  | .fail _ => fail .unavailable
  | .crash _ => fun t => (.crash, t)

/-- Read and check the manifest. -/
def readState (faults : Faults) (identity : DeviceIdentity) : StoreProg StateV1 := do
  match ← unavailable (readFile (faults .readManifest) statePath) with
  | .manifest s => do
    ofExcept (s.verify identity)
    pure s
  | _ => fail .invalidState

def load (faults : Faults) (held : Bool) (identity : DeviceIdentity) : StoreProg StateV1 := do
  openStore faults held
  readState faults identity

/-- Walk through a directory until a committed revision is found; the walk itself may break off. -/
def anyRevision (v : Verdict) (names : List String) : StoreProg Bool := fun t =>
  let committed := fun name : String => "revision-".toList.isPrefixOf name.toList
  match v with
  | .pass => (.ok (names.any committed), t)
  | .fail done => if (names.take done.written).any committed then (.ok true, t) else (.err .unavailable, t)
  | .crash _ => (.crash, t)

def hasCommittedRevision (faults : Faults) : StoreProg Bool := do
  match ← attempt (readDir (faults .readCredentials) credentialsRoot) with
  | .ok names => anyRevision (faults .nextCredentials) names
  | .error .notFound => pure false
  | .error .other => fail .unavailable

/-- The credential position of a device before its first rotation. -/
structure InstalledCredentialPosition where
  desiredGeneration : NonZeroU64
  fenceEpoch : NonZeroU64
  credentialRevision : NonZeroU64

def openOrInitialize (faults : Faults) (held : Bool) (identity : DeviceIdentity)
    (position : InstalledCredentialPosition) (c : ValidatedCredential) (digest : Sha256Digest) :
    StoreProg StateV1 := do
  openStore faults held
  unavailable (createDirAll (faults .createCredentials) credentialsRoot)
  if ← pathExists (faults .stateExistsAgain) statePath then readState faults identity
  else if ← hasCommittedRevision faults then fail .invalidState
  else
    installRevision faults position.credentialRevision.1 c
    let s := StateV1.initial identity position.desiredGeneration position.fenceEpoch position.credentialRevision
      digest c.expiresAt
    persist faults s
    pure s

end RssIncubator.Agent
