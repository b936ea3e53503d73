import RssIncubator.Agent.Acceptance
import RssIncubator.Lib.LinkTree

/-!
# The files of the catalog (`catalog.rs`)

A raw path of the catalog is first looked at as a text, and then walked name by name below the canonical root, without
following links.  The look at the text knows nothing of links and lets a leading dot pass, which the walk stops; the
walk would take an empty path for the root itself, which the look at the text stops.
-/

namespace RssIncubator.Agent

open Lib

/-- The system calls of one read, in their order. -/
inductive CatalogCall where
  | canonicalize
  | open
  | openat (index : ℕ)
  | metadata
  | readToEnd

/-- The components that no raw path may have. -/
def leavesCatalog : Component → Bool
  | .parentDir => true
  | .rootDir => true
  | .prefixComponent _ => true
  | .curDir => false
  | .normal _ => false

def validatedRelativePath (raw : String) : Except CatalogError String :=
  if raw = "" ∨ isAbsolute raw = true ∨ (components raw).any leavesCatalog = true then .error .malformed else .ok raw

/-- The error for a component that could not be opened. -/
def openatError : Errno → CatalogError
  | .loop => .malformed
  | .notdir => .malformed
  | _ => .unavailable

section Read

/- `refuses` is the system: whatever stands in the tree, any of the calls may fail for a reason of its own. -/
variable (refuses : CatalogCall → Option Errno) (t : LinkTree Bytes)

def answered {α : Type} (call : CatalogCall) (result : Except Errno α) : Except Errno α :=
  match refuses call with
  | some e => .error e
  | none => result

/-- The loop over the components; the last one need not be a directory. -/
def openComponents : ℕ → Path → List Component → Except CatalogError Path
  | _, current, [] => .ok current
  | index, current, .normal name :: rest =>
    let flags : OFlags := if rest = [] then ⟨true, false⟩ else ⟨true, true⟩
    match answered refuses (.openat index) (t.openat current name flags) with
    | .error e => .error (openatError e)
    | .ok descriptor => openComponents (index + 1) descriptor rest
  | _, _, _ :: _ => .error .malformed

def readOpenCatalogFile (file : Path) (privateKey : Bool) : Except CatalogError Bytes :=
  match answered refuses .metadata (t.fstat file) with
  | .error _ => .error .unavailable
  | .ok (.file mode content) =>
    if privateKey = true ∧ mode &&& 0o077 ≠ 0 then .error (.credential .insecurePrivateKey)
    else (answered refuses .readToEnd (.ok content)).mapError fun _ => .unavailable
  | .ok _ => .error .malformed

def readCatalogFile (cwd : Path) (root raw : String) (privateKey : Bool) : Except CatalogError Bytes := do
  let relative ← validatedRelativePath raw
  let canonicalRoot ← (answered refuses .canonicalize (t.canonicalize cwd root)).mapError fun _ => .unavailable
  let current ← (answered refuses .open (t.openPath canonicalRoot)).mapError fun _ => .unavailable
  let current ← openComponents refuses t 0 current (components relative)
  readOpenCatalogFile refuses t current privateKey

end Read

/-! ### Confinement -/

/-- A file of the catalog: below the canonical root, behind directories only, and not a link itself. -/
structure Confined (t : LinkTree Bytes) (canonical : Path) (raw : String) (privateKey : Bool) (bytes : Bytes) : Prop where
  nonempty : raw ≠ ""
  relative : isAbsolute raw = false
  file : ∃ names mode, components raw = names.map .normal ∧ names ≠ [] ∧
    (∀ name ∈ names, Ordinary name ∧ '\x00' ∉ name.toList) ∧
    (∀ p, p <+: canonical ++ names → p ≠ canonical ++ names → t.IsDir p) ∧
    t.find (canonical ++ names) = some (.file mode bytes) ∧ (privateKey = true → mode &&& 0o077 = 0)

section Confined

variable {refuses : CatalogCall → Option Errno} {t : LinkTree Bytes} {cwd current p canonical : Path} {root raw : String}
  {privateKey : Bool} {bytes : Bytes}

theorem answered_ok {α : Type} {call : CatalogCall} {result : Except Errno α} {a : α}
    (h : answered refuses call result = .ok a) : result = .ok a := by
  unfold answered at h
  split at h
  · cases h
  · exact h

/-- What the loop opens is what the names lead to, and all components are names. -/
theorem openComponents_ok {index : ℕ} {cs : List Component} (h : openComponents refuses t index current cs = .ok p) :
    ∃ names, cs = names.map .normal ∧ p = current ++ names ∧ ∀ name ∈ names, '\x00' ∉ name.toList := by
  induction cs generalizing index current with
  | nil =>
    cases h
    exact ⟨[], rfl, (List.append_nil _).symm, fun _ h => (List.not_mem_nil h).elim⟩
  | cons c rest ih =>
    cases c with
    | normal name =>
      unfold openComponents at h
      dsimp only at h
      split at h
      · cases h
      · rename_i descriptor hopen
        have hflags : (if rest = [] then (⟨true, false⟩ : OFlags) else ⟨true, true⟩) = ⟨true, decide (rest ≠ [])⟩ := by
          split_ifs with hrest <;> simp [hrest]
        obtain ⟨rfl, hnul, -⟩ := LinkTree.openat_ok_iff.1 (hflags ▸ answered_ok hopen)
        obtain ⟨names, rfl, rfl, hnames⟩ := ih h
        refine ⟨name :: names, rfl, by simp, ?_⟩
        rw [List.forall_mem_cons]
        exact ⟨hnul, hnames⟩
    | prefixComponent name => cases h
    | rootDir => cases h
    | curDir => cases h
    | parentDir => cases h

theorem readOpenCatalogFile_ok (h : readOpenCatalogFile refuses t p privateKey = .ok bytes) :
    ∃ mode, t.find p = some (.file mode bytes) ∧ (privateKey = true → mode &&& 0o077 = 0) := by
  unfold readOpenCatalogFile at h
  split at h
  · cases h
  · rename_i mode content hstat
    have hfind := answered_ok hstat
    unfold LinkTree.fstat at hfind
    split_ifs at h with hmode
    obtain hcontent := answered_ok (mapError_eq_ok.1 h)
    cases hcontent
    split at hfind
    · cases hfind
    · rename_i e he
      cases hfind
      exact ⟨mode, he, fun hkey => not_not.1 fun hne => hmode ⟨hkey, hne⟩⟩
  · cases h

theorem validatedRelativePath_ok {relative : String} (h : validatedRelativePath raw = .ok relative) :
    relative = raw ∧ raw ≠ "" ∧ isAbsolute raw = false := by
  unfold validatedRelativePath at h
  split_ifs at h with hbad
  rw [not_or, not_or] at hbad
  cases h
  exact ⟨rfl, hbad.1, by simpa using hbad.2.1⟩

/-- **Reads are confined.** -/
theorem readCatalogFile_ok (h : readCatalogFile refuses t cwd root raw privateKey = .ok bytes) :
    ∃ canonical, t.canonicalize cwd root = .ok canonical ∧ Confined t canonical raw privateKey bytes := by
  unfold readCatalogFile at h
  simp only [except_bind_ok] at h
  obtain ⟨relative, hrelative, canonical, hcanonical, current, hopen, file, hfile, hread⟩ := h
  obtain ⟨rfl, hne, hrel⟩ := validatedRelativePath_ok hrelative
  have hroot := answered_ok (mapError_eq_ok.1 hcanonical)
  obtain rfl : canonical = current := by
    have hstays := (LinkTree.canonicalize_canonical hroot).openPath
    rw [answered_ok (mapError_eq_ok.1 hopen)] at hstays
    exact (Except.ok.inj hstays).symm
  obtain ⟨names, hnames, rfl, hnul⟩ := openComponents_ok hfile
  obtain ⟨mode, hfind, hmode⟩ := readOpenCatalogFile_ok hread
  refine ⟨canonical, hroot, hne, hrel, names, mode, hnames, ?_, fun name hname => ?_, ?_, hfind, hmode⟩
  · rintro rfl
    exact components_ne_nil hne hnames
  · exact ⟨ordinary_of_mem (hnames ▸ List.mem_map_of_mem hname), hnul name hname⟩
  · exact fun p hp hproper => LinkTree.isDir_before hfind hp hproper

/-! ### Nothing else is refused -/

theorem openComponents_eq (index : ℕ) {names : List String} {e : Entry Bytes} (hnul : ∀ name ∈ names, '\x00' ∉ name.toList)
    (hfind : t.find (current ++ names) = some e) (hopens : LinkTree.Opens false e) :
    openComponents (fun _ => none) t index current (names.map .normal) = .ok (current ++ names) := by
  induction names generalizing index current with
  | nil => rw [List.append_nil]; rfl
  | cons name names ih =>
    rw [List.forall_mem_cons] at hnul
    have hsplit : current ++ name :: names = (current ++ [name]) ++ names := by simp
    rw [hsplit] at hfind ⊢
    have hgo := ih (index + 1) hnul.2 hfind
    have hopen : t.openat current name (if names.map Component.normal = [] then ⟨true, false⟩ else ⟨true, true⟩) =
        .ok (current ++ [name]) := by
      cases names with
      | nil =>
        rw [List.append_nil] at hfind
        exact LinkTree.openat_ok_iff.2 ⟨rfl, hnul.1, e, hfind, hopens⟩
      | cons next names =>
        obtain ⟨entries, hdir⟩ := LinkTree.isDir_of_find_append hfind (List.cons_ne_nil _ _)
        exact LinkTree.openat_ok_iff.2 ⟨rfl, hnul.1, _, hdir, trivial⟩
    rw [List.map_cons, openComponents]
    dsimp only [answered]
    rw [hopen]
    exact hgo

theorem validatedRelativePath_eq {names : List String} (hne : raw ≠ "") (hrel : isAbsolute raw = false)
    (hnames : components raw = names.map .normal) : validatedRelativePath raw = .ok raw := by
  have hstays : (components raw).any leavesCatalog = false := by
    rw [hnames, List.any_map, List.any_eq_false]
    exact fun name _ => Bool.false_ne_true
  unfold validatedRelativePath
  rw [if_neg]
  simp [hne, hrel, hstays]

/-- When no call is refused, the files of the catalog are just those that can be read. -/
theorem readCatalogFile_ok_iff : readCatalogFile (fun _ => none) t cwd root raw privateKey = .ok bytes ↔
    ∃ canonical, t.canonicalize cwd root = .ok canonical ∧ Confined t canonical raw privateKey bytes := by
  refine ⟨readCatalogFile_ok, ?_⟩
  rintro ⟨canonical, hroot, hne, hrel, names, mode, hnames, -, hordinary, -, hfind, hmode⟩
  have hopen := (LinkTree.canonicalize_canonical hroot).openPath
  have hfile := openComponents_eq 0 (fun name hname => (hordinary name hname).2) hfind rfl
  unfold readCatalogFile
  simp only [except_bind_ok, answered]
  refine ⟨raw, validatedRelativePath_eq hne hrel hnames, canonical, mapError_eq_ok.2 hroot, canonical,
    mapError_eq_ok.2 hopen, canonical ++ names, hnames ▸ hfile, ?_⟩
  have hkey : ¬ (privateKey = true ∧ mode &&& 0o077 ≠ 0) := fun h => h.2 (hmode h.1)
  simp only [readOpenCatalogFile, answered, LinkTree.fstat, hfind, hkey, if_false]
  rfl

end Confined

/-- **The catalog is a cage.**  Whatever stands in the tree and whatever calls fail: bytes come from a regular file
below the canonical root that is reached through real directories by ordinary names.  A path with any other component,
or one that meets a link anywhere, gives no bytes. -/
theorem catalog_confined (refuses : CatalogCall → Option Errno) (t : LinkTree Bytes) (cwd : Path) (root raw : String)
    (privateKey : Bool) :
    (∀ bytes, readCatalogFile refuses t cwd root raw privateKey = .ok bytes →
      ∃ canonical, t.canonicalize cwd root = .ok canonical ∧ Confined t canonical raw privateKey bytes) ∧
    ((∃ c ∈ components raw, ∀ name, c ≠ .normal name) →
      ∀ bytes, readCatalogFile refuses t cwd root raw privateKey ≠ .ok bytes) ∧
    ∀ canonical names, t.canonicalize cwd root = .ok canonical → components raw = names.map .normal →
      (∃ p target, p <+: names ∧ t.find (canonical ++ p) = some (.link target)) →
      ∀ bytes, readCatalogFile refuses t cwd root raw privateKey ≠ .ok bytes := by
  refine ⟨fun bytes => readCatalogFile_ok, ?_, ?_⟩
  · rintro ⟨c, hc, hother⟩ bytes h
    obtain ⟨canonical, -, hconfined⟩ := readCatalogFile_ok h
    obtain ⟨names, -, hnames, -⟩ := hconfined.file
    rw [hnames, List.mem_map] at hc
    obtain ⟨name, -, rfl⟩ := hc
    exact hother name rfl
  · rintro canonical names hroot hnames ⟨p, target, hp, hlink⟩ bytes h
    obtain ⟨canonical', hroot', hconfined⟩ := readCatalogFile_ok h
    obtain rfl : canonical = canonical' := by
      rw [hroot] at hroot'
      exact Except.ok.inj hroot'
    obtain ⟨names', mode, hnames', -, -, hdirs, hfile, -⟩ := hconfined.file
    obtain rfl : names = names' := List.map_injective_iff.2 (fun _ _ h => Component.normal.inj h) (hnames.symm.trans hnames')
    by_cases hlast : p = names
    · rw [hlast, hfile] at hlink
      cases hlink
    · obtain ⟨entries, hdir⟩ := hdirs (canonical ++ p) ((List.prefix_append_right_inj canonical).2 hp)
        fun heq => hlast (List.append_cancel_left heq)
      rw [hdir] at hlink
      cases hlink

namespace Fixture

/-- A catalog with its material, reached through a link, and a link out of it. -/
def catalogTree : LinkTree Bytes where
  entries := [
    ("srv", .dir [("catalog", .dir [("material", .dir [("private-key.pem", .file 0o600 [1, 2, 3])]),
      ("escape", .link "../../etc")])]),
    ("etc", .dir [("private-key.pem", .file 0o600 [4])]),
    ("current", .link "srv/catalog")]

end Fixture

open Fixture in
/-- The private key is read behind a link to the catalog, and not behind a link in it. -/
theorem catalog_confined_material :
    readCatalogFile (fun _ => none) catalogTree [] "/current" "material//./private-key.pem" true = .ok [1, 2, 3] ∧
    (∃ canonical, catalogTree.canonicalize [] "/current" = .ok canonical ∧
      Confined catalogTree canonical "material//./private-key.pem" true [1, 2, 3]) ∧
    readCatalogFile (fun _ => none) catalogTree [] "/current" "./material/private-key.pem" true ≠ .ok [1, 2, 3] ∧
    readCatalogFile (fun _ => none) catalogTree [] "/current" "escape/private-key.pem" true ≠ .ok [4] := by
  have hread : readCatalogFile (fun _ => none) catalogTree [] "/current" "material//./private-key.pem" true = .ok [1, 2, 3] := by
    decide +kernel
  refine ⟨hread, ?_, ?_, ?_⟩
  · exact (catalog_confined (fun _ => none) catalogTree [] "/current" "material//./private-key.pem" true).1 _ hread
  · exact (catalog_confined (fun _ => none) catalogTree [] "/current" "./material/private-key.pem" true).2.1
      ⟨.curDir, by decide, fun name h => by cases h⟩ _
  · exact (catalog_confined (fun _ => none) catalogTree [] "/current" "escape/private-key.pem" true).2.2
      ["srv", "catalog"] ["escape", "private-key.pem"] (by decide +kernel) (by decide) ⟨["escape"], "../../etc", ⟨_, rfl⟩, rfl⟩ _

/-! ### The catalog on disk -/

/-- A catalog whose document has been read, in the directory `root`. -/
def ArtifactCatalog.onDisk (document : CatalogDocument) (refuses : CatalogCall → Option Errno) (t : LinkTree Bytes) (cwd : Path)
    (root : String) : ArtifactCatalog where
  document := document
  readCatalogFile := Agent.readCatalogFile refuses t cwd root

/-- The material of a resolved artifact lies in the catalog, and its key is its owner's alone. -/
theorem ArtifactCatalog.resolve_confined {pki : Pki} {document : CatalogDocument} {refuses : CatalogCall → Option Errno}
    {t : LinkTree Bytes} {cwd : Path} {root : String} {identity : DeviceIdentity} {command : DeviceCommand} {now : ℕ}
    {a : ResolvedArtifact} (h : (onDisk document refuses t cwd root).resolve pki identity command now = .ok a) :
    ∃ canonical entry, t.canonicalize cwd root = .ok canonical ∧
      Offers pki (onDisk document refuses t cwd root) identity command now entry a.credential ∧
      Confined t canonical entry.caPath false a.credential.ca ∧
      Confined t canonical entry.certificatePath false a.credential.certificate ∧
      Confined t canonical entry.privateKeyPath true a.credential.privateKey := by
  obtain ⟨entry, hoffers, -⟩ := resolve_iff.1 h
  obtain ⟨canonical, hroot, hca⟩ := readCatalogFile_ok hoffers.ca
  have hbelow : ∀ {raw privateKey bytes}, Agent.readCatalogFile refuses t cwd root raw privateKey = .ok bytes →
      Confined t canonical raw privateKey bytes := by
    intro raw privateKey bytes hread
    obtain ⟨canonical', hroot', hconfined⟩ := readCatalogFile_ok hread
    rw [hroot] at hroot'
    cases hroot'
    exact hconfined
  exact ⟨canonical, entry, hroot, hoffers, hca, hbelow hoffers.certificate, hbelow hoffers.privateKey⟩

end RssIncubator.Agent
