import RssIncubator.Lib.FileTree

/-!
# File trees with symbolic links

A tree of directories, regular files and symbolic links, and the part of POSIX path resolution that a program sees:
`realpath`, which follows every link, and `openat`, which follows none when it is told so.  Everywhere a path is the
list of the names on the way from the root; what stands at it is found without following links.
-/

namespace RssIncubator.Lib

/-! ### Paths -/

/-- The components of a path, as `std::path` names them. -/
inductive Component where
  | prefixComponent (name : String)
  | rootDir
  | curDir
  | parentDir
  | normal (name : String)
  deriving DecidableEq

/-- What stands between the separators. -/
def segments (raw : String) : List String := (raw.toList.splitOn '/').map String.ofList

def isAbsolute (raw : String) : Bool := raw.toList.head? = some '/'

/-- The component of a segment; repeated separators and dots are no components. -/
def component (segment : String) : Option Component :=
  if segment = "" ∨ segment = "." then none
  else if segment = ".." then some .parentDir
  else some (.normal segment)

/-- `Path::components` where a path has no prefix: dots count at the beginning only. -/
def components (raw : String) : List Component :=
  (if isAbsolute raw then [.rootDir] else if (segments raw).head? = some "." then [.curDir] else []) ++
    (segments raw).filterMap component

/-- A name that a directory can have. -/
structure Ordinary (name : String) : Prop where
  ne_empty : name ≠ ""
  ne_dot : name ≠ "."
  ne_dots : name ≠ ".."
  slash : '/' ∉ name.toList

theorem slash_notMem_splitOn {l s : List Char} (h : s ∈ l.splitOn '/') : '/' ∉ s := by
  induction l generalizing s with
  | nil =>
    rw [List.splitOn_nil, List.mem_singleton] at h
    rw [h]
    exact List.not_mem_nil
  | cons c l ih =>
    rw [List.splitOn_cons_eq_if_modifyHead] at h
    split_ifs at h with hc
    · rw [List.mem_cons] at h
      rcases h with rfl | h
      · exact List.not_mem_nil
      · exact ih h
    · cases hl : l.splitOn '/' with
      | nil => exact absurd hl (List.splitOn_ne_nil _ _)
      | cons first rest =>
        rw [hl] at h ih
        rw [List.modifyHead_cons, List.mem_cons] at h
        rcases h with rfl | h
        · rw [List.mem_cons, not_or]
          exact ⟨fun heq => hc (by simp [← heq]), ih List.mem_cons_self⟩
        · exact ih (List.mem_cons_of_mem _ h)

/-- A relative path that is not empty begins with a segment that is not empty. -/
theorem exists_first {raw : String} (hne : raw ≠ "") (hrel : isAbsolute raw = false) :
    ∃ first rest, segments raw = first :: rest ∧ first ≠ "" := by
  unfold segments
  cases hraw : raw.toList with
  | nil => exact absurd (String.toList_inj.1 hraw) hne
  | cons c l =>
    have hc : (c == '/') = false := by
      simpa [isAbsolute, hraw] using hrel
    rw [List.splitOn_cons_eq_if_modifyHead, hc]
    cases hl : l.splitOn '/' with
    | nil => exact absurd hl (List.splitOn_ne_nil _ _)
    | cons first rest => exact ⟨String.ofList (c :: first), rest.map String.ofList, rfl, by simp⟩

theorem components_ne_nil {raw : String} (h : raw ≠ "") : components raw ≠ [] := by
  unfold components
  by_cases habs : isAbsolute raw = true
  · simp [habs]
  · obtain ⟨first, rest, hseg, hfirst⟩ := exists_first h (by simpa using habs)
    rw [hseg]
    by_cases hdot : first = "."
    · simp [habs, hdot]
    · by_cases hdots : first = ".."
      · simp [component, hdots]
      · simp [component, hfirst, hdot, hdots]

/-- The names among the components are ordinary. -/
theorem ordinary_of_mem {raw name : String} (h : .normal name ∈ components raw) : Ordinary name := by
  unfold components at h
  rw [List.mem_append, List.mem_filterMap] at h
  rcases h with h | ⟨segment, hmem, hcomponent⟩
  · split_ifs at h <;> simp at h
  · obtain ⟨chars, hchars, rfl⟩ := List.mem_map.1 hmem
    have hslash := slash_notMem_splitOn hchars
    unfold component at hcomponent
    split_ifs at hcomponent with hskip hdots
    · cases hcomponent
    · obtain rfl : String.ofList chars = name := by simpa using hcomponent
      exact ⟨fun h => hskip (.inl h), fun h => hskip (.inr h), hdots, by simpa using hslash⟩

/-! ### Trees -/

inductive Entry (β : Type) where
  | dir (entries : List (String × Entry β))
  | file (mode : ℕ) (content : β)
  | link (target : String)

/-- What stands at a path below an entry.  No link is followed: nothing stands below a link, or below a file. -/
def Entry.find {β : Type} : Entry β → Path → Option (Entry β)
  | e, [] => some e
  | .dir entries, name :: rest => (entries.lookup name).bind fun child => child.find rest
  | .file _ _, _ :: _ => none
  | .link _, _ :: _ => none

/-- A tree; its root is a directory. -/
structure LinkTree (β : Type) where
  entries : List (String × Entry β)

inductive Errno where
  | noent
  | notdir
  | loop
  | inval
  | acces
  | io
  deriving DecidableEq

/-- The part of the flags of an `open` that matters for the way it takes. -/
structure OFlags where
  nofollow : Bool
  directory : Bool

/-- The most links that one resolution follows. -/
def linkLimit : ℕ := 40

namespace LinkTree

variable {β : Type} (t : LinkTree β)

def find (p : Path) : Option (Entry β) := (Entry.dir t.entries).find p

def IsDir (p : Path) : Prop := ∃ entries, t.find p = some (.dir entries)

/-- One resolution up to the next link: `follow` goes on from there. -/
def walk (follow : Path → List String → Except Errno Path) : Path → List String → Except Errno Path
  | current, [] => .ok current
  | current, segment :: rest =>
    match t.find current with
    | some (.dir _) =>
      if segment = "" ∨ segment = "." then walk follow current rest
      else if segment = ".." then walk follow current.dropLast rest
      else
        match t.find (current ++ [segment]) with
        | none => .error .noent
        | some (.link target) => follow (if isAbsolute target then [] else current) (segments target ++ rest)
        | some _ => walk follow (current ++ [segment]) rest
    | _ => .error .notdir

/-- Resolution of a path that follows all links, a bounded number of them. -/
def resolve : ℕ → Path → List String → Except Errno Path
  | 0 => t.walk fun _ _ => .error .loop
  | n + 1 => t.walk (resolve n)

/-- `realpath` of a path in the working directory. -/
def canonicalize (cwd : Path) (path : String) : Except Errno Path :=
  if path = "" then .error .noent
  else t.resolve linkLimit [] ((if isAbsolute path then [] else cwd) ++ segments path)

/-- `open` for reading, of the absolute path with these names. -/
def openPath (names : List String) : Except Errno Path := t.resolve linkLimit [] names

/-- Opens what is not a link. -/
def access (directory : Bool) (p : Path) : Except Errno Path :=
  match t.find p with
  | none => .error .noent
  | some (.file _ _) => if directory then .error .notdir else .ok p
  | some _ => .ok p

/-- `openat` for reading, of one name in an open directory. -/
def openat (current : Path) (name : String) (flags : OFlags) : Except Errno Path :=
  if '\x00' ∈ name.toList then .error .inval
  else
    match t.find current with
    | some (.dir _) =>
      match t.find (current ++ [name]) with
      | some (.link target) =>
        if flags.nofollow then .error .loop
        else (t.resolve linkLimit (if isAbsolute target then [] else current) (segments target)).bind (t.access flags.directory)
      | _ => t.access flags.directory (current ++ [name])
    | _ => .error .notdir

/-- `fstat` of an open file. -/
def fstat (p : Path) : Except Errno (Entry β) :=
  match t.find p with
  | none => .error .noent
  | some e => .ok e

end LinkTree

/-! ### What is found -/

section Find

variable {β : Type} {e e' : Entry β} {t : LinkTree β} {p q : Path}

theorem Entry.find_append : e.find (p ++ q) = (e.find p).bind fun e' => e'.find q := by
  induction p generalizing e with
  | nil => rw [List.nil_append, Entry.find, Option.bind_some]
  | cons name p ih =>
    rw [List.cons_append]
    cases e with
    | dir entries =>
      rw [Entry.find, Entry.find, Option.bind_assoc]
      congr 1
      funext child
      exact ih
    | file mode content => rfl
    | link target => rfl

/-- Whatever stands below a path, a directory stands at it. -/
theorem LinkTree.isDir_of_find_append (h : t.find (p ++ q) = some e) (hq : q ≠ []) : t.IsDir p := by
  unfold LinkTree.find at h
  rw [Entry.find_append, Option.bind_eq_some_iff] at h
  obtain ⟨e', hp, he⟩ := h
  cases q with
  | nil => exact absurd rfl hq
  | cons name q =>
    cases e' with
    | dir entries => exact ⟨entries, hp⟩
    | file mode content => cases he
    | link target => cases he

/-- On the way to what is found there are directories only. -/
theorem LinkTree.isDir_before (h : t.find q = some e) (hp : p <+: q) (hne : p ≠ q) : t.IsDir p := by
  obtain ⟨r, rfl⟩ := hp
  exact isDir_of_find_append h fun hr => hne (by rw [hr, List.append_nil])

end Find

/-! ### Resolution -/

namespace LinkTree

/-- A path without detours: ordinary names only, and no link at its end. -/
structure Canonical {β : Type} (t : LinkTree β) (p : Path) : Prop where
  names : ∀ s ∈ p, s ≠ "" ∧ s ≠ "." ∧ s ≠ ".."
  there : ∃ e, t.find p = some e ∧ ∀ target, e ≠ .link target

section Resolve

variable {β : Type} {t : LinkTree β} {p : Path} {follow : Path → List String → Except Errno Path}

theorem canonical_nil : t.Canonical [] := ⟨fun _ hs => (List.not_mem_nil hs).elim, _, rfl, fun _ h => by cases h⟩

theorem Canonical.dropLast (h : t.Canonical p) : t.Canonical p.dropLast := by
  rcases List.eq_nil_or_concat p with rfl | ⟨q, s, rfl⟩
  · exact h
  · obtain ⟨e, he, -⟩ := h.there
    rw [List.concat_eq_append] at h he ⊢
    rw [List.dropLast_concat]
    obtain ⟨entries, hdir⟩ := isDir_of_find_append he (List.cons_ne_nil _ _)
    exact ⟨fun x hx => h.names x (List.mem_append_left _ hx), _, hdir, fun _ h => by cases h⟩

/-- A walk that starts without detours ends without, if `follow` does so. -/
theorem walk_canonical (hfollow : ∀ q l r, t.Canonical q → follow q l = .ok r → t.Canonical r) {current : Path}
    {l : List String} (hcurrent : t.Canonical current) (h : t.walk follow current l = .ok p) : t.Canonical p := by
  induction l generalizing current with
  | nil =>
    cases h
    exact hcurrent
  | cons segment rest ih =>
    unfold walk at h
    split at h
    · split_ifs at h with hskip hdots
      · exact ih hcurrent h
      · exact ih hcurrent.dropLast h
      · rw [not_or] at hskip
        split at h
        · cases h
        · refine hfollow _ _ _ ?_ h
          split_ifs
          · exact canonical_nil
          · exact hcurrent
        · rename_i e hlink hfind
          refine ih ⟨fun s hs => ?_, e, hfind, fun target heq => hlink target (by rw [heq])⟩ h
          rw [List.mem_append, List.mem_singleton] at hs
          rcases hs with hs | rfl
          · exact hcurrent.names s hs
          · exact ⟨hskip.1, hskip.2, hdots⟩
    · cases h

theorem resolve_canonical {n : ℕ} {current : Path} {l : List String} (hcurrent : t.Canonical current)
    (h : t.resolve n current l = .ok p) : t.Canonical p := by
  induction n generalizing current l p with
  | zero => exact walk_canonical (fun _ _ _ _ h => by cases h) hcurrent h
  | succ n ih => exact walk_canonical (fun _ _ _ hq hr => ih hq hr) hcurrent h

/-- Where there are no detours, a walk arrives where it was sent. -/
theorem walk_eq {current l : Path} (hnames : ∀ s ∈ l, s ≠ "" ∧ s ≠ "." ∧ s ≠ "..")
    (hthere : ∃ e, t.find (current ++ l) = some e ∧ ∀ target, e ≠ .link target) :
    t.walk follow current l = .ok (current ++ l) := by
  induction l generalizing current with
  | nil => rw [walk, List.append_nil]
  | cons segment rest ih =>
    obtain ⟨hempty, hdot, hdots⟩ := hnames segment List.mem_cons_self
    obtain ⟨e, he, hlink⟩ := hthere
    have hsplit : current ++ segment :: rest = (current ++ [segment]) ++ rest := by simp
    obtain ⟨entries, hdir⟩ := isDir_of_find_append he (List.cons_ne_nil _ _)
    have hgo := ih (fun s hs => hnames s (List.mem_cons_of_mem _ hs)) ⟨e, hsplit ▸ he, hlink⟩
    -- the next name leads to a directory, or it is the last one
    have hnext : ∃ e', t.find (current ++ [segment]) = some e' ∧ ∀ target, e' ≠ .link target := by
      cases rest with
      | nil => exact ⟨e, he, hlink⟩
      | cons s rest =>
        obtain ⟨entries', hdir'⟩ := isDir_of_find_append (hsplit ▸ he) (List.cons_ne_nil s rest)
        exact ⟨_, hdir', fun _ h => by cases h⟩
    obtain ⟨e', hfind, hlink'⟩ := hnext
    rw [hsplit, ← hgo, walk, hdir, hfind]
    simp only [hempty, hdot, hdots, or_self, if_false]

/-- A canonical path is its own resolution. -/
theorem Canonical.openPath (h : t.Canonical p) : t.openPath p = .ok p := by
  show t.walk (t.resolve 39) [] p = .ok ([] ++ p)
  exact walk_eq h.names h.there

theorem canonicalize_canonical {cwd : Path} {path : String} (h : t.canonicalize cwd path = .ok p) : t.Canonical p := by
  unfold canonicalize at h
  by_cases hempty : path = ""
  · rw [if_pos hempty] at h
    cases h
  · rw [if_neg hempty] at h
    exact resolve_canonical canonical_nil h

end Resolve

/-! ### Opening without following -/

section Openat

variable {β : Type} {t : LinkTree β} {current p : Path} {name : String} {directory : Bool}

/-- What can be opened: a directory, and a file unless a directory is asked for. -/
def Opens (directory : Bool) : Entry β → Prop
  | .dir _ => True
  | .file _ _ => directory = false
  | .link _ => False

theorem access_ok_iff {q : Path} (hlink : ∀ target, t.find p ≠ some (.link target)) :
    t.access directory p = .ok q ↔ q = p ∧ ∃ e, t.find p = some e ∧ Opens directory e := by
  unfold access
  cases hfind : t.find p with
  | none => simp
  | some e =>
    cases e with
    | link target => exact absurd hfind (hlink target)
    | dir entries => simp [Opens, eq_comm]
    | file mode content => cases directory <;> simp [Opens, eq_comm]

/-- With `O_NOFOLLOW` a name is opened where it stands, or not at all. -/
theorem openat_ok_iff : t.openat current name ⟨true, directory⟩ = .ok p ↔
    p = current ++ [name] ∧ '\x00' ∉ name.toList ∧ ∃ e, t.find (current ++ [name]) = some e ∧ Opens directory e := by
  unfold openat
  by_cases hnul : '\x00' ∈ name.toList
  · rw [if_pos hnul]
    simp [hnul]
  · rw [if_neg hnul]
    split
    · split
      · rename_i target hlink
        simp [hlink, Opens]
      · rename_i hlink
        rw [access_ok_iff hlink]
        simp [hnul]
    · rename_i hdir
      refine iff_of_false (fun h => by cases h) ?_
      rintro ⟨-, -, e, he, -⟩
      obtain ⟨entries, hentries⟩ := isDir_of_find_append he (List.cons_ne_nil _ _)
      exact hdir entries hentries

end Openat

end LinkTree

end RssIncubator.Lib
