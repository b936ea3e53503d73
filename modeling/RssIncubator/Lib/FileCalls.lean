import RssIncubator.Lib.Prog
import RssIncubator.Lib.FileTree

/-!
# File-system calls that may fail or be the last one

Every call is given a verdict by its environment: it takes effect, it fails, or the machine stops while
it runs.  A call that does not take effect may still have done part of its work: a write leaves the
beginning of what it wrote, the removal of a directory leaves any part of the directory.  A rename is
atomic.

What may be read off every call, whatever its verdict, is which paths it touches (`Untouched`); what a
call that returned has done is stated per call.
-/

namespace RssIncubator.Lib

/-- How much of an interrupted call took place: the units a write had written, the subtrees a removal
had removed. -/
structure Progress where
  written : ℕ
  removed : List Path
  deriving DecidableEq

/-- What the environment decides about one call. -/
inductive Verdict where
  | pass
  | fail (done : Progress)
  | crash (done : Progress)
  deriving DecidableEq

/-- The kinds of error a caller can tell apart. -/
inductive CallError where
  | notFound
  | other
  deriving DecidableEq

open Prog FileTree

variable {α β ε : Type}

/-- A call with the given effect; `torn` is what an interrupted one leaves. -/
def call (v : Verdict) (run : FileTree β → Except CallError (α × FileTree β))
    (torn : Progress → FileTree β → FileTree β) : Prog (FileTree β) CallError α := fun t =>
  match v with
  | .pass =>
    match run t with
    | .ok (a, t') => (.ok a, t')
    | .error e => (.err e, t)
  | .fail done => (.err .other, torn done t)
  | .crash done => (.crash, torn done t)

/-- The tree an interrupted read, open, sync, creation or rename leaves. -/
abbrev intact (_ : Progress) (t : FileTree β) : FileTree β := t

/-- `Path::exists`: a lookup that cannot be made counts as a missing path. -/
def pathExists (v : Verdict) (p : Path) : Prog (FileTree β) ε Bool := fun t =>
  match v with
  | .pass => (.ok (t.get p).isSome, t)
  | .fail _ => (.ok false, t)
  | .crash _ => (.crash, t)

/-- Read a file. -/
def readFile (v : Verdict) (p : Path) : Prog (FileTree β) CallError β :=
  call v (fun t =>
    match t.get p with
    | some (.file _ c) => .ok (c, t)
    | some .dir => .error .other
    | none => .error .notFound) intact

/-- The permission bits of a path; directories are created with the default ones. -/
def fileMode (v : Verdict) (p : Path) : Prog (FileTree β) CallError ℕ :=
  call v (fun t =>
    match t.get p with
    | some (.file m _) => .ok (m, t)
    | some .dir => .ok (0o755, t)
    | none => .error .notFound) intact

/-- List a directory. -/
def readDir (v : Verdict) (p : Path) : Prog (FileTree β) CallError (List String) :=
  call v (fun t =>
    match t.get p with
    | some .dir => .ok (t.names p, t)
    | some (.file _ _) => .error .other
    | none => .error .notFound) intact

/-- Open a path for reading. -/
def openPath (v : Verdict) (p : Path) : Prog (FileTree β) CallError Unit :=
  call v (fun t => if (t.get p).isSome then .ok ((), t) else .error .notFound) intact

/-- Flush an open file or directory. -/
def syncAll (v : Verdict) : Prog (FileTree β) CallError Unit := call v (fun t => .ok ((), t)) intact

/-- Put a node where nothing stands. -/
def putNew (t : FileTree β) (p : Path) (n : Node β) : Except CallError (Unit × FileTree β) :=
  if hfree : t.get p = none then
    if hpar : t.get p.dropLast = some .dir then .ok ((), t.put p n hpar (by simp [hfree]))
    else .error .notFound
  else .error .other

/-- Create a file that must not exist. -/
def createNew [Contents β] (v : Verdict) (p : Path) (mode : ℕ) : Prog (FileTree β) CallError Unit :=
  call v (fun t => putNew t p (.file mode Contents.empty)) intact

/-- Open a file for writing, creating it empty unless it exists. -/
def openCreate [Contents β] (v : Verdict) (p : Path) (mode : ℕ) : Prog (FileTree β) CallError Unit :=
  call v (fun t =>
    match t.get p with
    | some (.file _ _) => .ok ((), t)
    | some .dir => .error .other
    | none => putNew t p (.file mode Contents.empty)) intact

/-- Replace the contents of a file; nothing happens where no file stands. -/
def rewrite (t : FileTree β) (p : Path) (c : β) : FileTree β :=
  match h : t.get p with
  | some (.file m _) => t.put p (.file m c) (t.get_dropLast (by simp [h])) (by simp [h])
  | _ => t

/-- Write the whole contents of a freshly created file. -/
def writeAll [Contents β] (v : Verdict) (p : Path) (c : β) : Prog (FileTree β) CallError Unit :=
  call v (fun t => .ok ((), rewrite t p c)) fun done t => rewrite t p (Contents.cut done.written c)

/-- Remove a file. -/
def removeFile (v : Verdict) (p : Path) : Prog (FileTree β) CallError Unit :=
  call v (fun t =>
    match t.get p with
    | some (.file _ _) => .ok ((), t.prune [p])
    | some .dir => .error .other
    | none => .error .notFound) intact

/-- Remove a directory and everything in it, the directory last. -/
def removeDirAll (v : Verdict) (p : Path) : Prog (FileTree β) CallError Unit :=
  call v (fun t =>
    match t.get p with
    | some .dir => .ok ((), t.prune [p])
    | some (.file _ _) => .error .other
    | none => .error .notFound)
    fun done t => t.prune (done.removed.filter fun q => p <+: q ∧ q ≠ p)

/-- Create a directory that must not exist. -/
def createDir (v : Verdict) (p : Path) : Prog (FileTree β) CallError Unit :=
  call v (fun t => putNew t p .dir) intact

/-- Create a directory unless it exists. -/
def createDirAll (v : Verdict) (p : Path) : Prog (FileTree β) CallError Unit :=
  call v (fun t =>
    match t.get p with
    | some .dir => .ok ((), t)
    | _ => putNew t p .dir) intact

/-- A file may replace a file, a directory an empty directory. -/
def replaceable (n : Node β) (t : FileTree β) (q : Path) : Bool :=
  match n, t.get q with
  | _, none => true
  | .file _ _, some (.file _ _) => true
  | .dir, some .dir => (t.names q).isEmpty
  | _, _ => false

/-- Move a node, atomically. -/
def rename (v : Verdict) (p q : Path) : Prog (FileTree β) CallError Unit :=
  call v (fun t =>
    match t.get p with
    | none => .error .notFound
    | some n =>
      if h : p ≠ [] ∧ t.get q.dropLast = some .dir ∧ ¬ p <+: q.dropLast ∧ q ≠ [] then
        if replaceable n t q then .ok ((), t.move p q h.1 h.2.1 h.2.2.1 h.2.2.2) else .error .other
      else .error .other) intact

/-! ### What a call touches -/

/-- The two trees agree outside `U`. -/
def Untouched (U : Path → Prop) (t t' : FileTree β) : Prop := ∀ r, ¬ U r → t'.get r = t.get r

section Untouched

variable {U : Path → Prop} {t t' t'' : FileTree β} {p q : Path} {v : Verdict}

theorem Untouched.refl (t : FileTree β) : Untouched U t t := fun _ _ => rfl

theorem Untouched.trans (h : Untouched U t t') (h' : Untouched U t' t'') : Untouched U t t'' :=
  fun r hr => (h' r hr).trans (h r hr)

theorem Untouched.mono {V : Path → Prop} (hUV : ∀ r, U r → V r) (h : Untouched U t t') : Untouched V t t' :=
  fun r hr => h r fun hU => hr (hUV r hU)

theorem Untouched.bind {γ : Type} {x : Prog (FileTree β) ε α} {f : α → Prog (FileTree β) ε γ}
    (hx : Moves (Untouched U) x) (hf : ∀ a, Moves (Untouched U) (f a)) : Moves (Untouched U) (x >>= f) :=
  Moves.bind (R := Untouched U) (fun h h' => h.trans h') hx hf

/-- A program that never changes the tree. -/
theorem Untouched.of_tree {x : Prog (FileTree β) ε α} (h : ∀ t, (x t).2 = t) : Moves (Untouched U) x := fun t => by
  rw [h]; exact Untouched.refl t

/-- A call moves the tree as its effect and its interruption do. -/
theorem call_moves {R : FileTree β → FileTree β → Prop} (hr : ∀ t, R t t)
    {run : FileTree β → Except CallError (α × FileTree β)} {torn : Progress → FileTree β → FileTree β}
    (hrun : ∀ t a t', run t = .ok (a, t') → R t t') (htorn : ∀ done t, R t (torn done t)) :
    Moves R (call v run torn) := by
  intro t
  unfold call
  cases v with
  | pass =>
    rcases h : run t with e | ⟨a, t'⟩
    · exact hr t
    · exact hrun t a t' h
  | fail done => exact htorn done t
  | crash done => exact htorn done t

/-- What a call that returned has done. -/
theorem call_ok {run : FileTree β → Except CallError (α × FileTree β)}
    {torn : Progress → FileTree β → FileTree β} {a : α} (h : (call v run torn t).1 = .ok a) :
    v = .pass ∧ run t = .ok (a, (call v run torn t).2) := by
  unfold call at h ⊢
  cases v with
  | pass =>
    rcases hr : run t with e | ⟨b, t'⟩ <;> rw [hr] at h
    · cases h
    · cases h; exact ⟨rfl, rfl⟩
  | fail done => cases h
  | crash done => cases h

/-- Calls that read leave the tree alone. -/
theorem call_reads {run : FileTree β → Except CallError (α × FileTree β)}
    (hrun : ∀ t a t', run t = .ok (a, t') → t' = t) (t : FileTree β) : (call v run intact t).2 = t :=
  call_moves (R := fun t t' => t' = t) (fun _ => rfl) hrun (fun _ _ => rfl) t

theorem pathExists_tree (v : Verdict) (p : Path) (t : FileTree β) :
    ((pathExists v p : Prog (FileTree β) ε Bool) t).2 = t := by cases v <;> rfl

theorem readFile_tree (v : Verdict) (p : Path) (t : FileTree β) : (readFile v p t).2 = t :=
  call_reads (fun t a t' h => by
    split at h <;> simp_all) t

theorem fileMode_tree (v : Verdict) (p : Path) (t : FileTree β) : (fileMode v p t).2 = t :=
  call_reads (fun t a t' h => by
    split at h <;> simp_all) t

theorem readDir_tree (v : Verdict) (p : Path) (t : FileTree β) : (readDir v p t).2 = t :=
  call_reads (fun t a t' h => by
    split at h <;> simp_all) t

theorem openPath_tree (v : Verdict) (p : Path) (t : FileTree β) : (openPath v p t).2 = t :=
  call_reads (fun t a t' h => by
    split at h <;> simp_all) t

theorem syncAll_tree (v : Verdict) (t : FileTree β) : (syncAll v t).2 = t :=
  call_reads (fun t a t' h => by simp_all) t

theorem get_rewrite (t : FileTree β) (p r : Path) (c : β) :
    (rewrite t p c).get r =
      if r = p then (t.get p).map (fun | .file m _ => .file m c | .dir => .dir) else t.get r := by
  unfold rewrite
  split
  · rename_i m c' h
    rw [get_put, h]
    rfl
  · rename_i h
    by_cases hr : r = p
    · subst hr
      rcases hg : t.get r with _ | _ | ⟨m, c'⟩
      · simp
      · simp
      · exact absurd hg (h m c')
    · rw [if_neg hr]

theorem putNew_eq_ok {n : Node β} {u : Unit} (h : putNew t p n = .ok (u, t')) :
    t.get p = none ∧ ∀ r, t'.get r = if r = p then some n else t.get r := by
  unfold putNew at h
  split at h
  · rename_i hfree
    split at h
    · cases h
      exact ⟨hfree, fun r => get_put ..⟩
    · cases h
  · cases h

theorem untouched_of_get {f : Option (Node β)} (h : ∀ r, t'.get r = if r = p then f else t.get r)
    (hp : U p) : Untouched U t t' := fun r hr => by
  rw [h, if_neg]; rintro rfl; exact hr hp

theorem createNew_moves [Contents β] (v : Verdict) (mode : ℕ) (hp : U p) :
    Moves (Untouched U) (createNew v p mode : Prog (FileTree β) CallError Unit) :=
  call_moves Untouched.refl (fun _ _ _ h => untouched_of_get (putNew_eq_ok h).2 hp)
    fun _ _ => Untouched.refl _

theorem writeAll_moves [Contents β] (v : Verdict) (c : β) (hp : U p) :
    Moves (Untouched U) (writeAll v p c : Prog (FileTree β) CallError Unit) :=
  call_moves Untouched.refl
    (fun t _ t' h => by
      simp only [Except.ok.injEq, Prod.mk.injEq, true_and] at h
      subst h
      exact untouched_of_get (fun r => get_rewrite t p r c) hp)
    fun _ t => untouched_of_get (fun r => get_rewrite t p r _) hp

theorem untouched_prune {ps : List Path} (h : ∀ q ∈ ps, p <+: q) (hU : ∀ r, p <+: r → U r) :
    Untouched U t (t.prune ps) := fun r hr => by
  rw [get_prune, if_neg]
  rintro ⟨q, hq, -, hqr⟩
  exact hr (hU r ((h q hq).trans hqr))

theorem removeFile_moves (v : Verdict) (hU : ∀ r, p <+: r → U r) :
    Moves (Untouched U) (removeFile v p : Prog (FileTree β) CallError Unit) :=
  call_moves Untouched.refl
    (fun t _ t' h => by
      split at h <;> simp only [reduceCtorEq, Except.ok.injEq, Prod.mk.injEq, true_and] at h
      subst h
      exact untouched_prune (by simp) hU)
    fun _ _ => Untouched.refl _

theorem removeDirAll_moves (v : Verdict) (hU : ∀ r, p <+: r → U r) :
    Moves (Untouched U) (removeDirAll v p : Prog (FileTree β) CallError Unit) :=
  call_moves Untouched.refl
    (fun t _ t' h => by
      split at h <;> simp only [reduceCtorEq, Except.ok.injEq, Prod.mk.injEq, true_and] at h
      subst h
      exact untouched_prune (by simp) hU)
    fun _ t => untouched_prune (fun q hq => by simp at hq; exact hq.2.1) hU

/-- A rename either leaves the tree alone or moves the subtree. -/
theorem rename_cases (v : Verdict) (p q : Path) (t : FileTree β) :
    ((rename v p q t).2 = t ∧ ((rename v p q t).1 ≠ .ok ())) ∨
    (v = .pass ∧ (rename v p q t).1 = .ok () ∧ (∃ n, t.get p = some n ∧ replaceable n t q = true) ∧
      ∀ r, (rename v p q t).2.get r =
        if q <+: r then t.get (p ++ r.drop q.length) else if p <+: r then none else t.get r) := by
  unfold rename call
  cases v with
  | fail done => exact .inl ⟨rfl, by simp⟩
  | crash done => exact .inl ⟨rfl, by simp⟩
  | pass =>
    rcases hp : t.get p with _ | n
    · simp [hp]
    · by_cases h : p ≠ [] ∧ t.get q.dropLast = some .dir ∧ ¬ p <+: q.dropLast ∧ q ≠ []
      · by_cases hrep : replaceable n t q
        · refine .inr ⟨rfl, ?_⟩
          simp only [hp, dif_pos h, if_pos hrep]
          exact ⟨trivial, ⟨n, rfl, hrep⟩, fun r => get_move ..⟩
        · simp [hp, h, hrep]
      · simp only [hp, dif_neg h]
        exact .inl ⟨trivial, by simp⟩

end Untouched

/-! ### What a call that returned has done -/

section Returned

variable {t : FileTree β} {p q : Path} {v : Verdict} {n : Node β}

theorem createNew_ok [Contents β] {mode : ℕ} {u : Unit} (h : (createNew v p mode t).1 = .ok u) :
    v = .pass ∧ t.get p = none ∧
      ∀ r, (createNew v p mode t).2.get r = if r = p then some (.file mode Contents.empty) else t.get r := by
  obtain ⟨hv, hrun⟩ := call_ok h
  exact ⟨hv, putNew_eq_ok hrun⟩

theorem createDir_ok {u : Unit} (h : (createDir v p t).1 = .ok u) :
    v = .pass ∧ t.get p = none ∧ ∀ r, (createDir v p t).2.get r = if r = p then some .dir else t.get r := by
  obtain ⟨hv, hrun⟩ := call_ok h
  exact ⟨hv, putNew_eq_ok hrun⟩

theorem writeAll_ok [Contents β] {c : β} {u : Unit} (h : (writeAll v p c t).1 = .ok u) :
    v = .pass ∧ (writeAll v p c t).2 = rewrite t p c := by
  obtain ⟨hv, hrun⟩ := call_ok h
  simp only [Except.ok.injEq, Prod.mk.injEq] at hrun
  exact ⟨hv, hrun.2.symm⟩

theorem readFile_ok {c : β} (h : (readFile v p t).1 = .ok c) : v = .pass ∧ ∃ mode, t.get p = some (.file mode c) := by
  obtain ⟨hv, hrun⟩ := call_ok h
  refine ⟨hv, ?_⟩
  split at hrun
  · rename_i hget
    simp only [Except.ok.injEq, Prod.mk.injEq] at hrun
    exact ⟨_, hrun.1 ▸ hget⟩
  · cases hrun
  · cases hrun

end Returned

/-! ### When a call returns -/

section Returns

variable {t : FileTree β} {p q : Path} {n : Node β}

theorem putNew_ok (hfree : t.get p = none) (hpar : t.get p.dropLast = some .dir) :
    ∃ t', putNew t p n = .ok ((), t') := by
  unfold putNew
  rw [dif_pos hfree, dif_pos hpar]
  exact ⟨_, rfl⟩

theorem createNew_pass [Contents β] {mode : ℕ} (hfree : t.get p = none) (hpar : t.get p.dropLast = some .dir) :
    (createNew .pass p mode t).1 = .ok () := by
  obtain ⟨t', h⟩ := putNew_ok (n := Node.file mode Contents.empty) hfree hpar
  simp [createNew, call, h]

theorem createDir_pass (hfree : t.get p = none) (hpar : t.get p.dropLast = some .dir) :
    (createDir .pass p t).1 = .ok () := by
  obtain ⟨t', h⟩ := putNew_ok (n := (Node.dir : Node β)) hfree hpar
  simp [createDir, call, h]

theorem removeFile_pass_file {mode : ℕ} {c : β} (h : t.get p = some (.file mode c)) :
    removeFile .pass p t = (.ok (), t.prune [p]) := by simp [removeFile, call, h]

theorem removeFile_pass_none (h : t.get p = none) : removeFile .pass p t = (.err .notFound, t) := by
  simp [removeFile, call, h]

theorem removeDirAll_pass_dir (h : t.get p = some .dir) : removeDirAll .pass p t = (.ok (), t.prune [p]) := by
  simp [removeDirAll, call, h]

theorem removeDirAll_pass_none (h : t.get p = none) : removeDirAll .pass p t = (.err .notFound, t) := by
  simp [removeDirAll, call, h]

theorem writeAll_pass [Contents β] (c : β) : (writeAll .pass p c t).1 = .ok () := rfl

theorem syncAll_pass : (syncAll .pass t).1 = .ok () := rfl

theorem rename_pass {n : Node β} (hp : t.get p = some n) (hne : p ≠ []) (hq : q ≠ [])
    (hpar : t.get q.dropLast = some .dir) (hout : ¬ p <+: q.dropLast) (hrep : replaceable n t q = true) :
    (rename .pass p q t).1 = .ok () := by
  unfold rename call
  simp only [hp]
  rw [dif_pos ⟨hne, hpar, hout, hq⟩, if_pos hrep]

/-- A directory with something in it is not replaced. -/
theorem replaceable_dir {x : String} (h : t.get (q ++ [x]) ≠ none) : replaceable n t q = false := by
  have hdir : t.get q = some .dir := t.get_above (s := [x]) (by simp) h
  have hne : (t.names q).isEmpty = false := by
    rw [List.isEmpty_eq_false_iff, FileTree.names]
    have hsome : (lookup (q ++ [x]) t.entries).isSome := by
      have : t.get (q ++ [x]) = lookup (q ++ [x]) t.entries := nodeAt_of_ne (by simp)
      rw [← this]
      exact Option.isSome_iff_ne_none.2 h
    obtain ⟨m, hm⟩ := lookup_isSome_iff.1 hsome
    intro hnil
    have : x ∈ List.filterMap (fun e : Path × Node β => if e.1.dropLast = q then e.1.getLast? else none) t.entries :=
      List.mem_filterMap.2 ⟨_, hm, by simp⟩
    rw [hnil] at this
    simp at this
  unfold replaceable
  cases n <;> simp [hdir, hne]

end Returns

end RssIncubator.Lib
