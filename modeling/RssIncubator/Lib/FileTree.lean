import Mathlib.Data.List.Induction
import Mathlib.Data.List.Infix

/-!
# File trees

A finite tree of directories and regular files, as the list of its entries.  The root `[]` is always a
directory; `closed` says that whatever stands in the tree stands in a directory, so a file has nothing
below it and a missing directory has no children.

Contents are of an arbitrary type `β`: all the tree needs to know about them is what an empty file
holds and what a write that was cut short leaves (`Contents`).
-/

namespace RssIncubator.Lib

abbrev Path := List String

/-- What stands at a path. -/
inductive Node (β : Type) where
  | dir
  | file (mode : ℕ) (content : β)
  deriving DecidableEq

/-- Whether a directory stands somewhere does not depend on the contents of files. -/
instance {β : Type} : (o : Option (Node β)) → Decidable (o = some .dir)
  | some .dir => isTrue rfl
  | some (.file _ _) => isFalse (by simp)
  | none => isFalse (by simp)

/-- The contents of files: the empty one, and what is left of one after its first `n` units. -/
class Contents (β : Type) where
  empty : β
  cut : ℕ → β → β

/-- The first entry of a path. -/
def lookup {β : Type} (p : Path) : List (Path × Node β) → Option (Node β)
  | [] => none
  | (q, n) :: rest => if q = p then some n else lookup p rest

/-- The node at a path; the root is a directory. -/
def nodeAt {β : Type} (entries : List (Path × Node β)) (p : Path) : Option (Node β) :=
  if p = [] then some .dir else lookup p entries

structure FileTree (β : Type) where
  entries : List (Path × Node β)
  /-- Whatever stands in the tree stands in a directory. -/
  closed : ∀ p, nodeAt entries p ≠ none → nodeAt entries p.dropLast = some .dir

/-! ### Entries -/

section Entries

variable {β : Type} {p q r : Path} {l : List (Path × Node β)}

theorem lookup_filter (f : Path → Bool) :
    lookup p (l.filter fun e => f e.1) = if f p then lookup p l else none := by
  induction l with
  | nil => simp [lookup]
  | cons e l ih =>
    obtain ⟨k, n⟩ := e
    by_cases hk : k = p
    · subst hk
      by_cases hf : f k <;> simp [lookup, hf, ih]
    · by_cases hf : f k <;> simp [lookup, hf, hk, ih]

theorem lookup_isSome_iff : (lookup p l).isSome ↔ ∃ n, (p, n) ∈ l := by
  induction l with
  | nil => simp [lookup]
  | cons e l ih =>
    obtain ⟨k, n⟩ := e
    by_cases hk : k = p
    · subst hk; simp [lookup]
    · have hk' : ¬ p = k := fun h => hk h.symm
      simp [lookup, hk, hk', ih]

@[simp] theorem nodeAt_nil : nodeAt l [] = some .dir := rfl

theorem nodeAt_of_ne (h : p ≠ []) : nodeAt l p = lookup p l := if_neg h

/-- Where an entry goes when everything below `p` is moved below `q`, replacing what was there. -/
def relocate (p q : Path) (e : Path × Node β) : Option (Path × Node β) :=
  if p <+: e.1 then some (q ++ e.1.drop p.length, e.2)
  else if q <+: e.1 then none
  else some e

/-- The entries after everything below `p` has moved below `q`: the path `q ++ s` holds what `p ++ s`
held, and nothing is left below `p`. -/
theorem lookup_relocate :
    lookup r (l.filterMap (relocate p q)) =
      if q <+: r then lookup (p ++ r.drop q.length) l else if p <+: r then none else lookup r l := by
  induction l with
  | nil => simp [lookup]
  | cons e l ih =>
    obtain ⟨k, n⟩ := e
    by_cases hk : p <+: k
    · -- the entry moves: it is found at `q ++ s` exactly when `k = p ++ s`
      obtain ⟨s, rfl⟩ := hk
      have hrel : relocate p q (p ++ s, n) = some (q ++ s, n) := by simp [relocate]
      rw [List.filterMap_cons_some hrel]
      by_cases hr : q <+: r
      · obtain ⟨s', rfl⟩ := hr
        simp only [lookup, List.append_cancel_left_eq, ih, List.prefix_append, if_true, List.drop_left]
      · have hne : q ++ s ≠ r := fun h => hr ⟨s, h⟩
        simp only [lookup, hne, if_false, ih, hr]
        by_cases hpr : p <+: r
        · simp [hpr]
        · have hne' : p ++ s ≠ r := fun h => hpr ⟨s, h⟩
          simp [hpr, hne']
    · by_cases hq : q <+: k
      · -- the entry is replaced
        have hrel : relocate p q (k, n) = none := by simp [relocate, hk, hq]
        rw [List.filterMap_cons_none hrel, ih]
        by_cases hr : q <+: r
        · have hne : k ≠ p ++ r.drop q.length := fun h => hk ⟨_, h.symm⟩
          simp [hr, lookup, hne]
        · have hne : k ≠ r := fun h => hr (h ▸ hq)
          simp [hr, lookup, hne]
      · -- the entry stays
        have hrel : relocate p q (k, n) = some (k, n) := by simp [relocate, hk, hq]
        rw [List.filterMap_cons_some hrel]
        by_cases hr : q <+: r
        · have hne : k ≠ r := fun h => hq (h ▸ hr)
          have hne' : k ≠ p ++ r.drop q.length := fun h => hk ⟨_, h.symm⟩
          simp [hr, lookup, hne, hne', ih]
        · by_cases hpr : p <+: r
          · have hne : k ≠ r := fun h => hk (h ▸ hpr)
            simp [hr, hpr, lookup, hne, ih]
          · simp [hr, hpr, lookup, ih]

theorem nodeAt_put {n : Node β} (hp : p ≠ []) :
    nodeAt ((p, n) :: l.filter fun e => e.1 ≠ p) r = if r = p then some n else nodeAt l r := by
  by_cases hr : r = []
  · subst hr; simp [Ne.symm hp]
  · rw [nodeAt_of_ne hr, nodeAt_of_ne hr]
    by_cases hrp : r = p
    · simp [lookup, hrp]
    · have hpr : ¬ p = r := fun h => hrp h.symm
      simp only [lookup, hpr, if_false, hrp]
      rw [lookup_filter fun x => decide (x ≠ p)]
      simp [hrp]

theorem nodeAt_filter {f : Path → Bool} (hf : f [] = true) :
    nodeAt (l.filter fun e => f e.1) r = if f r then nodeAt l r else none := by
  by_cases hr : r = []
  · subst hr; simp [hf]
  · rw [nodeAt_of_ne hr, nodeAt_of_ne hr, lookup_filter]

theorem nodeAt_relocate (hp : p ≠ []) (hq : q ≠ []) :
    nodeAt (l.filterMap (relocate p q)) r =
      if q <+: r then nodeAt l (p ++ r.drop q.length) else if p <+: r then none else nodeAt l r := by
  by_cases hr : r = []
  · subst hr; simp [hp, hq]
  · rw [nodeAt_of_ne hr, nodeAt_of_ne hr, nodeAt_of_ne (by simp [hp]), lookup_relocate]

end Entries

namespace FileTree

variable {β : Type}

/-- The node at a path. -/
def get (t : FileTree β) (p : Path) : Option (Node β) := nodeAt t.entries p

/-- The empty directory. -/
def empty : FileTree β := ⟨[], fun p hp => by
  by_cases h : p = []
  · simp [h]
  · simp [nodeAt_of_ne h, lookup] at hp⟩

@[simp] theorem get_nil (t : FileTree β) : t.get [] = some .dir := rfl

theorem get_empty {p : Path} (h : p ≠ []) : (empty : FileTree β).get p = none := by
  simp [get, empty, nodeAt_of_ne h, lookup]

theorem get_dropLast (t : FileTree β) {p : Path} (h : t.get p ≠ none) : t.get p.dropLast = some .dir :=
  t.closed p h

/-- A directory stands above every node. -/
theorem get_above (t : FileTree β) {p : Path} : ∀ {s : Path}, s ≠ [] → t.get (p ++ s) ≠ none →
    t.get p = some .dir := by
  intro s
  induction s using List.reverseRecOn with
  | nil => intro h; exact absurd rfl h
  | append_singleton s a ih =>
    intro _ hget
    have hup : t.get (p ++ s) = some .dir := by
      have := t.get_dropLast hget
      rwa [← List.append_assoc, List.dropLast_concat] at this
    by_cases hs : s = []
    · subst hs; simpa using hup
    · exact ih hs (by rw [hup]; simp)

/-- Nothing stands below a missing path or a file. -/
theorem get_below (t : FileTree β) {p r : Path} (hp : t.get p ≠ some .dir) (hpr : p <+: r) (hne : r ≠ p) :
    t.get r = none := by
  obtain ⟨s, rfl⟩ := hpr
  by_contra h
  exact hp (t.get_above (by rintro rfl; simp at hne) h)

/-! ### Putting, pruning and moving -/

/-- A path is longer than its directory. -/
theorem dropLast_ne {p : Path} (hp : p ≠ []) : p.dropLast ≠ p := by
  intro h
  have := congrArg List.length h
  rw [List.length_dropLast] at this
  have := List.length_pos_iff.2 hp
  omega

/-- Put a node in an existing directory, over nothing or over a file. -/
def put (t : FileTree β) (p : Path) (n : Node β) (hpar : t.get p.dropLast = some .dir)
    (hfree : t.get p ≠ some .dir) : FileTree β where
  entries := (p, n) :: t.entries.filter fun e => e.1 ≠ p
  closed := by
    have hp : p ≠ [] := by rintro rfl; exact hfree rfl
    intro r hr
    rw [nodeAt_put hp] at hr ⊢
    by_cases hrp : r = p
    · subst hrp
      rw [if_neg (dropLast_ne hp)]
      exact hpar
    · rw [if_neg hrp] at hr
      have hup := t.closed r hr
      rw [if_neg fun h : r.dropLast = p => hfree (h ▸ hup)]
      exact hup

theorem get_put (t : FileTree β) {p r : Path} {n : Node β} (hpar : t.get p.dropLast = some .dir)
    (hfree : t.get p ≠ some .dir) : (t.put p n hpar hfree).get r = if r = p then some n else t.get r :=
  nodeAt_put (by rintro rfl; exact hfree rfl)

/-- The path lies at or below one of the paths of a list, the root not counted among them. -/
def Below (ps : List Path) (r : Path) : Prop := ∃ p ∈ ps, p ≠ [] ∧ p <+: r

instance (ps : List Path) (r : Path) : Decidable (Below ps r) := inferInstanceAs (Decidable (∃ p ∈ ps, _))

theorem not_below_nil (ps : List Path) : ¬ Below ps [] := by
  rintro ⟨p, -, h1, h2⟩
  exact h1 (List.prefix_nil.1 h2)

theorem Below.of_dropLast {ps : List Path} {r : Path} (h : Below ps r.dropLast) : Below ps r := by
  obtain ⟨p, hp, h1, h2⟩ := h
  exact ⟨p, hp, h1, h2.trans (List.dropLast_prefix r)⟩

/-- Remove the subtrees at the paths of a list, the root excepted. -/
def prune (t : FileTree β) (ps : List Path) : FileTree β where
  entries := t.entries.filter fun e => ¬ Below ps e.1
  closed := by
    intro r hr
    rw [nodeAt_filter (f := fun r => decide (¬ Below ps r)) (by simp [not_below_nil])] at hr ⊢
    by_cases h : Below ps r
    · simp [h] at hr
    · -- what survives keeps its directory: a path pruned above it would have pruned it too
      have h' : ¬ Below ps r.dropLast := fun hd => h hd.of_dropLast
      simp only [h, h', not_false_eq_true, decide_true, if_true] at hr ⊢
      exact t.closed r hr

theorem get_prune (t : FileTree β) (ps : List Path) (r : Path) :
    (t.prune ps).get r = if Below ps r then none else t.get r := by
  unfold get prune
  rw [nodeAt_filter (f := fun r => decide (¬ Below ps r)) (by simp [not_below_nil])]
  by_cases h : Below ps r <;> simp [h]

/-- Move the subtree at `p` to `q`, in an existing directory outside it, over whatever stood there. -/
def move (t : FileTree β) (p q : Path) (hp : p ≠ []) (hpar : t.get q.dropLast = some .dir)
    (hout : ¬ p <+: q.dropLast) (hq : q ≠ []) : FileTree β where
  entries := t.entries.filterMap (relocate p q)
  closed := by
    intro r hr
    rw [nodeAt_relocate hp hq] at hr ⊢
    by_cases hqr : q <+: r
    · obtain ⟨s, rfl⟩ := hqr
      by_cases hs : s = []
      · -- the moved node itself: its new directory stands outside both subtrees
        subst hs
        have hnq : ¬ q <+: q.dropLast := fun h =>
          dropLast_ne hq ((List.dropLast_prefix q).eq_of_length_le h.length_le)
        simp only [List.append_nil]
        rw [if_neg hnq, if_neg hout]
        exact hpar
      · rw [if_pos (List.prefix_append q s), List.drop_left] at hr
        rw [List.dropLast_append_of_ne_nil hs, if_pos (List.prefix_append _ _), List.drop_left]
        have := t.closed _ hr
        rwa [List.dropLast_append_of_ne_nil hs] at this
    · rw [if_neg hqr] at hr
      by_cases hpr : p <+: r
      · rw [if_pos hpr] at hr
        exact absurd rfl hr
      · rw [if_neg hpr] at hr
        rw [if_neg fun h => hqr (h.trans (List.dropLast_prefix r)),
          if_neg fun h => hpr (h.trans (List.dropLast_prefix r))]
        exact t.closed r hr

theorem get_move (t : FileTree β) {p q r : Path} (hp : p ≠ []) (hpar : t.get q.dropLast = some .dir)
    (hout : ¬ p <+: q.dropLast) (hq : q ≠ []) :
    (t.move p q hp hpar hout hq).get r =
      if q <+: r then t.get (p ++ r.drop q.length) else if p <+: r then none else t.get r :=
  nodeAt_relocate hp hq

/-- The names in a directory. -/
def names (t : FileTree β) (p : Path) : List String :=
  t.entries.filterMap fun e => if e.1.dropLast = p then e.1.getLast? else none

end FileTree

end RssIncubator.Lib
