import Mathlib.Data.List.Basic
import Mathlib.Data.List.Infix

/-!
# Conditions along a run

A run is a list of steps.  `AtEvery P l` asks of every step of `l` that `P` holds of it, given the steps
before it.  `atEvery_concat` is the rule for proofs by induction on the last step, `atEvery_cons` the one for
runs that are written out.
-/

namespace RssIncubator.Lib

section

variable {α : Type} {P : List α → α → Prop} {l : List α} {x : α}

/-- A condition on every step of a run, given the steps before it. -/
def AtEvery (P : List α → α → Prop) (l : List α) : Prop := ∀ p x, p ++ [x] <+: l → P p x

theorem atEvery_nil : AtEvery P [] := by
  intro p x h
  have := List.prefix_nil.1 h
  simp at this

theorem atEvery_concat : AtEvery P (l ++ [x]) ↔ AtEvery P l ∧ P l x := by
  constructor
  · intro h
    exact ⟨fun p y hp => h p y (hp.trans (List.prefix_append _ _)), h l x List.prefix_rfl⟩
  · rintro ⟨h, hx⟩ p y hp
    rcases List.prefix_concat_iff.1 hp with he | hp
    · obtain ⟨rfl, hlast⟩ := List.append_inj' he rfl
      obtain rfl := List.singleton_inj.1 hlast
      exact hx
    · exact h p y hp

theorem atEvery_cons : AtEvery P (x :: l) ↔ P [] x ∧ AtEvery (fun p => P (x :: p)) l := by
  constructor
  · intro h
    refine ⟨h [] x ⟨l, rfl⟩, fun p y hp => h (x :: p) y ?_⟩
    exact List.cons_prefix_cons.2 ⟨rfl, hp⟩
  · rintro ⟨hx, h⟩ p y hp
    cases p with
    | nil =>
      obtain ⟨rfl, -⟩ := List.cons_prefix_cons.1 hp
      exact hx
    | cons z p =>
      obtain ⟨rfl, hp'⟩ := List.cons_prefix_cons.1 hp
      exact h p y hp'

end

end RssIncubator.Lib
