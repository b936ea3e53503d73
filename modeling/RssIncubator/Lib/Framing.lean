import Mathlib.Data.List.Basic
import Mathlib.Data.List.Infix
import Mathlib.Algebra.Order.Group.Nat

/-!
# Self-delimiting texts

A text is read off a longer one without looking ahead if its end can be told from itself: because all texts have one
length, because a symbol that does not occur in them ends them, or because their length comes first.  Such texts can be
written one after another and taken apart again.
-/

namespace RssIncubator.Lib

section

variable {α β γ : Type}

/-- What is written for a value ends where it ends: whatever follows, the value and the rest can be told. -/
def SelfDelimiting (f : α → List γ) : Prop := ∀ a b r r', f a ++ r = f b ++ r' → a = b ∧ r = r'

namespace SelfDelimiting

variable {f : α → List γ}

theorem injective (h : SelfDelimiting f) : Function.Injective f := fun a b he => (h a b [] [] (congrArg (· ++ []) he)).1

theorem comp (h : SelfDelimiting f) {e : β → α} (he : Function.Injective e) : SelfDelimiting fun b => f (e b) := by
  intro a b r r' heq
  obtain ⟨hab, hr⟩ := h _ _ r r' heq
  exact ⟨he hab, hr⟩

/-- No text begins another. -/
theorem of_prefixFree (h : ∀ a b, f a <+: f b → a = b) : SelfDelimiting f := by
  intro a b r r' he
  have hab : a = b := by
    rcases List.prefix_or_prefix_of_prefix (List.prefix_append (f a) r) (he ▸ List.prefix_append (f b) r') with hp | hp
    · exact h a b hp
    · exact (h b a hp).symm
  subst hab
  exact ⟨rfl, List.append_cancel_left he⟩

/-- One length for all. -/
theorem of_length (hf : Function.Injective f) (n : ℕ) (hlen : ∀ a, (f a).length = n) : SelfDelimiting f := by
  intro a b r r' h
  obtain ⟨hab, hr⟩ := List.append_inj h ((hlen a).trans (hlen b).symm)
  exact ⟨hf hab, hr⟩

/-- A last symbol that occurs nowhere else. -/
theorem of_terminator (hf : Function.Injective f) (z : γ) (hz : ∀ a, z ∉ f a) : SelfDelimiting fun a => f a ++ [z] := by
  have hsplit : ∀ l l' r r' : List γ, z ∉ l → z ∉ l' → l ++ z :: r = l' ++ z :: r' → l = l' ∧ r = r' := by
    intro l
    induction l with
    | nil =>
      intro l' r r' _ hl' h
      cases l' with
      | nil => exact ⟨rfl, (List.cons.inj h).2⟩
      | cons y l' =>
        rw [List.nil_append, List.cons_append, List.cons.injEq] at h
        exact absurd (h.1 ▸ List.mem_cons_self) hl'
    | cons x l ih =>
      intro l' r r' hl hl' h
      cases l' with
      | nil =>
        rw [List.nil_append, List.cons_append, List.cons.injEq] at h
        exact absurd (h.1 ▸ List.mem_cons_self) hl
      | cons y l' =>
        rw [List.cons_append, List.cons_append, List.cons.injEq] at h
        obtain ⟨hxy, h⟩ := h
        obtain ⟨hll, hr⟩ := ih l' r r' (fun hm => hl (List.mem_cons_of_mem _ hm)) (fun hm => hl' (List.mem_cons_of_mem _ hm)) h
        exact ⟨by rw [hxy, hll], hr⟩
  intro a b r r' h
  rw [List.append_assoc, List.append_assoc] at h
  obtain ⟨hab, hr⟩ := hsplit (f a) (f b) r r' (hz a) (hz b) h
  exact ⟨hf hab, hr⟩

/-- The length first. -/
theorem of_count {count : α → List γ} (hf : Function.Injective f)
    (hcount : ∀ a b r r', count a ++ r = count b ++ r' → (f a).length = (f b).length ∧ r = r') :
    SelfDelimiting fun a => count a ++ f a := by
  intro a b r r' h
  rw [List.append_assoc, List.append_assoc] at h
  obtain ⟨hlen, h⟩ := hcount a b _ _ h
  obtain ⟨hab, hr⟩ := List.append_inj h hlen
  exact ⟨hf hab, hr⟩

end SelfDelimiting

end

/-! ### Numbers of a fixed width -/

/-- The bytes of a number, the most significant first. -/
def bigEndian (w n : ℕ) : List UInt8 := (List.range w).map fun i => UInt8.ofNat (n / 256 ^ (w - 1 - i))

@[simp] theorem bigEndian_length (w n : ℕ) : (bigEndian w n).length = w := by simp [bigEndian]

theorem bigEndian_succ (w n : ℕ) : bigEndian (w + 1) n = bigEndian w (n / 256) ++ [UInt8.ofNat n] := by
  unfold bigEndian
  rw [List.range_succ, List.map_append]
  congr 1
  · refine List.map_congr_left fun i hi => ?_
    have hlt := List.mem_range.1 hi
    rw [Nat.div_div_eq_div_mul, ← Nat.pow_succ']
    congr 3
    omega
  · simp

theorem bigEndian_inj {w n m : ℕ} (hn : n < 256 ^ w) (hm : m < 256 ^ w) (h : bigEndian w n = bigEndian w m) : n = m := by
  induction w generalizing n m with
  | zero => omega
  | succ w ih =>
    rw [bigEndian_succ, bigEndian_succ] at h
    obtain ⟨hhigh, hlow⟩ := List.append_inj' h rfl
    have hdiv : n / 256 = m / 256 :=
      ih (Nat.div_lt_of_lt_mul (by rwa [← Nat.pow_succ'])) (Nat.div_lt_of_lt_mul (by rwa [← Nat.pow_succ'])) hhigh
    have hmod : n % 256 = m % 256 := by
      have := congrArg UInt8.toNat (List.singleton_inj.1 hlow)
      simpa using this
    omega

/-! ### Fields with their lengths -/

/-- The length of a field in bytes, and the field. -/
def counted (w : ℕ) (v : List UInt8) : List UInt8 := bigEndian w v.length ++ v

theorem counted_length (w : ℕ) (v : List UInt8) : (counted w v).length = w + v.length := by simp [counted]

theorem counted_delimits {w : ℕ} {v v' r r' : List UInt8} (hv : v.length < 256 ^ w) (hv' : v'.length < 256 ^ w)
    (h : counted w v ++ r = counted w v' ++ r') : v = v' ∧ r = r' := by
  unfold counted at h
  rw [List.append_assoc, List.append_assoc] at h
  obtain ⟨hcount, h⟩ := List.append_inj h (by simp)
  exact List.append_inj h (bigEndian_inj hv hv' hcount)

/-- As many fields on either side are the same fields. -/
theorem flatMap_counted_inj {w : ℕ} {l l' : List (List UInt8)} (hl : ∀ v ∈ l, v.length < 256 ^ w)
    (hl' : ∀ v ∈ l', v.length < 256 ^ w) (hlen : l.length = l'.length)
    (h : l.flatMap (counted w) = l'.flatMap (counted w)) : l = l' := by
  induction l generalizing l' with
  | nil => exact (List.length_eq_zero_iff.1 hlen.symm).symm
  | cons v l ih =>
    cases l' with
    | nil => cases hlen
    | cons v' l' =>
      rw [List.forall_mem_cons] at hl hl'
      rw [List.flatMap_cons, List.flatMap_cons] at h
      obtain ⟨rfl, hrest⟩ := counted_delimits hl.1 hl'.1 h
      rw [ih hl.2 hl'.2 (Nat.succ.inj hlen) hrest]

end RssIncubator.Lib
