import Mathlib.Tactic.SplitIfs
import RssIncubator.Lib.Framing

/-!
# The bytes of a character

Which byte sequences encode a character, and which one, by arithmetic on the bytes: one lemma for each length.
-/

namespace RssIncubator.Lib

/-- The bytes encode the character with this number. -/
def Encodes (l : List UInt8) (n : ℕ) : Prop := ∃ c : Char, String.utf8EncodeChar c = l ∧ c.toNat = n

/-- The values of the bytes of a character. -/
def codes (n : ℕ) : List ℕ :=
  if n ≤ 0x7F then [n]
  else if n ≤ 0x7FF then [n / 64 % 32 + 0xC0, n % 64 + 0x80]
  else if n ≤ 0xFFFF then [n / 4096 % 16 + 0xE0, n / 64 % 64 + 0x80, n % 64 + 0x80]
  else [n / 262144 % 8 + 0xF0, n / 4096 % 64 + 0x80, n / 64 % 64 + 0x80, n % 64 + 0x80]

theorem codes_lt {n : ℕ} : ∀ b ∈ codes n, b < 256 := by
  unfold codes
  split_ifs <;> simp only [List.mem_cons, List.not_mem_nil, or_false, forall_eq_or_imp, forall_eq] <;> omega

theorem utf8EncodeChar_eq_codes (c : Char) : String.utf8EncodeChar c = (codes c.toNat).map UInt8.ofNat := by
  unfold String.utf8EncodeChar codes
  simp only [Char.toNat]
  split_ifs <;> rfl

/-- A number that is a character, and its bytes. -/
theorem encodes_iff {l : List UInt8} {n : ℕ} : Encodes l n ↔ n.isValidChar ∧ l.map UInt8.toNat = codes n := by
  have hback : ∀ m : List ℕ, (∀ b ∈ m, b < 256) → (m.map UInt8.ofNat).map UInt8.toNat = m := by
    intro m hm
    rw [List.map_map]
    refine (List.map_congr_left fun b hb => ?_).trans (List.map_id m)
    exact UInt8.toNat_ofNat_of_lt' (hm b hb)
  constructor
  · rintro ⟨c, rfl, rfl⟩
    exact ⟨c.valid, by rw [utf8EncodeChar_eq_codes, hback _ codes_lt]⟩
  · rintro ⟨hn, hl⟩
    have hc : (Char.ofNatAux n hn).toNat = n := rfl
    refine ⟨Char.ofNatAux n hn, ?_, hc⟩
    rw [utf8EncodeChar_eq_codes, hc, ← hl, List.map_map]
    refine (List.map_congr_left fun b _ => ?_).trans (List.map_id l)
    exact UInt8.ofNat_toNat

/-- A byte of the range of continuations. -/
def Tail (b : UInt8) : Prop := 0x80 ≤ b.toNat ∧ b.toNat ≤ 0xBF

theorem encodes_one {a : UInt8} {n : ℕ} : Encodes [a] n ↔ a.toNat ≤ 0x7F ∧ n = a.toNat := by
  simp only [encodes_iff, Nat.isValidChar, codes, List.map_cons, List.map_nil]
  split_ifs <;> simp only [List.cons.injEq, and_true, reduceCtorEq, and_false, false_iff] <;> omega

theorem encodes_two {a b : UInt8} {n : ℕ} : Encodes [a, b] n ↔
    0xC2 ≤ a.toNat ∧ a.toNat ≤ 0xDF ∧ Tail b ∧ n = (a.toNat - 0xC0) * 64 + (b.toNat - 0x80) := by
  simp only [encodes_iff, Nat.isValidChar, codes, List.map_cons, List.map_nil, Tail]
  split_ifs <;> simp only [List.cons.injEq, and_true, reduceCtorEq, and_false, false_iff] <;> omega

theorem encodes_three {a b c : UInt8} {n : ℕ} : Encodes [a, b, c] n ↔
    0xE0 ≤ a.toNat ∧ a.toNat ≤ 0xEF ∧ Tail b ∧ Tail c ∧ ¬ (a.toNat = 0xE0 ∧ b.toNat < 0xA0) ∧
      ¬ (a.toNat = 0xED ∧ 0x9F < b.toNat) ∧
      n = (a.toNat - 0xE0) * 4096 + (b.toNat - 0x80) * 64 + (c.toNat - 0x80) := by
  simp only [encodes_iff, Nat.isValidChar, codes, List.map_cons, List.map_nil, Tail]
  split_ifs <;> simp only [List.cons.injEq, and_true, reduceCtorEq, and_false, false_iff] <;> omega

theorem encodes_four {a b c d : UInt8} {n : ℕ} : Encodes [a, b, c, d] n ↔
    0xF0 ≤ a.toNat ∧ a.toNat ≤ 0xF4 ∧ Tail b ∧ Tail c ∧ Tail d ∧ ¬ (a.toNat = 0xF0 ∧ b.toNat < 0x90) ∧
      ¬ (a.toNat = 0xF4 ∧ 0x8F < b.toNat) ∧
      n = (a.toNat - 0xF0) * 262144 + (b.toNat - 0x80) * 4096 + (c.toNat - 0x80) * 64 + (d.toNat - 0x80) := by
  simp only [encodes_iff, Nat.isValidChar, codes, List.map_cons, List.map_nil, Tail]
  split_ifs <;> simp only [List.cons.injEq, and_true, reduceCtorEq, and_false, false_iff] <;> omega

/-- A character can be told from what follows. -/
theorem utf8EncodeChar_delimits : SelfDelimiting String.utf8EncodeChar := by
  intro c c' r r' h
  have hdecode : ∀ (d : Char) (r : List UInt8),
      ByteArray.utf8DecodeChar? (String.utf8EncodeChar d ++ r).toByteArray 0 = some d := by
    intro d r
    rw [List.toByteArray_append]
    exact ByteArray.utf8DecodeChar?_utf8EncodeChar_append
  have hc : c = c' := Option.some.inj ((hdecode c r).symm.trans (h ▸ hdecode c' r'))
  subst hc
  exact ⟨rfl, List.append_cancel_left h⟩

/-- No other length. -/
theorem Encodes.length {l : List UInt8} {n : ℕ} (h : Encodes l n) : 1 ≤ l.length ∧ l.length ≤ 4 := by
  obtain ⟨-, h⟩ := encodes_iff.1 h
  rw [← List.length_map (f := UInt8.toNat), h]
  unfold codes
  split_ifs <;> simp

end RssIncubator.Lib
