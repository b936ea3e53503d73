import Mathlib.Data.List.Basic
import Mathlib.Algebra.Order.Group.Nat
import Mathlib.Tactic.IntervalCases

/-!
# Base 64

Three bytes are four digits of six bits.  The digits are written with an alphabet, and one or two bytes at the end are
two or three digits, which the standard form fills up with a padding byte.
-/

namespace RssIncubator.Lib

/-- The digits of bytes. -/
def sextets : List UInt8 → List ℕ
  | [] => []
  | [a] => [a.toNat / 4, a.toNat % 4 * 16]
  | [a, b] => [a.toNat / 4, a.toNat % 4 * 16 + b.toNat / 16, b.toNat % 16 * 4]
  | a :: b :: c :: rest =>
    [a.toNat / 4, a.toNat % 4 * 16 + b.toNat / 16, b.toNat % 16 * 4 + c.toNat / 64, c.toNat % 64] ++ sextets rest

/-- The bytes of digits; the bits that are left over must be zero. -/
def unsextets : List ℕ → Option (List UInt8)
  | [] => some []
  | [_] => none
  | [x, y] => if y % 16 = 0 then some [UInt8.ofNat (x * 4 + y / 16)] else none
  | [x, y, z] => if z % 4 = 0 then some [UInt8.ofNat (x * 4 + y / 16), UInt8.ofNat (y % 16 * 16 + z / 4)] else none
  | x :: y :: z :: w :: rest => do
    let bytes ← unsextets rest
    some (UInt8.ofNat (x * 4 + y / 16) :: UInt8.ofNat (y % 16 * 16 + z / 4) :: UInt8.ofNat (z % 4 * 64 + w) :: bytes)

theorem sextets_lt (l : List UInt8) : ∀ x ∈ sextets l, x < 64 := by
  have hlt : ∀ b : UInt8, b.toNat < 256 := fun b => b.toNat_lt
  fun_induction sextets l with
  | case1 => simp
  | case2 a =>
    have := hlt a
    simp only [List.mem_cons, List.not_mem_nil, or_false, forall_eq_or_imp, forall_eq]
    omega
  | case3 a b =>
    have := hlt a
    have := hlt b
    simp only [List.mem_cons, List.not_mem_nil, or_false, forall_eq_or_imp, forall_eq]
    omega
  | case4 a b c rest ih =>
    have := hlt a
    have := hlt b
    have := hlt c
    intro x hx
    rcases List.mem_append.1 hx with hx | hx
    · simp only [List.mem_cons, List.not_mem_nil, or_false] at hx
      omega
    · exact ih x hx

/-- **The bytes come back.** -/
theorem unsextets_sextets (l : List UInt8) : unsextets (sextets l) = some l := by
  have hlt : ∀ b : UInt8, b.toNat < 256 := fun b => b.toNat_lt
  have hbyte : ∀ {n : ℕ} (b : UInt8), n = b.toNat → UInt8.ofNat n = b := by
    rintro _ b rfl
    exact UInt8.ofNat_toNat
  fun_induction sextets l with
  | case1 => rfl
  | case2 a =>
    have := hlt a
    rw [unsextets, if_pos (by omega), hbyte a (by omega)]
  | case3 a b =>
    have := hlt a
    have := hlt b
    rw [unsextets, if_pos (by omega), hbyte a (by omega), hbyte b (by omega)]
  | case4 a b c rest ih =>
    have := hlt a
    have := hlt b
    have := hlt c
    simp only [List.cons_append, List.nil_append, unsextets]
    rw [ih, hbyte a (by omega), hbyte b (by omega), hbyte c (by omega)]
    rfl

theorem sextets_length (l : List UInt8) : (sextets l).length = (4 * l.length + 2) / 3 := by
  fun_induction sextets l with
  | case1 => rfl
  | case2 a => simp
  | case3 a b => simp
  | case4 a b c rest ih =>
    simp only [List.length_append, List.length_cons, List.length_nil, ih]
    omega

/-! ### Alphabets -/

/-- A letter, a digit or one of the two last signs. -/
def alphabet (plus slash : UInt8) (x : ℕ) : UInt8 :=
  if x < 26 then UInt8.ofNat (0x41 + x)
  else if x < 52 then UInt8.ofNat (0x61 + (x - 26))
  else if x < 62 then UInt8.ofNat (0x30 + (x - 52))
  else if x = 62 then plus else slash

/-- The standard alphabet, with `+` and `/`. -/
def standard : ℕ → UInt8 := alphabet 0x2B 0x2F

/-- The alphabet for URLs, with `-` and `_`. -/
def urlSafe : ℕ → UInt8 := alphabet 0x2D 0x5F

/-- The digit of a sign of the alphabet for URLs. -/
def urlSafeValue (b : UInt8) : Option ℕ :=
  if 0x41 ≤ b ∧ b ≤ 0x5A then some (b.toNat - 0x41)
  else if 0x61 ≤ b ∧ b ≤ 0x7A then some (b.toNat - 0x61 + 26)
  else if 0x30 ≤ b ∧ b ≤ 0x39 then some (b.toNat - 0x30 + 52)
  else if b = 0x2D then some 62
  else if b = 0x5F then some 63
  else none

theorem urlSafeValue_urlSafe {x : ℕ} (h : x < 64) : urlSafeValue (urlSafe x) = some x := by
  interval_cases x <;> rfl

/-- Base 64 with padding, as in `EVP_EncodeBlock`. -/
def encodeStandard (l : List UInt8) : List UInt8 :=
  (sextets l).map standard ++ List.replicate ((3 - l.length % 3) % 3) 0x3D

/-- Base 64 for URLs, without padding. -/
def encodeUrlSafe (l : List UInt8) : List UInt8 := (sextets l).map urlSafe

/-- `URL_SAFE_NO_PAD.decode`. -/
def decodeUrlSafe (text : List UInt8) : Option (List UInt8) := text.mapM urlSafeValue >>= unsextets

/-- What the signs of the standard alphabet are changed to. -/
def toUrlSafe (b : UInt8) : UInt8 := if b = 0x2B then 0x2D else if b = 0x2F then 0x5F else b

theorem toUrlSafe_standard {x : ℕ} (h : x < 64) : toUrlSafe (standard x) = urlSafe x := by
  interval_cases x <;> rfl

theorem encodeUrlSafe_length (l : List UInt8) : (encodeUrlSafe l).length = (4 * l.length + 2) / 3 := by
  rw [encodeUrlSafe, List.length_map, sextets_length]

/-- Without its padding and with other signs, the standard form is the one for URLs. -/
theorem take_map_encodeStandard (l : List UInt8) :
    ((encodeStandard l).map toUrlSafe).take ((4 * l.length + 2) / 3) = encodeUrlSafe l := by
  have hmap : ((sextets l).map standard).map toUrlSafe = encodeUrlSafe l := by
    rw [List.map_map, encodeUrlSafe]
    exact List.map_congr_left fun x hx => toUrlSafe_standard (sextets_lt l x hx)
  rw [encodeStandard, List.map_append, hmap, ← encodeUrlSafe_length, List.take_left]

theorem encodeStandard_length (l : List UInt8) : (encodeStandard l).length = (l.length + 2) / 3 * 4 := by
  rw [encodeStandard, List.length_append, List.length_map, sextets_length, List.length_replicate]
  omega

theorem decodeUrlSafe_encodeUrlSafe (l : List UInt8) : decodeUrlSafe (encodeUrlSafe l) = some l := by
  have hmap : ∀ s : List ℕ, (∀ x ∈ s, x < 64) → (s.map urlSafe).mapM urlSafeValue = some s := by
    intro s
    induction s with
    | nil => intro _; rfl
    | cons x s ih =>
      intro hs
      rw [List.forall_mem_cons] at hs
      simp [urlSafeValue_urlSafe hs.1, ih hs.2]
  unfold decodeUrlSafe encodeUrlSafe
  rw [hmap _ (sextets_lt l)]
  exact unsextets_sextets l

/-- The form for URLs is a text of one byte a character. -/
theorem flatMap_encodeUrlSafe (l : List UInt8) :
    ((encodeUrlSafe l).map fun b => Char.ofNat b.toNat).flatMap String.utf8EncodeChar = encodeUrlSafe l := by
  have hchar : ∀ x < 64, String.utf8EncodeChar (Char.ofNat (urlSafe x).toNat) = [urlSafe x] := by
    intro x hx
    interval_cases x <;> rfl
  have hall : ∀ b ∈ encodeUrlSafe l, String.utf8EncodeChar (Char.ofNat b.toNat) = [b] := by
    intro b hb
    obtain ⟨x, hx, rfl⟩ := List.mem_map.1 hb
    exact hchar x (sextets_lt l x hx)
  rw [List.flatMap_map]
  generalize encodeUrlSafe l = text at hall ⊢
  induction text with
  | nil => rfl
  | cons b text ih =>
    rw [List.flatMap_cons, hall b List.mem_cons_self, ih fun x hx => hall x (List.mem_cons_of_mem _ hx), List.singleton_append]

end RssIncubator.Lib
