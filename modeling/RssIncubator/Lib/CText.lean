import Mathlib.Data.List.Basic
import Mathlib.Data.List.Induction
import Mathlib.Data.List.TakeWhile
import Mathlib.Tactic.IntervalCases
import Mathlib.Algebra.Order.Group.Nat

/-!
# Reading C strings

`sscanf` for formats of literal bytes, bounded fields up to a stop byte and single characters; `strtoull` in base ten;
and the decimal texts of numbers.  A string is the list of its bytes before the terminator.
-/

namespace RssIncubator.Lib

/-! ### `sscanf` -/

/-- A directive of a format: a byte that must come next, `%<width>[^<stop>]`, or `%c`. -/
inductive Directive where
  | literal (byte : UInt8)
  | field (width : ℕ) (stop : UInt8)
  | character

/-- The longest run before the stop byte, of the width at most. -/
def fieldOf (width : ℕ) (stop : UInt8) (input : List UInt8) : List UInt8 := (input.takeWhile (· ≠ stop)).take width

/-- The values assigned before the first directive that fails, and whether it failed at the end of the input. -/
def scan : List Directive → List UInt8 → List (List UInt8) × Bool
  | [], _ => ([], false)
  | .literal _ :: _, [] => ([], true)
  | .literal byte :: format, b :: input => if b = byte then scan format input else ([], false)
  | .field width stop :: format, input =>
    if fieldOf width stop input = [] then ([], input.isEmpty)
    else
      let rest := scan format (input.drop (fieldOf width stop input).length)
      (fieldOf width stop input :: rest.1, rest.2)
  | .character :: _, [] => ([], true)
  | .character :: format, b :: input =>
    let rest := scan format input
    ([b] :: rest.1, rest.2)

/-- What `sscanf` returns: the number of assignments, or `EOF`. -/
def scanCount (result : List (List UInt8) × Bool) : ℤ :=
  if result.1 = [] ∧ result.2 = true then -1 else result.1.length

section Scan

variable {format : List Directive} {input rest v : List UInt8} {vs : List (List UInt8)} {width : ℕ} {stop : UInt8}

/-- The directives of a literal text. -/
def literals (text : List UInt8) : List Directive := text.map .literal

theorem scan_literals (text : List UInt8) : scan (literals text ++ format) (text ++ input) = scan format input := by
  induction text with
  | nil => rfl
  | cons b text ih =>
    show (if b = b then scan (literals text ++ format) (text ++ input) else _) = _
    rw [if_pos rfl, ih]

/-- Something is assigned only behind the literal text. -/
theorem scan_literals_eq {text : List UInt8} (h : (scan (literals text ++ format) input).1 = v :: vs) :
    ∃ rest, input = text ++ rest ∧ (scan format rest).1 = v :: vs := by
  induction text generalizing input with
  | nil => exact ⟨input, rfl, h⟩
  | cons b text ih =>
    cases input with
    | nil => cases h
    | cons a input =>
      change (if a = b then scan (literals text ++ format) input else ([], false)).1 = _ at h
      split_ifs at h with hab
      subst hab
      obtain ⟨rest, rfl, hrest⟩ := ih h
      exact ⟨rest, rfl, hrest⟩

/-- A text that ends before the stop byte, or with the input, is a field. -/
theorem fieldOf_append (hstop : stop ∉ v) (hwidth : v.length ≤ width) (hrest : ∀ b ∈ rest.head?, b = stop) :
    fieldOf width stop (v ++ rest) = v := by
  have hrest' : rest.takeWhile (· ≠ stop) = [] := by
    cases rest with
    | nil => rfl
    | cons b rest => simp [hrest b rfl]
  have hv : ∀ b ∈ v, decide (b ≠ stop) = true := by
    intro b hb
    rw [decide_eq_true_eq]
    rintro rfl
    exact hstop hb
  unfold fieldOf
  rw [List.takeWhile_append_of_pos hv, hrest', List.append_nil, List.take_of_length_le hwidth]

theorem scan_field (hne : v ≠ []) (hstop : stop ∉ v) (hwidth : v.length ≤ width) (hrest : ∀ b ∈ rest.head?, b = stop) :
    scan (.field width stop :: format) (v ++ rest) = (v :: (scan format rest).1, (scan format rest).2) := by
  rw [scan, fieldOf_append hstop hwidth hrest, if_neg hne, List.drop_left]

/-- A field is a non-empty text without the stop byte, of the width at most, and the rest follows it. -/
theorem scan_field_eq (h : (scan (.field width stop :: format) input).1 = v :: vs) :
    ∃ rest, input = v ++ rest ∧ v ≠ [] ∧ stop ∉ v ∧ v.length ≤ width ∧ (scan format rest).1 = vs := by
  rw [scan] at h
  split_ifs at h with hne
  obtain ⟨rfl, hvs⟩ := List.cons.inj h
  refine ⟨input.drop (fieldOf width stop input).length, ?_, hne, ?_, List.length_take_le _ _, hvs⟩
  · have hpre : fieldOf width stop input <+: input := (List.take_prefix _ _).trans (List.takeWhile_prefix _)
    exact (List.prefix_iff_eq_append.1 hpre).symm
  · intro hmem
    have := List.mem_takeWhile_imp (List.mem_of_mem_take hmem)
    simp at this

end Scan

/-! ### Decimal texts -/

/-- The bytes of a number in base ten. -/
def decimal (n : ℕ) : List UInt8 := (Nat.toDigits 10 n).map fun c => UInt8.ofNat c.toNat

def DigitByte (b : UInt8) : Prop := 0x30 ≤ b ∧ b ≤ 0x39

instance (b : UInt8) : Decidable (DigitByte b) := inferInstanceAs (Decidable (_ ∧ _))

/-- The number that digits stand for. -/
def decimalValue (l : List UInt8) : ℕ := l.foldl (fun n b => 10 * n + (b.toNat - 0x30)) 0

theorem decimalValue_concat (l : List UInt8) (b : UInt8) :
    decimalValue (l ++ [b]) = 10 * decimalValue l + (b.toNat - 0x30) := by simp [decimalValue]

theorem digitByte_toNat {b : UInt8} : DigitByte b ↔ 0x30 ≤ b.toNat ∧ b.toNat ≤ 0x39 := by
  simp only [DigitByte, UInt8.le_iff_toNat_le, UInt8.reduceToNat]

theorem digitByte_iff {b : UInt8} : DigitByte b ↔ ∃ d < 10, b = UInt8.ofNat (0x30 + d) := by
  rw [digitByte_toNat]
  constructor
  · rintro ⟨h1, h2⟩
    refine ⟨b.toNat - 0x30, by omega, ?_⟩
    rw [show 0x30 + (b.toNat - 0x30) = b.toNat by omega, UInt8.ofNat_toNat]
  · rintro ⟨d, hd, rfl⟩
    rw [UInt8.toNat_ofNat_of_lt' (show 0x30 + d < 256 by omega)]
    omega

theorem digitChar_byte {d : ℕ} (h : d < 10) : UInt8.ofNat (Nat.digitChar d).toNat = UInt8.ofNat (0x30 + d) := by
  interval_cases d <;> rfl

theorem decimal_of_lt {n : ℕ} (h : n < 10) : decimal n = [UInt8.ofNat (0x30 + n)] := by
  rw [decimal, Nat.toDigits_of_lt_base h, List.map_singleton, digitChar_byte h]

/-- The last digit of a number. -/
theorem decimal_concat {n d : ℕ} (hn : 0 < n) (hd : d < 10) : decimal (10 * n + d) = decimal n ++ [UInt8.ofNat (0x30 + d)] := by
  unfold decimal
  rw [← Nat.toDigits_append_toDigits (by decide) hn hd, List.map_append, Nat.toDigits_of_lt_base hd, List.map_singleton,
    digitChar_byte hd]

theorem toNat_digit {d : ℕ} (h : d < 10) : (UInt8.ofNat (0x30 + d)).toNat - 0x30 = d := by
  rw [UInt8.toNat_ofNat_of_lt' (show 0x30 + d < 256 by omega)]
  omega

theorem decimalValue_digit {d : ℕ} (h : d < 10) : decimalValue [UInt8.ofNat (0x30 + d)] = d := by
  show 10 * 0 + ((UInt8.ofNat (0x30 + d)).toNat - 0x30) = d
  rw [toNat_digit h, Nat.mul_zero, Nat.zero_add]

/-- The digits of a positive number, which begin with one that is not zero, stand for it. -/
theorem decimal_spec {n : ℕ} (hn : 0 < n) : decimalValue (decimal n) = n ∧ (∀ b ∈ decimal n, DigitByte b) ∧
    ∃ b rest, decimal n = b :: rest ∧ b ≠ 0x30 := by
  induction n using Nat.strong_induction_on with
  | _ n ih =>
    by_cases hlt : n < 10
    · rw [decimal_of_lt hlt]
      refine ⟨decimalValue_digit hlt, ?_, _, _, rfl, ?_⟩
      · intro b hb
        rw [List.mem_singleton.1 hb]
        exact digitByte_iff.2 ⟨n, hlt, rfl⟩
      · interval_cases n <;> decide
    · have hdiv : n = 10 * (n / 10) + n % 10 := (Nat.div_add_mod n 10).symm
      have hmod : n % 10 < 10 := Nat.mod_lt _ (by decide)
      obtain ⟨hvalue, hdigits, b, rest, hhead, hne⟩ := ih (n / 10) (by omega) (by omega)
      have hstep := decimal_concat (n := n / 10) (by omega) hmod
      rw [← hdiv] at hstep
      rw [hstep]
      refine ⟨?_, ?_, b, rest ++ [UInt8.ofNat (0x30 + n % 10)], ?_, hne⟩
      · rw [decimalValue_concat, hvalue, toNat_digit hmod]
        omega
      · intro c hc
        rcases List.mem_append.1 hc with hc | hc
        · exact hdigits c hc
        · rw [List.mem_singleton.1 hc]
          exact digitByte_iff.2 ⟨_, hmod, rfl⟩
      · rw [hhead]
        rfl

/-- Digits that do not begin with zero are those of the number they stand for. -/
theorem decimal_decimalValue {l : List UInt8} (hdigits : ∀ b ∈ l, DigitByte b) {b : UInt8} {rest : List UInt8}
    (hl : l = b :: rest) (hne : b ≠ 0x30) : 0 < decimalValue l ∧ decimal (decimalValue l) = l := by
  induction rest using List.reverseRecOn generalizing l with
  | nil =>
    subst hl
    obtain ⟨d, hd, rfl⟩ := digitByte_iff.1 (hdigits b List.mem_cons_self)
    rw [decimalValue_digit hd]
    refine ⟨Nat.pos_of_ne_zero ?_, decimal_of_lt hd⟩
    rintro rfl
    exact hne rfl
  | append_singleton rest c ih =>
    have hl' : l = (b :: rest) ++ [c] := hl
    subst hl'
    obtain ⟨hpos, heq⟩ := ih (fun x hx => hdigits x (List.mem_append_left _ hx)) rfl
    obtain ⟨d, hd, rfl⟩ := digitByte_iff.1 (hdigits c (List.mem_append_right _ (List.mem_singleton_self _)))
    rw [decimalValue_concat, toNat_digit hd, decimal_concat hpos hd, heq]
    exact ⟨by omega, rfl⟩

theorem decimal_length_le {n k : ℕ} (hk : 0 < k) : (decimal n).length ≤ k ↔ n < 10 ^ k := by
  rw [decimal, List.length_map, Nat.length_toDigits_le_iff (by decide) hk]

/-! ### `strtoull` -/

/-- What `strtoull` reports: whether the number is out of range, and where it stopped. -/
structure Strtoull where
  range : Bool
  rest : List UInt8

def isSpaceByte (b : UInt8) : Bool := b = 0x20 || (0x09 ≤ b && b ≤ 0x0D)

/-- `strtoull` in base ten: spaces, a sign, and the longest run of digits. -/
def strtoull (value : List UInt8) : Strtoull :=
  let body := value.dropWhile isSpaceByte
  let body := if body.head? = some 0x2B ∨ body.head? = some 0x2D then body.tail else body
  let digits := body.takeWhile fun b => DigitByte b
  if digits = [] then ⟨false, value⟩ else ⟨2 ^ 64 ≤ decimalValue digits, body.drop digits.length⟩

/-- On digits alone it reads all of them. -/
theorem strtoull_digits {l : List UInt8} (hne : l ≠ []) (h : ∀ b ∈ l, DigitByte b) :
    strtoull l = ⟨2 ^ 64 ≤ decimalValue l, []⟩ := by
  have hall : l.takeWhile (fun b => decide (DigitByte b)) = l := List.takeWhile_eq_self_iff.2 fun b hb => by simp [h b hb]
  cases l with
  | nil => exact absurd rfl hne
  | cons b l =>
    obtain ⟨d, hd, rfl⟩ := digitByte_iff.1 (h b List.mem_cons_self)
    have hspace : isSpaceByte (UInt8.ofNat (0x30 + d)) = false := by interval_cases d <;> decide
    have hsign : UInt8.ofNat (0x30 + d) ≠ 0x2B ∧ UInt8.ofNat (0x30 + d) ≠ 0x2D := by interval_cases d <;> decide
    unfold strtoull
    simp only [List.dropWhile_cons, hspace, Bool.false_eq_true, if_false, List.head?_cons, Option.some.injEq, hsign, or_self,
      hall, List.drop_length, reduceCtorEq]

end RssIncubator.Lib
