import RssIncubator.Driver.Mqtt
import RssIncubator.Lib.Utf8

/-!
# The command identities of the broker (`plugin.c`)

`canonical_command_id` walks over the bytes with a decoder of its own.  A read is `none` outside of the buffer and so
is a loop that has not come to its end, so that an answer says that neither happened.  The answer is that of the
agent: the bytes are a text, and the text is a command identity.
-/

namespace RssIncubator.Broker

open Agent Driver Lib

/-! ### The decoder -/

def utf8Continuation (value : UInt8) : Bool := 0x80 ≤ value && value ≤ 0xBF

section Decoder

variable (value : Bytes) (length offset : ℕ) (lead : UInt8)

/-- The branch of two bytes: its scalar, if its condition holds. -/
def twoBytes : Option (Option UInt32) :=
  if 0xC2 ≤ lead ∧ lead ≤ 0xDF ∧ offset + 1 < length then do
    let second ← value[offset + 1]?
    if utf8Continuation second then
      pure (some ((lead &&& 0x1F).toUInt32 <<< 6 ||| (second &&& 0x3F).toUInt32))
    else pure none
  else pure none

/-- The branch of three bytes, without overlong forms and surrogates. -/
def threeBytes : Option (Option UInt32) :=
  if 0xE0 ≤ lead ∧ lead ≤ 0xEF ∧ offset + 2 < length then do
    let second ← value[offset + 1]?
    if utf8Continuation second then
      let third ← value[offset + 2]?
      if utf8Continuation third ∧ ¬ (lead = 0xE0 ∧ second < 0xA0) ∧ ¬ (lead = 0xED ∧ 0x9F < second) then
        pure (some ((lead &&& 0x0F).toUInt32 <<< 12 ||| (second &&& 0x3F).toUInt32 <<< 6 |||
          (third &&& 0x3F).toUInt32))
      else pure none
    else pure none
  else pure none

/-- The branch of four bytes, without overlong forms and numbers past the last character. -/
def fourBytes : Option (Option UInt32) :=
  if 0xF0 ≤ lead ∧ lead ≤ 0xF4 ∧ offset + 3 < length then do
    let second ← value[offset + 1]?
    if utf8Continuation second then
      let third ← value[offset + 2]?
      if utf8Continuation third then
        let fourth ← value[offset + 3]?
        if utf8Continuation fourth ∧ ¬ (lead = 0xF0 ∧ second < 0x90) ∧ ¬ (lead = 0xF4 ∧ 0x8F < second) then
          pure (some ((lead &&& 0x07).toUInt32 <<< 18 ||| (second &&& 0x3F).toUInt32 <<< 12 |||
            (third &&& 0x3F).toUInt32 <<< 6 ||| (fourth &&& 0x3F).toUInt32))
        else pure none
      else pure none
    else pure none
  else pure none

/-- The scalar at the offset and its width, if there is one. -/
def scalarAt : Option (Option (UInt32 × ℕ)) := do
  let lead ← value[offset]?
  if lead ≤ 0x7F then pure (some (lead.toUInt32, 1))
  else match ← twoBytes value length offset lead with
    | some scalar => pure (some (scalar, 2))
    | none => match ← threeBytes value length offset lead with
      | some scalar => pure (some (scalar, 3))
      | none => return (← fourBytes value length offset lead).map fun scalar => (scalar, 4)

/-- The loop, for a number of turns. -/
def scanFrom : ℕ → ℕ → ℕ → Option Bool
  | 0, _, _ => none
  | turns + 1, offset, characters =>
    if offset < length then do
      match ← scalarAt value length offset with
      | none => pure false
      | some (scalar, width) =>
        if scalar ≤ 0x1F ∨ (0x7F ≤ scalar ∧ scalar ≤ 0x9F) ∨ 256 < characters + 1 then pure false
        else scanFrom turns (offset + width) (characters + 1)
    else pure true

end Decoder

/-- The answer of the validator, with a turn for each byte and one to leave. -/
def canonicalCommandId (value : Option Bytes) (length : UInt16) : Option Bool :=
  match value with
  | none => pure false
  | some value => if length = 0 then pure false else scanFrom value length.toNat (length.toNat + 1) 0 0

/-! ### One character -/

theorem utf8Continuation_iff {b : UInt8} : utf8Continuation b = true ↔ Tail b := by
  simp [utf8Continuation, Tail, UInt8.le_iff_toNat_le]

theorem toNat_low {b m : UInt8} (n : ℕ) (hm : m.toNat = 2 ^ n - 1) : (b &&& m).toUInt32.toNat = b.toNat % 2 ^ n := by
  rw [UInt8.toNat_toUInt32, UInt8.toNat_and, hm, Nat.and_two_pow_sub_one_eq_mod]

theorem toNat_shift {a s : UInt32} {x : ℕ} (n : ℕ) (ha : a.toNat = x) (hs : s.toNat = n) (hn : n < 32)
    (hx : x * 2 ^ n < 2 ^ 32) : (a <<< s).toNat = x * 2 ^ n := by
  rw [UInt32.toNat_shiftLeft, hs, ha, Nat.mod_eq_of_lt hn, Nat.shiftLeft_eq, Nat.mod_eq_of_lt hx]

/-- Bits put side by side. -/
theorem toNat_beside {a b : UInt32} {y : ℕ} (n x : ℕ) (ha : a.toNat = x * 2 ^ n) (hb : b.toNat = y) (hy : y < 2 ^ n) :
    (a ||| b).toNat = x * 2 ^ n + y := by
  rw [UInt32.toNat_or, ha, hb, Nat.mul_comm, ← Nat.two_pow_add_eq_or_of_lt hy]

theorem toNat_twoBytes (a b : UInt8) :
    ((a &&& 0x1F).toUInt32 <<< 6 ||| (b &&& 0x3F).toUInt32).toNat = a.toNat % 32 * 64 + b.toNat % 64 :=
  toNat_beside 6 _ (toNat_shift 6 (toNat_low 5 rfl) rfl (by omega) (by omega)) (toNat_low 6 rfl) (by omega)

theorem toNat_threeBytes (a b c : UInt8) :
    ((a &&& 0x0F).toUInt32 <<< 12 ||| (b &&& 0x3F).toUInt32 <<< 6 ||| (c &&& 0x3F).toUInt32).toNat =
      a.toNat % 16 * 4096 + b.toNat % 64 * 64 + c.toNat % 64 := by
  have hb := toNat_shift 6 (toNat_low (b := b) (m := 0x3F) 6 rfl) (s := 6) rfl (by omega) (by omega)
  have hab := toNat_beside 12 _ (toNat_shift 12 (toNat_low (b := a) (m := 0x0F) 4 rfl) (s := 12) rfl (by omega) (by omega)) hb
    (by omega)
  rw [toNat_beside 6 (a.toNat % 16 * 64 + b.toNat % 64) (by rw [hab]; omega) (toNat_low 6 rfl) (by omega)]
  omega

theorem toNat_fourBytes (a b c d : UInt8) :
    ((a &&& 0x07).toUInt32 <<< 18 ||| (b &&& 0x3F).toUInt32 <<< 12 ||| (c &&& 0x3F).toUInt32 <<< 6 |||
      (d &&& 0x3F).toUInt32).toNat =
      a.toNat % 8 * 262144 + b.toNat % 64 * 4096 + c.toNat % 64 * 64 + d.toNat % 64 := by
  have hb := toNat_shift 12 (toNat_low (b := b) (m := 0x3F) 6 rfl) (s := 12) rfl (by omega) (by omega)
  have hc := toNat_shift 6 (toNat_low (b := c) (m := 0x3F) 6 rfl) (s := 6) rfl (by omega) (by omega)
  have hab := toNat_beside 18 _ (toNat_shift 18 (toNat_low (b := a) (m := 0x07) 3 rfl) (s := 18) rfl (by omega) (by omega)) hb
    (by omega)
  have habc := toNat_beside 12 (a.toNat % 8 * 64 + b.toNat % 64) (by rw [hab]; omega) hc (by omega)
  rw [toNat_beside 6 ((a.toNat % 8 * 64 + b.toNat % 64) * 64 + c.toNat % 64) (by rw [habc]; omega) (toNat_low 6 rfl)
    (by omega)]
  omega

/-! ### One turn -/

section Turn

variable {value tail : Bytes} {offset : ℕ} {lead : UInt8}

/-- What a branch must find: a scalar that the next bytes encode, or that no bytes of this number encode one. -/
def Reads (l : Bytes) (width : ℕ) : Option UInt32 → Prop
  | some scalar => ∃ c rest, l = c ++ rest ∧ c.length = width ∧ Encodes c scalar.toNat
  | none => ∀ c rest n, l = c ++ rest → c.length = width → ¬ Encodes c n

theorem reads_none {l : Bytes} {width : ℕ} (h : width ≤ l.length → ∀ n, ¬ Encodes (l.take width) n) :
    Reads l width none := by
  rintro c rest n rfl rfl
  have := h (by simp) n
  rwa [List.take_left] at this

/-- The bytes behind the lead, as the buffer is read. -/
theorem getElem?_behind (h : value.drop offset = lead :: tail) (i : ℕ) : value[offset + (i + 1)]? = tail[i]? := by
  rw [← List.getElem?_drop, h, List.getElem?_cons_succ]

theorem length_behind (h : value.drop offset = lead :: tail) : value.length = offset + tail.length + 1 := by
  have := congrArg List.length h
  rw [List.length_drop, List.length_cons] at this
  omega

theorem twoBytes_reads (h : value.drop offset = lead :: tail) :
    ∃ r, twoBytes value value.length offset lead = some r ∧ Reads (lead :: tail) 2 r := by
  have hlen := length_behind h
  unfold twoBytes
  rw [getElem?_behind h 0]
  match tail with
  | [] =>
    rw [if_neg (by simp [hlen])]
    exact ⟨none, rfl, reads_none fun hle => absurd hle (by simp)⟩
  | b :: rest =>
    rw [List.length_cons] at hlen
    simp only [UInt8.le_iff_toNat_le, UInt8.reduceToNat]
    split_ifs with hlead
    · by_cases hb : Tail b
      · refine ⟨_, if_pos (utf8Continuation_iff.2 hb), [lead, b], rest, rfl, rfl, ?_⟩
        rw [toNat_twoBytes, encodes_two]
        obtain ⟨h1, h2⟩ := id hb
        exact ⟨hlead.1, hlead.2.1, hb, by omega⟩
      · refine ⟨_, if_neg (mt utf8Continuation_iff.1 hb), reads_none fun _ n he => ?_⟩
        exact hb (encodes_two.1 he).2.2.1
    · refine ⟨none, rfl, reads_none fun _ n he => ?_⟩
      obtain ⟨h1, h2, -⟩ := encodes_two.1 he
      exact hlead ⟨h1, h2, by omega⟩

theorem threeBytes_reads (h : value.drop offset = lead :: tail) :
    ∃ r, threeBytes value value.length offset lead = some r ∧ Reads (lead :: tail) 3 r := by
  have hlen := length_behind h
  unfold threeBytes
  rw [getElem?_behind h 0, getElem?_behind h 1]
  match tail with
  | [] =>
    rw [if_neg (by simp [hlen])]
    exact ⟨none, rfl, reads_none fun hle => absurd hle (by simp)⟩
  | [b] =>
    rw [if_neg (by simp [hlen])]
    exact ⟨none, rfl, reads_none fun hle => absurd hle (by simp)⟩
  | b :: c :: rest =>
    rw [List.length_cons, List.length_cons] at hlen
    simp only [UInt8.le_iff_toNat_le, UInt8.lt_iff_toNat_lt, ← UInt8.toNat_inj, UInt8.reduceToNat]
    split_ifs with hlead
    · by_cases hb : Tail b
      · by_cases hc : Tail c ∧ ¬ (lead.toNat = 0xE0 ∧ b.toNat < 0xA0) ∧ ¬ (lead.toNat = 0xED ∧ 0x9F < b.toNat)
        · refine ⟨_, (if_pos (utf8Continuation_iff.2 hb)).trans (if_pos ⟨utf8Continuation_iff.2 hc.1, hc.2⟩), [lead, b, c], rest,
            rfl, rfl, ?_⟩
          rw [toNat_threeBytes, encodes_three]
          obtain ⟨h1, h2⟩ := id hb
          obtain ⟨h3, h4⟩ := id hc.1
          exact ⟨hlead.1, hlead.2.1, hb, hc.1, hc.2.1, hc.2.2, by omega⟩
        · refine ⟨_, (if_pos (utf8Continuation_iff.2 hb)).trans
            (if_neg fun hok => hc ⟨utf8Continuation_iff.1 hok.1, hok.2⟩), reads_none fun _ n he => ?_⟩
          obtain ⟨-, -, -, h4, h5, h6, -⟩ := encodes_three.1 he
          exact hc ⟨h4, h5, h6⟩
      · refine ⟨_, if_neg (mt utf8Continuation_iff.1 hb), reads_none fun _ n he => ?_⟩
        exact hb (encodes_three.1 he).2.2.1
    · refine ⟨none, rfl, reads_none fun _ n he => ?_⟩
      obtain ⟨h1, h2, -⟩ := encodes_three.1 he
      exact hlead ⟨h1, h2, by omega⟩

theorem fourBytes_reads (h : value.drop offset = lead :: tail) :
    ∃ r, fourBytes value value.length offset lead = some r ∧ Reads (lead :: tail) 4 r := by
  have hlen := length_behind h
  unfold fourBytes
  rw [getElem?_behind h 0, getElem?_behind h 1, getElem?_behind h 2]
  match tail with
  | [] =>
    rw [if_neg (by simp [hlen])]
    exact ⟨none, rfl, reads_none fun hle => absurd hle (by simp)⟩
  | [b] =>
    rw [if_neg (by simp [hlen])]
    exact ⟨none, rfl, reads_none fun hle => absurd hle (by simp)⟩
  | [b, c] =>
    rw [if_neg (by simp [hlen])]
    exact ⟨none, rfl, reads_none fun hle => absurd hle (by simp)⟩
  | b :: c :: d :: rest =>
    rw [List.length_cons, List.length_cons, List.length_cons] at hlen
    simp only [UInt8.le_iff_toNat_le, UInt8.lt_iff_toNat_lt, ← UInt8.toNat_inj, UInt8.reduceToNat]
    split_ifs with hlead
    · by_cases hb : Tail b
      · by_cases hc : Tail c
        · by_cases hd : Tail d ∧ ¬ (lead.toNat = 0xF0 ∧ b.toNat < 0x90) ∧ ¬ (lead.toNat = 0xF4 ∧ 0x8F < b.toNat)
          · refine ⟨_, (if_pos (utf8Continuation_iff.2 hb)).trans ((if_pos (utf8Continuation_iff.2 hc)).trans
              (if_pos ⟨utf8Continuation_iff.2 hd.1, hd.2⟩)), [lead, b, c, d], rest, rfl, rfl, ?_⟩
            rw [toNat_fourBytes, encodes_four]
            obtain ⟨h1, h2⟩ := id hb
            obtain ⟨h3, h4⟩ := id hc
            obtain ⟨h5, h6⟩ := id hd.1
            exact ⟨hlead.1, hlead.2.1, hb, hc, hd.1, hd.2.1, hd.2.2, by omega⟩
          · refine ⟨_, (if_pos (utf8Continuation_iff.2 hb)).trans ((if_pos (utf8Continuation_iff.2 hc)).trans
              (if_neg fun hok => hd ⟨utf8Continuation_iff.1 hok.1, hok.2⟩)), reads_none fun _ n he => ?_⟩
            obtain ⟨-, -, -, -, h5, h6, h7, -⟩ := encodes_four.1 he
            exact hd ⟨h5, h6, h7⟩
        · refine ⟨_, (if_pos (utf8Continuation_iff.2 hb)).trans (if_neg (mt utf8Continuation_iff.1 hc)),
            reads_none fun _ n he => ?_⟩
          exact hc (encodes_four.1 he).2.2.2.1
      · refine ⟨_, if_neg (mt utf8Continuation_iff.1 hb), reads_none fun _ n he => ?_⟩
        exact hb (encodes_four.1 he).2.2.1
    · refine ⟨none, rfl, reads_none fun _ n he => ?_⟩
      obtain ⟨h1, h2, -⟩ := encodes_four.1 he
      exact hlead ⟨h1, h2, by omega⟩

/-- **One turn reads one character.**  It never reads outside of the buffer, and it finds a scalar exactly where the
bytes encode a character. -/
theorem scalarAt_spec (h : value.drop offset = lead :: tail) : ∃ r, scalarAt value value.length offset = some r ∧
    match r with
    | some (scalar, width) => ∃ c rest, lead :: tail = c ++ rest ∧ c.length = width ∧ Encodes c scalar.toNat
    | none => ∀ c rest n, lead :: tail = c ++ rest → ¬ Encodes c n := by
  have hget : value[offset]? = some lead := by
    have hdrop : (value.drop offset)[0]? = value[offset + 0]? := List.getElem?_drop
    rw [h, Nat.add_zero] at hdrop
    exact hdrop.symm
  obtain ⟨r2, h2, hr2⟩ := twoBytes_reads h
  obtain ⟨r3, h3, hr3⟩ := threeBytes_reads h
  obtain ⟨r4, h4, hr4⟩ := fourBytes_reads h
  unfold scalarAt
  rw [hget]
  by_cases hlead : lead ≤ 0x7F
  · refine ⟨_, if_pos hlead, [lead], tail, rfl, rfl, encodes_one.2 ⟨?_, UInt8.toNat_toUInt32 lead⟩⟩
    rwa [UInt8.le_iff_toNat_le] at hlead
  · show ∃ r, (if lead ≤ 0x7F then _ else _) = some r ∧ _
    rw [if_neg hlead, h2]
    cases r2 with
    | some scalar => exact ⟨_, rfl, hr2⟩
    | none =>
      show ∃ r, (threeBytes value value.length offset lead >>= _) = some r ∧ _
      rw [h3]
      cases r3 with
      | some scalar => exact ⟨_, rfl, hr3⟩
      | none =>
        show ∃ r, (fourBytes value value.length offset lead >>= _) = some r ∧ _
        rw [h4]
        cases r4 with
        | some scalar => exact ⟨_, rfl, hr4⟩
        | none =>
          refine ⟨none, rfl, fun c rest n hl he => ?_⟩
          -- a character has one to four bytes, and none of these numbers was found
          obtain ⟨hmin, hmax⟩ := he.length
          have hlen : c.length = 1 ∨ c.length = 2 ∨ c.length = 3 ∨ c.length = 4 := by omega
          rcases hlen with hc | hc | hc | hc
          · obtain ⟨a, rfl⟩ := List.length_eq_one_iff.1 hc
            obtain rfl : lead = a := (List.cons.inj hl).1
            refine hlead ?_
            rw [UInt8.le_iff_toNat_le]
            exact (encodes_one.1 he).1
          · exact hr2 c rest n hl hc he
          · exact hr3 c rest n hl hc he
          · exact hr4 c rest n hl hc he

end Turn

/-! ### The walk -/

section Walk

variable {value : Bytes}

/-- The bytes are so many characters at most, none of them a control character. -/
def Written (l : Bytes) (room : ℕ) : Prop :=
  ∃ text : List Char, text.flatMap String.utf8EncodeChar = l ∧ text.length ≤ room ∧ ∀ c ∈ text, isControl c = false

theorem not_control_iff {c : Char} {scalar : UInt32} (h : c.toNat = scalar.toNat) :
    isControl c = false ↔ ¬ (scalar ≤ 0x1F) ∧ ¬ (0x7F ≤ scalar ∧ scalar ≤ 0x9F) := by
  simp [isControl, UInt32.le_iff_toNat_le, h]

/-- What follows a character is written with one character less. -/
theorem written_append {c : Char} {rest : Bytes} {room : ℕ} :
    Written (String.utf8EncodeChar c ++ rest) room ↔ isControl c = false ∧ ∃ n, room = n + 1 ∧ Written rest n := by
  constructor
  · rintro ⟨text, htext, hlen, hcontrol⟩
    cases text with
    | nil =>
      rw [List.flatMap_nil] at htext
      exact absurd htext.symm (by simp)
    | cons d text =>
      obtain ⟨rfl, rfl⟩ := utf8EncodeChar_delimits _ _ _ _ (List.flatMap_cons.symm.trans htext)
      obtain ⟨n, rfl⟩ : ∃ n, room = n + 1 := ⟨room - 1, by simp at hlen; omega⟩
      refine ⟨hcontrol d List.mem_cons_self, n, rfl, text, rfl, by simpa using hlen, fun c hc => ?_⟩
      exact hcontrol c (List.mem_cons_of_mem _ hc)
  · rintro ⟨hcontrol, n, rfl, text, rfl, hlen, hrest⟩
    refine ⟨c :: text, List.flatMap_cons, Nat.succ_le_succ hlen, fun d hd => ?_⟩
    rcases List.mem_cons.1 hd with rfl | hd
    · exact hcontrol
    · exact hrest d hd

/-- **The walk comes to an end within the buffer**, and its answer says what is written from the offset on. -/
theorem scanFrom_spec (turns : ℕ) : ∀ offset characters, offset ≤ value.length → value.length < offset + turns →
    characters ≤ 256 → ∃ b, scanFrom value value.length turns offset characters = some b ∧
      (b = true ↔ Written (value.drop offset) (256 - characters)) := by
  induction turns with
  | zero =>
    intro offset characters hoffset hturns
    omega
  | succ turns ih =>
    intro offset characters hoffset hturns hchars
    unfold scanFrom
    by_cases hmore : offset < value.length
    · rw [if_pos hmore]
      obtain ⟨lead, tail, hdrop⟩ : ∃ lead tail, value.drop offset = lead :: tail :=
        ⟨_, _, List.drop_eq_getElem_cons hmore⟩
      obtain ⟨r, hr, hspec⟩ := scalarAt_spec hdrop
      rw [hr, hdrop]
      cases r with
      | none =>
        refine ⟨false, rfl, by simp, ?_⟩
        rintro ⟨text, htext, -⟩
        cases text with
        | nil => cases htext
        | cons c text => exact absurd ⟨c, rfl, rfl⟩ (hspec _ _ c.toNat htext.symm)
      | some found =>
        obtain ⟨scalar, width⟩ := found
        obtain ⟨l, rest, hl, rfl, c, rfl, hc⟩ := hspec
        have hdrop' : value.drop (offset + (String.utf8EncodeChar c).length) = rest := by
          rw [← List.drop_drop, hdrop, hl, List.drop_left]
        have hpos : 0 < (String.utf8EncodeChar c).length := by
          rw [String.length_utf8EncodeChar]
          exact c.utf8Size_pos
        have hfits : offset + (String.utf8EncodeChar c).length ≤ value.length := by
          have := congrArg List.length (hdrop.trans hl)
          rw [List.length_drop, List.length_append] at this
          omega
        rw [hl, written_append]
        show ∃ b, (if scalar ≤ 0x1F ∨ _ then _ else _) = some b ∧ _
        split_ifs with hbad
        · refine ⟨false, rfl, by simp, ?_⟩
          rintro ⟨hcontrol, n, hn, -⟩
          obtain ⟨h1, h2⟩ := (not_control_iff hc).1 hcontrol
          rcases hbad with h | h | h
          · exact absurd h h1
          · exact absurd h h2
          · omega
        · rw [not_or, not_or] at hbad
          obtain ⟨b, hb, hiff⟩ := ih (offset + (String.utf8EncodeChar c).length) (characters + 1) hfits (by omega) (by omega)
          refine ⟨b, hb, ?_⟩
          rw [hiff, hdrop']
          constructor
          · intro hwritten
            exact ⟨(not_control_iff hc).2 ⟨hbad.1, hbad.2.1⟩, 256 - (characters + 1), by omega, hwritten⟩
          · rintro ⟨-, n, hn, hwritten⟩
            rwa [show 256 - (characters + 1) = n by omega]
    · rw [if_neg hmore, List.drop_eq_nil_of_le (not_lt.1 hmore)]
      exact ⟨true, rfl, fun _ => ⟨[], rfl, Nat.zero_le _, by simp⟩, fun _ => rfl⟩

end Walk

theorem tryFrom_isOk (s : String) : (CommandId.tryFrom s).isOk = validCommandId s := by
  unfold CommandId.tryFrom
  split
  · rename_i hs
    rw [hs]
    rfl
  · rename_i hs
    rw [Bool.not_eq_true] at hs
    rw [hs]
    rfl

/-- What the agent makes of the bytes of a command identity. -/
theorem written_iff {l : Bytes} (hl : l ≠ []) :
    Written l 256 ↔ ∃ s, fromUtf8 l = some s ∧ validCommandId s = true := by
  simp only [fromUtf8_eq_some, validCommandId, Bool.and_eq_true, decide_eq_true_eq, Bool.not_eq_true', List.any_eq_false]
  constructor
  · rintro ⟨text, rfl, hlen, hcontrol⟩
    refine ⟨String.ofList text, utf8_ofList text, ⟨?_, ?_⟩, ?_⟩
    · rw [String.toList_ofList]
      cases text with
      | nil => exact absurd rfl hl
      | cons c text => simp
    · rwa [String.toList_ofList]
    · rw [String.toList_ofList]
      exact fun c hc => by simp [hcontrol c hc]
  · rintro ⟨s, rfl, ⟨-, hlen⟩, hcontrol⟩
    refine ⟨s.toList, ?_, hlen, fun c hc => by simpa using hcontrol c hc⟩
    rw [← utf8_ofList, String.ofList_toList]

/-- The validator answers, and yes exactly to a text that the agent accepts. -/
theorem canonicalCommandId_answers {value : Bytes} {length : UInt16} (hlen : length.toNat = value.length) :
    ∃ b, canonicalCommandId (some value) length = some b ∧
      (b = true ↔ ∃ s, fromUtf8 value = some s ∧ validCommandId s = true) := by
  simp only [canonicalCommandId]
  split_ifs with hzero
  · obtain rfl : value = [] := by
      rw [hzero] at hlen
      exact List.length_eq_zero_iff.1 hlen.symm
    refine ⟨false, rfl, by simp, ?_⟩
    rintro ⟨s, hs, hvalid⟩
    rw [show ([] : Bytes) = utf8 "" from rfl, fromUtf8_utf8, Option.some.injEq] at hs
    exact absurd hs.symm (ne_empty_of_validCommandId hvalid)
  · have hne : value ≠ [] := by
      rintro rfl
      exact hzero (UInt16.toNat_inj.1 hlen)
    rw [hlen]
    obtain ⟨b, hb, hiff⟩ := @scanFrom_spec value (value.length + 1) 0 0 (Nat.zero_le _) (by omega) (by omega)
    refine ⟨b, hb, ?_⟩
    rw [hiff, List.drop_zero, Nat.sub_zero, written_iff hne]

/-- The bytes of a command identity are accepted, and no others. -/
theorem canonicalCommandId_iff {value : Bytes} {length : UInt16} (hlen : length.toNat = value.length) :
    canonicalCommandId (some value) length = some true ↔ ∃ c : CommandId, utf8 c.expose = value := by
  obtain ⟨b, hb, hiff⟩ := canonicalCommandId_answers hlen
  simp only [fromUtf8_eq_some] at hiff
  rw [hb, Option.some.injEq, hiff]
  constructor
  · rintro ⟨s, hs, hvalid⟩
    exact ⟨⟨s, hvalid⟩, hs⟩
  · rintro ⟨c, hc⟩
    exact ⟨c.expose, hc, c.valid⟩

/-- **The broker and the agent accept the same command identities**, in every buffer of any length a packet can have;
the walk ends and stays in the buffer. -/
theorem canonicalCommandId_eq (value : Bytes) (h : value.length ≤ 65535) :
    canonicalCommandId (some value) (UInt16.ofNat value.length) =
      some ((fromUtf8 value).any fun s => (CommandId.tryFrom s).isOk) := by
  have hlen : (UInt16.ofNat value.length).toNat = value.length := UInt16.toNat_ofNat_of_lt' (Nat.lt_succ_of_le h)
  obtain ⟨b, hb, hiff⟩ := canonicalCommandId_answers hlen
  simp only [tryFrom_isOk]
  rw [hb, Option.some.injEq, Bool.eq_iff_iff, hiff, Option.any_eq_true]

/-- A character of four bytes. -/
theorem canonicalCommandId_eq_wide :
    canonicalCommandId (some [0xF0, 0x9F, 0x94, 0x91]) 4 = some true := by
  refine (canonicalCommandId_eq [0xF0, 0x9F, 0x94, 0x91] (by decide)).trans ?_
  have htext : fromUtf8 [0xF0, 0x9F, 0x94, 0x91] = some "🔑" := fromUtf8_eq_some.2 (by decide)
  rw [htext]
  decide

end RssIncubator.Broker
