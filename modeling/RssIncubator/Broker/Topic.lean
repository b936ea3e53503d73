import RssIncubator.Agent.Verify
import RssIncubator.Lib.CText

/-!
# The command topics of the broker (`plugin.c`)

`command_principal` takes a topic apart with a bounded `sscanf`, checks the parts by hand and writes the principal of the
device into a buffer of its own.  `topic_agreement` says that it accepts exactly the topics `TopicSet::new` writes,
for one identity each, and writes the principal of that identity.
-/

namespace RssIncubator.Broker

open Agent Lib

/-- A C string: its bytes before the terminator. -/
abbrev CString := { l : Bytes // 0 ∉ l }

def commandContract : String := "identity.commands.apply-device-certificate"

def principalCapacity : ℕ := 160

/-! ### The checks -/

/-- The byte at an index of a UUID. -/
def uuidByte (index : ℕ) (byte : UInt8) : Bool :=
  if index = 8 ∨ index = 13 ∨ index = 18 ∨ index = 23 then byte = 0x2D else isHexByte byte

def canonicalUuid (value : Bytes) : Bool :=
  if value.length ≠ 36 ∨ value = utf8 "00000000-0000-0000-0000-000000000000" then false
  else value.zipIdx.all fun entry => uuidByte entry.2 entry.1

/-- The loop over the digits behind the first, with the length so far. -/
def digitsFrom : ℕ → Bytes → Bool
  | _, [] => true
  | length, byte :: rest =>
    if byte < 0x30 ∨ 0x39 < byte ∨ 20 ≤ length then false else digitsFrom (length + 1) rest

def canonicalGeneration : Bytes → Bool
  | [] => false
  | first :: rest =>
    if first < 0x31 ∨ 0x39 < first then false
    else if digitsFrom 1 rest then !(strtoull (first :: rest)).range && (strtoull (first :: rest)).rest.isEmpty
    else false

/-- `"rss/v1/%36[^/]/%36[^/]/%20[^/]/downlink/%63[^/]%c"`. -/
def topicFormat : List Directive :=
  literals (utf8 "rss/v1/") ++ .field 36 0x2F :: (literals (utf8 "/") ++ .field 36 0x2F ::
    (literals (utf8 "/") ++ .field 20 0x2F :: (literals (utf8 "/downlink/") ++ [.field 63 0x2F, .character])))

/-- What `snprintf` returns, and what it leaves in a buffer of the size. -/
def snprintf (size : ℕ) (text : Bytes) : ℕ × Bytes := (text.length, text.take (size - 1))

/-- The principal of a topic, if it is a command topic. -/
def commandPrincipal (topic : Bytes) : Option Bytes :=
  let scanned := scan topicFormat topic
  if scanCount scanned ≠ 4 then none
  else match scanned.1 with
    | [tenant, device, generation, contract] =>
      if ¬ canonicalUuid tenant ∨ ¬ canonicalUuid device ∨ ¬ canonicalGeneration generation ∨
          contract ≠ utf8 commandContract then none
      else
        let (length, value) := snprintf principalCapacity (utf8 "urn:rss:mqtt-device:v1:" ++ tenant ++ utf8 ":" ++
          device ++ utf8 ":" ++ generation)
        if 0 < length ∧ length < principalCapacity then some value else none
    | _ => none

/-! ### The parts of a topic -/

/-- A part that fits its field. -/
structure Fits (width : ℕ) (v : Bytes) : Prop where
  nonempty : v ≠ []
  slash : 0x2F ∉ v
  length : v.length ≤ width

/-- A topic with four parts. -/
def topicOf (tenant device generation contract : Bytes) : Bytes :=
  utf8 "rss/v1/" ++ (tenant ++ (utf8 "/" ++ (device ++ (utf8 "/" ++ (generation ++ (utf8 "/downlink/" ++ contract))))))

section Parts

variable {t a b c d : Bytes}

theorem head_slash {text rest : Bytes} (h : text.head? = some 0x2F) : ∀ x ∈ (text ++ rest).head?, x = 0x2F := by
  intro x hx
  rw [List.head?_append, h] at hx
  exact (Option.some.inj hx).symm

theorem scan_topicOf (ha : Fits 36 a) (hb : Fits 36 b) (hc : Fits 20 c) (hd : Fits 63 d) :
    scan topicFormat (topicOf a b c d) = ([a, b, c, d], true) := by
  have hlast : scan [.field 63 0x2F, .character] d = ([d], true) := by
    have hscan : scan [.field 63 0x2F, .character] (d ++ []) = (d :: [], true) :=
      scan_field hd.nonempty hd.slash hd.length (by simp)
    rwa [List.append_nil] at hscan
  unfold topicFormat topicOf
  rw [scan_literals, scan_field ha.nonempty ha.slash ha.length (head_slash rfl), scan_literals,
    scan_field hb.nonempty hb.slash hb.length (head_slash rfl), scan_literals,
    scan_field hc.nonempty hc.slash hc.length (head_slash rfl), scan_literals, hlast]

theorem scan_topicFormat (h : (scan topicFormat t).1 = [a, b, c, d]) :
    t = topicOf a b c d ∧ Fits 36 a ∧ Fits 36 b ∧ Fits 20 c ∧ Fits 63 d := by
  obtain ⟨t1, rfl, h⟩ := scan_literals_eq h
  obtain ⟨t2, rfl, ha1, ha2, ha3, h⟩ := scan_field_eq h
  obtain ⟨t3, rfl, h⟩ := scan_literals_eq h
  obtain ⟨t4, rfl, hb1, hb2, hb3, h⟩ := scan_field_eq h
  obtain ⟨t5, rfl, h⟩ := scan_literals_eq h
  obtain ⟨t6, rfl, hc1, hc2, hc3, h⟩ := scan_field_eq h
  obtain ⟨t7, rfl, h⟩ := scan_literals_eq h
  obtain ⟨t8, rfl, hd1, hd2, hd3, h⟩ := scan_field_eq h
  -- a further character would have been assigned
  cases t8 with
  | nil => exact ⟨by rw [List.append_nil, topicOf], ⟨ha1, ha2, ha3⟩, ⟨hb1, hb2, hb3⟩, ⟨hc1, hc2, hc3⟩, ⟨hd1, hd2, hd3⟩⟩
  | cons x t8 => cases h

end Parts

/-! ### UUIDs -/

theorem hexByte_digit {x : UInt8} (h : isHexByte x = true) : ∃ m < 16, String.utf8EncodeChar (hexDigit m) = [x] := by
  have hx : (0x30 ≤ x.toNat ∧ x.toNat ≤ 0x39) ∨ (0x61 ≤ x.toNat ∧ x.toNat ≤ 0x66) := by
    simpa [isHexByte, UInt8.le_iff_toNat_le] using h
  have hofNat : x = UInt8.ofNat x.toNat := UInt8.ofNat_toNat.symm
  generalize x.toNat = n at hx hofNat
  subst hofNat
  rcases hx with ⟨hlo, hhi⟩ | ⟨hlo, hhi⟩
  · refine ⟨n - 0x30, by omega, ?_⟩
    interval_cases n <;> rfl
  · refine ⟨n - 0x57, by omega, ?_⟩
    interval_cases n <;> rfl

/-- An even number of hexadecimal digits is the text of bytes. -/
theorem exists_hex (n : ℕ) : ∀ {l : Bytes}, l.length = 2 * n → (∀ x ∈ l, isHexByte x = true) →
    ∃ b : Bytes, b.length = n ∧ utf8 (hex b) = l := by
  induction n with
  | zero =>
    intro l hl _
    exact ⟨[], rfl, by rw [List.length_eq_zero_iff.1 hl]; rfl⟩
  | succ n ih =>
    intro l hl hall
    match l, hl with
    | x :: y :: l, hl =>
      obtain ⟨b, hb, hhex⟩ := ih (l := l) (by simp only [List.length_cons] at hl; omega) fun z hz =>
        hall z (List.mem_cons_of_mem _ (List.mem_cons_of_mem _ hz))
      obtain ⟨m, hm, hx⟩ := hexByte_digit (hall x List.mem_cons_self)
      obtain ⟨k, hk, hy⟩ := hexByte_digit (hall y (List.mem_cons_of_mem _ List.mem_cons_self))
      have hval : (UInt8.ofNat (16 * m + k)).toNat = 16 * m + k := UInt8.toNat_ofNat_of_lt' (show 16 * m + k < 256 by omega)
      refine ⟨UInt8.ofNat (16 * m + k) :: b, by rw [List.length_cons, hb], ?_⟩
      rw [hex, utf8_ofList] at hhex ⊢
      rw [List.flatMap_cons, List.flatMap_append, hhex, hval, show (16 * m + k) / 16 = m by omega,
        show (16 * m + k) % 16 = k by omega]
      simp [hx, hy]

/-- The check walks over the parts of a text. -/
theorem all_zipIdx_append (l l' : Bytes) (i : ℕ) (f : UInt8 × ℕ → Bool) :
    ((l ++ l').zipIdx i).all f = ((l.zipIdx i).all f && (l'.zipIdx (i + l.length)).all f) := by
  rw [List.zipIdx_append, List.all_append]

/-- Between the hyphens there are digits. -/
theorem all_uuidByte {l : Bytes} {i : ℕ} (h : ∀ j < l.length, i + j ≠ 8 ∧ i + j ≠ 13 ∧ i + j ≠ 18 ∧ i + j ≠ 23) :
    ((l.zipIdx i).all fun entry => uuidByte entry.2 entry.1) = true ↔ ∀ x ∈ l, isHexByte x = true := by
  induction l generalizing i with
  | nil => simp
  | cons x l ih =>
    have hhead := h 0 (by simp)
    rw [Nat.add_zero] at hhead
    have hx : uuidByte i x = isHexByte x := if_neg (by simp [hhead])
    rw [List.zipIdx_cons, List.all_cons, Bool.and_eq_true, ih, List.forall_mem_cons]
    · rw [hx]
    · intro j hj
      have := h (j + 1) (by simpa using hj)
      rwa [Nat.add_assoc, Nat.add_comm 1 j]

/-- The bytes of a UUID: five texts of digits with hyphens between them. -/
theorem utf8_hyphenated (u : Uuid) : utf8 u.hyphenated =
    utf8 (hex (u.bytes.take 4)) ++ (0x2D :: (utf8 (hex ((u.bytes.drop 4).take 2)) ++ (0x2D ::
      (utf8 (hex ((u.bytes.drop 6).take 2)) ++ (0x2D :: (utf8 (hex ((u.bytes.drop 8).take 2)) ++ (0x2D ::
        utf8 (hex (u.bytes.drop 10))))))))) := by
  have hdash : utf8 "-" = [0x2D] := by decide
  simp only [Uuid.hyphenated, utf8_append, hdash, List.append_assoc, List.cons_append, List.nil_append]

theorem utf8_hex_parts (u : Uuid) : (utf8 (hex (u.bytes.take 4))).length = 8 ∧
    (utf8 (hex ((u.bytes.drop 4).take 2))).length = 4 ∧ (utf8 (hex ((u.bytes.drop 6).take 2))).length = 4 ∧
    (utf8 (hex ((u.bytes.drop 8).take 2))).length = 4 ∧ (utf8 (hex (u.bytes.drop 10))).length = 12 := by
  simp only [(utf8_hex _).1, List.length_take, List.length_drop, u.length]
  decide

theorem hyphenated_length (u : Uuid) : (utf8 u.hyphenated).length = 36 := by
  obtain ⟨h1, h2, h3, h4, h5⟩ := utf8_hex_parts u
  rw [utf8_hyphenated]
  simp only [List.length_append, List.length_cons, h1, h2, h3, h4, h5]

/-- Different UUIDs are written differently. -/
theorem hyphenated_inj {u v : Uuid} (h : utf8 u.hyphenated = utf8 v.hyphenated) : u = v := by
  obtain ⟨h1, h2, h3, h4, -⟩ := utf8_hex_parts u
  obtain ⟨k1, k2, k3, k4, -⟩ := utf8_hex_parts v
  rw [utf8_hyphenated, utf8_hyphenated] at h
  obtain ⟨e1, h⟩ := List.append_inj h (h1.trans k1.symm)
  obtain ⟨e2, h⟩ := List.append_inj (List.cons.inj h).2 (h2.trans k2.symm)
  obtain ⟨e3, h⟩ := List.append_inj (List.cons.inj h).2 (h3.trans k3.symm)
  obtain ⟨e4, h⟩ := List.append_inj (List.cons.inj h).2 (h4.trans k4.symm)
  have e5 := (List.cons.inj h).2
  have hparts : ∀ b : Bytes, b = b.take 4 ++ ((b.drop 4).take 2 ++ ((b.drop 6).take 2 ++ ((b.drop 8).take 2 ++ b.drop 10))) := by
    intro b
    have hsplit : ∀ n, b.drop n = (b.drop n).take 2 ++ b.drop (n + 2) := fun n => by
      rw [← List.drop_drop, List.take_append_drop]
    rw [← hsplit 8, ← hsplit 6, ← hsplit 4, List.take_append_drop]
  have hbytes : u.bytes = v.bytes := by
    rw [hparts u.bytes, hparts v.bytes, hex_inj (utf8_inj.1 e1), hex_inj (utf8_inj.1 e2), hex_inj (utf8_inj.1 e3),
      hex_inj (utf8_inj.1 e4), hex_inj (utf8_inj.1 e5)]
  cases u
  cases v
  cases hbytes
  rfl

theorem hyphenated_injective : Function.Injective Uuid.hyphenated := fun _ _ h => hyphenated_inj (by rw [h])

/-- Cut out the byte at an index. -/
theorem exists_cut {b : Bytes} {n : ℕ} (h : n < b.length) : ∃ l x r, b = l ++ x :: r ∧ l.length = n :=
  ⟨b.take n, b[n], b.drop (n + 1), by rw [← List.drop_eq_getElem_cons h, List.take_append_drop],
    List.length_take_of_le h.le⟩

section Shape

variable {l₁ l₂ l₃ l₄ l₅ : Bytes} {x₁ x₂ x₃ x₄ : UInt8}

theorem all_shape (h1 : l₁.length = 8) (h2 : l₂.length = 4) (h3 : l₃.length = 4) (h4 : l₄.length = 4) (h5 : l₅.length = 12) :
    (((l₁ ++ x₁ :: (l₂ ++ x₂ :: (l₃ ++ x₃ :: (l₄ ++ x₄ :: l₅)))).zipIdx).all fun entry => uuidByte entry.2 entry.1) = true ↔
      (∀ x ∈ l₁, isHexByte x = true) ∧ x₁ = 0x2D ∧ (∀ x ∈ l₂, isHexByte x = true) ∧ x₂ = 0x2D ∧
      (∀ x ∈ l₃, isHexByte x = true) ∧ x₃ = 0x2D ∧ (∀ x ∈ l₄, isHexByte x = true) ∧ x₄ = 0x2D ∧
      ∀ x ∈ l₅, isHexByte x = true := by
  simp only [all_zipIdx_append, List.zipIdx_cons, List.all_cons, h1, h2, h3, h4, Bool.and_eq_true]
  rw [all_uuidByte (by omega), all_uuidByte (by omega), all_uuidByte (by omega), all_uuidByte (by omega),
    all_uuidByte (by omega)]
  simp [uuidByte]

end Shape

/-- **The accepted UUIDs** are those that are written by the agent, the nil one apart. -/
theorem canonicalUuid_iff {value : Bytes} :
    canonicalUuid value = true ↔ ∃ u : Uuid, u ≠ .nil ∧ utf8 u.hyphenated = value := by
  have hnil : utf8 "00000000-0000-0000-0000-000000000000" = utf8 Uuid.nil.hyphenated := by decide +kernel
  unfold canonicalUuid
  rw [hnil]
  constructor
  · intro h
    split_ifs at h with hbad
    rw [not_or, not_not] at hbad
    obtain ⟨hlen, hne⟩ := hbad
    obtain ⟨l₁, x₁, r, rfl, h1⟩ := exists_cut (n := 8) (b := value) (by omega)
    simp only [List.length_append, List.length_cons, h1] at hlen
    obtain ⟨l₂, x₂, r, rfl, h2⟩ := exists_cut (n := 4) (b := r) (by omega)
    simp only [List.length_append, List.length_cons, h2] at hlen
    obtain ⟨l₃, x₃, r, rfl, h3⟩ := exists_cut (n := 4) (b := r) (by omega)
    simp only [List.length_append, List.length_cons, h3] at hlen
    obtain ⟨l₄, x₄, l₅, rfl, h4⟩ := exists_cut (n := 4) (b := r) (by omega)
    simp only [List.length_append, List.length_cons, h4] at hlen
    obtain ⟨a1, rfl, a2, rfl, a3, rfl, a4, rfl, a5⟩ := (all_shape h1 h2 h3 h4 (by omega)).1 h
    obtain ⟨b₁, k1, rfl⟩ := exists_hex 4 h1 a1
    obtain ⟨b₂, k2, rfl⟩ := exists_hex 2 h2 a2
    obtain ⟨b₃, k3, rfl⟩ := exists_hex 2 h3 a3
    obtain ⟨b₄, k4, rfl⟩ := exists_hex 2 h4 a4
    obtain ⟨b₅, k5, rfl⟩ := exists_hex 6 (show _ = 2 * 6 by omega) a5
    have hwritten : utf8 (Uuid.hyphenated ⟨b₁ ++ (b₂ ++ (b₃ ++ (b₄ ++ b₅))), by simp [k1, k2, k3, k4, k5]⟩) =
        utf8 (hex b₁) ++ 0x2D :: (utf8 (hex b₂) ++ 0x2D :: (utf8 (hex b₃) ++ 0x2D :: (utf8 (hex b₄) ++ 0x2D ::
          utf8 (hex b₅)))) := by
      rw [utf8_hyphenated]
      have hshort : ∀ {b : Bytes} (n), b.length ≤ n → b.drop n = [] := fun n h => List.drop_eq_nil_of_le h
      simp [List.drop_append, k1, k2, k3, k4, hshort 6 (show b₁.length ≤ 6 by omega),
        hshort 8 (show b₁.length ≤ 8 by omega), hshort 10 (show b₁.length ≤ 10 by omega),
        hshort 4 (show b₂.length ≤ 4 by omega), hshort 6 (show b₂.length ≤ 6 by omega),
        hshort 4 (show b₃.length ≤ 4 by omega)]
    refine ⟨_, ?_, hwritten⟩
    intro hu
    rw [hu] at hwritten
    exact hne hwritten.symm
  · rintro ⟨u, hu, rfl⟩
    rw [if_neg]
    · obtain ⟨h1, h2, h3, h4, h5⟩ := utf8_hex_parts u
      rw [utf8_hyphenated, all_shape h1 h2 h3 h4 h5]
      exact ⟨(utf8_hex _).2, rfl, (utf8_hex _).2, rfl, (utf8_hex _).2, rfl, (utf8_hex _).2, rfl, (utf8_hex _).2⟩
    · rw [not_or, not_not]
      exact ⟨hyphenated_length u, fun he => hu (hyphenated_inj he)⟩

theorem hyphenated_fits (u : Uuid) : Fits 36 (utf8 u.hyphenated) := by
  have hlen := hyphenated_length u
  refine ⟨?_, ?_, hlen.le⟩
  · intro hnil
    rw [hnil] at hlen
    cases hlen
  · have hhex : ∀ b, 0x2F ∉ utf8 (hex b) := fun b h => absurd ((utf8_hex b).2 _ h) (by decide)
    rw [utf8_hyphenated]
    simp [hhex]

/-! ### Generations -/

theorem utf8_toString (n : ℕ) : utf8 (toString n) = decimal n := by
  rw [Nat.toString_eq_ofList_toDigits, utf8_ofList, decimal, List.flatMap_def]
  have hdigit : ∀ c ∈ Nat.toDigits 10 n, String.utf8EncodeChar c = [UInt8.ofNat c.toNat] := by
    intro c hc
    have hc' := Nat.isDigit_of_mem_toDigits (by decide) (by decide) hc
    have hle : c.val.toNat ≤ 0x7F := by
      simp only [Char.isDigit, Bool.and_eq_true, decide_eq_true_eq, UInt32.le_iff_toNat_le] at hc'
      exact hc'.2.trans (by decide)
    unfold String.utf8EncodeChar
    rw [if_pos hle]
    rfl
  rw [List.map_congr_left hdigit, ← List.flatMap_def, ← List.map_eq_flatMap]

theorem digitsFrom_iff {length : ℕ} {l : Bytes} :
    digitsFrom length l = true ↔ (∀ b ∈ l, DigitByte b) ∧ (l = [] ∨ length + l.length ≤ 20) := by
  induction l generalizing length with
  | nil => simp [digitsFrom]
  | cons b l ih =>
    unfold digitsFrom
    simp only [UInt8.lt_iff_toNat_lt, UInt8.reduceToNat, List.forall_mem_cons, digitByte_toNat, reduceCtorEq, false_or,
      List.length_cons]
    split_ifs with hbad
    · rw [false_iff]
      rintro ⟨⟨hb, -⟩, hlen⟩
      omega
    · rw [ih]
      simp only [digitByte_toNat]
      constructor
      · rintro ⟨hall, hlen⟩
        refine ⟨⟨by omega, hall⟩, ?_⟩
        rcases hlen with rfl | hlen
        · rw [List.length_nil]
          omega
        · omega
      · rintro ⟨⟨-, hall⟩, hlen⟩
        exact ⟨hall, .inr (by omega)⟩

theorem canonicalGeneration_cons {b : UInt8} {rest : Bytes} : canonicalGeneration (b :: rest) = true ↔
    0x31 ≤ b.toNat ∧ b.toNat ≤ 0x39 ∧ digitsFrom 1 rest = true ∧
      (strtoull (b :: rest)).range = false ∧ (strtoull (b :: rest)).rest = [] := by
  show (if _ then _ else _) = true ↔ _
  simp only [UInt8.lt_iff_toNat_lt, UInt8.reduceToNat]
  split_ifs with hbad hdigits
  · rw [false_iff]
    rintro ⟨h1, h2, -⟩
    omega
  · simp only [Bool.and_eq_true, Bool.not_eq_true', List.isEmpty_iff, hdigits, true_and]
    constructor
    · exact fun h => ⟨by omega, by omega, h⟩
    · exact fun h => h.2.2
  · simp [hdigits]

/-- **The accepted generations** are the decimal texts of the positive 64-bit numbers. -/
theorem canonicalGeneration_iff {value : Bytes} :
    canonicalGeneration value = true ↔ ∃ n : NonZeroU64, utf8 (toString n.1) = value := by
  simp only [utf8_toString]
  constructor
  · intro h
    cases value with
    | nil => cases h
    | cons b rest =>
      obtain ⟨hlo, hhi, hdigits, hrange, -⟩ := canonicalGeneration_cons.1 h
      have hall : ∀ x ∈ b :: rest, DigitByte x := by
        rw [List.forall_mem_cons, digitByte_toNat]
        exact ⟨by omega, (digitsFrom_iff.1 hdigits).1⟩
      have hne : b ≠ 0x30 := by
        rintro rfl
        exact absurd hlo (by decide)
      obtain ⟨hpos, heq⟩ := decimal_decimalValue hall rfl hne
      rw [strtoull_digits (List.cons_ne_nil _ _) hall, decide_eq_false_iff_not] at hrange
      exact ⟨⟨decimalValue (b :: rest), hpos, by unfold u64Max; omega⟩, heq⟩
  · rintro ⟨⟨n, hpos, hmax⟩, rfl⟩
    obtain ⟨hvalue, hall, b, rest, hhead, hne⟩ := decimal_spec hpos
    have hlen : (decimal n).length ≤ 20 := (decimal_length_le (by decide)).2 (by unfold u64Max at hmax; omega)
    have hread := strtoull_digits (l := decimal n) (by simp [hhead]) hall
    show canonicalGeneration (decimal n) = true
    rw [hvalue] at hread
    rw [hhead] at hall hlen hread ⊢
    rw [List.forall_mem_cons, digitByte_toNat] at hall
    rw [← UInt8.toNat_inj.ne, show (0x30 : UInt8).toNat = 0x30 from rfl] at hne
    rw [canonicalGeneration_cons, hread]
    refine ⟨by omega, by omega, digitsFrom_iff.2 ⟨hall.2, .inr ?_⟩, ?_, rfl⟩
    · rw [List.length_cons] at hlen
      omega
    · rw [decide_eq_false_iff_not]
      unfold u64Max at hmax
      omega

theorem generation_fits (n : NonZeroU64) : Fits 20 (utf8 (toString n.1)) := by
  obtain ⟨-, hall, b, rest, hhead, -⟩ := decimal_spec n.2.1
  have hmax := n.2.2
  rw [utf8_toString]
  refine ⟨by simp [hhead], ?_, (decimal_length_le (by decide)).2 (by unfold u64Max at hmax; omega)⟩
  intro hmem
  exact absurd (digitByte_toNat.1 (hall _ hmem)).1 (by decide)

/-! ### Topics -/

/-- The four parts of the command topic of an identity. -/
def parts (i : DeviceIdentity) : List Bytes :=
  [utf8 i.tenant.hyphenated, utf8 i.device.hyphenated, utf8 (toString i.credentialGeneration.1), utf8 commandContract]

theorem utf8_commandTopic (i : DeviceIdentity) : utf8 i.commandTopic = topicOf (utf8 i.tenant.hyphenated)
    (utf8 i.device.hyphenated) (utf8 (toString i.credentialGeneration.1)) (utf8 commandContract) := by
  simp only [DeviceIdentity.commandTopic, topicOf, utf8_append, List.append_assoc, commandContract]

theorem utf8_principalUrn (i : DeviceIdentity) : utf8 i.principalUrn = utf8 "urn:rss:mqtt-device:v1:" ++
    utf8 i.tenant.hyphenated ++ utf8 ":" ++ utf8 i.device.hyphenated ++ utf8 ":" ++
      utf8 (toString i.credentialGeneration.1) := by
  unfold DeviceIdentity.principalUrn
  generalize toString i.credentialGeneration.1 = generation
  rw [utf8_append, utf8_append, utf8_append, utf8_append, utf8_append]

theorem contract_fits : Fits 63 (utf8 commandContract) := ⟨by decide +kernel, by decide +kernel, by decide +kernel⟩

/-- All of each part fits its buffer, and nothing is left behind the last one. -/
theorem scan_commandTopic (i : DeviceIdentity) : scan topicFormat (utf8 i.commandTopic) = (parts i, true) := by
  rw [utf8_commandTopic, parts]
  exact scan_topicOf (hyphenated_fits _) (hyphenated_fits _) (generation_fits _) contract_fits

/-- An identity is known by the texts of its parts. -/
theorem identity_of_texts {i j : DeviceIdentity} (ht : utf8 i.tenant.hyphenated = utf8 j.tenant.hyphenated)
    (hd : utf8 i.device.hyphenated = utf8 j.device.hyphenated)
    (hg : utf8 (toString i.credentialGeneration.1) = utf8 (toString j.credentialGeneration.1)) : i = j := by
  obtain ⟨t, d, g, ht0, hd0⟩ := i
  obtain ⟨t', d', g', ht0', hd0'⟩ := j
  obtain rfl : t = t' := hyphenated_inj ht
  obtain rfl : d = d' := hyphenated_inj hd
  obtain rfl : g = g' := Subtype.ext (toString_nat_inj (utf8_inj.1 hg))
  rfl

/-- A principal belongs to one identity. -/
theorem principalUrn_inj {i j : DeviceIdentity} (h : i.principalUrn = j.principalUrn) : i = j := by
  have hlen : ∀ u v : Uuid, (utf8 u.hyphenated).length = (utf8 v.hyphenated).length := fun u v => by
    rw [hyphenated_length, hyphenated_length]
  have hbytes := congrArg utf8 h
  rw [utf8_principalUrn, utf8_principalUrn] at hbytes
  simp only [List.append_assoc, List.append_cancel_left_eq] at hbytes
  obtain ⟨ht, hbytes⟩ := List.append_inj hbytes (hlen _ _)
  obtain ⟨hd, hbytes⟩ := List.append_inj (List.append_cancel_left hbytes) (hlen _ _)
  exact identity_of_texts ht hd (List.append_cancel_left hbytes)

/-- A command topic belongs to one identity. -/
theorem commandTopic_inj {i j : DeviceIdentity} (h : i.commandTopic = j.commandTopic) : i = j := by
  have hparts : parts i = parts j := by
    have hi := scan_commandTopic i
    rw [h, scan_commandTopic j] at hi
    exact (congrArg Prod.fst hi).symm
  simp only [parts, List.cons.injEq, and_true] at hparts
  obtain ⟨ht, hd, hg⟩ := hparts
  exact identity_of_texts ht hd hg

/-- The principal of an identity fits its buffer. -/
theorem principalUrn_length (i : DeviceIdentity) : 0 < (utf8 i.principalUrn).length ∧
    (utf8 i.principalUrn).length < principalCapacity := by
  have hgen := (generation_fits i.credentialGeneration).length
  have hurn : (utf8 "urn:rss:mqtt-device:v1:").length = 23 := by decide
  have hcolon : (utf8 ":").length = 1 := by decide
  rw [utf8_principalUrn]
  simp only [List.length_append, hyphenated_length, hurn, hcolon, principalCapacity]
  omega

theorem commandPrincipal_commandTopic (i : DeviceIdentity) :
    commandPrincipal (utf8 i.commandTopic) = some (utf8 i.principalUrn) := by
  obtain ⟨hpos, hlt⟩ := principalUrn_length i
  have htenant := canonicalUuid_iff.2 ⟨_, i.tenant_ne_nil, rfl⟩
  have hdevice := canonicalUuid_iff.2 ⟨_, i.device_ne_nil, rfl⟩
  have hgen := canonicalGeneration_iff.2 ⟨i.credentialGeneration, rfl⟩
  unfold commandPrincipal
  rw [scan_commandTopic]
  simp only [parts, htenant, hdevice, hgen, snprintf, ← utf8_principalUrn]
  rw [if_neg (by simp [scanCount]), if_neg (by simp), if_pos ⟨hpos, hlt⟩, List.take_of_length_le (by omega)]

/-- An accepted topic is that of an identity. -/
theorem exists_identity {t p : Bytes} (h : commandPrincipal t = some p) : ∃ i : DeviceIdentity, utf8 i.commandTopic = t := by
  unfold commandPrincipal at h
  dsimp only at h
  split_ifs at h
  split at h
  · rename_i tenant device generation contract hscan
    split_ifs at h with hbad
    simp only [not_or, not_not] at hbad
    obtain ⟨htenant, hdevice, hgen, rfl⟩ := hbad
    obtain ⟨rfl, -⟩ := scan_topicFormat hscan
    obtain ⟨u, hu, rfl⟩ := canonicalUuid_iff.1 htenant
    obtain ⟨v, hv, rfl⟩ := canonicalUuid_iff.1 hdevice
    obtain ⟨n, rfl⟩ := canonicalGeneration_iff.1 hgen
    exact ⟨⟨u, v, n, hu, hv⟩, utf8_commandTopic _⟩
  · cases h

/-- **The topics of the broker are those of the agent.**  A topic is accepted exactly when it is the command topic of a
device identity; the identity is the only one, the principal written is its principal, and the buffers hold all of
the four parts. -/
theorem topic_agreement (t : CString) :
    ((commandPrincipal t.1).isSome = true ↔ ∃ i : DeviceIdentity, utf8 i.commandTopic = t.1) ∧
    ∀ i : DeviceIdentity, utf8 i.commandTopic = t.1 → (∀ j : DeviceIdentity, utf8 j.commandTopic = t.1 → j = i) ∧
      commandPrincipal t.1 = some (utf8 i.principalUrn) ∧ scan topicFormat t.1 = (parts i, true) := by
  refine ⟨⟨fun h => ?_, ?_⟩, ?_⟩
  · obtain ⟨p, hp⟩ := Option.isSome_iff_exists.1 h
    exact exists_identity hp
  · rintro ⟨i, hi⟩
    rw [← hi, commandPrincipal_commandTopic]
    rfl
  · intro i hi
    refine ⟨fun j hj => ?_, ?_, ?_⟩
    · exact commandTopic_inj (utf8_inj.1 (hj.trans hi.symm))
    · rw [← hi, commandPrincipal_commandTopic]
    · rw [← hi, scan_commandTopic]

end RssIncubator.Broker
