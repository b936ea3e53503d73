import Mathlib.Algebra.GroupWithZero.Nat
import Mathlib.Data.Int.Notation
import Mathlib.Data.List.Basic
import Mathlib.Tactic.SplitIfs

/-!
# The text of a flat object

An object whose members are texts, integers and null, written down in JSON without blanks, and read back.  In a text the
quote and the backslash are escaped; after the object there may be blanks.

`read_print`: what was written down is read as it was.
-/

namespace RssIncubator.Lib.Json

/-- The value of a member. -/
inductive Scalar where
  | null
  | text (value : List Char)
  | number (value : ℤ)
  deriving DecidableEq

abbrev Member := List Char × Scalar

/-- A member with a text. -/
def textMember (name value : String) : Member := (name.toList, .text value.toList)

/-- A member with a number. -/
def numberMember (name : String) (value : ℤ) : Member := (name.toList, .number value)

@[simp] theorem textMember_inj {name value value' : String} : textMember name value = textMember name value' ↔ value = value' := by
  simp [textMember, String.toList_inj]

@[simp] theorem numberMember_inj {name : String} {value value' : ℤ} :
    numberMember name value = numberMember name value' ↔ value = value' := by
  simp [numberMember]

/-! ### Writing -/

/-- A character inside quotes. -/
def escape (c : Char) : List Char := if c = '\x22' ∨ c = '\x5c' then ['\x5c', c] else [c]

def quoted (text : List Char) : List Char := '\x22' :: (text.flatMap escape ++ ['\x22'])

def Scalar.print : Scalar → List Char
  | null => ['n', 'u', 'l', 'l']
  | text value => quoted value
  | number (.ofNat n) => Nat.toDigits 10 n
  | number (.negSucc n) => '-' :: Nat.toDigits 10 (n + 1)

def printMember (member : Member) : List Char := quoted member.1 ++ ':' :: member.2.print

/-- The members after the first one, and the end. -/
def printRest : List Member → List Char
  | [] => ['\x7d']
  | member :: members => ',' :: (printMember member ++ printRest members)

def print : List Member → List Char
  | [] => ['\x7b', '\x7d']
  | member :: members => '\x7b' :: (printMember member ++ printRest members)

/-! ### Reading -/

/-- A text up to the quote that closes it, and what follows. -/
def readText : List Char → Option (List Char × List Char)
  | [] => none
  | '\x22' :: rest => some ([], rest)
  | '\x5c' :: c :: rest => (readText rest).map fun (text, rest) => (c :: text, rest)
  | c :: rest => (readText rest).map fun (text, rest) => (c :: text, rest)

def readNumber (text : List Char) : Option (ℕ × List Char) :=
  let digits := text.takeWhile Char.isDigit
  if digits = [] then none else some (Nat.ofDigitChars 10 digits 0, text.dropWhile Char.isDigit)

def readScalar : List Char → Option (Scalar × List Char)
  | '\x22' :: rest => (readText rest).map fun (text, rest) => (.text text, rest)
  | 'n' :: 'u' :: 'l' :: 'l' :: rest => some (.null, rest)
  | '-' :: rest => (readNumber rest).map fun (value, rest) => (.number (-value), rest)
  | rest => (readNumber rest).map fun (value, rest) => (.number value, rest)

def readMember : List Char → Option (Member × List Char)
  | '\x22' :: rest =>
    match readText rest with
    | some (name, ':' :: rest) => (readScalar rest).map fun (value, rest) => ((name, value), rest)
    | _ => none
  | _ => none

/-- The members after the first one, so many at most. -/
def readRest : ℕ → List Char → Option (List Member × List Char)
  | _, '\x7d' :: rest => some ([], rest)
  | room + 1, ',' :: rest =>
    match readMember rest with
    | some (member, rest) => (readRest room rest).map fun (members, rest) => (member :: members, rest)
    | none => none
  | _, _ => none

def readObject : List Char → Option (List Member × List Char)
  | '\x7b' :: '\x7d' :: rest => some ([], rest)
  | '\x7b' :: rest =>
    match readMember rest with
    | some (member, rest) => (readRest rest.length rest).map fun (members, rest) => (member :: members, rest)
    | none => none
  | _ => none

/-- An object, and blanks. -/
def read (text : List Char) : Option (List Member) :=
  match readObject text with
  | some (members, rest) => if rest.all Char.isWhitespace then some members else none
  | none => none

/-! ### What was written is read -/

variable {text rest : List Char}

theorem readText_escape (c : Char) : readText (escape c ++ rest) = (readText rest).map fun (text, rest) => (c :: text, rest) := by
  unfold escape
  by_cases hc : c = '\x22' ∨ c = '\x5c'
  · rw [if_pos hc]
    rfl
  · rw [if_neg hc, List.singleton_append]
    rw [not_or] at hc
    rw [readText.eq_def]
    split
    · simp_all
    · simp_all
    · simp_all
    · rename_i h
      obtain ⟨rfl, rfl⟩ := List.cons.inj h
      rfl

theorem readText_quoted : readText (text.flatMap escape ++ '\x22' :: rest) = some (text, rest) := by
  induction text with
  | nil => rfl
  | cons c text ih => rw [List.flatMap_cons, List.append_assoc, readText_escape, ih, Option.map_some]

/-- What follows does not go on with the digits. -/
def Ends (rest : List Char) : Prop := ∀ c ∈ rest.head?, c.isDigit = false

theorem toDigits_isDigit (n : ℕ) : ∀ c ∈ Nat.toDigits 10 n, c.isDigit = true := fun _ hc =>
  Nat.isDigit_of_mem_toDigits (by decide) (by decide) hc

theorem takeWhile_digits (n : ℕ) (hrest : Ends rest) :
    (Nat.toDigits 10 n ++ rest).takeWhile Char.isDigit = Nat.toDigits 10 n ∧
    (Nat.toDigits 10 n ++ rest).dropWhile Char.isDigit = rest := by
  rw [List.takeWhile_append_of_pos (toDigits_isDigit n), List.dropWhile_append_of_pos (toDigits_isDigit n)]
  cases rest with
  | nil => simp
  | cons c rest =>
    have hc : c.isDigit = false := hrest c rfl
    simp [hc]

theorem readNumber_digits (n : ℕ) (hrest : Ends rest) : readNumber (Nat.toDigits 10 n ++ rest) = some (n, rest) := by
  obtain ⟨htake, hdrop⟩ := takeWhile_digits n hrest
  unfold readNumber
  rw [htake, hdrop, if_neg Nat.toDigits_ne_nil, Nat.ofDigitChars_toDigits (by decide) (by decide)]

theorem readScalar_print (value : Scalar) (hrest : Ends rest) : readScalar (value.print ++ rest) = some (value, rest) := by
  cases value with
  | null => rfl
  | text value =>
    simp only [Scalar.print, quoted, List.cons_append, List.append_assoc, List.nil_append, readScalar, readText_quoted,
      Option.map_some]
  | number z =>
    cases z with
    | ofNat n =>
      have hread := readNumber_digits n hrest
      obtain ⟨c, digits, hdigits⟩ := List.exists_cons_of_ne_nil (Nat.toDigits_ne_nil (n := n) (b := 10))
      have hc := toDigits_isDigit n c (hdigits ▸ List.mem_cons_self)
      simp only [Scalar.print, hdigits, List.cons_append] at hread ⊢
      -- a digit is none of the characters that begin another value
      rw [readScalar.eq_def]
      split
      · rename_i h
        obtain ⟨rfl, -⟩ := List.cons.inj h
        exact absurd hc (by decide)
      · rename_i h
        obtain ⟨rfl, -⟩ := List.cons.inj h
        exact absurd hc (by decide)
      · rename_i h
        obtain ⟨rfl, -⟩ := List.cons.inj h
        exact absurd hc (by decide)
      · rw [hread, Option.map_some]
        rfl
    | negSucc n =>
      simp only [Scalar.print, List.cons_append, readScalar, readNumber_digits (n + 1) hrest, Option.map_some]
      rfl

theorem readMember_print (member : Member) (hrest : Ends rest) :
    readMember (printMember member ++ rest) = some (member, rest) := by
  simp only [printMember, quoted, List.cons_append, List.append_assoc, List.nil_append, readMember, readText_quoted,
    readScalar_print member.2 hrest, Option.map_some]

theorem ends_printRest (members : List Member) : Ends (printRest members ++ rest) := by
  cases members <;> simp [printRest, Ends]

theorem readRest_print {members : List Member} {room : ℕ} (hroom : members.length ≤ room) :
    readRest room (printRest members ++ rest) = some (members, rest) := by
  induction members generalizing room with
  | nil =>
    cases room <;> rfl
  | cons member members ih =>
    obtain ⟨room, rfl⟩ : ∃ n, room = n + 1 := ⟨room - 1, by rw [List.length_cons] at hroom; omega⟩
    simp only [printRest, List.cons_append, List.append_assoc, readRest, readMember_print member (ends_printRest members)]
    rw [ih (by simpa using hroom), Option.map_some]

theorem length_le_printRest (members : List Member) : members.length ≤ (printRest members).length := by
  induction members with
  | nil => simp
  | cons member members ih =>
    simp only [printRest, List.length_cons, List.length_append]
    omega

theorem readObject_print (members : List Member) : readObject (print members ++ rest) = some (members, rest) := by
  cases members with
  | nil => rfl
  | cons member members =>
    have hroom : members.length ≤ (printRest members ++ rest).length := by
      have := length_le_printRest members
      rw [List.length_append]
      omega
    have hends : Ends (printRest members ++ rest) := ends_printRest members
    have hmember := readMember_print member hends
    -- a member begins with a quote, so the object is not taken for an empty one
    have hstep : readObject ('\x7b' :: (printMember member ++ (printRest members ++ rest))) =
        match readMember (printMember member ++ (printRest members ++ rest)) with
        | some (member, rest) => (readRest rest.length rest).map fun (members, rest) => (member :: members, rest)
        | none => none := rfl
    rw [print, List.cons_append, List.append_assoc, hstep, hmember]
    simp only [readRest_print hroom, Option.map_some]

theorem print_injective : Function.Injective print := fun members members' h => by
  have hread : readObject (print members ++ []) = some (members, []) := readObject_print members
  rw [h, readObject_print] at hread
  exact (Prod.mk.inj (Option.some.inj hread)).1.symm

/-- An object as one text. -/
def encode (members : List Member) : String := String.ofList (print members)

theorem encode_injective : Function.Injective encode := fun _ _ h => print_injective (String.ofList_inj.1 h)

/-- **What was written down is read as it was.** -/
theorem read_print (members : List Member) (hrest : rest.all Char.isWhitespace) : read (print members ++ rest) = some members := by
  unfold read
  rw [readObject_print]
  exact if_pos hrest

/-! ### How long the text is -/

/-- The bytes of a text in UTF-8. -/
def size (text : List Char) : ℕ := (text.map Char.utf8Size).sum

@[simp] theorem size_nil : size [] = 0 := rfl

@[simp] theorem size_cons (c : Char) (text : List Char) : size (c :: text) = c.utf8Size + size text := rfl

@[simp] theorem size_append (text text' : List Char) : size (text ++ text') = size text + size text' := by
  simp [size]

theorem size_escape (c : Char) : size (escape c) ≤ 2 * c.utf8Size := by
  have hpos := c.utf8Size_pos
  have hslash : Char.utf8Size '\x5c' = 1 := rfl
  unfold escape
  split_ifs
  · simp only [size_cons, size_nil, hslash]
    omega
  · simp only [size_cons, size_nil]
    omega

theorem size_quoted (text : List Char) : size (quoted text) ≤ 2 + 2 * size text := by
  have hquote : Char.utf8Size '\x22' = 1 := rfl
  have hescaped : size (text.flatMap escape) ≤ 2 * size text := by
    induction text with
    | nil => simp
    | cons c text ih =>
      have := size_escape c
      simp only [List.flatMap_cons, size_append, size_cons]
      omega
  simp only [quoted, size_cons, size_append, size_nil, hquote]
  omega

/-- The room a value takes. -/
def Scalar.width : Scalar → ℕ
  | .text value => 2 + 2 * size value
  | value => size value.print

/-- The room a member takes, with its colon and the comma before it. -/
def width (member : Member) : ℕ := 4 + 2 * size member.1 + member.2.width

theorem size_printMember (member : Member) : size (printMember member) + 1 ≤ width member := by
  have hname := size_quoted member.1
  have hcolon : Char.utf8Size ':' = 1 := rfl
  have hvalue : size member.2.print ≤ member.2.width := by
    cases member.2 with
    | null => exact Nat.le_refl _
    | text value => exact size_quoted value
    | number value => exact Nat.le_refl _
  simp only [printMember, width, size_append, size_cons, hcolon]
  omega

theorem size_printRest (members : List Member) : size (printRest members) ≤ 1 + (members.map width).sum := by
  have hcomma : Char.utf8Size ',' = 1 := rfl
  induction members with
  | nil => exact Nat.le_refl _
  | cons member members ih =>
    have := size_printMember member
    simp only [printRest, size_cons, size_append, List.map_cons, List.sum_cons, hcomma]
    omega

theorem size_print (members : List Member) : size (print members) ≤ 2 + (members.map width).sum := by
  have hbrace : Char.utf8Size '\x7b' = 1 := rfl
  cases members with
  | nil => exact Nat.le_refl _
  | cons member members =>
    have := size_printMember member
    have := size_printRest members
    simp only [print, size_cons, size_append, List.map_cons, List.sum_cons, hbrace]
    omega

theorem utf8ByteSize_ofList (text : List Char) : (String.ofList text).utf8ByteSize = size text := by
  simp [← String.size_toByteArray, size, List.utf8Encode, List.length_flatMap]

theorem size_toList (text : String) : size text.toList = text.utf8ByteSize := by
  rw [← utf8ByteSize_ofList, String.ofList_toList]

theorem width_textMember (name value : String) :
    width (textMember name value) = 6 + 2 * name.utf8ByteSize + 2 * value.utf8ByteSize := by
  simp only [width, textMember, Scalar.width, size_toList]
  omega

theorem utf8ByteSize_encode (members : List Member) : (encode members).utf8ByteSize ≤ 2 + (members.map width).sum := by
  rw [encode, utf8ByteSize_ofList]
  exact size_print members

end RssIncubator.Lib.Json
