import Mathlib.Data.Set.Function
import Mathlib.Algebra.Order.Group.Nat

/-!
# SHA-256

The hash of FIPS 180-4 on byte strings, as a computable function.  Nothing is proved about it but the
length of its output: what a development relies on beyond that is the absence of collisions among the
strings it hashes (`CollisionFree`).
-/

namespace RssIncubator.Lib

abbrev Bytes := List UInt8

namespace Sha256

/-- A word, below `2 ^ 32`. -/
abbrev Word := ℕ

/-- Addition of words. -/
def add (x y : Word) : Word := (x + y) % 4294967296

/-- The eight working words. -/
structure Words where
  (a b c d e f g h : Word)

def initial : Words :=
  ⟨0x6a09e667, 0xbb67ae85, 0x3c6ef372, 0xa54ff53a, 0x510e527f, 0x9b05688c, 0x1f83d9ab, 0x5be0cd19⟩

/-- The round constants. -/
def constants : List Word :=
  [0x428a2f98, 0x71374491, 0xb5c0fbcf, 0xe9b5dba5, 0x3956c25b, 0x59f111f1, 0x923f82a4, 0xab1c5ed5,
   0xd807aa98, 0x12835b01, 0x243185be, 0x550c7dc3, 0x72be5d74, 0x80deb1fe, 0x9bdc06a7, 0xc19bf174,
   0xe49b69c1, 0xefbe4786, 0x0fc19dc6, 0x240ca1cc, 0x2de92c6f, 0x4a7484aa, 0x5cb0a9dc, 0x76f988da,
   0x983e5152, 0xa831c66d, 0xb00327c8, 0xbf597fc7, 0xc6e00bf3, 0xd5a79147, 0x06ca6351, 0x14292967,
   0x27b70a85, 0x2e1b2138, 0x4d2c6dfc, 0x53380d13, 0x650a7354, 0x766a0abb, 0x81c2c92e, 0x92722c85,
   0xa2bfe8a1, 0xa81a664b, 0xc24b8b70, 0xc76c51a3, 0xd192e819, 0xd6990624, 0xf40e3585, 0x106aa070,
   0x19a4c116, 0x1e376c08, 0x2748774c, 0x34b0bcb5, 0x391c0cb3, 0x4ed8aa4a, 0x5b9cca4f, 0x682e6ff3,
   0x748f82ee, 0x78a5636f, 0x84c87814, 0x8cc70208, 0x90befffa, 0xa4506ceb, 0xbef9a3f7, 0xc67178f2]

/-- Rotation to the right. -/
def rotr (x : Word) (n : ℕ) : Word := (x >>> n) ||| ((x <<< (32 - n)) % 4294967296)

/-- The message, a one bit, zeros up to 8 bytes below a block boundary, and the bit length. -/
def pad (m : Bytes) : Bytes :=
  m ++ 0x80 :: List.replicate ((119 - m.length % 64) % 64) 0 ++
    (List.range 8).map fun i => UInt8.ofNat (m.length * 8 / 256 ^ (7 - i))

/-- Four bytes to a word, most significant first. -/
def words : Bytes → List Word
  | a :: b :: c :: d :: rest =>
    (((a.toNat * 256 + b.toNat) * 256 + c.toNat) * 256 + d.toNat) :: words rest
  | _ => []

/-- Extend the message schedule by `n` words; the list holds the newest word first. -/
def extend : ℕ → List Word → List Word
  | 0, w => w
  | n + 1, w =>
    let w15 := w.getD 14 0
    let w2 := w.getD 1 0
    let s0 := rotr w15 7 ^^^ rotr w15 18 ^^^ (w15 >>> 3)
    let s1 := rotr w2 17 ^^^ rotr w2 19 ^^^ (w2 >>> 10)
    extend n (add (add (add (w.getD 15 0) s0) (w.getD 6 0)) s1 :: w)

/-- One round, with its constant and its schedule word. -/
def round (s : Words) (kw : Word × Word) : Words :=
  let s1 := rotr s.e 6 ^^^ rotr s.e 11 ^^^ rotr s.e 25
  let ch := (s.e &&& s.f) ^^^ ((4294967295 ^^^ s.e) &&& s.g)
  let t1 := add (add (add (add s.h s1) ch) kw.1) kw.2
  let s0 := rotr s.a 2 ^^^ rotr s.a 13 ^^^ rotr s.a 22
  let maj := (s.a &&& s.b) ^^^ (s.a &&& s.c) ^^^ (s.b &&& s.c)
  ⟨add t1 (add s0 maj), s.a, s.b, s.c, add s.d t1, s.e, s.f, s.g⟩

/-- The compression of one block of sixteen words. -/
def compress (s : Words) (block : List Word) : Words :=
  let r := (constants.zip (extend 48 block.reverse).reverse).foldl round s
  ⟨add s.a r.a, add s.b r.b, add s.c r.c, add s.d r.d, add s.e r.e, add s.f r.f, add s.g r.g, add s.h r.h⟩

/-- The first `n` blocks of sixteen words. -/
def blocks : ℕ → List Word → List (List Word)
  | 0, _ => []
  | n + 1, w => w.take 16 :: blocks n (w.drop 16)

def wordBytes (w : Word) : Bytes := [24, 16, 8, 0].map fun n => UInt8.ofNat (w >>> n)

def Words.bytes (s : Words) : Bytes :=
  wordBytes s.a ++ wordBytes s.b ++ wordBytes s.c ++ wordBytes s.d ++
    wordBytes s.e ++ wordBytes s.f ++ wordBytes s.g ++ wordBytes s.h

end Sha256

open Sha256

/-- The digest of a byte string. -/
@[irreducible] def sha256 (m : Bytes) : Bytes :=
  let w := words (pad m)
  ((blocks (w.length / 16) w).foldl compress initial).bytes

theorem sha256_length (m : Bytes) : (sha256 m).length = 32 := by
  unfold sha256; simp [Words.bytes, wordBytes]

/-- No two of the strings hash alike. -/
def CollisionFree (strings : List Bytes) : Prop := Set.InjOn sha256 {m | m ∈ strings}

theorem CollisionFree.eq {strings : List Bytes} (h : CollisionFree strings) {m m' : Bytes}
    (hm : m ∈ strings) (hm' : m' ∈ strings) (he : sha256 m = sha256 m') : m = m' := h hm hm' he

instance (strings : List Bytes) : Decidable (CollisionFree strings) :=
  decidable_of_iff (∀ m ∈ strings, ∀ m' ∈ strings, sha256 m = sha256 m' → m = m')
    ⟨fun h m hm m' hm' => h m hm m' hm', fun h _ hm _ hm' => h hm hm'⟩

example : sha256 [0x61, 0x62, 0x63] =
    [0xba, 0x78, 0x16, 0xbf, 0x8f, 0x01, 0xcf, 0xea, 0x41, 0x41, 0x40, 0xde, 0x5d, 0xae, 0x22, 0x23,
     0xb0, 0x03, 0x61, 0xa3, 0x96, 0x17, 0x7a, 0x9c, 0xb4, 0x10, 0xff, 0x61, 0xf2, 0x00, 0x15, 0xad] := by
  decide +kernel

end RssIncubator.Lib
