import Mathlib.Data.List.Basic
import Mathlib.Data.List.Infix
import Mathlib.Algebra.Order.Group.Nat

/-!
# Reading from a connection

What comes on a connection comes in pieces, and a read takes at most as much of the first piece as it has room for.  A
connection may also fail, or take longer than the reader waits.  What is read in the end depends on the pieces only as far as
the reader lets it: the stream of a connection is what its pieces carry together.
-/

namespace RssIncubator.Lib

section

variable {α : Type}

inductive Arrival (α : Type) where
  | data (first : α) (more : List α)
  | failed
  | elapsed

/-- What comes, in order.  After the last piece the peer has closed its side. -/
abbrev Connection (α : Type) := List (Arrival α)

inductive Read (α : Type) where
  /-- Nothing is read at the end of the stream only. -/
  | data (chunk : List α) (rest : Connection α)
  | failed
  | elapsed

namespace Connection

/-- A piece of which nothing is left is gone. -/
def putBack : List α → Connection α → Connection α
  | [], rest => rest
  | first :: more, rest => .data first more :: rest

/-- One read into a buffer of this size. -/
def read : Connection α → ℕ → Read α
  | [], _ => .data [] []
  | .data first more :: rest, size => .data ((first :: more).take size) (putBack ((first :: more).drop size) rest)
  | .failed :: _, _ => .failed
  | .elapsed :: _, _ => .elapsed

/-- All that can be read. -/
def stream : Connection α → List α
  | .data first more :: rest => first :: more ++ stream rest
  | _ => []

/-- These bytes come first, in any pieces, and then whatever may. -/
inductive Delivers : Connection α → List α → Prop where
  | done (c : Connection α) : Delivers c []
  | data (first : α) (more : List α) {rest : Connection α} {l : List α} (h : Delivers rest l) :
      Delivers (.data first more :: rest) (first :: more ++ l)

variable {c rest : Connection α} {l chunk : List α} {size : ℕ}

theorem stream_putBack (l : List α) (rest : Connection α) : stream (putBack l rest) = l ++ stream rest := by
  cases l <;> rfl

theorem Delivers.putBack (l : List α) {m : List α} (h : Delivers rest m) : Delivers (putBack l rest) (l ++ m) := by
  cases l with
  | nil => exact h
  | cons first more => exact .data first more h

/-- A read takes the next part of the stream. -/
theorem stream_read (h : c.read size = .data chunk rest) : c.stream = chunk ++ rest.stream := by
  match c, h with
  | [], h =>
    obtain ⟨rfl, rfl⟩ := Read.data.inj h
    rfl
  | .data first more :: rest', h =>
    obtain ⟨rfl, rfl⟩ := Read.data.inj h
    rw [stream_putBack, ← List.append_assoc, List.take_append_drop]
    rfl

theorem length_read (h : c.read size = .data chunk rest) : chunk.length ≤ size := by
  match c, h with
  | [], h =>
    obtain ⟨rfl, rfl⟩ := Read.data.inj h
    exact Nat.zero_le _
  | .data first more :: rest', h =>
    obtain ⟨rfl, rfl⟩ := Read.data.inj h
    exact List.length_take_le _ _

/-- Bytes that are on their way are read, some of them at a time. -/
theorem Delivers.read (h : Delivers c l) (hl : l ≠ []) (hsize : 0 < size) : ∃ chunk rest l', c.read size = .data chunk rest ∧
    chunk ≠ [] ∧ l = chunk ++ l' ∧ Delivers rest l' := by
  cases h with
  | done => exact absurd rfl hl
  | @data first more rest l h =>
    refine ⟨_, _, (first :: more).drop size ++ l, rfl, ?_, ?_, h.putBack _⟩
    · simp [hsize.ne']
    · rw [← List.append_assoc, List.take_append_drop]

end Connection

/-! ### The first end of a stream -/

/-- The marker is at the end, and at no place before. -/
def EndsFirst (marker l : List α) : Prop := marker <:+ l ∧ ∀ p, p <+: l → marker <:+: p → p = l

theorem EndsFirst.eq_of_prefix {marker l p : List α} (h : EndsFirst marker l) (hp : p <+: l) : marker <:+: p ↔ p = l := by
  constructor
  · exact h.2 p hp
  · rintro rfl
    exact h.1.isInfix

end

end RssIncubator.Lib
