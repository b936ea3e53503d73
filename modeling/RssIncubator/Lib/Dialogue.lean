import Mathlib.Data.List.Basic

/-!
# Programs that make calls

A program makes calls to its surroundings and goes on with their answers.  Nothing is known of an answer but its type, so
what can be said of a program is what it does with each: which calls it makes after which exchanges, and how it ends.

`Keeps may ends h d` is the one judgement about both.  It asks that after the exchanges `h` every call of `d` is one that
`may` permits, given all exchanges before it, and that `d` ends as `ends` says.
-/

namespace RssIncubator.Lib

/-- A program with calls `Q`, answers `A`, errors `ε` and values `α`. -/
inductive Dialogue (Q : Type) (A : Q → Type) (ε α : Type) where
  | done (result : Except ε α)
  | ask (call : Q) (next : A call → Dialogue Q A ε α)

/-- A call and its answer. -/
abbrev Exchange (Q : Type) (A : Q → Type) := (call : Q) × A call

namespace Dialogue

variable {Q : Type} {A : Q → Type} {ε ε' α β : Type}

protected def bind : Dialogue Q A ε α → (α → Dialogue Q A ε β) → Dialogue Q A ε β
  | done (.ok a), f => f a
  | done (.error e), _ => done (.error e)
  | ask call next, f => ask call fun a => (next a).bind f

instance : Monad (Dialogue Q A ε) where
  pure a := done (.ok a)
  bind := Dialogue.bind

/-- One call. -/
def call (q : Q) : Dialogue Q A ε (A q) := ask q fun a => done (.ok a)

def fail (e : ε) : Dialogue Q A ε α := done (.error e)

/-- The result of a pure computation that may fail. -/
def ofExcept (x : Except ε α) : Dialogue Q A ε α := done x

/-- Without calls it is one computation. -/
theorem ofExcept_bind (x : Except ε α) (f : α → Except ε β) :
    (ofExcept x >>= fun a => ofExcept (f a) : Dialogue Q A ε β) = ofExcept (x >>= f) := by
  cases x <;> rfl

/-- Rename the errors of a program. -/
def mapErr (f : ε → ε') : Dialogue Q A ε α → Dialogue Q A ε' α
  | done (.ok a) => done (.ok a)
  | done (.error e) => done (.error (f e))
  | ask call next => ask call fun a => (next a).mapErr f

/-! ### What a program keeps to -/

/-- After the exchanges of the list the second program is what is left of the first. -/
inductive Talks : Dialogue Q A ε α → List (Exchange Q A) → Dialogue Q A ε α → Prop
  | nil (d : Dialogue Q A ε α) : Talks d [] d
  | cons {call : Q} {next : A call → Dialogue Q A ε α} {a : A call} {l d} (h : Talks (next a) l d) :
      Talks (ask call next) (⟨call, a⟩ :: l) d

theorem talks_done {r r' : Except ε α} {l : List (Exchange Q A)} : Talks (done r : Dialogue Q A ε α) l (done r') ↔
    l = [] ∧ r' = r := by
  constructor
  · rintro ⟨⟩
    exact ⟨rfl, rfl⟩
  · rintro ⟨rfl, rfl⟩
    exact .nil _

theorem talks_ask {q : Q} {next : A q → Dialogue Q A ε α} {r : Except ε α} {l : List (Exchange Q A)} :
    Talks (ask q next) l (done r) ↔ ∃ a l', l = ⟨q, a⟩ :: l' ∧ Talks (next a) l' (done r) := by
  constructor
  · rintro (_ | h)
    exact ⟨_, _, rfl, h⟩
  · rintro ⟨a, l', rfl, h⟩
    exact .cons h

/-- After the exchanges `h`, every call is permitted by the exchanges before it, and the end is as it should be. -/
def Keeps (may : List (Exchange Q A) → Q → Prop) (ends : List (Exchange Q A) → Except ε α → Prop) :
    List (Exchange Q A) → Dialogue Q A ε α → Prop
  | h, done result => ends h result
  | h, ask call next => may h call ∧ ∀ a, Keeps may ends (h ++ [⟨call, a⟩]) (next a)

/-- An end that is asked only about its value. -/
def Returns (P : List (Exchange Q A) → α → Prop) (h : List (Exchange Q A)) : Except ε α → Prop
  | .ok a => P h a
  | .error _ => True

section Keeps

variable {may may' : List (Exchange Q A) → Q → Prop} {ends : List (Exchange Q A) → Except ε α → Prop}
  {h l : List (Exchange Q A)} {d d' : Dialogue Q A ε α}

theorem Keeps.talks (hk : Keeps may ends h d) (ht : Talks d l d') : Keeps may ends (h ++ l) d' := by
  induction ht generalizing h with
  | nil => rwa [List.append_nil]
  | cons ht ih =>
    have := ih (hk.2 _)
    rwa [List.append_assoc] at this

/-- **Every call of every conversation is permitted.** -/
theorem Keeps.permits (hk : Keeps may ends [] d) {q : Q} {next : A q → Dialogue Q A ε α} (ht : Talks d l (ask q next)) :
    may l q := (hk.talks ht).1

/-- **Every conversation ends as it should.** -/
theorem Keeps.result (hk : Keeps may ends [] d) {r : Except ε α} (ht : Talks d l (done r)) : ends l r := hk.talks ht

/-- The rule for invariants: what every permitted call preserves, whatever its answer, is known at the end. -/
theorem Keeps.carry (hk : Keeps may ends h d) {I : List (Exchange Q A) → Prop} (hmay : ∀ g q, may g q → may' g q)
    (hI : ∀ g q a, may g q → I g → I (g ++ [⟨q, a⟩])) (hh : I h) : Keeps may' (fun g r => I g ∧ ends g r) h d := by
  induction d generalizing h with
  | done r => exact ⟨hh, hk⟩
  | ask q next ih => exact ⟨hmay h q hk.1, fun a => ih a (hk.2 a) (hI h q a hk.1 hh)⟩

/-- The rule for a sequence: its second half does as asked after whatever the first half was told. -/
theorem Keeps.bind {f : α → Dialogue Q A ε β} {ends' : List (Exchange Q A) → Except ε β → Prop} (hk : Keeps may ends h d)
    (hok : ∀ l a, ends (h ++ l) (.ok a) → Keeps may ends' (h ++ l) (f a))
    (herror : ∀ l e, ends (h ++ l) (.error e) → ends' (h ++ l) (.error e)) : Keeps may ends' h (d >>= f) := by
  induction d generalizing h with
  | done r =>
    rcases r with e | a
    · have := herror [] e
      rw [List.append_nil] at this
      exact this hk
    · have := hok [] a
      rw [List.append_nil] at this
      exact this hk
  | ask q next ih =>
    refine ⟨hk.1, fun a => ih a (hk.2 a) (fun l b => ?_) fun l e => ?_⟩
    · rw [List.append_assoc]
      exact hok _ b
    · rw [List.append_assoc]
      exact herror _ e

/-- The same, where only values count. -/
theorem Keeps.seq {P : List (Exchange Q A) → α → Prop} {R : List (Exchange Q A) → β → Prop} {f : α → Dialogue Q A ε β}
    (hk : Keeps may (Returns P) h d) (hf : ∀ l a, P (h ++ l) a → Keeps may (Returns R) (h ++ l) (f a)) :
    Keeps may (Returns R) h (d >>= f) := hk.bind hf fun _ _ _ => trivial

theorem Keeps.ask {q : Q} {ends : List (Exchange Q A) → Except ε β → Prop} {f : A q → Dialogue Q A ε β} (hmay : may h q)
    (hf : ∀ a, Keeps may ends (h ++ [⟨q, a⟩]) (f a)) : Keeps may ends h (call q >>= f) := ⟨hmay, hf⟩

theorem Keeps.check {ends : List (Exchange Q A) → Except ε β → Prop} {x : Except ε α} {f : α → Dialogue Q A ε β}
    (hf : ∀ a, x = .ok a → Keeps may ends h (f a)) (herror : ∀ e, x = .error e → ends h (.error e)) :
    Keeps may ends h (ofExcept x >>= f) := by
  cases x with
  | error e => exact herror e rfl
  | ok a => exact hf a rfl

/-- The same, where only values count. -/
theorem Keeps.pass {R : List (Exchange Q A) → β → Prop} {x : Except ε α} {f : α → Dialogue Q A ε β}
    (hf : ∀ a, x = .ok a → Keeps may (Returns R) h (f a)) : Keeps may (Returns R) h (ofExcept x >>= f) :=
  Keeps.check hf fun _ _ => trivial

theorem Keeps.mapErr {f : ε' → ε} {P : List (Exchange Q A) → α → Prop} {d : Dialogue Q A ε' α}
    (hk : Keeps may (Returns P) h d) : Keeps may (Returns P) h (d.mapErr f) := by
  induction d generalizing h with
  | done r =>
    cases r with
    | error e => trivial
    | ok a => exact hk
  | ask q next ih => exact ⟨hk.1, fun a => ih a (hk.2 a)⟩

end Keeps

/-! ### A conversation that is written down -/

section Follow

variable [DecidableEq Q]

/-- What is left of a program after the exchanges, if they are ones it takes part in. -/
def follow : List (Exchange Q A) → Dialogue Q A ε α → Option (Dialogue Q A ε α)
  | [], d => some d
  | _ :: _, done _ => none
  | e :: l, ask call next => if h : e.1 = call then follow l (next (h ▸ e.2)) else none

def result : Dialogue Q A ε α → Option (Except ε α)
  | done r => some r
  | ask _ _ => none

theorem talks_of_follow {l : List (Exchange Q A)} {d d' : Dialogue Q A ε α} (h : follow l d = some d') : Talks d l d' := by
  induction l generalizing d with
  | nil =>
    obtain rfl := Option.some.inj h
    exact .nil _
  | cons e l ih =>
    cases d with
    | done r => cases h
    | ask call next =>
      unfold follow at h
      by_cases hcall : e.1 = call
      · obtain ⟨q, a⟩ := e
        obtain rfl := hcall
        rw [dif_pos rfl] at h
        exact .cons (ih h)
      · rw [dif_neg hcall] at h
        cases h

/-- A conversation that was followed to its end. -/
theorem talks_of_result {l : List (Exchange Q A)} {d : Dialogue Q A ε α} {r : Except ε α}
    (h : (follow l d).bind result = some r) : Talks d l (done r) := by
  obtain ⟨d', hd, hr⟩ := Option.bind_eq_some_iff.1 h
  cases d' with
  | done r' =>
    obtain rfl := Option.some.inj hr
    exact talks_of_follow hd
  | ask call next => cases hr

end Follow

end Dialogue

end RssIncubator.Lib
