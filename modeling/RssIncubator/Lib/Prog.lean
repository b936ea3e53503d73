import Mathlib.Order.Basic

/-!
# Programs over a state that may fail or crash

A program reads and writes a state and ends in one of three ways: with a value, with an error, or
because the machine stopped under it.  The state it leaves behind is observable in all three cases, so
that what a failed or crashed run has already done is not lost.

`Moves R x` is the one judgement used about every run at once, whatever its end: `x` takes the state
along the relation `R`.
-/

namespace RssIncubator.Lib

/-- How a run ends. -/
inductive Outcome (ε α : Type) where
  | ok (a : α)
  | err (e : ε)
  | crash
  deriving DecidableEq

/-- A program over the state `σ`, with errors `ε` and values `α`. -/
def Prog (σ ε α : Type) : Type := σ → Outcome ε α × σ

namespace Prog

variable {σ τ ε ε' α β : Type}

instance : Monad (Prog σ ε) where
  pure a := fun s => (.ok a, s)
  bind x f := fun s =>
    match x s with
    | (.ok a, s') => f a s'
    | (.err e, s') => (.err e, s')
    | (.crash, s') => (.crash, s')

/-- End with an error. -/
def fail (e : ε) : Prog σ ε α := fun s => (.err e, s)

/-- The result of a pure computation that may fail. -/
def ofExcept : Except ε α → Prog σ ε α
  | .ok a => pure a
  | .error e => fail e

/-- Rename the errors of a program. -/
def mapErr (f : ε → ε') (x : Prog σ ε α) : Prog σ ε' α := fun s =>
  match x s with
  | (.ok a, s') => (.ok a, s')
  | (.err e, s') => (.err (f e), s')
  | (.crash, s') => (.crash, s')

/-- Turn an error into a value; a crash stays a crash. -/
def attempt (x : Prog σ ε α) : Prog σ ε' (Except ε α) := fun s =>
  match x s with
  | (.ok a, s') => (.ok (.ok a), s')
  | (.err e, s') => (.ok (.error e), s')
  | (.crash, s') => (.crash, s')

/-- Read the state. -/
def state : Prog σ ε σ := fun s => (.ok s, s)

/-- Change the state. -/
def update (f : σ → σ) : Prog σ ε Unit := fun s => (.ok (), f s)

/-- Run a program on a part of the state. -/
def zoom (get : σ → τ) (set : τ → σ → σ) (x : Prog τ ε α) : Prog σ ε α := fun s =>
  ((x (get s)).1, set (x (get s)).2 s)

@[simp] theorem pure_apply (a : α) (s : σ) : (pure a : Prog σ ε α) s = (.ok a, s) := rfl

theorem bind_apply (x : Prog σ ε α) (f : α → Prog σ ε β) (s : σ) :
    (x >>= f) s = match x s with
      | (.ok a, s') => f a s'
      | (.err e, s') => (.err e, s')
      | (.crash, s') => (.crash, s') := rfl

theorem bind_ok {x : Prog σ ε α} {f : α → Prog σ ε β} {s r : σ} {a : α} (h : x s = (.ok a, r)) :
    (x >>= f) s = f a r := by rw [bind_apply, h]

theorem bind_err {x : Prog σ ε α} {f : α → Prog σ ε β} {s r : σ} {e : ε} (h : x s = (.err e, r)) :
    (x >>= f) s = (.err e, r) := by rw [bind_apply, h]

theorem bind_crash {x : Prog σ ε α} {f : α → Prog σ ε β} {s r : σ} (h : x s = (.crash, r)) :
    (x >>= f) s = (.crash, r) := by rw [bind_apply, h]

theorem bind_pure_eq (x : Prog σ ε α) : (x >>= pure) = x := by
  funext s
  rw [bind_apply]
  rcases x s with ⟨_ | _ | _, _⟩ <;> rfl

theorem bind_bind {γ : Type} (x : Prog σ ε α) (f : α → Prog σ ε β) (g : β → Prog σ ε γ) :
    (x >>= f) >>= g = x >>= fun a => f a >>= g := by
  funext s
  simp only [bind_apply]
  rcases x s with ⟨_ | _ | _, _⟩ <;> rfl

instance : LawfulMonad (Prog σ ε) := LawfulMonad.mk' _ bind_pure_eq (fun _ _ => rfl) fun x f g =>
  bind_bind x f g

@[simp] theorem fail_bind (e : ε) (f : α → Prog σ ε β) : (fail e >>= f : Prog σ ε β) = fail e := rfl

@[simp] theorem fail_apply (e : ε) (s : σ) : (fail e : Prog σ ε α) s = (.err e, s) := rfl
@[simp] theorem ofExcept_ok (a : α) : (ofExcept (.ok a) : Prog σ ε α) = pure a := rfl
@[simp] theorem ofExcept_error (e : ε) : (ofExcept (.error e) : Prog σ ε α) = fail e := rfl
@[simp] theorem state_apply (s : σ) : (state : Prog σ ε σ) s = (.ok s, s) := rfl
@[simp] theorem update_apply (f : σ → σ) (s : σ) : (update f : Prog σ ε Unit) s = (.ok (), f s) := rfl

@[simp] theorem mapErr_snd (f : ε → ε') (x : Prog σ ε α) (s : σ) : (mapErr f x s).2 = (x s).2 := by
  unfold mapErr; rcases x s with ⟨_ | _ | _, _⟩ <;> rfl

@[simp] theorem attempt_snd (x : Prog σ ε α) (s : σ) :
    ((attempt x : Prog σ ε' (Except ε α)) s).2 = (x s).2 := by
  unfold attempt; rcases x s with ⟨_ | _ | _, _⟩ <;> rfl

@[simp] theorem mapErr_eq_ok {f : ε → ε'} {x : Prog σ ε α} {s : σ} {a : α} :
    (mapErr f x s).1 = .ok a ↔ (x s).1 = .ok a := by
  unfold mapErr; rcases x s with ⟨_ | _ | _, _⟩ <;> simp

/-- A first half that ended with a value can be run away. -/
theorem bind_of_ok {x : Prog σ ε α} {f : α → Prog σ ε β} {s : σ} {a : α} (h : (x s).1 = .ok a) :
    (x >>= f) s = f a (x s).2 := bind_ok (Prod.ext h rfl)

/-- A sequence that ends with a value went through its first half. -/
theorem bind_eq_ok {x : Prog σ ε α} {f : α → Prog σ ε β} {s : σ} {b : β} (h : ((x >>= f) s).1 = .ok b) :
    ∃ a, (x s).1 = .ok a ∧ (f a (x s).2).1 = .ok b ∧ ((x >>= f) s).2 = (f a (x s).2).2 := by
  rcases hx : x s with ⟨_ | _ | _, s'⟩
  · rw [bind_ok hx] at h ⊢
    exact ⟨_, rfl, h, rfl⟩
  · rw [bind_err hx] at h; cases h
  · rw [bind_crash hx] at h; cases h

/-- The three ways a sequence goes on from its first half. -/
theorem bind_cases (x : Prog σ ε α) (f : α → Prog σ ε β) (s : σ) :
    (∃ a, (x s).1 = .ok a ∧ (x >>= f) s = f a (x s).2) ∨
    (∃ e, (x s).1 = .err e ∧ (x >>= f) s = (.err e, (x s).2)) ∨
    ((x s).1 = .crash ∧ (x >>= f) s = (.crash, (x s).2)) := by
  rcases h : x s with ⟨a | e | _, s'⟩
  · exact .inl ⟨a, rfl, bind_ok h⟩
  · exact .inr (.inl ⟨e, rfl, bind_err h⟩)
  · exact .inr (.inr ⟨rfl, bind_crash h⟩)

/-- However it ends, `x` takes the state along `R`. -/
def Moves (R : σ → σ → Prop) (x : Prog σ ε α) : Prop := ∀ s, R s (x s).2

section Moves

variable {R : σ → σ → Prop}

theorem Moves.bind (ht : ∀ {a b c}, R a b → R b c → R a c) {x : Prog σ ε α} {f : α → Prog σ ε β}
    (hx : Moves R x) (hf : ∀ a, Moves R (f a)) : Moves R (x >>= f) := by
  intro s
  have hs := hx s
  rcases h : x s with ⟨_ | _ | _, s'⟩ <;> rw [h] at hs
  · rw [bind_ok h]; exact ht hs (hf _ s')
  · rw [bind_err h]; exact hs
  · rw [bind_crash h]; exact hs

theorem Moves.mapErr {f : ε → ε'} {x : Prog σ ε α} (hx : Moves R x) : Moves R (Prog.mapErr f x) := by
  intro s; rw [mapErr_snd]; exact hx s

theorem Moves.attempt {x : Prog σ ε α} (hx : Moves R x) : Moves R (Prog.attempt x : Prog σ ε' (Except ε α)) := by
  intro s; rw [attempt_snd]; exact hx s

end Moves

/-- The program leaves the state as it is. -/
def Reads (x : Prog σ ε α) : Prop := ∀ s, (x s).2 = s

section Reads

theorem Reads.pure (a : α) : Reads (Pure.pure a : Prog σ ε α) := fun _ => rfl

theorem Reads.fail (e : ε) : Reads (Prog.fail e : Prog σ ε α) := fun _ => rfl

theorem Reads.ofExcept (x : Except ε α) : Reads (Prog.ofExcept x : Prog σ ε α) := by
  cases x <;> exact fun _ => rfl

theorem Reads.bind {x : Prog σ ε α} {f : α → Prog σ ε β} (hx : Reads x) (hf : ∀ a, Reads (f a)) :
    Reads (x >>= f) := by
  intro s
  rcases bind_cases x f s with ⟨a, -, h⟩ | ⟨_, -, h⟩ | ⟨-, h⟩ <;> rw [h]
  · exact (hf a _).trans (hx s)
  · exact hx s
  · exact hx s

theorem Reads.ite {p : Prop} [Decidable p] {x y : Prog σ ε α} (hx : Reads x) (hy : Reads y) :
    Reads (if p then x else y) := by split <;> assumption

theorem Reads.mapErr {f : ε → ε'} {x : Prog σ ε α} (hx : Reads x) : Reads (Prog.mapErr f x) := fun s => by
  rw [mapErr_snd]; exact hx s

theorem Reads.attempt {x : Prog σ ε α} (hx : Reads x) : Reads (Prog.attempt x : Prog σ ε' (Except ε α)) := fun s => by
  rw [attempt_snd]; exact hx s

end Reads

/-- Every error of `x` satisfies `P`. -/
def Errs (P : ε → Prop) (x : Prog σ ε α) : Prop := ∀ s e, (x s).1 = .err e → P e

section Errs

variable {P : ε → Prop}

theorem Errs.pure (a : α) : Errs P (Pure.pure a : Prog σ ε α) := fun _ _ h => by cases h

theorem Errs.fail {e : ε} (h : P e) : Errs P (Prog.fail e : Prog σ ε α) := fun _ _ h' => by cases h'; exact h

theorem Errs.bind {x : Prog σ ε α} {f : α → Prog σ ε β} (hx : Errs P x) (hf : ∀ a, Errs P (f a)) :
    Errs P (x >>= f) := by
  intro s e h
  rcases bind_cases x f s with ⟨a, -, hb⟩ | ⟨e', he', hb⟩ | ⟨-, hb⟩ <;> rw [hb] at h
  · exact hf a _ _ h
  · cases h; exact hx s _ he'
  · cases h

theorem Errs.mapErr {f : ε' → ε} {x : Prog σ ε' α} (h : ∀ e, P (f e)) : Errs P (Prog.mapErr f x) := by
  intro s e he
  unfold Prog.mapErr at he
  rcases hx : x s with ⟨_ | e' | _, _⟩ <;> rw [hx] at he
  · cases he
  · cases he; exact h e'
  · cases he

theorem Errs.attempt {x : Prog σ ε' α} : Errs P (Prog.attempt x : Prog σ ε (Except ε' α)) := by
  intro s e he
  unfold Prog.attempt at he
  rcases hx : x s with ⟨_ | e' | _, _⟩ <;> rw [hx] at he <;> cases he

end Errs

/-- What is known of a run for each of the three ways it can end. -/
def Ends (ok : α → σ → Prop) (err : ε → σ → Prop) (crash : σ → Prop) : Outcome ε α × σ → Prop
  | (.ok a, s) => ok a s
  | (.err e, s) => err e s
  | (.crash, s) => crash s

section Ends

variable {ok ok' : α → σ → Prop} {err err' : ε → σ → Prop} {crash crash' : σ → Prop}

theorem Ends.mono {r : Outcome ε α × σ} (h : Ends ok err crash r) (hok : ∀ a s, ok a s → ok' a s)
    (herr : ∀ e s, err e s → err' e s) (hcrash : ∀ s, crash s → crash' s) : Ends ok' err' crash' r := by
  obtain ⟨_ | _ | _, s⟩ := r
  · exact hok _ _ h
  · exact herr _ _ h
  · exact hcrash _ h

/-- The rule for a sequence: its second half ends as asked wherever the first half leads. -/
theorem Ends.bind {x : Prog σ ε α} {f : α → Prog σ ε β} {s : σ} {ok : β → σ → Prop}
    (h : Ends (fun a s' => Ends ok err crash (f a s')) err crash (x s)) : Ends ok err crash ((x >>= f) s) := by
  rw [bind_apply]
  rcases hx : x s with ⟨_ | _ | _, s'⟩ <;> rw [hx] at h
  · exact h
  · exact h
  · exact h

end Ends

end Prog

end RssIncubator.Lib
