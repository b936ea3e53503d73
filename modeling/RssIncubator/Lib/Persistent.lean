import Mathlib.Data.List.Infix
import Mathlib.Data.List.Perm.Subperm
import Mathlib.Data.Set.Basic

/-!
# Objects that survive their process

An object is known by what its operations do to a state.  An implementation keeps two copies of the state, one in memory
while it runs and one on disk, and may fail or stop in the middle of an operation.  `Persists` is what one of its steps
may do to the copies, and `Persistent.serial` what follows for a whole run: the state is that of a run of the object
itself, in which every operation that was answered takes effect in its order and with its reply, and of the others at
most one for each time that the process was lost.

An operation that fails may have reached the disk.  Then it takes effect late, when the copy in memory is given up; until
then the disk is ahead of it.

The standing copy shows values as long as it stands.  `Displays.keeps` is the rule for what holds of a state and of all
that was shown before it.
-/

namespace RssIncubator.Lib

/-- A run of the object: the operations in the order in which they take effect, each with its reply. -/
inductive Serial {S Op R : Type} (Does : S → Op → S → R → Prop) : S → List (Op × R) → S → Prop
  | nil (s : S) : Serial Does s [] s
  | concat {s s' s'' : S} {l : List (Op × R)} {op : Op} {r : R} (h : Serial Does s l s') (hdoes : Does s' op s'' r) :
      Serial Does s (l ++ [(op, r)]) s''

/-- The two copies of a state. -/
structure Copies (S : Type) where
  memory : Option S
  disk : Option S

/-- The copy that counts. -/
def Copies.standing {S : Type} (c : Copies S) : Option S := c.memory.or c.disk

/-- What one step is from the outside: an answer, a failure with an unknown end, the loss of the process, in an operation or
not, or nothing. -/
inductive Seen (Op R : Type) where
  | answered (op : Op) (r : R)
  | failed (op : Op)
  | stopped (op : Option Op)
  | silent

namespace Seen

variable {Op R : Type}

def op : Seen Op R → Option Op
  | .answered op _ => some op
  | .failed op => some op
  | .stopped op => op
  | .silent => none

def reply : Seen Op R → Option (Op × R)
  | .answered op r => some (op, r)
  | .failed _ => none
  | .stopped _ => none
  | .silent => none

def stops : Seen Op R → Bool
  | .answered _ _ => false
  | .failed _ => false
  | .stopped _ => true
  | .silent => false

end Seen

section

variable {S Op R : Type} (Does : S → Op → S → R → Prop) (First : S → Prop)

/-- What one step may do to the two copies. -/
inductive Persists : Copies S → Seen Op R → Copies S → Prop
  /-- Nothing happens, or a call fails before it has reached the disk. -/
  | same {c : Copies S} {e : Seen Op R} (he : e.reply = none) : Persists c e c
  /-- An answer tells of both copies, or of no change. -/
  | answered {s s' : S} {op : Op} {r : R} {disk disk' : Option S} (h : Does s op s' r)
      (hdisk : disk' = some s' ∨ s' = s ∧ disk' = disk) : Persists ⟨some s, disk⟩ (.answered op r) ⟨some s', disk'⟩
  /-- A call fails after it has reached the disk. -/
  | failed {s s' : S} {op : Op} {r : R} {disk : Option S} (h : Does s op s' r) :
      Persists ⟨some s, disk⟩ (.failed op) ⟨some s, some s'⟩
  /-- The machine stops after a call has reached the disk. -/
  | crashed {s s' : S} {op : Op} {r : R} {disk : Option S} (h : Does s op s' r) :
      Persists ⟨some s, disk⟩ (.stopped (some op)) ⟨none, some s'⟩
  /-- The copy in memory is given up. -/
  | stopped {c : Copies S} {op : Option Op} : Persists c (.stopped op) ⟨none, c.disk⟩
  /-- The copy on disk is read. -/
  | opened {disk : Option S} : Persists ⟨none, disk⟩ .silent ⟨disk, disk⟩
  /-- The first state is written. -/
  | first {s : S} {e : Seen Op R} {memory : Option S} (h : First s) (he : e.reply = none)
      (hmemory : memory = none ∨ memory = some s) : Persists ⟨none, none⟩ e ⟨memory, some s⟩

/-- The copies after a list of events. -/
inductive Persistent : List (Seen Op R) → Copies S → Prop
  | nil : Persistent [] ⟨none, none⟩
  | concat {events : List (Seen Op R)} {e : Seen Op R} {c c' : Copies S} (h : Persistent events c)
      (hstep : Persists Does First c e c') : Persistent (events ++ [e]) c'

/-- The operations that were called, and those that were answered. -/
def called (events : List (Seen Op R)) : List Op := events.filterMap Seen.op

def replies (events : List (Seen Op R)) : List (Op × R) := events.filterMap Seen.reply

/-- How often the process was lost. -/
def stops (events : List (Seen Op R)) : ℕ := events.countP Seen.stops

/-- A run of the object that explains a list of events: what was answered took effect in its order, and what took effect
was called. -/
structure Explains (events : List (Seen Op R)) (history : List (Op × R)) : Prop where
  answered : (replies events).Sublist history
  called : (history.map Prod.fst).Subperm (called events)

/-- The disk has the standing copy, or is ahead of it by an operation that has failed. -/
inductive Ahead (events : List (Seen Op R)) (history : List (Op × R)) (s : S) : Copies S → Prop
  | level {memory : Option S} (h : memory = none ∨ memory = some s) : Ahead events history s ⟨memory, some s⟩
  | ahead {s' : S} {op : Op} {r : R} (h : Does s op s' r) (hfailed : .failed op ∈ events)
      (hexplains : Explains events (history ++ [(op, r)])) : Ahead events history s ⟨some s, some s'⟩

/-- No more took effect than was answered, and one operation for each time that the process was lost. -/
def Few (events : List (Seen Op R)) (history : List (Op × R)) : Prop :=
  history.length ≤ (replies events).length + stops events

variable {Does First} {events : List (Seen Op R)} {history : List (Op × R)} {e : Seen Op R} {c : Copies S} {s : S}

theorem called_concat : called (events ++ [e]) = called events ++ e.op.toList := by
  rcases h : e.op with _ | op
  · simp [called, h]
  · simp [called, h]

theorem replies_concat : replies (events ++ [e]) = replies events ++ e.reply.toList := by
  rcases h : e.reply with _ | x
  · simp [replies, h]
  · simp [replies, h]

theorem stops_concat : stops (events ++ [e]) = stops events + e.stops.toNat := by
  cases h : e.stops <;> simp [stops, h]

/-- An event without an answer changes nothing of an explanation. -/
theorem Explains.weaken (h : Explains events history) (he : e.reply = none) : Explains (events ++ [e]) history := by
  refine ⟨?_, ?_⟩
  · rw [replies_concat, he]
    simpa using h.answered
  · rw [called_concat]
    exact h.called.trans (List.sublist_append_left _ _).subperm

theorem Few.weaken (h : Few events history) : Few (events ++ [e]) history := by
  unfold Few at h ⊢
  rw [replies_concat, stops_concat, List.length_append]
  omega

/-- An answer is the next in the order. -/
theorem Explains.answer {op : Op} {r : R} (h : Explains events history) :
    Explains (events ++ [.answered op r]) (history ++ [(op, r)]) := by
  refine ⟨?_, ?_⟩
  · rw [replies_concat]
    exact h.answered.append (List.Sublist.refl _)
  · rw [called_concat, List.map_append]
    exact (List.subperm_append_right _).2 h.called

theorem Few.answer {op : Op} {r : R} (h : Few events history) : Few (events ++ [.answered op r]) (history ++ [(op, r)]) := by
  unfold Few at h ⊢
  simp only [replies_concat, stops_concat, List.length_append, Seen.reply, Option.toList_some, List.length_singleton]
  omega

/-- A call that has reached the disk may be the next in the order. -/
theorem Explains.reach {op : Op} {r : R} (h : Explains events history) (he : e.reply = none) (hop : e.op = some op) :
    Explains (events ++ [e]) (history ++ [(op, r)]) := by
  refine ⟨?_, ?_⟩
  · rw [replies_concat, he, Option.toList_none, List.append_nil]
    exact h.answered.trans (List.sublist_append_left _ _)
  · rw [called_concat, hop, List.map_append]
    exact (List.subperm_append_right _).2 h.called

/-- With the process one operation more may be lost. -/
theorem Few.stop {op : Option Op} {x : Op × R} (h : Few events history) : Few (events ++ [.stopped op]) (history ++ [x]) := by
  unfold Few at h ⊢
  simp only [replies_concat, stops_concat, List.length_append, Seen.stops, Bool.toNat_true, List.length_singleton]
  omega

/-- An operation that is late stays so when another is answered in the meantime. -/
theorem Explains.late {op op' : Op} {r r' : R} (h : Explains events (history ++ [(op, r)])) (hs : Explains events history) :
    Explains (events ++ [.answered op' r']) (history ++ [(op', r')] ++ [(op, r)]) := by
  have hanswer : Explains (events ++ [.answered op' r']) (history ++ [(op', r')]) := hs.answer
  refine ⟨hanswer.answered.trans (List.sublist_append_left _ _), ?_⟩
  have hperm : ((history ++ [(op', r')] ++ [(op, r)]).map Prod.fst).Perm
      ((history ++ [(op, r)]).map Prod.fst ++ [op']) := by
    simp only [List.map_append, List.append_assoc]
    exact List.Perm.append_left _ (List.Perm.swap _ _ _)
  rw [called_concat]
  exact hperm.subperm.trans ((List.subperm_append_right _).2 h.called)

theorem Ahead.weaken (h : Ahead Does events history s c) (he : e.reply = none) : Ahead Does (events ++ [e]) history s c := by
  cases h with
  | level h => exact .level h
  | ahead h hfailed hexplains => exact .ahead h (List.mem_append_left _ hfailed) (hexplains.weaken he)

/-- The copy in memory is the state of the run. -/
theorem Ahead.memory {m : S} {disk : Option S} (h : Ahead Does events history s ⟨some m, disk⟩) : m = s := by
  cases h with
  | level h => exact h.elim (fun h => by cases h) Option.some.inj
  | ahead _ _ _ => rfl

/-- What a run of the object says of the copies an implementation has. -/
def Explained (Does : S → Op → S → R → Prop) (First : S → Prop) (events : List (Seen Op R)) (c : Copies S) : Prop :=
  c = ⟨none, none⟩ ∧ replies events = [] ∨ ∃ s₀ history s, First s₀ ∧ Serial Does s₀ history s ∧ Explains events history ∧
    Few events history ∧ Ahead Does events history s c

/-- **One step** goes on with the run of the object, by at most one operation. -/
theorem Persists.explained {c' : Copies S} (h : Persists Does First c e c') (hc : Explained Does First events c) :
    Explained Does First (events ++ [e]) c' := by
  have hempty : e.reply = none → replies events = [] → replies (events ++ [e]) = [] := by
    intro he hnone
    rw [replies_concat, he, hnone]
    rfl
  cases h with
  | same he =>
    rcases hc with ⟨rfl, hnone⟩ | ⟨s₀, history, s, h₀, hserial, hexplains, hfew, hahead⟩
    · exact .inl ⟨rfl, hempty he hnone⟩
    · exact .inr ⟨s₀, history, s, h₀, hserial, hexplains.weaken he, hfew.weaken, hahead.weaken he⟩
  | answered hdoes hdisk =>
    rename_i s₁ s₂ op r disk disk'
    rcases hc with ⟨hfresh, -⟩ | ⟨s₀, history, s, h₀, hserial, hexplains, hfew, hahead⟩
    · cases hfresh
    · obtain rfl := hahead.memory
      refine .inr ⟨s₀, _, s₂, h₀, hserial.concat hdoes, hexplains.answer, hfew.answer, ?_⟩
      rcases hdisk with rfl | ⟨rfl, rfl⟩
      · exact .level (.inr rfl)
      · cases hahead with
        | level h => exact .level (.inr rfl)
        | ahead hlate hfailed hlater => exact .ahead hlate (List.mem_append_left _ hfailed) (hlater.late hexplains)
  | failed hdoes =>
    rcases hc with ⟨hfresh, -⟩ | ⟨s₀, history, s, h₀, hserial, hexplains, hfew, hahead⟩
    · cases hfresh
    · obtain rfl := hahead.memory
      exact .inr ⟨s₀, history, _, h₀, hserial, hexplains.weaken rfl, hfew.weaken,
        .ahead hdoes (List.mem_append_right _ (List.mem_singleton_self _)) (hexplains.reach rfl rfl)⟩
  | crashed hdoes =>
    rcases hc with ⟨hfresh, -⟩ | ⟨s₀, history, s, h₀, hserial, hexplains, hfew, hahead⟩
    · cases hfresh
    · obtain rfl := hahead.memory
      exact .inr ⟨s₀, _, _, h₀, hserial.concat hdoes, hexplains.reach rfl rfl, hfew.stop, .level (.inl rfl)⟩
  | stopped =>
    rcases hc with ⟨rfl, hnone⟩ | ⟨s₀, history, s, h₀, hserial, hexplains, hfew, hahead⟩
    · exact .inl ⟨rfl, hempty rfl hnone⟩
    · -- an operation that was late takes effect
      cases hahead with
      | level h => exact .inr ⟨s₀, history, s, h₀, hserial, hexplains.weaken rfl, hfew.weaken, .level (.inl rfl)⟩
      | ahead hlate hfailed hlater =>
        exact .inr ⟨s₀, _, _, h₀, hserial.concat hlate, hlater.weaken rfl, hfew.stop, .level (.inl rfl)⟩
  | opened =>
    rcases hc with ⟨hfresh, hnone⟩ | ⟨s₀, history, s, h₀, hserial, hexplains, hfew, hahead⟩
    · cases hfresh
      exact .inl ⟨rfl, hempty rfl hnone⟩
    · cases hahead with
      | level h => exact .inr ⟨s₀, history, s, h₀, hserial, hexplains.weaken rfl, hfew.weaken, .level (.inr rfl)⟩
  | first hfirst he hmemory =>
    rename_i s₁ memory
    rcases hc with ⟨-, hnone⟩ | ⟨s₀, history, s, h₀, hserial, hexplains, hfew, hahead⟩
    · have hexplains : Explains (events ++ [e]) ([] : List (Op × R)) := by
        refine ⟨?_, List.nil_subperm⟩
        rw [hempty he hnone]
      exact .inr ⟨s₁, [], s₁, hfirst, .nil s₁, hexplains, Nat.zero_le _, .level hmemory⟩
    · cases hahead

/-- **A run of the implementation is a run of the object.** -/
theorem Persistent.explained (h : Persistent Does First events c) : Explained Does First events c := by
  induction h with
  | nil => exact .inl ⟨rfl, rfl⟩
  | concat h hstep ih => exact hstep.explained ih

/-- The state on disk, from the first one: that in memory, or one failed operation ahead of it. -/
theorem Persistent.serial (h : Persistent Does First events c) (hs : c.disk = some s) :
    ∃ s₀ history late, First s₀ ∧ Serial Does s₀ (history ++ late) s ∧ Explains events (history ++ late) ∧
      Few events history ∧ late.length ≤ 1 ∧ (c.memory = none → late = []) ∧ (∀ x ∈ late, .failed x.1 ∈ events) ∧
      ∀ m, c.memory = some m → Serial Does s₀ history m ∧ Explains events history := by
  rcases h.explained with ⟨rfl, -⟩ | ⟨s₀, history, s', h₀, hserial, hexplains, hfew, hahead⟩
  · cases hs
  · cases hahead with
    | level hmemory =>
      cases hs
      refine ⟨s₀, history, [], h₀, ?_, ?_, hfew, Nat.zero_le _, fun _ => rfl, fun x hx => (by cases hx), ?_⟩
      · rwa [List.append_nil]
      · rwa [List.append_nil]
      · rintro m rfl
        obtain rfl := Option.some.inj (hmemory.resolve_left fun h => by cases h)
        exact ⟨hserial, hexplains⟩
    | ahead hlate hfailed hlater =>
      cases hs
      refine ⟨s₀, history, _, h₀, hserial.concat hlate, hlater, hfew, le_refl _, fun h => (by cases h), ?_, ?_⟩
      · rintro x hx
        obtain rfl := List.mem_singleton.1 hx
        exact hfailed
      · rintro m hm
        cases hm
        exact ⟨hserial, hexplains⟩

end

/-! ### What was shown -/

section

variable {S Op R V : Type} (Does : S → Op → S → R → Prop) (First : S → Prop) (out : S → Set V)

/-- What the standing copy shows. -/
def Copies.shows (c : Copies S) : Set V := {v | ∃ s, c.standing = some s ∧ v ∈ out s}

/-- The copies after a run, and all that was shown on the way. -/
inductive Displays : Copies S → Set V → Prop
  | nil : Displays ⟨none, none⟩ ∅
  | concat {c c' : Copies S} {e : Seen Op R} {shown : Set V} (h : Displays c shown) (hstep : Persists Does First c e c') :
      Displays c' (shown ∪ c'.shows out)

/-- A property of a state and of what was shown, on both copies. -/
inductive Upholds (P : Set V → S → Prop) (shown : Set V) (s : S) : Copies S → Prop
  | level {memory : Option S} (h : memory = none ∨ memory = some s) : Upholds P shown s ⟨memory, some s⟩
  | ahead {s' : S} (h : P (shown ∪ out s') s') : Upholds P shown s ⟨some s, some s'⟩

variable {Does First out} {c : Copies S} {s : S} {shown : Set V}

theorem Copies.shows_eq (h : c.standing = some s) : c.shows out = out s := by
  ext v
  unfold shows
  rw [h]
  exact ⟨fun ⟨_, hs, hv⟩ => Option.some.inj hs ▸ hv, fun hv => ⟨s, rfl, hv⟩⟩

theorem Upholds.standing {P : Set V → S → Prop} (h : Upholds out P shown s c) : c.standing = some s := by
  cases h with
  | level h => rcases h with rfl | rfl <;> rfl
  | ahead h => rfl

theorem shown_same {P : Set V → S → Prop} (h : Upholds out P shown s c) (hout : out s ⊆ shown) :
    shown ∪ c.shows out = shown := by
  rw [Copies.shows_eq h.standing]
  exact Set.union_eq_self_of_subset_right hout

/-- **What every operation keeps of a state and of all that was shown** holds of every run. -/
theorem Displays.keeps {P : Set V → S → Prop} (hfirst : ∀ s, First s → P (out s) s)
    (hop : ∀ shown s op s' r, P shown s → out s ⊆ shown → Does s op s' r → P (shown ∪ out s') s')
    (h : Displays Does First out c shown) : c = ⟨none, none⟩ ∧ shown = ∅ ∨
      ∃ s, P shown s ∧ out s ⊆ shown ∧ Upholds out P shown s c := by
  -- the next state, when it stands
  have hnext : ∀ {shown : Set V} {s : S} {c : Copies S}, P (shown ∪ out s) s →
      Upholds out P (shown ∪ out s) s c → ∃ s, P (shown ∪ c.shows out) s ∧ out s ⊆ shown ∪ c.shows out ∧
        Upholds out P (shown ∪ c.shows out) s c := by
    intro shown s c hp hu
    rw [Copies.shows_eq hu.standing]
    exact ⟨s, hp, Set.subset_union_right, hu⟩
  induction h with
  | nil => exact .inl ⟨rfl, rfl⟩
  | concat h hstep ih =>
    cases hstep with
    | same he =>
      rcases ih with ⟨rfl, rfl⟩ | ⟨s, hp, hout, hu⟩
      · exact .inl ⟨rfl, by ext v; simp [Copies.shows, Copies.standing]⟩
      · rw [shown_same hu hout]
        exact .inr ⟨s, hp, hout, hu⟩
    | answered hdoes hdisk =>
      rename_i shown s₁ s₂ op r disk disk'
      rcases ih with ⟨hfresh, -⟩ | ⟨s, hp, hout, hu⟩
      · cases hfresh
      · obtain rfl : s₁ = s := Option.some.inj hu.standing
        have hp' := hop _ _ _ _ _ hp hout hdoes
        rcases hdisk with rfl | ⟨rfl, rfl⟩
        · exact .inr (hnext hp' (.level (.inr rfl)))
        · rw [Copies.shows_eq (s := s₂) rfl, Set.union_eq_self_of_subset_right hout]
          exact .inr ⟨s₂, hp, hout, hu⟩
    | failed hdoes =>
      rcases ih with ⟨hfresh, -⟩ | ⟨s, hp, hout, hu⟩
      · cases hfresh
      · obtain rfl := Option.some.inj hu.standing
        rw [Copies.shows_eq rfl, Set.union_eq_self_of_subset_right hout]
        exact .inr ⟨_, hp, hout, .ahead (hop _ _ _ _ _ hp hout hdoes)⟩
    | crashed hdoes =>
      rcases ih with ⟨hfresh, -⟩ | ⟨s, hp, hout, hu⟩
      · cases hfresh
      · obtain rfl := Option.some.inj hu.standing
        exact .inr (hnext (hop _ _ _ _ _ hp hout hdoes) (.level (.inl rfl)))
    | stopped =>
      rcases ih with ⟨rfl, rfl⟩ | ⟨s, hp, hout, hu⟩
      · exact .inl ⟨rfl, by ext v; simp [Copies.shows, Copies.standing]⟩
      · cases hu with
        | level hlevel =>
          rw [shown_same (P := P) (.level (.inl rfl)) hout]
          exact .inr ⟨s, hp, hout, .level (.inl rfl)⟩
        | ahead hlate => exact .inr (hnext hlate (.level (.inl rfl)))
    | opened =>
      rcases ih with ⟨hfresh, rfl⟩ | ⟨s, hp, hout, hu⟩
      · cases hfresh
        exact .inl ⟨rfl, by ext v; simp [Copies.shows, Copies.standing]⟩
      · cases hu with
        | level hlevel =>
          rw [shown_same (P := P) (.level (.inr rfl)) hout]
          exact .inr ⟨s, hp, hout, .level (.inr rfl)⟩
    | first hs he hmemory =>
      rename_i shown s memory
      rcases ih with ⟨-, rfl⟩ | ⟨s, hp, hout, hu⟩
      · refine .inr (hnext ?_ (.level hmemory))
        rw [Set.empty_union]
        exact hfirst s hs
      · cases hu

end

end RssIncubator.Lib
