import Mathlib.Algebra.Order.Ring.Int
import Mathlib.Data.List.TakeWhile

/-!
# Routines that check their memory

A `Routine` is a function of C with loops and with memory that is checked: an
access outside of an object is a fault, and the fuel bounds the rounds of the
loops. What a routine settles on is what it answers with enough fuel, so that a
routine that settles on an answer ends without a fault.
-/

namespace Lib

universe u v

/-- A fault, a run that is out of fuel, or an answer. -/
inductive Checked (α : Type u) where
  | fault
  | unfinished
  | ended (answer : α)
deriving DecidableEq

/-- A fault ends a run, as running out of fuel does. -/
def Checked.bind {α : Type u} {β : Type v} (first : Checked α) (rest : α → Checked β) :
    Checked β :=
  match first with
  | .fault => .fault
  | .unfinished => .unfinished
  | .ended answer => rest answer

/-- What the body of a loop decides: another round, or the end of the loop. -/
inductive Round (σ : Type u) (α : Type u) where
  | again (state : σ)
  | leave (answer : α)

/-- A function with a bound on the rounds of its loops. -/
def Routine (α : Type u) := (fuel : Nat) → Checked α

namespace Routine

variable {α β σ : Type u}

instance : Monad Routine where
  pure answer := fun _ => .ended answer
  bind first rest := fun fuel => (first fuel).bind fun answer => rest answer fuel

/-- An access outside of an object. -/
def fault : Routine α := fun _ => .fault

/-- Rounds of `body` until it leaves. -/
def loop (body : σ → Routine (Round σ α)) (state : σ) : Routine α
  | 0 => .unfinished
  | fuel + 1 => (body state fuel).bind fun
      | .again next => loop body next fuel
      | .leave answer => .ended answer

@[simp]
theorem return_bind (answer : α) (rest : α → Routine β) :
    (pure answer >>= rest : Routine β) = rest answer := rfl

theorem bind_apply (first : Routine α) (rest : α → Routine β) (fuel : Nat) :
    (first >>= rest : Routine β) fuel = (first fuel).bind fun answer => rest answer fuel := rfl

@[simp]
theorem fault_bind (rest : α → Routine β) : (fault >>= rest : Routine β) = fault := rfl

/-- What a routine answers with enough fuel. -/
def SettlesOn (routine : Routine α) (outcome : Checked α) : Prop :=
  ∃ bound, ∀ fuel, bound ≤ fuel → routine fuel = outcome

namespace SettlesOn

theorem pure (answer : α) : SettlesOn (Pure.pure answer) (.ended answer) :=
  ⟨0, fun _ _ => rfl⟩

theorem fault : SettlesOn (fault : Routine α) .fault :=
  ⟨0, fun _ _ => rfl⟩

/-- A routine settles on one outcome. -/
theorem unique {routine : Routine α} {left right : Checked α} (isLeft : SettlesOn routine left)
    (isRight : SettlesOn routine right) : left = right := by
  rcases isLeft with ⟨leftBound, isLeft⟩
  rcases isRight with ⟨rightBound, isRight⟩
  rw [← isLeft (max leftBound rightBound) (Nat.le_max_left _ _),
    isRight (max leftBound rightBound) (Nat.le_max_right _ _)]

theorem bind {first : Routine α} {rest : α → Routine β} {answer : α} {outcome : Checked β}
    (ends : SettlesOn first (.ended answer)) (later : SettlesOn (rest answer) outcome) :
    SettlesOn (first >>= rest) outcome := by
  rcases ends with ⟨firstBound, ends⟩
  rcases later with ⟨restBound, later⟩
  refine ⟨max firstBound restBound, fun fuel enough => ?_⟩
  rw [bind_apply, ends fuel (Nat.le_trans (Nat.le_max_left _ _) enough)]
  exact later fuel (Nat.le_trans (Nat.le_max_right _ _) enough)

theorem bind_fault {first : Routine α} {rest : α → Routine β} (faults : SettlesOn first .fault) :
    SettlesOn (first >>= rest) .fault := by
  rcases faults with ⟨bound, faults⟩
  refine ⟨bound, fun fuel enough => ?_⟩
  rw [bind_apply, faults fuel enough]
  rfl

section Loop

variable {body : σ → Routine (Round σ α)} {state next : σ} {answer : α} {outcome : Checked α}

/-- Another round, and the loop from the state that it leaves. -/
theorem again (round : SettlesOn (body state) (.ended (.again next)))
    (later : SettlesOn (loop body next) outcome) : SettlesOn (loop body state) outcome := by
  rcases round with ⟨roundBound, round⟩
  rcases later with ⟨loopBound, later⟩
  refine ⟨max roundBound loopBound + 1, fun fuel enough => ?_⟩
  cases fuel with
  | zero => omega
  | succ fuel =>
      have enough := Nat.le_of_succ_le_succ enough
      rw [loop, round fuel (Nat.le_trans (Nat.le_max_left _ _) enough)]
      exact later fuel (Nat.le_trans (Nat.le_max_right _ _) enough)

theorem leave (round : SettlesOn (body state) (.ended (.leave answer))) :
    SettlesOn (loop body state) (.ended answer) := by
  rcases round with ⟨bound, round⟩
  refine ⟨bound + 1, fun fuel enough => ?_⟩
  cases fuel with
  | zero => omega
  | succ fuel =>
      rw [loop, round fuel (Nat.le_of_succ_le_succ enough)]
      rfl

theorem loop_fault (round : SettlesOn (body state) .fault) :
    SettlesOn (loop body state) .fault := by
  rcases round with ⟨bound, round⟩
  refine ⟨bound + 1, fun fuel enough => ?_⟩
  cases fuel with
  | zero => omega
  | succ fuel =>
      rw [loop, round fuel (Nat.le_of_succ_le_succ enough)]
      rfl

end Loop

end SettlesOn

section Memory

/-- The value at an index of an object. -/
def load (memory : List α) (index : Int) : Routine α :=
  if 0 ≤ index then
    match memory[index.toNat]? with
    | some value => pure value
    | none => fault
  else fault

/-- An object with a value written at an index of it. -/
def store (memory : List α) (index : Int) (value : α) : Routine (List α) :=
  if 0 ≤ index ∧ index < memory.length then pure (memory.set index.toNat value) else fault

variable {memory : List α} {value : α}

theorem load_append (before after : List α) :
    load (before ++ value :: after) before.length = pure value := by
  simp [load]

theorem load_of_le {index : Int} (outside : (memory.length : Int) ≤ index) :
    load memory index = fault := by
  rw [load]
  split
  · rw [List.getElem?_eq_none (by omega)]
  · rfl

theorem store_append (before after : List α) (old : α) :
    store (before ++ old :: after) before.length value = pure (before ++ value :: after) := by
  rw [store, if_pos (by rw [List.length_append, List.length_cons]; omega)]
  simp

theorem store_of_neg {index : Int} (negative : index < 0) : store memory index value = fault :=
  if_neg fun inside => Int.not_le.mpr negative inside.1

end Memory

end Routine

/-- A string in memory, in front of its terminator. -/
structure Terminated {α : Type u} (nul : α) where
  content : List α
  noNul : nul ∉ content
  fits : content.length + 1 < 2 ^ 64

namespace Terminated

variable {α : Type u} {nul : α}

def memory (string : Terminated nul) : List α := string.content ++ [nul]

end Terminated

namespace Routine

variable {α : Type} [DecidableEq α] (nul : α) (memory : List α)

/-- The elements of an object from an index on and in front of a terminator. -/
def stringAt (start : Nat) : Routine (List α) :=
  if nul ∈ memory.drop start then pure ((memory.drop start).takeWhile (· ≠ nul)) else fault

/-- At most `size` elements from an index on. -/
def strndup (start size : Nat) : Routine (List α) :=
  if nul ∈ (memory.drop start).take size ∨ start + size ≤ memory.length then
    pure (((memory.drop start).take size).takeWhile (· ≠ nul))
  else fault

def strlen (start : Nat) : Routine Nat := do
  let string ← stringAt nul memory start
  return string.length

variable {nul memory}

theorem stringAt_append {content : List α} (noNul : nul ∉ content)
    (before rest : List α) :
    stringAt nul (before ++ (content ++ nul :: rest)) before.length = pure content := by
  have all : ∀ element ∈ content, decide (element ≠ nul) = true := fun element present =>
    decide_eq_true fun same => noNul (same ▸ present)
  rw [stringAt, List.drop_left, if_pos (by simp), List.takeWhile_append_of_pos all]
  simp

theorem strndup_append {content : List α} (noNul : nul ∉ content) (before rest : List α) :
    strndup nul (before ++ (content ++ rest)) before.length content.length = pure content := by
  have all : ∀ element ∈ content, decide (element ≠ nul) = true := fun element present =>
    decide_eq_true fun same => noNul (same ▸ present)
  rw [strndup, List.drop_left, List.take_left, List.takeWhile_eq_self_iff.mpr all,
    if_pos (.inr (by rw [List.length_append, List.length_append]; omega))]

end Routine

end Lib
