import Mathlib.Logic.Basic

/-!
# Machines that answer calls

A `Machine` answers each call and moves to its next state. Two machines are
compared by their answers alone. An implementation that keeps a relation to its
specification as long as each call is `good` answers like it on exactly the runs
all of whose calls are good, provided a call that is not good is answered
differently.
-/

namespace Lib

universe u v w x

/-- A deterministic machine: each call is answered and changes the state. -/
abbrev Machine (State : Type u) (Call : Type v) (Reply : Type w) :=
  State → Call → Reply × State

namespace Machine

variable {State : Type u} {Spec : Type x} {Call : Type v} {Reply : Type w}

/-- The answers to a sequence of calls. -/
def replies (machine : Machine State Call Reply) : List Call → State → List Reply
  | [], _ => []
  | call :: calls, state =>
      (machine state call).1 :: replies machine calls (machine state call).2

/-- Every call of a run is good in the state it is made in. -/
def Along (machine : Machine State Call Reply) (good : State → Call → Prop) :
    List Call → State → Prop
  | [], _ => True
  | call :: calls, state =>
      good state call ∧ Along machine good calls (machine state call).2

/-- An implementation answers like its specification as long as the calls are good. -/
structure Implements (machine : Machine State Call Reply) (spec : Machine Spec Call Reply)
    (good : Spec → Call → Prop) (related : State → Spec → Prop) : Prop where
  agrees : ∀ {state specState call}, related state specState → good specState call →
    (machine state call).1 = (spec specState call).1 ∧
      related (machine state call).2 (spec specState call).2
  differs : ∀ {state specState call}, related state specState → ¬ good specState call →
    (machine state call).1 ≠ (spec specState call).1

theorem Implements.replies_eq_iff {machine : Machine State Call Reply}
    {spec : Machine Spec Call Reply} {good : Spec → Call → Prop} {related : State → Spec → Prop}
    (implements : Implements machine spec good related) (calls : List Call) {state : State}
    {specState : Spec} (isRelated : related state specState) :
    machine.replies calls state = spec.replies calls specState ↔
      spec.Along good calls specState := by
  induction calls generalizing state specState with
  | nil => exact iff_of_true rfl trivial
  | cons call calls ih =>
      simp only [replies, Along, List.cons.injEq]
      by_cases isGood : good specState call
      · rcases implements.agrees isRelated isGood with ⟨same, relatedNext⟩
        rw [ih relatedNext]
        exact and_congr (iff_of_true same isGood) .rfl
      · exact iff_of_false (fun both => implements.differs isRelated isGood both.1)
          fun both => isGood both.1

end Machine

end Lib
