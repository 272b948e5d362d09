import Mathlib.Order.Basic

/-!
# Programs that consult an environment

A `Program` is a finite tree: it ends with an answer, or it performs an
operation and goes on with the environment's reply. The same tree is given two
meanings: a run against a deterministic environment (`run`), and the condition
that every step of that run meets (`Along`).
-/

namespace Lib

universe u v w

/-- A program ends with an answer or performs an operation and goes on with the reply. -/
inductive Program {Op : Type u} (Reply : Op → Type v) (α : Type w) : Type (max u v w) where
  | done (answer : α)
  | perform (op : Op) (next : Reply op → Program Reply α)

/-- A deterministic environment answers an operation and moves to its next state. -/
abbrev Environment {Op : Type u} (Reply : Op → Type v) (State : Type w) :=
  (op : Op) → State → Reply op × State

namespace Program

variable {Op : Type u} {Reply : Op → Type v} {State : Type w} {α β γ : Type w}

/-- Run `first`, then `rest` on its answer. -/
def bind (first : Program Reply α) (rest : α → Program Reply β) : Program Reply β :=
  match first with
  | .done answer => rest answer
  | .perform op next => .perform op fun reply => (next reply).bind rest

instance : Monad (Program Reply) where
  pure := .done
  bind := Program.bind

/-- The program that performs one operation and answers with its reply. -/
def call {Reply : Op → Type w} (op : Op) : Program Reply (Reply op) :=
  .perform op .done

@[simp]
theorem pure_eq_done (answer : α) : (pure answer : Program Reply α) = .done answer := rfl

@[simp]
theorem done_bind (answer : α) (rest : α → Program Reply β) :
    (.done answer >>= rest : Program Reply β) = rest answer := rfl

@[simp]
theorem perform_bind (op : Op) (next : Reply op → Program Reply α)
    (rest : α → Program Reply β) :
    (.perform op next >>= rest : Program Reply β) =
      .perform op fun reply => next reply >>= rest := rfl

theorem bind_done (program : Program Reply α) : program >>= .done = program := by
  induction program with
  | done answer => rfl
  | perform op next ih =>
      rw [perform_bind]
      exact congrArg _ (funext ih)

theorem bind_assoc (program : Program Reply α) (second : α → Program Reply β)
    (third : β → Program Reply γ) :
    program >>= second >>= third = program >>= fun answer => second answer >>= third := by
  induction program with
  | done answer => rfl
  | perform op next ih =>
      simp only [perform_bind]
      exact congrArg _ (funext ih)

instance : LawfulMonad (Program Reply) := LawfulMonad.mk' (Program Reply)
  bind_done (fun _ _ => rfl) bind_assoc

section Run

variable (environment : Environment Reply State)

/-- The answer of a program and the state it leaves. -/
def run : Program Reply α → State → α × State
  | .done answer, state => (answer, state)
  | .perform op next, state =>
      run (next (environment op state).1) (environment op state).2

/-- Every operation of the run meets `step` in the state in which it is performed. -/
def Along (step : Op → State → Prop) : Program Reply α → State → Prop
  | .done _, _ => True
  | .perform op next, state =>
      step op state ∧ Along step (next (environment op state).1) (environment op state).2

/-- What `record` notes of the operations of the run, in their order. -/
def trace {β : Type*} (record : Op → State → List β) : Program Reply α → State → List β
  | .done _, _ => []
  | .perform op next, state =>
      record op state ++
        trace record (next (environment op state).1) (environment op state).2

@[simp]
theorem run_done (answer : α) (state : State) :
    run environment (.done answer : Program Reply α) state = (answer, state) := rfl

@[simp]
theorem run_perform (op : Op) (next : Reply op → Program Reply α) (state : State) :
    run environment (.perform op next) state =
      run environment (next (environment op state).1) (environment op state).2 := rfl

@[simp]
theorem run_bind (program : Program Reply α) (rest : α → Program Reply β) (state : State) :
    run environment (program >>= rest) state =
      run environment (rest (run environment program state).1)
        (run environment program state).2 := by
  induction program generalizing state with
  | done answer => rfl
  | perform op next ih => exact ih _ _

@[simp]
theorem along_done (step : Op → State → Prop) (answer : α) (state : State) :
    Along environment step (.done answer : Program Reply α) state ↔ True := Iff.rfl

@[simp]
theorem along_perform (step : Op → State → Prop) (op : Op) (next : Reply op → Program Reply α)
    (state : State) :
    Along environment step (.perform op next) state ↔
      step op state ∧
        Along environment step (next (environment op state).1) (environment op state).2 :=
  Iff.rfl

@[simp]
theorem along_bind (step : Op → State → Prop) (program : Program Reply α)
    (rest : α → Program Reply β) (state : State) :
    Along environment step (program >>= rest) state ↔
      Along environment step program state ∧
        Along environment step (rest (run environment program state).1)
          (run environment program state).2 := by
  induction program generalizing state with
  | done answer => simp
  | perform op next ih => simp only [perform_bind, along_perform, ih, run_perform, and_assoc]

@[simp]
theorem trace_done {β : Type*} (record : Op → State → List β) (answer : α) (state : State) :
    trace environment record (.done answer : Program Reply α) state = [] := rfl

@[simp]
theorem trace_perform {β : Type*} (record : Op → State → List β) (op : Op)
    (next : Reply op → Program Reply α) (state : State) :
    trace environment record (.perform op next) state =
      record op state ++
        trace environment record (next (environment op state).1) (environment op state).2 := rfl

@[simp]
theorem trace_bind {β : Type*} (record : Op → State → List β) (program : Program Reply α)
    (rest : α → Program Reply γ) (state : State) :
    trace environment record (program >>= rest) state =
      trace environment record program state ++
        trace environment record (rest (run environment program state).1)
          (run environment program state).2 := by
  induction program generalizing state with
  | done answer => rfl
  | perform op next ih =>
      simp only [perform_bind, trace_perform, ih, run_perform, List.append_assoc]

/-- A property of states that every operation keeps is kept by every run. -/
theorem run_of_invariant {invariant : State → Prop}
    (keeps : ∀ op state, invariant state → invariant (environment op state).2)
    (program : Program Reply α) {state : State} (holds : invariant state) :
    invariant (run environment program state).2 := by
  induction program generalizing state with
  | done answer => exact holds
  | perform op next ih => exact ih _ (keeps op state holds)

end Run

end Program

end Lib
