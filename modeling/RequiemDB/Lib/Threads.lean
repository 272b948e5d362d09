import Mathlib.Logic.Function.Basic
import RequiemDB.Lib.Program

/-!
# Threads that share a state

Any number of threads run programs over one state; a schedule says whose turn it is. An
operation is answered at once, or the thread has to wait and nothing changes.

A thread is in a critical section while it holds something that keeps the others from most
of the state. `Critical` is the rule for it: whatever the others may do to the state
meanwhile, the thread does not wait, and it meets the postcondition when it ends or no
longer holds.
-/

namespace Lib

universe u

variable {Op Shared Thread α : Type u} {Reply : Op → Type u}

/-- The programs of the threads and the state they share. -/
structure Threads (Reply : Op → Type u) (α Thread Shared : Type u) where
  programs : Thread → Program Reply α
  shared : Shared

namespace Threads

variable [DecidableEq Thread]
  (serve : Thread → (op : Op) → Shared → Option (Reply op × Shared))

/-- The turn of a thread. -/
def step (threads : Threads Reply α Thread Shared) (thread : Thread) :
    Threads Reply α Thread Shared :=
  match threads.programs thread with
  | .done _ => threads
  | .perform op next =>
      match serve thread op threads.shared with
      | none => threads
      | some (reply, shared) =>
          ⟨Function.update threads.programs thread (next reply), shared⟩

/-- The threads behind a schedule. -/
def after (threads : Threads Reply α Thread Shared) : List Thread → Threads Reply α Thread Shared
  | [] => threads
  | thread :: schedule => (threads.step serve thread).after schedule

variable {serve} {threads : Threads Reply α Thread Shared}

/-- A turn changes nothing, or the pending operation is served. -/
theorem step_cases (serve : Thread → (op : Op) → Shared → Option (Reply op × Shared))
    (threads : Threads Reply α Thread Shared) (thread : Thread) :
    threads.step serve thread = threads ∨
      ∃ op next reply shared, threads.programs thread = .perform op next ∧
        serve thread op threads.shared = some (reply, shared) ∧
        threads.step serve thread =
          ⟨Function.update threads.programs thread (next reply), shared⟩ := by
  cases pending : threads.programs thread with
  | done answer =>
      left
      rw [step, pending]
  | perform op next =>
      cases served : serve thread op threads.shared with
      | none =>
          left
          simp only [step, pending, served]
      | some outcome =>
          right
          refine ⟨op, next, outcome.1, outcome.2, rfl, served, ?_⟩
          simp only [step, pending, served]

/-- What every turn keeps holds behind every schedule. -/
theorem after_of_invariant {invariant : Threads Reply α Thread Shared → Prop}
    (keeps : ∀ threads thread, invariant threads → invariant (threads.step serve thread))
    (holds : invariant threads) (schedule : List Thread) :
    invariant (threads.after serve schedule) := by
  induction schedule generalizing threads with
  | nil => exact holds
  | cons thread schedule ih => exact ih (keeps threads thread holds)

end Threads

section Critical

variable (serve : Thread → (op : Op) → Shared → Option (Reply op × Shared)) (thread : Thread)
  (holds : Shared → Prop) (rely : Shared → Shared → Prop)
  (post : Program Reply α → Shared → Prop)

/--
The thread is in its critical section. The rest of its program behind the operation with
which it leaves the section meets the postcondition, and so does an answer inside of it.
-/
def Critical : Program Reply α → Shared → Prop
  | .done answer, shared => post (.done answer) shared
  | .perform op next, shared => ∀ before, rely shared before →
      ∃ reply after, serve thread op before = some (reply, after) ∧
        (holds after → Critical (next reply) after) ∧ (¬ holds after → post (next reply) after)

variable {serve thread holds rely post} {op : Op} {next : Reply op → Program Reply α}
  {program : Program Reply α} {shared other : Shared}

/-- What the others do does not end a critical section. -/
theorem Critical.relied (trans : ∀ {first second third}, rely first second → rely second third →
      rely first third)
    (stable : ∀ {answer shared other}, post (.done answer) shared → rely shared other →
      post (.done answer) other)
    (critical : Critical serve thread holds rely post program shared)
    (relies : rely shared other) : Critical serve thread holds rely post program other := by
  cases program with
  | done answer => exact stable critical relies
  | perform op next => exact fun before later => critical before (trans relies later)

/-- The turn of the thread that is in the critical section. -/
theorem Critical.served (refl : ∀ shared, rely shared shared)
    (critical : Critical serve thread holds rely post (.perform op next) shared) :
    ∃ reply after, serve thread op shared = some (reply, after) ∧
      (holds after → Critical serve thread holds rely post (next reply) after) ∧
      (¬ holds after → post (next reply) after) :=
  critical shared (refl shared)

/-- An operation inside of the section. -/
theorem critical_perform
    (inside : ∀ before, rely shared before → ∃ reply after,
      serve thread op before = some (reply, after) ∧ holds after ∧
        Critical serve thread holds rely post (next reply) after) :
    Critical serve thread holds rely post (.perform op next) shared := by
  intro before relies
  rcases inside before relies with ⟨reply, after, served, stillHolds, critical⟩
  exact ⟨reply, after, served, fun _ => critical, fun left => absurd stillHolds left⟩

end Critical

end Lib
