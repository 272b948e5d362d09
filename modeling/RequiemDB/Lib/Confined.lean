import RequiemDB.Lib.Program

/-!
# Programs that keep to some operations

`Only permitted credible program` says of the tree of a program that it performs permitted
operations alone, as long as the replies to them are credible. Two environments that agree on
the permitted operations cannot be told apart by such a program.
-/

namespace Lib

universe u v w

namespace Program

variable {Op : Type u} {Reply : Op → Type v} {State Other : Type w} {α β : Type w}
  {permitted : Op → Prop} {credible : (op : Op) → Reply op → Prop}

/-- Every operation of the program is permitted, as long as the replies are credible. -/
def Only (permitted : Op → Prop) (credible : (op : Op) → Reply op → Prop) :
    Program Reply α → Prop
  | .done _ => True
  | .perform op next =>
      permitted op ∧ ∀ reply, credible op reply → Only permitted credible (next reply)

theorem only_bind {program : Program Reply α} {rest : α → Program Reply β}
    (first : Only permitted credible program)
    (later : ∀ answer, Only permitted credible (rest answer)) :
    Only permitted credible (program >>= rest) := by
  induction program with
  | done answer => exact later answer
  | perform op next ih =>
      rcases first with ⟨here, behind⟩
      exact ⟨here, fun reply isPlausible => ih reply (behind reply isPlausible)⟩

/-- Every operation of a run is permitted when the environment replies plausibly. -/
theorem Only.along {environment : Environment Reply State}
    (replies : ∀ op state, credible op (environment op state).1) {program : Program Reply α}
    (only : Only permitted credible program) (state : State) :
    program.Along environment (fun op _ => permitted op) state := by
  induction program generalizing state with
  | done answer => trivial
  | perform op next ih =>
      rcases only with ⟨here, later⟩
      exact ⟨here, ih _ (later _ (replies op state)) _⟩

theorem along_of_forall {environment : Environment Reply State} {step : Op → State → Prop}
    (always : ∀ op state, step op state) (program : Program Reply α) (state : State) :
    program.Along environment step state := by
  induction program generalizing state with
  | done answer => trivial
  | perform op next ih => exact ⟨always op state, ih _ _⟩

/-- Environments that agree on the operations of a run give the same run. -/
theorem run_congr_along {environment other : Environment Reply State} {step : Op → State → Prop}
    (same : ∀ op state, step op state → environment op state = other op state)
    {program : Program Reply α} {state : State} (along : program.Along environment step state) :
    program.run environment state = program.run other state := by
  induction program generalizing state with
  | done answer => rfl
  | perform op next ih =>
      have later := ih _ along.2
      rw [run_perform, run_perform, ← same op state along.1, later]

theorem along_and {environment : Environment Reply State} {first second : Op → State → Prop}
    {program : Program Reply α} {state : State} (along : program.Along environment first state)
    (alongSecond : program.Along environment second state) :
    program.Along environment (fun op state => first op state ∧ second op state) state := by
  induction program generalizing state with
  | done answer => trivial
  | perform op next ih => exact ⟨⟨along.1, alongSecond.1⟩, ih _ along.2 alongSecond.2⟩

/-- Environments that agree on what is permitted, in related states, and reply plausibly. -/
structure Agree (permitted : Op → Prop) (credible : (op : Op) → Reply op → Prop)
    (environment : Environment Reply State) (other : Environment Reply Other)
    (related : State → Other → Prop) : Prop where
  credible : ∀ {op state otherState}, permitted op → related state otherState →
    credible op (environment op state).1
  reply : ∀ {op state otherState}, permitted op → related state otherState →
    (environment op state).1 = (other op otherState).1
  next : ∀ {op state otherState}, permitted op → related state otherState →
    related (environment op state).2 (other op otherState).2

/-- The answers are the same, and the states behind the runs are related. -/
theorem Agree.run {environment : Environment Reply State} {other : Environment Reply Other}
    {related : State → Other → Prop}
    (agree : Agree permitted credible environment other related) {program : Program Reply α}
    (only : Only permitted credible program) {state : State} {otherState : Other}
    (isRelated : related state otherState) :
    (program.run environment state).1 = (program.run other otherState).1 ∧
      related (program.run environment state).2 (program.run other otherState).2 := by
  induction program generalizing state otherState with
  | done answer => exact ⟨rfl, isRelated⟩
  | perform op next ih =>
      rcases only with ⟨here, later⟩
      rw [run_perform, run_perform, ← agree.reply here isRelated]
      exact ih _ (later _ (agree.credible here isRelated)) (agree.next here isRelated)

section Careful

variable {succeeds : (op : Op) → Reply op → Prop} {failed : Program Reply β → Prop}

/-- Behind a reply that is no success the program is one of `failed`. -/
def Careful (succeeds : (op : Op) → Reply op → Prop) (failed : Program Reply α → Prop) :
    Program Reply α → Prop
  | .done _ => True
  | .perform op next => ∀ reply,
      (succeeds op reply → Careful succeeds failed (next reply)) ∧
        (¬ succeeds op reply → failed (next reply))

/-- Behind a reply that is no success the program ends at once. -/
abbrev EndsAtFailure (succeeds : (op : Op) → Reply op → Prop) (fails : α → Prop) :
    Program Reply α → Prop :=
  Careful succeeds fun program => ∃ answer, fails answer ∧ program = .done answer

theorem careful_bind {fails : α → Prop} {first : Program Reply α} {rest : α → Program Reply β}
    (careful : EndsAtFailure succeeds fails first)
    (later : ∀ answer, Careful succeeds failed (rest answer))
    (ends : ∀ answer, fails answer → failed (rest answer)) :
    Careful succeeds failed (first >>= rest) := by
  induction first with
  | done answer => exact later answer
  | perform op next ih =>
      intro reply
      rcases careful reply with ⟨goesOn, fails⟩
      refine ⟨fun isSuccess => ih reply (goesOn isSuccess), fun failing => ?_⟩
      rcases fails failing with ⟨answer, isFailure, isDone⟩
      show failed (next reply >>= rest)
      rw [isDone]
      exact ends answer isFailure

/-- An operation that always succeeds, and what follows it. -/
theorem careful_perform {op : Op} {next : Reply op → Program Reply β}
    (always : ∀ reply, succeeds op reply)
    (careful : ∀ reply, Careful succeeds failed (next reply)) :
    Careful succeeds failed (.perform op next) := fun reply =>
  ⟨fun _ => careful reply, fun failing => absurd (always reply) failing⟩

/-- A run that ends well goes as it would in an environment that agrees on every success. -/
theorem Careful.agree {environment : Environment Reply State} {other : Environment Reply Other}
    {related : State → Other → Prop} (well : β → Prop)
    (ends : ∀ program, failed program → ∀ state, ¬ well (program.run other state).1)
    (agree : ∀ {op state otherState}, related state otherState →
      succeeds op (other op otherState).1 →
        (environment op state).1 = (other op otherState).1 ∧
          related (environment op state).2 (other op otherState).2)
    {program : Program Reply β} (careful : Careful succeeds failed program) {state : State}
    {otherState : Other} (isRelated : related state otherState)
    (isWell : well (program.run other otherState).1) :
    (program.run environment state).1 = (program.run other otherState).1 ∧
      related (program.run environment state).2 (program.run other otherState).2 := by
  induction program generalizing state otherState with
  | done answer => exact ⟨rfl, isRelated⟩
  | perform op next ih =>
      rcases careful (other op otherState).1 with ⟨goesOn, failing⟩
      by_cases isSuccess : succeeds op (other op otherState).1
      · rcases agree isRelated isSuccess with ⟨reply, next⟩
        rw [run_perform, run_perform, reply]
        exact ih _ (goesOn isSuccess) next isWell
      · exact absurd isWell (ends _ (failing isSuccess) _)

end Careful

end Program

end Lib
