import RequiemDB.Lib.Program

/-!
# Environments with an oracle

An environment may leave to an oracle what becomes of each operation. A program that runs
against another environment is simulated when an answer of the oracle can be found for each
operation. The coupling of the two states may look at what is left of the program: a state that
is not like the other one is no harm when the rest of the program does not look at it.
-/

namespace Lib

universe u v w

namespace Program

variable {Op : Type u} {Reply : Op → Type v} {State Other : Type w} {Choice : Type*} {α : Type w}

section Clocked

/-- The oracle is asked once for each operation, with the time. -/
structure Clocked (oracular : (ℕ → Choice) → Environment Reply Other) (clock : Other → ℕ) :
    Prop where
  now : ∀ {oracle another op other}, oracle (clock other) = another (clock other) →
    oracular oracle op other = oracular another op other
  tick : ∀ oracle op other, clock (oracular oracle op other).2 = clock other + 1

variable {oracular : (ℕ → Choice) → Environment Reply Other} {clock : Other → ℕ}
  {oracle another : ℕ → Choice}

theorem Clocked.after (clocked : Clocked oracular clock) {op : Op} {other : Other}
    (same : ∀ time ≥ clock other, oracle time = another time) :
    ∀ time ≥ clock (oracular another op other).2, oracle time = another time := by
  rw [clocked.tick]
  intro time later
  exact same time (Nat.le_of_succ_le later)

/-- What an oracle has said in the past does not matter. -/
theorem Clocked.run_congr (clocked : Clocked oracular clock) (program : Program Reply α)
    {other : Other} (same : ∀ time ≥ clock other, oracle time = another time) :
    program.run (oracular oracle) other = program.run (oracular another) other := by
  induction program generalizing other with
  | done answer => rfl
  | perform op next ih =>
      rw [run_perform, run_perform, clocked.now (same _ (Nat.le_refl _))]
      exact ih _ (clocked.after same)

theorem Clocked.along_congr (clocked : Clocked oracular clock) (program : Program Reply α)
    {step otherStep : Op → Other → Prop} {other : Other}
    (same : ∀ time ≥ clock other, oracle time = another time)
    (sameStep : ∀ op later, clock other ≤ clock later → (step op later ↔ otherStep op later)) :
    program.Along (oracular oracle) step other ↔
      program.Along (oracular another) otherStep other := by
  induction program generalizing other with
  | done answer => rfl
  | perform op next ih =>
      rw [along_perform, along_perform, clocked.now (same _ (Nat.le_refl _)),
        sameStep op other (Nat.le_refl _)]
      refine and_congr_right fun _ => ih _ (clocked.after same) fun op later isLater => ?_
      rw [clocked.tick] at isLater
      exact sameStep op later (Nat.le_of_succ_le isLater)

end Clocked

section Couples

variable (environment : Environment Reply State)
  (oracular : (ℕ → Choice) → Environment Reply Other) (clock : Other → ℕ)
  (permitted : Op → State → Prop) (allowed : Choice → Op → Other → Prop)

/-- For each operation there is a choice that keeps the states coupled. -/
structure Couples (coupled : Program Reply α → State → Other → Prop) : Prop where
  step : ∀ {op next state other}, coupled (.perform op next) state other →
    ∃ choice, ∀ oracle, oracle (clock other) = choice →
      (oracular oracle op other).1 = (environment op state).1 ∧
        coupled (next (environment op state).1) (environment op state).2
          (oracular oracle op other).2 ∧
        (permitted op state → allowed choice op other)

/-- The run against the oracle does what the other run does. -/
structure Simulated (coupled : Program Reply α → State → Other → Prop)
    (program : Program Reply α) (state : State) (other : Other) (oracle : ℕ → Choice) :
    Prop where
  answer : (program.run (oracular oracle) other).1 = (program.run environment state).1
  final : coupled (.done (program.run environment state).1) (program.run environment state).2
    (program.run (oracular oracle) other).2
  allowed : program.Along environment permitted state →
    program.Along (oracular oracle) (fun op later => allowed (oracle (clock later)) op later) other
  along : ∀ {good : State → Prop} {fine : Other → Prop},
    (∀ {program state other}, coupled program state other → fine other → good state) →
    program.Along (oracular oracle) (fun _ => fine) other →
    program.Along environment (fun _ => good) state

variable {environment oracular clock permitted allowed}

/-- A coupled run is simulated by the run against some oracle. -/
theorem Couples.exists_oracle [Nonempty Choice]
    {coupled : Program Reply α → State → Other → Prop} (clocked : Clocked oracular clock)
    (couples : Couples environment oracular clock permitted allowed coupled)
    {program : Program Reply α} {state : State} {other : Other}
    (isCoupled : coupled program state other) :
    ∃ oracle, Simulated environment oracular clock permitted allowed coupled program state other
      oracle := by
  induction program generalizing state other with
  | done answer =>
      rcases ‹Nonempty Choice› with ⟨choice⟩
      exact ⟨fun _ => choice, rfl, isCoupled, fun _ => trivial, fun _ _ => trivial⟩
  | perform op next ih =>
      rcases couples.step isCoupled with ⟨choice, step⟩
      rcases step (fun _ => choice) rfl with ⟨_, coupledNext, _⟩
      rcases ih _ coupledNext with ⟨later, simulated⟩
      -- the choice for this operation, and behind it what the rest of the run asks for
      let oracle := Function.update later (clock other) choice
      have here : oracle (clock other) = choice := Function.update_self ..
      rcases step oracle here with ⟨reply, _, isAllowed⟩
      have next_eq : oracular oracle op other = oracular (fun _ => choice) op other :=
        clocked.now here
      have same : ∀ time ≥ clock (oracular (fun _ => choice) op other).2,
          oracle time = later time := by
        rw [clocked.tick]
        intro time isLater
        exact Function.update_of_ne (by omega) _ _
      have sameRun := clocked.run_congr (next (environment op state).1) same
      refine ⟨oracle, ?_, ?_, ?_, ?_⟩
      · rw [run_perform, run_perform, reply, next_eq, sameRun]
        exact simulated.answer
      · rw [run_perform, run_perform, reply, next_eq, sameRun]
        exact simulated.final
      · rintro ⟨isPermitted, along⟩
        rw [along_perform, reply, next_eq, here]
        refine ⟨isAllowed isPermitted, ?_⟩
        refine (clocked.along_congr _ same fun op after isAfter => ?_).mpr
          (simulated.allowed along)
        rw [same _ isAfter]
      · intro good fine isGood along
        rw [along_perform, reply, next_eq] at along
        refine ⟨isGood isCoupled along.1, simulated.along isGood ?_⟩
        exact (clocked.along_congr _ same fun _ _ _ => Iff.rfl).mp along.2

end Couples

end Program

end Lib
