import Mathlib.Data.List.GetD
import RequiemDB.Admin.Resume

/-!
# Printing messages

`cmd_print` with `print_iterate_message`. Unlike a copy it counts a message as soon as it is
printed, and unlike a save it stops at the first one that cannot be read. The offset that
`main` prints is then the position of the first message that is not printed, and runs that
are interrupted and resumed print the window as one run does, of a database in which new
messages arrive behind the old ones.
-/

namespace RequiemDB.Admin

open Lib

variable {M : Type}

section Functions

variable (options : Options)

/--
The loop of `print_iterate_message`; `insertMessage` is the call of `idmef_message_print`,
whose result is not looked at.
-/
def printIterateMessage (last : Int) : List Nat → Counters → Command M (Int × Counters)
  | [], counters =>
      .perform .stopProcessing fun stop => .done (if stop then 0 else last, counters)
  | ident :: idents, counters =>
      .perform .stopProcessing fun stop =>
      if stop then .done (0, counters)
      else .perform (.getMessage ident) fun
      | .error error => .done (error.code, counters)
      | .ok message =>
        .perform (.insertMessage ident message) fun _ =>
        printIterateMessage last idents { counters with curCount := counters.curCount + 1 }

/-- The `do ... while` loop of `cmd_print`, for at most `rounds` rounds. -/
def printRounds : Nat → Counters → Command M (Int × Counters)
  | 0, counters => .done (0, counters)
  | rounds + 1, counters =>
      fetchMessageIdentsLimited options counters fun
      | .error error, counters => .done (error.code, counters)
      | .ok batch, counters =>
        if batch.count ≤ 0 then .done (batch.count, counters)
        else printIterateMessage batch.last batch.idents counters >>= fun (ret, counters) =>
          if ret < 0 then .done (ret, counters)
          else .perform .stopProcessing fun stop =>
            if stop then .done (ret, counters) else printRounds rounds counters

/-- `cmd_print` behind the setup of its options, its database and its file. -/
def cmdPrint (rounds : Nat) (limit : Int) : Command M (Int × Counters) :=
  printRounds { options with deleteCopied := false } rounds ⟨0, 0, limit⟩

end Functions

/-- What goes wrong in a run, and what arrives. -/
structure Disturbance (M : Type) where
  /-- The tests of `stop_processing` before the signal. -/
  signal : Option Nat
  /-- The error of a query for idents, by its number. -/
  query : Nat → Option ErrorCode
  /-- The rows that a query yields before reading its result fails. -/
  row : Nat → Option (Nat × ErrorCode)
  /-- The error of reading a message, by its ident. -/
  read : Nat → Option ErrorCode
  /-- The messages that arrive before each query for idents. -/
  arrivals : List (List (Nat × M))

/-- The database and the output. -/
structure Printing (M : Type) where
  source : List (Nat × M)
  printed : List (Nat × M)
  queries : Nat
  tests : Nat

namespace Disturbance

variable (disturbance : Disturbance M)

/-- The signal has arrived before this test of `stop_processing`. -/
def stops (tests : Nat) : Bool :=
  match disturbance.signal with
  | none => false
  | some before => before ≤ tests

/-- The result of a query that finds the messages. -/
def batch (queries : Nat) (messages : List (Nat × M)) : Batch :=
  match disturbance.row queries with
  | none => .ofMessages messages
  | some (rows, error) =>
      ⟨messages.length, (messages.take rows).map Prod.fst, error.code, Int.le_of_lt error.negative⟩

/-- The messages that have not arrived yet. -/
def ahead (queries : Nat) : List (Nat × M) := (disturbance.arrivals.drop queries).flatten

end Disturbance

/-- The database behind what arrives before its next query. -/
def Printing.arrive (disturbance : Disturbance M) (state : Printing M) : Printing M :=
  { state with
    source := state.source ++ disturbance.arrivals.getD state.queries []
    queries := state.queries + 1 }

/-- The disturbance is all that happens beside the command. -/
def printing (disturbance : Disturbance M) : Environment (@Reply M) (Printing M) := fun op state =>
  match op with
  | .fetchIdents limit offset =>
      let arrived := state.arrive disturbance
      ((disturbance.query state.queries).elim
        (.ok (disturbance.batch state.queries (window limit offset arrived.source))) .error,
        arrived)
  | .getMessage ident =>
      (match disturbance.read ident, state.source.find? fun entry => entry.1 = ident with
        | some error, _ => .error error
        | none, some entry => .ok entry.2
        | none, none => .error ⟨-1, minusOne_negative⟩, state)
  | .insertMessage ident message =>
      (0, { state with printed := state.printed ++ [(ident, message)] })
  | .recordIdent _ _ => ((), state)
  | .deleteFromList idents => (idents.length, state)
  | .transactionStart | .transactionEnd | .transactionAbort => (0, state)
  | .stopProcessing => (disturbance.stops state.tests, { state with tests := state.tests + 1 })

/-- The command ends by itself, whatever greater bound its rounds have. -/
def PrintsWith (disturbance : Disturbance M) (options : Options) (limit : Int)
    (source : List (Nat × M)) (result : (Int × Counters) × Printing M) : Prop :=
  ∃ enough, ∀ rounds ≥ enough,
    (cmdPrint options rounds limit).run (printing disturbance) ⟨source, [], 0, 0⟩ = result

/-- `main` prints an offset: behind an error, and when it finds the flag set. -/
def Disturbance.reports (disturbance : Disturbance M)
    (result : (Int × Counters) × Printing M) : Bool :=
  result.1.1 < 0 || disturbance.stops result.2.tests

/-- `--count` for the rest of a window. -/
def countLeft (limit : Int) (printed : Nat) : Int :=
  if limit < 0 then limit else limit - printed

/--
What runs of the command print together, each one resumed at the offset that `main` printed
behind the one before, whether the last one was interrupted too, and the messages in the
database in the end.
-/
inductive Prints : List (Disturbance M) → Options → Int → List (Nat × M) → List (Nat × M) →
    Bool → List (Nat × M) → Prop
  | once {disturbance : Disturbance M} {options : Options} {limit : Int}
      {source : List (Nat × M)} {result : (Int × Counters) × Printing M}
      (ends : PrintsWith disturbance options limit source result) :
      Prints [disturbance] options limit source result.2.printed (disturbance.reports result)
        result.2.source
  | again {disturbance : Disturbance M} {disturbances : List (Disturbance M)} {options : Options}
      {limit offset : Int} {source : List (Nat × M)} {result : (Int × Counters) × Printing M}
      {printed final : List (Nat × M)} {interrupted : Bool}
      (ends : PrintsWith disturbance options limit source result)
      (accepted : setOffset (printedOffset options result.1.2.curCount) = some offset)
      (later : Prints disturbances { options with offset }
        (countLeft limit result.1.2.curCount) result.2.source printed interrupted final) :
      Prints (disturbance :: disturbances) options limit source (result.2.printed ++ printed)
        interrupted final

/--
The messages that are ever there have an ident of their own, and the numbers that the runs
handle are in the range of an `int`.
-/
structure Printable (options : Options) (everything : List (Nat × M)) : Prop where
  positive : 1 ≤ options.eventsPerTransaction
  events : options.eventsPerTransaction < 2 ^ 31
  offset : 0 ≤ options.offset
  skips : options.offset < 2 ^ 31
  length : everything.length < 2 ^ 31
  distinct : (everything.map Prod.fst).Nodup

theorem Printable.sublist {options : Options} {everything part : List (Nat × M)}
    (printable : Printable options everything) (isPart : part.Sublist everything) :
    Printable options part :=
  ⟨printable.positive, printable.events, printable.offset, printable.skips,
    Nat.lt_of_le_of_lt isPart.length_le printable.length,
    printable.distinct.sublist (isPart.map Prod.fst)⟩

section Run

variable {disturbance : Disturbance M} {options : Options} {limit : Int}
  {source done todo everything : List (Nat × M)} {counters : Counters} {state : Printing M}

theorem Disturbance.stops_mono {tests later : Nat} (stopped : disturbance.stops tests = true)
    (order : tests ≤ later) : disturbance.stops later = true := by
  simp only [Disturbance.stops] at stopped ⊢
  cases isSignal : disturbance.signal with
  | none =>
      rw [isSignal] at stopped
      exact absurd stopped Bool.false_ne_true
  | some before =>
      rw [isSignal] at stopped
      exact decide_eq_true (Nat.le_trans (of_decide_eq_true stopped) order)

variable (disturbance) in
/-- The loop prints a first part of its messages, and all of them unless it is interrupted. -/
theorem run_printIterateMessage (last : Int) (batch : List (Nat × M)) (counters : Counters)
    (state : Printing M) (distinct : (state.source.map Prod.fst).Nodup)
    (present : batch ⊆ state.source) :
    ∃ printed ret tests, printed <+: batch ∧
      (printIterateMessage last (batch.map Prod.fst) counters).run (printing disturbance) state =
        ((ret, { counters with curCount := counters.curCount + printed.length }),
          { state with printed := state.printed ++ printed, tests }) ∧
      (ret < 0 ∨ disturbance.stops tests = true ∨ printed = batch ∧ ret = last) := by
  induction batch generalizing counters state with
  | nil =>
      by_cases stopped : disturbance.stops state.tests = true
      · refine ⟨[], 0, state.tests + 1, List.prefix_rfl, ?_,
          .inr (.inl (Disturbance.stops_mono stopped (Nat.le_succ _)))⟩
        simp [printIterateMessage, printing, stopped]
      · refine ⟨[], last, state.tests + 1, List.prefix_rfl, ?_, .inr (.inr ⟨rfl, rfl⟩)⟩
        simp [printIterateMessage, printing, stopped]
  | cons entry batch ih =>
      rcases List.cons_subset.mp present with ⟨here, later⟩
      have found := find_entry distinct here
      rw [List.map_cons, printIterateMessage, Program.run_perform]
      by_cases stopped : disturbance.stops state.tests = true
      · refine ⟨[], 0, state.tests + 1, List.nil_prefix, ?_,
          .inr (.inl (Disturbance.stops_mono stopped (Nat.le_succ _)))⟩
        simp [printing, stopped]
      · simp only [printing, stopped, Bool.false_eq_true, if_false, Program.run_perform, found]
        cases unreadable : disturbance.read entry.1 with
        | some error =>
            refine ⟨[], error.code, state.tests + 1, List.nil_prefix, ?_, .inl error.negative⟩
            simp
        | none =>
            rcases ih { counters with curCount := counters.curCount + 1 }
                { state with printed := state.printed ++ [entry], tests := state.tests + 1 }
                distinct later with ⟨printed, ret, tests, isPrefix, runs, ends⟩
            refine ⟨entry :: printed, ret, tests, List.cons_prefix_cons.mpr ⟨rfl, isPrefix⟩, ?_, ?_⟩
            · refine runs.trans ?_
              simp only [List.append_assoc, List.singleton_append, List.length_cons]
              rw [Nat.add_assoc, Nat.add_comm 1]
            · rcases ends with failed | stopped | ⟨whole, isLast⟩
              · exact .inl failed
              · exact .inr (.inl stopped)
              · exact .inr (.inr ⟨congrArg _ whole, isLast⟩)

theorem batch_cut (disturbance : Disturbance M) (queries : Nat) (messages : List (Nat × M)) :
    ∃ idents, idents <+: messages ∧
      (disturbance.batch queries messages).idents = idents.map Prod.fst ∧
      (disturbance.batch queries messages).count = messages.length ∧
      ((disturbance.batch queries messages).last < 0 ∨
        idents = messages ∧ (disturbance.batch queries messages).last = 0) := by
  rw [Disturbance.batch]
  cases disturbance.row queries with
  | none => exact ⟨messages, List.prefix_rfl, rfl, rfl, .inr ⟨rfl, rfl⟩⟩
  | some cut =>
      exact ⟨messages.take cut.1, List.take_prefix _ _, rfl, rfl, .inl cut.2.negative⟩

/-- A query of a copying command finds the next messages of the window. -/
theorem nextBatch_copying (printable : Printable options source)
    (copies : options.deleteCopied = false)
    (whole : requested options limit source = done ++ todo)
    (counted : counters.curCount = done.length)
    (limited : counters.limitCopy = countLeft limit done.length) :
    nextBatch options counters source = todo.take options.eventsPerTransaction := by
  rcases requested_split whole with ⟨beyond, behind, inLimit⟩
  rcases printable with ⟨_, events, offset, skips, length, _⟩
  have isLength := congrArg List.length behind
  rw [List.length_drop, List.length_append] at isLength
  have inside : options.offset + done.length < 2 ^ 31 := by omega
  have rest : source.drop (options.offset + (done.length : Int)).toNat = todo ++ beyond := by
    have sum : (options.offset + (done.length : Int)).toNat =
        options.offset.toNat + done.length := by omega
    rw [sum, ← List.drop_drop, behind, List.drop_left]
  rw [nextBatch, window, copies, counted, toCInt_of_range offset skips]
  simp only [Bool.false_eq_true, if_false]
  rw [toCInt_of_range (by omega) inside, rest]
  rw [countLeft] at limited
  by_cases unlimited : limit < 0
  · rw [if_pos unlimited] at inLimit limited
    have noLimit : counters.limitCopy < 0 := limited ▸ unlimited
    rw [if_pos noLimit, toCInt_of_range (by omega) (by omega), inLimit, List.append_nil,
      if_neg (by omega), Int.toNat_natCast]
  · rw [if_neg unlimited] at inLimit limited
    rcases inLimit with ⟨below, cut⟩
    have hasLimit : ¬ counters.limitCopy < 0 := by omega
    have notNegative : ¬ min (options.eventsPerTransaction : Int) counters.limitCopy < 0 := by
      omega
    have size : (min (options.eventsPerTransaction : Int) counters.limitCopy).toNat =
        min options.eventsPerTransaction (limit - done.length).toNat := by omega
    rw [if_neg hasLimit, toCInt_of_range (by omega) (by omega), if_neg notNegative, size,
      ← List.take_take, cut]

theorem arrive_ahead (disturbance : Disturbance M) (state : Printing M) :
    (state.arrive disturbance).source ++ disturbance.ahead (state.arrive disturbance).queries =
      state.source ++ disturbance.ahead state.queries := by
  show state.source ++ disturbance.arrivals.getD state.queries [] ++
    (disturbance.arrivals.drop (state.queries + 1)).flatten =
      state.source ++ (disturbance.arrivals.drop state.queries).flatten
  rw [List.append_assoc]
  congr 1
  by_cases inside : state.queries < disturbance.arrivals.length
  · rw [List.drop_eq_getElem_cons inside, List.flatten_cons, List.getD_eq_getElem _ _ inside]
  · rw [List.getD_eq_default _ _ (Nat.not_lt.mp inside), List.drop_eq_nil_of_le (by omega),
      List.drop_eq_nil_of_le (by omega)]
    rfl

/-- Messages that arrive behind the others are the last ones of a window. -/
theorem requested_append (options : Options) (limit : Int) (source arrived : List (Nat × M)) :
    requested options limit source <+: requested options limit (source ++ arrived) := by
  rw [requested, requested, window, window, List.drop_append]
  split
  · exact List.prefix_append _ _
  · rw [List.take_append]
    exact List.prefix_append _ _

/-- Where a run is at the head of a round, with a part of the window printed. -/
structure AtRound (disturbance : Disturbance M) (source everything : List (Nat × M))
    (options : Options) (limit : Int) (done : List (Nat × M)) (counters : Counters)
    (state : Printing M) : Prop where
  ordered : done <+: requested options limit state.source
  printed : state.printed = done
  counted : counters.curCount = done.length
  limited : counters.limitCopy = countLeft limit done.length
  grown : source <+: state.source
  arrived : state.source ++ disturbance.ahead state.queries = everything

/-- A run has printed a first part of the window, and all of it unless `main` reports. -/
structure Printed (disturbance : Disturbance M) (source everything : List (Nat × M))
    (options : Options) (limit : Int) (result : (Int × Counters) × Printing M) : Prop where
  ordered : result.2.printed <+: requested options limit result.2.source
  counted : result.1.2.curCount = result.2.printed.length
  whole : disturbance.reports result = false →
    result.2.printed = requested options limit result.2.source
  grown : source <+: result.2.source
  arrived : result.2.source <+: everything

theorem Disturbance.reports_of_negative {result : (Int × Counters) × Printing M}
    (negative : result.1.1 < 0) : disturbance.reports result = true := by
  rw [Disturbance.reports, decide_eq_true negative, Bool.true_or]

theorem Disturbance.reports_of_stops {result : (Int × Counters) × Printing M}
    (stopped : disturbance.stops result.2.tests = true) : disturbance.reports result = true := by
  rw [Disturbance.reports, stopped, Bool.or_true]

/-- What arrives before a query leaves the head of the round as it is. -/
theorem AtRound.arrive
    (atRound : AtRound disturbance source everything options limit done counters state) :
    AtRound disturbance source everything options limit done counters
      (state.arrive disturbance) where
  ordered := atRound.ordered.trans (requested_append _ _ _ _)
  printed := atRound.printed
  counted := atRound.counted
  limited := atRound.limited
  grown := atRound.grown.trans (List.prefix_append _ _)
  arrived := (arrive_ahead disturbance state).trans atRound.arrived

theorem AtRound.source_prefix
    (atRound : AtRound disturbance source everything options limit done counters state) :
    state.source <+: everything := ⟨_, atRound.arrived⟩

/-- An interrupted run has printed a part of its last batch. -/
theorem AtRound.interrupted
    (atRound : AtRound disturbance source everything options limit done counters state)
    (whole : requested options limit state.source = done ++ todo) {part : List (Nat × M)}
    (isPart : part <+: todo) {result : (Int × Counters) × Printing M}
    (sameSource : result.2.source = state.source)
    (printed : result.2.printed = state.printed ++ part)
    (counted : result.1.2.curCount = counters.curCount + part.length)
    (loud : disturbance.reports result = true) :
    Printed disturbance source everything options limit result where
  ordered := by
    rw [sameSource, whole, printed, atRound.printed]
    exact (List.prefix_append_right_inj done).mpr isPart
  counted := by rw [counted, printed, atRound.counted, atRound.printed, List.length_append]
  whole := fun silent => absurd (loud.symm.trans silent) nofun
  grown := sameSource ▸ atRound.grown
  arrived := sameSource ▸ atRound.source_prefix

/-- Behind a batch that is printed the next query finds the rest of the window. -/
theorem AtRound.next
    (atRound : AtRound disturbance source everything options limit done counters state)
    (whole : requested options limit state.source = done ++ todo) (size tests : Nat)
    (some_ : todo ≠ []) :
    AtRound disturbance source everything options limit (done ++ todo.take size)
      { counters.charged (todo.take size).length with
        curCount := counters.curCount + (todo.take size).length }
      ⟨state.source, state.printed ++ todo.take size, state.queries, tests⟩ where
  ordered := by
    show _ <+: requested options limit state.source
    rw [whole]
    exact (List.prefix_append_right_inj done).mpr (List.take_prefix _ _)
  printed := congrArg (· ++ todo.take size) atRound.printed
  counted := by rw [atRound.counted, List.length_append]
  limited := by
    have limited := atRound.limited
    rcases requested_split whole with ⟨beyond, _, inLimit⟩
    have nonempty := List.length_pos_iff.mpr some_
    have length := List.length_take (i := size) (l := todo)
    rw [countLeft] at limited
    rw [countLeft, Counters.charged, List.length_append]
    by_cases unlimited : limit < 0
    · rw [if_pos unlimited] at limited ⊢
      have noLimit : ¬ counters.limitCopy > 0 := by omega
      rw [if_neg noLimit, limited]
    · rw [if_neg unlimited] at limited inLimit ⊢
      have fits := congrArg List.length inLimit.2
      rw [List.length_take, List.length_append] at fits
      have hasLimit : counters.limitCopy > 0 := by omega
      rw [if_pos hasLimit]
      show counters.limitCopy - ((todo.take size).length : Int) = _
      omega
  grown := atRound.grown
  arrived := atRound.arrived

theorem run_fetch_printing (answered : disturbance.query state.queries = none)
    (rest : Except ErrorCode Batch → Counters → Command M (Int × Counters)) :
    (fetchMessageIdentsLimited options counters rest).run (printing disturbance) state =
      (rest (.ok (disturbance.batch state.queries
          (nextBatch options counters (state.arrive disturbance).source)))
        (counters.charged (disturbance.batch state.queries
          (nextBatch options counters (state.arrive disturbance).source)).count)).run
            (printing disturbance) (state.arrive disturbance) := by
  simp only [fetchMessageIdentsLimited, Program.run_perform, printing, answered, Option.elim_none]
  rfl

/-- A round ends the run, or the run goes on behind the next messages of the window. -/
theorem AtRound.step
    (atRound : AtRound disturbance source everything options limit done counters state)
    (printable : Printable options everything) (copies : options.deleteCopied = false) :
    (∃ result, Printed disturbance source everything options limit result ∧ ∀ rounds,
      (printRounds options (rounds + 1) counters).run (printing disturbance) state = result) ∨
    ∃ batch later afterwards, batch ≠ [] ∧
      AtRound disturbance source everything options limit (done ++ batch) later afterwards ∧
      ∀ rounds, (printRounds options (rounds + 1) counters).run (printing disturbance) state =
        (printRounds options rounds later).run (printing disturbance) afterwards := by
  have arrived := atRound.arrive
  rcases arrived.ordered with ⟨todo, isWhole⟩
  have whole := isWhole.symm
  have hereIn := printable.sublist arrived.source_prefix.sublist
  have next := nextBatch_copying hereIn copies whole arrived.counted arrived.limited
  have among : todo.take options.eventsPerTransaction ⊆ (state.arrive disturbance).source := by
    rw [← next]
    exact (window_sublist _ _ _).subset
  cases failed : disturbance.query state.queries with
  | some error =>
      refine .inl ⟨((error.code, counters), state.arrive disturbance),
        arrived.interrupted whole List.nil_prefix rfl (List.append_nil _).symm rfl
          (Disturbance.reports_of_negative error.negative), fun rounds => ?_⟩
      rw [printRounds, fetchMessageIdentsLimited, Program.run_perform]
      simp only [printing, failed, Option.elim_some, Program.run_done]
  | none =>
      rcases batch_cut disturbance state.queries (todo.take options.eventsPerTransaction) with
        ⟨found, isFound, idents, count, ends⟩
      by_cases nothing : todo = []
      · subst nothing
        rw [List.take_nil] at next count
        rw [List.append_nil] at whole
        refine .inl ⟨((0, counters.charged 0), state.arrive disturbance),
          ⟨?_, ?_, fun _ => ?_, arrived.grown, arrived.source_prefix⟩, fun rounds => ?_⟩
        · rw [arrived.printed]
          exact arrived.ordered
        · rw [charged_curCount, arrived.counted, arrived.printed]
        · rw [arrived.printed, whole]
        · rw [printRounds, run_fetch_printing failed, next]
          simp [count]
      · have nonempty : todo.take options.eventsPerTransaction ≠ [] := by
          have several := printable.positive
          rw [Ne, List.take_eq_nil_iff, not_or]
          exact ⟨by omega, nothing⟩
        have positive : ¬ ((todo.take options.eventsPerTransaction).length : Int) ≤ 0 := by
          have length := List.length_pos_iff.mpr nonempty
          omega
        rcases run_printIterateMessage disturbance
            (disturbance.batch state.queries (todo.take options.eventsPerTransaction)).last found
            (counters.charged (todo.take options.eventsPerTransaction).length)
            (state.arrive disturbance) hereIn.distinct
            (List.Subset.trans isFound.subset among) with
          ⟨printed, ret, tests, isPrinted, runs, how⟩
        have isPart : printed <+: todo :=
          (isPrinted.trans isFound).trans (List.take_prefix _ _)
        generalize isLater : ({
          counters.charged (todo.take options.eventsPerTransaction).length with
          curCount := (counters.charged
            (todo.take options.eventsPerTransaction).length).curCount + printed.length } :
            Counters) = later at runs
        have counted : later.curCount = counters.curCount + printed.length := by
          rw [← isLater, charged_curCount]
        have round : ∀ rounds, (printRounds options (rounds + 1) counters).run
            (printing disturbance) state = (if ret < 0 then .done (ret, later)
              else .perform .stopProcessing fun stop =>
                if stop then .done (ret, later) else printRounds options rounds later :
              Command M (Int × Counters)).run (printing disturbance)
                { state.arrive disturbance with
                  printed := (state.arrive disturbance).printed ++ printed, tests } := by
          intro rounds
          rw [printRounds, run_fetch_printing failed, next]
          simp only [count, positive, if_false, idents, Program.run_bind, runs]
        by_cases negative : ret < 0
        · refine .inl ⟨((ret, later), { state.arrive disturbance with
              printed := (state.arrive disturbance).printed ++ printed, tests }),
            arrived.interrupted whole isPart rfl rfl counted
              (Disturbance.reports_of_negative negative), fun rounds => ?_⟩
          rw [round, if_pos negative, Program.run_done]
        by_cases stopped : disturbance.stops tests = true
        · refine .inl ⟨((ret, later), { state.arrive disturbance with
              printed := (state.arrive disturbance).printed ++ printed, tests := tests + 1 }),
            arrived.interrupted whole isPart rfl rfl counted
              (Disturbance.reports_of_stops (Disturbance.stops_mono stopped (Nat.le_succ tests))),
            fun rounds => ?_⟩
          rw [round, if_neg negative, Program.run_perform]
          simp only [printing, stopped, if_true, Program.run_done]
        rcases how.resolve_left negative with stops | ⟨rfl, rfl⟩
        · exact absurd stops stopped
        obtain ⟨rfl, _⟩ := ends.resolve_left negative
        refine .inr ⟨todo.take options.eventsPerTransaction, later,
          { state.arrive disturbance with
            printed := (state.arrive disturbance).printed ++ todo.take options.eventsPerTransaction
            tests := tests + 1 }, nonempty, ?_, fun rounds => ?_⟩
        rotate_left
        · rw [round, if_neg negative, Program.run_perform]
          simp only [printing, stopped, Bool.false_eq_true, if_false]
        · rw [← isLater, charged_curCount]
          exact arrived.next whole _ _ nothing

/-- From any round on the command ends, and what it has printed is a part of the window. -/
theorem AtRound.run
    (atRound : AtRound disturbance source everything options limit done counters state)
    (printable : Printable options everything) (copies : options.deleteCopied = false) :
    ∃ result, Printed disturbance source everything options limit result ∧
      ∀ rounds > everything.length - done.length,
        (printRounds options rounds counters).run (printing disturbance) state = result := by
  induction size : everything.length - done.length using Nat.strongRecOn
    generalizing done counters state with
  | ind length ih =>
      subst size
      rcases atRound.step printable copies with
        ⟨result, isPrinted, ends⟩ | ⟨batch, later, afterwards, some_, next, goesOn⟩
      · refine ⟨result, isPrinted, fun rounds enough => ?_⟩
        rcases Nat.exists_eq_succ_of_ne_zero (Nat.ne_of_gt (Nat.zero_lt_of_lt enough)) with
          ⟨fewer, rfl⟩
        exact ends fewer
      · have inWindow : (done ++ batch).length ≤ everything.length :=
          (next.ordered.length_le.trans (window_sublist _ _ _).length_le).trans
            next.source_prefix.length_le
        have nonempty := List.length_pos_iff.mpr some_
        rw [List.length_append] at inWindow
        have shorter : everything.length - (done ++ batch).length <
            everything.length - done.length := by
          rw [List.length_append]
          omega
        rcases ih _ shorter next rfl with ⟨result, isPrinted, ends⟩
        refine ⟨result, isPrinted, fun rounds enough => ?_⟩
        rcases Nat.exists_eq_succ_of_ne_zero (Nat.ne_of_gt (Nat.zero_lt_of_lt enough)) with
          ⟨fewer, rfl⟩
        rw [goesOn]
        exact ends fewer (by omega)

theorem cmdPrint_ends (disturbance : Disturbance M) (limit : Int)
    (printable : Printable options (source ++ disturbance.arrivals.flatten)) :
    ∃ result, PrintsWith disturbance options limit source result ∧
      Printed disturbance source (source ++ disturbance.arrivals.flatten) options limit result := by
  have atRound : AtRound disturbance source (source ++ disturbance.arrivals.flatten)
      { options with deleteCopied := false } limit [] ⟨0, 0, limit⟩
      (⟨source, [], 0, 0⟩ : Printing M) := by
    refine ⟨List.nil_prefix, rfl, rfl, ?_, List.prefix_rfl, rfl⟩
    rw [countLeft, List.length_nil, Int.natCast_zero, Int.sub_zero, ite_self]
  have range : Printable { options with deleteCopied := false }
      (source ++ disturbance.arrivals.flatten) :=
    ⟨printable.positive, printable.events, printable.offset, printable.skips, printable.length,
      printable.distinct⟩
  rcases atRound.run range rfl with ⟨result, isPrinted, ends⟩
  exact ⟨result, ⟨_, fun rounds enough => ends rounds (Nat.lt_of_succ_le enough)⟩,
    isPrinted.ordered, isPrinted.counted, isPrinted.whole, isPrinted.grown,
    isPrinted.arrived⟩

theorem PrintsWith.unique {result other : (Int × Counters) × Printing M}
    (first : PrintsWith disturbance options limit source result)
    (second : PrintsWith disturbance options limit source other) : result = other := by
  rcases first with ⟨enough, ends⟩
  rcases second with ⟨others, endsToo⟩
  exact (ends _ (Nat.le_max_left enough others)).symm.trans
    (endsToo _ (Nat.le_max_right enough others))

end Run

section Resuming

variable {options : Options} {limit : Int} {source printed final everything : List (Nat × M)}
  {disturbances : List (Disturbance M)} {interrupted : Bool}

/-- The printed offset, as `set_offset` reads it again. -/
theorem resumedOffset (printable : Printable options source) {count : Nat}
    (within : count ≤ (source.drop options.offset.toNat).length) :
    setOffset (printedOffset options count) = some (options.offset + count) ∧
      options.offset + count < 2 ^ 31 := by
  rcases printable with ⟨positive, events, offset, skips, length, _⟩
  rw [List.length_drop] at within
  have inside : options.offset + count < 2 ^ 31 := by omega
  refine ⟨?_, inside⟩
  have notDefault : options.offset ≠ -1 := by omega
  rw [printedOffset, if_neg notDefault, setOffset]
  have same : ((((count : Int) + options.offset) % 2 ^ 64).toNat : Int) =
      options.offset + count := by
    omega
  rw [same, if_neg (by omega)]
  exact congrArg some (by omega)

/-- What is requested behind a first part of the window is its rest. -/
theorem requested_behind (offset : 0 ≤ options.offset) {first : List (Nat × M)}
    (isFirst : first <+: requested options limit source) :
    requested options limit source = first ++
      requested { options with offset := options.offset + first.length }
        (countLeft limit first.length) source := by
  rcases isFirst with ⟨rest, whole⟩
  rcases requested_split whole.symm with ⟨beyond, behind, inLimit⟩
  have sum : (options.offset + (first.length : Int)).toNat =
      options.offset.toNat + first.length := by omega
  rw [← whole]
  congr 1
  rw [requested, window]
  show rest = if countLeft limit first.length < 0 then
    source.drop (options.offset + (first.length : Int)).toNat else
      (source.drop (options.offset + (first.length : Int)).toNat).take _
  rw [sum, ← List.drop_drop, behind, List.drop_left, countLeft]
  by_cases unlimited : limit < 0
  · rw [if_pos unlimited] at inLimit ⊢
    rw [if_pos unlimited, inLimit, List.append_nil]
  · rw [if_neg unlimited] at inLimit ⊢
    rw [if_neg (by omega)]
    exact inLimit.2.symm

/-- All messages that are there before some runs or arrive in them. -/
def everythingOf (source : List (Nat × M)) (disturbances : List (Disturbance M)) :
    List (Nat × M) :=
  source ++ disturbances.flatMap fun disturbance => disturbance.arrivals.flatten

theorem everythingOf_first (source : List (Nat × M)) (disturbance : Disturbance M)
    (disturbances : List (Disturbance M)) :
    (source ++ disturbance.arrivals.flatten).Sublist
      (everythingOf source (disturbance :: disturbances)) := by
  rw [everythingOf, List.flatMap_cons, ← List.append_assoc]
  exact List.sublist_append_left _ _

section Resumes

variable {disturbance : Disturbance M} {result : (Int × Counters) × Printing M}

/-- Behind a run `main` prints an offset that the next run can start with. -/
theorem Printed.resumes (isPrinted : Printed disturbance source
      (source ++ disturbance.arrivals.flatten) options limit result)
    (printable : Printable options (everythingOf source (disturbance :: disturbances))) :
    setOffset (printedOffset options result.1.2.curCount) =
        some (options.offset + result.1.2.curCount) ∧
      Printable { options with offset := options.offset + result.1.2.curCount }
        (everythingOf result.2.source disturbances) := by
  have within : result.1.2.curCount ≤ (result.2.source.drop options.offset.toNat).length := by
    rw [isPrinted.counted]
    rcases isPrinted.ordered with ⟨rest, whole⟩
    rcases requested_split whole.symm with ⟨beyond, behind, _⟩
    rw [behind, List.length_append]
    exact Nat.le_add_right _ _
  have here := printable.sublist (everythingOf_first source disturbance disturbances)
  rcases resumedOffset (here.sublist isPrinted.arrived.sublist) within with ⟨isOffset, inside⟩
  have among : (everythingOf result.2.source disturbances).Sublist
      (everythingOf source (disturbance :: disturbances)) := by
    rw [everythingOf, everythingOf, List.flatMap_cons, ← List.append_assoc]
    exact isPrinted.arrived.sublist.append_right _
  have later := printable.sublist among
  have positive : 0 ≤ options.offset + (result.1.2.curCount : Int) :=
    Int.add_nonneg printable.offset (Int.natCast_nonneg _)
  exact ⟨isOffset, later.positive, later.events, positive, inside, later.length, later.distinct⟩

/-- The rest of the window begins at the printed offset, whatever has arrived since. -/
theorem Printed.whole_window (isPrinted : Printed disturbance source everything options limit
      result) (offset : 0 ≤ options.offset) (grown : result.2.source <+: final) :
    requested options limit final = result.2.printed ++
      requested { options with offset := options.offset + result.1.2.curCount }
        (countLeft limit result.1.2.curCount) final := by
  rcases grown with ⟨arrived, rfl⟩
  rw [isPrinted.counted]
  exact requested_behind offset (isPrinted.ordered.trans (requested_append _ _ _ _))

end Resumes

theorem Prints.of_window
    (prints : Prints disturbances options limit source printed interrupted final)
    (printable : Printable options (everythingOf source disturbances)) :
    source <+: final ∧ printed <+: requested options limit final ∧
      (interrupted = false → printed = requested options limit final) := by
  induction prints with
  | @once disturbance options limit source result ends =>
      have here := printable.sublist (everythingOf_first source disturbance [])
      rcases cmdPrint_ends disturbance limit here with ⟨other, endsToo, isPrinted⟩
      obtain rfl := ends.unique endsToo
      exact ⟨isPrinted.grown, isPrinted.ordered, isPrinted.whole⟩
  | @again disturbance disturbances options limit offset source result printed final _ ends
      accepted _ ih =>
      have here := printable.sublist (everythingOf_first source disturbance disturbances)
      rcases cmdPrint_ends disturbance limit here with ⟨other, endsToo, isPrinted⟩
      obtain rfl := ends.unique endsToo
      rcases isPrinted.resumes printable with ⟨isOffset, resumable⟩
      obtain rfl : offset = options.offset + result.1.2.curCount :=
        Option.some.inj (accepted.symm.trans isOffset)
      rcases ih resumable with ⟨grown, ordered, all⟩
      rw [isPrinted.whole_window printable.offset grown]
      exact ⟨isPrinted.grown.trans grown, (List.prefix_append_right_inj _).mpr ordered,
        fun silent => congrArg _ (all silent)⟩

theorem exists_prints (disturbance : Disturbance M) (disturbances : List (Disturbance M))
    (printable : Printable options (everythingOf source (disturbance :: disturbances))) :
    ∃ printed interrupted final,
      Prints (disturbance :: disturbances) options limit source printed interrupted final := by
  have here := printable.sublist (everythingOf_first source disturbance disturbances)
  rcases cmdPrint_ends disturbance limit here with ⟨result, ends, isPrinted⟩
  induction disturbances generalizing disturbance options limit source result with
  | nil => exact ⟨_, _, _, .once ends⟩
  | cons second disturbances ih =>
      rcases isPrinted.resumes printable with ⟨isOffset, resumable⟩
      have next := resumable.sublist (everythingOf_first result.2.source second disturbances)
      rcases cmdPrint_ends second (countLeft limit result.1.2.curCount) next with
        ⟨other, endsToo, isNext⟩
      rcases ih second resumable next other endsToo isNext with
        ⟨printed, interrupted, final, later⟩
      exact ⟨_, _, _, .again ends isOffset later⟩

/--
Runs of `print` on a database to which messages are added, each one resumed at the offset that
`main` printed behind the one before: they end, whatever goes wrong in them. They print a first
part of the requested window, in its order and each message once, and a last run that is not
interrupted leaves nothing of the window, the messages that have arrived since included.
-/
theorem print_resumes (options : Options) (limit : Int) (source : List (Nat × M))
    (disturbance : Disturbance M) (disturbances : List (Disturbance M))
    (printable : Printable options (everythingOf source (disturbance :: disturbances))) :
    ∃ printed interrupted final,
      Prints (disturbance :: disturbances) options limit source printed interrupted final ∧
      source <+: final ∧ printed <+: requested options limit final ∧
      (interrupted = false → printed = requested options limit final) := by
  rcases exists_prints disturbance disturbances printable with
    ⟨printed, interrupted, final, prints⟩
  exact ⟨printed, interrupted, final, prints, prints.of_window printable⟩

/-- A signal arrives at the test before the second message, and then another message. -/
def earlySignal : Disturbance Unit :=
  ⟨some 1, fun _ => none, fun _ => none, fun _ => none, [[(9, ())]]⟩

/-- The message 9 cannot be read. -/
def unreadableNine : Disturbance Unit :=
  ⟨none, fun _ => none, fun _ => none,
    fun ident => if ident = 9 then some ⟨-1, minusOne_negative⟩ else none, []⟩

def lastArrival : Disturbance Unit :=
  ⟨none, fun _ => none, fun _ => none, fun _ => none, [[], [(12, ())]]⟩

theorem print_resumes_arrivals :
    ∃ printed interrupted final,
      Prints [earlySignal, unreadableNine, lastArrival] ⟨2, 0, false⟩ (-1) [(4, ()), (7, ())]
        printed interrupted final ∧
      [(4, ()), (7, ())] <+: final ∧ printed <+: requested ⟨2, 0, false⟩ (-1) final ∧
      (interrupted = false → printed = requested ⟨2, 0, false⟩ (-1) final) :=
  print_resumes ⟨2, 0, false⟩ (-1) [(4, ()), (7, ())] earlySignal [unreadableNine, lastArrival]
    ⟨by decide, by decide, by decide, by decide, by decide, by decide⟩

/-- The first run prints a message, the second one more, and the third one the last two. -/
example :
    ((cmdPrint ⟨2, 0, false⟩ 4 (-1)).run (printing earlySignal)
        ⟨[(4, ()), (7, ())], [], 0, 0⟩).2.printed = [(4, ())] ∧
      ((cmdPrint ⟨2, 1, false⟩ 4 (-1)).run (printing unreadableNine)
        ⟨[(4, ()), (7, ()), (9, ())], [], 0, 0⟩).2.printed = [(7, ())] ∧
      ((cmdPrint ⟨2, 2, false⟩ 4 (-1)).run (printing lastArrival)
        ⟨[(4, ()), (7, ()), (9, ())], [], 0, 0⟩).2.printed = [(9, ()), (12, ())] :=
  ⟨rfl, rfl, rfl⟩

end Resuming

end RequiemDB.Admin
