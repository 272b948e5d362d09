import RequiemDB.Admin.Window

/-!
# Copy and move process the requested window

Behind any number of rounds the messages copied so far are a prefix of the requested
ones, and the next batch is the next piece of them: in a copy the offset has moved on by
their number, in a move they are gone from the source. The command ends when nothing of
the window is left.
-/

namespace RequiemDB.Admin

open Lib

variable {M : Type}

/-- The messages that the options ask for. -/
def requested (options : Options) (limit : Int) (source : List (Nat × M)) : List (Nat × M) :=
  window limit options.offset source

/-- What a copy or a move leaves of the source once it has processed the messages. -/
def remaining (options : Options) (source processed : List (Nat × M)) : List (Nat × M) :=
  if options.deleteCopied then
    source.filter fun entry => entry.1 ∉ processed.map Prod.fst else source

/--
The command ends by itself: a greater bound on its rounds changes nothing. Each round begins
with a query, and the databases count the queries.
-/
def EndsWith (interruption : Interruption) (options : Options) (limit : Int)
    (databases : Databases M) (result : (Int × Counters) × Databases M) : Prop :=
  ∃ enough, ∀ rounds ≥ enough,
    (doCmdCopyMove options rounds limit).run (serving interruption) databases = result

/-- The numbers that the command handles are in the range of an `int`. -/
structure InRange (options : Options) (source : List (Nat × M)) : Prop where
  positive : 1 ≤ options.eventsPerTransaction
  events : options.eventsPerTransaction < 2 ^ 31
  offset : 0 ≤ options.offset
  ends : options.offset + source.length < 2 ^ 31

theorem toCInt_of_range {value : Int} (lower : 0 ≤ value) (upper : value < 2 ^ 31) :
    toCInt value = value := by
  rw [toCInt, Int.bmod_def]
  omega

/-- Behind some rounds: `done` has been processed, and `todo` is left of the window. -/
structure Round (options : Options) (limit : Int) (initial : Databases M)
    (done todo : List (Nat × M)) (counters : Counters) (databases : Databases M) : Prop
    extends Head options counters databases where
  source : databases.source = remaining options initial.source done
  committed : databases.committed = initial.committed ++ done
  whole : requested options limit initial.source = done ++ todo
  counted : counters.curCount = done.length
  limited : counters.limitCopy = if limit < 0 then limit else limit - done.length

/-- Behind a prefix that has been removed the rest has the same offset. -/
theorem filter_of_initial {α β : Type} [DecidableEq β] {key : α → β} {source done rest : List α}
    {offset : Nat} (distinct : (source.map key).Nodup)
    (isDrop : source.drop offset = done ++ rest) :
    (source.filter fun entry => key entry ∉ done.map key).drop offset = rest ∧
      (done ≠ [] → (source.filter fun entry => key entry ∉ done.map key).take offset =
        source.take offset) := by
  have split : source.take offset ++ (done ++ rest) = source := by
    rw [← isDrop, List.take_append_drop]
  generalize behind : source.take offset = front at split
  have length : front.length ≤ offset ∧ (front.length < offset → done ++ rest = []) := by
    rw [← behind, List.length_take]
    refine ⟨Nat.min_le_left _ _, fun short => ?_⟩
    have beyond : source.length ≤ offset := by omega
    rw [← isDrop, List.drop_eq_nil_of_le beyond]
  rw [← split] at distinct ⊢
  simp only [List.map_append, List.nodup_append] at distinct
  rcases distinct with ⟨_, ⟨_, _, doneRest⟩, frontLater⟩
  have keepsFront : (front.filter fun entry => key entry ∉ done.map key) = front := by
    refine List.filter_eq_self.mpr fun entry present => ?_
    simp only [decide_eq_true_eq]
    intro isDone
    exact frontLater _ (List.mem_map_of_mem present) _ (List.mem_append_left _ isDone) rfl
  have dropsDone : (done.filter fun entry => key entry ∉ done.map key) = [] := by
    refine List.filter_eq_nil_iff.mpr fun entry present => ?_
    simpa using ⟨entry, present, rfl⟩
  have keepsRest : (rest.filter fun entry => key entry ∉ done.map key) = rest := by
    refine List.filter_eq_self.mpr fun entry present => ?_
    simp only [decide_eq_true_eq]
    intro isDone
    exact doneRest _ isDone _ (List.mem_map_of_mem present) rfl
  rw [List.filter_append, List.filter_append, keepsFront, dropsDone, keepsRest, List.nil_append]
  constructor
  · rw [List.drop_append, List.drop_eq_nil_of_le length.1, List.nil_append]
    by_cases short : front.length < offset
    · rw [(List.append_eq_nil_iff.mp (length.2 short)).2, List.drop_nil]
    · have none_ : offset - front.length = 0 := by omega
      rw [none_, List.drop_zero]
  · intro some_
    have isFront : front.length = offset := by
      refine Nat.le_antisymm length.1 (Nat.not_lt.mp fun short => ?_)
      exact some_ (List.append_eq_nil_iff.mp (length.2 short)).1
    rw [List.take_append_of_le_length (Nat.le_of_eq isFront.symm),
      List.take_of_length_le (Nat.le_of_eq isFront)]

section Round

variable {options : Options} {limit : Int} {initial databases : Databases M}
  {source done todo : List (Nat × M)} {counters : Counters}

/-- The window of the whole command, cut behind the messages that have been processed. -/
theorem requested_split (whole : requested options limit source = done ++ todo) :
    ∃ beyond, source.drop options.offset.toNat = done ++ (todo ++ beyond) ∧
      if limit < 0 then beyond = [] else
        done.length ≤ limit ∧ (todo ++ beyond).take (limit - done.length).toNat = todo := by
  rw [requested, window] at whole
  split at whole
  · rename_i unlimited
    refine ⟨[], by rw [whole, List.append_nil], ?_⟩
    rw [if_pos unlimited]
  · rename_i limited
    refine ⟨(source.drop options.offset.toNat).drop limit.toNat, ?_, ?_⟩
    · rw [← List.append_assoc, ← whole, List.take_append_drop]
    · have length := congrArg List.length whole
      rw [List.length_take, List.length_append] at length
      have inLimit : done.length ≤ limit.toNat := by omega
      rw [if_neg limited]
      refine ⟨by omega, ?_⟩
      have behind : (source.drop options.offset.toNat).take limit.toNat =
          ((done ++ todo) ++ (source.drop options.offset.toNat).drop limit.toNat).take
            limit.toNat := by
        rw [← whole, List.take_append_drop]
      rw [whole, List.append_assoc, List.take_append, List.take_of_length_le inLimit] at behind
      have sameRest := List.append_cancel_left behind
      have left : limit.toNat - done.length = (limit - done.length).toNat := by omega
      rw [← left]
      exact sameRest.symm

/-- Where the query of a round starts, the messages that are not processed yet begin. -/
theorem drop_remaining (inRange : InRange options source)
    (distinct : (source.map Prod.fst).Nodup) {rest : List (Nat × M)}
    (behind : source.drop options.offset.toNat = done ++ rest) :
    (remaining options source done).drop (toCInt (toCInt options.offset +
      (if options.deleteCopied then 0 else done.length : Nat))).toNat = rest := by
  rcases inRange with ⟨_, _, offset, ends⟩
  have length := congrArg List.length behind
  rw [List.length_drop, List.length_append] at length
  rw [remaining, toCInt_of_range offset (by omega)]
  split
  · rw [Int.natCast_zero, Int.add_zero, toCInt_of_range offset (by omega)]
    exact (filter_of_initial distinct behind).1
  · have inside : options.offset + done.length < 2 ^ 31 := by omega
    rw [toCInt_of_range (by omega) inside]
    have sum : (options.offset + (done.length : Int)).toNat =
        options.offset.toNat + done.length := by omega
    rw [sum, ← List.drop_drop, behind, List.drop_left]

theorem nextBatch_eq (inRange : InRange options source)
    (distinct : (source.map Prod.fst).Nodup)
    (whole : requested options limit source = done ++ todo)
    (counted : counters.curCount = done.length)
    (limited : counters.limitCopy = if limit < 0 then limit else limit - done.length) :
    nextBatch options counters (remaining options source done) =
      todo.take options.eventsPerTransaction := by
  rcases requested_split whole with ⟨beyond, behind, inLimit⟩
  have rest := drop_remaining inRange distinct behind
  rcases inRange with ⟨_, events, _, _⟩
  rw [nextBatch, window, counted, rest]
  by_cases unlimited : limit < 0
  · rw [if_pos unlimited] at inLimit limited
    have noLimit : counters.limitCopy < 0 := limited ▸ unlimited
    rw [if_pos noLimit, toCInt_of_range (by omega) (by omega), inLimit, List.append_nil]
    rw [if_neg (by omega), Int.toNat_natCast]
  · rw [if_neg unlimited] at inLimit limited
    rcases inLimit with ⟨below, cut⟩
    have hasLimit : ¬ counters.limitCopy < 0 := by omega
    rw [if_neg hasLimit, toCInt_of_range (by omega) (by omega)]
    have notNegative : ¬ min (options.eventsPerTransaction : Int) counters.limitCopy < 0 := by
      omega
    have size : (min (options.eventsPerTransaction : Int) counters.limitCopy).toNat =
        min options.eventsPerTransaction (limit - done.length).toNat := by omega
    rw [if_neg notNegative, size, ← List.take_take, cut]

theorem Round.nextBatch_eq (round : Round options limit initial done todo counters databases)
    (inRange : InRange options initial.source) (distinct : (initial.source.map Prod.fst).Nodup) :
    nextBatch options counters databases.source = todo.take options.eventsPerTransaction := by
  rw [round.source]
  exact Admin.nextBatch_eq inRange distinct round.whole round.counted round.limited

/-- The source has lost what has been processed, one batch after the other. -/
theorem remaining_remaining (options : Options) (source first second : List (Nat × M)) :
    remaining options (remaining options source first) second =
      remaining options source (first ++ second) := by
  rw [remaining, remaining, remaining]
  split
  · rw [List.filter_filter]
    simp only [List.map_append, List.mem_append, not_or, Bool.decide_and, Bool.and_comm]
  · rfl

/-- A round that has copied its batch has processed the next piece of the window. -/
theorem Round.settled (round : Round options limit initial done todo counters databases)
    {batch rest : List (Nat × M)} (split : todo = batch ++ rest) (some_ : batch ≠ [])
    {after : Counters} {afterwards : Databases M}
    (settled : Settled options databases.queried (counters.charged batch.length) batch after
      afterwards) :
    Round options limit initial (done ++ batch) rest after afterwards where
  positive := round.positive
  events := settled.events
  pending := settled.pending
  opened := fun several => settled.opened (.inl several)
  source := by
    rw [settled.source, ← remaining_remaining, ← round.source]
    rfl
  committed := by
    have committed := settled.committed
    rw [committed, ← List.append_assoc, ← round.committed]
    rfl
  whole := by rw [round.whole, split, List.append_assoc]
  counted := by rw [settled.counted, charged_curCount, round.counted, List.length_append]
  limited := by
    have limited := round.limited
    have whole := round.whole
    rcases requested_split whole with ⟨beyond, _, inLimit⟩
    rw [settled.limit, Counters.charged, List.length_append]
    have nonempty := List.length_pos_iff.mpr some_
    by_cases unlimited : limit < 0
    · rw [if_pos unlimited] at limited ⊢
      have noLimit : ¬ counters.limitCopy > 0 := by omega
      rw [if_neg noLimit, limited]
    · rw [if_neg unlimited] at limited inLimit ⊢
      have length := congrArg List.length inLimit.2
      rw [List.length_take, split, List.length_append, List.length_append] at length
      have hasLimit : counters.limitCopy > 0 := by omega
      rw [if_pos hasLimit]
      show counters.limitCopy - (batch.length : Int) = _
      omega

/-- What the command has done when it ends. -/
structure Complete (options : Options) (limit : Int) (initial : Databases M)
    (result : (Int × Counters) × Databases M) : Prop where
  succeeds : result.1.1 = 0
  committed : result.2.committed =
    initial.committed ++ requested options limit initial.source
  pending : result.2.pending = []
  source : result.2.source =
    remaining options initial.source (requested options limit initial.source)

theorem Round.complete (round : Round options limit initial done [] counters databases)
    (later : Counters) :
    Complete options limit initial
      ((transactionEnd options 0 later).run (serving .none) databases.queried) := by
  have whole := round.whole
  have committed : databases.queried.committed =
      initial.committed ++ requested options limit initial.source := by
    rw [whole, List.append_nil]
    exact round.committed
  have source : databases.queried.source =
      remaining options initial.source (requested options limit initial.source) := by
    rw [whole, List.append_nil]
    exact round.source
  have pending : databases.queried.pending = [] := round.pending
  rw [transactionEnd]
  split
  · rename_i several
    have isOpen : databases.queried.inTransaction = true := round.opened several
    rw [if_neg (Int.lt_irrefl 0), Program.run_perform]
    simp only [serving, isOpen, if_true, Program.run_done]
    refine ⟨rfl, ?_, rfl, source⟩
    show databases.queried.committed ++ databases.queried.pending = _
    rw [pending, List.append_nil, committed]
  · exact ⟨rfl, committed, pending, source⟩

/-- From any round on the command ends with the whole window processed. -/
theorem Round.run (round : Round options limit initial done todo counters databases)
    (inRange : InRange options initial.source) (distinct : (initial.source.map Prod.fst).Nodup) :
    ∃ result, Complete options limit initial result ∧ ∀ rounds > todo.length,
      (copyRounds options rounds counters).run (serving .none) databases = result := by
  have noInterruption : ∀ databases : Databases M,
      Interruption.none.round ≠ some databases.queries := fun _ => nofun
  induction size : todo.length using Nat.strongRecOn
    generalizing done todo counters databases with
  | ind length ih =>
      subst size
      have next := round.nextBatch_eq inRange distinct
      by_cases nothing : todo = []
      · subst nothing
        refine ⟨_, round.complete (counters.charged 0), fun rounds enough => ?_⟩
        rcases Nat.exists_eq_succ_of_ne_zero (Nat.ne_of_gt (Nat.zero_lt_of_lt enough)) with
          ⟨fewer, rfl⟩
        exact run_copyRounds_last (noInterruption _) fewer (next.trans List.take_nil)
      · have some_ : todo.take options.eventsPerTransaction ≠ [] := by
          rw [Ne, List.take_eq_nil_iff, not_or]
          exact ⟨Nat.ne_of_gt inRange.positive, nothing⟩
        have still : (databases.source.map Prod.fst).Nodup := by
          rw [round.source, remaining]
          split
          · exact distinct.sublist (List.filter_sublist.map Prod.fst)
          · exact distinct
        have shorter : (todo.drop options.eventsPerTransaction).length < todo.length := by
          have nonempty := List.length_pos_iff.mpr nothing
          have positive := inRange.positive
          rw [List.length_drop]
          omega
        rcases run_copyRounds_succ (noInterruption databases) round.toHead still
            (next ▸ some_) with ⟨after, afterwards, settled, goesOn⟩
        rw [next] at settled
        have behind := round.settled (List.take_append_drop _ _).symm some_ settled
        rcases ih _ shorter behind rfl with ⟨result, complete, ends⟩
        refine ⟨result, complete, fun rounds enough => ?_⟩
        rcases Nat.exists_eq_succ_of_ne_zero (Nat.ne_of_gt (Nat.zero_lt_of_lt enough)) with
          ⟨fewer, rfl⟩
        rw [goesOn]
        exact ends fewer (by omega)

end Round

section Start

variable (options : Options) (databases : Databases M)

/-- The databases behind the BEGIN of the command. -/
def Databases.started : Databases M :=
  if 1 < options.eventsPerTransaction then databases.begin else databases

theorem run_transactionStart (interruption : Interruption)
    (closed : databases.inTransaction = false) (rest : Command M (Int × Counters)) :
    (transactionStart options rest).run (serving interruption) databases =
      rest.run (serving interruption) (databases.started options) := by
  rw [transactionStart, Databases.started]
  split
  · rw [Program.run_perform]
    simp only [serving, closed, Bool.false_eq_true, if_false]
  · rfl

theorem started_source : (databases.started options).source = databases.source := by
  rw [Databases.started]
  split <;> rfl

theorem started_committed : (databases.started options).committed = databases.committed := by
  rw [Databases.started]
  split <;> rfl

theorem started_queries : (databases.started options).queries = databases.queries := by
  rw [Databases.started]
  split <;> rfl

theorem head_started (positive : 1 ≤ options.eventsPerTransaction)
    (pending : databases.pending = []) (limit : Int) :
    Head options ⟨0, 0, limit⟩ (databases.started options) where
  positive := positive
  events := rfl
  pending := by
    rw [Databases.started]
    split <;> exact pending
  opened := fun several => by rw [Databases.started, if_pos several]; rfl

theorem round_started (limit : Int) (positive : 1 ≤ options.eventsPerTransaction)
    (pending : databases.pending = []) :
    Round options limit databases [] (requested options limit databases.source) ⟨0, 0, limit⟩
      (databases.started options) where
  toHead := head_started options databases positive pending limit
  source := by
    have keepsAll : (databases.source.filter fun entry =>
        entry.1 ∉ ([] : List (Nat × M)).map Prod.fst) = databases.source :=
      List.filter_eq_self.mpr (by simp)
    rw [started_source, remaining, keepsAll, ite_self]
  committed := by rw [started_committed, List.append_nil]
  whole := rfl
  counted := rfl
  limited := by simp

end Start

/--
A copy or a move ends, with the messages of the requested window committed in the
destination, in their order and each once; a move removes these messages from the source,
and a copy leaves it as it is.
-/
theorem doCmdCopyMove_processes_window (options : Options) (limit : Int)
    (databases : Databases M) (inRange : InRange options databases.source)
    (distinct : (databases.source.map Prod.fst).Nodup)
    (closed : databases.inTransaction = false) (pending : databases.pending = []) :
    ∃ result, EndsWith .none options limit databases result ∧
      Complete options limit databases result := by
  have round := round_started options databases limit inRange.positive pending
  rcases round.run inRange distinct with ⟨result, complete, ends⟩
  refine ⟨result, ⟨(requested options limit databases.source).length + 1, ?_⟩, complete⟩
  intro rounds enough
  rw [doCmdCopyMove, run_transactionStart options databases .none closed]
  exact ends rounds (Nat.lt_of_succ_le enough)

/-- The databases of a move of two of three messages behind the first one. -/
def threeMessages : Databases Unit :=
  ⟨[(4, ()), (7, ()), (9, ())], [], [], false, 0, 0⟩

theorem doCmdCopyMove_processes_window_threeMessages :
    ∃ result, EndsWith .none ⟨2, 1, true⟩ 2 threeMessages result ∧
      Complete ⟨2, 1, true⟩ 2 threeMessages result :=
  doCmdCopyMove_processes_window ⟨2, 1, true⟩ 2 threeMessages
    ⟨by decide, by decide, by decide, by decide⟩ (by decide) rfl rfl

/-- Two of three messages are moved, in a transaction of two. -/
example : ((doCmdCopyMove ⟨2, 1, true⟩ 4 2).run (serving .none) threeMessages).2 =
    ⟨[(4, ())], [(7, ()), (9, ())], [], false, 2, 0⟩ := by
  rfl

end RequiemDB.Admin
