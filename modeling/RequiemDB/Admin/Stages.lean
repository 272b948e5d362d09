import RequiemDB.Admin.Requested

/-!
# The stages of a copy or a move

A run is a sequence of stages, one for each round: what the two databases hold, and the
events that `main` would report. An interrupted run leaves the stage of its last commit,
less the messages that the round had removed from the source before that.
-/

namespace RequiemDB.Admin

open Lib

variable {M : Type}

/-- `main` prints how to resume behind an error, and behind a signal. -/
def Reports (interruption : Interruption) (result : (Int × Counters) × Databases M) : Prop :=
  result.1.1 < 0 ∨ interruption.stops result.2 = true

/-- The contents of the two databases. -/
abbrev Contents (M : Type) := List (Nat × M) × List (Nat × M)

/-- What the databases hold at the head of a round, and the events committed so far. -/
structure Stage (M : Type) where
  source : List (Nat × M)
  committed : List (Nat × M)
  curCount : Nat

namespace Stage

variable (options : Options) (stage : Stage M)

/-- The messages that the round finds, without `--count`. -/
def batch : List (Nat × M) := nextBatch options ⟨0, stage.curCount, -1⟩ stage.source

def next : Stage M where
  source := remaining options stage.source (stage.batch options)
  committed := stage.committed ++ stage.batch options
  curCount := stage.curCount + (stage.batch options).length

def after : Nat → Stage M → Stage M
  | 0, stage => stage
  | rounds + 1, stage => after rounds (stage.next options)

/-- The source while the messages of the batch are processed. -/
def sourceBehind (processed : List (Nat × M)) : List (Nat × M) :=
  stage.source.filter fun entry => entry.1 ∉ handedOver options (processed.map Prod.fst)

/-- The stage that an interruption of the round leaves. -/
def interrupted (interruption : Interruption) : Stage M :=
  match interruption with
  | .none | .fetch _ _ => stage
  | .signal _ => stage.next options
  | .get _ position _ | .insert _ position _ =>
      { stage with source := stage.sourceBehind options ((stage.batch options).take position) }
  | .delete _ _ =>
      { stage.next options with source := stage.sourceBehind options (stage.batch options) }

/-- The rounds end by themselves, with the contents. -/
inductive Ends (options : Options) : Stage M → Contents M → Prop
  | last {stage : Stage M} (nothing : stage.batch options = []) :
      Ends options stage (stage.source, stage.committed)
  | next {stage : Stage M} {contents : Contents M} (some_ : stage.batch options ≠ [])
      (later : Ends options (stage.next options) contents) : Ends options stage contents

end Stage

/-- The stage that the command begins with. -/
def Databases.stage (databases : Databases M) : Stage M :=
  ⟨databases.source, databases.committed, 0⟩

section Rounds

variable {options : Options} {interruption : Interruption} {stage : Stage M}
  {counters : Counters} {databases : Databases M}

/-- At the head of a round the databases and the counters are at the stage. -/
structure AtStage (options : Options) (stage : Stage M) (counters : Counters)
    (databases : Databases M) : Prop extends Head options counters databases where
  source : databases.source = stage.source
  committed : databases.committed = stage.committed
  curCount : counters.curCount = stage.curCount
  limitCopy : counters.limitCopy = -1
  distinct : (stage.source.map Prod.fst).Nodup

theorem AtStage.nextBatch_eq (atStage : AtStage options stage counters databases) :
    nextBatch options counters databases.source = stage.batch options := by
  rw [Stage.batch, nextBatch, nextBatch, atStage.source, atStage.curCount, atStage.limitCopy]

theorem AtStage.charged_eq (atStage : AtStage options stage counters databases) (count : Int) :
    counters.charged count = counters := by
  rw [Counters.charged, if_neg]
  rw [atStage.limitCopy]
  decide

theorem nodup_remaining {source : List (Nat × M)} (distinct : (source.map Prod.fst).Nodup)
    (processed : List (Nat × M)) : ((remaining options source processed).map Prod.fst).Nodup := by
  rw [remaining]
  split
  · exact distinct.sublist (List.filter_sublist.map Prod.fst)
  · exact distinct

theorem AtStage.settled (atStage : AtStage options stage counters databases)
    {after : Counters} {afterwards : Databases M}
    (settled : Settled options databases.queried counters (stage.batch options) after
      afterwards) : AtStage options (stage.next options) after afterwards where
  positive := atStage.positive
  events := settled.events
  pending := settled.pending
  opened := fun several => settled.opened (.inl several)
  source := by
    rw [settled.source, Stage.next, remaining, ← atStage.source]
    rfl
  committed := by
    rw [settled.committed, Stage.next, ← atStage.committed]
    rfl
  curCount := by rw [settled.counted, atStage.curCount, Stage.next]
  limitCopy := settled.limit.trans atStage.limitCopy
  distinct := nodup_remaining atStage.distinct _

theorem AtStage.run_last (atStage : AtStage options stage counters databases)
    (nothing : stage.batch options = [])
    (answered : ∀ limit offset, interruption.failure (.fetchIdents limit offset) databases = none)
    (rounds : Nat) :
    (copyRounds options (rounds + 1) counters).run (serving interruption) databases =
      (transactionEnd options 0 counters).run (serving interruption) databases.queried := by
  have empty := atStage.nextBatch_eq.trans nothing
  rw [run_copyRounds_nothing answered rounds empty, atStage.charged_eq]

variable (interruption) in
theorem AtStage.run_settled (atStage : AtStage options stage counters databases)
    (some_ : stage.batch options ≠ [])
    (answered : ∀ limit offset, interruption.failure (.fetchIdents limit offset) databases = none)
    (spares : ∀ position < (stage.batch options).length,
      interruption.Spares (databases.queries + 1) position)
    (deletes : tableOf options ((stage.batch options).map Prod.fst) = [] ∨
      interruption.SparesDeletion (databases.queries + 1)) :
    ∃ after afterwards, AtStage options (stage.next options) after afterwards ∧
      afterwards.queries = databases.queries + 1 ∧
      ∀ rounds, (copyRounds options (rounds + 1) counters).run (serving interruption) databases =
        if interruption.stops afterwards then
          (transactionEnd options 0 after).run (serving interruption) afterwards
        else (copyRounds options rounds after).run (serving interruption) afterwards := by
  have found := atStage.nextBatch_eq
  have distinct : (databases.source.map Prod.fst).Nodup := atStage.source ▸ atStage.distinct
  rcases run_copyRounds_settled interruption atStage.toHead distinct
      (found ▸ some_) answered (found ▸ spares) (found ▸ deletes) with
    ⟨after, afterwards, settled, runs⟩
  rw [found, atStage.charged_eq] at settled
  exact ⟨after, afterwards, atStage.settled settled, settled.queries, runs⟩

end Rounds

section Struck

variable {options : Options} {interruption : Interruption} {stage : Stage M}
  {counters before : Counters} {databases start : Databases M} {done : List (Nat × M)}

/-- The command has ended with what is committed at the stage. -/
structure StoppedAt (stage : Stage M) (result : (Int × Counters) × Databases M) : Prop where
  source : result.2.source = stage.source
  committed : result.2.committed = stage.committed
  curCount : result.1.2.curCount = stage.curCount
  pending : result.2.pending = []
  closed : result.2.inTransaction = false

/-- The operation that the interruption strikes is reached in the round. -/
def Interruption.Strikes (interruption : Interruption) (options : Options) (stage : Stage M) :
    Prop :=
  match interruption with
  | .get _ position _ | .insert _ position _ => position < (stage.batch options).length
  | .delete _ _ => tableOf options ((stage.batch options).map Prod.fst) ≠ []
  | _ => True

variable (interruption counters) in
theorem run_transactionEnd_failed (several : 1 < options.eventsPerTransaction)
    (isOpen : databases.inTransaction = true) {ret : Int} (failed : ret < 0) :
    (transactionEnd options ret counters).run (serving interruption) databases =
      ((ret, counters), databases.rollback) := by
  rw [transactionEnd, if_pos several, if_pos failed, Program.run_perform]
  simp only [serving, isOpen, if_true, Program.run_done]

theorem run_transactionEnd_succeeded (several : 1 < options.eventsPerTransaction)
    (isOpen : databases.inTransaction = true) :
    (transactionEnd options 0 counters).run (serving interruption) databases =
      ((0, { counters with curCount := counters.curCount + counters.eventNo }),
        databases.commit) := by
  rw [transactionEnd, if_pos several, if_neg (Int.lt_irrefl 0), Program.run_perform]
  simp only [serving, isOpen, if_true, Program.run_done]

variable (interruption) in
theorem AtStage.run_end (atStage : AtStage options stage counters databases)
    (several : 1 < options.eventsPerTransaction) :
    ∃ result, StoppedAt stage result ∧ result.1.1 = 0 ∧ result.2.queries = databases.queries ∧
      (transactionEnd options 0 counters).run (serving interruption) databases = result := by
  refine ⟨_, ⟨atStage.source, ?_, ?_, rfl, rfl⟩, rfl, rfl,
    run_transactionEnd_succeeded several (atStage.opened several)⟩
  · show databases.committed ++ databases.pending = stage.committed
    rw [atStage.pending, List.append_nil, atStage.committed]
  · show counters.curCount + counters.eventNo = stage.curCount
    rw [atStage.events, Nat.add_zero, atStage.curCount]

theorem AtStage.queried (atStage : AtStage options stage counters databases) :
    AtStage options stage counters databases.queried :=
  ⟨⟨atStage.positive, atStage.events, atStage.pending, atStage.opened⟩, atStage.source,
    atStage.committed, atStage.curCount, atStage.limitCopy, atStage.distinct⟩

/-- A batch that ends with an error aborts the transaction. -/
theorem AtStage.run_failed (atStage : AtStage options stage counters databases)
    (several : 1 < options.eventsPerTransaction) (some_ : stage.batch options ≠ [])
    (answered : ∀ limit offset, interruption.failure (.fetchIdents limit offset) databases = none)
    {ret : Int} {after : Counters} {afterwards : Databases M} (failed : ret < 0)
    (isOpen : afterwards.inTransaction = true)
    (copied : (copyIterate options ((stage.batch options).map Prod.fst) 0 [] counters).run
      (serving interruption) databases.queried = ((ret, after), afterwards)) (rounds : Nat) :
    (copyRounds options (rounds + 1) counters).run (serving interruption) databases =
      ((ret, after), afterwards.rollback) := by
  have positive : ¬ (Batch.ofMessages (stage.batch options)).count ≤ 0 := by
    have length := List.length_pos_iff.mpr some_
    show ¬ ((stage.batch options).length : Int) ≤ 0
    omega
  rw [copyRounds, run_fetchMessageIdentsLimited answered, atStage.nextBatch_eq, atStage.charged_eq]
  simp only [if_neg positive, Program.run_bind, idents_ofMessages, last_ofMessages, copied]
  rw [if_pos failed]
  exact run_transactionEnd_failed _ _ several isOpen failed

/-- Within the first transaction of a batch nothing of it is committed. -/
theorem Copying.committed_eq (copying : Copying options start before done counters databases)
    (first : done.length < options.eventsPerTransaction) :
    databases.committed = start.committed ∧ counters.curCount = before.curCount := by
  have events := copying.events first
  have waiting := copying.waiting.trans events
  have counted := copying.counted
  constructor
  · exact (List.append_inj' copying.inserted waiting).1
  · omega

/-- The message of a batch at which an operation is struck. -/
theorem run_copyIterate_struck (initial : Copying options start before [] counters start)
    (distinct : (start.source.map Prod.fst).Nodup) {batch : List (Nat × M)}
    (present : batch ⊆ start.source) (fresh : (batch.map Prod.fst).Nodup) {round position : Nat}
    {error : ErrorCode} (inRound : start.queries = round + 1) (inBatch : position < batch.length)
    (strikes : interruption = .get round position error ∨
      interruption = .insert round position error) :
    ∃ after afterwards, Copying options start before (batch.take position) after afterwards ∧
      (copyIterate options (batch.map Prod.fst) 0 [] counters).run (serving interruption) start =
        ((error.code, after), afterwards) := by
  have split : batch.take position ++ batch[position] :: batch.drop (position + 1) = batch := by
    rw [List.cons_getElem_drop_succ, List.take_append_drop]
  have length : (batch.take position).length = position := by
    rw [List.length_take]
    omega
  have earlier : ∀ earlier < (batch.take position).length,
      interruption.Spares start.queries earlier := by
    rw [length]
    intro earlier isBefore
    rcases strikes with rfl | rfl <;> exact fun struck => absurd struck.2 (Nat.ne_of_lt isBefore)
  rcases run_copyIterate_append initial distinct (batch.take position)
      (batch[position] :: batch.drop (position + 1)) (split.symm ▸ present)
      (split.symm ▸ fresh) earlier 0 with ⟨after, afterwards, copying, runs⟩
  refine ⟨after, afterwards, copying, ?_⟩
  have queries : afterwards.queries = round + 1 := copying.queries.trans inRound
  have copied : afterwards.copied = position := copying.copied.trans length
  rw [split] at runs
  rw [runs, List.map_cons, copyIterate, Program.run_perform]
  rcases strikes with rfl | rfl
  · simp only [serving, Interruption.failure, queries, copied, and_self, if_true, Program.run_done]
  · have isPresent : batch[position] ∈ start.source := present (List.getElem_mem inBatch)
    have isFresh : batch[position].1 ∉ (batch.take position).map Prod.fst := by
      rw [← split, List.map_append, List.nodup_append] at fresh
      intro isDone
      exact fresh.2.2 _ isDone _ (List.mem_cons_self) rfl
    simp only [serving, Interruption.failure, copying.find distinct isPresent isFresh,
      Program.run_perform, queries, copied, and_self, if_true, Option.elim_some,
      if_pos error.negative, Program.run_done]

/-- The deletion at the end of a batch is struck: the batch has been committed. -/
theorem run_copyIterate_struck_deletion (initial : Copying options start before [] counters start)
    (distinct : (start.source.map Prod.fst).Nodup) {batch : List (Nat × M)}
    (present : batch ⊆ start.source) (fresh : (batch.map Prod.fst).Nodup) {round : Nat}
    {error : ErrorCode} (inRound : start.queries = round + 1)
    (table : tableOf options (batch.map Prod.fst) ≠ []) (some_ : batch ≠ [])
    (strikes : interruption = .delete round error) :
    ∃ after afterwards, Progress options start before batch after afterwards ∧
      afterwards.pending = [] ∧ after.curCount = before.curCount + batch.length ∧
      afterwards.inTransaction = true ∧
      (copyIterate options (batch.map Prod.fst) 0 [] counters).run (serving interruption) start =
        ((-1, after), afterwards) := by
  subst strikes
  have moves : options.deleteCopied = true := by
    by_contra copies
    exact table (if_neg copies)
  have spares : ∀ position < batch.length,
      (Interruption.delete round error).Spares start.queries position := fun _ _ => trivial
  rcases run_copyIterate_append initial distinct batch [] (by simpa using present)
    (by simpa using fresh) spares 0 with ⟨middle, between, copying, sameRun⟩
  rw [List.append_nil] at sameRun
  rw [sameRun, List.map_nil, copyIterate]
  rcases run_flush_nothing (.delete round error) copying fun counters =>
      if tableOf options (batch.map Prod.fst) = [] then .done ((0 : Int), counters)
      else .perform (.deleteFromList (tableOf options (batch.map Prod.fst))) fun count =>
        .done (if count < 0 then -1 else 0, counters) with
    ⟨after, afterwards, ⟨progress, pending, _, counted, opened⟩, flushed⟩
  refine ⟨after, afterwards, progress, pending, counted, opened (.inr some_), ?_⟩
  have queries : afterwards.queries = round + 1 := progress.queries.trans inRound
  have partly : (tableOf options (batch.map Prod.fst)).length < deleteTableSize := by
    rw [length_tableOf moves]
    exact Nat.mod_lt _ (by decide)
  rw [flushed]
  simp only [if_neg table, Program.run_perform, serving, Interruption.failure, queries, partly,
    and_self, if_true, Option.elim_some, if_pos error.negative, Program.run_done]

end Struck

section Interrupted

variable {options : Options} {interruption : Interruption} {stage : Stage M}
  {counters : Counters} {databases : Databases M}

theorem Stage.batch_sublist (options : Options) (stage : Stage M) :
    (stage.batch options).Sublist stage.source := by
  rw [Stage.batch, nextBatch]
  exact window_sublist _ _ _

theorem Stage.length_batch_le (events : options.eventsPerTransaction < 2 ^ 31)
    (stage : Stage M) : (stage.batch options).length ≤ options.eventsPerTransaction := by
  have isLimit : toCInt options.eventsPerTransaction = options.eventsPerTransaction :=
    toCInt_of_range (by omega) (by omega)
  have noCount : (-1 : Int) < 0 := by decide
  rw [Stage.batch, nextBatch, if_pos noCount, isLimit, window, if_neg (by omega),
    List.length_take, Int.toNat_natCast]
  exact Nat.min_le_left _ _

theorem Stage.next_of_nothing (nothing : stage.batch options = []) :
    stage.next options = stage := by
  have keepsAll : (stage.source.filter fun entry =>
      entry.1 ∉ ([] : List (Nat × M)).map Prod.fst) = stage.source :=
    List.filter_eq_self.mpr (by simp)
  rw [Stage.next, nothing, List.append_nil, List.length_nil, Nat.add_zero, remaining, keepsAll,
    ite_self]

theorem AtStage.copying (atStage : AtStage options stage counters databases) :
    Copying options databases.queried counters [] counters databases.queried := by
  have copying := atStage.toHead.copying 0
  rwa [atStage.charged_eq] at copying

theorem AtStage.struck_message (atStage : AtStage options stage counters databases)
    (several : 1 < options.eventsPerTransaction) (events : options.eventsPerTransaction < 2 ^ 31)
    {position : Nat} {error : ErrorCode} (inBatch : position < (stage.batch options).length)
    (strikes : interruption = .get databases.queries position error ∨
      interruption = .insert databases.queries position error) (rounds : Nat) :
    ∃ result, (copyRounds options (rounds + 1) counters).run (serving interruption) databases =
        result ∧ StoppedAt (stage.interrupted options interruption) result := by
  have some_ : stage.batch options ≠ [] := List.ne_nil_of_length_pos (Nat.zero_lt_of_lt inBatch)
  have answered : ∀ limit offset,
      interruption.failure (.fetchIdents limit offset : Op M) databases = none := by
    rcases strikes with rfl | rfl <;> exact fun _ _ => rfl
  have among : (stage.batch options).Sublist databases.queried.source :=
    (stage.batch_sublist options).trans (by rw [← atStage.source]; exact List.Sublist.refl _)
  have distinct : (databases.queried.source.map Prod.fst).Nodup := atStage.source ▸ atStage.distinct
  rcases run_copyIterate_struck atStage.copying distinct among.subset
      (distinct.sublist (among.map Prod.fst)) rfl inBatch strikes with
    ⟨after, afterwards, copying, copied⟩
  have room := Stage.length_batch_le events stage
  have first : ((stage.batch options).take position).length < options.eventsPerTransaction := by
    rw [List.length_take]
    omega
  rcases copying.committed_eq first with ⟨committed, counted⟩
  refine ⟨_, atStage.run_failed several some_ answered error.negative
    (copying.opened (.inl several)) copied rounds, ?_⟩
  have source : (stage.interrupted options interruption).source =
      stage.sourceBehind options ((stage.batch options).take position) := by
    rcases strikes with rfl | rfl <;> rfl
  have others : (stage.interrupted options interruption).committed = stage.committed ∧
      (stage.interrupted options interruption).curCount = stage.curCount := by
    rcases strikes with rfl | rfl <;> exact ⟨rfl, rfl⟩
  refine ⟨?_, ?_, ?_, rfl, rfl⟩
  · rw [source, Stage.sourceBehind, ← atStage.source]
    exact copying.source
  · exact committed.trans (atStage.committed.trans others.1.symm)
  · exact counted.trans (atStage.curCount.trans others.2.symm)

theorem AtStage.struck_deletion (atStage : AtStage options stage counters databases)
    (several : 1 < options.eventsPerTransaction) {error : ErrorCode}
    (table : tableOf options ((stage.batch options).map Prod.fst) ≠ []) (rounds : Nat) :
    ∃ result, (copyRounds options (rounds + 1) counters).run
        (serving (.delete databases.queries error)) databases = result ∧
      StoppedAt (stage.interrupted options (.delete databases.queries error)) result := by
  have some_ : stage.batch options ≠ [] := by
    intro nothing
    apply table
    rw [nothing, tableOf, List.map_nil, List.drop_nil, ite_self]
  have among : (stage.batch options).Sublist databases.queried.source :=
    (stage.batch_sublist options).trans (by rw [← atStage.source]; exact List.Sublist.refl _)
  have distinct : (databases.queried.source.map Prod.fst).Nodup := atStage.source ▸ atStage.distinct
  rcases run_copyIterate_struck_deletion atStage.copying distinct among.subset
      (distinct.sublist (among.map Prod.fst)) rfl table some_ rfl with
    ⟨after, afterwards, progress, pending, counted, isOpen, copied⟩
  refine ⟨_, atStage.run_failed several some_ (fun _ _ => rfl) (by decide) isOpen copied rounds, ?_⟩
  have inserted := progress.inserted
  rw [pending, List.append_nil] at inserted
  refine ⟨?_, ?_, ?_, rfl, rfl⟩
  · rw [Stage.interrupted, Stage.sourceBehind, ← atStage.source]
    exact progress.source
  · rw [Stage.interrupted, Stage.next, ← atStage.committed]
    exact inserted
  · rw [Stage.interrupted, Stage.next, ← atStage.curCount]
    exact counted

theorem AtStage.struck_fetch (atStage : AtStage options stage counters databases)
    (several : 1 < options.eventsPerTransaction) {error : ErrorCode} (rounds : Nat) :
    ∃ result, (copyRounds options (rounds + 1) counters).run
        (serving (.fetch databases.queries error)) databases = result ∧
      StoppedAt (stage.interrupted options (.fetch databases.queries error)) result := by
  have isOpen : databases.queried.inTransaction = true := atStage.opened several
  have failed := run_transactionEnd_failed (.fetch databases.queries error) counters several
    isOpen error.negative
  refine ⟨((error.code, counters), databases.queried.rollback), ?_, ?_⟩
  · rw [copyRounds, fetchMessageIdentsLimited, Program.run_perform]
    simp only [serving, Interruption.failure, if_true, Option.elim_some]
    exact failed
  · exact ⟨atStage.source, atStage.committed, atStage.curCount, rfl, rfl⟩

theorem AtStage.struck_signal (atStage : AtStage options stage counters databases)
    (several : 1 < options.eventsPerTransaction) (rounds : Nat) :
    ∃ result, (copyRounds options (rounds + 1) counters).run
        (serving (.signal databases.queries)) databases = result ∧
      StoppedAt (stage.interrupted options (.signal databases.queries)) result := by
  by_cases nothing : stage.batch options = []
  · rcases atStage.queried.run_end (.signal databases.queries) several with
      ⟨result, stopped, _, _, ends⟩
    refine ⟨result, ?_, ?_⟩
    · rw [atStage.run_last nothing (fun _ _ => rfl)]
      exact ends
    · rw [Stage.interrupted, Stage.next_of_nothing nothing]
      exact stopped
  · rcases atStage.run_settled (.signal databases.queries) nothing
        (fun _ _ => rfl) (fun _ _ => trivial) (.inr trivial) with
      ⟨after, afterwards, behind, queries, runs⟩
    rcases behind.run_end (.signal databases.queries) several with
      ⟨result, stopped, _, _, ends⟩
    have signal : (Interruption.signal databases.queries).stops afterwards = true := by
      simp only [Interruption.stops, queries, decide_true]
    refine ⟨result, ?_, stopped⟩
    rw [runs, if_pos signal, ends]

/-- A run behind the round of the interruption ends without an error. -/
theorem AtStage.quiet (atStage : AtStage options stage counters databases)
    (several : 1 < options.eventsPerTransaction)
    (behind : ∀ round, interruption.round = some round → round < databases.queries)
    (silent : ∀ databases : Databases M, interruption.stops databases = false) (rounds : Nat) :
    ¬ Reports interruption
      ((copyRounds options rounds counters).run (serving interruption) databases) := by
  induction rounds generalizing stage counters databases with
  | zero =>
      rintro (failed | stops)
      · exact absurd failed (Int.lt_irrefl 0)
      · exact absurd stops (by rw [silent]; exact Bool.false_ne_true)
  | succ rounds ih =>
      have spared : interruption.round ≠ some databases.queries := fun here =>
        Nat.lt_irrefl _ (behind _ here)
      by_cases nothing : stage.batch options = []
      · rcases atStage.queried.run_end interruption several with
          ⟨result, _, succeeds, _, ends⟩
        rw [atStage.run_last nothing (failure_fetchIdents spared), ends]
        rintro (failed | stops)
        · omega
        · exact absurd stops (by rw [silent]; exact Bool.false_ne_true)
      · rcases atStage.run_settled interruption nothing (failure_fetchIdents spared)
            (fun position _ => spares_of_round spared position)
            (.inr (sparesDeletion_of_round spared)) with ⟨after, afterwards, next, queries, runs⟩
        rw [runs, silent, if_neg Bool.false_ne_true]
        exact ih next fun round isRound => by
          have := behind round isRound
          omega

/-- An interruption whose operation is not reached in its round interrupts nothing. -/
theorem AtStage.strikes (atStage : AtStage options stage counters databases)
    (several : 1 < options.eventsPerTransaction)
    (here : interruption.round = some databases.queries) {rounds : Nat}
    (reports : Reports interruption
      ((copyRounds options (rounds + 1) counters).run (serving interruption) databases)) :
    interruption.Strikes options stage := by
  by_contra missed
  have misses : (∀ limit offset,
        interruption.failure (.fetchIdents limit offset : Op M) databases = none) ∧
      (∀ position < (stage.batch options).length,
        interruption.Spares (databases.queries + 1) position) ∧
      (tableOf options ((stage.batch options).map Prod.fst) = [] ∨
        interruption.SparesDeletion (databases.queries + 1)) ∧
      ∀ databases : Databases M, interruption.stops databases = false := by
    cases interruption with
    | none | signal | fetch => exact absurd trivial missed
    | get round struck error | insert round struck error =>
        refine ⟨fun _ _ => rfl, ?_, .inr trivial, fun _ => rfl⟩
        intro position inBatch isStruck
        exact missed (isStruck.2 ▸ inBatch)
    | delete round error =>
        refine ⟨fun _ _ => rfl, fun _ _ => trivial, .inl ?_, fun _ => rfl⟩
        exact Decidable.not_not.mp missed
  rcases misses with ⟨answered, spares, deletes, silent⟩
  refine absurd reports ?_
  by_cases nothing : stage.batch options = []
  · rcases atStage.queried.run_end interruption several with
      ⟨result, _, succeeds, _, ends⟩
    rw [atStage.run_last nothing answered, ends]
    rintro (failed | stops)
    · omega
    · exact absurd stops (by rw [silent]; exact Bool.false_ne_true)
  · rcases atStage.run_settled interruption nothing answered spares deletes with
      ⟨after, afterwards, next, queries, runs⟩
    rw [runs, silent, if_neg Bool.false_ne_true]
    refine next.quiet several (fun round isRound => ?_) silent rounds
    rw [here] at isRound
    rcases Option.some.inj isRound with rfl
    omega

theorem AtStage.struck (atStage : AtStage options stage counters databases)
    (several : 1 < options.eventsPerTransaction) (events : options.eventsPerTransaction < 2 ^ 31)
    (here : interruption.round = some databases.queries)
    (strikes : interruption.Strikes options stage) (rounds : Nat) :
    ∃ result, (copyRounds options (rounds + 1) counters).run (serving interruption) databases =
        result ∧ StoppedAt (stage.interrupted options interruption) result := by
  cases interruption with
  | none => exact absurd here nofun
  | signal round =>
      obtain rfl : round = databases.queries := Option.some.inj here
      exact atStage.struck_signal several rounds
  | fetch round error =>
      obtain rfl : round = databases.queries := Option.some.inj here
      exact atStage.struck_fetch several rounds
  | get round position error =>
      obtain rfl : round = databases.queries := Option.some.inj here
      exact atStage.struck_message several events strikes (.inl rfl) rounds
  | insert round position error =>
      obtain rfl : round = databases.queries := Option.some.inj here
      exact atStage.struck_message several events strikes (.inr rfl) rounds
  | delete round error =>
      obtain rfl : round = databases.queries := Option.some.inj here
      exact atStage.struck_deletion several strikes rounds

/-- A run that reports how to resume has stopped at the stage of its interruption. -/
theorem AtStage.interrupted (atStage : AtStage options stage counters databases)
    (several : 1 < options.eventsPerTransaction) (events : options.eventsPerTransaction < 2 ^ 31)
    {ahead : Nat} (isRound : interruption.round = some (databases.queries + ahead)) {rounds : Nat}
    (reports : Reports interruption
      ((copyRounds options rounds counters).run (serving interruption) databases)) :
    interruption.Strikes options (stage.after options ahead) ∧
      StoppedAt ((stage.after options ahead).interrupted options interruption)
        ((copyRounds options rounds counters).run (serving interruption) databases) := by
  have notYet : ∀ later : Databases M, later.queries ≤ databases.queries + ahead →
      interruption.stops later = false := by
    intro later early
    cases interruption with
    | signal round =>
        obtain rfl : round = databases.queries + ahead := Option.some.inj isRound
        rw [Interruption.stops, decide_eq_false_iff_not]
        omega
    | _ => rfl
  induction rounds generalizing stage counters databases ahead with
  | zero =>
      have early := notYet databases (Nat.le_add_right _ _)
      rcases reports with failed | stops
      · exact absurd failed (Int.lt_irrefl 0)
      · exact absurd (early.symm.trans stops) Bool.false_ne_true
  | succ rounds ih =>
      cases ahead with
      | zero =>
          have strikes := atStage.strikes several isRound reports
          rcases atStage.struck several events isRound strikes rounds with ⟨result, runs, stopped⟩
          exact ⟨strikes, runs ▸ stopped⟩
      | succ ahead =>
          have spared : interruption.round ≠ some databases.queries := by
            rw [isRound]
            intro here
            have := Option.some.inj here
            omega
          by_cases nothing : stage.batch options = []
          · rcases atStage.queried.run_end interruption several with
              ⟨result, _, succeeds, queries, ends⟩
            have inRound : databases.queried.queries ≤ databases.queries + (ahead + 1) := by
              show databases.queries + 1 ≤ databases.queries + (ahead + 1)
              omega
            have early := notYet result.2 (queries.trans_le inRound)
            rw [atStage.run_last nothing (failure_fetchIdents spared), ends] at reports
            rcases reports with failed | stops
            · omega
            · exact absurd (early.symm.trans stops) Bool.false_ne_true
          · rcases atStage.run_settled interruption nothing (failure_fetchIdents spared)
                (fun position _ => spares_of_round spared position)
                (.inr (sparesDeletion_of_round spared)) with
              ⟨after, afterwards, next, queries, runs⟩
            have early := notYet afterwards (by omega)
            rw [runs, early, if_neg Bool.false_ne_true] at reports ⊢
            have later : databases.queries + (ahead + 1) = afterwards.queries + ahead := by omega
            rw [later] at isRound notYet
            exact ih next isRound reports notYet

end Interrupted

end RequiemDB.Admin
