import Mathlib.Data.List.Perm.Subperm
import RequiemDB.Admin.Stages

/-!
# Resuming a copy or a move

Behind an error or a signal `main` prints an offset: the one of the command, and the events
that are committed. A copy with the printed offset finds the batches that the interrupted
one would have found next. A move has taken the messages that it counts out of the source,
so the printed offset skips as many messages that it has not seen.
-/

namespace RequiemDB.Admin

open Lib

variable {M : Type}

/-- `set_offset` with the number that `strtoll` reads. -/
def setOffset (number : Int) : Option Int :=
  let offset := max (-2 ^ 63) (min number (2 ^ 63 - 1))
  if offset = -2 ^ 63 ∨ offset = 2 ^ 63 - 1 then none else some (max offset 0)

/-- The `--offset` that `main` prints. -/
def printedOffset (options : Options) (curCount : Nat) : Nat :=
  ((if options.offset = -1 then (curCount : Int) else curCount + options.offset) % 2 ^ 64).toNat

/-- Without interruption and without `--count` the command ends with the contents. -/
def Leaves (options : Options) (databases : Databases M) (contents : Contents M) : Prop :=
  ∃ result, EndsWith .none options (-1) databases result ∧
    (result.2.source, result.2.committed) = contents

/-- The same command again, with the offset that was printed; a refused one changes nothing. -/
def LeavesAgain (options : Options) (stopped : (Int × Counters) × Databases M)
    (contents : Contents M) : Prop :=
  match setOffset (printedOffset options stopped.1.2.curCount) with
  | some offset => Leaves { options with offset } stopped.2 contents
  | none => (stopped.2.source, stopped.2.committed) = contents

section Ends

variable {options : Options} {stage : Stage M} {contents other : Contents M}
  {counters : Counters} {databases : Databases M}

theorem Stage.ends_next_iff :
    Stage.Ends options (stage.next options) contents ↔ Stage.Ends options stage contents := by
  by_cases nothing : stage.batch options = []
  · rw [Stage.next_of_nothing nothing]
  · constructor
    · exact .next nothing
    · rintro (empty | ⟨_, later⟩)
      · exact absurd empty nothing
      · exact later

theorem Stage.ends_after_iff (rounds : Nat) :
    Stage.Ends options (stage.after options rounds) contents ↔
      Stage.Ends options stage contents := by
  induction rounds generalizing stage with
  | zero => exact Iff.rfl
  | succ rounds ih => exact ih.trans Stage.ends_next_iff

theorem Stage.ends_of_nothing (nothing : stage.batch options = []) :
    Stage.Ends options stage contents ↔ (stage.source, stage.committed) = contents := by
  constructor
  · rintro (_ | ⟨some_, _⟩)
    · rfl
    · exact absurd nothing some_
  · rintro rfl
    exact .last nothing

/-- The rounds leave what is committed, and add every batch. -/
theorem Stage.Ends.grows (ends : Stage.Ends options stage contents) :
    stage.committed.length + (stage.batch options).length ≤ contents.2.length := by
  induction ends with
  | @last stage nothing =>
      have none_ : (stage.batch options).length = 0 := List.length_eq_zero_iff.mpr nothing
      show stage.committed.length + _ ≤ stage.committed.length
      omega
  | @next stage _ _ _ ih =>
      have appended : (stage.next options).committed.length =
          stage.committed.length + (stage.batch options).length := by
        rw [Stage.next, List.length_append]
      exact Nat.le_trans (Nat.le_of_eq appended.symm) (Nat.le_trans (Nat.le_add_right _ _) ih)

/-- The run of the loop with any bound that is great enough. -/
theorem Stage.Ends.run (ends : Stage.Ends options stage contents)
    (several : 1 < options.eventsPerTransaction)
    (atStage : AtStage options stage counters databases) :
    ∃ enough result, (∀ rounds ≥ enough,
        (copyRounds options rounds counters).run (serving .none) databases = result) ∧
      (result.2.source, result.2.committed) = contents := by
  induction ends generalizing counters databases with
  | last nothing =>
      rcases atStage.queried.run_end .none several with
        ⟨result, stopped, _, _, isEnd⟩
      refine ⟨1, result, fun rounds enough => ?_, by rw [stopped.source, stopped.committed]⟩
      rcases Nat.exists_eq_succ_of_ne_zero (Nat.ne_of_gt enough) with ⟨fewer, rfl⟩
      rw [← isEnd]
      exact atStage.run_last nothing (fun _ _ => rfl) fewer
  | next some_ _ ih =>
      rcases atStage.run_settled .none some_ (fun _ _ => rfl)
          (fun _ _ => trivial) (.inr trivial) with ⟨after, afterwards, next, _, runs⟩
      rcases ih next with ⟨bound, result, isEnd, isContents⟩
      refine ⟨bound + 1, result, fun rounds enough => ?_, isContents⟩
      rcases Nat.exists_eq_succ_of_ne_zero (Nat.ne_of_gt (Nat.zero_lt_of_lt enough)) with
        ⟨fewer, rfl⟩
      exact (runs fewer).trans (isEnd fewer (Nat.le_of_succ_le_succ enough))

/-- A loop that does not depend on the bound has ended: every round makes a query. -/
theorem AtStage.ends_of_run (atStage : AtStage options stage counters databases)
    (several : 1 < options.eventsPerTransaction) {enough : Nat}
    {result : (Int × Counters) × Databases M} (isEnd : ∀ rounds ≥ enough,
      (copyRounds options rounds counters).run (serving .none) databases = result) :
    Stage.Ends options stage (result.2.source, result.2.committed) := by
  induction enough generalizing stage counters databases with
  | zero =>
      exfalso
      have before := congrArg (fun outcome => outcome.2.queries) (isEnd 0 (Nat.le_refl 0))
      have behind := isEnd 1 (Nat.zero_le 1)
      have sameQueries : databases.queries = result.2.queries := before
      by_cases nothing : stage.batch options = []
      · rcases atStage.queried.run_end .none several with
          ⟨last, _, _, queries, ends⟩
        rw [atStage.run_last nothing (fun _ _ => rfl), ends] at behind
        subst behind
        exact Nat.succ_ne_self _ (queries.symm.trans sameQueries.symm)
      · rcases atStage.run_settled .none nothing (fun _ _ => rfl)
            (fun _ _ => trivial) (.inr trivial) with ⟨after, afterwards, _, queries, runs⟩
        have again : ((0, after), afterwards) = result := (runs 0).symm.trans behind
        subst again
        exact Nat.succ_ne_self _ (queries.symm.trans sameQueries.symm)
  | succ enough ih =>
      by_cases nothing : stage.batch options = []
      · rcases atStage.queried.run_end .none several with
          ⟨last, stopped, _, _, ends⟩
        have isLast := isEnd (enough + 1) (Nat.le_refl _)
        rw [atStage.run_last nothing (fun _ _ => rfl), ends] at isLast
        subst isLast
        rw [stopped.source, stopped.committed]
        exact .last nothing
      · rcases atStage.run_settled .none nothing (fun _ _ => rfl)
            (fun _ _ => trivial) (.inr trivial) with ⟨after, afterwards, next, _, runs⟩
        refine .next nothing (ih next fun rounds above => ?_)
        exact (runs rounds).symm.trans (isEnd (rounds + 1) (Nat.succ_le_succ above))

/-- The databases on which a command can start. -/
structure Closed (databases : Databases M) : Prop where
  closed : databases.inTransaction = false
  pending : databases.pending = []
  distinct : (databases.source.map Prod.fst).Nodup

theorem Closed.atStage (closed : Closed databases) (several : 1 < options.eventsPerTransaction) :
    AtStage options databases.stage ⟨0, 0, -1⟩ (databases.started options) where
  toHead := head_started options databases (Nat.le_of_lt several) closed.pending (-1)
  source := started_source options databases
  committed := started_committed options databases
  curCount := rfl
  limitCopy := rfl
  distinct := closed.distinct

theorem Closed.leaves_iff (closed : Closed databases)
    (several : 1 < options.eventsPerTransaction) :
    Leaves options databases contents ↔ Stage.Ends options databases.stage contents := by
  have begins := fun rounds => run_transactionStart options databases .none closed.closed
    (copyRounds options rounds ⟨0, 0, -1⟩)
  have atStage := closed.atStage several
  constructor
  · rintro ⟨result, ⟨enough, ends⟩, rfl⟩
    exact atStage.ends_of_run several fun rounds above =>
      (begins rounds).symm.trans (ends rounds above)
  · intro ends
    rcases ends.run several atStage with ⟨enough, result, isEnd, isContents⟩
    exact ⟨result, ⟨enough, fun rounds above => (begins rounds).trans (isEnd rounds above)⟩,
      isContents⟩

/-- An interrupted run has stopped at the stage of its interruption. -/
theorem Closed.interrupted {interruption : Interruption} (closed : Closed databases)
    (first : databases.queries = 0) (several : 1 < options.eventsPerTransaction)
    (events : options.eventsPerTransaction < 2 ^ 31) {stopped : (Int × Counters) × Databases M}
    (ends : EndsWith interruption options (-1) databases stopped)
    (reports : Reports interruption stopped) :
    ∃ round, interruption.round = some round ∧
      interruption.Strikes options (databases.stage.after options round) ∧
      StoppedAt ((databases.stage.after options round).interrupted options interruption)
        stopped := by
  rcases ends with ⟨enough, ends⟩
  have last := ends enough (Nat.le_refl enough)
  rw [doCmdCopyMove, run_transactionStart options databases interruption closed.closed] at last
  subst last
  have atStage := closed.atStage several
  have queries : (databases.started options).queries = 0 :=
    (started_queries options databases).trans first
  cases isRound : interruption.round with
  | none =>
      refine absurd reports (atStage.quiet several (fun round here => ?_) ?_ enough)
      · cases isRound.symm.trans here
      · cases interruption with
        | none => exact fun _ => rfl
        | _ => cases isRound
  | some round =>
      have ahead : interruption.round = some ((databases.started options).queries + round) := by
        rw [isRound, queries, Nat.zero_add]
      exact ⟨round, rfl, atStage.interrupted several events ahead reports⟩

end Ends

section Resumed

variable {options : Options} {stage : Stage M} {contents : Contents M}

/-- The offset that the query of a round has. -/
def Stage.start (options : Options) (stage : Stage M) : Int :=
  toCInt (toCInt options.offset + (if options.deleteCopied then 0 else stage.curCount : Nat))

theorem Stage.batch_eq (events : options.eventsPerTransaction < 2 ^ 31) :
    stage.batch options =
      (window (-1) (stage.start options) stage.source).take options.eventsPerTransaction := by
  have isLimit : toCInt options.eventsPerTransaction = options.eventsPerTransaction :=
    toCInt_of_range (by omega) (by omega)
  have noCount : (-1 : Int) < 0 := by decide
  rw [Stage.batch, nextBatch, if_pos noCount, isLimit, window, if_neg (by omega), window,
    if_pos noCount, Int.toNat_natCast, Stage.start]

theorem Stage.batch_eq_nil_iff (several : 1 < options.eventsPerTransaction)
    (events : options.eventsPerTransaction < 2 ^ 31) :
    stage.batch options = [] ↔ window (-1) (stage.start options) stage.source = [] := by
  rw [Stage.batch_eq events, List.take_eq_nil_iff]
  constructor
  · rintro (none_ | nothing)
    · omega
    · exact nothing
  · exact .inr

section Move

variable (moves : options.deleteCopied = true)
include moves

theorem Stage.start_move : stage.start options = toCInt (toCInt options.offset) := by
  rw [Stage.start, if_pos moves, Int.natCast_zero, Int.add_zero]

theorem Stage.ends_move_iff (several : 1 < options.eventsPerTransaction)
    (events : options.eventsPerTransaction < 2 ^ 31)
    (distinct : (stage.source.map Prod.fst).Nodup) :
    Stage.Ends options stage contents ↔
      (stage.source.take (stage.start options).toNat,
        stage.committed ++ stage.source.drop (stage.start options).toNat) = contents := by
  induction size : stage.source.length using Nat.strongRecOn generalizing stage with
  | ind length ih =>
      have isWindow := window_of_unlimited (stage.start options) stage.source
      by_cases nothing : stage.batch options = []
      · have empty := (Stage.batch_eq_nil_iff several events).mp nothing
        rw [isWindow] at empty
        rw [Stage.ends_of_nothing nothing, empty, List.append_nil,
          List.take_of_length_le (List.drop_eq_nil_iff.mp empty)]
      · have behind : stage.source.drop (stage.start options).toNat = stage.batch options ++
            (stage.source.drop (stage.start options).toNat).drop options.eventsPerTransaction := by
          rw [Stage.batch_eq events, isWindow, List.take_append_drop]
        have removes : remaining options stage.source (stage.batch options) =
            stage.source.filter fun entry => entry.1 ∉ (stage.batch options).map Prod.fst :=
          if_pos moves
        rcases filter_of_initial distinct behind with ⟨isRest, keepsFront⟩
        rw [← removes] at isRest keepsFront
        have isFront := keepsFront nothing
        have sameStart : (stage.next options).start options = stage.start options := by
          rw [Stage.start_move moves, Stage.start_move moves]
        have shorter : (stage.next options).source.length < length := by
          have total := congrArg List.length behind
          have front := congrArg List.length isFront
          have rest := congrArg List.length isRest
          have some_ := List.length_pos_iff.mpr nothing
          simp only [List.length_take, List.length_drop, List.length_append] at total front rest
          show (remaining options stage.source (stage.batch options)).length < length
          omega
        rw [← Stage.ends_next_iff, ih _ shorter (nodup_remaining distinct _) rfl, sameStart]
        show (((remaining options stage.source (stage.batch options)).take _,
          stage.committed ++ stage.batch options ++
            (remaining options stage.source (stage.batch options)).drop _) = contents) ↔ _
        rw [isFront, isRest, List.append_assoc, ← behind]

end Move

/-- The numbers of a conversion to `int` count modulo its width. -/
theorem toCInt_congr {first second : Int} (same : first % 2 ^ 32 = second % 2 ^ 32) :
    toCInt first = toCInt second := by
  rw [toCInt, toCInt, Int.bmod_def, Int.bmod_def]
  omega

theorem toCInt_emod (value : Int) : toCInt value % 2 ^ 32 = value % 2 ^ 32 := by
  rw [toCInt, Int.bmod_def]
  omega

theorem setOffset_printedOffset {curCount : Nat} {offset : Int}
    (accepted : setOffset options.offset = some options.offset)
    (again : setOffset (printedOffset options curCount) = some offset) :
    offset % 2 ^ 32 = (options.offset + curCount) % 2 ^ 32 := by
  simp only [setOffset] at accepted again
  split at accepted
  · exact absurd accepted nofun
  · split at again
    · exact absurd again nofun
    · have isOffset := Option.some.inj again
      have range := Option.some.inj accepted
      have notDefault : options.offset ≠ -1 := by omega
      rw [printedOffset, if_neg notDefault] at *
      omega

/--
What the query of the resumed run finds first is what the run itself would find next; for a
move `Stage.continues_move_iff` says when.
-/
def Stage.Continues (options : Options) (stage : Stage M) : Prop :=
  (match setOffset (printedOffset options stage.curCount) with
    | some offset => window (-1) (toCInt offset) stage.source
    | none => []) = window (-1) (stage.start options) stage.source

/-- The contents that the resumed run leaves. -/
def Stage.EndsAgain (options : Options) (stage : Stage M) (contents : Contents M) : Prop :=
  match setOffset (printedOffset options stage.curCount) with
  | some offset => Stage.Ends { options with offset } { stage with curCount := 0 } contents
  | none => (stage.source, stage.committed) = contents

/-- Two commands that find the same batches end with the same contents. -/
theorem Stage.Ends.simulated {others : Options} {related : Stage M → Stage M → Prop}
    (batches : ∀ first second, related first second →
      first.batch options = second.batch others)
    (nexts : ∀ first second, related first second →
      related (first.next options) (second.next others))
    (same : ∀ first second, related first second →
      (first.source, first.committed) = (second.source, second.committed))
    (ends : Stage.Ends options stage contents) {other : Stage M} (here : related stage other) :
    Stage.Ends others other contents := by
  induction ends generalizing other with
  | last nothing =>
      rw [same _ _ here]
      exact .last (batches _ _ here ▸ nothing)
  | next some_ _ ih => exact .next (batches _ _ here ▸ some_) (ih (nexts _ _ here))

/-- The second stage has the contents of the first one and has counted more events. -/
def Stage.Ahead (counted : Nat) (first second : Stage M) : Prop :=
  second = { first with curCount := counted + first.curCount }

/-- Behind the printed offset a copy finds the batches of the run that was interrupted. -/
theorem Stage.ends_copy_iff (copies : options.deleteCopied = false) {offset : Int}
    (same : offset % 2 ^ 32 = (options.offset + stage.curCount) % 2 ^ 32) :
    Stage.Ends { options with offset } { stage with curCount := 0 } contents ↔
      Stage.Ends options stage contents := by
  have batches : ∀ first second, Stage.Ahead stage.curCount first second →
      Stage.batch { options with offset } first = Stage.batch (M := M) options second := by
    rintro first _ rfl
    have sameStart : toCInt (toCInt offset + (first.curCount : Int)) =
        toCInt (toCInt options.offset + ((stage.curCount + first.curCount : Nat) : Int)) := by
      apply toCInt_congr
      have isFirst := toCInt_emod offset
      have isSecond := toCInt_emod options.offset
      omega
    simp only [Stage.batch, nextBatch, copies, Bool.false_eq_true, if_false, sameStart]
  have nexts : ∀ first second, Stage.Ahead stage.curCount first second →
      Stage.Ahead (M := M) stage.curCount (Stage.next { options with offset } first)
        (Stage.next options second) := by
    intro first second ahead
    have found := batches first second ahead
    subst ahead
    rw [Stage.Ahead, Stage.next, Stage.next, ← found]
    simp only [remaining, copies, Bool.false_eq_true, if_false, Nat.add_assoc]
  have contents : ∀ first second : Stage M, Stage.Ahead stage.curCount first second →
      (first.source, first.committed) = (second.source, second.committed) := by
    rintro first _ rfl
    rfl
  have here : Stage.Ahead stage.curCount { stage with curCount := 0 } stage := rfl
  constructor
  · intro ends
    exact ends.simulated batches nexts contents here
  · intro ends
    exact ends.simulated (fun first second ahead => (batches second first ahead).symm)
      (fun first second ahead => nexts second first ahead)
      (fun first second ahead => (contents second first ahead).symm) here

end Resumed

section Resumes

variable {options : Options} {stage : Stage M} {contents : Contents M}
  {interruption : Interruption}

/-- What is behind an offset tells how much is in front of it. -/
theorem take_eq_of_drop_eq {α : Type} {messages : List α} {first second : Nat}
    (same : messages.drop first = messages.drop second) :
    messages.take first = messages.take second := by
  have front := List.take_append_drop first messages
  rw [same] at front
  exact List.append_cancel_right (front.trans (List.take_append_drop second messages).symm)

/-- From a stage the resumed run and the interrupted one would leave the same. -/
theorem Stage.resumes_iff (accepted : setOffset options.offset = some options.offset)
    (several : 1 < options.eventsPerTransaction) (events : options.eventsPerTransaction < 2 ^ 31)
    (distinct : (stage.source.map Prod.fst).Nodup) :
    (∀ contents, Stage.Ends options stage contents ↔ Stage.EndsAgain options stage contents) ↔
      stage.Continues options := by
  cases again : setOffset (printedOffset options stage.curCount) with
  | none =>
      have refused : ∀ contents, Stage.EndsAgain options stage contents ↔
          (stage.source, stage.committed) = contents := by
        intro contents
        rw [Stage.EndsAgain, again]
      have nothing : stage.Continues options ↔ stage.batch options = [] := by
        rw [Stage.Continues, again, Stage.batch_eq_nil_iff several events, eq_comm]
      rw [nothing]
      constructor
      · intro same
        have grows : stage.committed.length + (stage.batch options).length ≤
            stage.committed.length := ((same _).mpr ((refused _).mpr rfl)).grows
        exact List.length_eq_zero_iff.mp (by omega)
      · intro empty contents
        rw [refused, Stage.ends_of_nothing empty]
  | some offset =>
      have isOffset := setOffset_printedOffset accepted again
      have resumed : ∀ contents, Stage.EndsAgain options stage contents ↔
          Stage.Ends { options with offset } { stage with curCount := 0 } contents := by
        intro contents
        rw [Stage.EndsAgain, again]
      rw [Stage.Continues, again]
      cases moves : options.deleteCopied with
      | false =>
          refine iff_of_true (fun contents => ?_) ?_
          · exact (Stage.ends_copy_iff moves isOffset).symm.trans (resumed contents).symm
          · have sameStart : toCInt offset = stage.start options := by
              apply toCInt_congr
              have own := toCInt_emod options.offset
              rw [if_neg (by rw [moves]; exact Bool.false_ne_true)]
              omega
            exact congrArg (window (-1) · stage.source) sameStart
      | true =>
          have starts : Stage.start { options with offset } { stage with curCount := 0 } =
              toCInt offset := by
            rw [Stage.start, if_pos moves, Int.natCast_zero, Int.add_zero]
            exact toCInt_congr (toCInt_emod offset)
          have again_iff : ∀ contents, Stage.EndsAgain options stage contents ↔
              (stage.source.take (toCInt offset).toNat,
                stage.committed ++ stage.source.drop (toCInt offset).toNat) = contents := by
            intro contents
            rw [resumed, ← starts]
            exact Stage.ends_move_iff moves several events distinct
          have isWindow := window_of_unlimited (toCInt offset) stage.source
          rw [window_of_unlimited (stage.start options)]
          constructor
          · intro same
            show window (-1) (toCInt offset) stage.source = _
            rw [isWindow]
            have whole := (same _).mp ((Stage.ends_move_iff moves several events distinct).mpr rfl)
            exact List.append_cancel_left (Prod.mk.inj ((again_iff _).mp whole)).2
          · intro same contents
            have sameRest := isWindow.symm.trans same
            rw [Stage.ends_move_iff moves several events distinct, again_iff, sameRest,
              take_eq_of_drop_eq sameRest]

/-- Within the range of an `int` a move resumes before its first commit, or when it is done. -/
theorem Stage.continues_move_iff (moves : options.deleteCopied = true)
    (positive : 0 ≤ options.offset) (range : options.offset + stage.curCount < 2 ^ 31) :
    stage.Continues options ↔ stage.curCount = 0 ∨ stage.source.drop options.offset.toNat = [] := by
  have notDefault : options.offset ≠ -1 := by omega
  have printed : (printedOffset options stage.curCount : Int) =
      stage.curCount + options.offset := by
    rw [printedOffset, if_neg notDefault]
    omega
  have again : setOffset (printedOffset options stage.curCount) =
      some (stage.curCount + options.offset) := by
    rw [printed, setOffset, if_neg (by omega)]
    exact congrArg some (by omega)
  have start : stage.start options = options.offset := by
    rw [Stage.start_move moves, toCInt_of_range positive (by omega),
      toCInt_of_range positive (by omega)]
  have sum : (stage.curCount + options.offset).toNat =
      options.offset.toNat + stage.curCount := by omega
  rw [Stage.Continues, again, start]
  show window (-1) (toCInt (stage.curCount + options.offset)) stage.source = _ ↔ _
  rw [toCInt_of_range (by omega) (by omega), window_of_unlimited, window_of_unlimited, sum,
    ← List.drop_drop]
  generalize stage.source.drop options.offset.toNat = rest
  constructor
  · intro same
    have length := congrArg List.length same
    rw [List.length_drop] at length
    rw [← List.length_eq_zero_iff]
    omega
  · rintro (none_ | nothing)
    · rw [none_, List.drop_zero]
    · rw [nothing, List.drop_nil]

/-- No message is lost by the interruption or left behind in the source. -/
def Interruption.Intact (interruption : Interruption) (options : Options) : Prop :=
  match interruption with
  | .get _ position _ | .insert _ position _ =>
      options.deleteCopied = true → position < deleteTableSize
  | .delete _ _ => False
  | _ => True

def Stage.total (stage : Stage M) : Nat := stage.source.length + stage.committed.length

/-- A move keeps the number of messages in the two databases. -/
theorem Stage.Ends.total (ends : Stage.Ends options stage contents)
    (moves : options.deleteCopied = true) (several : 1 < options.eventsPerTransaction)
    (events : options.eventsPerTransaction < 2 ^ 31)
    (distinct : (stage.source.map Prod.fst).Nodup) :
    contents.1.length + contents.2.length = stage.total := by
  rw [Stage.ends_move_iff moves several events distinct] at ends
  subst ends
  simp only [Stage.total, List.length_take, List.length_append, List.length_drop]
  omega

theorem Stage.EndsAgain.total (ends : Stage.EndsAgain options stage contents)
    (moves : options.deleteCopied = true) (several : 1 < options.eventsPerTransaction)
    (events : options.eventsPerTransaction < 2 ^ 31)
    (distinct : (stage.source.map Prod.fst).Nodup) :
    contents.1.length + contents.2.length = stage.total := by
  rw [Stage.EndsAgain] at ends
  split at ends
  · exact ends.total moves several events distinct
  · subst ends
    rfl

theorem nodup_interrupted (distinct : (stage.source.map Prod.fst).Nodup) :
    ((stage.interrupted options interruption).source.map Prod.fst).Nodup := by
  cases interruption with
  | none | fetch => exact distinct
  | signal => exact nodup_remaining distinct _
  | get | insert | delete => exact distinct.sublist (List.filter_sublist.map Prod.fst)

theorem length_le_filter {source : List (Nat × M)} (distinct : (source.map Prod.fst).Nodup)
    (idents : List Nat) :
    source.length ≤ (source.filter fun entry => entry.1 ∉ idents).length + idents.length := by
  have split := source.length_eq_countP_add_countP fun entry => decide (entry.1 ∈ idents)
  rw [List.countP_eq_length_filter, List.countP_eq_length_filter] at split
  have among : ((source.filter fun entry => entry.1 ∈ idents).map Prod.fst) ⊆ idents := by
    intro ident found
    rcases List.mem_map.mp found with ⟨entry, present, rfl⟩
    simpa using (List.mem_filter.mp present).2
  have fewer := (List.subperm_of_subset
    (distinct.sublist (List.filter_sublist.map Prod.fst)) among).length_le
  rw [List.length_map] at fewer
  simp only [decide_eq_true_eq] at split
  omega

/-- An interruption that does not leave the messages intact changes their number. -/
theorem Stage.total_interrupted (moves : options.deleteCopied = true)
    (distinct : (stage.source.map Prod.fst).Nodup) (strikes : interruption.Strikes options stage)
    (harmful : ¬ interruption.Intact options) :
    (stage.interrupted options interruption).total ≠ stage.total := by
  have losing : ∀ position < (stage.batch options).length, deleteTableSize ≤ position →
      (stage.sourceBehind options ((stage.batch options).take position)).length <
        stage.source.length := by
    intro position inBatch full
    have first : 0 < (stage.batch options).length := Nat.zero_lt_of_lt inBatch
    refine List.length_filter_lt_length_iff_exists.mpr ⟨(stage.batch options)[0],
      (stage.batch_sublist options).subset (List.getElem_mem first), ?_⟩
    rw [decide_eq_true_eq, not_not, handedOver, if_pos moves, List.length_map, List.length_take,
      Nat.min_eq_left (Nat.le_of_lt inBatch), ← List.map_take]
    have some_ : 0 < deleteTableSize * (position / deleteTableSize) :=
      Nat.mul_pos (by decide) (Nat.div_pos full (by decide))
    refine List.mem_map_of_mem ?_
    rw [List.take_take, List.mem_take_iff_getElem]
    refine ⟨0, ?_, rfl⟩
    have inside := Nat.mul_div_le position deleteTableSize
    omega
  cases interruption with
  | none | signal | fetch => exact absurd trivial harmful
  | get round position error | insert round position error =>
      have full : deleteTableSize ≤ position :=
        Nat.not_lt.mp fun below => harmful fun _ => below
      have lost := losing position strikes full
      exact Nat.ne_of_lt (Nat.add_lt_add_right lost stage.committed.length)
  | delete round error =>
      have tail : 0 < (tableOf options ((stage.batch options).map Prod.fst)).length :=
        List.length_pos_iff.mpr strikes
      have whole := congrArg List.length
        (handedOver_append_tableOf moves ((stage.batch options).map Prod.fst))
      rw [List.length_append, List.length_map] at whole
      have kept := length_le_filter distinct
        (handedOver options ((stage.batch options).map Prod.fst))
      have source : (stage.interrupted options (.delete round error)).source =
          stage.sourceBehind options (stage.batch options) := rfl
      have committed : (stage.interrupted options (.delete round error)).committed =
          stage.committed ++ stage.batch options := rfl
      rw [Stage.total, Stage.total, source, committed, List.length_append, Stage.sourceBehind]
      omega

end Resumes

/--
The condition on the interruption: it loses no message and leaves none behind, and the printed
offset finds the messages that the run would find next.
-/
def Resumable (options : Options) (databases : Databases M) (interruption : Interruption) : Prop :=
  ∃ round, interruption.round = some round ∧ interruption.Intact options ∧
    ((databases.stage.after options round).interrupted options interruption).Continues options

section Command

variable {options : Options} {interruption : Interruption} {stage : Stage M}
  {databases : Databases M} {stopped : (Int × Counters) × Databases M}

variable (stage) in
/-- Nothing is committed or removed by a round that an intact interruption breaks off. -/
theorem Stage.interrupted_of_intact (intact : interruption.Intact options) :
    stage.interrupted options interruption = stage ∨
      stage.interrupted options interruption = stage.next options := by
  have within : ∀ position, (options.deleteCopied = true → position < deleteTableSize) →
      stage.sourceBehind options ((stage.batch options).take position) = stage.source := by
    intro position room
    have none_ : handedOver options (((stage.batch options).take position).map Prod.fst) = [] := by
      rw [handedOver]
      split
      · rename_i moves
        have length : (((stage.batch options).take position).map Prod.fst).length <
            deleteTableSize := by
          rw [List.length_map, List.length_take]
          exact Nat.lt_of_le_of_lt (Nat.min_le_left _ _) (room moves)
        rw [Nat.div_eq_of_lt length, Nat.mul_zero, List.take_zero]
      · rfl
    rw [Stage.sourceBehind, none_]
    exact List.filter_eq_self.mpr (by simp)
  cases interruption with
  | none | fetch => exact .inl rfl
  | signal => exact .inr rfl
  | get round position error | insert round position error =>
      refine .inl ?_
      rw [Stage.interrupted, within position intact]
  | delete => exact intact.elim

theorem StoppedAt.leavesAgain_iff {contents : Contents M} (stoppedAt : StoppedAt stage stopped)
    (several : 1 < options.eventsPerTransaction) (distinct : (stage.source.map Prod.fst).Nodup) :
    LeavesAgain options stopped contents ↔ Stage.EndsAgain options stage contents := by
  have closed : Closed stopped.2 :=
    ⟨stoppedAt.closed, stoppedAt.pending, stoppedAt.source ▸ distinct⟩
  have isStage : stopped.2.stage = { stage with curCount := 0 } := by
    rw [Databases.stage, stoppedAt.source, stoppedAt.committed]
  rw [LeavesAgain, Stage.EndsAgain, stoppedAt.curCount]
  cases setOffset (printedOffset options stage.curCount) with
  | none => rw [stoppedAt.source, stoppedAt.committed]
  | some offset =>
      rw [← isStage]
      exact closed.leaves_iff several

theorem nodup_after (distinct : (stage.source.map Prod.fst).Nodup) (rounds : Nat) :
    ((stage.after options rounds).source.map Prod.fst).Nodup := by
  induction rounds generalizing stage with
  | zero => exact distinct
  | succ rounds ih => exact ih (nodup_remaining distinct _)

/-- A copy or a move that was interrupted resumes with the printed offset. -/
theorem Closed.resumes_iff (closed : Closed databases) (first : databases.queries = 0)
    (accepted : setOffset options.offset = some options.offset)
    (several : 1 < options.eventsPerTransaction) (events : options.eventsPerTransaction < 2 ^ 31)
    (ends : EndsWith interruption options (-1) databases stopped)
    (reports : Reports interruption stopped) :
    (∀ contents, Leaves options databases contents ↔ LeavesAgain options stopped contents) ↔
      Resumable options databases interruption := by
  rcases closed.interrupted first several events ends reports with
    ⟨round, isRound, strikes, stoppedAt⟩
  have distinct : ((databases.stage.after options round).source.map Prod.fst).Nodup :=
    nodup_after closed.distinct round
  have still : (((databases.stage.after options round).interrupted options
      interruption).source.map Prod.fst).Nodup := nodup_interrupted distinct
  have resumable : Resumable options databases interruption ↔ interruption.Intact options ∧
      ((databases.stage.after options round).interrupted options interruption).Continues
        options := by
    constructor
    · rintro ⟨other, isOther, condition⟩
      obtain rfl : round = other := Option.some.inj (isRound.symm.trans isOther)
      exact condition
    · exact fun condition => ⟨round, isRound, condition⟩
  have whole : ∀ contents, Leaves options databases contents ↔
      Stage.Ends options (databases.stage.after options round) contents := fun contents =>
    (closed.leaves_iff several).trans (Stage.ends_after_iff round).symm
  have again : ∀ contents, LeavesAgain options stopped contents ↔ Stage.EndsAgain options
      ((databases.stage.after options round).interrupted options interruption) contents :=
    fun contents => stoppedAt.leavesAgain_iff several still
  rw [resumable]
  generalize databases.stage.after options round = stage at *
  by_cases intact : interruption.Intact options
  · have sameEnd : ∀ contents, Stage.Ends options stage contents ↔
        Stage.Ends options (stage.interrupted options interruption) contents := by
      intro contents
      rcases stage.interrupted_of_intact intact with isStage | isNext
      · rw [isStage]
      · rw [isNext, Stage.ends_next_iff]
    rw [and_iff_right intact, ← Stage.resumes_iff accepted several events still]
    refine forall_congr' fun contents => ?_
    rw [whole, again, sameEnd]
  · have moves : options.deleteCopied = true := by
      by_contra copies
      apply intact
      cases interruption with
      | none | signal | fetch => trivial
      | get | insert => exact fun moves => absurd moves copies
      | delete => exact strikes (if_neg copies)
    refine iff_of_false (fun same => ?_) fun condition => intact condition.1
    have isEnd := (Stage.ends_move_iff moves several events distinct).mpr rfl
    have isAgain := (again _).mp ((same _).mp ((whole _).mpr isEnd))
    exact Stage.total_interrupted moves distinct strikes intact
      ((isAgain.total moves several events still).symm.trans
        (isEnd.total moves several events distinct))

end Command

end RequiemDB.Admin
