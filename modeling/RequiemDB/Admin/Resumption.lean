import Mathlib.Data.List.Dedup
import RequiemDB.Admin.Batches
import RequiemDB.Admin.Resume

/-!
# Resuming a deletion

Like a move, a deletion takes the messages that it counts out of its own window. With the
printed offset it goes on where it was interrupted only if it has counted none of them, or
if none of them is left.
-/

namespace RequiemDB.Admin

open Lib

variable {M : Type}

/-- Without interruption and without `--count` the deletion leaves the rows. -/
def DeleteLeaves {kind : MessageTable} (M : Type) (criteria : Criteria kind) (options : Options)
    (store : Store) (entries : List Entry) : Prop :=
  ∃ result, DeletesWith M .none criteria options store result ∧
    result.2.store.committed = entries

/-- The same deletion again, with the offset that was printed. -/
def DeleteLeavesAgain {kind : MessageTable} (M : Type) (criteria : Criteria kind)
    (options : Options) (stopped : (Int × Counters) × Connection) (entries : List Entry) : Prop :=
  match setOffset (printedOffset options stopped.1.2.curCount) with
  | some offset => DeleteLeaves M criteria { options with offset } stopped.2.store entries
  | none => stopped.2.store.committed = entries

section Resumes

variable {kind : MessageTable} {criteria : OwnCriteria kind} {options : Options}
  {interruption : Break kind} {store : Store}

/-- The messages that a deletion without `--count` asks for. -/
def OwnCriteria.window (criteria : OwnCriteria kind) (offset : Int) (entries : List Entry) :
    List Nat :=
  Admin.window (-1) (toCInt (toCInt offset)) (criteria.finds (entries.map Entry.row))

theorem atBatch_started (criteria : OwnCriteria kind) (options : Options) (store : Store) :
    AtBatch criteria options store.committed [] [] (criteria.window options.offset store.committed)
      ⟨0, 0, -1⟩ { Connection.on store with
        store := (store.accept .transactionStart).2
        inTransaction := true
        internalTransactionDisabled := true } where
  inside := rfl
  disabled := rfl
  visible := (cleared_nil _).symm
  committed := (cleared_nil _).symm
  eventNo := rfl
  curCount := rfl
  limitCopy := rfl
  whole := rfl
  full := fun _ => (Nat.zero_mul _).symm
  last := fun some_ => absurd rfl some_

theorem outcome_cmdDelete (M : Type) (criteria : OwnCriteria kind) (store : Store)
    (several : 1 < options.eventsPerTransaction) (events : options.eventsPerTransaction < 2 ^ 31)
    (interruption : Break kind) :
    ∃ result, DeletesWith M interruption criteria.toCriteria options store result ∧
      (LeftWith (interruption.leftover options (criteria.window options.offset store.committed)
          store.committed) result ∨ interruption ≠ .none ∧ ¬ interruption.Reports result) := by
  have started := atBatch_started criteria options store
  rcases started.outcome interruption M several events
    (fun _ _ => Nat.zero_le _) with ⟨enough, result, ends, outcome⟩
  refine ⟨result, ⟨enough, fun rounds above => ?_⟩, outcome⟩
  rw [cmdDelete, transactionStart, if_pos several, Program.run_perform]
  exact ends rounds above

theorem DeletesWith.unique {M : Type} {result other : (Int × Counters) × Connection}
    (first : DeletesWith M interruption criteria.toCriteria options store result)
    (second : DeletesWith M interruption criteria.toCriteria options store other) :
    result = other := by
  rcases first with ⟨enough, ends⟩
  rcases second with ⟨others, endsToo⟩
  exact (ends _ (Nat.le_max_left enough others)).symm.trans
    (endsToo _ (Nat.le_max_right enough others))

theorem deleteLeaves_iff {M : Type} (several : 1 < options.eventsPerTransaction)
    (events : options.eventsPerTransaction < 2 ^ 31) {entries : List Entry} :
    DeleteLeaves M criteria.toCriteria options store entries ↔
      cleared kind (criteria.window options.offset store.committed) store.committed = entries := by
  rcases outcome_cmdDelete M criteria store several events .none with ⟨result, ends, outcome⟩
  have left := outcome.resolve_right fun other => other.1 rfl
  have committed : result.2.store.committed =
      cleared kind (criteria.window options.offset store.committed) store.committed := by
    have all : result.2.store.committed =
        cleared kind ((criteria.window options.offset store.committed).take
          (criteria.window options.offset store.committed).length) store.committed :=
      left.committed
    rwa [List.take_length] at all
  constructor
  · rintro ⟨same, endsToo, rfl⟩
    rw [← committed, ends.unique endsToo]
  · rintro rfl
    exact ⟨result, ends, committed⟩

/-- The interruption has removed rows of the window only. -/
theorem cleared_leftover (interruption : Break kind) (options : Options) (found : List Nat)
    (initial : List Entry) :
    cleared kind found (interruption.leftover options found initial).1 =
      cleared kind found initial := by
  have part : ∀ count, cleared kind found (cleared kind (found.take count) initial) =
      cleared kind found initial := by
    intro count
    rw [cleared_cleared, cleared_eq, cleared_eq]
    refine List.filter_congr fun entry _ => decide_eq_decide.mpr ?_
    have among : entry.row.messageIdent ∈ found.take count ++ found ↔
        entry.row.messageIdent ∈ found := by
      rw [List.mem_append, or_iff_right_of_imp fun early => List.mem_of_mem_take early]
    rw [among]
  cases interruption with
  | none => exact part _
  | signal => exact part _
  | fetch => exact part _
  | statement round position error =>
      rw [Break.leftover]
      simp only
      split
      · exact part _
      · rw [← part (round * options.eventsPerTransaction)]
        generalize cleared kind (found.take _) initial = entries
        rw [cleared_eq, cleared_eq, kept, List.filter_filter]
        refine List.filter_congr fun entry _ => ?_
        rw [← Bool.decide_and, decide_eq_decide, and_iff_left_iff_imp]
        intro spared query sent isMatch
        have isQuery := List.mem_of_mem_take sent
        rw [deleteQueries_eq, List.mem_map] at isQuery
        rcases isQuery with ⟨shape, isShape, rfl⟩
        refine spared ⟨⟨shape, isShape, isMatch.1, isMatch.2.1⟩, ?_⟩
        exact List.mem_of_mem_drop (List.mem_of_mem_take isMatch.2.2)

/-- The messages that the deletion asks for with the offset that was printed. -/
def OwnCriteria.windowAgain (criteria : OwnCriteria kind) (options : Options)
    (left : List Entry × Nat) : List Nat :=
  match setOffset (printedOffset options left.2) with
  | some offset => criteria.window offset left.1
  | none => []

/--
The condition on the interruption: of the messages that it leaves rows of, the query with the
printed offset finds those that the window has.
-/
def Break.Resumable (interruption : Break kind) (criteria : OwnCriteria kind) (options : Options)
    (store : Store) : Prop :=
  let found := criteria.window options.offset store.committed
  let left := interruption.leftover options found store.committed
  ∀ entry ∈ left.1, Row.Covered kind entry.row →
    (entry.row.messageIdent ∈ criteria.windowAgain options left ↔
      entry.row.messageIdent ∈ found)

theorem cleared_eq_iff {first second : List Nat} {entries : List Entry} :
    cleared kind first entries = cleared kind second entries ↔
      ∀ entry ∈ entries, Row.Covered kind entry.row →
        (entry.row.messageIdent ∈ second ↔ entry.row.messageIdent ∈ first) := by
  rw [cleared_eq, cleared_eq]
  constructor
  · intro same entry present covered
    have kept_iff := congrArg (entry ∈ ·) same
    simp only [List.mem_filter, present, covered, true_and, decide_eq_true_eq, eq_iff_iff,
      not_iff_not] at kept_iff
    exact kept_iff.symm
  · intro same
    refine List.filter_congr fun entry present => decide_eq_decide.mpr (not_congr ?_)
    exact and_congr_right fun covered => (same entry present covered).symm

/-- A deletion that was interrupted resumes with the printed offset. -/
theorem cmdDelete_resumes_iff {M : Type} (several : 1 < options.eventsPerTransaction)
    (events : options.eventsPerTransaction < 2 ^ 31) {stopped : (Int × Counters) × Connection}
    (ends : DeletesWith M interruption criteria.toCriteria options store stopped)
    (reports : interruption.Reports stopped) :
    (∀ entries, DeleteLeaves M criteria.toCriteria options store entries ↔
        DeleteLeavesAgain M criteria.toCriteria options stopped entries) ↔
      interruption.Resumable criteria options store := by
  rcases outcome_cmdDelete M criteria store several events interruption with
    ⟨result, endsToo, outcome⟩
  obtain rfl := ends.unique endsToo
  have left := outcome.resolve_right fun other => other.2 reports
  have whole := cleared_leftover interruption options
    (criteria.window options.offset store.committed) store.committed
  rw [Break.Resumable]
  generalize interruption.leftover options _ store.committed = leftover at left whole ⊢
  have again : ∀ entries, DeleteLeavesAgain M criteria.toCriteria options stopped entries ↔
      cleared kind (criteria.windowAgain options leftover) leftover.1 = entries := by
    intro entries
    rw [DeleteLeavesAgain, OwnCriteria.windowAgain, left.curCount]
    cases setOffset (printedOffset options leftover.2) with
    | none => rw [cleared_nil, left.committed]
    | some offset =>
        have several' : 1 < ({ options with offset } : Options).eventsPerTransaction := several
        rw [← left.committed]
        exact deleteLeaves_iff several' events
  simp only [again, deleteLeaves_iff several events]
  rw [← whole]
  refine Iff.trans ?_ cleared_eq_iff
  constructor
  · intro same
    exact ((same _).mp rfl).symm
  · intro same entries
    rw [same]

end Resumes

/-- A copy or a move without `--count` that reports how to resume. -/
structure InterruptedRun (options : Options) (databases : Databases M)
    (interruption : Interruption) (stopped : (Int × Counters) × Databases M) : Prop where
  several : 1 < options.eventsPerTransaction
  events : options.eventsPerTransaction < 2 ^ 31
  accepted : setOffset options.offset = some options.offset
  closed : Closed databases
  first : databases.queries = 0
  ends : EndsWith interruption options (-1) databases stopped
  reports : Reports interruption stopped

/-- A deletion without `--count` that reports how to resume. -/
structure InterruptedDeletion {kind : MessageTable} (M : Type) (criteria : OwnCriteria kind)
    (options : Options) (store : Store) (interruption : Break kind)
    (stopped : (Int × Counters) × Connection) : Prop where
  several : 1 < options.eventsPerTransaction
  events : options.eventsPerTransaction < 2 ^ 31
  ends : DeletesWith M interruption criteria.toCriteria options store stopped
  reports : interruption.Reports stopped

/--
The same command with the offset that was printed leaves what the command would have left
without the interruption, exactly under the conditions on the interruption.
-/
theorem interrupted_resumes_iff {M : Type} :
    (∀ (options : Options) (databases : Databases M) (interruption : Interruption)
      (stopped : (Int × Counters) × Databases M),
      InterruptedRun options databases interruption stopped →
        ((∀ contents, Leaves options databases contents ↔
            LeavesAgain options stopped contents) ↔
          Resumable options databases interruption)) ∧
    ∀ (kind : MessageTable) (criteria : OwnCriteria kind) (options : Options) (store : Store)
      (interruption : Break kind) (stopped : (Int × Counters) × Connection),
      InterruptedDeletion M criteria options store interruption stopped →
        ((∀ entries, DeleteLeaves M criteria.toCriteria options store entries ↔
            DeleteLeavesAgain M criteria.toCriteria options stopped entries) ↔
          interruption.Resumable criteria options store) := by
  constructor
  · intro options databases interruption stopped run
    exact run.closed.resumes_iff run.first run.accepted run.several run.events run.ends run.reports
  · intro kind criteria options store interruption stopped deletion
    exact cmdDelete_resumes_iff deletion.several deletion.events deletion.ends deletion.reports

theorem filter_dedup (keeps : Nat → Bool) (idents : List Nat) :
    idents.dedup.filter keeps = (idents.filter keeps).dedup := by
  induction idents with
  | nil => rfl
  | cons ident idents ih =>
      by_cases later : ident ∈ idents
      · rw [List.dedup_cons_of_mem later, ih]
        cases isKept : keeps ident with
        | false => rw [List.filter_cons_of_neg (by simp [isKept])]
        | true =>
            have still : ident ∈ idents.filter keeps := List.mem_filter.mpr ⟨later, isKept⟩
            rw [List.filter_cons_of_pos isKept, List.dedup_cons_of_mem still]
      · rw [List.dedup_cons_of_notMem later]
        cases isKept : keeps ident with
        | false =>
            rw [List.filter_cons_of_neg (by simp [isKept]), ih,
              List.filter_cons_of_neg (by simp [isKept])]
        | true =>
            have noMore : ident ∉ idents.filter keeps := fun found =>
              later (List.mem_filter.mp found).1
            rw [List.filter_cons_of_pos isKept, ih, List.filter_cons_of_pos isKept,
              List.dedup_cons_of_notMem noMore]

/-- All messages of a kind, each of them once. -/
def OwnCriteria.all (kind : MessageTable) : OwnCriteria kind where
  finds rows := ((rows.filter fun row => row.table = kind.table).map Row.messageIdent).dedup
  stored := by
    intro rows ident found
    have present : ident ∈ (rows.filter fun row => row.table = kind.table).map Row.messageIdent :=
      List.mem_dedup.mp found
    exact (Criteria.all kind).stored rows ident present
  distinct := fun _ => List.nodup_dedup _
  own := by
    intro rows gone idents among
    rw [filter_dedup, filter_dedup, List.filter_map, List.filter_map, List.filter_filter,
      List.filter_filter, List.filter_filter]
    refine congrArg (fun found => (found.map Row.messageIdent).dedup)
      (List.filter_congr fun row present => ?_)
    have left : row.messageIdent ∉ idents → gone row = false := fun spared =>
      Bool.eq_false_iff.mpr fun isGone => spared (among row present isGone)
    by_cases spared : row.messageIdent ∈ idents
    · simp [spared]
    · simp [spared, left spared]

/-- The move of two of three messages that a signal stops; it prints `--offset 2`. -/
def stoppedMove : (Int × Counters) × Databases Unit :=
  ((0, ⟨0, 2, -1⟩), ⟨[(9, ())], [(4, ()), (7, ())], [], false, 1, 2⟩)

theorem interruptedRun_stoppedMove :
    InterruptedRun ⟨2, 0, true⟩ threeMessages (.signal 0) stoppedMove where
  several := by decide
  events := by decide
  accepted := by decide
  closed := ⟨rfl, rfl, by decide⟩
  first := rfl
  ends := by
    refine ⟨1, fun rounds enough => ?_⟩
    rcases Nat.exists_eq_succ_of_ne_zero (Nat.ne_of_gt enough) with ⟨fewer, rfl⟩
    rfl
  reports := .inr rfl

/-- The deletion of the first of two alerts, in transactions of two, whose query fails. -/
def stoppedDeletion : (Int × Counters) × Connection :=
  ((-1, ⟨0, 0, -1⟩), { Connection.on twoAlerts with internalTransactionDisabled := false })

theorem interrupted_resumes_iff_threeMessages :
    ((∀ contents, Leaves ⟨2, 0, true⟩ threeMessages contents ↔
        LeavesAgain ⟨2, 0, true⟩ stoppedMove contents) ↔
      Resumable ⟨2, 0, true⟩ threeMessages (.signal 0)) ∧
    ((∀ entries, DeleteLeaves Unit (OwnCriteria.all .alert).toCriteria ⟨2, 0, false⟩ twoAlerts
          entries ↔
        DeleteLeavesAgain Unit (OwnCriteria.all .alert).toCriteria ⟨2, 0, false⟩ stoppedDeletion
          entries) ↔
      Break.Resumable (.fetch 0 ⟨-1, by decide⟩) (OwnCriteria.all .alert) ⟨2, 0, false⟩
        twoAlerts) :=
  ⟨interrupted_resumes_iff.1 _ _ _ _ interruptedRun_stoppedMove,
    (interrupted_resumes_iff (M := Unit)).2 _ _ _ _ _ _ ⟨by decide, by decide,
      ⟨1, fun rounds enough => by
        rcases Nat.exists_eq_succ_of_ne_zero (Nat.ne_of_gt enough) with ⟨fewer, rfl⟩
        rfl⟩, .inl (by decide)⟩⟩

/-- The third message stays in the source of the move. -/
theorem not_interrupted_resumes :
    InterruptedRun ⟨2, 0, true⟩ threeMessages (.signal 0) stoppedMove ∧
      ¬ ∀ contents, (Leaves ⟨2, 0, true⟩ threeMessages contents ↔
        LeavesAgain ⟨2, 0, true⟩ stoppedMove contents) := by
  refine ⟨interruptedRun_stoppedMove, fun resumes => ?_⟩
  have whole : Leaves ⟨2, 0, true⟩ threeMessages ([], [(4, ()), (7, ()), (9, ())]) := by
    refine ⟨((0, ⟨0, 3, -1⟩), ⟨[], [(4, ()), (7, ()), (9, ())], [], false, 3, 0⟩),
      ⟨3, fun rounds enough => ?_⟩, rfl⟩
    rcases Nat.exists_eq_add_of_le' enough with ⟨fewer, rfl⟩
    rfl
  rcases (resumes _).mp whole with ⟨result, ⟨enough, ends⟩, isContents⟩
  have resumed : (doCmdCopyMove ⟨2, 2, true⟩ (enough + 1) (-1)).run (serving .none)
      stoppedMove.2 = ((0, ⟨0, 0, -1⟩), { stoppedMove.2 with queries := 2, copied := 0 }) := rfl
  have isResult := resumed.symm.trans (ends (enough + 1) (Nat.le_succ enough))
  rw [← isResult] at isContents
  exact absurd (congrArg (fun contents => contents.1.length) isContents) (by decide)

end RequiemDB.Admin
