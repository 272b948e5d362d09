import RequiemDB.Admin.Delete
import RequiemDB.Admin.Requested

/-!
# The batches of a deletion

A deletion takes the messages of its window in batches. A full batch is committed by the
flush behind it, whether its deletion has succeeded or not; the last batch waits for the end
of the command. An interruption leaves what the last COMMIT has left, and behind a statement
that fails in a full batch this is a part of the rows of that batch.
-/

namespace RequiemDB.Admin

open Lib

variable {M : Type}

/--
Criteria that look at each message by itself: what happens to the rows of some messages does
not change which others are found, nor their order. `SELECT DISTINCT` finds each message once.
-/
structure OwnCriteria (kind : MessageTable) extends Criteria kind where
  distinct : ∀ rows, (finds rows).Nodup
  own : ∀ (rows : List Row) (gone : Row → Bool) (idents : List Nat),
    (∀ row ∈ rows, gone row = true → row.messageIdent ∈ idents) →
    ((finds (rows.filter fun row => !gone row)).filter fun ident => ident ∉ idents) =
      (finds rows).filter fun ident => ident ∉ idents

section Cleared

variable {kind : MessageTable}

/-- What the statements of a deletion ask of a row, apart from its ident. -/
def deleteShapes (kind : MessageTable) : List (Table × ParentTypeTest) :=
  (deleteQueries kind (.among [])).map fun query => (query.table, query.parentType)

theorem deleteQueries_eq (kind : MessageTable) (test : IdentTest) :
    deleteQueries kind test = (deleteShapes kind).map fun shape => ⟨shape.1, shape.2, test⟩ := by
  cases kind <;> rfl

/-- A deletion of the message of the row removes the row. -/
def Row.Covered (kind : MessageTable) (row : Row) : Prop :=
  ∃ shape ∈ deleteShapes kind, row.table = shape.1 ∧ shape.2.Holds row.parentType

instance (row : Row) : Decidable (Row.Covered kind row) :=
  inferInstanceAs (Decidable (∃ _ ∈ _, _ ∧ _))

/-- The rows that the deletion of the messages leaves. -/
def cleared (kind : MessageTable) (idents : List Nat) (entries : List Entry) : List Entry :=
  kept (deleteQueries kind (.among idents)) entries

theorem deleteQueries_spare_iff {row : Row} {idents : List Nat} :
    (∀ query ∈ deleteQueries kind (.among idents), ¬ query.Matches row) ↔
      ¬ (Row.Covered kind row ∧ row.messageIdent ∈ idents) := by
  rw [deleteQueries_eq, List.forall_mem_map]
  constructor
  · rintro spares ⟨⟨shape, isShape, isTable, isType⟩, found⟩
    exact spares shape isShape ⟨isTable, isType, found⟩
  · intro spared shape isShape isMatch
    exact spared ⟨⟨shape, isShape, isMatch.1, isMatch.2.1⟩, isMatch.2.2⟩

theorem cleared_eq (idents : List Nat) (entries : List Entry) :
    cleared kind idents entries = entries.filter fun entry =>
      ¬ (Row.Covered kind entry.row ∧ entry.row.messageIdent ∈ idents) :=
  List.filter_congr fun _ _ => decide_eq_decide.mpr deleteQueries_spare_iff

theorem cleared_nil (entries : List Entry) : cleared kind [] entries = entries := by
  rw [cleared_eq]
  exact List.filter_eq_self.mpr (by simp)

theorem cleared_cleared (first second : List Nat) (entries : List Entry) :
    cleared kind second (cleared kind first entries) = cleared kind (first ++ second) entries := by
  rw [cleared_eq, cleared_eq, cleared_eq, List.filter_filter]
  refine List.filter_congr fun entry _ => ?_
  rw [← Bool.decide_and, decide_eq_decide, List.mem_append]
  tauto

/-- Some statements of a deletion leave the other messages as they are found. -/
theorem finds_kept (criteria : OwnCriteria kind) {queries : List Delete} {idents : List Nat}
    (among : queries ⊆ deleteQueries kind (.among idents)) (entries : List Entry) :
    ((criteria.finds ((kept queries entries).map Entry.row)).filter fun ident => ident ∉ idents) =
      (criteria.finds (entries.map Entry.row)).filter fun ident => ident ∉ idents := by
  have rows : (kept queries entries).map Entry.row = (entries.map Entry.row).filter fun row =>
      !decide (∃ query ∈ queries, query.Matches row) := by
    rw [kept, List.filter_map]
    refine congrArg _ (List.filter_congr fun entry _ => ?_)
    simp only [Function.comp_apply, ← decide_not, not_exists, not_and]
  rw [rows]
  refine criteria.own _ _ _ fun row _ gone => ?_
  rcases of_decide_eq_true gone with ⟨query, sent, isMatch⟩
  have isQuery := among sent
  rw [deleteQueries_eq, List.mem_map] at isQuery
  rcases isQuery with ⟨shape, _, rfl⟩
  exact isMatch.2.2

theorem table_mem_deleteShapes (kind : MessageTable) : (kind.table, .any) ∈ deleteShapes kind := by
  cases kind <;> decide

/-- A deleted message is not found, and the others are found as before. -/
theorem finds_cleared (criteria : OwnCriteria kind) (idents : List Nat) (entries : List Entry) :
    criteria.finds ((cleared kind idents entries).map Entry.row) =
      (criteria.finds (entries.map Entry.row)).filter fun ident => ident ∉ idents := by
  rw [← finds_kept criteria (List.Subset.refl (deleteQueries kind (.among idents)))]
  refine (List.filter_eq_self.mpr fun ident found => ?_).symm
  rw [decide_eq_true_eq]
  intro deleted
  rcases criteria.stored _ ident found with ⟨row, present, isTable, isIdent⟩
  rcases List.mem_map.mp present with ⟨entry, left, rfl⟩
  rw [cleared_eq, List.mem_filter, decide_eq_true_eq] at left
  refine left.2 ⟨⟨_, table_mem_deleteShapes kind, isTable, trivial⟩, ?_⟩
  rw [isIdent]
  exact deleted

/-- Behind a part of the window that is deleted the rest has the same offset. -/
theorem window_cleared (criteria : OwnCriteria kind) (initial : List Entry) {offset : Int}
    {done todo : List Nat}
    (whole : window (-1) offset (criteria.finds (initial.map Entry.row)) = done ++ todo) :
    window (-1) offset (criteria.finds ((cleared kind done initial).map Entry.row)) = todo := by
  rw [window_of_unlimited] at whole ⊢
  have distinct : ((criteria.finds (initial.map Entry.row)).map id).Nodup := by
    rw [List.map_id]
    exact criteria.distinct _
  have rest := (filter_of_initial distinct whole).1
  simp only [List.map_id, id] at rest
  rw [finds_cleared]
  exact rest

end Cleared

/-- The point at which a deletion is interrupted; rounds and statements count from zero. -/
inductive Break (kind : MessageTable) where
  | none
  | signal (round : Nat)
  | fetch (round : Nat) (error : ErrorCode)
  | statement (round : Nat) (position : Fin (deleteShapes kind).length) (error : ErrorCode)

namespace Break

variable {kind : MessageTable} (interruption : Break kind)

def round : Option Nat :=
  match interruption with
  | .none => .none
  | .signal round | .fetch round _ | .statement round _ _ => some round

/-- The error of the query of a round. -/
def fetchFails (tests : Nat) : Option ErrorCode :=
  match interruption with
  | .fetch round error => if tests = round then some error else .none
  | _ => .none

/-- The errors of the statements of a round, the first of which is sent behind `before` others. -/
def fails (tests before : Nat) : Nat → Option ErrorCode := fun sent =>
  match interruption with
  | .statement round position error =>
      if tests = round ∧ sent = before + position then some error else .none
  | _ => .none

def stops (tests : Nat) : Bool :=
  match interruption with
  | .signal round => tests = round
  | _ => false

end Break

/-- The database of `cmd_delete` answers every call that the interruption does not strike. -/
def deletingUntil {kind : MessageTable} (interruption : Break kind) (criteria : Criteria kind) :
    Environment (@Reply M) Connection := fun op connection =>
  let serving := deleting (M := M) (interruption.fails connection.tests connection.store.sent)
    criteria interruption.stops
  match op with
  | .fetchIdents limit offset =>
      match interruption.fetchFails connection.tests with
      | some error => (.error error, connection)
      | none => serving (.fetchIdents limit offset) connection
  | op => serving op connection

/-- Each round begins with a query, and the deletion ends by itself. -/
def DeletesWith {kind : MessageTable} (M : Type) (interruption : Break kind)
    (criteria : Criteria kind) (options : Options) (store : Store)
    (result : (Int × Counters) × Connection) : Prop :=
  ∃ enough, ∀ rounds ≥ enough, (cmdDelete (M := M) options rounds (-1)).run
    (deletingUntil interruption criteria) (Connection.on store) = result

/-- The signal may have arrived after the last test of the flag. -/
def Break.Reports {kind : MessageTable} (interruption : Break kind)
    (result : (Int × Counters) × Connection) : Prop :=
  result.1.1 < 0 ∨ ∃ round, interruption = .signal round ∧ round ≤ result.2.tests

/-- The rows that the interruption leaves of a window, and the events that are committed. -/
def Break.leftover {kind : MessageTable} (interruption : Break kind) (options : Options)
    (window : List Nat) (initial : List Entry) : List Entry × Nat :=
  let size := options.eventsPerTransaction
  let behind (count : Nat) := (cleared kind (window.take count) initial, min count window.length)
  match interruption with
  | .none => behind window.length
  | .signal round => behind ((round + 1) * size)
  | .fetch round _ => behind (min round (window.length / size) * size)
  | .statement round position _ =>
      let batch := (window.drop (round * size)).take size
      if batch.length < size then behind (round * size)
      else (kept ((deleteQueries kind (.among batch)).take position) (behind (round * size)).1,
        (round + 1) * size)

section Rounds

variable {kind : MessageTable} {criteria : OwnCriteria kind} {options : Options}
  {initial : List Entry} {interruption : Break kind} {flushed pending todo : List Nat}
  {counters : Counters} {connection : Connection}

/--
At the head of a round: the messages `flushed` are gone for good, the deletion of `pending`
waits for COMMIT, and `todo` is left of the window. Only the last batch waits.
-/
structure AtBatch (criteria : OwnCriteria kind) (options : Options) (initial : List Entry)
    (flushed pending todo : List Nat) (counters : Counters) (connection : Connection) : Prop where
  inside : connection.inTransaction = true
  disabled : connection.internalTransactionDisabled = true
  visible : connection.store.visible = cleared kind (flushed ++ pending) initial
  committed : connection.store.committed = cleared kind flushed initial
  eventNo : counters.eventNo = pending.length
  curCount : counters.curCount = flushed.length
  limitCopy : counters.limitCopy = -1
  whole : window (-1) (toCInt (toCInt options.offset))
    (criteria.finds (initial.map Entry.row)) = flushed ++ pending ++ todo
  full : pending = [] → flushed.length = connection.tests * options.eventsPerTransaction
  last : pending ≠ [] → todo = [] ∧ pending.length < options.eventsPerTransaction ∧
    flushed.length + options.eventsPerTransaction =
      connection.tests * options.eventsPerTransaction

/-- The command has ended with the rows and the number of events. -/
structure LeftWith (left : List Entry × Nat) (result : (Int × Counters) × Connection) : Prop where
  committed : result.2.store.committed = left.1
  visible : result.2.store.visible = left.1
  curCount : result.1.2.curCount = left.2

theorem untilFailure_at (before position : Nat) (error : ErrorCode) (queries : List Delete) :
    untilFailure (fun sent => if sent = before + position then some error else none) before
      queries = queries.take position := by
  induction queries generalizing before position with
  | nil => rw [untilFailure, List.take_nil]
  | cons query queries ih =>
      cases position with
      | zero => simp [untilFailure]
      | succ position =>
          have passes : before ≠ before + (position + 1) := by omega
          have shifted : before + (position + 1) = before + 1 + position := by omega
          rw [untilFailure, if_pos (if_neg passes), List.take_succ_cons, shifted, ih]

theorem untilFailure_none (before : Nat) (queries : List Delete) :
    untilFailure (fun _ => none) before queries = queries := by
  induction queries generalizing before with
  | nil => rfl
  | cons query queries ih => rw [untilFailure, if_pos rfl, ih]

variable (M interruption) in
theorem AtBatch.run_end (atBatch : AtBatch criteria options initial flushed pending todo counters
      connection) (several : 1 < options.eventsPerTransaction) {ret : Int} (succeeded : ¬ ret < 0) :
    ∃ result, (transactionEnd { options with deleteCopied := true } ret counters :
        Command M (Int × Counters)).run (deletingUntil interruption criteria.toCriteria)
          connection = result ∧
      LeftWith (cleared kind (flushed ++ pending) initial, (flushed ++ pending).length) result ∧
      result.1.1 = ret ∧ result.2.tests = connection.tests := by
  refine ⟨_, rfl, ?_⟩
  rw [transactionEnd, if_pos several, if_neg succeeded, Program.run_perform]
  simp only [deletingUntil, deleting, Connection.finish, atBatch.inside, if_true, Store.accept,
    Program.run_done]
  refine ⟨⟨atBatch.visible, atBatch.visible, ?_⟩, trivial, trivial⟩
  show counters.curCount + counters.eventNo = (flushed ++ pending).length
  rw [atBatch.curCount, atBatch.eventNo, List.length_append]

variable (M criteria interruption counters) in
/-- Behind an error the deletions that are not committed are undone. -/
theorem run_transactionEnd_deleting (several : 1 < options.eventsPerTransaction)
    (inside : connection.inTransaction = true) {ret : Int} (failed : ret < 0) :
    ∃ result, (transactionEnd { options with deleteCopied := true } ret counters :
        Command M (Int × Counters)).run (deletingUntil interruption criteria.toCriteria)
          connection = result ∧
      LeftWith (connection.store.committed, counters.curCount) result := by
  refine ⟨_, rfl, ?_⟩
  rw [transactionEnd, if_pos several, if_pos failed, Program.run_perform]
  simp only [deletingUntil, deleting, Connection.abort, inside, if_true, Store.accept,
    Program.run_done]
  exact ⟨rfl, rfl, rfl⟩

end Rounds

section Steps

variable {kind : MessageTable} {criteria : OwnCriteria kind} {options : Options}
  {initial : List Entry} {interruption : Break kind} {flushed pending todo : List Nat}
  {counters : Counters} {connection : Connection}

/-- A query for idents that is not struck finds the next messages of the window. -/
theorem AtBatch.run_fetch (atBatch : AtBatch criteria options initial flushed pending todo counters
      connection) (events : options.eventsPerTransaction < 2 ^ 31)
    (answered : interruption.fetchFails connection.tests = none)
    (rest : Except ErrorCode Batch → Counters → Command M (Int × Counters)) :
    (fetchMessageIdentsLimited { options with deleteCopied := true } counters rest).run
        (deletingUntil interruption criteria.toCriteria) connection =
      (rest (.ok ⟨(todo.take options.eventsPerTransaction).length,
          todo.take options.eventsPerTransaction, 0, Int.le_refl 0⟩) counters).run
        (deletingUntil interruption criteria.toCriteria) connection := by
  have isLimit : toCInt options.eventsPerTransaction = options.eventsPerTransaction :=
    toCInt_of_range (by omega) (by omega)
  have noCount : counters.limitCopy < 0 := by
    rw [atBatch.limitCopy]
    decide
  have found : window (toCInt options.eventsPerTransaction)
      (toCInt (toCInt options.offset + ((0 : Nat) : Int))) (criteria.finds connection.store.rows) =
        todo.take options.eventsPerTransaction := by
    have whole := window_cleared criteria initial atBatch.whole
    rw [window_of_unlimited] at whole
    rw [Int.natCast_zero, Int.add_zero, isLimit, window, if_neg (by omega), Store.rows,
      atBatch.visible, whole, Int.toNat_natCast]
  have uncharged : ¬ counters.limitCopy > 0 := by omega
  rw [fetchMessageIdentsLimited, Program.run_perform]
  simp only [deletingUntil, answered, deleting, if_pos noCount, if_true, found, if_neg uncharged]

/-- The statements of a deletion that are carried out in a round. -/
def Break.sent (interruption : Break kind) (tests before : Nat) (idents : List Nat) :
    List Delete :=
  untilFailure (interruption.fails tests before) before (deleteQueries kind (.among idents))

/-- The connection behind some statements of a deletion. -/
structure ErasedTo (connection : Connection) (visible : List Entry) (afterwards : Connection) :
    Prop where
  inside : afterwards.inTransaction = true
  disabled : afterwards.internalTransactionDisabled = true
  visible : afterwards.store.visible = visible
  committed : afterwards.store.committed = connection.store.committed
  tests : afterwards.tests = connection.tests

variable (interruption) in
theorem AtBatch.run_deletion (M : Type)
    (atBatch : AtBatch criteria options initial flushed pending todo counters connection)
    {idents : List Nat} (some_ : idents ≠ []) :
    ∃ ret afterwards,
      deletingUntil interruption criteria.toCriteria (.deleteFromList idents : Op M) connection =
        (ret, afterwards) ∧
      ErasedTo connection (kept
        (interruption.sent connection.tests connection.store.sent idents)
          (cleared kind (flushed ++ pending) initial)) afterwards ∧
      (ret < 0 ↔ (interruption.sent connection.tests connection.store.sent idents).length <
        (deleteQueries kind (.among idents)).length) := by
  rcases run_deleteMessageFromResultIdents
      (interruption.fails connection.tests connection.store.sent) kind some_ atBatch.disabled with
    ⟨ret, sent, runs, negative⟩
  refine ⟨_, _, rfl, ?_, ?_⟩
  · simp only [runs]
    refine ⟨atBatch.inside, atBatch.disabled, ?_, rfl, rfl⟩
    rw [← atBatch.visible]
    rfl
  · simp only [runs]
    exact negative

variable (M criteria interruption counters) in
theorem run_flush_deleting (several : 1 < options.eventsPerTransaction) {increment : Nat}
    (positive : increment ≠ 0) (inside : connection.inTransaction = true)
    (disabled : connection.internalTransactionDisabled = true)
    (rest : Counters → Command M (Int × Counters)) :
    (flushTransactionIfNeeded { options with deleteCopied := true } counters increment rest).run
        (deletingUntil interruption criteria.toCriteria) connection =
      if options.eventsPerTransaction ≤ counters.eventNo + increment then
        (rest { counters with
          eventNo := 0, curCount := counters.curCount + (counters.eventNo + increment) }).run
            (deletingUntil interruption criteria.toCriteria) connection.flushed
      else (rest { counters with eventNo := counters.eventNo + increment }).run
        (deletingUntil interruption criteria.toCriteria) connection := by
  have notZero : options.eventsPerTransaction ≠ 0 := by omega
  rw [flushTransactionIfNeeded, if_neg notZero]
  simp only [positive, false_and, or_false]
  split
  · rw [Program.run_perform, Program.run_perform]
    simp only [deletingUntil, deleting, Connection.finish, Connection.start, inside, Store.accept,
      if_true, Bool.false_eq_true, if_false, Int.lt_irrefl, disabled]
    congr 1
    simp [Connection.flushed, inside, disabled]
  · rfl

end Steps

section Leftover

variable {kind : MessageTable} {criteria : OwnCriteria kind} {options : Options}
  {initial : List Entry} {interruption : Break kind} {flushed pending todo : List Nat}
  {counters : Counters} {connection : Connection}

variable (kind initial) in
/-- The rows and the events behind the first messages of a window. -/
theorem leftover_behind {whole done rest : List Nat} (split : whole = done ++ rest) {count : Nat}
    (cuts : count = done.length ∨ rest = [] ∧ done.length ≤ count) :
    (cleared kind (whole.take count) initial, min count whole.length) =
      (cleared kind done initial, done.length) := by
  subst split
  rw [List.length_append]
  rcases cuts with rfl | ⟨rfl, beyond⟩
  · rw [List.take_left, Nat.min_eq_left (Nat.le_add_right _ _)]
  · rw [List.append_nil, List.take_of_length_le beyond, List.length_nil, Nat.add_zero,
      Nat.min_eq_right beyond]

theorem AtBatch.leftover_fetch (atBatch : AtBatch criteria options initial flushed pending todo
      counters connection) (several : 1 < options.eventsPerTransaction) {error : ErrorCode}
    (struck : interruption = .fetch connection.tests error) :
    interruption.leftover options (flushed ++ pending ++ todo) initial =
      (cleared kind flushed initial, flushed.length) := by
  subst struck
  have positive : 0 < options.eventsPerTransaction := Nat.zero_lt_of_lt several
  refine leftover_behind kind initial (List.append_assoc _ _ _) (.inl ?_)
  rw [List.length_append, List.length_append]
  by_cases nothing : pending = []
  · rw [nothing, List.length_nil, Nat.add_zero, atBatch.full nothing]
    have inside : connection.tests ≤ (connection.tests * options.eventsPerTransaction +
        todo.length) / options.eventsPerTransaction :=
      (Nat.le_div_iff_mul_le positive).mpr (Nat.le_add_right _ _)
    rw [Nat.min_eq_left inside]
  · rcases atBatch.last nothing with ⟨none_, below, counted⟩
    have some_ := List.length_pos_iff.mpr nothing
    rcases Nat.exists_eq_succ_of_ne_zero (n := connection.tests) (by
      intro zero
      rw [zero, Nat.zero_mul] at counted
      omega) with ⟨earlier, isTests⟩
    rw [isTests, Nat.succ_mul] at counted
    have isFlushed : flushed.length = earlier * options.eventsPerTransaction := by omega
    have quotient : (flushed.length + pending.length + todo.length) /
        options.eventsPerTransaction = earlier := by
      rw [none_, List.length_nil, Nat.add_zero, isFlushed, Nat.mul_comm, Nat.mul_add_div positive,
        Nat.div_eq_of_lt below, Nat.add_zero]
    rw [quotient, isTests, Nat.min_eq_right (Nat.le_succ earlier), isFlushed]

theorem AtBatch.length_le (atBatch : AtBatch criteria options initial flushed pending []
      counters connection) :
    (flushed ++ pending).length ≤ connection.tests * options.eventsPerTransaction := by
  rw [List.length_append]
  by_cases nothing : pending = []
  · rw [nothing, List.length_nil, Nat.add_zero, atBatch.full nothing]
  · rcases atBatch.last nothing with ⟨_, below, counted⟩
    omega

theorem leftover_none (struck : interruption = .none) :
    interruption.leftover options (flushed ++ pending ++ []) initial =
      (cleared kind (flushed ++ pending) initial, (flushed ++ pending).length) := by
  subst struck
  refine leftover_behind kind initial rfl (.inl ?_)
  rw [List.append_nil]

theorem AtBatch.leftover_signal (atBatch : AtBatch criteria options initial flushed pending todo
      counters connection) {round : Nat} (struck : interruption = .signal round)
    (arrived : connection.tests = round + 1 ∨ todo = [] ∧ connection.tests ≤ round) :
    interruption.leftover options (flushed ++ pending ++ todo) initial =
      (cleared kind (flushed ++ pending) initial, (flushed ++ pending).length) := by
  subst struck
  refine leftover_behind kind initial rfl ?_
  rcases arrived with isNext | ⟨rfl, early⟩
  · by_cases nothing : pending = []
    · left
      rw [nothing, List.append_nil, atBatch.full nothing, isNext]
    · rcases atBatch.last nothing with ⟨rfl, _⟩
      exact .inr ⟨rfl, isNext ▸ atBatch.length_le⟩
  · right
    refine ⟨rfl, atBatch.length_le.trans (Nat.mul_le_mul_right _ ?_)⟩
    omega

theorem AtBatch.leftover_statement (atBatch : AtBatch criteria options initial flushed [] todo
      counters connection) {position : Fin (deleteShapes kind).length} {error : ErrorCode}
    (struck : interruption = .statement connection.tests position error) :
    interruption.leftover options (flushed ++ [] ++ todo) initial =
      if (todo.take options.eventsPerTransaction).length < options.eventsPerTransaction then
        (cleared kind flushed initial, flushed.length)
      else (kept ((deleteQueries kind (.among (todo.take options.eventsPerTransaction))).take
          position) (cleared kind flushed initial),
        flushed.length + options.eventsPerTransaction) := by
  subst struck
  have counted := (atBatch.full rfl).symm
  have behind := leftover_behind kind initial (Eq.refl (flushed ++ todo)) (.inl counted)
  have front : (flushed ++ todo).take flushed.length = flushed := List.take_left
  have rest : (flushed ++ todo).drop flushed.length = todo := List.drop_left
  rw [List.append_nil]
  simp only [Break.leftover, behind]
  rw [Nat.add_mul, Nat.one_mul, counted, rest, front]

end Leftover

section Run

variable {kind : MessageTable} {criteria : OwnCriteria kind} {options : Options}
  {initial : List Entry} {interruption : Break kind} {flushed pending todo : List Nat}
  {counters : Counters} {connection : Connection}

theorem fetchFails_eq_some {tests : Nat} {error : ErrorCode} :
    interruption.fetchFails tests = some error ↔ interruption = .fetch tests error := by
  cases interruption with
  | fetch round other =>
      simp only [Break.fetchFails, Break.fetch.injEq]
      by_cases here : tests = round
      · simp [here]
      · simp [here, Ne.symm here]
  | _ => exact ⟨nofun, nofun⟩

/-- The statements of a round are all carried out, unless one of them is struck. -/
theorem sent_eq (interruption : Break kind) (tests before : Nat) (idents : List Nat) :
    (∀ position error, interruption ≠ .statement tests position error) ∧
        interruption.sent tests before idents = deleteQueries kind (.among idents) ∨
      ∃ position error, interruption = .statement tests position error ∧
        interruption.sent tests before idents =
          (deleteQueries kind (.among idents)).take position := by
  have passes : interruption.fails tests before = (fun _ => none) →
      interruption.sent tests before idents = deleteQueries kind (.among idents) := by
    intro none_
    rw [Break.sent, none_, untilFailure_none]
  cases interruption with
  | statement round position error =>
      by_cases here : tests = round
      · subst here
        refine .inr ⟨position, error, rfl, ?_⟩
        have fails : (Break.statement tests position error).fails tests before =
            fun sent => if sent = before + position then some error else none := by
          funext sent
          simp only [Break.fails, true_and]
        rw [← untilFailure_at before position error, Break.sent, fails]
      · refine .inl ⟨fun _ _ same => here (Break.statement.inj same).1.symm, passes ?_⟩
        funext sent
        simp only [Break.fails, here, false_and, if_false]
  | _ => exact .inl ⟨nofun, passes rfl⟩

variable (interruption) in
theorem AtBatch.deleted (atBatch : AtBatch criteria options initial flushed [] todo counters
      connection) (several : 1 < options.eventsPerTransaction)
    (some_ : todo ≠ []) {afterwards : Connection}
    (erased : ErasedTo connection (kept
      (deleteQueries kind (.among (todo.take options.eventsPerTransaction)))
        (cleared kind (flushed ++ []) initial)) afterwards) (M : Type) :
    ∃ flushed' pending' after later,
      flushed' ++ pending' ++ todo.drop options.eventsPerTransaction = flushed ++ [] ++ todo ∧
      later.tests = connection.tests ∧
      AtBatch criteria options initial flushed' pending'
        (todo.drop options.eventsPerTransaction) after { later with tests := later.tests + 1 } ∧
      ∀ rest : Counters → Command M (Int × Counters),
        (flushTransactionIfNeeded { options with deleteCopied := true } counters
            (todo.take options.eventsPerTransaction).length rest).run
          (deletingUntil interruption criteria.toCriteria) afterwards =
            (rest after).run (deletingUntil interruption criteria.toCriteria) later := by
  have positive : options.eventsPerTransaction ≠ 0 := by omega
  have split := List.take_append_drop options.eventsPerTransaction todo
  have length := List.length_take (i := options.eventsPerTransaction) (l := todo)
  have isTodo := List.length_pos_iff.mpr some_
  have whole := atBatch.whole
  have noEvents : counters.eventNo = 0 := atBatch.eventNo
  have counted := atBatch.full rfl
  have isFlushed := atBatch.curCount
  have visible := erased.visible
  have committed := erased.committed.trans atBatch.committed
  have isLast : (todo.take options.eventsPerTransaction).length < options.eventsPerTransaction →
      todo.drop options.eventsPerTransaction = [] := by
    intro short
    exact List.drop_eq_nil_of_le (by omega)
  rw [List.append_nil] at visible whole ⊢
  have nonempty : (todo.take options.eventsPerTransaction).length ≠ 0 := by omega
  have atMost : (todo.take options.eventsPerTransaction).length ≤ options.eventsPerTransaction := by
    omega
  generalize todo.take options.eventsPerTransaction = batch at *
  generalize todo.drop options.eventsPerTransaction = left at *
  subst split
  rw [← List.append_assoc] at whole ⊢
  have gone : kept (deleteQueries kind (.among batch)) (cleared kind flushed initial) =
      cleared kind (flushed ++ batch) initial := cleared_cleared flushed batch initial
  rw [gone] at visible
  have flush := fun rest => run_flush_deleting M criteria interruption counters several nonempty
    erased.inside erased.disabled rest
  by_cases isFull : options.eventsPerTransaction ≤ counters.eventNo + batch.length
  · refine ⟨flushed ++ batch, [], _, _, ?_, ?_, ?_, fun rest => (flush rest).trans (if_pos isFull)⟩
    · rw [List.append_nil]
    · exact erased.tests
    · refine ⟨erased.inside, erased.disabled, ?_, visible, rfl, ?_, atBatch.limitCopy, ?_, ?_,
        fun some_ => absurd rfl some_⟩
      · rw [List.append_nil]
        exact visible
      · show counters.curCount + (counters.eventNo + batch.length) = (flushed ++ batch).length
        rw [List.length_append]
        omega
      · rw [List.append_nil]
        exact whole
      · intro _
        have tests := erased.tests
        show (flushed ++ batch).length = (afterwards.tests + 1) * options.eventsPerTransaction
        rw [List.length_append, tests, Nat.succ_mul]
        omega
  · refine ⟨flushed, batch, _, _, rfl, ?_, ?_, fun rest => (flush rest).trans (if_neg isFull)⟩
    · exact erased.tests
    · have short : batch.length < options.eventsPerTransaction := by omega
      refine ⟨erased.inside, erased.disabled, visible, committed, ?_, isFlushed,
        atBatch.limitCopy, whole, ?_, ?_⟩
      · show counters.eventNo + batch.length = batch.length
        omega
      · intro nothing
        exact absurd (congrArg List.length nothing) nonempty
      · intro _
        have tests := erased.tests
        refine ⟨isLast short, short, ?_⟩
        show flushed.length + options.eventsPerTransaction =
          (afterwards.tests + 1) * options.eventsPerTransaction
        rw [tests, Nat.succ_mul, counted]

/-- What a run comes to that is at the head of a round. -/
def AtBatch.Outcome (M : Type) (interruption : Break kind) (criteria : OwnCriteria kind)
    (options : Options) (counters : Counters) (connection : Connection)
    (left : List Entry × Nat) : Prop :=
  ∃ enough result, (∀ rounds ≥ enough,
      (deleteRounds { options with deleteCopied := true } rounds counters :
        Command M (Int × Counters)).run (deletingUntil interruption criteria.toCriteria)
          connection = result) ∧
    (LeftWith left result ∨ interruption ≠ .none ∧ ¬ interruption.Reports result)

theorem AtBatch.outcome_fetch (M : Type)
    (atBatch : AtBatch criteria options initial flushed pending todo counters connection)
    (several : 1 < options.eventsPerTransaction) {error : ErrorCode}
    (struck : interruption = .fetch connection.tests error) :
    AtBatch.Outcome M interruption criteria options counters connection
      (interruption.leftover options (flushed ++ pending ++ todo) initial) := by
  rcases run_transactionEnd_deleting M criteria interruption counters several atBatch.inside
    error.negative with ⟨result, runs, left⟩
  refine ⟨1, result, fun rounds enough => ?_, .inl ?_⟩
  · rcases Nat.exists_eq_succ_of_ne_zero (Nat.ne_of_gt enough) with ⟨fewer, rfl⟩
    have fails := fetchFails_eq_some.mpr struck
    rw [deleteRounds, fetchMessageIdentsLimited, Program.run_perform]
    simp only [deletingUntil, fails]
    exact runs
  · rw [atBatch.leftover_fetch several struck, ← atBatch.committed, ← atBatch.curCount]
    exact left

theorem AtBatch.outcome_end (M : Type)
    (atBatch : AtBatch criteria options initial flushed pending [] counters connection)
    (several : 1 < options.eventsPerTransaction) (events : options.eventsPerTransaction < 2 ^ 31)
    (answered : interruption.fetchFails connection.tests = none)
    (ahead : ∀ round, interruption.round = some round → connection.tests ≤ round) :
    AtBatch.Outcome M interruption criteria options counters connection
      (interruption.leftover options (flushed ++ pending ++ []) initial) := by
  rcases atBatch.run_end M interruption several (Int.lt_irrefl 0) with
    ⟨result, runs, left, succeeds, _⟩
  refine ⟨1, result, fun rounds enough => ?_, ?_⟩
  · rcases Nat.exists_eq_succ_of_ne_zero (Nat.ne_of_gt enough) with ⟨fewer, rfl⟩
    rw [deleteRounds, atBatch.run_fetch events answered]
    simp only [List.take_nil, List.length_nil, Int.natCast_zero, Int.le_refl, if_true]
    exact runs
  · cases isBreak : interruption with
    | none => exact .inl (leftover_none rfl ▸ left)
    | signal round =>
        have early := ahead round (isBreak ▸ rfl)
        exact .inl (atBatch.leftover_signal rfl (.inr ⟨rfl, early⟩) ▸ left)
    | fetch | statement =>
        refine .inr ⟨fun isNone => by (cases isNone), ?_⟩
        rintro (failed | ⟨_, isSignal, _⟩)
        · omega
        · cases isSignal

/-- What a round does behind the flush of its deletion. -/
def behindDeletion (options : Options) (rounds : Nat) (ret : Int) (counters : Counters) :
    Command M (Int × Counters) :=
  if ret < 0 then transactionEnd options ret counters
  else .perform .stopProcessing fun stop =>
    if stop then transactionEnd options ret counters else deleteRounds options rounds counters

theorem AtBatch.run_round (M : Type)
    (atBatch : AtBatch criteria options initial flushed [] todo counters connection)
    (several : 1 < options.eventsPerTransaction) (events : options.eventsPerTransaction < 2 ^ 31)
    (answered : interruption.fetchFails connection.tests = none) (some_ : todo ≠ []) :
    ∃ ret afterwards,
      ErasedTo connection (kept (interruption.sent connection.tests connection.store.sent
        (todo.take options.eventsPerTransaction)) (cleared kind (flushed ++ []) initial))
          afterwards ∧
      (ret < 0 ↔ (interruption.sent connection.tests connection.store.sent
        (todo.take options.eventsPerTransaction)).length < (deleteShapes kind).length) ∧
      ∀ rounds, (deleteRounds { options with deleteCopied := true } (rounds + 1) counters :
          Command M (Int × Counters)).run (deletingUntil interruption criteria.toCriteria)
            connection =
        (flushTransactionIfNeeded { options with deleteCopied := true } counters
            (todo.take options.eventsPerTransaction).length
              (behindDeletion (M := M) { options with deleteCopied := true } rounds ret)).run
          (deletingUntil interruption criteria.toCriteria) afterwards := by
  have found : todo.take options.eventsPerTransaction ≠ [] := by
    rw [Ne, List.take_eq_nil_iff, not_or]
    exact ⟨by omega, some_⟩
  rcases atBatch.run_deletion interruption M found with
    ⟨ret, afterwards, runs, erased, negative⟩
  have length : (deleteQueries kind (.among (todo.take options.eventsPerTransaction))).length =
      (deleteShapes kind).length := by
    rw [deleteQueries_eq, List.length_map]
  refine ⟨ret, afterwards, erased, length ▸ negative, fun rounds => ?_⟩
  have positive : ¬ ((todo.take options.eventsPerTransaction).length : Int) ≤ 0 := by
    have nonempty := List.length_pos_iff.mpr found
    omega
  rw [deleteRounds, atBatch.run_fetch events answered]
  simp only [if_neg positive, Program.run_perform, runs, Int.toNat_natCast]
  rfl

theorem AtBatch.outcome_statement (M : Type)
    (atBatch : AtBatch criteria options initial flushed [] todo counters connection)
    (several : 1 < options.eventsPerTransaction) (events : options.eventsPerTransaction < 2 ^ 31)
    (some_ : todo ≠ []) {position : Fin (deleteShapes kind).length} {error : ErrorCode}
    (struck : interruption = .statement connection.tests position error)
    (isSent : interruption.sent connection.tests connection.store.sent
        (todo.take options.eventsPerTransaction) =
      (deleteQueries kind (.among (todo.take options.eventsPerTransaction))).take position) :
    AtBatch.Outcome M interruption criteria options counters connection
      (interruption.leftover options (flushed ++ [] ++ todo) initial) := by
  have answered : interruption.fetchFails connection.tests = none := by rw [struck]; rfl
  rcases atBatch.run_round M several events answered some_ with
    ⟨ret, afterwards, erased, negative, runs⟩
  have failed : ret < 0 := by
    rw [negative, isSent, List.length_take]
    exact Nat.lt_of_le_of_lt (Nat.min_le_left _ _) position.isLt
  have noEvents : counters.eventNo = 0 := atBatch.eventNo
  have length := List.length_take (i := options.eventsPerTransaction) (l := todo)
  have isTodo := List.length_pos_iff.mpr some_
  have nonempty : (todo.take options.eventsPerTransaction).length ≠ 0 := by omega
  have flush := fun rest => run_flush_deleting M criteria interruption counters several nonempty
    erased.inside erased.disabled rest
  have left := atBatch.leftover_statement struck
  have visible := erased.visible
  rw [isSent, List.append_nil] at visible
  by_cases isFull : options.eventsPerTransaction ≤
      counters.eventNo + (todo.take options.eventsPerTransaction).length
  · have notShort : ¬ (todo.take options.eventsPerTransaction).length <
        options.eventsPerTransaction := by omega
    have inside : afterwards.flushed.inTransaction = true := erased.inside
    rcases run_transactionEnd_deleting M criteria interruption
      { counters with
        eventNo := 0
        curCount := counters.curCount +
          (counters.eventNo + (todo.take options.eventsPerTransaction).length) }
      several inside failed with ⟨result, ends, leftWith⟩
    refine ⟨1, result, fun rounds enough => ?_, .inl ?_⟩
    · rcases Nat.exists_eq_succ_of_ne_zero (Nat.ne_of_gt enough) with ⟨fewer, rfl⟩
      rw [runs, flush, if_pos isFull, behindDeletion, if_pos failed]
      exact ends
    · have counted : counters.curCount + (counters.eventNo +
          (todo.take options.eventsPerTransaction).length) =
            flushed.length + options.eventsPerTransaction := by
        rw [atBatch.curCount]
        omega
      rw [left, if_neg notShort, ← visible, ← counted]
      exact leftWith
  · have short : (todo.take options.eventsPerTransaction).length <
        options.eventsPerTransaction := by omega
    rcases run_transactionEnd_deleting M criteria interruption
      { counters with
        eventNo := counters.eventNo + (todo.take options.eventsPerTransaction).length }
      several erased.inside failed with ⟨result, ends, leftWith⟩
    refine ⟨1, result, fun rounds enough => ?_, .inl ?_⟩
    · rcases Nat.exists_eq_succ_of_ne_zero (Nat.ne_of_gt enough) with ⟨fewer, rfl⟩
      rw [runs, flush, if_neg isFull, behindDeletion, if_pos failed]
      exact ends
    · rw [left, if_pos short, ← atBatch.committed, ← erased.committed, ← atBatch.curCount]
      exact leftWith

/-- Behind a round that was neither struck nor stopped the interruption is still ahead. -/
theorem ahead_next {tests : Nat} (fetched : interruption.fetchFails tests = none)
    (misses : ∀ position error, interruption ≠ .statement tests position error)
    (stop : ¬ interruption.stops tests = true)
    (ahead : ∀ round, interruption.round = some round → tests ≤ round) :
    ∀ round, interruption.round = some round → tests + 1 ≤ round := by
  intro round isRound
  refine Nat.lt_of_le_of_ne (ahead round isRound) ?_
  rintro rfl
  cases interruption with
  | none => cases isRound
  | signal other =>
      obtain rfl : other = tests := Option.some.inj isRound
      exact stop (decide_eq_true rfl)
  | fetch other error =>
      obtain rfl : other = tests := Option.some.inj isRound
      cases fetched.symm.trans (fetchFails_eq_some.mpr rfl)
  | statement other position error =>
      obtain rfl : other = tests := Option.some.inj isRound
      exact misses position error rfl

variable (interruption) in
/-- The induction over what is left of the window. -/
theorem AtBatch.outcome (M : Type)
    (atBatch : AtBatch criteria options initial flushed pending todo counters connection)
    (several : 1 < options.eventsPerTransaction) (events : options.eventsPerTransaction < 2 ^ 31)
    (ahead : ∀ round, interruption.round = some round → connection.tests ≤ round) :
    AtBatch.Outcome M interruption criteria options counters connection
      (interruption.leftover options (flushed ++ pending ++ todo) initial) := by
  induction size : todo.length using Nat.strongRecOn
    generalizing flushed pending todo counters connection with
  | ind length ih =>
      cases fetched : interruption.fetchFails connection.tests with
      | some error => exact atBatch.outcome_fetch M several (fetchFails_eq_some.mp fetched)
      | none =>
          by_cases nothing : todo = []
          · subst nothing
            exact atBatch.outcome_end M several events fetched ahead
          · have none_ : pending = [] := by
              by_contra waiting
              exact nothing (atBatch.last waiting).1
            subst none_
            rcases sent_eq interruption connection.tests connection.store.sent
                (todo.take options.eventsPerTransaction) with
              ⟨misses, all⟩ | ⟨position, error, struck, isSent⟩
            · rcases atBatch.run_round M several events fetched nothing with
                ⟨ret, afterwards, erased, negative, runs⟩
              have succeeded : ¬ ret < 0 := by
                rw [negative, all, deleteQueries_eq, List.length_map]
                exact Nat.lt_irrefl _
              rw [all] at erased
              rcases atBatch.deleted interruption several nothing erased M with
                ⟨flushed', pending', after, later, sameWindow, tests, next, flush⟩
              have shorter : (todo.drop options.eventsPerTransaction).length < length := by
                have isTodo := List.length_pos_iff.mpr nothing
                rw [List.length_drop]
                omega
              by_cases stop : interruption.stops connection.tests = true
              · rcases next.run_end M interruption several succeeded with
                  ⟨result, ends, left, _⟩
                refine ⟨1, result, fun rounds enough => ?_, .inl ?_⟩
                · rcases Nat.exists_eq_succ_of_ne_zero (Nat.ne_of_gt enough) with ⟨fewer, rfl⟩
                  rw [runs, flush, behindDeletion, if_neg succeeded, Program.run_perform]
                  simp only [deletingUntil, deleting, tests, stop, if_true]
                  rw [← ends, tests]
                · cases interruption with
                  | signal round =>
                      obtain rfl : connection.tests = round := of_decide_eq_true stop
                      have isNext : later.tests + 1 = connection.tests + 1 := by rw [tests]
                      rw [← sameWindow, next.leftover_signal rfl (.inl isNext)]
                      exact left
                  | _ => exact absurd stop Bool.false_ne_true
              · have further : ∀ round, interruption.round = some round →
                    later.tests + 1 ≤ round := by
                  rw [tests]
                  exact ahead_next fetched misses stop ahead
                rcases ih _ shorter next further rfl with ⟨bound, result, ends, outcome⟩
                refine ⟨bound + 1, result, fun rounds enough => ?_, sameWindow ▸ outcome⟩
                rcases Nat.exists_eq_succ_of_ne_zero
                  (Nat.ne_of_gt (Nat.zero_lt_of_lt enough)) with ⟨fewer, rfl⟩
                rw [runs, flush, behindDeletion, if_neg succeeded, Program.run_perform]
                simp only [deletingUntil, deleting, tests, stop, Bool.false_eq_true, if_false]
                rw [← ends fewer (Nat.le_of_succ_le_succ enough), tests]
            · exact atBatch.outcome_statement M several events nothing struck isSent

end Run

end RequiemDB.Admin
