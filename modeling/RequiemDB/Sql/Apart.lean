import RequiemDB.Sql.Steps

/-!
# When two threads keep their transactions apart

A thread that holds the mutex runs alone: the other one can test or clear
`internal_transaction_disabled`, and waits at its next lock. The transaction of the user is
one such critical section. The insertion of the other thread is one if both of its tests
find the flag clear. Behind a first test that finds it set the statements run when the user's
transaction is over, and so in none; behind a second one the transaction stays open.
-/

namespace RequiemDB.Stepwise

open Lib Handle

variable {E : EnumKind → Type} [Librequiem E]

/-- The thread holds the mutex. -/
def Holds (party : Party) (shared : Shared) : Prop := shared.holder = some party

/-- What happens to the state while a thread holds the mutex, and the other one has its turns. -/
def Relies (party : Party) (shared other : Shared) : Prop :=
  ∃ flag tests,
    other = { shared with internalTransactionDisabled := flag, tests := tests } ∧
      tests party = shared.tests party ∧
      (party = .user → flag = shared.internalTransactionDisabled)

section Inside

variable {party : Party} {post : Steps Int → Shared → Prop} {shared other : Shared}

theorem relies_refl (party : Party) (shared : Shared) : Relies party shared shared :=
  ⟨shared.internalTransactionDisabled, shared.tests, rfl, rfl, fun _ => rfl⟩

theorem Relies.trans {third : Shared} (first : Relies party shared other)
    (second : Relies party other third) : Relies party shared third := by
  rcases first with ⟨flag, tests, rfl, sameTests, sameFlag⟩
  rcases second with ⟨later, laterTests, rfl, keptTests, keptFlag⟩
  exact ⟨later, laterTests, rfl, keptTests.trans sameTests,
    fun isUser => (keptFlag isUser).trans (sameFlag isUser)⟩

/-- An answer inside of the section stays one. -/
def Stable (party : Party) (post : Steps Int → Shared → Prop) : Prop :=
  ∀ {answer shared other}, post (.done answer) shared → Relies party shared other →
    post (.done answer) other

abbrev Section (party : Party) (post : Steps Int → Shared → Prop) :
    Steps Int → Shared → Prop :=
  Critical serve party (Holds party) (Relies party) post

/-- A step that is served at once, whatever the flag, and does not touch the mutex. -/
structure Inner (party : Party) (op : Step) (effect : Shared → StepReply op × Shared) :
    Prop where
  served : ∀ shared, serve party op shared = some (effect shared)
  reply : ∀ {shared other}, Relies party shared other → (effect other).1 = (effect shared).1
  relies : ∀ {shared other}, Relies party shared other →
    Relies party (effect shared).2 (effect other).2
  holder : ∀ shared, (effect shared).2.holder = shared.holder
  depth : ∀ shared depth, effect { shared with depth } =
    ((effect shared).1, { (effect shared).2 with depth })

theorem Inner.depth_eq {op : Step} {effect : Shared → StepReply op × Shared}
    (inner : Inner party op effect) (shared : Shared) :
    (effect shared).2.depth = shared.depth :=
  congrArg (fun outcome => outcome.2.depth) (inner.depth shared shared.depth)

theorem inner_call (party : Party) (op : SqlOp) :
    Inner party (.call op) fun shared => shared.call party op where
  served := fun _ => rfl
  reply := by
    rintro shared _ ⟨flag, tests, rfl, _⟩
    rfl
  relies := by
    rintro shared _ ⟨flag, tests, rfl, sameTests, sameFlag⟩
    refine ⟨flag, tests, ?_⟩
    simp only [Shared.call]
    split <;> exact ⟨rfl, sameTests, sameFlag⟩
  holder := by
    intro shared
    simp only [Shared.call]
    split <;> rfl
  depth := by
    intro shared depth
    simp only [Shared.call]
    split <;> rfl

theorem inner_query (party : Party) (text : Query) :
    Inner party (.query text) fun shared => (0, shared.carryOut text) where
  served := fun _ => rfl
  reply := fun _ => rfl
  relies := by
    rintro shared _ ⟨flag, tests, rfl, sameTests, sameFlag⟩
    cases text <;> exact ⟨flag, tests, rfl, sameTests, sameFlag⟩
  holder := fun _ => by cases text <;> rfl
  depth := fun _ _ => by cases text <;> rfl

theorem inner_testStatus (party : Party) :
    Inner party .testStatus fun shared => (shared.inTransaction, shared) where
  served := fun _ => rfl
  reply := by
    rintro shared _ ⟨flag, tests, rfl, _⟩
    rfl
  relies := id
  holder := fun _ => rfl
  depth := fun _ _ => rfl

theorem inner_setStatus (party : Party) (value : Bool) :
    Inner party (.setStatus value) fun shared => ((), { shared with inTransaction := value }) where
  served := fun _ => rfl
  reply := fun _ => rfl
  relies := by
    rintro shared _ ⟨flag, tests, rfl, sameTests, sameFlag⟩
    exact ⟨flag, tests, rfl, sameTests, sameFlag⟩
  holder := fun _ => rfl
  depth := fun _ _ => rfl

theorem inner_setDisabled (party : Party) (value : Bool) :
    Inner party (.setDisabled value) fun shared =>
      ((), { shared with internalTransactionDisabled := value }) where
  served := fun _ => rfl
  reply := fun _ => rfl
  relies := by
    rintro shared _ ⟨flag, tests, rfl, sameTests, _⟩
    exact ⟨value, tests, rfl, sameTests, fun _ => rfl⟩
  holder := fun _ => rfl
  depth := fun _ _ => rfl

variable {op : Step} {effect : Shared → StepReply op × Shared} {rest : StepReply op → Steps Int}

theorem section_step (stable : Stable party post) (inner : Inner party op effect)
    (holds : Holds party shared)
    (later : Section party post (rest (effect shared).1) (effect shared).2) :
    Section party post (.perform op rest) shared := by
  refine critical_perform fun before relies => ?_
  have holder : before.holder = some party := by
    rcases relies with ⟨flag, tests, rfl, _⟩
    exact holds
  refine ⟨(effect before).1, (effect before).2, inner.served before, ?_, ?_⟩
  · exact (inner.holder before).trans holder
  · rw [inner.reply relies]
    exact later.relied Relies.trans stable (inner.relies relies)

theorem section_lock {rest : Unit → Steps Int} (stable : Stable party post)
    (holds : Holds party shared)
    (later : Section party post (rest ()) { shared with depth := shared.depth + 1 }) :
    Section party post (.perform .lock rest) shared := by
  refine critical_perform ?_
  rintro _ ⟨flag, tests, rfl, sameTests, sameFlag⟩
  have holder : shared.holder = some party := holds
  refine ⟨(), { shared with
    internalTransactionDisabled := flag, tests := tests, depth := shared.depth + 1 }, ?_,
    holds, ?_⟩
  · simp [serve, Shared.serve, holder]
  · exact later.relied Relies.trans stable ⟨flag, tests, rfl, sameTests, sameFlag⟩

/-- The unlock that answers a lock inside of the section. -/
theorem section_unlock {rest : Unit → Steps Int} (stable : Stable party post)
    (holds : Holds party shared) (nested : shared.depth ≠ 1)
    (later : Section party post (rest ()) { shared with depth := shared.depth - 1 }) :
    Section party post (.perform .unlock rest) shared := by
  refine critical_perform ?_
  rintro _ ⟨flag, tests, rfl, sameTests, sameFlag⟩
  have holder : shared.holder = some party := holds
  refine ⟨(), { shared with
    internalTransactionDisabled := flag, tests := tests, depth := shared.depth - 1 }, ?_,
    holds, ?_⟩
  · simp [serve, Shared.serve, holder, nested]
  · exact later.relied Relies.trans stable ⟨flag, tests, rfl, sameTests, sameFlag⟩

theorem section_leave {rest : Unit → Steps Int} (holds : Holds party shared)
    (once : shared.depth = 1)
    (later : ∀ other, Relies party shared other →
      post (rest ()) { other with holder := none, depth := 0 }) :
    Section party post (.perform .unlock rest) shared := by
  intro before relies
  refine ⟨(), { before with holder := none, depth := 0 }, ?_, ?_, fun _ => later before relies⟩
  · rcases relies with ⟨flag, tests, rfl, _⟩
    have holder : shared.holder = some party := holds
    simp [serve, Shared.serve, holder, once]
  · intro stillHolds
    exact absurd stillHolds (by simp [Holds])

/-- A step under the mutex, which the thread holds anyway. -/
theorem section_locked (stable : Stable party post) (inner : Inner party op effect)
    (holds : Holds party shared) (once : shared.depth = 1)
    (later : Section party post (rest (effect shared).1) (effect shared).2) :
    Section party post (.perform .lock fun _ => .perform op fun reply =>
      .perform .unlock fun _ => rest reply) shared := by
  have holder : (effect shared).2.holder = some party := (inner.holder shared).trans holds
  have depth : (effect shared).2.depth = 1 := (inner.depth_eq shared).trans once
  refine section_lock stable holds (section_step stable inner holds ?_)
  rw [inner.depth]
  refine section_unlock stable holder (by simp [once]) ?_
  have same : { (effect shared).2 with depth := shared.depth + 1 - 1 } = (effect shared).2 := by
    rw [Nat.add_sub_cancel, once, ← depth]
  exact same ▸ later

/-- The calls that start and end transactions. -/
def IsTransaction : SqlOp → Prop
  | .transactionStart | .transactionEnd | .transactionAbort => True
  | _ => False

theorem section_pluginCall (stable : Stable party post) {op : SqlOp} (inner : ¬ IsTransaction op)
    {rest : SqlReply op → Steps Int} (holds : Holds party shared) (once : shared.depth = 1)
    (later : Section party post (rest (shared.call party op).1) (shared.call party op).2) :
    Section party post (pluginCall op >>= rest) shared := by
  cases op with
  | transactionStart | transactionEnd | transactionAbort => exact absurd trivial inner
  | fetchRow | fetchField => exact section_step stable (inner_call party _) holds later
  | escape input =>
      cases input with
      | none => exact section_step stable (inner_call party _) holds later
      | some text => exact section_locked stable (inner_call party _) holds once later
  | escapeBinary | unescapeBinary | insertMessage | insert | delete | selectMaxIdent | select =>
      exact section_locked stable (inner_call party _) holds once later

end Inside

section User

variable {shared : Shared}

/-- The user's thread has ended its transaction, and has yet to clear the flag. -/
def Ended (program : Steps Int) (shared : Shared) : Prop :=
  program = (.perform (.setDisabled false) fun _ => .done 0) ∧
    shared.holder = none ∧ shared.inTransaction = false ∧ shared.open_ = none

theorem stable_ended : Stable .user Ended := by
  rintro answer shared other ⟨isEnd, _⟩ _
  exact absurd isEnd (by simp)

/-- In the transaction of the user, between its calls. -/
structure InTransaction (shared : Shared) : Prop where
  holder : shared.holder = some .user
  depth : shared.depth = 1
  inTransaction : shared.inTransaction = true
  disabled : shared.internalTransactionDisabled = true

theorem InTransaction.call (inside : InTransaction shared) (op : SqlOp) :
    InTransaction (shared.call .user op).2 := by
  simp only [Shared.call]
  split <;> exact ⟨inside.holder, inside.depth, inside.inTransaction, inside.disabled⟩

/-- The functions of the plugin leave the transaction of the user open. -/
theorem section_stepsOf_user {α : Type} {program : Sql α} {rest : α → Steps Int}
    (inside : InTransaction shared)
    (later : ∀ answer after, InTransaction after → Section .user Ended (rest answer) after) :
    Section .user Ended (stepsOf program >>= rest) shared := by
  induction program generalizing shared with
  | done answer => exact later answer shared inside
  | perform op next ih =>
      have skips : ∀ function : Steps Int, ∀ onward : Int → Steps Int,
          (∀ after, InTransaction after → Section .user Ended (onward 0) after) →
          Section .user Ended (unlessDisabled function >>= onward) shared := by
        intro function onward goesOn
        refine critical_perform ?_
        rintro _ ⟨flag, tests, rfl, _, sameFlag⟩
        have isSet : flag = true := (sameFlag rfl).trans inside.disabled
        subst isSet
        refine ⟨true, _, rfl, inside.holder, ?_⟩
        exact goesOn _ ⟨inside.holder, inside.depth, inside.inTransaction, rfl⟩
      have calls : ¬ IsTransaction op →
          Section .user Ended (stepsOf (.perform op next) >>= rest) shared := by
        intro inner
        rw [stepsOf, Program.bind_assoc]
        exact section_pluginCall stable_ended inner inside.holder inside.depth
          (ih _ (inside.call op))
      cases op with
      | transactionStart | transactionEnd | transactionAbort =>
          rw [stepsOf, Program.bind_assoc]
          exact skips _ _ fun after behind => ih 0 behind
      | fetchRow | fetchField | escape | escapeBinary | unescapeBinary | insertMessage | insert
      | delete | selectMaxIdent | select => exact calls id

theorem section_insertAll (messages : List (Message E)) {rest : Int → Steps Int}
    (inside : InTransaction shared)
    (later : ∀ after, InTransaction after → Section .user Ended (rest 0) after) :
    Section .user Ended (insertAll messages >>= rest) shared := by
  induction messages generalizing shared with
  | nil => exact later shared inside
  | cons message messages ih =>
      rw [insertAll, Program.bind_assoc]
      exact section_stepsOf_user inside fun _ after behind => ih behind

theorem section_requiemdbTransactionEnd (inside : InTransaction shared) :
    Section .user Ended requiemdbTransactionEnd shared := by
  refine section_step stable_ended (inner_testStatus .user) inside.holder ?_
  rw [inside.inTransaction]
  refine section_locked stable_ended (inner_query .user .commit) inside.holder inside.depth ?_
  refine section_step stable_ended (inner_setStatus .user false) inside.holder ?_
  refine section_leave inside.holder inside.depth ?_
  rintro _ ⟨flag, tests, rfl, _⟩
  exact ⟨rfl, rfl, rfl, rfl⟩

variable (shared) in
/-- The steps behind the lock with which the transaction of the user begins. -/
theorem section_transacting (messages : List (Message E)) (holder : shared.holder = some .user)
    (depth : shared.depth = 1) (outside : shared.inTransaction = false) :
    ∃ next, transacting messages = .perform .lock next ∧
      Section .user Ended (next ()) shared := by
  refine ⟨_, rfl, ?_⟩
  refine section_step stable_ended (inner_testStatus .user) holder ?_
  rw [outside]
  refine section_locked stable_ended (inner_query .user .begin) holder depth ?_
  refine section_step stable_ended (inner_setStatus .user true) holder ?_
  refine section_step stable_ended (inner_setDisabled .user true) holder ?_
  refine section_insertAll messages ⟨holder, depth, rfl, rfl⟩ fun after behind => ?_
  exact section_requiemdbTransactionEnd behind

end User

section Inserter

variable {shared : Shared}

/-- The statements of the inserter ran in one transaction, which is committed. -/
structure Kept (shared : Shared) (ret : Int) : Prop where
  tests : ∀ test ∈ shared.tests .inserter, test = false
  whole : ∃ transaction ∈ shared.committed,
    ∀ place ∈ shared.statements .inserter, place = some transaction
  succeeded : 0 ≤ ret

/-- The transaction of the inserter is left open, with the mutex locked. -/
structure Stranded (shared : Shared) : Prop where
  tests : true ∈ shared.tests .inserter
  lost : ∃ transaction, some transaction ∈ shared.statements .inserter ∧
    transaction ∉ shared.committed
  holder : shared.holder = some .inserter

/-- The end of an insertion in a transaction of its own. -/
def Finished (program : Steps Int) (shared : Shared) : Prop :=
  ∃ ret, program = .done ret ∧ (Kept shared ret ∨ Stranded shared)

theorem stable_finished : Stable .inserter Finished := by
  rintro answer shared _ ⟨ret, isEnd, ending⟩ ⟨flag, tests, rfl, sameTests, _⟩
  refine ⟨ret, isEnd, ?_⟩
  rcases ending with kept | stranded
  · refine .inl ⟨?_, kept.whole, kept.succeeded⟩
    show ∀ test ∈ tests .inserter, test = false
    rw [sameTests]
    exact kept.tests
  · refine .inr ⟨?_, stranded.lost, stranded.holder⟩
    show true ∈ tests .inserter
    rw [sameTests]
    exact stranded.tests

/-- In a transaction of the inserter's own, with more than `sent` statements behind the first. -/
structure InOwn (transaction sent : Nat) (shared : Shared) : Prop where
  holder : shared.holder = some .inserter
  depth : shared.depth = 1
  inTransaction : shared.inTransaction = true
  open_ : shared.open_ = some transaction
  fresh : transaction ∉ shared.committed
  statements : ∀ place ∈ shared.statements .inserter, place = some transaction
  tests : ∀ test ∈ shared.tests .inserter, test = false
  some_ : sent < shared.store.sent → some transaction ∈ shared.statements .inserter

theorem InOwn.call {transaction sent : Nat} (inside : InOwn transaction sent shared)
    {op : SqlOp} (inner : ¬ IsTransaction op) :
    InOwn transaction sent (shared.call .inserter op).2 ∧
      (shared.call .inserter op).2.store = (RequiemDB.environment noFaults op shared.store).2 := by
  rcases inside with ⟨holder, depth, inTransaction, isOpen, fresh, statements, tests, some_⟩
  simp only [Shared.call]
  split
  · rename_i isStatement
    refine ⟨⟨holder, depth, inTransaction, isOpen, fresh, ?_, tests, ?_⟩, ?_⟩
    · intro place present
      simp only [Function.update_self, List.mem_append, List.mem_singleton] at present
      rcases present with earlier | last
      · exact statements place earlier
      · rw [last, isOpen]
    · intro _
      simp [isOpen]
    · simp [isOpen]
  · rename_i noStatement
    refine ⟨⟨holder, depth, inTransaction, isOpen, fresh, statements, tests, ?_⟩, rfl⟩
    have same : (RequiemDB.environment noFaults op shared.store).2.sent = shared.store.sent := by
      cases op <;>
        first
        | exact absurd trivial inner
        | exact absurd rfl noStatement
        | rfl
    rw [same]
    exact some_

/-- An insertion inside of its transaction runs like one that is alone. -/
theorem section_stepsOf_inserter {α : Type} {transaction sent : Nat} {program : Sql α}
    {rest : α → Steps Int} (inside : InOwn transaction sent shared)
    (inner : program.Along (RequiemDB.environment noFaults) (fun op _ => ¬ IsTransaction op)
      shared.store)
    (later : ∀ after, InOwn transaction sent after →
      after.store = (program.run (RequiemDB.environment noFaults) shared.store).2 →
      Section .inserter Finished
        (rest (program.run (RequiemDB.environment noFaults) shared.store).1) after) :
    Section .inserter Finished (stepsOf program >>= rest) shared := by
  induction program generalizing shared with
  | done answer => exact later shared inside rfl
  | perform op next ih =>
      rcases inner with ⟨here, onward⟩
      rcases inside.call here with ⟨behind, store⟩
      rw [stepsOf, Program.bind_assoc]
      refine section_pluginCall stable_finished here inside.holder inside.depth ?_
      rw [← store] at onward
      refine ih _ behind onward fun after insideAfter sameStore => ?_
      rw [store] at sameStore ⊢
      exact later after insideAfter sameStore

/-- An insertion that meets no failure starts and ends no transaction. -/
def Inward (program : Sql Int) (store : Store) : Prop :=
  program.Along (RequiemDB.environment noFaults) (fun op _ => ¬ IsTransaction op) store

theorem emits_inward {program : Sql Int} {script : Script Row} (emits : Emits program script)
    (store : Store) : Inward program store := by
  induction emits generalizing store with
  | done => exact trivial
  | escape _ _ ih | escapeBinary _ _ ih => exact ⟨id, ih store⟩
  | must _ _ ih => exact ⟨id, ih 0 (by decide) _⟩
  | ignore _ ih => exact ⟨id, ih 0 _⟩
  | «instead» _ _ _ ih => exact ⟨id, ih 0 (by decide) _⟩

theorem getLastInsertIdent_inward {rest : Nat → Sql Int} (table : MessageTable)
    (inward : ∀ ident store, Inward (rest ident) store) (store : Store) :
    Inward (getLastInsertIdent table rest) store := by
  refine ⟨id, id, id, ?_⟩
  simp only [environment_noFaults, Store.accept]
  split
  · exact trivial
  · exact trivial
  · exact inward _ _

theorem insertMessage_inward (message : Message E) (store : Store) :
    Inward (insertMessage message) store := by
  rw [insertMessage_eq]
  refine ⟨id, id, ?_⟩
  exact getLastInsertIdent_inward message.table
    (fun ident => emits_inward (emits_insertMessageParts ident message)) _

theorem insertMessage_succeeds (message : Message E) (store : Store) :
    0 ≤ ((insertMessage message).run (RequiemDB.environment noFaults) store).1 ∧
      store.sent <
        ((insertMessage message).run (RequiemDB.environment noFaults) store).2.sent := by
  have finished : (messageScript (settledIdent message store) message).exec
      (failed fun _ => none) (store.sent + 2) = _ := Script.exec_of_nothingFails fun _ _ => rfl
  have outcome := (emits_insertMessageParts (settledIdent message store) message).outcome
    (fun _ => none) { store.insertMessage message.table message.cells with sent := store.sent + 2 }
  rw [← statementFaults_none, run_insertMessage_of_succeeds message store rfl rfl]
  rw [finished] at outcome
  rcases outcome with ⟨succeeded, reached⟩
  refine ⟨succeeded, ?_⟩
  rw [reached]
  show store.sent < store.sent + 2 + _
  omega

/-- The steps behind the lock with which a transaction of the inserter begins. -/
def cleared (message : Message E) : Steps Int :=
  sqlTransactionStart >>= fun ret => stepsOf (if ret < 0 then .done ret
    else insertMessage message >>= closeTransaction)

theorem stepsOf_bind {α β : Type} (program : Sql α) (rest : α → Sql β) :
    stepsOf (program >>= rest) = stepsOf program >>= fun answer => stepsOf (rest answer) := by
  induction program with
  | done answer => rfl
  | perform op next ih =>
      rw [Program.perform_bind, stepsOf, stepsOf, Program.bind_assoc]
      exact congrArg _ (funext ih)

theorem section_sqlTransactionEnd {transaction sent : Nat}
    (inside : InOwn transaction sent shared) :
    Section .inserter Finished sqlTransactionEnd shared := by
  refine section_step stable_finished (inner_testStatus .inserter) inside.holder ?_
  simp only [inside.inTransaction]
  refine section_locked stable_finished (inner_query .inserter .commit) inside.holder
    inside.depth ?_
  refine section_step stable_finished (inner_setStatus .inserter false) inside.holder ?_
  refine section_leave inside.holder inside.depth ?_
  rintro _ ⟨flag, tests, rfl, sameTests, _⟩
  have areTests : tests .inserter = shared.tests .inserter := sameTests
  refine ⟨0, rfl, .inl ⟨?_, ⟨transaction, ?_, inside.statements⟩, Int.le_refl 0⟩⟩
  · show ∀ test ∈ tests .inserter, test = false
    rw [areTests]
    exact inside.tests
  · simp [Shared.carryOut, inside.open_]

/-- The end of the insertion, by what the second test finds. -/
theorem section_closeTransaction {transaction sent : Nat} (inside : InOwn transaction sent shared)
    (sentSome : sent < shared.store.sent) {ret : Int} (succeeded : 0 ≤ ret) :
    Section .inserter Finished (stepsOf (closeTransaction ret)) shared := by
  rw [closeTransaction, if_neg (Int.not_lt.mpr succeeded), stepsOf]
  refine critical_perform ?_
  rintro _ ⟨flag, tests, rfl, sameTests, _⟩
  cases flag with
  | true =>
      refine ⟨true, _, rfl, inside.holder, 0, rfl, .inr ⟨?_, ?_, inside.holder⟩⟩
      · simp
      · exact ⟨transaction, inside.some_ sentSome, inside.fresh⟩
  | false =>
      refine ⟨false, _, rfl, inside.holder, ?_⟩
      show Section .inserter Finished (sqlTransactionEnd >>= .done) _
      rw [Program.bind_done]
      refine section_sqlTransactionEnd (show InOwn transaction sent _ from ?_)
      refine ⟨inside.holder, inside.depth, inside.inTransaction, inside.open_, inside.fresh,
        inside.statements, ?_, inside.some_⟩
      intro test present
      simp only [Function.update_self, List.mem_append, List.mem_singleton] at present
      rcases present with earlier | last
      · exact inside.tests test (sameTests ▸ earlier)
      · exact last

/-- Before its first statement. -/
structure Untouched (tests : List Bool) (shared : Shared) : Prop where
  statements : shared.statements .inserter = []
  tests : shared.tests .inserter = tests

/-- The numbers of transactions are given out in order. -/
structure Numbered (shared : Shared) : Prop where
  committed : ∀ transaction ∈ shared.committed, transaction < shared.begun
  open_ : ∀ transaction, shared.open_ = some transaction → transaction < shared.begun

variable (shared) in
/-- The insertion behind a first test that finds the flag clear, once it has the mutex. -/
theorem section_cleared (message : Message E) (holder : shared.holder = some .inserter)
    (depth : shared.depth = 1) (outside : shared.inTransaction = false)
    (untouched : Untouched [false] shared) (numbered : Numbered shared) :
    ∃ next, cleared message = .perform .lock next ∧
      Section .inserter Finished (next ()) shared := by
  refine ⟨_, rfl, ?_⟩
  refine section_step stable_finished (inner_testStatus .inserter) holder ?_
  rw [outside]
  refine section_locked stable_finished (inner_query .inserter .begin) holder depth ?_
  refine section_step stable_finished (inner_setStatus .inserter true) holder ?_
  have fresh : shared.begun ∉ shared.committed := by
    intro present
    exact Nat.lt_irrefl _ (numbered.committed _ present)
  have noStatement : (shared.carryOut .begin).statements .inserter = [] := untouched.statements
  have oneTest : (shared.carryOut .begin).tests .inserter = [false] := untouched.tests
  have inside : InOwn shared.begun shared.store.sent
      { shared.carryOut .begin with inTransaction := true } :=
    ⟨holder, depth, rfl, rfl, fresh, by simp [noStatement], by simp [oneTest],
      fun later => absurd later (Nat.lt_irrefl _)⟩
  show Section .inserter Finished (stepsOf (insertMessage message >>= closeTransaction)) _
  rw [stepsOf_bind]
  rcases insertMessage_succeeds message (shared.carryOut .begin).store with
    ⟨succeeded, sentSome⟩
  refine section_stepsOf_inserter inside (insertMessage_inward message _) ?_
  intro after insideAfter store
  exact section_closeTransaction insideAfter (store ▸ sentSome) succeeded

end Inserter

section Turns

variable {party : Party} {op : Step} {reply : StepReply op} {shared after : Shared}

/-- What a turn adds to the records of the threads. -/
structure Grows (party : Party) (shared after : Shared) : Prop where
  others : ∀ other ≠ party, after.statements other = shared.statements other ∧
    after.tests other = shared.tests other
  statements : shared.statements party ⊆ after.statements party
  tests : shared.tests party ⊆ after.tests party
  committed : shared.committed ⊆ after.committed

theorem serve_grows (served : serve party op shared = some (reply, after)) :
    Grows party shared after := by
  have unchanged : ∀ {same : Shared}, same.statements = shared.statements →
      same.tests = shared.tests → shared.committed ⊆ same.committed →
      Grows party shared same := by
    intro same statements tests committed
    refine ⟨fun other _ => ⟨by rw [statements], by rw [tests]⟩, ?_, ?_, committed⟩
    · rw [statements]
      exact List.Subset.refl _
    · rw [tests]
      exact List.Subset.refl _
  cases op with
  | testDisabled =>
      cases served
      refine ⟨fun other different => ⟨rfl, ?_⟩, List.Subset.refl _, ?_, List.Subset.refl _⟩
      · simp [different]
      · simp
  | setDisabled value | setStatus value | testStatus =>
      cases served
      exact unchanged rfl rfl (List.Subset.refl _)
  | lock | unlock =>
      simp only [serve, Shared.serve] at served
      split at served
      · cases served
        exact unchanged rfl rfl (List.Subset.refl _)
      · split at served <;> cases served
        all_goals exact unchanged rfl rfl (List.Subset.refl _)
  | query text =>
      cases served
      cases text with
      | commit => exact unchanged rfl rfl (List.subset_append_left _ _)
      | begin | rollback | other => exact unchanged rfl rfl (List.Subset.refl _)
  | call op =>
      cases served
      split
      · refine ⟨fun other different => ⟨?_, rfl⟩, ?_, List.Subset.refl _, List.Subset.refl _⟩
        · simp [different]
        · simp
      · exact unchanged rfl rfl (List.Subset.refl _)

theorem serve_numbered (numbered : Numbered shared)
    (served : serve party op shared = some (reply, after)) : Numbered after := by
  rcases numbered with ⟨committed, isOpen⟩
  cases op with
  | testDisabled | setDisabled value | setStatus value | testStatus =>
      cases served
      exact ⟨committed, isOpen⟩
  | lock | unlock =>
      simp only [serve, Shared.serve] at served
      split at served
      · cases served
        exact ⟨committed, isOpen⟩
      · split at served <;> cases served
        all_goals exact ⟨committed, isOpen⟩
  | query text =>
      cases served
      cases text with
      | begin =>
          refine ⟨fun transaction present => ?_, ?_⟩
          · exact Nat.lt_succ_of_lt (committed transaction present)
          · rintro _ ⟨⟩
            exact Nat.lt_succ_self _
      | commit =>
          refine ⟨fun transaction present => ?_,
            fun _ isSome => absurd isSome (by simp [Shared.carryOut])⟩
          rcases List.mem_append.mp present with earlier | last
          · exact committed transaction earlier
          · exact isOpen transaction (Option.mem_toList.mp last)
      | rollback => exact ⟨committed, fun _ isSome => absurd isSome (by simp [Shared.carryOut])⟩
      | other => exact ⟨committed, isOpen⟩
  | call op =>
      cases served
      split <;> exact ⟨committed, isOpen⟩

end Turns

section Phases

variable {messages : List (Message E)} {message : Message E} {user program : Steps Int}
  {op : Step} {next : StepReply op → Steps Int} {reply : StepReply op} {shared after : Shared}

/-- Behind the transaction of the user. -/
def Behind (program : Steps Int) : Prop :=
  program = (.perform (.setDisabled false) fun _ => .done 0) ∨ ∃ ret, program = .done ret

/-- The user's thread has begun, and the inserter does not hold the mutex. -/
inductive Late (user : Steps Int) (shared : Shared) : Prop
  | inside (holder : shared.holder = some .user) (critical : Section .user Ended user shared)
  | behind (behind : Behind user) (free : shared.holder = none)
      (outside : shared.inTransaction = false) (closed : shared.open_ = none)

/-- The user's thread, while the inserter does not hold the mutex. -/
inductive UserAt (messages : List (Message E)) (user : Steps Int) (shared : Shared) : Prop
  | front (isFront : user = transacting messages) (free : shared.holder = none)
      (outside : shared.inTransaction = false) (closed : shared.open_ = none)
      (clear : shared.internalTransactionDisabled = false)
  | late (late : Late user shared)

/-- A thread that holds the mutex that often sends a statement under it before it ends. -/
def Owes : Steps Int → Nat → Prop
  | .perform .lock next, depth => depth = 0 ∧ Owes (next ()) 1
  | .perform .unlock next, depth => depth = 1 ∧ Owes (next ()) 0
  | .perform (.call (.escape input)) next, depth => Owes (next (.ok (stringLiteral input))) depth
  | .perform (.call op) _, depth => depth = 1 ∧ op.isStatement = true
  | _, _ => False

/-- Where both threads are. -/
inductive Phase (messages : List (Message E)) (message : Message E)
    (user program : Steps Int) (shared : Shared) : Prop
  | start (user : UserAt messages user shared) (isStart : program = inserting message)
      (untouched : Untouched [] shared)
  | clear (user : UserAt messages user shared) (isCleared : program = cleared message)
      (untouched : Untouched [false] shared)
  /-- The first test has found the flag set, and no statement was sent yet. -/
  | skipped (late : Late user shared) (owes : Owes program 0)
      (test : true ∈ shared.tests .inserter)
  | skippedHolding (behind : Behind user) (owes : Owes program 1)
      (test : true ∈ shared.tests .inserter) (holder : shared.holder = some .inserter)
      (depth : shared.depth = 1) (outside : shared.inTransaction = false)
      (closed : shared.open_ = none)
  /-- In a transaction of its own, or stranded in it. -/
  | own (user : user = transacting messages ∨ Behind user)
      (holder : shared.holder = some .inserter)
      (critical : Section .inserter Finished program shared)
  | kept {ret : Int} (isDone : program = .done ret) (kept : Kept shared ret)
  /-- A statement ran in no transaction. -/
  | mixed (test : true ∈ shared.tests .inserter)
      (statement : none ∈ shared.statements .inserter)

theorem owes_insertMessage (message : Message E) :
    Owes (stepsOf (insertMessage message >>= closeTransaction)) 0 := by
  rw [insertMessage_eq]
  cases message.messageid with
  | none => exact ⟨rfl, rfl, rfl⟩
  | some text => exact ⟨rfl, rfl, rfl, rfl, rfl⟩

theorem behind_served (behind : Behind (.perform op next))
    (served : serve .user op shared = some (reply, after)) :
    Behind (next reply) ∧ after = { shared with internalTransactionDisabled := false } := by
  rcases behind with isEnd | ⟨ret, isDone⟩
  · cases isEnd
    cases served
    exact ⟨.inr ⟨0, rfl⟩, rfl⟩
  · exact absurd isDone (by simp)

theorem Late.served (late : Late (.perform op next) shared)
    (served : serve .user op shared = some (reply, after)) : Late (next reply) after := by
  cases late with
  | inside holder critical =>
      rcases critical.served (relies_refl .user) with ⟨answer, now, answered, stays, leaves⟩
      rw [served] at answered
      cases answered
      by_cases holds : Holds .user after
      · exact .inside holds (stays holds)
      · rcases leaves holds with ⟨isEnd, free, outside, closed⟩
        exact .behind (.inl isEnd) free outside closed
  | behind behind free outside closed =>
      rcases behind_served behind served with ⟨stillBehind, rfl⟩
      exact .behind stillBehind free outside closed

theorem UserAt.served (user : UserAt messages (.perform op next) shared)
    (served : serve .user op shared = some (reply, after)) :
    UserAt messages (next reply) after := by
  cases user with
  | late late => exact .late (late.served served)
  | front isFront free outside closed clear =>
      rcases section_transacting { shared with holder := some .user, depth := 1 }
        messages rfl rfl outside with ⟨behindLock, isLock, critical⟩
      rw [isLock] at isFront
      cases isFront
      simp only [serve, Shared.serve, free, if_true, Option.some.injEq, Prod.mk.injEq] at served
      rcases served with ⟨_, rfl⟩
      exact .late (.inside rfl critical)

/-- The inserter's records do not change in a turn of the user. -/
theorem untouched_served {tests : List Bool} (untouched : Untouched tests shared)
    (served : serve .user op shared = some (reply, after)) : Untouched tests after := by
  rcases (serve_grows served).others .inserter (by decide) with ⟨statements, sameTests⟩
  exact ⟨statements.trans untouched.statements, sameTests.trans untouched.tests⟩

theorem Phase.user_served (phase : Phase messages message (.perform op next) program shared)
    (served : serve .user op shared = some (reply, after)) :
    Phase messages message (next reply) program after := by
  have grows := serve_grows served
  rcases grows.others .inserter (by decide) with ⟨statements, tests⟩
  cases phase with
  | start user isStart untouched =>
      exact .start (user.served served) isStart (untouched_served untouched served)
  | clear user isCleared untouched =>
      exact .clear (user.served served) isCleared (untouched_served untouched served)
  | skipped late owes test => exact .skipped (late.served served) owes (tests ▸ test)
  | skippedHolding behind owes test holder depth outside closed =>
      rcases behind_served behind served with ⟨stillBehind, rfl⟩
      exact .skippedHolding stillBehind owes test holder depth outside closed
  | own user holder critical =>
      rcases user with isFront | behind
      · -- the user's thread waits for the mutex
        have isLock : ∃ behindLock, transacting messages = .perform .lock behindLock := ⟨_, rfl⟩
        rcases isLock with ⟨behindLock, isLock⟩
        rw [isLock] at isFront
        cases isFront
        simp [serve, Shared.serve, holder] at served
      · rcases behind_served behind served with ⟨stillBehind, rfl⟩
        refine .own (.inr stillBehind) holder ?_
        exact critical.relied Relies.trans stable_finished
          ⟨false, shared.tests, rfl, rfl, fun isUser => absurd isUser (by decide)⟩
  | kept isDone kept =>
      rcases kept with ⟨areClear, ⟨transaction, committed, whole⟩, succeeded⟩
      refine .kept isDone ⟨tests ▸ areClear, ⟨transaction, grows.committed committed, ?_⟩,
        succeeded⟩
      exact statements ▸ whole
  | mixed test statement => exact .mixed (tests ▸ test) (statements ▸ statement)

theorem UserAt.tested (at_ : UserAt messages user shared) (tests : Party → List Bool)
    (same : tests .user = shared.tests .user) :
    UserAt messages user { shared with tests := tests } := by
  cases at_ with
  | front isFront free outside closed clear => exact .front isFront free outside closed clear
  | late late =>
      cases late with
      | inside holder critical =>
          exact .late (.inside holder (critical.relied Relies.trans stable_ended
            ⟨shared.internalTransactionDisabled, tests, rfl, same, fun _ => rfl⟩))
      | behind behind free outside closed => exact .late (.behind behind free outside closed)

theorem phase_of_start (at_ : UserAt messages user shared) (untouched : Untouched [] shared)
    (isStart : Program.perform op next = inserting message)
    (served : serve .inserter op shared = some (reply, after)) :
    Phase messages message user (next reply) after := by
  have isTest : ∃ first, inserting message = .perform .testDisabled first ∧
      first true = stepsOf (insertMessage message >>= closeTransaction) ∧
      first false = cleared message := ⟨_, rfl, rfl, rfl⟩
  rcases isTest with ⟨first, isTest, ifSet, ifClear⟩
  rw [isTest] at isStart
  cases isStart
  cases served
  have tested := at_.tested (Function.update shared.tests .inserter
    (shared.tests .inserter ++ [shared.internalTransactionDisabled])) (by simp)
  cases flag : shared.internalTransactionDisabled with
  | true =>
      rw [ifSet]
      rw [flag] at tested
      cases tested with
      | front _ _ _ _ clear => exact absurd clear (by simp)
      | late late => exact .skipped late (owes_insertMessage message) (by simp)
  | false =>
      rw [flag] at tested
      refine .clear tested ifClear ⟨untouched.statements, ?_⟩
      simp [untouched.tests]

theorem phase_of_clear (at_ : UserAt messages user shared)
    (untouched : Untouched [false] shared) (numbered : Numbered shared)
    (isCleared : Program.perform op next = cleared message)
    (served : serve .inserter op shared = some (reply, after)) :
    Phase messages message user (next reply) after := by
  have locked : Program.perform op next = cleared message →
      ∀ outside : shared.inTransaction = false,
      (user = transacting messages ∨ Behind user) → shared.holder = none →
      Phase messages message user (next reply) after := by
    intro isCleared outside userIs free
    rcases section_cleared { shared with holder := some .inserter, depth := 1 }
      message rfl rfl outside ⟨untouched.statements, untouched.tests⟩
      ⟨numbered.committed, numbered.open_⟩ with ⟨behindLock, isLock, critical⟩
    rw [isLock] at isCleared
    cases isCleared
    simp only [serve, Shared.serve, free, if_true, Option.some.injEq, Prod.mk.injEq] at served
    rcases served with ⟨_, rfl⟩
    exact .own userIs rfl critical
  cases at_ with
  | front isFront free outside _ _ => exact locked isCleared outside (.inl isFront) free
  | late late =>
      cases late with
      | behind behind free outside _ => exact locked isCleared outside (.inr behind) free
      | inside holder _ =>
          have isLock : ∃ behindLock, cleared message = .perform .lock behindLock := ⟨_, rfl⟩
          rcases isLock with ⟨behindLock, isLock⟩
          rw [isLock] at isCleared
          cases isCleared
          simp [serve, Shared.serve, holder] at served

theorem phase_of_skipped (late : Late user shared) (owes : Owes (.perform op next) 0)
    (test : true ∈ shared.tests .inserter)
    (served : serve .inserter op shared = some (reply, after)) :
    Phase messages message user (next reply) after := by
  cases op with
  | lock =>
      cases late with
      | inside holder _ => simp [serve, Shared.serve, holder] at served
      | behind behind free outside closed =>
          simp only [serve, Shared.serve, free, if_true, Option.some.injEq, Prod.mk.injEq]
            at served
          rcases served with ⟨_, rfl⟩
          exact .skippedHolding behind owes.2 test rfl rfl outside closed
  | call op =>
      cases op with
      | escape input =>
          cases served
          exact .skipped late owes test
      | _ => exact absurd owes.1 (by decide)
  | unlock => exact absurd owes.1 (by decide)
  | testDisabled | setDisabled | testStatus | setStatus | query => exact owes.elim

theorem phase_of_skippedHolding (behind : Behind user) (owes : Owes (.perform op next) 1)
    (test : true ∈ shared.tests .inserter) (holder : shared.holder = some .inserter)
    (depth : shared.depth = 1) (outside : shared.inTransaction = false)
    (closed : shared.open_ = none) (served : serve .inserter op shared = some (reply, after)) :
    Phase messages message user (next reply) after := by
  cases op with
  | unlock =>
      have left : serve .inserter .unlock shared =
          some ((), { shared with holder := none, depth := 0 }) := by
        simp [serve, Shared.serve, holder, depth]
      rw [left] at served
      cases served
      exact .skipped (.behind behind rfl outside closed) owes.2 test
  | call op =>
      by_cases isStatement : op.isStatement = true
      · refine .mixed ((serve_grows served).tests test) ?_
        cases served
        rw [if_pos isStatement]
        simp [closed]
      · cases op with
        | escape input =>
            cases served
            exact .skippedHolding behind owes test holder depth outside closed
        | _ => exact absurd owes.2 isStatement
  | lock => exact absurd owes.1 (by decide)
  | testDisabled | setDisabled | testStatus | setStatus | query => exact owes.elim

theorem Phase.inserter_served (phase : Phase messages message user (.perform op next) shared)
    (numbered : Numbered shared) (served : serve .inserter op shared = some (reply, after)) :
    Phase messages message user (next reply) after := by
  cases phase with
  | start user isStart untouched => exact phase_of_start user untouched isStart served
  | clear user isCleared untouched => exact phase_of_clear user untouched numbered isCleared served
  | skipped late owes test => exact phase_of_skipped late owes test served
  | skippedHolding behind owes test holder depth outside closed =>
      exact phase_of_skippedHolding behind owes test holder depth outside closed served
  | own user holder critical =>
      rcases critical.served (relies_refl .inserter) with ⟨answer, now, answered, stays, leaves⟩
      rw [served] at answered
      cases answered
      by_cases holds : Holds .inserter after
      · exact .own user holds (stays holds)
      · rcases leaves holds with ⟨ret, isDone, kept | stranded⟩
        · exact .kept isDone kept
        · exact absurd stranded.holder holds
  | kept isDone _ => exact absurd isDone (by simp)
  | mixed test statement =>
      have grows := serve_grows served
      exact .mixed (grows.tests test) (grows.statements statement)

/-- The threads behind a turn. -/
def Invariant (messages : List (Message E)) (message : Message E)
    (threads : Threads StepReply Int Party Shared) : Prop :=
  Numbered threads.shared ∧
    Phase messages message (threads.programs .user) (threads.programs .inserter) threads.shared

theorem invariant_step (threads : Threads StepReply Int Party Shared) (party : Party)
    (invariant : Invariant messages message threads) :
    Invariant messages message (threads.step serve party) := by
  rcases invariant with ⟨numbered, phase⟩
  rcases threads.step_cases serve party with
    same | ⟨op, next, reply, after, pending, served, isStep⟩
  · rw [same]
    exact ⟨numbered, phase⟩
  · rw [isStep]
    refine ⟨serve_numbered numbered served, ?_⟩
    cases party with
    | user =>
        rw [pending] at phase
        simpa using phase.user_served served
    | inserter =>
        rw [pending] at phase
        simpa using phase.inserter_served numbered served

theorem invariant_start (messages : List (Message E)) (message : Message E) (store : Store) :
    Invariant messages message (start messages message store) := by
  refine ⟨⟨?_, ?_⟩, .start (.front rfl rfl rfl rfl rfl) rfl ⟨rfl, rfl⟩⟩
  · exact fun transaction absent => absurd absent List.not_mem_nil
  · exact fun transaction isSome => absurd isSome (by simp [start, Shared.on])

/--
The statements of the inserter ran in one transaction that is committed, and its call was
successful exactly if they are committed, each by its transaction or by itself.
-/
structure Apart (shared : Shared) (ret : Int) : Prop where
  whole : ∃ transaction ∈ shared.committed,
    ∀ place ∈ shared.statements .inserter, place = some transaction
  answered : 0 ≤ ret ↔ ∀ transaction, some transaction ∈ shared.statements .inserter →
    transaction ∈ shared.committed

theorem Kept.apart {ret : Int} (kept : Kept shared ret) : Apart shared ret := by
  rcases kept with ⟨_, ⟨transaction, committed, whole⟩, succeeded⟩
  refine ⟨⟨transaction, committed, whole⟩, iff_of_true succeeded fun other ran => ?_⟩
  rw [Option.some.inj (whole _ ran)]
  exact committed

theorem Phase.apart_iff {ret : Int} (phase : Phase messages message user (.done ret) shared) :
    Apart shared ret ↔ ∀ test ∈ shared.tests .inserter, test = false := by
  have notClear : true ∈ shared.tests .inserter →
      ¬ ∀ test ∈ shared.tests .inserter, test = false :=
    fun isSet areClear => absurd (areClear true isSet) (by decide)
  have stranded : Stranded shared → ¬ Apart shared ret := by
    rintro ⟨_, ⟨transaction, ran, lost⟩, _⟩ ⟨⟨other, committed, whole⟩, _⟩
    rw [Option.some.inj (whole _ ran)] at lost
    exact lost committed
  cases phase with
  | start _ isStart _ => exact absurd isStart (by rintro ⟨⟩)
  | clear _ isCleared _ => exact absurd isCleared (by rintro ⟨⟩)
  | skipped _ owes _ => exact owes.elim
  | skippedHolding _ owes _ _ _ _ _ => exact owes.elim
  | own _ _ critical =>
      rcases critical with ⟨answer, isDone, kept | lost⟩
      · cases isDone
        exact iff_of_true kept.apart kept.tests
      · exact iff_of_false (stranded lost) (notClear lost.tests)
  | kept isDone kept =>
      cases isDone
      exact iff_of_true kept.apart kept.tests
  | mixed test statement =>
      refine iff_of_false ?_ (notClear test)
      rintro ⟨⟨other, _, whole⟩, _⟩
      exact absurd (whole none statement) (by simp)

/--
Whenever the insertion has returned, it has kept to a transaction of its own exactly if
neither of its tests of `internal_transaction_disabled` has found the flag set.
-/
theorem classicInsert_apart_iff (messages : List (Message E)) (message : Message E)
    (store : Store) (schedule : List Party) {ret : Int}
    (returned : ((start messages message store).after serve schedule).programs .inserter =
      .done ret) :
    Apart ((start messages message store).after serve schedule).shared ret ↔
      ∀ test ∈ ((start messages message store).after serve schedule).shared.tests .inserter,
        test = false := by
  have invariant := Threads.after_of_invariant invariant_step
    (invariant_start messages message store) schedule
  rcases invariant with ⟨_, phase⟩
  rw [returned] at phase
  exact phase.apart_iff

end Phases

/-- The inserter is alone, and then the user has its transaction. -/
def oneByOne : List Party := List.replicate 26 .inserter ++ List.replicate 14 .user

/-- The inserter tests the flag once inside of the user's transaction, and goes on behind it. -/
def testsInside : List Party :=
  List.replicate 7 .user ++ [.inserter] ++ List.replicate 7 .user ++ List.replicate 18 .inserter

theorem classicInsert_apart_iff_oneByOne :
    Apart ((start [] (.heartbeat (Heartbeat.bare TextEnum)) .empty).after serve oneByOne).shared
        0 ↔
      ∀ test ∈ ((start [] (.heartbeat (Heartbeat.bare TextEnum)) .empty).after serve
        oneByOne).shared.tests .inserter, test = false :=
  classicInsert_apart_iff [] (.heartbeat (Heartbeat.bare TextEnum)) .empty oneByOne rfl

/-- The statements commit one by one, and the call returns an error. -/
theorem testsInside_not_apart :
    ((start [] (.heartbeat (Heartbeat.bare TextEnum)) .empty).after serve testsInside).programs
        .inserter = .done (-1) ∧
      ¬ Apart ((start [] (.heartbeat (Heartbeat.bare TextEnum)) .empty).after serve
        testsInside).shared (-1) := by
  refine ⟨rfl, ?_⟩
  rintro ⟨⟨transaction, _, whole⟩, _⟩
  have outside : none ∈ ((start [] (.heartbeat (Heartbeat.bare TextEnum)) .empty).after serve
      testsInside).shared.statements .inserter := by decide
  exact absurd (whole none outside) (by simp)

end RequiemDB.Stepwise
