import RequiemDB.Sql.Confinement

/-!
# The mutex of the handle

The start of a transaction keeps the recursive mutex locked, its end or abort
unlocks it, and both find the status bit to tell whether they have to. A session
that is opened while a transaction is owed wipes that bit: the end that answers
the start does not unlock any more, and one level of the lock is never given
back. Without such an opening the lock is held exactly while an end is owed.
-/

namespace RequiemDB.Handle

open Lib

namespace World

/-- No session was opened while the caller owed the end of a transaction. -/
def Remembers (world : World) : Prop :=
  ∀ event ∈ world.events, event.call = .opened → event.owed = none

instance (world : World) : Decidable world.Remembers :=
  inferInstanceAs (Decidable (∀ event ∈ world.events, event.call = .opened → event.owed = none))

/-- What the caller is entitled to: one level of the lock while it owes an end. -/
def LockBalanced (world : World) : Prop :=
  world.lockDepth = if world.owed = none then 0 else 1

instance (world : World) : Decidable world.LockBalanced :=
  inferInstanceAs (Decidable (world.lockDepth = if world.owed = none then 0 else 1))

/-- The level of the lock that the status bit stands for. -/
def held (world : World) : Int := if world.transaction then 1 else 0

theorem held_of_transaction {world : World} (inside : world.transaction = true) :
    world.held = 1 := by
  simp [held, inside]

theorem held_of_not_transaction {world : World} (outside : world.transaction = false) :
    world.held = 0 := by
  simp [held, outside]

theorem remembers_record (call : PluginCall) (world : World) :
    (world.record call).Remembers ↔ world.Remembers ∧ (call = .opened → world.owed = none) := by
  simp only [Remembers, record, List.forall_mem_append, List.forall_mem_singleton]

end World

/--
What a call that is no transaction function does to the bit: it keeps it, or it has opened a
session.
-/
structure Reopens (world after : World) : Prop where
  owed : after.owed = world.owed
  bit :
    after.transaction = world.transaction ∧ (after.Remembers ↔ world.Remembers) ∨
      after.transaction = false ∧ (after.Remembers ↔ world.Remembers ∧ world.owed = none)

namespace Reopens

variable {world middle after : World}

theorem same (owed : after.owed = world.owed) (transaction : after.transaction = world.transaction)
    (remembers : after.Remembers ↔ world.Remembers) : Reopens world after :=
  ⟨owed, .inl ⟨transaction, remembers⟩⟩

theorem trans (first : Reopens world middle) (second : Reopens middle after) :
    Reopens world after := by
  refine ⟨second.owed.trans first.owed, ?_⟩
  rcases first.bit with ⟨kept, before⟩ | ⟨cleared, before⟩
  · rcases second.bit with ⟨keptLater, later⟩ | ⟨clearedLater, later⟩
    · exact .inl ⟨keptLater.trans kept, later.trans before⟩
    · exact .inr ⟨clearedLater, by rw [later, before, first.owed]⟩
  · rcases second.bit with ⟨keptLater, later⟩ | ⟨clearedLater, later⟩
    · exact .inr ⟨keptLater.trans cleared, later.trans before⟩
    · refine .inr ⟨clearedLater, ?_⟩
      rw [later, before, first.owed, and_assoc, and_self]

theorem record {call : PluginCall} (notOpened : call ≠ .opened) (world : World) :
    Reopens world (world.record call) := by
  refine same rfl rfl ?_
  rw [World.remembers_record]
  exact and_iff_left fun isOpened => absurd isOpened notOpened

end Reopens

section Calls

variable (oracle : Nat → Fate)

theorem reopens_updateSqlFromErrno (outcome : Outcome) (world : World) :
    Reopens world (updateSqlFromErrno outcome world) := by
  cases outcome with
  | success | failure error => exact .same rfl rfl .rfl
  | lost error =>
      have closed : Reopens world (world.record .closed) := .record (by decide) world
      exact ⟨closed.owed, closed.bit⟩

theorem reopens_requiemdbSqlConnect (world : World) :
    Reopens world (requiemdbSqlConnect oracle world).2 := by
  simp only [requiemdbSqlConnect]
  cases (oracle world.performed).outcome with
  | success =>
      refine ⟨rfl, .inr ⟨rfl, ?_⟩⟩
      exact (World.remembers_record .opened world).trans
        (and_congr_right' (forall_prop_of_true rfl))
  | failure error | lost error => exact .record (by decide) world

theorem lockDepth_requiemdbSqlConnect (world : World) :
    (requiemdbSqlConnect oracle world).2.lockDepth = world.lockDepth := by
  simp only [requiemdbSqlConnect]
  cases (oracle world.performed).outcome <;> rfl

theorem reopens_assertConnected {rest : World → Int × World}
    (reopens : ∀ connected, Reopens connected (rest connected).2) (world : World) :
    Reopens world (assertConnected oracle world rest).2 := by
  have opened := reopens_requiemdbSqlConnect oracle world
  simp only [assertConnected]
  split
  · exact reopens world
  · split
    · exact ⟨opened.owed, opened.bit⟩
    · exact opened.trans (reopens _)

/-- `assert_connected` unlocks where it ends the function, which unlocks otherwise. -/
theorem lockDepth_assertConnected {rest : World → Int × World}
    (unlocks : ∀ connected, (rest connected).2.lockDepth = connected.lockDepth - 1)
    (world : World) :
    (assertConnected oracle world rest).2.lockDepth = world.lockDepth - 1 := by
  have depth := lockDepth_requiemdbSqlConnect oracle world
  simp only [assertConnected]
  split
  · exact unlocks world
  · split
    · simp only [World.unlock, depth]
    · rw [unlocks, depth]

theorem reopens_pluginSqlQuery (query : Query) (world : World) :
    Reopens world (pluginSqlQuery oracle query world).2 := by
  have sent : Reopens world (world.record (.sent query)) := .record (by simp) world
  simp only [pluginSqlQuery]
  cases (oracle world.performed).outcome with
  | success =>
      apply sent.trans
      cases query <;> exact .same rfl rfl .rfl
  | failure error =>
      have onServer := onServer_refuse query (oracle world.performed).staysOpen
        (world.record (.sent query))
      refine sent.trans (.same onServer.owed onServer.transaction ?_)
      simp only [World.Remembers, updateSqlFromErrno, onServer.events]
  | lost error => exact sent.trans (reopens_updateSqlFromErrno (.lost error) _)

theorem lockDepth_pluginSqlQuery (query : Query) (world : World) :
    (pluginSqlQuery oracle query world).2.lockDepth = world.lockDepth := by
  simp only [pluginSqlQuery]
  cases (oracle world.performed).outcome with
  | success => cases query <;> rfl
  | failure error =>
      cases query <;> cases (oracle world.performed).staysOpen <;> rfl
  | lost error => rfl

theorem reopens_requiemdbSqlQuery (query : Query) (world : World) :
    Reopens world (requiemdbSqlQuery oracle query world).2 := by
  have after : Reopens world.lock (requiemdbSqlQuery oracle query world).2 := by
    apply reopens_assertConnected oracle
    intro connected
    have sent := reopens_pluginSqlQuery oracle query connected
    exact ⟨sent.owed, sent.bit⟩
  exact ⟨after.owed, after.bit⟩

theorem lockDepth_requiemdbSqlQuery (query : Query) (world : World) :
    (requiemdbSqlQuery oracle query world).2.lockDepth = world.lockDepth := by
  have unlocked : (requiemdbSqlQuery oracle query world).2.lockDepth =
      world.lock.lockDepth - 1 := by
    apply lockDepth_assertConnected oracle
    intro connected
    simp only [World.unlock, lockDepth_pluginSqlQuery]
  simpa [World.lock] using unlocked

theorem reopens_requiemdbSqlEscapeFast {call : PluginCall} (notOpened : call ≠ .opened)
    (world : World) : Reopens world (requiemdbSqlEscapeFast oracle call world).2 := by
  have after : Reopens world.lock (requiemdbSqlEscapeFast oracle call world).2 := by
    apply reopens_assertConnected oracle
    intro connected
    have escaped := Reopens.record notOpened connected
    exact ⟨escaped.owed, escaped.bit⟩
  exact ⟨after.owed, after.bit⟩

theorem lockDepth_requiemdbSqlEscapeFast (call : PluginCall) (world : World) :
    (requiemdbSqlEscapeFast oracle call world).2.lockDepth = world.lockDepth := by
  have unlocked : (requiemdbSqlEscapeFast oracle call world).2.lockDepth =
      world.lock.lockDepth - 1 := by
    apply lockDepth_assertConnected oracle
    intro connected
    rfl
  simpa [World.lock] using unlocked

theorem reopens_requiemdbSqlFetch {call : PluginCall} (notOpened : call ≠ .opened)
    (world : World) : Reopens world (requiemdbSqlFetch oracle call world).2 :=
  (Reopens.record notOpened world).trans (reopens_updateSqlFromErrno _ _)

theorem lockDepth_requiemdbSqlFetch (call : PluginCall) (world : World) :
    (requiemdbSqlFetch oracle call world).2.lockDepth = world.lockDepth := by
  simp only [requiemdbSqlFetch]
  cases (oracle world.performed).outcome <;> rfl

end Calls

/--
The invariant between the calls of a user: while nothing was forgotten, the bit stands for
what is owed and the lock is what the bit stands for; behind a forgotten transaction the
lock has a level more.
-/
structure Counted (world : World) : Prop where
  owed : world.transaction = true → world.owed ≠ none
  remembered : world.Remembers →
    (world.owed ≠ none → world.transaction = true) ∧ world.lockDepth = world.held
  forgotten : ¬ world.Remembers → world.held + 1 ≤ world.lockDepth

namespace Counted

variable {world after : World}

theorem lockBalanced (counted : Counted world) (remembers : world.Remembers) :
    world.LockBalanced := by
  rcases counted.remembered remembers with ⟨inside, depth⟩
  rw [World.LockBalanced, depth]
  split
  · rename_i notOwed
    apply World.held_of_not_transaction
    by_contra isInside
    exact counted.owed (by simpa using isInside) notOwed
  · rename_i owed
    exact World.held_of_transaction (inside owed)

/-- A call that is no transaction function, and leaves the lock as it found it. -/
theorem reopens (counted : Counted world) (change : Reopens world after)
    (depth : after.lockDepth = world.lockDepth) : Counted after := by
  rcases change.bit with ⟨kept, remembers⟩ | ⟨cleared, remembers⟩
  · have held : after.held = world.held := by simp only [World.held, kept]
    refine ⟨?_, ?_, ?_⟩
    · rw [kept, change.owed]
      exact counted.owed
    · rw [remembers, kept, change.owed, depth, held]
      exact counted.remembered
    · rw [remembers, depth, held]
      exact counted.forgotten
  · have held := World.held_of_not_transaction cleared
    refine ⟨fun inside => absurd inside (by simp [cleared]), fun remembered => ?_, fun lost => ?_⟩
    · rcases remembers.mp remembered with ⟨before, notOwed⟩
      refine ⟨fun owed => absurd (change.owed.trans notOwed) owed, ?_⟩
      rw [depth, held, (counted.remembered before).2]
      apply World.held_of_not_transaction
      by_contra inside
      exact counted.owed (by simpa using inside) notOwed
    · rw [depth, held]
      by_cases before : world.Remembers
      · -- the bit of an owed transaction was set, and the lock held for it stays
        have owed : world.owed ≠ none := fun notOwed => lost (remembers.mpr ⟨before, notOwed⟩)
        rcases counted.remembered before with ⟨inside, lockDepth⟩
        rw [lockDepth, World.held_of_transaction (inside owed)]
        decide
      · have more := counted.forgotten before
        have notNegative : 0 ≤ world.held := by
          rw [World.held]
          split <;> decide
        omega

/-- The end of a transaction gives back the level that the bit stands for. -/
theorem finish (counted : Counted world) (notOwed : after.owed = none)
    (cleared : after.transaction = false) (remembers : after.Remembers ↔ world.Remembers)
    (depth : after.lockDepth = world.lockDepth - world.held) : Counted after := by
  have held := World.held_of_not_transaction cleared
  refine ⟨fun inside => absurd inside (by simp [cleared]), fun remembered => ?_, fun lost => ?_⟩
  · refine ⟨fun owed => absurd notOwed owed, ?_⟩
    have before := (counted.remembered (remembers.mp remembered)).2
    omega
  · have before := counted.forgotten fun remembered => lost (remembers.mpr remembered)
    omega

end Counted

section Transactions

variable (oracle : Nat → Fate) {world : World}

theorem counted_sqlTransactionStart (counted : Counted world) :
    Counted (sqlTransactionStart oracle world).2 := by
  have sent := reopens_requiemdbSqlQuery oracle .begin world.lock
  have depth := lockDepth_requiemdbSqlQuery oracle .begin world.lock
  simp only [sqlTransactionStart]
  split
  · exact counted.reopens (.same rfl rfl .rfl) (by simp [World.lock, World.unlock])
  · rename_i outside
    have notInside : world.transaction = false := by simpa [World.lock] using outside
    split
    · refine counted.reopens ⟨sent.owed, sent.bit⟩ ?_
      have unlocked := congrArg (· - 1) depth
      simpa only [World.unlock, World.lock, Int.add_sub_cancel] using unlocked
    · rename_i succeeded
      have notHeld := World.held_of_not_transaction notInside
      have atLock : (requiemdbSqlQuery oracle .begin world.lock).2.lockDepth =
          world.lockDepth + 1 := depth
      have heldNow : ∀ owed, World.held
          { (requiemdbSqlQuery oracle .begin world.lock).2 with
            transaction := true, owed := owed } = 1 := fun _ => rfl
      have isOwed := open_of_begin oracle succeeded
      -- a session opened here wiped no bit, and forgot a transaction only if one was forgotten
      have remembers : (requiemdbSqlQuery oracle .begin world.lock).2.Remembers ↔
          world.Remembers := by
        rcases sent.bit with ⟨_, same⟩ | ⟨_, same⟩
        · exact same
        · refine same.trans (and_iff_left_of_imp fun before => ?_)
          by_contra owed
          rw [(counted.remembered before).1 owed] at notInside
          exact absurd notInside (by decide)
      refine ⟨fun _ => by simpa using isOwed, fun remembered => ⟨fun _ => rfl, ?_⟩, fun lost => ?_⟩
      · have before := (counted.remembered (remembers.mp remembered)).2
        rw [heldNow, atLock]
        omega
      · have before := counted.forgotten fun remembered => lost (remembers.mpr remembered)
        rw [heldNow, atLock]
        omega

/-- COMMIT or ROLLBACK is sent with nothing owed, so no opening forgets a transaction. -/
theorem remembers_requiemdbSqlQuery (query : Query) (notOwed : world.owed = none) :
    (requiemdbSqlQuery oracle query world).2.Remembers ↔ world.Remembers := by
  rcases (reopens_requiemdbSqlQuery oracle query world).bit with ⟨_, same⟩ | ⟨_, same⟩
  · exact same
  · rw [same]
    exact and_iff_left notOwed

theorem counted_sqlTransactionEnd (counted : Counted world) :
    Counted (sqlTransactionEnd oracle world).2 := by
  have sent := reopens_requiemdbSqlQuery oracle .commit { world with owed := none }
  have depth := lockDepth_requiemdbSqlQuery oracle .commit { world with owed := none }
  simp only [sqlTransactionEnd]
  split
  · rename_i inside
    refine counted.finish ?_ rfl ?_ ?_
    · exact sent.owed
    · exact remembers_requiemdbSqlQuery oracle .commit rfl
    · rw [World.held_of_transaction inside]
      exact congrArg (· - 1) depth
  · rename_i outside
    have notInside : world.transaction = false := by simpa using outside
    refine counted.finish rfl notInside .rfl ?_
    simp [World.held_of_not_transaction notInside]

theorem counted_sqlTransactionAbort (counted : Counted world) :
    Counted (sqlTransactionAbort oracle world).2 := by
  have sent := reopens_requiemdbSqlQuery oracle .rollback
    { world with owed := none, transaction := false }
  have depth := lockDepth_requiemdbSqlQuery oracle .rollback
    { world with owed := none, transaction := false }
  simp only [sqlTransactionAbort]
  split
  · rename_i inside
    have heldOne := World.held_of_transaction inside
    split
    · refine counted.finish rfl rfl .rfl ?_
      rw [heldOne]
      rfl
    · refine counted.finish sent.owed ?_ ?_ ?_
      · rcases sent.bit with ⟨kept, _⟩ | ⟨cleared, _⟩
        · exact kept
        · exact cleared
      · exact remembers_requiemdbSqlQuery oracle .rollback rfl
      · rw [heldOne]
        exact congrArg (· - 1) depth
  · rename_i outside
    have notInside : world.transaction = false := by simpa using outside
    refine counted.finish rfl notInside .rfl ?_
    simp [World.held_of_not_transaction notInside]

theorem counted_unlessDisabled {function : World → Int × World} (counted : Counted world)
    (keeps : Counted (function world).2) : Counted (unlessDisabled function world).2 := by
  rw [unlessDisabled]
  split
  · exact counted
  · exact keeps

theorem counted_environment (op : SqlOp) (counted : Counted world) :
    Counted (environment oracle op world).2 := by
  have query := counted.reopens (reopens_requiemdbSqlQuery oracle .other world)
    (lockDepth_requiemdbSqlQuery oracle .other world)
  have escape : ∀ call : PluginCall, call ≠ .opened →
      Counted (requiemdbSqlEscapeFast oracle call world).2 := fun call notOpened =>
    counted.reopens (reopens_requiemdbSqlEscapeFast oracle notOpened world)
      (lockDepth_requiemdbSqlEscapeFast oracle call world)
  have fetch : ∀ call : PluginCall, call ≠ .opened →
      Counted (requiemdbSqlFetch oracle call world).2 := fun call notOpened =>
    counted.reopens (reopens_requiemdbSqlFetch oracle notOpened world)
      (lockDepth_requiemdbSqlFetch oracle call world)
  cases op with
  | transactionStart =>
      exact counted_unlessDisabled counted (counted_sqlTransactionStart oracle counted)
  | transactionEnd =>
      exact counted_unlessDisabled counted (counted_sqlTransactionEnd oracle counted)
  | transactionAbort =>
      exact counted_unlessDisabled counted (counted_sqlTransactionAbort oracle counted)
  | escape input =>
      cases input with
      | none => exact counted
      | some input => exact escape .escape (by decide)
  | escapeBinary input => exact escape .escape (by decide)
  | unescapeBinary input => exact escape .unescape (by decide)
  | insertMessage table cells => exact query
  | insert row => exact query
  | delete statement => exact query
  | selectMaxIdent table => exact query
  | select request => exact query
  | fetchRow table fetched => exact fetch .fetchRow (by decide)
  | fetchField cell => exact fetch .fetchField (by decide)

/-- The switch of the internal transactions is nothing the count looks at. -/
theorem Counted.setDisabled (counted : Counted world) (disabled : Bool) :
    Counted { world with internalTransactionDisabled := disabled } :=
  ⟨counted.owed, counted.remembered, counted.forgotten⟩

variable {E : EnumKind → Type} [Librequiem E]

theorem counted_perform (call : ApiCall E) (counted : Counted world) :
    Counted (perform oracle call world).2 := by
  cases call with
  | query text =>
      exact counted.reopens (reopens_requiemdbSqlQuery oracle text world)
        (lockDepth_requiemdbSqlQuery oracle text world)
  | escape =>
      exact counted.reopens (reopens_requiemdbSqlEscapeFast oracle (by decide) world)
        (lockDepth_requiemdbSqlEscapeFast oracle .escape world)
  | message call =>
      exact Program.run_of_invariant (environment oracle)
        (fun op _ holds => counted_environment oracle op holds) call.program counted
  | sqlTransactionStart => exact counted_environment oracle .transactionStart counted
  | sqlTransactionEnd => exact counted_environment oracle .transactionEnd counted
  | sqlTransactionAbort => exact counted_environment oracle .transactionAbort counted
  | transactionStart =>
      have started := counted_sqlTransactionStart oracle counted
      simp only [perform, requiemdbTransactionStart]
      split
      · exact started
      · exact started.setDisabled true
  | transactionEnd => exact (counted_sqlTransactionEnd oracle counted).setDisabled false
  | transactionAbort => exact (counted_sqlTransactionAbort oracle counted).setDisabled false

theorem counted_performAll (calls : List (ApiCall E)) (counted : Counted world) :
    Counted (performAll oracle calls world) := by
  induction calls generalizing world with
  | nil => exact counted
  | cons call calls ih => exact ih (counted_perform oracle call counted)

theorem counted_start : Counted World.start where
  owed := fun inside => absurd inside Bool.false_ne_true
  remembered := fun _ => ⟨fun owed => absurd rfl owed, rfl⟩
  forgotten := fun lost => absurd (fun _ absent => absurd absent List.not_mem_nil) lost

/--
Behind every run in which no session was opened while a transaction was owed, the lock is
held once if an end is owed and not at all otherwise. Behind a run whose starts are all
answered the mutex is free exactly under this condition.
-/
theorem lockBalanced_iff (calls : List (ApiCall E)) :
    ((performAll oracle calls World.start).Remembers →
      (performAll oracle calls World.start).LockBalanced) ∧
    ((performAll oracle calls World.start).owed = none →
      ((performAll oracle calls World.start).lockDepth = 0 ↔
        (performAll oracle calls World.start).Remembers)) := by
  have counted := counted_performAll oracle calls counted_start
  refine ⟨counted.lockBalanced, fun notOwed => ⟨fun free => ?_, fun remembers => ?_⟩⟩
  · by_contra lost
    have more := counted.forgotten lost
    have outside : (performAll oracle calls World.start).transaction = false := by
      by_contra inside
      exact counted.owed (by simpa using inside) notOwed
    have notHeld := World.held_of_not_transaction outside
    omega
  · have balanced := counted.lockBalanced remembers
    rw [World.LockBalanced, if_pos notOwed] at balanced
    exact balanced

end Transactions

/-- The transaction of a user around a query is answered, and the mutex is free. -/
theorem lockBalanced_iff_oneQuery :
    (performAll (lostAt none) transactionOfOneQuery World.start).LockBalanced ∧
      (performAll (lostAt none) transactionOfOneQuery World.start).lockDepth = 0 :=
  have balanced := lockBalanced_iff (lostAt none) transactionOfOneQuery
  ⟨balanced.1 (by decide), (balanced.2 (by decide)).mpr (by decide)⟩

/-- A transaction whose connection is lost at its query, and which goes on and is ended. -/
def endsAfterLoss : List (ApiCall TextEnum) := goesOnAfterLoss ++ [.transactionEnd]

/-- The start is answered, and its level of the lock is kept. -/
theorem endsAfterLoss_not_lockBalanced :
    (performAll (lostAt (some 2)) endsAfterLoss World.start).owed = none ∧
      ¬ (performAll (lostAt (some 2)) endsAfterLoss World.start).LockBalanced := by
  decide

end RequiemDB.Handle
