import RequiemDB.Sql.Handle

/-!
# Transactions and lost connections

A statement is confined when it runs on the session of the transaction that the
caller has started, with that transaction open. `assert_connected` opens a new
session whenever the old one is lost, also inside of a transaction, and the
status word forgets the transaction then. Runs in which no session is opened
while a transaction is owed, and in which the caller leaves BEGIN, COMMIT and
ROLLBACK to the library meanwhile, keep every statement confined.
-/

namespace RequiemDB.Handle

open Lib

/-- No session is opened, and no query starts or ends a transaction, while one is owed. -/
def Event.Allowed (event : Event) : Prop :=
  match event.call with
  | .opened => event.owed = none
  | .sent query => query ≠ .other → event.owed = none
  | _ => True

instance : ∀ event : Event, Decidable event.Allowed
  | ⟨.opened, _, _, owed⟩ => inferInstanceAs (Decidable (owed = none))
  | ⟨.sent query, _, _, owed⟩ => inferInstanceAs (Decidable (query ≠ .other → owed = none))
  | ⟨.openFailed, _, _, _⟩ | ⟨.closed, _, _, _⟩ | ⟨.escape, _, _, _⟩ | ⟨.unescape, _, _, _⟩
  | ⟨.fetchRow, _, _, _⟩ | ⟨.fetchField, _, _, _⟩ => inferInstanceAs (Decidable True)

/-- A statement of the caller's transaction runs where that transaction is open. -/
def Event.Confined (event : Event) : Prop :=
  match event.call with
  | .sent _ => ∀ place, event.owed = some place →
      event.session = place.session ∧ event.open_ = some place.transaction
  | _ => True

/-- The handle knows of the transaction that is owed, and is connected to its session. -/
structure Linked (world : World) : Prop where
  held : world.owed ≠ none → world.transaction = true
  place : ∀ place, world.owed = some place → world.connected = true →
    world.session = place.session ∧ world.open_ = some place.transaction

/-- While the run is allowed, the handle is linked and every statement was confined. -/
def Guarded (world : World) : Prop :=
  (∀ event ∈ world.events, event.Allowed) →
    Linked world ∧ ∀ event ∈ world.events, event.Confined

/-- A call that neither starts nor ends a transaction of the caller. -/
structure Neutral (world after : World) : Prop where
  owed : after.owed = world.owed
  disabled : after.internalTransactionDisabled = world.internalTransactionDisabled

theorem Linked.of_not_owed {world : World} (notOwed : world.owed = none) : Linked world where
  held := fun owed => absurd notOwed owed
  place := fun place owed => absurd owed (by simp [notOwed])

namespace Guarded

variable {world : World}

/-- One event more: it is confined and leaves a linked handle when it is allowed. -/
theorem record (guarded : Guarded world) {after : World} (event : Event)
    (events : after.events = world.events ++ [event])
    (step : Linked world → event.Allowed → Linked after ∧ event.Confined) : Guarded after := by
  intro allowed
  rw [events] at allowed ⊢
  rcases List.forall_mem_append.mp allowed with ⟨before, last⟩
  rcases guarded before with ⟨linked, confined⟩
  rcases step linked (last event (List.mem_singleton_self event)) with ⟨linkedAfter, now⟩
  refine ⟨linkedAfter, ?_⟩
  rw [List.forall_mem_append]
  exact ⟨confined, fun other isLast => List.mem_singleton.mp isLast ▸ now⟩

theorem change (guarded : Guarded world) {after : World} (events : after.events = world.events)
    (linked : Linked world → Linked after) : Guarded after := by
  intro allowed
  rw [events] at allowed ⊢
  rcases guarded allowed with ⟨before, confined⟩
  exact ⟨linked before, confined⟩

theorem lock (guarded : Guarded world) : Guarded world.lock :=
  guarded.change rfl fun linked => ⟨linked.held, linked.place⟩

theorem unlock (guarded : Guarded world) : Guarded world.unlock :=
  guarded.change rfl fun linked => ⟨linked.held, linked.place⟩

theorem release (guarded : Guarded world) : Guarded { world with owed := none } :=
  guarded.change rfl fun _ => .of_not_owed rfl

/-- Without an owed transaction the bit of the status word is free to change. -/
theorem setTransaction (guarded : Guarded world) (notOwed : world.owed = none) (bit : Bool) :
    Guarded { world with transaction := bit } :=
  guarded.change rfl fun _ => .of_not_owed notOwed

end Guarded

section Calls

variable (oracle : Nat → Fate) {world : World}

theorem guarded_updateSqlFromErrno (outcome : Outcome) (guarded : Guarded world) :
    Guarded (updateSqlFromErrno outcome world) := by
  cases outcome with
  | success => exact guarded
  | failure error => exact guarded
  | lost error =>
      apply guarded.record ⟨.closed, world.session, world.open_, world.owed⟩ rfl
      intro linked _
      exact ⟨⟨linked.held, fun _ _ closed => absurd closed Bool.false_ne_true⟩, trivial⟩

theorem neutral_updateSqlFromErrno (outcome : Outcome) (world : World) :
    Neutral world (updateSqlFromErrno outcome world) := by
  cases outcome <;> exact ⟨rfl, rfl⟩

/-- A new session is allowed only while no transaction is owed. -/
theorem guarded_requiemdbSqlConnect (guarded : Guarded world) :
    Guarded (requiemdbSqlConnect oracle world).2 := by
  simp only [requiemdbSqlConnect]
  cases (oracle world.performed).outcome with
  | success =>
      apply guarded.record ⟨.opened, world.session, world.open_, world.owed⟩ rfl
      intro _ notOwed
      exact ⟨.of_not_owed notOwed, trivial⟩
  | failure error | lost error =>
      apply guarded.record ⟨.openFailed, world.session, world.open_, world.owed⟩ rfl
      intro linked _
      exact ⟨⟨linked.held, linked.place⟩, trivial⟩

theorem neutral_requiemdbSqlConnect (world : World) :
    Neutral world (requiemdbSqlConnect oracle world).2 := by
  simp only [requiemdbSqlConnect]
  cases (oracle world.performed).outcome <;> exact ⟨rfl, rfl⟩

theorem connected_requiemdbSqlConnect
    (succeeded : ¬ (requiemdbSqlConnect oracle world).1 < 0) :
    (requiemdbSqlConnect oracle world).2.connected = true := by
  simp only [requiemdbSqlConnect] at succeeded ⊢
  cases outcome : (oracle world.performed).outcome with
  | success => rfl
  | failure error | lost error =>
      rw [outcome] at succeeded
      exact absurd error.negative succeeded

/-- What a function does once the handle is connected, it does with `assert_connected`. -/
theorem guarded_assertConnected {rest : World → Int × World}
    (keeps : ∀ connected, connected.connected = true → Guarded connected →
      Guarded (rest connected).2) (guarded : Guarded world) :
    Guarded (assertConnected oracle world rest).2 := by
  simp only [assertConnected]
  split
  · rename_i connected
    exact keeps world connected guarded
  · have opened := guarded_requiemdbSqlConnect oracle guarded
    split
    · exact opened.unlock
    · rename_i succeeded
      exact keeps _ (connected_requiemdbSqlConnect oracle succeeded) opened

theorem neutral_assertConnected {rest : World → Int × World}
    (keeps : ∀ connected, Neutral connected (rest connected).2) (world : World) :
    Neutral world (assertConnected oracle world rest).2 := by
  have opened := neutral_requiemdbSqlConnect oracle world
  simp only [assertConnected]
  split
  · exact keeps world
  · split
    · exact ⟨opened.owed, opened.disabled⟩
    · have after := keeps (requiemdbSqlConnect oracle world).2
      exact ⟨after.owed.trans opened.owed, after.disabled.trans opened.disabled⟩

/-- BEGIN, COMMIT and ROLLBACK change what is open, the other queries do not. -/
theorem linked_of_sent {query : Query} {after : World} (linked : Linked world)
    (allowed : Event.Allowed ⟨.sent query, world.session, world.open_, world.owed⟩)
    (owed : after.owed = world.owed) (transaction : after.transaction = world.transaction)
    (same : query = .other → after.connected = true →
      after.session = world.session ∧ after.open_ = world.open_ ∧ world.connected = true) :
    Linked after := by
  by_cases isOther : query = .other
  · refine ⟨by rw [owed, transaction]; exact linked.held, ?_⟩
    intro place isOwed connected
    rcases same isOther connected with ⟨session, isOpen, wasConnected⟩
    rw [session, isOpen]
    exact linked.place place (owed ▸ isOwed) wasConnected
  · exact .of_not_owed (owed.trans (allowed isOther))

/-- A query changes no more of the world than what is open on the server. -/
structure OnServer (query : Query) (world after : World) : Prop where
  events : after.events = world.events
  owed : after.owed = world.owed
  transaction : after.transaction = world.transaction
  disabled : after.internalTransactionDisabled = world.internalTransactionDisabled
  other : query = .other → after.session = world.session ∧ after.open_ = world.open_

theorem onServer_carryOut (query : Query) (world : World) :
    OnServer query world (world.carryOut query) := by
  cases query with
  | other => exact ⟨rfl, rfl, rfl, rfl, fun _ => ⟨rfl, rfl⟩⟩
  | begin | commit | rollback =>
      exact ⟨rfl, rfl, rfl, rfl, fun isOther => absurd isOther (by decide)⟩

theorem onServer_refuse (query : Query) (staysOpen : Bool) (world : World) :
    OnServer query world (world.refuse staysOpen query) := by
  cases query with
  | other | begin => exact ⟨rfl, rfl, rfl, rfl, fun _ => ⟨rfl, rfl⟩⟩
  | commit | rollback =>
      cases staysOpen <;>
        exact ⟨rfl, rfl, rfl, rfl, fun isOther => absurd isOther (by decide)⟩

theorem guarded_pluginSqlQuery (query : Query) (connected : world.connected = true)
    (guarded : Guarded world) : Guarded (pluginSqlQuery oracle query world).2 := by
  have confined : Linked world →
      Event.Confined ⟨.sent query, world.session, world.open_, world.owed⟩ :=
    fun linked place owed => linked.place place owed connected
  have sent : ∀ after : World, OnServer query (world.record (.sent query)) after →
      Guarded after := by
    intro after onServer
    apply guarded.record ⟨.sent query, world.session, world.open_, world.owed⟩ onServer.events
    intro linked allowed
    have same : query = .other → after.connected = true →
        after.session = world.session ∧ after.open_ = world.open_ ∧ world.connected = true :=
      fun isOther _ => ⟨(onServer.other isOther).1, (onServer.other isOther).2, connected⟩
    exact ⟨linked_of_sent linked allowed onServer.owed onServer.transaction same, confined linked⟩
  simp only [pluginSqlQuery]
  cases (oracle world.performed).outcome with
  | success => exact sent _ (onServer_carryOut query _)
  | failure error => exact sent _ (onServer_refuse query _ _)
  | lost error =>
      exact guarded_updateSqlFromErrno (.lost error)
        (sent _ ⟨rfl, rfl, rfl, rfl, fun _ => ⟨rfl, rfl⟩⟩)

theorem neutral_pluginSqlQuery (query : Query) (world : World) :
    Neutral world (pluginSqlQuery oracle query world).2 := by
  simp only [pluginSqlQuery]
  cases (oracle world.performed).outcome with
  | success =>
      have after := onServer_carryOut query (world.record (.sent query))
      exact ⟨after.owed, after.disabled⟩
  | failure error =>
      have after := onServer_refuse query (oracle world.performed).staysOpen
        (world.record (.sent query))
      exact ⟨after.owed, after.disabled⟩
  | lost error => exact ⟨rfl, rfl⟩

theorem guarded_requiemdbSqlQuery (query : Query) (guarded : Guarded world) :
    Guarded (requiemdbSqlQuery oracle query world).2 := by
  apply guarded_assertConnected oracle _ guarded.lock
  intro connected isConnected guardedConnected
  exact (guarded_pluginSqlQuery oracle query isConnected guardedConnected).unlock

theorem neutral_requiemdbSqlQuery (query : Query) (world : World) :
    Neutral world (requiemdbSqlQuery oracle query world).2 := by
  have after : Neutral world.lock (requiemdbSqlQuery oracle query world).2 := by
    apply neutral_assertConnected oracle
    intro connected
    have sent := neutral_pluginSqlQuery oracle query connected
    exact ⟨sent.owed, sent.disabled⟩
  exact ⟨after.owed, after.disabled⟩

/-- An event that is no query and opens no session leaves the handle as it was. -/
theorem Guarded.recordCall (guarded : Guarded world) {call : PluginCall}
    (isCall : call = .escape ∨ call = .unescape ∨ call = .fetchRow ∨ call = .fetchField) :
    Guarded (world.record call) := by
  apply guarded.record ⟨call, world.session, world.open_, world.owed⟩ rfl
  intro linked _
  refine ⟨⟨linked.held, linked.place⟩, ?_⟩
  rcases isCall with rfl | rfl | rfl | rfl <;> trivial

theorem guarded_requiemdbSqlEscapeFast {call : PluginCall}
    (isCall : call = .escape ∨ call = .unescape ∨ call = .fetchRow ∨ call = .fetchField)
    (guarded : Guarded world) : Guarded (requiemdbSqlEscapeFast oracle call world).2 := by
  apply guarded_assertConnected oracle _ guarded.lock
  intro connected _ guardedConnected
  exact (guardedConnected.recordCall isCall).unlock

theorem neutral_requiemdbSqlEscapeFast (call : PluginCall) (world : World) :
    Neutral world (requiemdbSqlEscapeFast oracle call world).2 := by
  have after : Neutral world.lock (requiemdbSqlEscapeFast oracle call world).2 := by
    apply neutral_assertConnected oracle
    intro connected
    exact ⟨rfl, rfl⟩
  exact ⟨after.owed, after.disabled⟩

theorem guarded_requiemdbSqlFetch {call : PluginCall}
    (isCall : call = .escape ∨ call = .unescape ∨ call = .fetchRow ∨ call = .fetchField)
    (guarded : Guarded world) : Guarded (requiemdbSqlFetch oracle call world).2 :=
  guarded_updateSqlFromErrno _ (guarded.recordCall isCall)

theorem neutral_requiemdbSqlFetch (call : PluginCall) (world : World) :
    Neutral world (requiemdbSqlFetch oracle call world).2 := by
  have after := neutral_updateSqlFromErrno (oracle world.performed).outcome (world.record call)
  exact ⟨after.owed, after.disabled⟩

end Calls

/--
The invariant between the calls of a user: the handle is guarded, and internal transactions
are disabled only while a transaction of the user is owed.
-/
structure Invariant (world : World) : Prop where
  guarded : Guarded world
  disabled : world.internalTransactionDisabled = true → world.owed ≠ none

theorem Invariant.neutral {world after : World} (invariant : Invariant world)
    (guarded : Guarded after) (neutral : Neutral world after) : Invariant after := by
  refine ⟨guarded, ?_⟩
  rw [neutral.owed, neutral.disabled]
  exact invariant.disabled

section Transactions

variable (oracle : Nat → Fate) {world : World}

theorem open_of_begin (succeeded : ¬ (requiemdbSqlQuery oracle .begin world).1 < 0) :
    (requiemdbSqlQuery oracle .begin world).2.open_ ≠ none := by
  have sent : ∀ connected : World, ¬ (pluginSqlQuery oracle .begin connected).1 < 0 →
      (pluginSqlQuery oracle .begin connected).2.open_ ≠ none := by
    intro connected
    simp only [pluginSqlQuery]
    cases (oracle connected.performed).outcome with
    | success => simp [World.carryOut]
    | failure error | lost error => exact fun notNegative => absurd error.negative notNegative
  simp only [requiemdbSqlQuery, assertConnected] at succeeded ⊢
  split at succeeded
  · rename_i connected
    rw [if_pos connected]
    exact sent _ succeeded
  · rename_i notConnected
    rw [if_neg notConnected]
    split at succeeded
    · rename_i failed
      exact absurd failed succeeded
    · rename_i opened
      rw [if_neg opened]
      exact sent _ succeeded

/-- A start that succeeds is owed an end, whatever was owed before. -/
theorem guarded_sqlTransactionStart (guarded : Guarded world) :
    Guarded (sqlTransactionStart oracle world).2 := by
  have sent := guarded_requiemdbSqlQuery oracle .begin guarded.lock
  simp only [sqlTransactionStart]
  split
  · exact guarded.lock.unlock
  · split
    · exact sent.unlock
    · refine sent.change ?_ fun _ => ⟨fun _ => rfl, ?_⟩
      · rfl
      intro place owed _
      rcases Option.map_eq_some_iff.mp owed with ⟨transaction, isOpen, rfl⟩
      exact ⟨rfl, isOpen⟩

/-- A start leaves what is owed as it was, or something is owed behind it. -/
theorem owed_sqlTransactionStart (world : World) :
    (sqlTransactionStart oracle world).2.internalTransactionDisabled =
        world.internalTransactionDisabled ∧
      ((sqlTransactionStart oracle world).2.owed ≠ none ∨
        (sqlTransactionStart oracle world).1 < 0 ∧
          (sqlTransactionStart oracle world).2.owed = world.owed) := by
  have neutral := neutral_requiemdbSqlQuery oracle .begin world.lock
  simp only [sqlTransactionStart]
  split
  · exact ⟨rfl, .inr ⟨(by decide : transactionError < 0), rfl⟩⟩
  · split
    · rename_i failed
      exact ⟨neutral.disabled, .inr ⟨failed, neutral.owed⟩⟩
    · rename_i succeeded
      refine ⟨neutral.disabled, .inl ?_⟩
      simpa using open_of_begin oracle succeeded

theorem guarded_sqlTransactionEnd (guarded : Guarded world) :
    Guarded (sqlTransactionEnd oracle world).2 := by
  simp only [sqlTransactionEnd]
  split
  · have sent := guarded_requiemdbSqlQuery oracle .commit guarded.release
    have neutral := neutral_requiemdbSqlQuery oracle .commit { world with owed := none }
    exact (sent.setTransaction neutral.owed false).unlock
  · exact guarded.release

theorem guarded_sqlTransactionAbort (guarded : Guarded world) :
    Guarded (sqlTransactionAbort oracle world).2 := by
  have released := guarded.release.setTransaction rfl false
  simp only [sqlTransactionAbort]
  split
  · split
    · exact released.unlock
    · exact (guarded_requiemdbSqlQuery oracle .rollback released).unlock
  · exact guarded.release

/-- The functions that do nothing while internal transactions are disabled. -/
theorem invariant_unlessDisabled {function : World → Int × World} (invariant : Invariant world)
    (guarded : Guarded (function world).2)
    (disabled : world.internalTransactionDisabled = false →
      (function world).2.internalTransactionDisabled = false) :
    Invariant (unlessDisabled function world).2 := by
  rw [unlessDisabled]
  split
  · exact invariant
  · rename_i enabled
    refine ⟨guarded, fun isDisabled => ?_⟩
    rw [disabled (by simpa using enabled)] at isDisabled
    exact absurd isDisabled Bool.false_ne_true

theorem disabled_sqlTransactionEnd (world : World) :
    (sqlTransactionEnd oracle world).2.internalTransactionDisabled =
      world.internalTransactionDisabled := by
  simp only [sqlTransactionEnd]
  split
  · exact (neutral_requiemdbSqlQuery oracle .commit { world with owed := none }).disabled
  · rfl

theorem disabled_sqlTransactionAbort (world : World) :
    (sqlTransactionAbort oracle world).2.internalTransactionDisabled =
      world.internalTransactionDisabled := by
  simp only [sqlTransactionAbort]
  split
  · split
    · rfl
    · exact (neutral_requiemdbSqlQuery oracle .rollback
        { world with owed := none, transaction := false }).disabled
  · rfl

/-- Every call of the format plugin keeps the invariant. -/
theorem invariant_environment (op : SqlOp) (invariant : Invariant world) :
    Invariant (environment oracle op world).2 := by
  have query := fun text => invariant.neutral
    (guarded_requiemdbSqlQuery oracle text invariant.guarded)
    (neutral_requiemdbSqlQuery oracle text world)
  cases op with
  | transactionStart =>
      exact invariant_unlessDisabled invariant
        (guarded_sqlTransactionStart oracle invariant.guarded)
        fun enabled => (owed_sqlTransactionStart oracle world).1.trans enabled
  | transactionEnd =>
      exact invariant_unlessDisabled invariant
        (guarded_sqlTransactionEnd oracle invariant.guarded)
        fun enabled => (disabled_sqlTransactionEnd oracle world).trans enabled
  | transactionAbort =>
      exact invariant_unlessDisabled invariant
        (guarded_sqlTransactionAbort oracle invariant.guarded)
        fun enabled => (disabled_sqlTransactionAbort oracle world).trans enabled
  | escape input =>
      cases input with
      | none => exact invariant
      | some input =>
          exact invariant.neutral
            (guarded_requiemdbSqlEscapeFast oracle (.inl rfl) invariant.guarded)
            (neutral_requiemdbSqlEscapeFast oracle _ world)
  | escapeBinary input =>
      exact invariant.neutral
        (guarded_requiemdbSqlEscapeFast oracle (.inl rfl) invariant.guarded)
        (neutral_requiemdbSqlEscapeFast oracle _ world)
  | unescapeBinary input =>
      exact invariant.neutral
        (guarded_requiemdbSqlEscapeFast oracle (.inr (.inl rfl)) invariant.guarded)
        (neutral_requiemdbSqlEscapeFast oracle _ world)
  | insertMessage table cells => exact query .other
  | insert row => exact query .other
  | delete statement => exact query .other
  | selectMaxIdent table => exact query .other
  | select request => exact query .other
  | fetchRow table fetched =>
      exact invariant.neutral
        (guarded_requiemdbSqlFetch oracle (.inr (.inr (.inl rfl))) invariant.guarded)
        (neutral_requiemdbSqlFetch oracle _ world)
  | fetchField cell =>
      exact invariant.neutral
        (guarded_requiemdbSqlFetch oracle (.inr (.inr (.inr rfl))) invariant.guarded)
        (neutral_requiemdbSqlFetch oracle _ world)

variable {E : EnumKind → Type} [Librequiem E]

/-- Every call of the user keeps the invariant. -/
theorem invariant_perform (call : ApiCall E) (invariant : Invariant world) :
    Invariant (perform oracle call world).2 := by
  cases call with
  | query text =>
      exact invariant.neutral (guarded_requiemdbSqlQuery oracle text invariant.guarded)
        (neutral_requiemdbSqlQuery oracle text world)
  | escape =>
      exact invariant.neutral
        (guarded_requiemdbSqlEscapeFast oracle (.inl rfl) invariant.guarded)
        (neutral_requiemdbSqlEscapeFast oracle _ world)
  | message call =>
      exact Program.run_of_invariant (environment oracle)
        (fun op _ holds => invariant_environment oracle op holds) call.program invariant
  | sqlTransactionStart => exact invariant_environment oracle .transactionStart invariant
  | sqlTransactionEnd => exact invariant_environment oracle .transactionEnd invariant
  | sqlTransactionAbort => exact invariant_environment oracle .transactionAbort invariant
  | transactionStart =>
      have guarded := guarded_sqlTransactionStart oracle invariant.guarded
      rcases owed_sqlTransactionStart oracle world with ⟨disabled, owed⟩
      simp only [perform, requiemdbTransactionStart]
      split
      · refine ⟨guarded, fun isDisabled => ?_⟩
        rcases owed with owed | ⟨_, same⟩
        · exact owed
        · rw [same]
          exact invariant.disabled (disabled.symm.trans isDisabled)
      · rename_i succeeded
        refine ⟨guarded.change rfl fun linked => ⟨linked.held, linked.place⟩, fun _ => ?_⟩
        rcases owed with owed | ⟨failed, _⟩
        · exact owed
        · exact absurd failed succeeded
  | transactionEnd =>
      have guarded := guarded_sqlTransactionEnd oracle invariant.guarded
      exact ⟨guarded.change rfl fun linked => ⟨linked.held, linked.place⟩,
        fun isDisabled => absurd isDisabled Bool.false_ne_true⟩
  | transactionAbort =>
      have guarded := guarded_sqlTransactionAbort oracle invariant.guarded
      exact ⟨guarded.change rfl fun linked => ⟨linked.held, linked.place⟩,
        fun isDisabled => absurd isDisabled Bool.false_ne_true⟩

theorem invariant_performAll (calls : List (ApiCall E)) (invariant : Invariant world) :
    Invariant (performAll oracle calls world) := by
  induction calls generalizing world with
  | nil => exact invariant
  | cons call calls ih => exact ih (invariant_perform oracle call invariant)

theorem invariant_start : Invariant World.start where
  guarded := fun _ => ⟨.of_not_owed rfl, fun _ absent => absurd absent List.not_mem_nil⟩
  disabled := fun isDisabled => absurd isDisabled Bool.false_ne_true

/--
In every run whose steps are allowed, every statement that is sent while the caller owes an
end is executed on the session of its BEGIN with that transaction open, and internal
transactions are disabled only while the status word says that a transaction is open.
-/
theorem statements_confined (calls : List (ApiCall E))
    (allowed : ∀ event ∈ (performAll oracle calls World.start).events, event.Allowed) :
    (∀ event ∈ (performAll oracle calls World.start).events, event.Confined) ∧
      ((performAll oracle calls World.start).internalTransactionDisabled = true →
        (performAll oracle calls World.start).transaction = true) := by
  have invariant := invariant_performAll oracle calls invariant_start
  rcases invariant.guarded allowed with ⟨linked, confined⟩
  exact ⟨confined, fun disabled => linked.held (invariant.disabled disabled)⟩

end Transactions

/-- The plugin calls succeed, but for one at which the connection may be lost. -/
def lostAt (lost : Option Nat) (performed : Nat) : Fate where
  outcome := if lost = some performed then .lost ⟨-1, minusOne_negative⟩ else .success
  staysOpen := false
  threadError := false
  rows := []
  cell := .null
  field := none

/-- A transaction of the user around one query. -/
def transactionOfOneQuery : List (ApiCall TextEnum) :=
  [.transactionStart, .query .other, .transactionEnd]

theorem statements_confined_oneQuery :
    (∀ event ∈ (performAll (lostAt none) transactionOfOneQuery World.start).events,
      event.Confined) ∧
      ((performAll (lostAt none) transactionOfOneQuery
          World.start).internalTransactionDisabled = true →
        (performAll (lostAt none) transactionOfOneQuery World.start).transaction = true) :=
  statements_confined (lostAt none) transactionOfOneQuery (by decide)

/-- A query that goes on after the connection was lost inside of a transaction. -/
def goesOnAfterLoss : List (ApiCall TextEnum) :=
  [.transactionStart, .query .other, .query .other]

/-- The second query runs on a new session without any transaction. -/
theorem goesOnAfterLoss_not_confined :
    ¬ ((∀ event ∈ (performAll (lostAt (some 2)) goesOnAfterLoss World.start).events,
      event.Confined) ∧
      ((performAll (lostAt (some 2)) goesOnAfterLoss
          World.start).internalTransactionDisabled = true →
        (performAll (lostAt (some 2)) goesOnAfterLoss World.start).transaction = true)) := by
  rintro ⟨confined, _⟩
  have present : (⟨.sent .other, 1, none, some ⟨0, 0⟩⟩ : Event) ∈
      (performAll (lostAt (some 2)) goesOnAfterLoss World.start).events := by decide
  have place := confined _ present ⟨0, 0⟩ rfl
  exact absurd place.1 (by decide)

end RequiemDB.Handle
