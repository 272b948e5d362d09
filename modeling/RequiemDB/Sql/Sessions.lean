import RequiemDB.Sql.Confinement

/-!
# The sessions of a handle

The plugin gives out a session at each open and takes it back at a close. The
functions that send statements re-open a lost connection first; the functions
that read from a result table do not, and use the session that the handle still
points to. A run keeps its sessions, each closed once and none used behind its
close, exactly when no row or field is fetched while the connection is lost.
-/

namespace RequiemDB.Handle

/-- A result table of the handle and the number of rows that were fetched from it. -/
structure ResultTable where
  live : Bool
  rows : Nat

/-- The calls of a user on a handle and on the result tables it was given. -/
inductive SessionCall where
  | query (text : Query)
  | escape
  | unescape
  | fetchRow (table : Nat)
  | fetchField (table row : Nat)
  | tableDestroy (table : Nat)
  | sqlTransactionStart
  | sqlTransactionEnd
  | sqlTransactionAbort
  | transactionStart
  | transactionEnd
  | transactionAbort

/-- The handle and the result tables, in the order in which they were created. -/
structure Client where
  world : World
  tables : List ResultTable

def Client.start : Client where
  world := .start
  tables := []

namespace Client

variable (client : Client)

/-- The table is live. -/
def HasTable (table : Nat) : Prop := ∃ found, client.tables[table]? = some found ∧ found.live

/-- The row was fetched from the table, which is still live. -/
def HasRow (table row : Nat) : Prop :=
  ∃ found, client.tables[table]? = some found ∧ found.live ∧ row < found.rows

instance (table : Nat) : Decidable (client.HasTable table) :=
  match found : client.tables[table]? with
  | none => isFalse (by simp [HasTable, found])
  | some result => decidable_of_iff (result.live = true) (by simp [HasTable, found])

instance (table row : Nat) : Decidable (client.HasRow table row) :=
  match found : client.tables[table]? with
  | none => isFalse (by simp [HasRow, found])
  | some result =>
      decidable_of_iff (result.live = true ∧ row < result.rows) (by simp [HasRow, found])

/-- The call reaches the plugin with a row or a field to fetch. -/
def Fetches : SessionCall → Prop
  | .fetchRow table => client.HasTable table
  | .fetchField table row => client.HasRow table row
  | _ => False

end Client

section Functions

variable (oracle : Nat → Fate)

/-- `requiemdb_sql_query`, which creates a table if there are rows. -/
def Client.query (text : Query) (client : Client) : Client :=
  let (ret, world) := requiemdbSqlQuery oracle text client.world
  if ret < 0 ∨ (oracle client.world.performed).rows = [] then { client with world }
  else ⟨world, client.tables ++ [⟨true, 0⟩]⟩

/-- `requiemdb_sql_table_fetch_row`; the oracle has rows as long as there are any. -/
def Client.fetchRow (table : Nat) (client : Client) : Client :=
  let (ret, world) := requiemdbSqlFetch oracle .fetchRow client.world
  if ret < 0 ∨ (oracle client.world.performed).rows = [] then { client with world }
  else ⟨world, client.tables.modify table fun found => { found with rows := found.rows + 1 }⟩

/-- `requiemdb_sql_row_fetch_field`. -/
def Client.fetchField (client : Client) : Client :=
  { client with world := (requiemdbSqlFetch oracle .fetchField client.world).2 }

/-- `requiemdb_sql_table_destroy`. -/
def Client.tableDestroy (table : Nat) (client : Client) : Client :=
  { client with tables := client.tables.modify table fun found => { found with live := false } }

/-- A call of the user; tables and rows that the user does not have cannot be used. -/
def Client.perform (client : Client) : SessionCall → Client
  | .query text => client.query oracle text
  | .escape => { client with world := (requiemdbSqlEscapeFast oracle .escape client.world).2 }
  | .unescape => { client with world := (requiemdbSqlEscapeFast oracle .unescape client.world).2 }
  | .fetchRow table => if client.HasTable table then client.fetchRow oracle table else client
  | .fetchField table row => if client.HasRow table row then client.fetchField oracle else client
  | .tableDestroy table => client.tableDestroy table
  | .sqlTransactionStart =>
      { client with world := (requiemdbSqlTransactionStart oracle client.world).2 }
  | .sqlTransactionEnd =>
      { client with world := (requiemdbSqlTransactionEnd oracle client.world).2 }
  | .sqlTransactionAbort =>
      { client with world := (requiemdbSqlTransactionAbort oracle client.world).2 }
  | .transactionStart => { client with world := (requiemdbTransactionStart oracle client.world).2 }
  | .transactionEnd => { client with world := (requiemdbTransactionEnd oracle client.world).2 }
  | .transactionAbort => { client with world := (requiemdbTransactionAbort oracle client.world).2 }

/-- The client behind a sequence of calls. -/
def Client.performAll : List SessionCall → Client → Client
  | [], client => client
  | call :: calls, client => performAll calls (client.perform oracle call)

/-- No row and no field of a run is fetched while the connection is lost. -/
def FetchesConnected : List SessionCall → Client → Prop
  | [], _ => True
  | call :: calls, client =>
      (client.Fetches call → client.world.connected = true) ∧
        FetchesConnected calls (client.perform oracle call)

end Functions

/-- `requiemdb_sql_destroy`. -/
def requiemdbSqlDestroy (world : World) : World :=
  if world.connected then world.record .closed else world

/-- The plugin calls that are made with a session in use. -/
def PluginCall.IsUse : PluginCall → Prop
  | .sent _ | .escape | .unescape | .fetchRow | .fetchField => True
  | .opened | .openFailed | .closed => False

instance : ∀ call : PluginCall, Decidable call.IsUse
  | .sent _ | .escape | .unescape | .fetchRow | .fetchField => inferInstanceAs (Decidable True)
  | .opened | .openFailed | .closed => inferInstanceAs (Decidable False)

namespace World

variable (world : World)

/-- How often a session was closed. -/
def closings (session : Nat) : Nat :=
  world.events.countP fun event => event.call = .closed ∧ event.session = session

/-- No session is used behind its close. -/
def NoUseBehindClose : Prop :=
  world.events.Pairwise fun earlier later =>
    earlier.call = .closed → later.call.IsUse → later.session ≠ earlier.session

instance : Decidable world.NoUseBehindClose :=
  inferInstanceAs (Decidable (List.Pairwise _ _))

/-- Every session was closed once, and none was used behind its close. -/
def SessionsKept : Prop :=
  (∀ session < world.sessions, world.closings session = 1) ∧ world.NoUseBehindClose

instance : Decidable world.SessionsKept :=
  inferInstanceAs (Decidable (_ ∧ _))

theorem closings_record (call : PluginCall) (session : Nat) :
    (world.record call).closings session =
      world.closings session + if call = .closed ∧ world.session = session then 1 else 0 := by
  simp [closings, record, List.countP_append, List.countP_cons]

theorem noUseBehindClose_record (call : PluginCall) :
    (world.record call).NoUseBehindClose ↔
      world.NoUseBehindClose ∧ (call.IsUse → world.closings world.session = 0) := by
  simp only [NoUseBehindClose, record, List.pairwise_append, List.pairwise_singleton,
    List.forall_mem_singleton, true_and, closings, List.countP_eq_zero, decide_eq_true_eq, not_and]
  refine and_congr_right fun _ => ⟨fun unused isUse event present closed => ?_,
    fun unused event present closed isUse => ?_⟩
  · exact fun same => unused event present closed isUse same.symm
  · exact fun same => unused isUse event present closed same.symm

end World

/--
The invariant between the calls of a user: the session of a connected handle is the last one
given out, and every other session was closed once.
-/
structure Tidy (world : World) : Prop where
  current : world.sessions ≠ 0 → world.session + 1 = world.sessions
  connected : world.connected = true → world.sessions ≠ 0
  closings : ∀ session, world.closings session =
    if session < world.sessions ∧ ¬ (world.connected = true ∧ session = world.session) then 1 else 0
  uses : world.NoUseBehindClose

/-- What every function does that does not read from a table. -/
structure Keeps (world after : World) : Prop where
  grows : world.events <+: after.events
  sessions : world.sessions ≤ after.sessions
  tidy : Tidy world → Tidy after

namespace Keeps

variable {world middle after : World}

theorem trans (first : Keeps world middle) (second : Keeps middle after) : Keeps world after :=
  ⟨first.grows.trans second.grows, first.sessions.trans second.sessions,
    fun tidy => second.tidy (first.tidy tidy)⟩

/-- A change of the handle that neither calls the plugin nor touches the connection. -/
theorem change (events : after.events = world.events) (session : after.session = world.session)
    (sessions : after.sessions = world.sessions) (connected : after.connected = world.connected) :
    Keeps world after := by
  refine ⟨events.symm ▸ List.prefix_rfl, sessions.ge, fun tidy => ⟨?_, ?_, ?_, ?_⟩⟩
  · rw [session, sessions]
    exact tidy.current
  · rw [connected, sessions]
    exact tidy.connected
  · intro other
    rw [World.closings, events, session, sessions, connected]
    exact tidy.closings other
  · rw [World.NoUseBehindClose, events]
    exact tidy.uses

end Keeps

section Calls

variable (oracle : Nat → Fate) {world : World}

theorem grows_record (call : PluginCall) (world : World) :
    world.events <+: (world.record call).events :=
  List.prefix_append _ _

theorem Tidy.closings_session (tidy : Tidy world) (connected : world.connected = true) :
    world.closings world.session = 0 := by
  rw [tidy.closings, if_neg fun closed => closed.2 ⟨connected, rfl⟩]

/-- A lost handle still points to a session, and that one is closed. -/
theorem Tidy.closings_lost (tidy : Tidy world) (opened : world.sessions ≠ 0)
    (lost : world.connected = false) : world.closings world.session = 1 := by
  have current := tidy.current opened
  rw [tidy.closings, if_pos ⟨by omega, by simp [lost]⟩]

/-- A call of the plugin that neither opens nor closes, and uses the session of a handle. -/
theorem keeps_record {call : PluginCall} (notClosed : call ≠ .closed)
    (connected : call.IsUse → world.connected = true) : Keeps world (world.record call) := by
  refine ⟨grows_record call world, le_rfl, fun tidy => ⟨tidy.current, tidy.connected, ?_, ?_⟩⟩
  · intro session
    rw [World.closings_record, if_neg fun closed => notClosed closed.1]
    exact tidy.closings session
  · rw [World.noUseBehindClose_record]
    exact ⟨tidy.uses, fun isUse => tidy.closings_session (connected isUse)⟩

theorem keeps_use (call : PluginCall) (isUse : call.IsUse) (connected : world.connected = true) :
    Keeps world (world.record call) := by
  refine keeps_record ?_ fun _ => connected
  rintro rfl
  exact isUse

theorem keeps_updateSqlFromErrno (outcome : Outcome) (connected : world.connected = true) :
    Keeps world (updateSqlFromErrno outcome world) := by
  cases outcome with
  | success | failure error => exact .change rfl rfl rfl rfl
  | lost error =>
      refine ⟨grows_record .closed world, le_rfl, fun tidy => ⟨tidy.current, ?_, ?_, ?_⟩⟩
      · exact fun closed => absurd closed Bool.false_ne_true
      · intro session
        have before := tidy.closings session
        have closed := world.closings_record .closed session
        have inside := tidy.current (tidy.connected connected)
        refine closed.trans ?_
        rw [before]
        by_cases same : session = world.session
        · subst same
          rw [if_neg fun other => other.2 ⟨connected, rfl⟩, if_pos ⟨rfl, rfl⟩, if_pos]
          exact ⟨show world.session < world.sessions by omega,
            fun open_ => absurd open_.1 Bool.false_ne_true⟩
        · have notClosed : ¬ (PluginCall.closed = .closed ∧ world.session = session) :=
            fun other => same other.2.symm
          rw [if_neg notClosed]
          simp [updateSqlFromErrno, World.record, same]
      · have closed := world.noUseBehindClose_record .closed
        exact closed.mpr ⟨tidy.uses, fun isUse => absurd isUse not_false⟩

theorem keeps_requiemdbSqlConnect (lost : world.connected = false) :
    Keeps world (requiemdbSqlConnect oracle world).2 := by
  simp only [requiemdbSqlConnect]
  cases (oracle world.performed).outcome with
  | success =>
      refine ⟨grows_record .opened world, Nat.le_succ world.sessions, fun tidy =>
        ⟨fun _ => rfl, fun _ => Nat.succ_ne_zero world.sessions, ?_, ?_⟩⟩
      · intro session
        have opened := world.closings_record .opened session
        refine opened.trans ?_
        rw [if_neg fun closed => absurd closed.1 (by decide), tidy.closings]
        simp only [World.newSession, World.record, lost]
        split <;> split <;> grind
      · have opened := world.noUseBehindClose_record .opened
        exact opened.mpr ⟨tidy.uses, fun isUse => absurd isUse not_false⟩
  | failure error | lost error =>
      exact keeps_record (by decide) fun isUse => absurd isUse not_false

theorem keeps_assertConnected {rest : World → Int × World}
    (keeps : ∀ connected : World, connected.connected = true →
      Keeps connected (rest connected).2) (world : World) :
    Keeps world (assertConnected oracle world rest).2 := by
  simp only [assertConnected]
  split
  · rename_i connected
    exact keeps world connected
  · rename_i lost
    have opened := keeps_requiemdbSqlConnect oracle (by simpa using lost)
    split
    · exact opened.trans (.change rfl rfl rfl rfl)
    · rename_i succeeded
      exact opened.trans (keeps _ (connected_requiemdbSqlConnect oracle succeeded))

/-- What the server does with a query leaves the connection as it is. -/
theorem keeps_carryOut (query : Query) (world : World) : Keeps world (world.carryOut query) := by
  cases query <;> exact .change rfl rfl rfl rfl

theorem keeps_refuse (staysOpen : Bool) (query : Query) (world : World) :
    Keeps world (world.refuse staysOpen query) := by
  cases query <;> cases staysOpen <;> exact .change rfl rfl rfl rfl

theorem connected_refuse (staysOpen : Bool) (query : Query) (world : World) :
    (world.refuse staysOpen query).connected = world.connected := by
  cases query <;> cases staysOpen <;> rfl

theorem keeps_pluginSqlQuery (query : Query) (connected : world.connected = true) :
    Keeps world (pluginSqlQuery oracle query world).2 := by
  have sent := keeps_use (.sent query) trivial connected
  simp only [pluginSqlQuery]
  cases (oracle world.performed).outcome with
  | success => exact sent.trans (keeps_carryOut query _)
  | failure error =>
      refine sent.trans ((keeps_refuse (oracle world.performed).staysOpen query _).trans ?_)
      refine keeps_updateSqlFromErrno (.failure error) ?_
      rw [connected_refuse]
      exact connected
  | lost error => exact sent.trans (keeps_updateSqlFromErrno (.lost error) connected)

theorem keeps_requiemdbSqlQuery (query : Query) (world : World) :
    Keeps world (requiemdbSqlQuery oracle query world).2 := by
  have locked : Keeps world world.lock := .change rfl rfl rfl rfl
  refine locked.trans (keeps_assertConnected oracle (fun connected isConnected => ?_) world.lock)
  exact (keeps_pluginSqlQuery oracle query isConnected).trans (.change rfl rfl rfl rfl)

theorem keeps_requiemdbSqlEscapeFast (call : PluginCall) (isUse : call.IsUse) (world : World) :
    Keeps world (requiemdbSqlEscapeFast oracle call world).2 := by
  have locked : Keeps world world.lock := .change rfl rfl rfl rfl
  refine locked.trans (keeps_assertConnected oracle (fun connected isConnected => ?_) world.lock)
  exact (keeps_use call isUse isConnected).trans (.change rfl rfl rfl rfl)

/-- The functions that read from a table use the session without a look at the connection. -/
theorem keeps_requiemdbSqlFetch (call : PluginCall) (isUse : call.IsUse)
    (connected : world.connected = true) : Keeps world (requiemdbSqlFetch oracle call world).2 :=
  (keeps_use call isUse connected).trans (keeps_updateSqlFromErrno _ connected)

theorem grows_updateSqlFromErrno (outcome : Outcome) (world : World) :
    world.events <+: (updateSqlFromErrno outcome world).events := by
  cases outcome with
  | success | failure error => exact List.prefix_rfl
  | lost error => exact grows_record .closed world

theorem grows_requiemdbSqlFetch (call : PluginCall) (world : World) :
    (world.record call).events <+: (requiemdbSqlFetch oracle call world).2.events :=
  grows_updateSqlFromErrno _ _

theorem sessions_of_query (query : Query) (tidy : Tidy world)
    (succeeded : ¬ (requiemdbSqlQuery oracle query world).1 < 0) :
    (requiemdbSqlQuery oracle query world).2.sessions ≠ 0 := by
  have sent : ∀ connected : World, Tidy connected → connected.connected = true →
      ¬ (pluginSqlQuery oracle query connected).1 < 0 →
      (pluginSqlQuery oracle query connected).2.sessions ≠ 0 := by
    intro connected tidyConnected isConnected
    have opened := tidyConnected.connected isConnected
    simp only [pluginSqlQuery]
    cases (oracle connected.performed).outcome with
    | success => exact fun _ => by cases query <;> exact opened
    | failure error | lost error => exact fun notNegative => absurd error.negative notNegative
  have lock : Keeps world world.lock := .change rfl rfl rfl rfl
  have locked := lock.tidy tidy
  simp only [requiemdbSqlQuery, assertConnected] at succeeded ⊢
  split at succeeded
  · rename_i connected
    rw [if_pos connected]
    exact sent _ locked connected succeeded
  · rename_i lost
    rw [if_neg lost]
    have isLost : world.lock.connected = false := by simpa using lost
    have opened := keeps_requiemdbSqlConnect oracle isLost
    split at succeeded
    · rename_i failed
      exact absurd failed succeeded
    · rename_i connected
      rw [if_neg connected]
      exact sent _ (opened.tidy locked) (connected_requiemdbSqlConnect oracle connected) succeeded

end Calls

section Transactions

variable (oracle : Nat → Fate) (world : World)

theorem keeps_sqlTransactionStart : Keeps world (sqlTransactionStart oracle world).2 := by
  have locked : Keeps world world.lock := .change rfl rfl rfl rfl
  have sent := locked.trans (keeps_requiemdbSqlQuery oracle .begin world.lock)
  simp only [sqlTransactionStart]
  split
  · exact .change rfl rfl rfl rfl
  · split <;> exact sent.trans (.change rfl rfl rfl rfl)

theorem keeps_sqlTransactionEnd : Keeps world (sqlTransactionEnd oracle world).2 := by
  have released : Keeps world { world with owed := none } := .change rfl rfl rfl rfl
  simp only [sqlTransactionEnd]
  split
  · exact (released.trans (keeps_requiemdbSqlQuery oracle .commit _)).trans
      (.change rfl rfl rfl rfl)
  · exact released

theorem keeps_sqlTransactionAbort : Keeps world (sqlTransactionAbort oracle world).2 := by
  have released : Keeps world { world with owed := none, transaction := false } :=
    .change rfl rfl rfl rfl
  simp only [sqlTransactionAbort]
  split
  · split
    · exact .change rfl rfl rfl rfl
    · exact (released.trans (keeps_requiemdbSqlQuery oracle .rollback _)).trans
        (.change rfl rfl rfl rfl)
  · exact .change rfl rfl rfl rfl

theorem keeps_unlessDisabled {function : World → Int × World}
    (keeps : Keeps world (function world).2) : Keeps world (unlessDisabled function world).2 := by
  rw [unlessDisabled]
  split
  · exact .change rfl rfl rfl rfl
  · exact keeps

theorem keeps_requiemdbTransactionStart :
    Keeps world (requiemdbTransactionStart oracle world).2 := by
  have started := keeps_sqlTransactionStart oracle world
  simp only [requiemdbTransactionStart]
  split
  · exact started
  · exact started.trans (.change rfl rfl rfl rfl)

end Transactions

/-- The handle is tidy, and there are tables only behind an open. -/
structure Client.Sound (client : Client) : Prop where
  tidy : Tidy client.world
  tables : client.tables ≠ [] → client.world.sessions ≠ 0

namespace Client

variable (oracle : Nat → Fate) {client : Client}

theorem hasTable_of_hasRow {table row : Nat} (hasRow : client.HasRow table row) :
    client.HasTable table := by
  rcases hasRow with ⟨found, atTable, live, _⟩
  exact ⟨found, atTable, live⟩

theorem tables_ne_nil {table : Nat} (hasTable : client.HasTable table) : client.tables ≠ [] := by
  rcases hasTable with ⟨found, atTable, _⟩
  intro noTable
  rw [noTable] at atTable
  exact absurd atTable (by simp)

theorem tables_of_fetches {call : SessionCall} (fetches : client.Fetches call) :
    client.tables ≠ [] := by
  cases call with
  | fetchRow table => exact tables_ne_nil fetches
  | fetchField table row => exact tables_ne_nil (hasTable_of_hasRow fetches)
  | _ => exact fetches.elim

theorem Sound.of_keeps (sound : client.Sound) {world : World} (keeps : Keeps client.world world) :
    Sound { client with world } where
  tidy := keeps.tidy sound.tidy
  tables := fun some opened => sound.tables some (Nat.eq_zero_of_le_zero (opened ▸ keeps.sessions))

theorem Sound.withTables (sound : client.Sound) {tables : List ResultTable}
    (opened : tables ≠ [] → client.world.sessions ≠ 0) : Sound { client with tables } :=
  ⟨sound.tidy, opened⟩

theorem modify_ne_nil {tables : List ResultTable} {table : Nat}
    {change : ResultTable → ResultTable} (some : tables.modify table change ≠ []) :
    tables ≠ [] := by
  rintro rfl
  exact some (by simp)

theorem sound_query (text : Query) (sound : client.Sound) : (client.query oracle text).Sound := by
  have keeps := keeps_requiemdbSqlQuery oracle text client.world
  have after := sound.of_keeps keeps
  simp only [query]
  split
  · exact after
  · rename_i succeeded
    refine after.withTables fun _ => ?_
    exact sessions_of_query oracle text sound.tidy fun failed => succeeded (.inl failed)

theorem sound_fetchRow {table : Nat} (sound : client.Sound)
    (connected : client.world.connected = true) : (client.fetchRow oracle table).Sound := by
  have keeps := keeps_requiemdbSqlFetch oracle .fetchRow trivial connected
  have after := sound.of_keeps keeps
  simp only [fetchRow]
  split
  · exact after
  · exact after.withTables fun some => after.tables (modify_ne_nil some)

/-- A call keeps the client sound, if it fetches nothing over a lost connection. -/
theorem sound_perform (call : SessionCall) (sound : client.Sound)
    (connected : client.Fetches call → client.world.connected = true) :
    (client.perform oracle call).Sound := by
  cases call with
  | query text => exact sound_query oracle text sound
  | escape => exact sound.of_keeps (keeps_requiemdbSqlEscapeFast oracle .escape trivial _)
  | unescape =>
      exact sound.of_keeps (keeps_requiemdbSqlEscapeFast oracle .unescape trivial _)
  | fetchRow table =>
      simp only [perform]
      split
      · rename_i hasTable
        exact sound_fetchRow oracle sound (connected hasTable)
      · exact sound
  | fetchField table row =>
      simp only [perform]
      split
      · rename_i hasRow
        exact sound.of_keeps (keeps_requiemdbSqlFetch oracle .fetchField trivial (connected hasRow))
      · exact sound
  | tableDestroy table => exact sound.withTables fun some => sound.tables (modify_ne_nil some)
  | sqlTransactionStart =>
      exact sound.of_keeps (keeps_unlessDisabled _ (keeps_sqlTransactionStart oracle _))
  | sqlTransactionEnd =>
      exact sound.of_keeps (keeps_unlessDisabled _ (keeps_sqlTransactionEnd oracle _))
  | sqlTransactionAbort =>
      exact sound.of_keeps (keeps_unlessDisabled _ (keeps_sqlTransactionAbort oracle _))
  | transactionStart => exact sound.of_keeps (keeps_requiemdbTransactionStart oracle _)
  | transactionEnd =>
      exact sound.of_keeps ((keeps_sqlTransactionEnd oracle _).trans (.change rfl rfl rfl rfl))
  | transactionAbort =>
      exact sound.of_keeps ((keeps_sqlTransactionAbort oracle _).trans (.change rfl rfl rfl rfl))

theorem grows_fetch {call : SessionCall} (fetches : client.Fetches call) :
    ∃ fetch : PluginCall, fetch.IsUse ∧
      (client.world.record fetch).events <+: (client.perform oracle call).world.events := by
  cases call with
  | fetchRow table =>
      refine ⟨.fetchRow, trivial, ?_⟩
      simp only [perform, if_pos (show client.HasTable table from fetches), fetchRow]
      split <;> exact grows_requiemdbSqlFetch oracle .fetchRow client.world
  | fetchField table row =>
      refine ⟨.fetchField, trivial, ?_⟩
      simp only [perform, if_pos (show client.HasRow table row from fetches), fetchField]
      exact grows_requiemdbSqlFetch oracle .fetchField client.world
  | _ => exact fetches.elim

theorem grows_perform (call : SessionCall) (client : Client) :
    client.world.events <+: (client.perform oracle call).world.events := by
  by_cases fetches : client.Fetches call
  · rcases grows_fetch oracle fetches with ⟨fetch, _, recorded⟩
    exact (grows_record fetch client.world).trans recorded
  cases call with
  | query text =>
      simp only [perform, query]
      split <;> exact (keeps_requiemdbSqlQuery oracle text client.world).grows
  | escape => exact (keeps_requiemdbSqlEscapeFast oracle .escape trivial _).grows
  | unescape => exact (keeps_requiemdbSqlEscapeFast oracle .unescape trivial _).grows
  | fetchRow table =>
      have same : client.perform oracle (.fetchRow table) = client :=
        if_neg (show ¬ client.HasTable table from fetches)
      exact same.symm ▸ List.prefix_rfl
  | fetchField table row =>
      have same : client.perform oracle (.fetchField table row) = client :=
        if_neg (show ¬ client.HasRow table row from fetches)
      exact same.symm ▸ List.prefix_rfl
  | tableDestroy table => exact List.prefix_rfl
  | sqlTransactionStart => exact (keeps_unlessDisabled _ (keeps_sqlTransactionStart oracle _)).grows
  | sqlTransactionEnd => exact (keeps_unlessDisabled _ (keeps_sqlTransactionEnd oracle _)).grows
  | sqlTransactionAbort => exact (keeps_unlessDisabled _ (keeps_sqlTransactionAbort oracle _)).grows
  | transactionStart => exact (keeps_requiemdbTransactionStart oracle _).grows
  | transactionEnd => exact (keeps_sqlTransactionEnd oracle client.world).grows
  | transactionAbort => exact (keeps_sqlTransactionAbort oracle client.world).grows

theorem grows_performAll (calls : List SessionCall) (client : Client) :
    client.world.events <+: (performAll oracle calls client).world.events := by
  induction calls generalizing client with
  | nil => exact List.prefix_rfl
  | cons call calls ih => exact (grows_perform oracle call client).trans (ih _)

end Client

theorem grows_requiemdbSqlDestroy (world : World) :
    world.events <+: (requiemdbSqlDestroy world).events := by
  rw [requiemdbSqlDestroy]
  split
  · exact grows_record .closed world
  · exact List.prefix_rfl

theorem World.NoUseBehindClose.of_grows {world after : World} (unused : after.NoUseBehindClose)
    (grows : world.events <+: after.events) : world.NoUseBehindClose :=
  List.Pairwise.sublist grows.sublist unused

/-- The end of the handle closes the session that is left. -/
theorem Tidy.sessionsKept {world : World} (tidy : Tidy world) :
    (requiemdbSqlDestroy world).SessionsKept := by
  rw [requiemdbSqlDestroy]
  split
  · rename_i connected
    refine ⟨fun session given => ?_, ?_⟩
    · have isGiven : session < world.sessions := given
      rw [World.closings_record, tidy.closings]
      by_cases last : session = world.session
      · simp [last, connected]
      · have other : ¬ world.session = session := fun same => last same.symm
        simp [last, other, isGiven]
    · rw [World.noUseBehindClose_record]
      exact ⟨tidy.uses, fun isUse => absurd isUse not_false⟩
  · rename_i lost
    refine ⟨fun session given => ?_, tidy.uses⟩
    rw [tidy.closings, if_pos ⟨given, fun open_ => lost open_.1⟩]

/-- A fetch over a lost connection uses a closed session. -/
theorem Client.Sound.not_sessionsKept (oracle : Nat → Fate) {client : Client} {call : SessionCall}
    (sound : client.Sound) (fetches : client.Fetches call) (lost : client.world.connected = false)
    (calls : List SessionCall) :
    ¬ (requiemdbSqlDestroy
      (performAll oracle calls (client.perform oracle call)).world).SessionsKept := by
  rintro ⟨_, unused⟩
  rcases grows_fetch oracle fetches with ⟨fetch, isUse, recorded⟩
  have grows := recorded.trans ((grows_performAll oracle calls _).trans
    (grows_requiemdbSqlDestroy _))
  have closed := ((World.noUseBehindClose_record _ _).mp (unused.of_grows grows)).2 isUse
  have opened := sound.tables (tables_of_fetches fetches)
  exact absurd ((sound.tidy.closings_lost opened lost).symm.trans closed) (by decide)

theorem Client.Sound.kept_iff {oracle : Nat → Fate} {client : Client}
    (sound : client.Sound) (calls : List SessionCall) :
    (requiemdbSqlDestroy (performAll oracle calls client).world).SessionsKept ↔
      FetchesConnected oracle calls client := by
  induction calls generalizing client with
  | nil => exact iff_true_intro sound.tidy.sessionsKept
  | cons call calls ih =>
      by_cases connected : client.Fetches call → client.world.connected = true
      · exact (ih (sound_perform oracle call sound connected)).trans
          (and_iff_right connected).symm
      · have fetchesLost : client.Fetches call ∧ client.world.connected = false := by
          simpa using connected
        have spoilt := sound.not_sessionsKept oracle fetchesLost.1 fetchesLost.2 calls
        exact iff_of_false spoilt fun all => connected all.1

theorem Client.sound_start : Client.start.Sound where
  tidy := {
    current := fun given => absurd rfl given
    connected := fun isConnected => absurd isConnected Bool.false_ne_true
    closings := fun _ => rfl
    uses := List.Pairwise.nil }
  tables := fun some => absurd rfl some

/--
By the time the handle is destroyed every session was closed once and none was used behind
its close, exactly if no row and no field was fetched while the connection was lost.
-/
theorem sessionsKept_iff (oracle : Nat → Fate) (calls : List SessionCall) :
    (requiemdbSqlDestroy (Client.performAll oracle calls .start).world).SessionsKept ↔
      FetchesConnected oracle calls .start :=
  Client.sound_start.kept_iff calls

/-- Every SELECT has a row, and the connection may be lost at one call. -/
def rowsAndLostAt (lost : Option Nat) (performed : Nat) : Fate :=
  { lostAt lost performed with rows := [messageRow ⟨.alert, 1⟩ []] }

/-- A table is read behind a query that has lost the connection. -/
def readsBehindLoss : List SessionCall := [.query .other, .query .other, .fetchRow 0]

/-- The row is fetched with the session that the second query has closed. -/
theorem readsBehindLoss_not_sessionsKept :
    ¬ (requiemdbSqlDestroy
      (Client.performAll (rowsAndLostAt (some 2)) readsBehindLoss .start).world).SessionsKept := by
  decide

end RequiemDB.Handle
