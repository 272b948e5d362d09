import RequiemDB.Lib.Listing
import RequiemDB.Query.Criteria
import RequiemDB.Query.Selection

/-!
# The order of listed idents

The query of `get_message_idents` with an order, as a server answers it. `DISTINCT` ranges
over the ident and the three columns of the creation time, of which a message has one row, so
no ident comes twice. `ORDER BY` names the first of these columns: messages of the same second
come in any order, whatever their microseconds.
-/

namespace RequiemDB

open Lib

section Server

/-- A row of the `FROM` clause: that of a message, and one of each joined table or NULLs. -/
structure JoinedRow where
  top : Row
  tables : List (JoinedTable × Option Row)

/-- The row behind an alias. -/
def JoinedRow.row (joined : JoinedRow) (alias_ : String) : Option Row :=
  if alias_ = "top_table" then some joined.top
  else (joined.tables.find? fun entry => entry.1.getName = alias_).bind Prod.snd

/-- What `LEFT JOIN` puts next to a message: a row that the table joins, NULLs if there is none. -/
def JoinedTable.LeftJoins (table : JoinedTable) (rows : List Row) (ident : Nat) :
    Option Row → Prop
  | some row => row ∈ rows ∧ table.Joins ident row
  | none => ∀ row ∈ rows, ¬ table.Joins ident row

/-- The rows of the `FROM` clause. -/
structure Join.Yields (join : Join) (rows : List Row) (joined : JoinedRow) : Prop where
  top : joined.top ∈ rows ∧ joined.top.table.sqlName = join.topTable
  tables : joined.tables.map Prod.fst = join.tables
  each : ∀ entry ∈ joined.tables, entry.1.LeftJoins rows joined.top.messageIdent entry.2

/--
A server: its columns by name, which rows a condition selects, and how the values of a column
are sorted.
-/
structure ListingServer where
  column : String → Option Column
  time : column "time" = some .time
  gmtoff : column "gmtoff" = some .gmtoff
  usec : column "usec" = some .usec
  selects : String → JoinedRow → Bool
  before : Option Cell → Option Cell → Prop
  total : ∀ first second, before first second ∨ before second first
  trans : ∀ first second third, before first second → before second third → before first third
  before_timestamp : ∀ first second,
    before (some (.timestamp first)) (some (.timestamp second)) ↔ first ≤ second

namespace ListingServer

variable (server : ListingServer)

def fieldValue (joined : JoinedRow) : FieldName → Cell
  | .zero => .number 0
  | .column tableName name =>
      (((server.column name).bind fun column =>
        (joined.row tableName).map fun row => row.cell column)).getD .null

/-- The value of an expression of the field list; an aggregate has none on a single row. -/
def value (joined : JoinedRow) : SelectedField → Option Cell
  | .distinctIdent => some (.number joined.top.messageIdent)
  | .field name => some (server.fieldValue joined name)
  | .apply _ _ => none

/-- The `WHERE` clause, if any. -/
def Selects (condition : Option String) (joined : JoinedRow) : Prop :=
  ∀ text ∈ condition, server.selects text joined = true

/-- A tuple that the query yields, before `DISTINCT`. -/
def Row (rows : List Row) (query : SqlQuery) (tuple : List (Option Cell)) : Prop :=
  ∃ joined, query.join.Yields rows joined ∧ server.Selects query.condition joined ∧
    tuple = query.select.fields.map (server.value joined)

/-- `ORDER BY`: the ordinals from the first on, each for the ties of those in front of it. -/
def Precedes : List (Nat × Direction) → List (Option Cell) → List (Option Cell) → Prop
  | [], _, _ => True
  | (ordinal, direction) :: orderBy, left, right =>
      let first := left[ordinal - 1]?.join
      let second := right[ordinal - 1]?.join
      match direction with
      | .asc => server.before first second ∧
          (server.before second first → Precedes orderBy left right)
      | .desc => server.before second first ∧
          (server.before first second → Precedes orderBy left right)

/--
An answer to a query that asks for distinct rows, without `GROUP BY` and `LIMIT`; ties come in
any order.
-/
structure Answers (rows : List RequiemDB.Row) (query : SqlQuery)
    (answer : List (List (Option Cell))) : Prop where
  distinct : .distinctIdent ∈ query.select.fields
  ungrouped : query.select.groupBy = []
  unlimited : query.limitOffset = ""
  listing : Listing (server.Row rows query) (server.Precedes query.select.orderBy) answer

end ListingServer

end Server

/-- The ident that `classic_get_next_message_ident` takes from a row. -/
def identOf (tuple : List (Option Cell)) : Option Nat :=
  match tuple.head? with
  | some (some (.number ident)) => some ident.toNat
  | _ => none

/-- The seconds and the microseconds of a row of `Requiem_CreateTime`. -/
def Row.secondsAndUsec (row : Row) : Option (UInt32 × Int) :=
  match row.cell .time, row.cell .usec with
  | .timestamp sec, .number usec => some (sec, usec)
  | _, _ => none

/-- Rows that meet the declaration of `Requiem_CreateTime`: its primary key, and `NOT NULL`. -/
structure Contents where
  rows : List Row
  key : ∀ first ∈ rows, ∀ second ∈ rows, first.table = .createTime → second.table = .createTime →
    first.parentType = second.parentType → first.messageIdent = second.messageIdent →
    first = second
  notNull : ∀ row ∈ rows, row.table = .createTime → row.secondsAndUsec.isSome

namespace Contents

variable (contents : Contents)

/-- The row with the creation time of a message. -/
def createTimeRow (messageType : MessageTable) (ident : Nat) : Option Row :=
  contents.rows.find? fun row => row.table = .createTime ∧
    row.parentType = some (messageLetter messageType) ∧ row.messageIdent = ident

def createTime (messageType : MessageTable) (ident : Nat) : Option (UInt32 × Int) :=
  (contents.createTimeRow messageType ident).bind Row.secondsAndUsec

end Contents

/-- The first time comes no later than the second one in a direction. -/
def Direction.NotAfter : Direction → UInt32 × Int → UInt32 × Int → Prop
  | .asc, first, second => first.1 < second.1 ∨ first.1 = second.1 ∧ first.2 ≤ second.2
  | .desc, first, second => second.1 < first.1 ∨ second.1 = first.1 ∧ second.2 ≤ first.2

/-- The same in whole seconds. -/
def Direction.NotAfterSeconds : Direction → UInt32 × Int → UInt32 × Int → Prop
  | .asc, first, second => first.1 ≤ second.1
  | .desc, first, second => second.1 ≤ first.1

/-- The creation times of the idents, in their order, stand in a relation. -/
def TimesInOrder (contents : Contents) (messageType : MessageTable)
    (relation : UInt32 × Int → UInt32 × Int → Prop) (idents : List Nat) : Prop :=
  idents.Pairwise fun earlier later =>
    ∀ first ∈ contents.createTime messageType earlier,
    ∀ second ∈ contents.createTime messageType later, relation first second

/-- The query finds the message. -/
def ListingServer.Finds (server : ListingServer) (contents : Contents) (query : SqlQuery)
    (ident : Nat) : Prop :=
  ∃ joined, query.join.Yields contents.rows joined ∧ server.Selects query.condition joined ∧
    joined.top.messageIdent = ident

/-- Found messages that were created in the same second have the same microseconds. -/
def ListingServer.TiesAgree (server : ListingServer) (contents : Contents)
    (messageType : MessageTable) (query : SqlQuery) : Prop :=
  ∀ ident other, server.Finds contents query ident → server.Finds contents query other →
    ∀ first ∈ contents.createTime messageType ident,
    ∀ second ∈ contents.createTime messageType other, first.1 = second.1 → first.2 = second.2

section Query

/-- The table of the creation times, joined before any other. -/
def createTimeTable (messageType : MessageTable) : JoinedTable where
  path := createTimePath messageType
  tableName := "Requiem_CreateTime"
  number := 0
  parentType := some (messageLetter messageType)
  indexConstraints := []

/-- The columns of a listing, ordered by the second one. -/
def orderedSelect (order : Direction) : SqlSelect where
  fields := [.distinctIdent, .field (.column "t0" "time"), .field (.column "t0" "gmtoff"),
    .field (.column "t0" "usec")]
  fieldCount := 2
  groupBy := []
  orderBy := [(2, order)]

theorem getMessageIdentsSetOrder_eq (messageType : MessageTable) (order : Direction) :
    getMessageIdentsSetOrder messageType (some order) (Join.new.setTopClass messageType)
        identSelect =
      .ok (⟨some messageType, [createTimeTable messageType], 1⟩, orderedSelect order) := by
  cases messageType <;> cases order <;> rfl

variable {Criterion : Type} {buildCriterionString : Criterion →
  Except ErrorCode (List FieldName → String)}

theorem classicPathResolve_tables {path : IdmefPath} {context : FieldContext}
    {join joined : Join} {fieldName : List FieldName}
    (resolved : classicPathResolve path context join = .ok (fieldName, joined)) :
    join.tables <+: joined.tables := by
  rw [classicPathResolve] at resolved
  split at resolved
  · cases resolved
    exact List.prefix_rfl
  · rcases ok_of_bind resolved with ⟨⟨table, joinedTo⟩, isTable, isJoined⟩
    cases isJoined
    rw [joinedTable] at isTable
    split at isTable
    · cases isTable
      exact List.prefix_rfl
    · rw [classicSqlJoinNewTable] at isTable
      split at isTable
      · cases isTable
      · cases isTable
        exact List.prefix_append _ _

mutual

theorem classicPathResolveCriteria_tables : ∀ (criteria : Criteria Criterion) {join : Join}
    {result : String × Join},
    classicPathResolveCriteria buildCriterionString criteria join = .ok result →
    join.tables <+: result.2.tables
  | .node path criterion conjunct alternative, join, result, resolved => by
      rw [classicPathResolveCriteria] at resolved
      rcases ok_of_bind resolved with ⟨own, isOwn, resolved⟩
      rcases ok_of_bind resolved with ⟨both, isBoth, resolved⟩
      rcases ok_of_bind resolved with ⟨either, isEither, resolved⟩
      cases resolved
      rw [classicPathResolveCriterion] at isOwn
      rcases ok_of_bind isOwn with ⟨⟨fieldName, joined⟩, isJoined, isOwn⟩
      rcases ok_of_bind isOwn with ⟨text, _, isOwn⟩
      cases isOwn
      have first := classicPathResolve_tables isJoined
      have second := resolveOptionalCriteria_tables conjunct isBoth
      have third := resolveOptionalCriteria_tables alternative isEither
      exact (first.trans second).trans third

theorem resolveOptionalCriteria_tables {opening closing : String} :
    ∀ (criteria : Option (Criteria Criterion)) {join : Join} {result : String × Join},
    resolveOptionalCriteria buildCriterionString opening closing criteria join = .ok result →
    join.tables <+: result.2.tables
  | none, join, result, resolved => by
      cases resolved
      exact List.prefix_rfl
  | some criteria, join, result, resolved => by
      rw [resolveOptionalCriteria] at resolved
      rcases ok_of_bind resolved with ⟨inner, isInner, resolved⟩
      have kept := classicPathResolveCriteria_tables criteria isInner
      cases resolved
      exact kept

end

/-- The query of a listing: the creation times first, and the columns ordered by their second. -/
theorem getMessageIdents_shape {text : SqlText Criterion} {messageType : MessageTable}
    {criteria : Option (Criteria Criterion)} {limit offset : Int} {order : Direction}
    {query : SqlQuery}
    (built : getMessageIdents text messageType criteria limit offset (some order) = .ok query) :
    query.select = orderedSelect order ∧
      ∃ others, query.join.tables = createTimeTable messageType :: others := by
  rw [getMessageIdents] at built
  rcases ok_of_bind built with ⟨⟨join, select⟩, isOrdered, finished⟩
  rw [getMessageIdentsSetOrder_eq] at isOrdered
  cases isOrdered
  dsimp only at finished
  rw [finishQuery] at finished
  rcases ok_of_bind finished with ⟨⟨condition, joined⟩, isCondition, finished⟩
  rcases ok_of_bind finished with ⟨limitOffset, _, finished⟩
  cases finished
  refine ⟨rfl, ?_⟩
  have kept : [createTimeTable messageType] <+: joined.tables := by
    cases criteria with
    | none =>
        cases isCondition
        exact List.prefix_rfl
    | some criteria =>
        rcases ok_of_bind isCondition with ⟨inner, isInner, resolved⟩
        have behind := classicPathResolveCriteria_tables criteria isInner
        cases resolved
        exact behind
  rcases kept with ⟨others, isTables⟩
  exact ⟨others, isTables.symm⟩

end Query

section Tuples

variable {server : ListingServer} {contents : Contents} {messageType : MessageTable}
  {query : SqlQuery} {order : Direction}

theorem joins_createTimeTable_iff {ident : Nat} {row : Row} :
    (createTimeTable messageType).Joins ident row ↔ row.table = .createTime ∧
      row.parentType = some (messageLetter messageType) ∧ row.messageIdent = ident := by
  have named : row.table.sqlName = "Requiem_CreateTime" ↔ row.table = .createTime := by
    cases row.table <;> decide
  simp [JoinedTable.Joins, createTimeTable, named]

/-- A message is joined with its row with the creation time, or with NULLs. -/
theorem leftJoins_createTimeTable_iff {ident : Nat} {row : Option Row} :
    (createTimeTable messageType).LeftJoins contents.rows ident row ↔
      row = contents.createTimeRow messageType ident := by
  have found_iff : ∀ other, contents.createTimeRow messageType ident = some other →
      other ∈ contents.rows ∧ (createTimeTable messageType).Joins ident other := by
    intro other found
    rw [Contents.createTimeRow] at found
    refine ⟨List.mem_of_find?_eq_some found, joins_createTimeTable_iff.mpr ?_⟩
    simpa using List.find?_some found
  have none_iff : contents.createTimeRow messageType ident = none ↔
      ∀ row ∈ contents.rows, ¬ (createTimeTable messageType).Joins ident row := by
    rw [Contents.createTimeRow, List.find?_eq_none]
    refine forall₂_congr fun row _ => ?_
    rw [joins_createTimeTable_iff, decide_eq_true_iff]
  cases row with
  | none => exact none_iff.symm.trans eq_comm
  | some row =>
      constructor
      · rintro ⟨present, isJoined⟩
        have isTime := joins_createTimeTable_iff.mp isJoined
        cases found : contents.createTimeRow messageType ident with
        | none => exact absurd isJoined (none_iff.mp found row present)
        | some other =>
            rcases found_iff other found with ⟨otherPresent, otherJoined⟩
            have otherTime := joins_createTimeTable_iff.mp otherJoined
            refine congrArg some (contents.key row present other otherPresent isTime.1
              otherTime.1 ?_ ?_)
            · rw [isTime.2.1, otherTime.2.1]
            · rw [isTime.2.2, otherTime.2.2]
      · intro found
        exact found_iff row found.symm

/-- The cell of a column of the creation time, NULL without one. -/
def Contents.timeCell (contents : Contents) (messageType : MessageTable) (ident : Nat)
    (column : Column) : Cell :=
  ((contents.createTimeRow messageType ident).map fun row => row.cell column).getD .null

/-- The tuple of a message. -/
def Contents.tuple (contents : Contents) (messageType : MessageTable) (ident : Nat) :
    List (Option Cell) :=
  [some (.number ident), some (contents.timeCell messageType ident .time),
    some (contents.timeCell messageType ident .gmtoff),
    some (contents.timeCell messageType ident .usec)]

theorem identOf_tuple (ident : Nat) :
    identOf (contents.tuple messageType ident) = some ident := rfl

theorem tuple_injective {ident other : Nat}
    (same : contents.tuple messageType ident = contents.tuple messageType other) :
    ident = other :=
  Option.some.inj (congrArg identOf same)

theorem value_orderedSelect {join : Join} {joined : JoinedRow}
    (first : ∃ others, join.tables = createTimeTable messageType :: others)
    (yields : join.Yields contents.rows joined) :
    (orderedSelect order).fields.map (server.value joined) =
      contents.tuple messageType joined.top.messageIdent := by
  rcases first with ⟨others, isTables⟩
  have tables := yields.tables
  rw [isTables] at tables
  rcases List.map_eq_cons_iff.mp tables with ⟨entry, rest, isEntries, isEntry, _⟩
  have joins := yields.each entry (isEntries ▸ List.mem_cons_self)
  rw [isEntry] at joins
  have row : joined.row "t0" = contents.createTimeRow messageType joined.top.messageIdent := by
    have named : entry.1.getName = "t0" := by
      rw [isEntry]
      cases messageType <;> decide
    rw [JoinedRow.row, if_neg (by decide), isEntries]
    simp only [List.find?_cons, named, decide_true, Option.bind_some]
    exact leftJoins_createTimeTable_iff.mp joins
  simp [orderedSelect, ListingServer.value, ListingServer.fieldValue, server.time, server.gmtoff,
    server.usec, row, Contents.tuple, Contents.timeCell]

/-- The rows of a listing are the tuples of the found messages. -/
theorem row_iff (select : query.select = orderedSelect order)
    (first : ∃ others, query.join.tables = createTimeTable messageType :: others)
    (tuple : List (Option Cell)) :
    server.Row contents.rows query tuple ↔
      ∃ ident, server.Finds contents query ident ∧ tuple = contents.tuple messageType ident := by
  rw [ListingServer.Row, select]
  constructor
  · rintro ⟨joined, yields, selects, rfl⟩
    exact ⟨_, ⟨joined, yields, selects, rfl⟩, value_orderedSelect first yields⟩
  · rintro ⟨_, ⟨joined, yields, selects, rfl⟩, rfl⟩
    exact ⟨joined, yields, selects, (value_orderedSelect first yields).symm⟩

theorem timeCell_of_createTime {ident : Nat} {time : UInt32 × Int}
    (isTime : time ∈ contents.createTime messageType ident) :
    contents.timeCell messageType ident .time = .timestamp time.1 := by
  rcases Option.bind_eq_some_iff.mp isTime with ⟨row, isRow, seconds⟩
  rw [Contents.timeCell, isRow]
  simp only [Row.secondsAndUsec] at seconds
  split at seconds
  · next sec usec isSec _ =>
      obtain rfl := Option.some.inj seconds
      exact isSec
  · exact absurd seconds nofun

/-- What the order says of two messages: their seconds alone are compared. -/
theorem precedes_tuple_iff {ident other : Nat} {first second : UInt32 × Int}
    (isFirst : first ∈ contents.createTime messageType ident)
    (isSecond : second ∈ contents.createTime messageType other) :
    server.Precedes (orderedSelect order).orderBy (contents.tuple messageType ident)
        (contents.tuple messageType other) ↔ order.NotAfterSeconds first second := by
  have firstCell := timeCell_of_createTime isFirst
  have secondCell := timeCell_of_createTime isSecond
  cases order <;>
    simp [orderedSelect, ListingServer.Precedes, Contents.tuple, firstCell, secondCell,
      server.before_timestamp, Direction.NotAfterSeconds]

theorem Direction.notAfterSeconds_of_eq {first second : UInt32 × Int}
    (same : first.1 = second.1) : order.NotAfterSeconds first second := by
  cases order <;> rw [Direction.NotAfterSeconds, same] <;> exact UInt32.le_refl _

theorem Direction.usec_eq_of_notAfter {first second : UInt32 × Int} (same : first.1 = second.1)
    (notAfter : order.NotAfter first second) (notBefore : order.NotAfter second first) :
    first.2 = second.2 := by
  have notLess : ¬ first.1 < second.1 := fun less => absurd (same ▸ less) (UInt32.lt_irrefl _)
  have notMore : ¬ second.1 < first.1 := fun more => absurd (same ▸ more) (UInt32.lt_irrefl _)
  cases order with
  | asc =>
      exact Int.le_antisymm (notAfter.resolve_left notLess).2 (notBefore.resolve_left notMore).2
  | desc =>
      exact Int.le_antisymm (notBefore.resolve_left notLess).2 (notAfter.resolve_left notMore).2

/-- With the same microseconds in every second the seconds decide. -/
theorem Direction.notAfter_of_seconds {first second : UInt32 × Int}
    (notAfter : order.NotAfterSeconds first second)
    (agree : first.1 = second.1 → first.2 = second.2) : order.NotAfter first second := by
  cases order with
  | asc =>
      rcases UInt32.lt_or_eq_of_le notAfter with before | same
      · exact .inl before
      · exact .inr ⟨same, (agree same).le⟩
  | desc =>
      rcases UInt32.lt_or_eq_of_le notAfter with before | same
      · exact .inl before
      · exact .inr ⟨same, (agree same.symm).ge⟩

end Tuples

section Listings

variable {server : ListingServer} {contents : Contents} {messageType : MessageTable}
  {query : SqlQuery} {order : Direction}

/-- The idents that are read from an answer. -/
def identsOf (answer : List (List (Option Cell))) : List Nat := answer.filterMap identOf

theorem answer_eq {answer : List (List (Option Cell))}
    (select : query.select = orderedSelect order)
    (first : ∃ others, query.join.tables = createTimeTable messageType :: others)
    (answers : server.Answers contents.rows query answer) :
    answer = (identsOf answer).map (contents.tuple messageType) ∧
      ∀ ident, ident ∈ identsOf answer ↔ server.Finds contents query ident := by
  have tuples : ∀ tuple ∈ answer, ∃ ident, server.Finds contents query ident ∧
      tuple = contents.tuple messageType ident := fun tuple inside =>
    (row_iff select first tuple).mp ((answers.listing.mem_iff tuple).mp inside)
  have same : answer = (identsOf answer).map (contents.tuple messageType) := by
    clear answers
    rw [identsOf]
    induction answer with
    | nil => rfl
    | cons tuple answer ih =>
        rw [List.forall_mem_cons] at tuples
        rcases tuples with ⟨⟨ident, _, rfl⟩, later⟩
        rw [List.filterMap_cons_some (identOf_tuple ident), List.map_cons, ← ih later]
  refine ⟨same, fun ident => ?_⟩
  have inAnswer : ident ∈ identsOf answer ↔ contents.tuple messageType ident ∈ answer := by
    conv_rhs => rw [same]
    constructor
    · exact List.mem_map_of_mem
    · intro inside
      rcases List.mem_map.mp inside with ⟨other, isIdent, equal⟩
      rw [← tuple_injective equal]
      exact isIdent
  rw [inAnswer, answers.listing.mem_iff, row_iff select first]
  constructor
  · rintro ⟨other, found, equal⟩
    rw [tuple_injective equal]
    exact found
  · intro found
    exact ⟨ident, found, rfl⟩

/-- No ident is listed twice, and the seconds are in order. -/
theorem idents_of_answers {answer : List (List (Option Cell))}
    (select : query.select = orderedSelect order)
    (first : ∃ others, query.join.tables = createTimeTable messageType :: others)
    (answers : server.Answers contents.rows query answer) :
    (identsOf answer).Nodup ∧
      TimesInOrder contents messageType order.NotAfterSeconds (identsOf answer) := by
  have same := (answer_eq select first answers).1
  have nodup := answers.listing.nodup
  have sorted := answers.listing.sorted
  rw [same] at nodup sorted
  refine ⟨nodup.of_map, ?_⟩
  rw [List.pairwise_map, select] at sorted
  refine sorted.imp ?_
  intro ident other precedes time isTime otherTime isOtherTime
  exact (precedes_tuple_iff isTime isOtherTime).mp precedes

theorem precedes_total (first second : List (Option Cell)) :
    server.Precedes (orderedSelect order).orderBy first second ∨
      server.Precedes (orderedSelect order).orderBy second first := by
  have total := server.total (first[1]?.join) (second[1]?.join)
  cases order with
  | asc => exact total.imp (⟨·, fun _ => trivial⟩) (⟨·, fun _ => trivial⟩)
  | desc => exact total.symm.imp (⟨·, fun _ => trivial⟩) (⟨·, fun _ => trivial⟩)

theorem precedes_trans (first second third : List (Option Cell))
    (earlier : server.Precedes (orderedSelect order).orderBy first second)
    (later : server.Precedes (orderedSelect order).orderBy second third) :
    server.Precedes (orderedSelect order).orderBy first third := by
  cases order with
  | asc => exact ⟨server.trans _ _ _ earlier.1 later.1, fun _ => trivial⟩
  | desc => exact ⟨server.trans _ _ _ later.1 earlier.1, fun _ => trivial⟩

/-- The server may list a message in front of those of the same second. -/
theorem exists_answer (select : query.select = orderedSelect order)
    (first : ∃ others, query.join.tables = createTimeTable messageType :: others)
    (unlimited : query.limitOffset = "") (front : Nat) :
    ∃ answer, server.Answers contents.rows query answer ∧
      (identsOf answer).Pairwise fun earlier later =>
        server.Precedes (orderedSelect order).orderBy (contents.tuple messageType later)
          (contents.tuple messageType earlier) → earlier = front ∨ later ≠ front := by
  have finite : ∀ tuple, server.Row contents.rows query tuple →
      tuple ∈ contents.rows.map fun row => contents.tuple messageType row.messageIdent := by
    intro tuple isRow
    rcases (row_iff select first tuple).mp isRow with ⟨ident, ⟨joined, yields, _, rfl⟩, rfl⟩
    exact List.mem_map.mpr ⟨joined.top, yields.top.1, rfl⟩
  rcases Listing.exists_first precedes_total precedes_trans finite
    (contents.tuple messageType front) with ⟨answer, listing, inFront⟩
  have answers : server.Answers contents.rows query answer := by
    refine ⟨?_, ?_, unlimited, ?_⟩
    · rw [select]
      exact List.mem_cons_self
    · rw [select]
      rfl
    · rw [select]
      exact listing
  refine ⟨answer, answers, ?_⟩
  rw [(answer_eq select first answers).1, List.pairwise_map] at inFront
  refine inFront.imp ?_
  intro earlier later isFront tie
  exact (isFront tie).imp tuple_injective fun differ same => differ (congrArg _ same)

theorem exists_behind {ident other : Nat} {time otherTime : UInt32 × Int}
    (select : query.select = orderedSelect order)
    (first : ∃ others, query.join.tables = createTimeTable messageType :: others)
    (unlimited : query.limitOffset = "") (found : server.Finds contents query ident)
    (otherFound : server.Finds contents query other)
    (isTime : time ∈ contents.createTime messageType ident)
    (isOtherTime : otherTime ∈ contents.createTime messageType other)
    (sameSecond : time.1 = otherTime.1) (after : ¬ order.NotAfter time otherTime) :
    ∃ answer, server.Answers contents.rows query answer ∧
      ¬ TimesInOrder contents messageType order.NotAfter (identsOf answer) := by
  rcases exists_answer select first unlimited ident with ⟨answer, answers, inFront⟩
  refine ⟨answer, answers, fun inOrder => ?_⟩
  have listed := (answer_eq select first answers).2
  have differ : ident ≠ other := by
    rintro rfl
    rw [Option.mem_unique isTime isOtherTime] at after
    exact after (Direction.notAfter_of_seconds (Direction.notAfterSeconds_of_eq rfl) fun _ => rfl)
  rcases related_of_pairwise (inFront.and inOrder) ((listed ident).mpr found)
    ((listed other).mpr otherFound) differ with ⟨_, right⟩ | ⟨behind, _⟩
  · exact after (right time isTime otherTime isOtherTime)
  · have tie : server.Precedes (orderedSelect order).orderBy (contents.tuple messageType ident)
        (contents.tuple messageType other) := by
      rw [precedes_tuple_iff isTime isOtherTime]
      exact Direction.notAfterSeconds_of_eq sameSecond
    exact (behind tie).elim (fun same => differ same.symm) fun notFront => notFront rfl

/-- Two messages of one second with different microseconds may be listed the wrong way round. -/
theorem exists_disorder (select : query.select = orderedSelect order)
    (first : ∃ others, query.join.tables = createTimeTable messageType :: others)
    (unlimited : query.limitOffset = "")
    (disagree : ¬ server.TiesAgree contents messageType query) :
    ∃ answer, server.Answers contents.rows query answer ∧
      ¬ TimesInOrder contents messageType order.NotAfter (identsOf answer) := by
  simp only [ListingServer.TiesAgree, not_forall] at disagree
  rcases disagree with ⟨ident, other, found, otherFound, time, isTime, otherTime, isOtherTime,
    sameSecond, differ⟩
  by_cases after : order.NotAfter time otherTime
  · have otherAfter : ¬ order.NotAfter otherTime time := fun notBefore =>
      differ (Direction.usec_eq_of_notAfter sameSecond after notBefore)
    exact exists_behind select first unlimited otherFound found isOtherTime isTime
      sameSecond.symm otherAfter
  · exact exists_behind select first unlimited found otherFound isTime isOtherTime sameSecond
      after

/--
In every answer no ident occurs twice and the seconds of the creation times are in order. The
microseconds are in order in every answer exactly if the messages found in one second have
the same.
-/
theorem listing_iff {Criterion : Type} (text : SqlText Criterion) (server : ListingServer)
    (contents : Contents) (messageType : MessageTable) (criteria : Option (Criteria Criterion))
    (limit offset : Int) (order : Direction) {query : SqlQuery}
    (built : getMessageIdents text messageType criteria limit offset (some order) = .ok query)
    (unlimited : query.limitOffset = "") :
    (∀ answer, server.Answers contents.rows query answer → (identsOf answer).Nodup ∧
      TimesInOrder contents messageType order.NotAfterSeconds (identsOf answer)) ∧
    ((∀ answer, server.Answers contents.rows query answer → (identsOf answer).Nodup ∧
      TimesInOrder contents messageType order.NotAfter (identsOf answer)) ↔
        server.TiesAgree contents messageType query) := by
  rcases getMessageIdents_shape built with ⟨select, first⟩
  refine ⟨fun answer => idents_of_answers select first, ?_⟩
  constructor
  · intro inOrder
    by_contra disagree
    rcases exists_disorder select first unlimited disagree with ⟨answer, answers, disorder⟩
    exact disorder (inOrder answer answers).2
  · intro agree answer answers
    rcases idents_of_answers select first answers with ⟨nodup, seconds⟩
    have found := (answer_eq select first answers).2
    refine ⟨nodup, seconds.imp_of_mem ?_⟩
    intro ident other isListed otherListed notAfter time isTime otherTime isOtherTime
    exact Direction.notAfter_of_seconds (notAfter time isTime otherTime isOtherTime)
      (agree ident other ((found ident).mp isListed) ((found other).mp otherListed) time isTime
        otherTime isOtherTime)

def sortKey : Option Cell → Nat
  | some (.timestamp sec) => sec.toNat + 1
  | _ => 0

/-- A server that sorts timestamps by their seconds, and everything else in front of them. -/
def plainServer : ListingServer where
  column name := [("time", Column.time), ("gmtoff", .gmtoff), ("usec", .usec)].lookup name
  time := rfl
  gmtoff := rfl
  usec := rfl
  selects _ _ := true
  before first second := sortKey first ≤ sortKey second
  total _ _ := Nat.le_total _ _
  trans _ _ _ := Nat.le_trans
  before_timestamp _ _ := Nat.succ_le_succ_iff.trans UInt32.le_iff_toNat_le.symm

def creationTime (ident : Nat) (usec : Int) : Row where
  table := .createTime
  parentType := some .A
  messageIdent := ident
  parents := []
  index := none
  cells := [(.time, .timestamp 0), (.gmtoff, .number 0), (.usec, .number usec)]

/-- Two alerts of one second, the second one created first. -/
def twoAlerts : Contents where
  rows := [messageRow ⟨.alert, 1⟩ [], messageRow ⟨.alert, 2⟩ [], creationTime 1 5, creationTime 2 3]
  key := by decide
  notNull := by decide

theorem listing_iff_twoAlerts :
    ∃ query, getMessageIdents emptyText .alert none (-1) (-1) (some .asc) = .ok query ∧
      ((∀ answer, plainServer.Answers twoAlerts.rows query answer → (identsOf answer).Nodup ∧
        TimesInOrder twoAlerts .alert Direction.asc.NotAfter (identsOf answer)) ↔
          plainServer.TiesAgree twoAlerts .alert query) :=
  ⟨_, rfl, (listing_iff emptyText plainServer twoAlerts .alert none (-1) (-1) .asc rfl rfl).2⟩

/-- The second alert may be listed behind the first one. -/
theorem twoAlerts_disorder :
    ¬ ∀ query, getMessageIdents emptyText .alert none (-1) (-1) (some .asc) = .ok query →
      ∀ answer, plainServer.Answers twoAlerts.rows query answer → (identsOf answer).Nodup ∧
        TimesInOrder twoAlerts .alert Direction.asc.NotAfter (identsOf answer) := by
  intro always
  have inOrder := always _ rfl
  have finds : ∀ ident ∈ [1, 2], plainServer.Finds twoAlerts
      ⟨false, orderedSelect .asc, ⟨some .alert, [createTimeTable .alert], 1⟩, none, ""⟩ ident := by
    intro ident isAlert
    refine ⟨⟨messageRow ⟨.alert, ident⟩ [],
      [(createTimeTable .alert, twoAlerts.createTimeRow .alert ident)]⟩, ⟨?_, rfl, ?_⟩, nofun, rfl⟩
    · revert ident
      decide
    · rw [List.forall_mem_singleton]
      exact leftJoins_createTimeTable_iff.mpr rfl
  have disagree : ¬ plainServer.TiesAgree twoAlerts .alert
      ⟨false, orderedSelect .asc, ⟨some .alert, [createTimeTable .alert], 1⟩, none, ""⟩ := by
    intro agree
    have same := agree 1 2 (finds 1 (by decide)) (finds 2 (by decide)) (0, 5) rfl (0, 3) rfl rfl
    exact absurd same (by decide)
  rcases exists_disorder rfl ⟨[], rfl⟩ rfl disagree with ⟨answer, answers, disorder⟩
  exact disorder (inOrder answer answers).2

end Listings

end RequiemDB
