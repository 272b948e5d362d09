import RequiemDB.Classic.Archive
import RequiemDB.Lib.OuterJoin
import RequiemDB.Query.Listing
import RequiemDB.Query.Permissions
import RequiemDB.Query.Server

/-!
# What a query asks of a message

A path of a query stands for some elements of a message, and a query speaks of one of them,
or of none where the message has none. A `Choice` takes an element for each path; paths that
are answered from one table take the same. Criteria hold of a message when they hold of some
choice, criterion by criterion in the logic of SQL.
-/

namespace RequiemDB

open Lib

section Elements

variable {E : EnumKind → Type} [Librequiem E]

/-- The rows with the times of a message, by the names of the times. -/
def timeRows (ident : Nat) : Message E → List (String × Row)
  | .alert message =>
      ("create_time", messageTimeRow ident .createTime (some .A) message.createTime) ::
        (message.detectTime.toList.map fun time =>
          ("detect_time", messageTimeRow ident .detectTime none (some time))) ++
        message.analyzerTime.toList.map fun time =>
          ("analyzer_time", messageTimeRow ident .analyzerTime (some .A) (some time))
  | .heartbeat message =>
      ("create_time", messageTimeRow ident .createTime (some .H) message.createTime) ::
        message.analyzerTime.toList.map fun time =>
          ("analyzer_time", messageTimeRow ident .analyzerTime (some .H) (some time))

/-- The row that is written for the message itself. -/
def ownRow (ident : Nat) (message : Message E) : Row :=
  messageRow ⟨message.table, ident⟩ message.cells

/-- The row holds an attribute of the message that the path stands for. -/
def IdmefPath.StandsFor (path : IdmefPath) (ident : Nat) (message : Message E) (row : Row) :
    Prop :=
  path.top = message.table ∧
    if path.Plain then row = ownRow ident message
    else if path.getDepth = 2 then (path.leafName, row) ∈ timeRows ident message
    else ∃ place, (place, row) ∈ placedRows ident message ∧ path.Addresses message.table place

/--
A row for each path, nothing where the message has no element that the path stands for. A path
takes that of the first path whose table it shares.
-/
structure Choice (paths : List IdmefPath) (ident : Nat) (message : Message E)
    (pick : IdmefPath → Option Row) : Prop where
  each : ∀ path ∈ paths, Picked (path.StandsFor ident message) (pick path)
  shared : ∀ path ∈ paths, ¬ path.Plain → ∀ first ∈ firstUser paths path, pick path = pick first

end Elements

/-- A path to a value that the format stores, without an index of -1. -/
structure IdmefPath.Searched (path : IdmefPath) : Prop where
  value : path.leafType ≠ .class_
  unlinked : path.elements.IsChain fun first second => ¬ LinkedFile first second
  fromStart : ∀ element ∈ path.elements, element.index ≠ .number (-1)

/-- The columns of a path in a context, in the table of an alias. -/
def IdmefPath.fields (path : IdmefPath) (context : FieldContext) (tableName : String) :
    List FieldName :=
  if path.Plain then defaultFieldNameResolver path context tableName
  else (searchPath path).resolveFieldName path context tableName

/-- The field that a comparison is about. -/
def Comparison.field : Comparison → String
  | .fixed field _ _ | .lower field _ _ | .null field _ | .time _ _ field _ _ _ _ => field

/-- The same comparison of another field. -/
def Comparison.onField (field : String) : Comparison → Comparison
  | .fixed _ operator value => .fixed field operator value
  | .lower _ operator value => .lower field operator value
  | .null _ operator => .null field operator
  | .time function shift _ hours operator quoted value =>
      .time function shift field hours operator quoted value

@[simp]
theorem Comparison.field_onField (field : String) (comparison : Comparison) :
    (comparison.onField field).field = field := by
  cases comparison <;> rfl

/-- The column in front of the dot, and behind it. -/
def FieldName.read (text : String) : FieldName :=
  .column (String.ofList (text.toList.takeWhile (· ≠ '.')))
    (String.ofList ((text.toList.dropWhile (· ≠ '.')).drop 1))

section Truth

variable {Criterion : Type} (own : IdmefPath → Criterion → Truth)

mutual

/-- What criteria say, given what each criterion says of its path. -/
def Criteria.truth : Criteria Criterion → Truth
  | .node path criterion conjunct alternative =>
      optionalTruth Truth.or (optionalTruth Truth.and (own path criterion) conjunct) alternative

def optionalTruth (connect : Truth → Truth → Truth) (left : Truth) :
    Option (Criteria Criterion) → Truth
  | none => left
  | some criteria => connect left criteria.truth

end

end Truth

/-- What a criterion says of a cell, by its own text, whatever its field is called. -/
def Criterion.truth (dialect : SqlDialect) (server : SqlServer dialect.backend)
    (cell : Option server.Value) (criterion : Criterion) : Truth :=
  match buildCriterionString dialect criterion with
  | .error _ => .unknown
  | .ok text => (ownValue (server.truth cell) (text "")).getD .unknown

/--
A server for a backend: how it lists rows, how it compares values, and which value a stored
cell has, none for NULL.
-/
structure SearchServer (backend : Backend) where
  listing : ListingServer
  values : SqlServer backend
  content : Cell → Option values.Value

namespace SearchServer

section Backend

variable {backend : Backend} (server : SearchServer backend)

/-- The cell of a column in a row, NULL where there is no row. -/
def cell (row : Option Row) (column : String) : Cell :=
  ((server.listing.column column).bind fun column => row.map fun row => row.cell column).getD .null

/-- The cell of a field in a row of the join. -/
def fieldCell (joined : JoinedRow) (field : String) : Cell :=
  server.listing.fieldValue joined (FieldName.read field)

/-- The server reads the characters of a condition as its tokens, and selects where it holds. -/
def Reads (tokens : ConditionText) : Prop :=
  ∀ joined, server.listing.selects (conditionText tokens) joined = true ↔
    ownValue (fun comparison =>
      server.values.truth (server.content (server.fieldCell joined comparison.field)) comparison)
      tokens = some .holds

/-- What a column of a query is in the row that its path takes; the literal `0` is itself. -/
def fieldOf (row : Option Row) : FieldName → Cell
  | .zero => .number 0
  | .column _ name => server.cell row name

/-- What a path has in the row that it takes. -/
def cells (context : FieldContext) (pick : IdmefPath → Option Row) (path : IdmefPath) :
    List Cell :=
  (path.fields context "").map (server.fieldOf (pick path))

end Backend

variable {dialect : SqlDialect} (server : SearchServer dialect.backend)

/-- A criterion is about the first column of its path. -/
def judges (pick : IdmefPath → Option Row) (path : IdmefPath) (criterion : Criterion) : Truth :=
  criterion.truth dialect server.values
    (server.content ((server.cells .where_ pick path).headD .null))

/-- The criteria hold of what the paths take; without criteria there is nothing to hold. -/
def Satisfies (pick : IdmefPath → Option Row) (criteria : Option (Criteria Criterion)) : Prop :=
  ∀ tree ∈ criteria, tree.truth (server.judges pick) = .holds

end SearchServer

end RequiemDB
