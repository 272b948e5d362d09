import RequiemDB.Idmef.Path
import RequiemDB.Sql.Operation

/-!
# The joined tables of a query

`classic-sql-join.c`: a query selects from the table of its messages, `top_table`,
and joins one table for each class its paths go through. A path whose table is
there already uses it; otherwise a table is added under a new alias, with the
parent letter and the index constraints of the path.
-/

namespace RequiemDB

/-- The name of a table in the schema. -/
def Table.sqlName : Table → String
  | .alert => "Requiem_Alert"
  | .heartbeat => "Requiem_Heartbeat"
  | .alertident => "Requiem_Alertident"
  | .toolAlert => "Requiem_ToolAlert"
  | .correlationAlert => "Requiem_CorrelationAlert"
  | .overflowAlert => "Requiem_OverflowAlert"
  | .analyzer => "Requiem_Analyzer"
  | .classification => "Requiem_Classification"
  | .reference => "Requiem_Reference"
  | .source => "Requiem_Source"
  | .target => "Requiem_Target"
  | .file => "Requiem_File"
  | .fileAccess => "Requiem_FileAccess"
  | .fileAccessPermission => "Requiem_FileAccess_Permission"
  | .linkage => "Requiem_Linkage"
  | .inode => "Requiem_Inode"
  | .checksum => "Requiem_Checksum"
  | .impact => "Requiem_Impact"
  | .action => "Requiem_Action"
  | .confidence => "Requiem_Confidence"
  | .assessment => "Requiem_Assessment"
  | .additionalData => "Requiem_AdditionalData"
  | .createTime => "Requiem_CreateTime"
  | .detectTime => "Requiem_DetectTime"
  | .analyzerTime => "Requiem_AnalyzerTime"
  | .node => "Requiem_Node"
  | .address => "Requiem_Address"
  | .user => "Requiem_User"
  | .userId => "Requiem_UserId"
  | .process => "Requiem_Process"
  | .processArg => "Requiem_ProcessArg"
  | .processEnv => "Requiem_ProcessEnv"
  | .service => "Requiem_Service"
  | .webService => "Requiem_WebService"
  | .webServiceArg => "Requiem_WebServiceArg"
  | .snmpService => "Requiem_SnmpService"

/-- `REQUIEMDB_ERROR_QUERY`, or the `-1` of conflicting top tables. -/
def queryError : ErrorCode := ⟨-1, minusOne_negative⟩

/-- `%s._index = index` or `%s._parentN_index = index`, with `!= -1` for an undefined index. -/
structure IndexConstraint where
  parentLevel : Option Nat
  different : Bool
  index : Int
deriving DecidableEq

/-- `classic_sql_joined_table_t`; the alias is `t` and the number. -/
structure JoinedTable where
  path : IdmefPath
  tableName : String
  number : Nat
  parentType : Option ParentType
  indexConstraints : List IndexConstraint
deriving DecidableEq

/-- `classic_sql_join_t`. -/
structure Join where
  topClass : Option MessageTable
  tables : List JoinedTable
  nextId : Nat
deriving DecidableEq

def Join.new : Join where
  topClass := none
  tables := []
  nextId := 0

def Join.setTopClass (join : Join) (topClass : MessageTable) : Join :=
  { join with topClass := some topClass }

/-- `aliased_table_name`. -/
def JoinedTable.getName (table : JoinedTable) : String := "t" ++ table.number.repr

/-- Whether the path is compared as a whole with the paths of the joined tables. -/
def IdmefPath.ComparedWhole (path : IdmefPath) : Prop :=
  path.getIndex (path.getDepth - 1) ≠ .forbidden ∨
    (path.leafType = .time ∧ path.parentClass ≠ some .file)

instance (path : IdmefPath) : Decidable path.ComparedWhole := inferInstanceAs (Decidable (_ ∨ _))

/-- The comparison of `classic_sql_join_lookup_table` with the path of one table. -/
def IdmefPath.Shares (path other : IdmefPath) : Prop :=
  path.getDepth = other.getDepth ∧
    if path.ComparedWhole then path.Same other else path.SameUpTo other (path.getDepth - 1)

instance (path other : IdmefPath) : Decidable (path.Shares other) :=
  inferInstanceAs (Decidable (_ ∧ _))

/-- Paths that share a table have all elements but the last in common. -/
theorem IdmefPath.Shares.sameUpTo {path other : IdmefPath} (shares : path.Shares other) :
    path.SameUpTo other (path.getDepth - 1) := by
  rcases shares with ⟨_, same⟩
  split at same
  · exact same.upTo _
  · exact same

theorem IdmefPath.Shares.top {path other : IdmefPath} (shares : path.Shares other) :
    path.top = other.top := by
  have deep := path.two_le_getDepth
  exact shares.sameUpTo.top (by omega)

def classicSqlJoinLookupTable (join : Join) (path : IdmefPath) : Option JoinedTable :=
  join.tables.find? fun table => path.Shares table.path

def resolveFileParentType (path : IdmefPath) : Option ParentType :=
  if path.getClass 3 = some .fileAccess ∧ path.getClass 4 = some .userId then some .F else none

def resolveTargetParentType (path : IdmefPath) : Option ParentType :=
  if path.getDepth = 3 then none
  else if path.getClass 2 = some .file then resolveFileParentType path
  else some .T

def resolveSourceParentType (path : IdmefPath) : Option ParentType :=
  if path.getDepth > 3 then some .S else none

/-- `resolve_tool_alert_parent_type` and `resolve_correlation_alert_parent_type`. -/
def resolveAlertidentParentType (letter : ParentType) (path : IdmefPath) : Option ParentType :=
  if path.getClass 2 = some .alertident then some letter else none

def resolveAlertParentType (path : IdmefPath) : Option ParentType :=
  match path.getClass 1 with
  | some .classification | some .assessment | some .overflowAlert => none
  | some .toolAlert => resolveAlertidentParentType .T path
  | some .correlationAlert => resolveAlertidentParentType .C path
  | some .source => resolveSourceParentType path
  | some .target => resolveTargetParentType path
  | _ => if path.leafName = "detect_time" then none else some .A

def resolveParentType (path : IdmefPath) : Option ParentType :=
  match path.top with
  | .heartbeat => some .H
  | .alert => resolveAlertParentType path

/-- `add_index_constraint`, nothing for a forbidden index. -/
def addIndexConstraint (parentLevel : Option Nat) : PathIndex → List IndexConstraint
  | .forbidden => []
  | .number index => [⟨parentLevel, false, index⟩]
  | .undefined => [⟨parentLevel, true, -1⟩]

/-- The loop of `resolve_indexes`: the listed elements get the parent levels in their order. -/
def parentConstraints : Nat → List PathIndex → List IndexConstraint
  | _, [] => []
  | level, .forbidden :: rest => parentConstraints level rest
  | level, index :: rest =>
      addIndexConstraint (some level) index ++ parentConstraints (level + 1) rest

/--
`resolve_indexes`: the elements from the first below the message to the third from the end
are parents; the last element gives `_index`, or the one before it where the last is no list.
-/
def resolveIndexes (path : IdmefPath) : List IndexConstraint :=
  let depth := path.getDepth
  let parents := ((path.elements.map PathElement.index).take (depth - 2)).drop 1
  let last := path.getIndex (depth - 1)
  let index := if last ≠ .forbidden then last else path.getIndex (depth - 2)
  parentConstraints 0 parents ++ addIndexConstraint none index

/-- `classic_sql_join_new_table`: the table is added unless its path has another top class. -/
def classicSqlJoinNewTable (join : Join) (path : IdmefPath) (tableName : String) :
    Except ErrorCode (JoinedTable × Join) :=
  if (join.topClass.getD path.top) ≠ path.top then .error queryError
  else
    let table : JoinedTable :=
      { path, tableName, number := join.nextId
        parentType := resolveParentType path
        indexConstraints := resolveIndexes path }
    .ok (table,
      { topClass := some path.top, tables := join.tables ++ [table], nextId := join.nextId + 1 })

/-- The table that `classic_sql_join_to_string` calls `top_table`. -/
def Join.topTable (join : Join) : String :=
  if join.topClass = some .alert then Table.alert.sqlName else Table.heartbeat.sqlName

end RequiemDB
