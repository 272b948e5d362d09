import RequiemDB.Query.Join

/-!
# From paths to columns

`classic-path-resolve.c` and `classic-sql-select.c`: a path is resolved to the
columns that hold its attribute, in the table that the class before the last
element gives; the columns of the selected paths are collected with the ordinals
of `GROUP BY` and `ORDER BY`, the criteria are written as a condition.
-/

namespace RequiemDB

/-- `FIELD_CONTEXT_WHERE`, `FIELD_CONTEXT_SELECT`, `FIELD_CONTEXT_FUNCTION`. -/
inductive FieldContext where
  | where_ | select | function
deriving DecidableEq

/-- A column of a table under its alias, or the literal `0`. -/
inductive FieldName where
  | column (table : String) (name : String)
  | zero
deriving DecidableEq

/-- The letters of a class name, each capital behind the start or an underscore. -/
def camelCase : Bool → List Char → List Char
  | _, [] => []
  | nextIsMaj, c :: rest =>
      if c = '_' then camelCase true rest
      else (if nextIsMaj then c.toUpper else c) :: camelCase false rest

/-- A path without a class before its last element has none below its message. -/
def defaultTableNameResolver (path : IdmefPath) : String :=
  "Requiem_" ++ String.ofList (camelCase true ((path.parentClass.elim "" ClassId.name).toList))

def defaultFieldNameResolver (path : IdmefPath) (_context : FieldContext) (tableName : String) :
    List FieldName :=
  [.column tableName path.leafName]

def timeWithUsecFieldNameResolver (_path : IdmefPath) (context : FieldContext)
    (tableName : String) : List FieldName :=
  if context = .select then
    [.column tableName "time", .column tableName "gmtoff", .column tableName "usec"]
  else [.column tableName "time"]

def timeWithoutUsecFieldNameResolver (path : IdmefPath) (context : FieldContext)
    (tableName : String) : List FieldName :=
  if context = .select then
    [.column tableName path.leafName, .column tableName (path.leafName ++ "_gmtoff"), .zero]
  else [.column tableName path.leafName]

def messageTableNameResolver (path : IdmefPath) : String :=
  if path.leafName = "create_time" then "Requiem_CreateTime"
  else if path.leafName = "detect_time" then "Requiem_DetectTime"
  else if path.leafName = "analyzer_time" then "Requiem_AnalyzerTime"
  else defaultTableNameResolver path

def messageFieldNameResolver (path : IdmefPath) (context : FieldContext) (tableName : String) :
    List FieldName :=
  if path.leafName = "create_time" ∨ path.leafName = "detect_time" ∨
      path.leafName = "analyzer_time" then
    timeWithUsecFieldNameResolver path context tableName
  else defaultFieldNameResolver path context tableName

def processTableNameResolver (path : IdmefPath) : String :=
  if path.leafName = "arg" then "Requiem_ProcessArg"
  else if path.leafName = "env" then "Requiem_ProcessEnv"
  else "Requiem_Process"

def fileAccessTableNameResolver (path : IdmefPath) : String :=
  if path.leafName = "permission" then "Requiem_FileAccess_Permission" else "Requiem_FileAccess"

def webServiceTableNameResolver (path : IdmefPath) : String :=
  if path.leafName = "arg" then "Requiem_WebServiceArg" else "Requiem_WebService"

/-- `snmp_field_name_resolver` and `checksum_field_name_resolver`: one column has another name. -/
def renamedFieldNameResolver (renamed column : String) (path : IdmefPath)
    (_context : FieldContext) (tableName : String) : List FieldName :=
  [.column tableName (if path.leafName = renamed then column else path.leafName)]

def snmpFieldNameResolver : IdmefPath → FieldContext → String → List FieldName :=
  renamedFieldNameResolver "oid" "snmp_oid"

def checksumFieldNameResolver : IdmefPath → FieldContext → String → List FieldName :=
  renamedFieldNameResolver "key" "checksum_key"

def fileFieldNameResolver (path : IdmefPath) (context : FieldContext) (tableName : String) :
    List FieldName :=
  if path.leafName = "create_time" ∨ path.leafName = "modify_time" ∨
      path.leafName = "access_time" then
    timeWithoutUsecFieldNameResolver path context tableName
  else defaultFieldNameResolver path context tableName

/-- `classic_idmef_class_t`. -/
structure ClassicIdmefClass where
  resolveTableName : IdmefPath → String
  resolveFieldName : IdmefPath → FieldContext → String → List FieldName

/-- `search_path`: the entry of `classes` for the class before the last element, or the default. -/
def searchPath (path : IdmefPath) : ClassicIdmefClass :=
  match path.parentClass with
  | some .alert | some .heartbeat => ⟨messageTableNameResolver, messageFieldNameResolver⟩
  | some .process => ⟨processTableNameResolver, defaultFieldNameResolver⟩
  | some .snmpService => ⟨defaultTableNameResolver, snmpFieldNameResolver⟩
  | some .webService => ⟨webServiceTableNameResolver, defaultFieldNameResolver⟩
  | some .checksum => ⟨defaultTableNameResolver, checksumFieldNameResolver⟩
  | some .file => ⟨defaultTableNameResolver, fileFieldNameResolver⟩
  | some .fileAccess => ⟨fileAccessTableNameResolver, defaultFieldNameResolver⟩
  | _ => ⟨defaultTableNameResolver, defaultFieldNameResolver⟩

/-- The path is answered from the table of the messages. -/
def IdmefPath.Plain (path : IdmefPath) : Prop :=
  path.getDepth = 2 ∧ path.getValueType 1 ≠ .time

instance (path : IdmefPath) : Decidable path.Plain := inferInstanceAs (Decidable (_ ∧ _))

/-- The table of a path that is not plain: the one found, or a new one. -/
def joinedTable (path : IdmefPath) (join : Join) : Except ErrorCode (JoinedTable × Join) :=
  match classicSqlJoinLookupTable join path with
  | some table => .ok (table, join)
  | none => classicSqlJoinNewTable join path ((searchPath path).resolveTableName path)

def classicPathResolve (path : IdmefPath) (context : FieldContext) (join : Join) :
    Except ErrorCode (List FieldName × Join) :=
  if path.Plain then .ok (defaultFieldNameResolver path context "top_table", join)
  else do
    let (table, join) ← joinedTable path join
    .ok ((searchPath path).resolveFieldName path context table.getName, join)

/-- The functions of `sql_functions_table`. -/
inductive SqlFunction where
  | min | max | avg | std | count
deriving DecidableEq

/-- `requiemdb_selected_path_flags_t`: the functions asked for and the modifiers. -/
structure SelectedFlags where
  functions : List SqlFunction
  groupBy : Bool
  orderAsc : Bool
  orderDesc : Bool
deriving DecidableEq

/-- `requiemdb_selected_path_t`. -/
structure SelectedPath where
  path : IdmefPath
  flags : SelectedFlags
deriving DecidableEq

/-- A path selected without function, grouping or order. -/
def SelectedPath.plain (path : IdmefPath) : SelectedPath := ⟨path, ⟨[], false, false, false⟩⟩

/-- The first function of `sql_functions_table` that the flags hold. -/
def SelectedFlags.function (flags : SelectedFlags) : Option SqlFunction :=
  [SqlFunction.min, .max, .avg, .std, .count].find? fun function => function ∈ flags.functions

/-- An expression between the commas of the field list. -/
inductive SelectedField where
  | field (name : FieldName)
  | apply (function : SqlFunction) (fields : List FieldName)
  | distinctIdent
deriving DecidableEq

inductive Direction where
  | asc | desc
deriving DecidableEq

/-- `classic_sql_select_t`. -/
structure SqlSelect where
  fields : List SelectedField
  fieldCount : Nat
  groupBy : List Nat
  orderBy : List (Nat × Direction)
deriving DecidableEq

def SqlSelect.new : SqlSelect where
  fields := []
  fieldCount := 0
  groupBy := []
  orderBy := []

def classicSqlSelectAddField (select : SqlSelect) (fieldName : List FieldName)
    (flags : SelectedFlags) : SqlSelect :=
  let fieldCount := select.fieldCount + 1
  { fields := select.fields ++
      match flags.function with
      | some function => [.apply function fieldName]
      | none => fieldName.map .field
    fieldCount
    groupBy := select.groupBy ++ if flags.groupBy then [fieldCount] else []
    orderBy := select.orderBy ++
      if flags.orderAsc ∨ flags.orderDesc then
        [(fieldCount, if flags.orderAsc then .asc else .desc)]
      else [] }

def classicPathResolveSelected (selected : SelectedPath) (join : Join) (select : SqlSelect) :
    Except ErrorCode (Join × SqlSelect) := do
  let context := if selected.flags.functions = [] then FieldContext.select else .function
  let (fieldName, join) ← classicPathResolve selected.path context join
  .ok (join, classicSqlSelectAddField select fieldName selected.flags)

def classicPathResolveSelection : List SelectedPath → Join → SqlSelect →
    Except ErrorCode (Join × SqlSelect)
  | [], join, select => .ok (join, select)
  | selected :: selection, join, select => do
      let (join, select) ← classicPathResolveSelected selected join select
      classicPathResolveSelection selection join select

/--
`idmef_criteria_t`: a criterion with the criteria it is to hold with, if any, and the
criteria that may hold in its place.
-/
inductive Criteria (Criterion : Type) where
  | node (path : IdmefPath) (criterion : Criterion)
      (conjunct alternative : Option (Criteria Criterion))

section Criteria

variable {Criterion : Type}
  (buildCriterionString : Criterion → Except ErrorCode (List FieldName → String))

def classicPathResolveCriterion (path : IdmefPath) (criterion : Criterion) (join : Join) :
    Except ErrorCode (String × Join) := do
  let (fieldName, join) ← classicPathResolve path .where_ join
  let text ← buildCriterionString criterion
  .ok (text fieldName, join)

mutual

def classicPathResolveCriteria : Criteria Criterion → Join → Except ErrorCode (String × Join)
  | .node path criterion conjunct alternative, join => do
      let (text, join) ← classicPathResolveCriterion buildCriterionString path criterion join
      let (conjunctText, join) ← resolveOptionalCriteria " AND " "" conjunct join
      let (alternativeText, join) ← resolveOptionalCriteria ") OR (" "))" alternative join
      .ok ((if alternative.isSome then "((" else "") ++ text ++ conjunctText ++ alternativeText,
        join)

/-- The text of a subtree between the given ones, nothing for a subtree that is not there. -/
def resolveOptionalCriteria (opening closing : String) :
    Option (Criteria Criterion) → Join → Except ErrorCode (String × Join)
  | none, join => .ok ("", join)
  | some criteria, join => do
      let (text, join) ← classicPathResolveCriteria criteria join
      .ok (opening ++ text ++ closing, join)

end

end Criteria

end RequiemDB
