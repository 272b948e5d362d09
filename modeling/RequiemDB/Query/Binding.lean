import Mathlib.Data.List.Nodup
import RequiemDB.Query.Sharing

/-!
# What the aliases of a query are bound to

A sequence of paths is resolved into one growing join. `JoinOf` describes the join
by the paths resolved so far: its tables are those of the paths that found none,
and every path uses the table of the first path that it shares a table with. The
aliases are distinct whatever the sequence; what an alias is bound to is the
path's own table when the first path serves it.
-/

namespace RequiemDB

/-- What an alias stands for: a table name, a parent letter and index constraints. -/
abbrev Bound := String × Option ParentType × List IndexConstraint

def JoinedTable.bound (table : JoinedTable) : Bound :=
  (table.tableName, table.parentType, table.indexConstraints)

/-- The `FROM` clause of `classic_sql_join_to_string`: the aliases and what they are bound to. -/
def Join.bindings (join : Join) : List (String × Bound) :=
  ("top_table", (join.topTable, none, [])) ::
    join.tables.map fun table => (table.getName, table.bound)

/-- The table that a path is to be answered from. -/
def IdmefPath.ownBound (path : IdmefPath) : Bound :=
  if path.Plain then ((searchPath path).resolveTableName path, none, []) else path.tableKey

/-- `classic_path_resolve` for one path after the other, each with the columns it gets. -/
def resolvePaths : List (IdmefPath × FieldContext) → Join →
    Except ErrorCode (List (IdmefPath × List FieldName) × Join)
  | [], join => .ok ([], join)
  | (path, context) :: steps, join => do
      let (fieldName, join) ← classicPathResolve path context join
      let (resolved, join) ← resolvePaths steps join
      .ok ((path, fieldName) :: resolved, join)

theorem resolvePaths_cons {step : IdmefPath × FieldContext}
    {steps : List (IdmefPath × FieldContext)} {join final : Join}
    {resolved : List (IdmefPath × List FieldName)}
    (resolves : resolvePaths (step :: steps) join = .ok (resolved, final)) :
    ∃ fieldName middle rest, classicPathResolve step.1 step.2 join = .ok (fieldName, middle) ∧
      resolvePaths steps middle = .ok (rest, final) ∧ resolved = (step.1, fieldName) :: rest := by
  rw [resolvePaths] at resolves
  cases first : classicPathResolve step.1 step.2 join with
  | error error => simp [first, bind, Except.bind] at resolves
  | ok result =>
      cases later : resolvePaths steps result.2 with
      | error error => simp [first, later, bind, Except.bind] at resolves
      | ok rest =>
          simp only [first, later, bind, Except.bind, Except.ok.injEq, Prod.mk.injEq] at resolves
          rcases resolves with ⟨rfl, rfl⟩
          exact ⟨result.1, result.2, rest.1, rfl, later, rfl⟩

theorem resolvePaths_fst {steps : List (IdmefPath × FieldContext)} {join final : Join}
    {resolved : List (IdmefPath × List FieldName)}
    (resolves : resolvePaths steps join = .ok (resolved, final)) :
    resolved.map Prod.fst = steps.map Prod.fst := by
  induction steps generalizing join resolved with
  | nil =>
      rw [resolvePaths, Except.ok.injEq, Prod.mk.injEq] at resolves
      rw [← resolves.1]
      rfl
  | cons step steps ih =>
      rcases resolvePaths_cons resolves with ⟨fieldName, middle, rest, _, later, rfl⟩
      rw [List.map_cons, List.map_cons, ih later]

/-- The columns are columns of one alias, and of no other. -/
structure UsesAlias (fieldName : List FieldName) (tableName : String) : Prop where
  some : ∃ name, FieldName.column tableName name ∈ fieldName
  only : ∀ other name, FieldName.column other name ∈ fieldName → other = tableName

theorem UsesAlias.unique {fieldName : List FieldName} {left right : String}
    (usesLeft : UsesAlias fieldName left) (usesRight : UsesAlias fieldName right) :
    left = right := by
  rcases usesLeft.some with ⟨name, present⟩
  exact usesRight.only left name present

/-- Every field name resolver gives columns of the table that it is called with. -/
theorem usesAlias_resolveFieldName (path : IdmefPath) (context : FieldContext)
    (tableName : String) :
    UsesAlias ((searchPath path).resolveFieldName path context tableName) tableName := by
  have one : ∀ name, UsesAlias [.column tableName name] tableName :=
    fun name => ⟨⟨name, by simp⟩, by simp +contextual⟩
  have three : ∀ first second last, last = .zero ∨ (∃ name, last = .column tableName name) →
      UsesAlias [.column tableName first, .column tableName second, last] tableName := by
    intro first second last isLast
    refine ⟨⟨first, by simp⟩, fun other name present => ?_⟩
    rcases isLast with rfl | ⟨third, rfl⟩ <;> simp at present <;> tauto
  have default : UsesAlias (defaultFieldNameResolver path context tableName) tableName := one _
  have message : UsesAlias (messageFieldNameResolver path context tableName) tableName := by
    rw [messageFieldNameResolver]
    split
    · rw [timeWithUsecFieldNameResolver]
      split
      · exact three _ _ _ (.inr ⟨_, rfl⟩)
      · exact one _
    · exact default
  have file : UsesAlias (fileFieldNameResolver path context tableName) tableName := by
    rw [fileFieldNameResolver]
    split
    · rw [timeWithoutUsecFieldNameResolver]
      split
      · exact three _ _ _ (.inl rfl)
      · exact one _
    · exact default
  rw [searchPath]
  split
  · exact message
  · exact message
  · exact default
  · exact one _
  · exact default
  · exact one _
  · exact file
  · exact default
  · exact default

/-- The paths of a sequence that are answered from a joined table. -/
def joinedPaths (paths : List IdmefPath) : List IdmefPath := paths.filter fun path => ¬ path.Plain

/-- The first path of a sequence whose table the path shares, itself where there is no other. -/
def firstUser (paths : List IdmefPath) (path : IdmefPath) : Option IdmefPath :=
  (joinedPaths paths).find? fun other => path.Shares other

theorem firstUser_append_of_some {paths later : List IdmefPath} {path first : IdmefPath}
    (isFirst : firstUser paths path = some first) :
    firstUser (paths ++ later) path = some first := by
  rw [firstUser, joinedPaths] at isFirst ⊢
  rw [List.filter_append, List.find?_append, isFirst, Option.some_or]

/-- The alias of a path: the top table, or the table that the first path with it was joined for. -/
def AliasFor (paths : List IdmefPath) (join : Join) (path : IdmefPath) (tableName : String) :
    Prop :=
  if path.Plain then tableName = "top_table"
  else ∃ table ∈ join.tables, tableName = table.getName ∧
    firstUser paths path = some table.path

/-- The join that a sequence of paths has been resolved into. -/
structure JoinOf (topClass : Option MessageTable) (resolved : List (IdmefPath × List FieldName))
    (join : Join) : Prop where
  numbers : join.tables.map JoinedTable.number = List.range join.nextId
  own : ∀ table ∈ join.tables, table.bound = table.path.tableKey
  found : ∀ path, (join.tables.find? fun table => path.Shares table.path).map JoinedTable.path =
    firstUser (resolved.map Prod.fst) path
  topClass : join.topClass =
    settled topClass ((resolved.map Prod.fst).flatMap IdmefPath.joined)
  recorded : join.Recorded
  uses : ∀ result ∈ resolved, ∃ tableName, UsesAlias result.2 tableName ∧
    AliasFor (resolved.map Prod.fst) join result.1 tableName

theorem joinOf_new (topClass : Option MessageTable) :
    JoinOf topClass [] { Join.new with topClass := topClass } where
  numbers := rfl
  own := by simp [Join.new]
  found := fun _ => rfl
  topClass := (settled_nil topClass).symm
  recorded := Request.recorded_new topClass
  uses := by simp

/-- Sharing goes through a path that shares with another one. -/
theorem IdmefPath.Shares.trans {path between other : IdmefPath} (first : path.Shares between)
    (second : between.Shares other) : path.Shares other := by
  have sameDepth := first.1.trans second.1
  have upTo := second.sameUpTo
  rw [← first.1] at upTo
  refine ⟨sameDepth, ?_⟩
  by_cases whole : path.ComparedWhole
  · have same : path = between := Same.eq (by simpa [whole] using first.2)
    subst same
    exact second.2
  · rw [if_neg whole]
    exact first.sameUpTo.trans upTo

namespace JoinOf

variable {topClass : Option MessageTable} {resolved : List (IdmefPath × List FieldName)}
  {join middle : Join} {path : IdmefPath} {context : FieldContext} {fieldName : List FieldName}

/-- An alias stays where tables are added and paths resolved behind it. -/
theorem aliasFor_mono {paths later : List IdmefPath} {tableName : String}
    (isAlias : AliasFor paths join path tableName)
    (kept : ∀ table ∈ join.tables, table ∈ middle.tables) :
    AliasFor (paths ++ later) middle path tableName := by
  by_cases plain : path.Plain
  · rw [AliasFor, if_pos plain] at isAlias ⊢
    exact isAlias
  · rw [AliasFor, if_neg plain] at isAlias ⊢
    rcases isAlias with ⟨table, present, name, isFirst⟩
    exact ⟨table, kept table present, name, firstUser_append_of_some isFirst⟩

/-- What one call leaves, given what it did to the tables and which alias it used. -/
theorem after (grown : JoinOf topClass resolved join)
    (resolves : classicPathResolve path context join = .ok (fieldName, middle))
    (numbers : middle.tables.map JoinedTable.number = List.range middle.nextId)
    (kept : ∀ table ∈ join.tables, table ∈ middle.tables)
    (own : ∀ table ∈ middle.tables, table.bound = table.path.tableKey)
    (found : ∀ other, (middle.tables.find? fun table => other.Shares table.path).map
      JoinedTable.path = firstUser (resolved.map Prod.fst ++ [path]) other)
    {tableName : String} (uses : UsesAlias fieldName tableName)
    (isAlias : AliasFor (resolved.map Prod.fst ++ [path]) middle path tableName) :
    JoinOf topClass (resolved ++ [(path, fieldName)]) middle := by
  have records := records_classicPathResolve path context grown.recorded
  rw [resolves] at records
  rcases records with ⟨_, _, settles, recorded⟩
  have paths : (resolved ++ [(path, fieldName)]).map Prod.fst =
      resolved.map Prod.fst ++ [path] := by simp
  constructor
  · exact numbers
  · exact own
  · rw [paths]
    exact found
  · rw [paths, List.flatMap_append, settled_append, ← grown.topClass, List.flatMap_singleton]
    exact settles
  · exact recorded
  · intro result present
    rw [paths]
    rcases List.mem_append.mp present with old | new
    · rcases grown.uses result old with ⟨name, usesName, oldAlias⟩
      exact ⟨name, usesName, aliasFor_mono oldAlias kept⟩
    · rw [List.mem_singleton.mp new]
      exact ⟨tableName, uses, isAlias⟩

end JoinOf

theorem firstUser_append_plain {paths : List IdmefPath} {path : IdmefPath} (plain : path.Plain)
    (other : IdmefPath) : firstUser (paths ++ [path]) other = firstUser paths other := by
  simp [firstUser, joinedPaths, plain]

theorem firstUser_append_joined {paths : List IdmefPath} {path : IdmefPath}
    (notPlain : ¬ path.Plain) (other : IdmefPath) :
    firstUser (paths ++ [path]) other =
      (firstUser paths other).or (if other.Shares path then some path else none) := by
  by_cases shares : other.Shares path <;>
    simp [firstUser, joinedPaths, notPlain, shares, List.find?_append]

/-- A new table has the next number and everything else from its path. -/
theorem classicSqlJoinNewTable_ok {path : IdmefPath} {tableName : String} {join middle : Join}
    {table : JoinedTable} (added : classicSqlJoinNewTable join path tableName =
      .ok (table, middle)) :
    table.path = path ∧ table.number = join.nextId ∧
      table.bound = (tableName, resolveParentType path, resolveIndexes path) ∧
        middle.tables = join.tables ++ [table] ∧ middle.nextId = join.nextId + 1 := by
  rw [classicSqlJoinNewTable] at added
  split at added
  · exact absurd added (by simp)
  · simp only [Except.ok.injEq, Prod.mk.injEq] at added
    rcases added with ⟨rfl, rfl⟩
    exact ⟨rfl, rfl, rfl, rfl, rfl⟩

section Step

variable {topClass : Option MessageTable} {resolved : List (IdmefPath × List FieldName)}
  {join middle : Join} {path : IdmefPath} {context : FieldContext} {fieldName : List FieldName}

theorem JoinOf.stepPlain (grown : JoinOf topClass resolved join) (plain : path.Plain)
    (resolves : classicPathResolve path context join = .ok (fieldName, middle)) :
    JoinOf topClass (resolved ++ [(path, fieldName)]) middle := by
  have result := resolves
  rw [classicPathResolve, if_pos plain, Except.ok.injEq, Prod.mk.injEq] at result
  rcases result with ⟨isName, rfl⟩
  have uses : UsesAlias fieldName "top_table" := by
    rw [← isName]
    exact ⟨⟨path.leafName, by simp [defaultFieldNameResolver]⟩,
      by simp +contextual [defaultFieldNameResolver]⟩
  refine grown.after resolves grown.numbers (fun _ present => present) grown.own ?_ uses ?_
  · intro other
    rw [firstUser_append_plain plain, grown.found]
  · rw [AliasFor, if_pos plain]

theorem JoinOf.stepFound (grown : JoinOf topClass resolved join) (notPlain : ¬ path.Plain)
    {table : JoinedTable} (lookup : classicSqlJoinLookupTable join path = some table)
    (resolves : classicPathResolve path context join = .ok (fieldName, middle)) :
    JoinOf topClass (resolved ++ [(path, fieldName)]) middle := by
  have result := resolves
  rw [classicPathResolve, if_neg notPlain, joinedTable] at result
  simp only [lookup, bind, Except.bind, Except.ok.injEq, Prod.mk.injEq] at result
  rcases result with ⟨rfl, rfl⟩
  have isFirst : firstUser (resolved.map Prod.fst) path = some table.path := by
    rw [← grown.found, ← classicSqlJoinLookupTable, lookup, Option.map_some]
  have shares : path.Shares table.path := by simpa using List.find?_some lookup
  refine grown.after resolves grown.numbers (fun _ present => present) grown.own ?_
    (usesAlias_resolveFieldName path context table.getName) ?_
  · -- a path that shares with this one has found the table that this one found
    intro other
    rw [firstUser_append_joined notPlain, grown.found]
    by_cases other_shares : other.Shares path
    · have some : (firstUser (resolved.map Prod.fst) other).isSome := by
        rw [firstUser, List.find?_isSome]
        refine ⟨table.path, List.mem_of_find?_eq_some isFirst, ?_⟩
        simpa using other_shares.trans shares
      rcases Option.isSome_iff_exists.mp some with ⟨first, isSome⟩
      rw [isSome, Option.some_or]
    · rw [if_neg other_shares, Option.or_none]
  · rw [AliasFor, if_neg notPlain]
    exact ⟨table, List.mem_of_find?_eq_some lookup, rfl, firstUser_append_of_some isFirst⟩

theorem JoinOf.stepNew (grown : JoinOf topClass resolved join) (notPlain : ¬ path.Plain)
    (lookup : classicSqlJoinLookupTable join path = none)
    (resolves : classicPathResolve path context join = .ok (fieldName, middle)) :
    JoinOf topClass (resolved ++ [(path, fieldName)]) middle := by
  have result := resolves
  rw [classicPathResolve, if_neg notPlain, joinedTable] at result
  cases added : classicSqlJoinNewTable join path ((searchPath path).resolveTableName path) with
  | error error => simp [lookup, added, bind, Except.bind] at result
  | ok new =>
      rcases new with ⟨table, later⟩
      simp only [lookup, added, bind, Except.bind, Except.ok.injEq, Prod.mk.injEq] at result
      rcases result with ⟨rfl, rfl⟩
      rcases classicSqlJoinNewTable_ok added with ⟨isPath, isNumber, isBound, tables, nextId⟩
      have noFirst : firstUser (resolved.map Prod.fst) path = none := by
        rw [← grown.found, ← classicSqlJoinLookupTable, lookup, Option.map_none]
      refine grown.after resolves ?_ ?_ ?_ ?_
        (usesAlias_resolveFieldName path context table.getName) ?_
      · rw [tables, nextId, List.map_append, grown.numbers, List.range_succ, List.map_cons,
          List.map_nil, isNumber]
      · intro old present
        rw [tables]
        exact List.mem_append_left _ present
      · intro other present
        rw [tables] at present
        rcases List.mem_append.mp present with old | new
        · exact grown.own other old
        · rw [List.mem_singleton.mp new, isBound, isPath, IdmefPath.tableKey]
      · intro other
        rw [firstUser_append_joined notPlain, ← grown.found, tables, List.find?_append,
          Option.map_or]
        by_cases shares : other.Shares path <;> simp [shares, isPath]
      · rw [AliasFor, if_neg notPlain]
        refine ⟨table, by simp [tables], rfl, ?_⟩
        have itself : path.Shares path := ⟨rfl, by split <;> rfl⟩
        rw [firstUser_append_joined notPlain, noFirst, Option.none_or, if_pos itself, isPath]

theorem JoinOf.step (grown : JoinOf topClass resolved join)
    (resolves : classicPathResolve path context join = .ok (fieldName, middle)) :
    JoinOf topClass (resolved ++ [(path, fieldName)]) middle := by
  by_cases plain : path.Plain
  · exact grown.stepPlain plain resolves
  · cases lookup : classicSqlJoinLookupTable join path with
    | some table => exact grown.stepFound plain lookup resolves
    | none => exact grown.stepNew plain lookup resolves

end Step

theorem JoinOf.run {topClass : Option MessageTable} {steps : List (IdmefPath × FieldContext)}
    {before resolved : List (IdmefPath × List FieldName)} {join final : Join}
    (grown : JoinOf topClass before join)
    (resolves : resolvePaths steps join = .ok (resolved, final)) :
    JoinOf topClass (before ++ resolved) final := by
  induction steps generalizing before resolved join with
  | nil =>
      rw [resolvePaths, Except.ok.injEq, Prod.mk.injEq] at resolves
      rcases resolves with ⟨rfl, rfl⟩
      rwa [List.append_nil]
  | cons step steps ih =>
      rcases resolvePaths_cons resolves with ⟨fieldName, middle, rest, first, later, rfl⟩
      have next := ih (grown.step first) later
      rwa [List.append_assoc] at next

theorem getName_injective {left right : JoinedTable} (same : left.getName = right.getName) :
    left.number = right.number := by
  have digits : Nat.toDigits 10 left.number = Nat.toDigits 10 right.number := by
    have lists := congrArg String.toList same
    simpa [JoinedTable.getName, Nat.repr] using lists
  have numbers := congrArg (Nat.ofDigitChars 10 · 0) digits
  simpa using numbers

theorem getName_ne_topTable (table : JoinedTable) : table.getName ≠ "top_table" := by
  intro same
  have digits : Nat.toDigits 10 table.number = "op_table".toList := by
    have lists := congrArg String.toList same
    simpa [JoinedTable.getName, Nat.repr] using lists
  have letter : 'o' ∈ Nat.toDigits 10 table.number := by
    rw [digits]
    decide
  exact absurd (Nat.isDigit_of_mem_toDigits (by decide) (by decide) letter) (by decide)

/-- Whatever is resolved, no alias is bound twice. -/
theorem JoinOf.distinct {topClass : Option MessageTable}
    {resolved : List (IdmefPath × List FieldName)} {join : Join}
    (grown : JoinOf topClass resolved join) : (join.bindings.map Prod.fst).Nodup := by
  rw [Join.bindings, List.map_cons, List.map_map, List.nodup_cons]
  constructor
  · intro present
    rcases List.mem_map.mp present with ⟨table, _, name⟩
    exact getName_ne_topTable table name
  · have numbers : (join.tables.map JoinedTable.number).Nodup := by
      rw [grown.numbers]
      exact List.nodup_range
    exact List.pairwise_map.mpr ((List.pairwise_map.mp numbers).imp
      fun different same => different (getName_injective same))

/-- The top table is the one of the message that a plain path starts with. -/
theorem IdmefPath.Plain.resolveTableName {path : IdmefPath} (plain : path.Plain) :
    (searchPath path).resolveTableName path = path.top.table.sqlName := by
  rcases path.leaf_of_parent with ⟨owner, child, isOwner, isChild, leafType, _⟩
  have parent : path.parentClass = some path.top.classId := by
    rw [IdmefPath.parentClass, plain.1]
    rfl
  have isTop : owner = path.top.classId := Option.mem_unique isOwner parent
  have times : ∀ entry ∈ path.top.classId.children,
      entry.1 ∈ ["create_time", "detect_time", "analyzer_time"] →
        entry.2.content.type = .time := by
    cases path.top <;> decide
  have notTime : path.leafName ∉ ["create_time", "detect_time", "analyzer_time"] := by
    intro named
    rw [isTop] at isChild
    have isTime := times _ (ClassId.mem_children_of_child isChild) named
    rw [leafType, IdmefPath.leafType, plain.1] at isTime
    exact plain.2 isTime
  simp only [List.mem_cons, List.not_mem_nil, or_false, not_or] at notTime
  have default : messageTableNameResolver path = path.top.table.sqlName := by
    simp only [messageTableNameResolver, notTime, if_false, defaultTableNameResolver, parent]
    cases path.top <;> decide
  rw [searchPath, parent]
  cases isAlert : path.top <;> rw [isAlert] at default <;> exact default

theorem Join.topTable_eq (join : Join) :
    join.topTable = (join.topClass.getD .heartbeat).table.sqlName := by
  rw [Join.topTable]
  rcases join.topClass with _ | _ | _ <;> rfl

/--
The aliases are distinct, and each path's columns are columns of one alias, which is bound
to the path's own table.
-/
structure BoundOwn (resolved : List (IdmefPath × List FieldName)) (join : Join) : Prop where
  distinct : (join.bindings.map Prod.fst).Nodup
  own : ∀ result ∈ resolved, ∃ tableName, UsesAlias result.2 tableName ∧
    (tableName, result.1.ownBound) ∈ join.bindings

/--
The tables that paths share serve them: a path that is neither plain nor compared as a whole
is served by the first path whose table it shares, and a plain path has the class of the
joined tables, that of heartbeats where there is none.
-/
def SharedWell (topClass : Option MessageTable) (paths : List IdmefPath) : Prop :=
  (∀ path ∈ paths, ¬ path.Plain → ¬ path.ComparedWhole →
    ∀ first ∈ firstUser paths path, first.Serves path) ∧
  (∀ path ∈ paths, path.Plain →
    path.top = (settled topClass (paths.flatMap IdmefPath.joined)).getD .heartbeat)

namespace JoinOf

variable {topClass : Option MessageTable} {resolved : List (IdmefPath × List FieldName)}
  {join : Join} {path : IdmefPath}

theorem bound_unique (grown : JoinOf topClass resolved join) {tableName : String}
    {left right : Bound} (isLeft : (tableName, left) ∈ join.bindings)
    (isRight : (tableName, right) ∈ join.bindings) : left = right := by
  have same := List.inj_on_of_nodup_map grown.distinct isLeft isRight rfl
  exact congrArg Prod.snd same

/-- A plain path is bound to its own table when the join has its class. -/
theorem plain_iff (grown : JoinOf topClass resolved join) (plain : path.Plain) :
    ("top_table", path.ownBound) ∈ join.bindings ↔
      path.top = join.topClass.getD .heartbeat := by
  have isTop : ("top_table", (join.topTable, none, [])) ∈ join.bindings := List.mem_cons_self
  rw [IdmefPath.ownBound, if_pos plain, plain.resolveTableName]
  constructor
  · intro bound
    have same := grown.bound_unique isTop bound
    rw [Prod.mk.injEq, join.topTable_eq] at same
    exact (Request.sqlName_injective same.1).symm
  · intro same
    rw [same, ← join.topTable_eq]
    exact isTop

/-- Another path is bound to its own table when the first path with that table serves it. -/
theorem joined_iff (grown : JoinOf topClass resolved join) (notPlain : ¬ path.Plain)
    {table : JoinedTable} (present : table ∈ join.tables) (shares : path.Shares table.path) :
    (table.getName, path.ownBound) ∈ join.bindings ↔
      path.ComparedWhole ∨ table.path.Serves path := by
  have isBound : (table.getName, table.bound) ∈ join.bindings :=
    List.mem_cons_of_mem _ (List.mem_map_of_mem present)
  have same : (table.getName, path.ownBound) ∈ join.bindings ↔
      table.path.tableKey = path.tableKey := by
    rw [IdmefPath.ownBound, if_neg notPlain, ← grown.own table present]
    constructor
    · exact grown.bound_unique isBound
    · intro same
      rw [← same]
      exact isBound
  rw [same]
  by_cases whole : path.ComparedWhole
  · have isPath : path = table.path := IdmefPath.Same.eq (by simpa [whole] using shares.2)
    simp [whole, ← isPath]
  · have upTo := shares.2
    rw [if_neg whole] at upTo
    have siblings : table.path.Siblings path := ⟨shares.1.symm, upTo.symm⟩
    have notListed : path.leafIndex = .forbidden := by
      by_contra listed
      exact whole (.inl listed)
    have deep : path.getDepth ≠ 2 := by
      intro two
      refine notPlain ⟨two, fun isTime => whole (.inr ⟨?_, ?_⟩)⟩
      · rw [IdmefPath.leafType, two]
        exact isTime
      · have parent : path.parentClass = some path.top.classId := by
          rw [IdmefPath.parentClass, two]
          rfl
        rw [parent]
        cases path.top <;> decide
    rw [siblings.tableKey_eq_iff deep notListed]
    simp [whole]

end JoinOf

/--
The aliases of a resolved sequence are bound to the paths' own tables exactly when the
tables they share serve them.
-/
theorem joinSharing_iff (topClass : Option MessageTable) (steps : List (IdmefPath × FieldContext))
    (resolved : List (IdmefPath × List FieldName)) (join : Join)
    (resolves : resolvePaths steps { Join.new with topClass := topClass } = .ok (resolved, join)) :
    BoundOwn resolved join ↔ SharedWell topClass (steps.map Prod.fst) := by
  have grown : JoinOf topClass resolved join := (joinOf_new topClass).run resolves
  rw [← resolvePaths_fst resolves, SharedWell, ← grown.topClass]
  constructor
  · rintro ⟨_, own⟩
    refine ⟨?_, ?_⟩
    · intro path present notPlain notWhole first isFirst
      rcases List.mem_map.mp present with ⟨result, isResult, rfl⟩
      rcases grown.uses result isResult with ⟨tableName, uses, isAlias⟩
      rw [AliasFor, if_neg notPlain] at isAlias
      rcases isAlias with ⟨table, isTable, rfl, isPath⟩
      rcases own result isResult with ⟨other, usesOther, bound⟩
      rw [usesOther.unique uses] at bound
      have shares : result.1.Shares table.path := by simpa using List.find?_some isPath
      rw [Option.mem_unique isFirst isPath]
      exact ((grown.joined_iff notPlain isTable shares).mp bound).resolve_left notWhole
    · intro path present plain
      rcases List.mem_map.mp present with ⟨result, isResult, rfl⟩
      rcases grown.uses result isResult with ⟨tableName, uses, isAlias⟩
      rw [AliasFor, if_pos plain] at isAlias
      rcases own result isResult with ⟨other, usesOther, bound⟩
      rw [usesOther.unique uses, isAlias] at bound
      exact (grown.plain_iff plain).mp bound
  · rintro ⟨serves, tops⟩
    refine ⟨grown.distinct, fun result isResult => ?_⟩
    have present : result.1 ∈ resolved.map Prod.fst := List.mem_map_of_mem isResult
    rcases grown.uses result isResult with ⟨tableName, uses, isAlias⟩
    refine ⟨tableName, uses, ?_⟩
    by_cases plain : result.1.Plain
    · rw [AliasFor, if_pos plain] at isAlias
      rw [isAlias]
      exact (grown.plain_iff plain).mpr (tops result.1 present plain)
    · rw [AliasFor, if_neg plain] at isAlias
      rcases isAlias with ⟨table, isTable, rfl, isPath⟩
      have shares : result.1.Shares table.path := by simpa using List.find?_some isPath
      refine (grown.joined_iff plain isTable shares).mpr ?_
      by_cases whole : result.1.ComparedWhole
      · exact .inl whole
      · exact .inr (serves result.1 present plain whole table.path isPath)

/-- Arguments of the process of an alert's first source, one of which is asked for. -/
def processArgPath : IdmefPath where
  top := .alert
  below := [⟨"source", .number 0, .cls .source⟩, ⟨"process", .forbidden, .cls .process⟩,
    ⟨"arg", .number 0, .value .string⟩]
  notEmpty := by decide
  follows := by decide

/-- The name of the same process. -/
def processNamePath : IdmefPath where
  top := .alert
  below := [⟨"source", .number 0, .cls .source⟩, ⟨"process", .forbidden, .cls .process⟩,
    ⟨"name", .forbidden, .value .string⟩]
  notEmpty := by decide
  follows := by decide

/-- In the other order the argument gets a table of its own. -/
theorem joinSharing_iff_nameFirst :
    BoundOwn [(processNamePath, [.column "t0" "name"]), (processArgPath, [.column "t1" "arg"])]
      (Join.mk (some .alert)
        [⟨processNamePath, "Requiem_Process", 0, some .S, [⟨some 0, false, 0⟩]⟩,
          ⟨processArgPath, "Requiem_ProcessArg", 1, some .S,
            [⟨some 0, false, 0⟩, ⟨none, false, 0⟩]⟩] 2) := by
  refine (joinSharing_iff none [(processNamePath, .select), (processArgPath, .select)] _ _
    (by decide)).mpr ⟨?_, by decide⟩
  have served : ∀ path ∈ [processNamePath, processArgPath], ¬ path.ComparedWhole →
      ∀ first ∈ firstUser [processNamePath, processArgPath] path,
        first.leafIndex = .forbidden := by
    decide
  exact fun path present _ notWhole first isFirst =>
    .inl (served path present notWhole first isFirst)

/-- The name behind an argument is answered from the arguments. -/
theorem processName_boundToArgs :
    ¬ ∀ (steps : List (IdmefPath × FieldContext)) (resolved : List (IdmefPath × List FieldName))
      (join : Join), resolvePaths steps Join.new = .ok (resolved, join) →
        BoundOwn resolved join := by
  intro always
  have bound := always [(processArgPath, .select), (processNamePath, .select)]
    [(processArgPath, [.column "t0" "arg"]), (processNamePath, [.column "t0" "name"])]
    _ rfl
  rcases bound.own (processNamePath, [.column "t0" "name"]) (by decide) with
    ⟨tableName, uses, isBound⟩
  have isAlias : tableName = "t0" := uses.unique ⟨⟨"name", by decide⟩, by simp⟩
  rw [isAlias] at isBound
  exact absurd isBound (by decide)

end RequiemDB
