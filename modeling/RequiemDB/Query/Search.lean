import RequiemDB.Query.Elements
import RequiemDB.Query.Meaning

/-!
# The rows of a query's join

The join of a query over a database that holds an archive. Every path is given a table of its
own or one that serves it, so the rows of the `FROM` clause are the choices of elements from the
messages of one kind, each element behind the alias that its path uses.
-/

namespace RequiemDB

open Lib

section Resolution

variable {steps later : List (IdmefPath × FieldContext)} {join middle final : Join}
  {resolved laterResolved : List (IdmefPath × List FieldName)}

theorem resolvePaths_append (first : resolvePaths steps join = .ok (resolved, middle))
    (second : resolvePaths later middle = .ok (laterResolved, final)) :
    resolvePaths (steps ++ later) join = .ok (resolved ++ laterResolved, final) := by
  induction steps generalizing join resolved with
  | nil =>
      cases first
      exact second
  | cons step steps ih =>
      rcases resolvePaths_cons first with ⟨fieldName, between, rest, isStep, behind, rfl⟩
      rw [List.cons_append, resolvePaths, isStep]
      simp only [bind, Except.bind, ih behind, List.cons_append]

/-- The table that a call adds, if any, is that of its path. -/
theorem path_of_added {path : IdmefPath} {context : FieldContext} {fieldName : List FieldName}
    (resolves : classicPathResolve path context join = .ok (fieldName, middle))
    {table : JoinedTable} (present : table ∈ middle.tables) :
    table ∈ join.tables ∨ table.path = path ∧ ¬ path.Plain := by
  rw [classicPathResolve] at resolves
  split at resolves
  · cases resolves
    exact .inl present
  · next notPlain =>
      rcases ok_of_bind resolves with ⟨⟨own, joinedTo⟩, isTable, result⟩
      cases result
      rw [joinedTable] at isTable
      split at isTable
      · cases isTable
        exact .inl present
      · rcases classicSqlJoinNewTable_ok isTable with ⟨isPath, _, _, tables, _⟩
        rw [tables] at present
        rcases List.mem_append.mp present with before | added
        · exact .inl before
        · rw [List.mem_singleton.mp added]
          exact .inr ⟨isPath, notPlain⟩

/-- Every table of the join was added for one of the paths. -/
theorem path_of_joined (resolves : resolvePaths steps join = .ok (resolved, final))
    {table : JoinedTable} (present : table ∈ final.tables) :
    table ∈ join.tables ∨ table.path ∈ steps.map Prod.fst ∧ ¬ table.path.Plain := by
  induction steps generalizing join resolved with
  | nil =>
      cases resolves
      exact .inl present
  | cons step steps ih =>
      rcases resolvePaths_cons resolves with ⟨fieldName, between, rest, isStep, behind, rfl⟩
      rcases ih behind with before | ⟨inSteps, notPlain⟩
      · rcases path_of_added isStep before with earlier | ⟨isPath, notPlain⟩
        · exact .inl earlier
        · rw [← isPath] at notPlain
          exact .inr ⟨List.mem_cons.mpr (.inl isPath), notPlain⟩
      · exact .inr ⟨List.mem_cons_of_mem _ inSteps, notPlain⟩

/-- The context in which a selected path is resolved. -/
def SelectedPath.context (selected : SelectedPath) : FieldContext :=
  if selected.flags.functions = [] then .select else .function

/-- The expressions of a selected path, on the table of an alias. -/
def SelectedPath.expressions (tableName : String) (selected : SelectedPath) :
    List SelectedField :=
  match selected.flags.function with
  | some function => [.apply function (selected.path.fields selected.context tableName)]
  | none => (selected.path.fields selected.context tableName).map .field

theorem resolvePaths_of_selection {selection : List SelectedPath} {select built : SqlSelect}
    (resolves : classicPathResolveSelection selection join select = .ok (final, built)) :
    ∃ resolved, resolvePaths (selection.map fun selected => (selected.path, selected.context))
      join = .ok (resolved, final) := by
  induction selection generalizing join select with
  | nil =>
      cases resolves
      exact ⟨[], rfl⟩
  | cons selected selection ih =>
      rw [classicPathResolveSelection] at resolves
      rcases ok_of_bind resolves with ⟨⟨between, more⟩, isStep, behind⟩
      rw [classicPathResolveSelected] at isStep
      rcases ok_of_bind isStep with ⟨⟨fieldName, between⟩, isField, result⟩
      cases result
      rcases ih behind with ⟨rest, isRest⟩
      refine ⟨(selected.path, fieldName) :: rest, ?_⟩
      rw [List.map_cons, resolvePaths, SelectedPath.context, isField]
      simp only [bind, Except.bind, isRest]

theorem resolvePaths_tables (resolves : resolvePaths steps join = .ok (resolved, final)) :
    join.tables <+: final.tables := by
  induction steps generalizing join resolved with
  | nil =>
      cases resolves
      exact List.prefix_rfl
  | cons step steps ih =>
      rcases resolvePaths_cons resolves with ⟨_, _, _, isStep, behind, _⟩
      exact (classicPathResolve_tables isStep).trans (ih behind)

theorem fields_addField (select : SqlSelect) {selected : SelectedPath} {tableName : String}
    {fieldName : List FieldName}
    (isName : fieldName = selected.path.fields selected.context tableName) :
    (classicSqlSelectAddField select fieldName selected.flags).fields =
      select.fields ++ selected.expressions tableName := by
  cases isFunction : selected.flags.function <;>
    simp [classicSqlSelectAddField, SelectedPath.expressions, isFunction, isName]

/-- The field list gets the expressions of the selected paths on their aliases. -/
theorem fields_of_selection {selection : List SelectedPath} {select built : SqlSelect}
    (resolves : classicPathResolveSelection selection join select = .ok (middle, built))
    (kept : middle.tables <+: final.tables) :
    built.fields = select.fields ++ selection.flatMap fun selected =>
      selected.expressions (final.aliasOf selected.path) := by
  induction selection generalizing join select with
  | nil =>
      cases resolves
      rw [List.flatMap_nil, List.append_nil]
  | cons selected selection ih =>
      rw [classicPathResolveSelection] at resolves
      rcases ok_of_bind resolves with ⟨⟨between, more⟩, isStep, behind⟩
      rcases resolvePaths_of_selection behind with ⟨rest, isRest⟩
      rw [classicPathResolveSelected] at isStep
      rcases ok_of_bind isStep with ⟨⟨fieldName, between⟩, isField, result⟩
      cases result
      have isName := fields_of_resolved isField ((resolvePaths_tables isRest).trans kept)
      rw [ih behind, fields_addField select isName, List.flatMap_cons, List.append_assoc]

mutual

theorem resolvePaths_of_criteria {dialect : SqlDialect} :
    ∀ (criteria : Criteria Criterion) {join final : Join} {tokens : ConditionText},
    criteriaTokens dialect criteria join = .ok (tokens, final) →
    ∃ resolved, resolvePaths (criteria.paths.map (·, .where_)) join = .ok (resolved, final)
  | .node path criterion conjunct alternative, join, final, tokens, resolves => by
      rw [criteriaTokens] at resolves
      rcases ok_of_bind resolves with ⟨⟨fieldName, joinField⟩, atField, resolves⟩
      rcases ok_of_bind resolves with ⟨text, _, resolves⟩
      rcases ok_of_bind resolves with ⟨⟨both, joinBoth⟩, atConjunct, resolves⟩
      rcases ok_of_bind resolves with ⟨⟨either, joinEither⟩, atAlternative, resolves⟩
      cases resolves
      rcases resolvePaths_of_optional conjunct atConjunct with ⟨first, isFirst⟩
      rcases resolvePaths_of_optional alternative atAlternative with ⟨second, isSecond⟩
      refine ⟨(path, fieldName) :: (first ++ second), ?_⟩
      rw [Criteria.paths, List.map_cons, resolvePaths, atField, List.map_append]
      simp only [bind, Except.bind, resolvePaths_append isFirst isSecond]

theorem resolvePaths_of_optional {dialect : SqlDialect} :
    ∀ (criteria : Option (Criteria Criterion)) {join final : Join}
      {opening closing tokens : ConditionText},
    optionalTokens dialect opening closing criteria join = .ok (tokens, final) →
    ∃ resolved, resolvePaths ((optionalPaths criteria).map (·, .where_)) join =
      .ok (resolved, final)
  | none, join, final, _, _, tokens, resolves => by
      cases resolves
      exact ⟨[], rfl⟩
  | some criteria, join, final, _, _, tokens, resolves => by
      rcases ok_of_bind resolves with ⟨inner, isInner, result⟩
      cases result
      rw [optionalPaths]
      exact resolvePaths_of_criteria criteria isInner

end

end Resolution

section Rows

variable {E : EnumKind → Type} [Librequiem E] {store : Store} {archive : MessageArchive E}
  {topClass : Option MessageTable} {resolved : List (IdmefPath × List FieldName)} {join : Join}

theorem leftJoins_iff {table : JoinedTable} {rows : List Row} {ident : Nat} (row : Option Row) :
    table.LeftJoins rows ident row ↔
      Picked (fun row => row ∈ rows ∧ table.Joins ident row) row := by
  cases row with
  | some row => exact Iff.rfl
  | none => exact forall_congr' fun row => not_and.symm

/-- The rows of the top table are those of the messages of the query's kind. -/
theorem Holds.mem_top_iff (holds : Holds store archive) (join : Join) {row : Row} :
    row ∈ store.rows ∧ row.table.sqlName = join.topTable ↔
      ∃ ident message, (ident, message) ∈ archive.entries ∧
        message.table = join.topClass.getD .heartbeat ∧ row = ownRow ident message := by
  rw [join.topTable_eq, ← holds.mem_topRows_iff]
  refine and_congr_right fun _ => ?_
  exact ⟨fun same => Table.sqlName_injective same, fun same => same ▸ rfl⟩

/-- The join of paths whose tables are theirs, and which an archive can answer. -/
structure Answerable (archive : MessageArchive E) (topClass : Option MessageTable)
    (resolved : List (IdmefPath × List FieldName)) (join : Join) : Prop where
  grown : JoinOf topClass resolved join
  added : ∀ table ∈ join.tables, table.path ∈ resolved.map Prod.fst ∧ ¬ table.path.Plain
  shared : SharedWell topClass (resolved.map Prod.fst)
  searched : ∀ path ∈ resolved.map Prod.fst, path.Searched
  apart : ∀ entry ∈ archive.entries, ∀ path ∈ resolved.map Prod.fst, entry.2.Apart path

namespace Answerable

variable (answerable : Answerable archive topClass resolved join) {path : IdmefPath}

include answerable

omit [Librequiem E] in
theorem distinctNames : (join.tables.map JoinedTable.getName).Nodup := by
  have distinct := answerable.grown.distinct
  rw [Join.bindings, List.map_cons, List.map_map, List.nodup_cons] at distinct
  exact distinct.2

omit [Librequiem E] in
/-- A path that is not plain uses a table that is its own, and the first with that path does. -/
theorem ownTable (present : path ∈ resolved.map Prod.fst) (notPlain : ¬ path.Plain) :
    ∃ table ∈ join.tables, classicSqlJoinLookupTable join path = some table ∧
      firstUser (resolved.map Prod.fst) path = some table.path ∧
        table.bound = path.tableKey := by
  have isUser : (firstUser (resolved.map Prod.fst) path).isSome := by
    rw [firstUser, List.find?_isSome]
    refine ⟨path, List.mem_filter.mpr ⟨present, by simpa using notPlain⟩, ?_⟩
    exact decide_eq_true (IdmefPath.Shares.refl path)
  have found := answerable.grown.found path
  cases lookup : classicSqlJoinLookupTable join path with
  | none =>
      rw [classicSqlJoinLookupTable] at lookup
      rw [lookup, Option.map_none] at found
      rw [← found] at isUser
      exact absurd isUser (by simp)
  | some table =>
      have inTables := List.mem_of_find?_eq_some lookup
      have shares : path.Shares table.path := by simpa using List.find?_some lookup
      rw [classicSqlJoinLookupTable] at lookup
      rw [lookup, Option.map_some] at found
      refine ⟨table, inTables, rfl, found.symm, ?_⟩
      have isOwn : path.ComparedWhole ∨ table.path.Serves path := by
        by_cases whole : path.ComparedWhole
        · exact .inl whole
        · exact .inr (answerable.shared.1 path present notPlain whole _ found.symm)
      have bound := (answerable.grown.joined_iff notPlain inTables shares).mpr isOwn
      rw [IdmefPath.ownBound, if_neg notPlain] at bound
      exact answerable.grown.bound_unique
        (List.mem_cons_of_mem _ (List.mem_map_of_mem inTables)) bound

omit [Librequiem E] in
/-- The paths are of the kind of message that the query is about. -/
theorem sameTop (present : path ∈ resolved.map Prod.fst) :
    path.top = join.topClass.getD .heartbeat := by
  by_cases plain : path.Plain
  · rw [answerable.grown.topClass]
    exact answerable.shared.2 path present plain
  · rcases answerable.ownTable present plain with ⟨table, inTables, lookup, _, _⟩
    have shares : path.Shares table.path := by simpa using List.find?_some lookup
    rw [answerable.grown.recorded table inTables, Option.getD_some, shares.top]

variable {ident : Nat} {message : Message E}

theorem joins_iff (holds : Holds store archive) (filed : (ident, message) ∈ archive.entries)
    (sameKind : message.table = join.topClass.getD .heartbeat)
    (present : path ∈ resolved.map Prod.fst) (notPlain : ¬ path.Plain) {table : JoinedTable}
    (isBound : table.bound = path.tableKey) (row : Row) :
    row ∈ store.rows ∧ table.Joins ident row ↔ path.StandsFor ident message row :=
  holds.joins_iff filed (answerable.searched path present) notPlain
    ((answerable.sameTop present).trans sameKind.symm)
    (answerable.apart _ filed path present) isBound row

/-- What the aliases of the paths hold next to a message is a choice of its elements. -/
theorem choice_of_yields (holds : Holds store archive) {joined : JoinedRow}
    (yields : join.Yields store.rows joined) (filed : (ident, message) ∈ archive.entries)
    (sameKind : message.table = join.topClass.getD .heartbeat)
    (isTop : joined.top = ownRow ident message) :
    Choice (resolved.map Prod.fst) ident message fun path =>
      joined.row (join.aliasOf path) := by
  have isIdent : joined.top.messageIdent = ident := by rw [isTop]; rfl
  have isJoined : OuterJoined join.tables
      (fun table row => row ∈ store.rows ∧ table.Joins ident row) joined.tables := by
    refine ⟨yields.tables, fun entry inTables => ?_⟩
    rw [← leftJoins_iff, ← isIdent]
    exact yields.each entry inTables
  have behind : ∀ {path table}, ¬ path.Plain → classicSqlJoinLookupTable join path = some table →
      joined.row (join.aliasOf path) = pickOf JoinedTable.getName joined.tables table.getName := by
    intro path table notPlain lookup
    rw [Join.aliasOf, if_neg notPlain, lookup, Option.elim_some, JoinedRow.row,
      if_neg (getName_ne_topTable table)]
    rfl
  constructor
  · intro path present
    by_cases plain : path.Plain
    · rw [Join.aliasOf, if_pos plain, JoinedRow.row, if_pos rfl]
      refine ⟨(answerable.sameTop present).trans sameKind.symm, ?_⟩
      rw [if_pos plain]
      exact isTop
    · rcases answerable.ownTable present plain with ⟨table, inTables, lookup, _, isBound⟩
      rw [behind plain lookup]
      refine (Picked.congr (fun row => ?_) _).mp
        (isJoined.picked JoinedTable.getName answerable.distinctNames inTables)
      exact answerable.joins_iff holds filed sameKind present plain isBound row
  · intro path present notPlain first isFirst
    rcases answerable.ownTable present notPlain with ⟨table, inTables, lookup, isUser, _⟩
    obtain rfl := Option.mem_unique isFirst isUser
    rw [classicSqlJoinLookupTable] at lookup
    have shares : path.Shares table.path := by simpa using List.find?_some lookup
    have firstLookup : classicSqlJoinLookupTable join table.path = some table :=
      find?_of_narrower lookup (decide_eq_true (IdmefPath.Shares.refl table.path))
        fun other isOther => decide_eq_true (shares.trans (of_decide_eq_true isOther))
    rw [behind notPlain lookup, behind (answerable.added table inTables).2 firstLookup]

/-- Every choice of elements is in a row of the `FROM` clause. -/
theorem yields_of_choice (holds : Holds store archive)
    (filed : (ident, message) ∈ archive.entries)
    (sameKind : message.table = join.topClass.getD .heartbeat)
    {pick : IdmefPath → Option Row} (choice : Choice (resolved.map Prod.fst) ident message pick) :
    ∃ joined, join.Yields store.rows joined ∧ joined.top = ownRow ident message ∧
      ∀ path ∈ resolved.map Prod.fst, joined.row (join.aliasOf path) = pick path := by
  have isJoined : OuterJoined join.tables
      (fun table row => row ∈ store.rows ∧ table.Joins ident row)
      (join.tables.map fun table => (table, pick table.path)) := by
    refine .of_picks fun table inTables => ?_
    rcases answerable.added table inTables with ⟨present, notPlain⟩
    refine (Picked.congr (fun row => ?_) _).mpr (choice.each table.path present)
    exact answerable.joins_iff holds filed sameKind present notPlain
      (answerable.grown.own table inTables) row
  refine ⟨⟨ownRow ident message, join.tables.map fun table => (table, pick table.path)⟩,
    ⟨?_, isJoined.tables, fun entry inTables => ?_⟩, rfl, fun path present => ?_⟩
  · exact (holds.mem_top_iff join).mpr ⟨ident, message, filed, sameKind, rfl⟩
  · exact (leftJoins_iff entry.2).mpr (isJoined.each entry inTables)
  · by_cases plain : path.Plain
    · have isOwn : ∀ row, path.StandsFor ident message row → row = ownRow ident message := by
        rintro row ⟨_, isRow⟩
        rwa [if_pos plain] at isRow
      have ownStands : path.StandsFor ident message (ownRow ident message) := by
        refine ⟨(answerable.sameTop present).trans sameKind.symm, ?_⟩
        rw [if_pos plain]
      have picked := choice.each path present
      rw [Join.aliasOf, if_pos plain, JoinedRow.row, if_pos rfl]
      cases isPick : pick path with
      | none =>
          rw [isPick] at picked
          exact absurd ownStands (picked _)
      | some row =>
          rw [isPick] at picked
          rw [isOwn row picked]
    · rcases answerable.ownTable present plain with ⟨table, inTables, lookup, isUser, _⟩
      rw [choice.shared path present plain table.path isUser, Join.aliasOf, if_neg plain, lookup,
        Option.elim_some, JoinedRow.row, if_neg (getName_ne_topTable table)]
      exact pickOf_map JoinedTable.getName _ answerable.distinctNames inTables

end Answerable

end Rows

end RequiemDB
