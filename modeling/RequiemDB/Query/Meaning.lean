import RequiemDB.Query.BrokenDownTime
import RequiemDB.Query.Complement
import RequiemDB.Query.Matching

/-!
# What a condition says of a row of the join

Every comparison of a criterion is about the field that its path resolves to. Read on a row of
the join, the text of criteria therefore says what the criteria say of the rows behind the
aliases of their paths.
-/

namespace RequiemDB

open Lib

section Fields

/-- The text of a criterion is the same for every field but for the field itself. -/
def Uniform (text : String → ConditionText) : Prop :=
  ∀ field, text field = (text "").map (ConditionToken.map (Comparison.onField field))

variable {dialect : SqlDialect}

theorem Uniform.atom {comparison : String → Comparison}
    (same : ∀ field, comparison field = (comparison "").onField field) :
    Uniform fun field => [.atom (comparison field)] := fun field =>
  congrArg (fun comparison => [ConditionToken.atom comparison]) (same field)

theorem Uniform.conjunction {comparisons : List (String → Comparison)}
    (same : ∀ comparison ∈ comparisons, ∀ field,
      comparison field = (comparison "").onField field) :
    Uniform (buildConjunction comparisons) := by
  intro field
  induction comparisons with
  | nil => rfl
  | cons comparison comparisons ih =>
      rcases List.forall_mem_cons.mp same with ⟨here, later⟩
      rcases comparisons with _ | ⟨next, rest⟩
      · exact Uniform.atom here field
      · have unfolded : ∀ field, buildConjunction (comparison :: next :: rest) field =
            .atom (comparison field) :: .and :: buildConjunction (next :: rest) field :=
          fun _ => rfl
        rw [unfolded field, unfolded "", ih later, here field]
        rfl

theorem onField_of_constraint {backend : Backend} {operator : CriterionOperator}
    {literal : Literal} {comparison : String → Comparison}
    (built : buildConstraintString backend operator literal = .ok comparison) (field : String) :
    comparison field = (comparison "").onField field := by
  rcases buildConstraintString_shape built with ⟨text, ⟨rfl, _⟩ | ⟨rfl, _⟩⟩
  · rfl
  · rfl

theorem uniform_brokenDownTimeEqual {time : Tm} {text : String → ConditionText}
    (built : buildCriterionBrokenDownTimeEqual dialect ⟨.equal, false, false⟩ time = .ok text) :
    Uniform text := by
  rw [buildCriterionBrokenDownTimeEqual_eq, Except.ok.injEq] at built
  subst built
  refine .conjunction fun comparison present field => ?_
  rcases List.mem_map.mp present with ⟨entry, _, rfl⟩
  rcases dialect with ⟨_ | _ | _, _, _⟩ <;> rfl

theorem uniform_buildCriterionValue {operator : CriterionOperator} {value : CriterionValue}
    {text : String → ConditionText}
    (built : buildCriterionValue dialect operator value = .ok text) : Uniform text := by
  cases value with
  | value value =>
      rcases ok_of_bind built with ⟨literal, _, rest⟩
      rcases ok_of_bind rest with ⟨comparison, isComparison, result⟩
      cases result
      exact .atom (onField_of_constraint isComparison)
  | regex regex =>
      rcases ok_of_bind built with ⟨literal, _, rest⟩
      rcases ok_of_bind rest with ⟨comparison, isComparison, result⟩
      cases result
      exact .atom (onField_of_constraint isComparison)
  | brokenDownTime time =>
      simp only [buildCriterionValue, buildCriterionBrokenDownTime] at built
      split at built
      · next isEqual =>
          rw [isEqual] at built
          exact uniform_brokenDownTimeEqual built
      · split at built
        · rcases ok_of_bind built with ⟨inner, isInner, result⟩
          cases result
          intro field
          simp only [uniform_brokenDownTimeEqual isInner field, List.map_append]
          rfl
        · exact absurd built (by simp)

theorem uniform_buildCriterionString {criterion : Criterion} {text : String → ConditionText}
    (built : buildCriterionString dialect criterion = .ok text) : Uniform text := by
  simp only [buildCriterionString] at built
  split at built
  · cases built
    exact .atom fun _ => rfl
  · split at built
    · rcases ok_of_bind built with ⟨inner, isInner, result⟩
      cases result
      intro field
      simp only [uniform_buildCriterionValue isInner field, List.map_append]
      rfl
    · exact uniform_buildCriterionValue built

/-- What a comparison says depends on the cell, and not on what its field is called. -/
theorem reads_onField {backend : Backend} (server : SqlServer backend)
    (cell : Option server.Value) (field : String) (comparison : Comparison) :
    server.reads cell (comparison.onField field) = server.reads cell comparison := by
  cases comparison with
  | null other operator =>
      rw [Comparison.onField]
      unfold SqlServer.reads
      split <;> simp_all
  | _ => rfl

theorem truth_onField {backend : Backend} (server : SqlServer backend)
    (cell : Option server.Value) (field : String) (comparison : Comparison) :
    server.truth cell (comparison.onField field) = server.truth cell comparison := by
  rw [SqlServer.truth, SqlServer.truth, reads_onField]

/-- Read on the field of a cell, a criterion has its own truth value. -/
theorem readOwn_criterion {criterion : Criterion} {text : String → ConditionText}
    (built : buildCriterionString dialect criterion = .ok text) (set : criterion.TimeSet)
    {server : SqlServer dialect.backend} {assignment : Comparison → Truth}
    {cell : Option server.Value} {field : String}
    (isCell : ∀ comparison, assignment (comparison.onField field) = server.truth cell comparison) :
    readOwn assignment (text field) = .ok (criterion.truth dialect server cell) := by
  rcases conjunction_buildCriterionString built set "" with ⟨meaning, isConjunction⟩
  rcases isConjunction.parse with ⟨condition, parsed, _⟩
  have onCell : (fun comparison => assignment (Comparison.onField field comparison)) =
      server.truth cell := funext isCell
  simp [readOwn, ownValue, Criterion.truth, built, uniform_buildCriterionString built field,
    parseCondition_map, parsed, Condition.eval_map, onCell]

end Fields

section Columns

/-- In a condition a path has one column. -/
theorem IdmefPath.fields_where (path : IdmefPath) :
    ∃ name, ∀ tableName, path.fields .where_ tableName = [.column tableName name] := by
  by_cases plain : path.Plain
  · exact ⟨path.leafName, fun _ => by rw [fields, if_pos plain]; rfl⟩
  · have resolved : ∀ tableName, path.fields .where_ tableName =
        (searchPath path).resolveFieldName path .where_ tableName := fun _ => by
      rw [fields, if_neg plain]
    have default : ∃ name, ∀ tableName, defaultFieldNameResolver path .where_ tableName =
        [.column tableName name] := ⟨path.leafName, fun _ => rfl⟩
    simp only [resolved, searchPath]
    split
    · simp only [messageFieldNameResolver]
      split
      · exact ⟨"time", fun _ => rfl⟩
      · exact default
    · simp only [messageFieldNameResolver]
      split
      · exact ⟨"time", fun _ => rfl⟩
      · exact default
    · exact default
    · exact ⟨_, fun _ => rfl⟩
    · exact default
    · exact ⟨_, fun _ => rfl⟩
    · simp only [fileFieldNameResolver]
      split
      · exact ⟨path.leafName, fun _ => rfl⟩
      · exact default
    · exact default
    · exact default

/-- The column of another table, by the same name. -/
def FieldName.inTable (tableName : String) : FieldName → FieldName
  | .zero => .zero
  | .column _ name => .column tableName name

/-- The columns of a path have the same names in every table. -/
theorem IdmefPath.fields_inTable (path : IdmefPath) (context : FieldContext)
    (tableName : String) :
    path.fields context tableName = (path.fields context "").map (FieldName.inTable tableName) := by
  have default : defaultFieldNameResolver path context tableName =
      (defaultFieldNameResolver path context "").map (FieldName.inTable tableName) := rfl
  have message : messageFieldNameResolver path context tableName =
      (messageFieldNameResolver path context "").map (FieldName.inTable tableName) := by
    simp only [messageFieldNameResolver]
    split
    · simp only [timeWithUsecFieldNameResolver]
      split <;> rfl
    · exact default
  have file : fileFieldNameResolver path context tableName =
      (fileFieldNameResolver path context "").map (FieldName.inTable tableName) := by
    simp only [fileFieldNameResolver]
    split
    · simp only [timeWithoutUsecFieldNameResolver]
      split <;> rfl
    · exact default
  simp only [fields]
  split
  · exact default
  · simp only [searchPath]
    split
    · exact message
    · exact message
    · exact default
    · rfl
    · exact default
    · rfl
    · exact file
    · exact default
    · exact default

/-- The alias and the column are read back where the alias has no dot. -/
theorem FieldName.read_text {tableName name : String} (noDot : '.' ∉ tableName.toList) :
    FieldName.read (FieldName.column tableName name).text = .column tableName name := by
  have characters : (FieldName.column tableName name).text.toList =
      tableName.toList ++ '.' :: name.toList := by
    simp [FieldName.text]
  have before : ∀ char ∈ tableName.toList, decide (char ≠ '.') = true := fun char present =>
    decide_eq_true fun isDot => noDot (isDot ▸ present)
  rw [FieldName.read, characters, List.takeWhile_append_of_pos before,
    List.dropWhile_append_of_pos before]
  simp

end Columns

section Aliases

/-- The alias that a path uses in a join. -/
def Join.aliasOf (join : Join) (path : IdmefPath) : String :=
  if path.Plain then "top_table"
  else (classicSqlJoinLookupTable join path).elim "" JoinedTable.getName

theorem noDot_getName (table : JoinedTable) : '.' ∉ table.getName.toList := by
  intro present
  have characters : table.getName.toList = 't' :: Nat.toDigits 10 table.number := by
    simp [JoinedTable.getName, Nat.repr]
  rw [characters] at present
  rcases List.mem_cons.mp present with isLetter | inNumber
  · exact absurd isLetter (by decide)
  · exact absurd (Nat.isDigit_of_mem_toDigits (by decide) (by decide) inNumber) (by decide)

theorem Join.noDot_aliasOf (join : Join) (path : IdmefPath) :
    '.' ∉ (join.aliasOf path).toList := by
  rw [aliasOf]
  split
  · decide
  · cases classicSqlJoinLookupTable join path with
    | none => decide
    | some table => exact noDot_getName table

theorem lookupTable_of_prefix {join final : Join} {path : IdmefPath} {table : JoinedTable}
    (kept : join.tables <+: final.tables)
    (found : classicSqlJoinLookupTable join path = some table) :
    classicSqlJoinLookupTable final path = some table := by
  rcases kept with ⟨added, isFinal⟩
  rw [classicSqlJoinLookupTable] at found ⊢
  rw [← isFinal, List.find?_append, found, Option.some_or]

theorem IdmefPath.Shares.refl (path : IdmefPath) : path.Shares path :=
  ⟨rfl, by split <;> rfl⟩

/-- The table that a path is given is the one that is found for it afterwards. -/
theorem lookupTable_of_joinedTable {path : IdmefPath} {join joined : Join} {table : JoinedTable}
    (isTable : joinedTable path join = .ok (table, joined)) :
    classicSqlJoinLookupTable joined path = some table := by
  rw [joinedTable] at isTable
  split at isTable
  · next found =>
      cases isTable
      exact found
  · next missing =>
      rcases classicSqlJoinNewTable_ok isTable with ⟨isPath, _, _, tables, _⟩
      rw [classicSqlJoinLookupTable] at missing ⊢
      rw [tables, List.find?_append, missing, Option.none_or, List.find?_cons_of_pos]
      rw [isPath]
      exact decide_eq_true (IdmefPath.Shares.refl path)

/-- The columns that a path resolves to are those of its alias in the finished join. -/
theorem fields_of_resolved {path : IdmefPath} {context : FieldContext} {join joined final : Join}
    {fieldName : List FieldName}
    (resolved : classicPathResolve path context join = .ok (fieldName, joined))
    (kept : joined.tables <+: final.tables) :
    fieldName = path.fields context (final.aliasOf path) := by
  rw [IdmefPath.fields, Join.aliasOf]
  rw [classicPathResolve] at resolved
  split at resolved
  · next plain =>
      cases resolved
      rw [if_pos plain, if_pos plain]
  · next notPlain =>
      rcases ok_of_bind resolved with ⟨⟨table, joinedTo⟩, isTable, result⟩
      cases result
      rw [if_neg notPlain, if_neg notPlain,
        lookupTable_of_prefix kept (lookupTable_of_joinedTable isTable)]
      rfl

end Aliases

section Truth

variable {Criterion : Type} {own other : IdmefPath → Criterion → Truth}

mutual

/-- What criteria say depends on what their criterions say of their paths. -/
theorem Criteria.truth_congr : ∀ criteria : Criteria Criterion,
    (∀ path ∈ criteria.paths, own path = other path) → criteria.truth own = criteria.truth other
  | .node path criterion conjunct alternative, same => by
      simp only [Criteria.paths, List.forall_mem_cons, List.forall_mem_append] at same
      rcases same with ⟨here, inConjunct, inAlternative⟩
      rw [Criteria.truth, Criteria.truth, here, optionalTruth_congr conjunct inConjunct,
        optionalTruth_congr alternative inAlternative]

theorem optionalTruth_congr {connect : Truth → Truth → Truth} {left : Truth} :
    ∀ criteria : Option (Criteria Criterion),
    (∀ path ∈ optionalPaths criteria, own path = other path) →
    optionalTruth own connect left criteria = optionalTruth other connect left criteria
  | none, _ => by rw [optionalTruth, optionalTruth]
  | some criteria, same => by
      rw [optionalPaths] at same
      rw [optionalTruth, optionalTruth, Criteria.truth_congr criteria same]

end

end Truth

section Criteria

/-- Each criterion, on the columns of its path in a join, reads as its own value. -/
def ReadsOwn (dialect : SqlDialect) (final : Join) (assignment : Comparison → Truth)
    (own : IdmefPath → Criterion → Truth) : Prop :=
  ∀ path criterion text, buildCriterionString dialect criterion = .ok text → criterion.TimeSet →
    readOwn assignment (text (fieldText (path.fields .where_ (final.aliasOf path)))) =
      .ok (own path criterion)

variable {dialect : SqlDialect} {final : Join} {assignment : Comparison → Truth}
  {own : IdmefPath → Criterion → Truth}

theorem criteriaTokens_tables {criteria : Criteria Criterion} {join joined : Join}
    {tokens : ConditionText}
    (resolved : criteriaTokens dialect criteria join = .ok (tokens, joined)) :
    join.tables <+: joined.tables := by
  have characters := classicPathResolveCriteria_eq dialect criteria join
  rw [resolved] at characters
  exact classicPathResolveCriteria_tables criteria characters

theorem optionalTokens_tables {criteria : Option (Criteria Criterion)} {join joined : Join}
    {opening closing tokens : ConditionText}
    (resolved : optionalTokens dialect opening closing criteria join = .ok (tokens, joined)) :
    join.tables <+: joined.tables := by
  cases criteria with
  | none =>
      cases resolved
      exact List.prefix_rfl
  | some criteria =>
      rcases ok_of_bind resolved with ⟨inner, isInner, result⟩
      cases result
      exact criteriaTokens_tables isInner

mutual

/-- Where each criterion has its own value, the criteria have that of the tree. -/
theorem criteriaValue_eq (reads : ReadsOwn dialect final assignment own) :
    ∀ (criteria : Criteria Criterion) {join joined : Join} {tokens : ConditionText},
    criteria.TimesSet →
    criteriaTokens dialect criteria join = .ok (tokens, joined) →
    joined.tables <+: final.tables →
    criteriaValue dialect assignment criteria join = .ok (criteria.truth own, joined)
  | .node path criterion conjunct alternative, join, joined, tokens, set, resolved, kept => by
      rw [Criteria.TimesSet] at set
      rcases set with ⟨isSet, conjunctSet, alternativeSet⟩
      rw [criteriaTokens] at resolved
      rcases ok_of_bind resolved with ⟨⟨fieldName, joinField⟩, atField, resolved⟩
      rcases ok_of_bind resolved with ⟨text, built, resolved⟩
      rcases ok_of_bind resolved with ⟨⟨both, joinBoth⟩, atConjunct, resolved⟩
      rcases ok_of_bind resolved with ⟨⟨either, joinEither⟩, atAlternative, resolved⟩
      cases resolved
      have bothKept := (optionalTokens_tables atAlternative).trans kept
      have fieldKept := (optionalTokens_tables atConjunct).trans bothKept
      have isOwn := reads path criterion text built isSet
      rw [← fields_of_resolved atField fieldKept] at isOwn
      have isBoth := optionalValue_eq reads conjunct Truth.and (own path criterion) conjunctSet
        atConjunct bothKept
      have isEither := optionalValue_eq reads alternative Truth.or
        (optionalTruth own Truth.and (own path criterion) conjunct) alternativeSet atAlternative
        kept
      rw [criteriaValue, atField, Criteria.truth]
      simp only [bind, Except.bind, built, isOwn, isBoth, isEither]

theorem optionalValue_eq (reads : ReadsOwn dialect final assignment own) :
    ∀ (criteria : Option (Criteria Criterion)) (connect : Truth → Truth → Truth) (left : Truth)
      {join joined : Join} {opening closing tokens : ConditionText},
    optionalTimesSet criteria →
    optionalTokens dialect opening closing criteria join = .ok (tokens, joined) →
    joined.tables <+: final.tables →
    optionalValue dialect assignment connect left criteria join =
      .ok (optionalTruth own connect left criteria, joined)
  | none, connect, left, join, joined, _, _, tokens, _, resolved, _ => by
      cases resolved
      rw [optionalValue, optionalTruth]
  | some criteria, connect, left, join, joined, _, _, tokens, set, resolved, kept => by
      rw [optionalTimesSet] at set
      rcases ok_of_bind resolved with ⟨⟨inner, joinInner⟩, isInner, result⟩
      cases result
      rw [optionalValue, criteriaValue_eq reads criteria set isInner kept, optionalTruth]
      rfl

end

/-- Read on its own, the text of criteria has the value of the tree. -/
theorem ownValue_criteria (reads : ReadsOwn dialect final assignment own)
    {criteria : Criteria Criterion} {join : Join} {tokens : ConditionText}
    (set : criteria.TimesSet)
    (resolved : criteriaTokens dialect criteria join = .ok (tokens, final)) :
    ownValue assignment tokens = some (criteria.truth own) := by
  rcases compiles_criteria dialect criteria set join final tokens resolved with
    ⟨meaning, isConjunction, value⟩
  have same := (value assignment).symm.trans
    (criteriaValue_eq reads criteria set resolved List.prefix_rfl)
  rcases isConjunction.parse with ⟨condition, parsed, isValue⟩
  rw [Except.ok.injEq, Prod.mk.injEq] at same
  rw [ownValue, parsed, Option.map_some, isValue, same.1]

/-- On a row of the join a criterion reads as it judges the row behind the alias of its path. -/
theorem readsOwn_judges (server : SearchServer dialect.backend) (final : Join)
    (joined : JoinedRow) :
    ReadsOwn dialect final
      (fun comparison => server.values.truth
        (server.content (server.fieldCell joined comparison.field)) comparison)
      (server.judges fun path => joined.row (final.aliasOf path)) := by
  intro path criterion text built set
  rcases path.fields_where with ⟨name, fields⟩
  rw [fields, SearchServer.judges, SearchServer.cells, fields]
  refine readOwn_criterion built set fun comparison => ?_
  rw [truth_onField, Comparison.field_onField, SearchServer.fieldCell]
  have noDot := final.noDot_aliasOf path
  simp only [fieldText, List.map_cons, List.map_nil, String.intercalate_singleton,
    FieldName.read_text noDot]
  rfl

end Criteria

end RequiemDB
