import RequiemDB.Query.Keys

/-!
# What a joined table selects

The `ON` clause of a joined table is put to the rows that are written for a
message: it compares the indexes of the path with the positions of the element,
level by level. One level escapes it, that of the file access of a permission.
-/

namespace RequiemDB

open Lib

/-- The constraint on `_index` or `_parentN_index`; a comparison with NULL does not hold. -/
def IndexConstraint.Holds (constraint : IndexConstraint) (row : Row) : Prop :=
  ∃ value ∈ constraint.parentLevel.elim row.index (row.parents[·]?),
    if constraint.different then value ≠ constraint.index else value = constraint.index

instance (constraint : IndexConstraint) (row : Row) : Decidable (constraint.Holds row) :=
  inferInstanceAs (Decidable (∃ value ∈ _, _))

/-- The rows that `classic_joined_table_to_string` joins with the row of a message. -/
def JoinedTable.Joins (table : JoinedTable) (ident : Nat) (row : Row) : Prop :=
  row.table.sqlName = table.tableName ∧
    (∀ letter ∈ table.parentType, row.parentType = some letter) ∧ row.messageIdent = ident ∧
      ∀ constraint ∈ table.indexConstraints, constraint.Holds row

instance (table : JoinedTable) (ident : Nat) (row : Row) : Decidable (table.Joins ident row) :=
  inferInstanceAs (Decidable (_ ∧ _ ∧ _ ∧ _))

/-- An index stands for a position; the last element's copy at -1 is none of the list. -/
def PathIndex.Covers : PathIndex → Option Int → Prop
  | .forbidden, none => True
  | .undefined, some position => position ≠ -1
  | .number index, some position => position = index
  | _, _ => False

instance : ∀ (index : PathIndex) (position : Option Int), Decidable (index.Covers position)
  | .forbidden, none => inferInstanceAs (Decidable True)
  | .undefined, some position => inferInstanceAs (Decidable (position ≠ -1))
  | .number index, some position => inferInstanceAs (Decidable (position = index))
  | .forbidden, some _ | .undefined, none | .number _, none => inferInstanceAs (Decidable False)

/-- The element at a place is one that the path stands for. -/
def IdmefPath.Addresses (path : IdmefPath) (top : MessageTable) (place : Place) : Prop :=
  path.top = top ∧ List.Forall₂
    (fun element step => element.name = step.1 ∧ element.index.Covers step.2) path.rowElements place

instance (path : IdmefPath) (top : MessageTable) (place : Place) :
    Decidable (path.Addresses top place) :=
  inferInstanceAs (Decidable (_ ∧ _))

section Constraints

variable {row : Row}

/-- One comparison holds when the index stands for the position in that column. -/
theorem addIndexConstraint_hold_iff {level : Option Nat} {index : PathIndex}
    {position : Option Int} (flag : decide (index ≠ .forbidden) = position.isSome)
    (column : position = none ∨ position = level.elim row.index (row.parents[·]?)) :
    (∀ constraint ∈ addIndexConstraint level index, constraint.Holds row) ↔
      index.Covers position := by
  cases index with
  | forbidden =>
      have isNone : position = none := by simpa using flag.symm
      simp [addIndexConstraint, isNone, PathIndex.Covers]
  | undefined =>
      rcases Option.isSome_iff_exists.mp (flag.symm.trans (by simp)) with ⟨value, rfl⟩
      have isValue := column.resolve_left (by simp)
      simp [addIndexConstraint, IndexConstraint.Holds, ← isValue, PathIndex.Covers]
  | number index =>
      rcases Option.isSome_iff_exists.mp (flag.symm.trans (by simp)) with ⟨value, rfl⟩
      have isValue := column.resolve_left (by simp)
      simp [addIndexConstraint, IndexConstraint.Holds, ← isValue, PathIndex.Covers]

/-- The comparisons with the parent columns, from a level on. -/
theorem parentConstraints_hold_iff {level : Nat} {indexes : List PathIndex}
    {positions : List (Option Int)} {more : List Int}
    (flags : indexes.map (fun index => decide (index ≠ .forbidden)) = positions.map Option.isSome)
    (parents : row.parents.drop level = positions.filterMap id ++ more) :
    (∀ constraint ∈ parentConstraints level indexes, constraint.Holds row) ↔
      List.Forall₂ PathIndex.Covers indexes positions := by
  induction indexes generalizing level positions with
  | nil =>
      have none : positions = [] := by simpa using flags.symm
      simp [parentConstraints, none]
  | cons index indexes ih =>
      rcases positions with _ | ⟨position, positions⟩
      · simp at flags
      · rw [List.map_cons, List.map_cons, List.cons.injEq] at flags
        rw [List.forall₂_cons]
        cases position with
        | none =>
            have isForbidden : index = .forbidden := by simpa using flags.1
            rw [isForbidden, parentConstraints, ih flags.2 (by simpa using parents)]
            simp [PathIndex.Covers]
        | some position =>
            have isListed : index ≠ .forbidden := by simpa using flags.1
            have here : row.parents[level]? = some position := by
              rw [← Nat.add_zero level, ← List.getElem?_drop, parents]
              rfl
            have later : row.parents.drop (level + 1) = positions.filterMap id ++ more := by
              rw [← List.drop_drop, parents]
              rfl
            have split : parentConstraints level (index :: indexes) =
                addIndexConstraint (some level) index ++ parentConstraints (level + 1) indexes := by
              cases index <;> first | exact absurd rfl isListed | rfl
            have column : some position = none ∨
                some position = (some level).elim row.index (row.parents[·]?) :=
              .inr here.symm
            rw [split, List.forall_mem_append, ih flags.2 later,
              addIndexConstraint_hold_iff flags.1 column]

end Constraints

theorem parentConstraints_append_forbidden (level : Nat) (indexes : List PathIndex) :
    parentConstraints level (indexes ++ [.forbidden]) = parentConstraints level indexes := by
  induction indexes generalizing level with
  | nil => rfl
  | cons index indexes ih => cases index <;> simp [parentConstraints, ih]

/-- The path ends in a list of strings of a class that is listed itself: in a permission. -/
def IdmefPath.EndsInPermission (path : IdmefPath) : Prop :=
  path.leafIndex ≠ .forbidden ∧ path.getIndex (path.getDepth - 2) ≠ .forbidden

instance (path : IdmefPath) : Decidable path.EndsInPermission := inferInstanceAs (Decidable (_ ∧ _))

theorem forall₂_concat_iff {α β : Type} {R : α → β → Prop} {left : List α} {right : List β} {x : α}
    {y : β} (lengths : left.length = right.length) :
    List.Forall₂ R (left ++ [x]) (right ++ [y]) ↔ List.Forall₂ R left right ∧ R x y := by
  induction left generalizing right with
  | nil =>
      have none : right = [] := List.length_eq_zero_iff.mp lengths.symm
      simp [none]
  | cons first left ih =>
      rcases right with _ | ⟨second, right⟩
      · simp at lengths
      · rw [List.cons_append, List.cons_append, List.forall₂_cons, List.forall₂_cons,
          ih (by simpa using lengths), and_assoc]

/-- Chains and lists of strings are told apart by their names. -/
theorem chain_of_names {chain found : List ClassId} {list other : Option String}
    (isList : ∀ name, list = some name → ∃ owner : ClassId, name ∈ owner.listedNames)
    (isOther : ∀ name, other = some name → ∃ owner : ClassId, name ∈ owner.listedNames)
    (same : chain.map ClassId.name ++ list.toList = found.map ClassId.name ++ other.toList) :
    chain = found ∧ list = other := by
  have noList : ∀ (id : ClassId) (rest : List ClassId) (first second : Option String),
      (∀ name, first = some name → ∃ owner : ClassId, name ∈ owner.listedNames) →
        first.toList ≠ (id :: rest).map ClassId.name ++ second.toList := by
    intro id rest first second isFirst same
    rcases first with _ | name
    · simp at same
    · simp only [Option.toList_some, List.map_cons, List.cons_append, List.cons.injEq] at same
      rcases isFirst name rfl with ⟨owner, present⟩
      exact name_notMem_listedNames id owner (same.1 ▸ present)
  induction chain generalizing found with
  | nil =>
      rcases found with _ | ⟨second, found⟩
      · rcases list with _ | name <;> rcases other with _ | otherName <;> simp_all
      · exact absurd same (noList second found list other isList)
  | cons first chain ih =>
      rcases found with _ | ⟨second, found⟩
      · exact absurd same.symm (noList first chain other list isOther)
      · simp only [List.map_cons, List.cons_append, List.cons.injEq] at same
        rcases ih same.2 with ⟨rfl, sameList⟩
        exact ⟨by rw [ClassId.name_injective same.1], sameList⟩

theorem ClassId.map_fst_steps (id : ClassId) (chain : List ClassId) :
    (id.steps chain).map Prod.fst = chain.map ClassId.name := by
  induction chain generalizing id with
  | nil => rfl
  | cons next chain ih => rw [steps, List.map_cons, List.map_cons, ih]

theorem ElementTable.list_mem {id : ClassId} {list : Option String} {table : Table}
    (isTable : ElementTable id list table) {name : String} (isList : list = some name) :
    name ∈ id.listedNames := by
  have all : ∀ entry ∈ listTables, entry.2.1 ∈ entry.1.listedNames := by
    decide
  cases isTable with
  | cls => exact absurd isList (by simp)
  | list inTables =>
      rw [← Option.some.inj isList]
      exact all _ inTables

theorem PathIndex.Covers.flag {index : PathIndex} {position : Option Int}
    (covers : index.Covers position) : decide (index ≠ .forbidden) = position.isSome := by
  cases index <;> cases position <;> simp_all [PathIndex.Covers]

/-- Covered elements have the names of the place, and lists where it has them. -/
theorem names_of_covered {elements : List PathElement} {place : Place}
    (covered : List.Forall₂ (fun element step => element.name = step.1 ∧
      element.index.Covers step.2) elements place) :
    elements.map PathElement.name = place.map Prod.fst ∧
      elements.map (fun element => (element.name, decide (element.index ≠ .forbidden))) =
        place.map (fun step => (step.1, step.2.isSome)) := by
  induction covered with
  | nil => exact ⟨rfl, rfl⟩
  | cons here later ih =>
      rcases ih with ⟨names, flags⟩
      refine ⟨?_, ?_⟩
      · rw [List.map_cons, List.map_cons, here.1, names]
      · rw [List.map_cons, List.map_cons, here.1, here.2.flag, flags]

section Joined

variable {path : IdmefPath} {before : List PathElement} {leaf : PathElement}
  {chain : List ClassId} {ident : Nat} {entry : Place × Row}

/-- The element in front of the last one. -/
theorem Through.exists_parent (through : Through path before leaf chain) :
    ∃ front parent, before = front ++ [parent] ∧ path.getDepth = front.length + 3 ∧
      path.getIndex (path.getDepth - 2) = parent.index := by
  have length := through.length_before
  rcases List.eq_nil_or_concat before with rfl | ⟨front, parent, isBefore⟩
  · exact absurd (List.length_eq_zero_iff.mp length.symm) through.notEmpty
  rw [List.concat_eq_append] at isBefore
  subst isBefore
  have depth : path.getDepth = front.length + 3 := by
    rw [List.length_append, List.length_singleton] at length
    rw [through.depth]
    omega
  refine ⟨front, parent, rfl, depth, ?_⟩
  rw [IdmefPath.getIndex, through.elements, depth]
  simp

/-- The constraints of a path that does not end in a permission, by the elements down to its row. -/
theorem Through.resolveIndexes (through : Through path before leaf chain)
    (ordinary : ¬ path.EndsInPermission) {outer : List PathElement} {last : PathElement}
    (isLast : path.rowElements = outer ++ [last]) :
    RequiemDB.resolveIndexes path = parentConstraints 0 (outer.map PathElement.index) ++
      addIndexConstraint none last.index := by
  rcases through.exists_parent with ⟨front, parent, rfl, depth, atParent⟩
  have parents : ((path.elements.map PathElement.index).take (path.getDepth - 2)).drop 1 =
      front.map PathElement.index := by
    rw [through.elements, depth]
    simp
  have atLeaf := through.leafIndex
  rw [IdmefPath.leafIndex] at atLeaf
  rw [RequiemDB.resolveIndexes, parents, atLeaf, atParent]
  rw [through.rowElements] at isLast
  by_cases listed : leaf.index = .forbidden
  · rw [if_pos listed, List.append_nil] at isLast
    rcases List.append_inj' isLast rfl with ⟨rfl, same⟩
    rw [List.singleton_inj.mp same, if_neg (not_not.mpr listed)]
  · rw [if_neg listed] at isLast
    rcases List.append_inj' isLast rfl with ⟨rfl, same⟩
    have forbidden : parent.index = .forbidden := by
      by_contra parentListed
      exact ordinary ⟨by rwa [through.leafIndex], by rwa [atParent]⟩
    rw [List.singleton_inj.mp same] at listed ⊢
    rw [if_pos listed, List.map_append, List.map_singleton, forbidden,
      parentConstraints_append_forbidden]

/--
With names and lists in common, an element is addressed where the indexes cover the
positions.
-/
theorem addresses_iff (place : Place)
    (steps :
      path.rowElements.map (fun element => (element.name, decide (element.index ≠ .forbidden))) =
      place.map fun step => (step.1, step.2.isSome)) :
    path.Addresses path.top place ↔
      List.Forall₂ PathIndex.Covers (path.rowElements.map PathElement.index)
        (place.map Prod.snd) := by
  have names : ∀ elements : List PathElement, ∀ place : Place,
      elements.map (fun element => (element.name, decide (element.index ≠ .forbidden))) =
        place.map (fun step => (step.1, step.2.isSome)) →
      (List.Forall₂ (fun element step => element.name = step.1 ∧ element.index.Covers step.2)
        elements place ↔
          List.Forall₂ PathIndex.Covers (elements.map PathElement.index) (place.map Prod.snd)) := by
    intro elements
    induction elements with
    | nil =>
        intro place same
        have none : place = [] := by simpa using same.symm
        simp [none]
    | cons element elements ih =>
        intro place same
        rcases place with _ | ⟨step, place⟩
        · simp at same
        · simp only [List.map_cons, List.cons.injEq, Prod.mk.injEq] at same
          rw [List.forall₂_cons, List.map_cons, List.map_cons, List.forall₂_cons, ih place same.2,
            and_iff_right same.1.1]
  rw [IdmefPath.Addresses, and_iff_right rfl]
  exact names _ _ steps

/-- The constraints select the addressed ones among the rows of the path's own chain. -/
theorem Through.constraints_iff (through : Through path before leaf chain)
    (ordinary : ¬ path.EndsInPermission) (rowOf : RowOf path.top ident chain path.list entry) :
    (∀ constraint ∈ RequiemDB.resolveIndexes path, constraint.Holds entry.2) ↔
      path.Addresses path.top entry.1 := by
  have steps := through.steps.trans rowOf.steps.symm
  rw [addresses_iff entry.1 steps]
  rcases List.eq_nil_or_concat path.rowElements with empty | ⟨outer, last, isLast⟩
  · have length := congrArg List.length through.steps
    rw [empty] at length
    rcases chain with _ | ⟨first, rest⟩
    · exact absurd rfl through.notEmpty
    · simp [ClassId.steps] at length
  rw [List.concat_eq_append] at isLast
  rcases List.eq_nil_or_concat entry.1 with empty | ⟨places, step, isPlace⟩
  · rw [isLast, empty] at steps
    simp at steps
  rw [List.concat_eq_append] at isPlace
  rw [isLast, isPlace, List.map_append, List.map_append] at steps
  rcases List.append_inj' steps rfl with ⟨outerSteps, lastStep⟩
  rcases rowOf.parents with ⟨more, parents⟩
  have index := rowOf.index
  rw [isPlace] at parents index
  simp only [List.dropLast_concat, List.getLast?_concat, Option.bind_some] at parents index
  have flags : (outer.map PathElement.index).map (fun index => decide (index ≠ .forbidden)) =
      (places.map Prod.snd).map Option.isSome := by
    have second := congrArg (List.map Prod.snd) outerSteps
    simpa [Function.comp_def] using second
  have lastFlag : decide (last.index ≠ .forbidden) = step.2.isSome := by
    simpa using congrArg (List.map Prod.snd) lastStep
  have outerParents : entry.2.parents.drop 0 = (places.map Prod.snd).filterMap id ++ more := by
    rw [List.drop_zero, parents, List.filterMap_map]
    rfl
  have column : step.2 = none ∨
      step.2 = (none : Option Nat).elim entry.2.index (entry.2.parents[·]?) :=
    index
  have lengths : (outer.map PathElement.index).length = (places.map Prod.snd).length := by
    simpa using congrArg List.length flags
  rw [through.resolveIndexes ordinary isLast, List.forall_mem_append,
    parentConstraints_hold_iff flags outerParents, addIndexConstraint_hold_iff lastFlag column,
    isLast, isPlace, List.map_append, List.map_append, List.map_singleton, List.map_singleton,
    forall₂_concat_iff lengths]

/-- A row of another chain or list, or of another kind of message, is not joined. -/
theorem Through.rowOf_of_joins {top : MessageTable} (through : Through path before leaf chain)
    {table : JoinedTable} (isBound : table.bound =
      ((searchPath path).resolveTableName path, resolveParentType path,
        RequiemDB.resolveIndexes path))
    (placed : Aside entry ∨ ∃ chain list, RowOf top ident chain list entry)
    (joins : table.Joins ident entry.2) :
    path.top = top ∧ RowOf path.top ident chain path.list entry := by
  simp only [JoinedTable.bound, Prod.mk.injEq] at isBound
  rcases isBound with ⟨tableName, parentType, _⟩
  rcases joins with ⟨inTable, letter, _, _⟩
  rcases through.table with ⟨own, isOwn, resolved⟩
  rw [tableName, resolved] at inTable
  have sameTable := Table.sqlName_injective inTable
  rw [parentType, through.letter] at letter
  rcases placed with aside | ⟨found, list, rowOf⟩
  · have holds : ∀ table ∈ asideTables, table.holds ∈
        [none, some (MessageTable.alert.classId, none),
          some (MessageTable.heartbeat.classId, none)] := by
      decide
    have noMessage := last_ne_message through.inChains through.notEmpty
    have heldAside := holds _ aside.table
    rw [sameTable, isOwn.holds_eq] at heldAside
    simp [noMessage] at heldAside
  · have same := rowOf.table.holds_eq
    rw [sameTable, isOwn.holds_eq, Option.some.injEq, Prod.mk.injEq] at same
    rcases same with ⟨sameLast, sameList⟩
    rcases chain_of_letter through.inChains through.notEmpty rowOf.inChains sameLast
      (fun wanted isWanted => rowOf.letter.symm.trans (letter wanted isWanted)) with ⟨sameTop, rfl⟩
    subst sameTop
    exact ⟨rfl, sameList ▸ rowOf⟩

/-- The row of an addressed element is of the path's own chain and list. -/
theorem Through.rowOf_of_addresses {top : MessageTable} (through : Through path before leaf chain)
    (placed : Aside entry ∨ ∃ chain list, RowOf top ident chain list entry)
    (addresses : path.Addresses top entry.1) :
    path.top = top ∧ RowOf path.top ident chain path.list entry := by
  rcases addresses with ⟨sameTop, covered⟩
  have names := names_of_covered covered
  have pathNames := congrArg (List.map Prod.fst) through.steps
  rw [List.map_append, ClassId.map_fst_steps, List.map_map] at pathNames
  rcases placed with aside | ⟨found, list, rowOf⟩
  · have noClass : ∀ id : ClassId, id.name ∉ ["create_time", "detect_time", "analyzer_time"] := by
      intro id
      cases id <;> decide
    have placeNames := aside.place
    rcases chain with _ | ⟨first, rest⟩
    · exact absurd rfl through.notEmpty
    · have notTime := noClass first
      have start : ∃ more, entry.1.map Prod.fst = first.name :: more := by
        rw [← names.1]
        exact ⟨_, pathNames⟩
      rcases start with ⟨more, isStart⟩
      simp only [isStart, List.mem_cons, List.cons.injEq, List.not_mem_nil, or_false] at placeNames
      simp only [List.mem_cons, List.not_mem_nil, or_false, not_or] at notTime
      rcases placeNames with absurdity | ⟨isTime, _⟩ | ⟨isTime, _⟩ | ⟨isTime, _⟩
      · simp at absurdity
      · exact absurd isTime notTime.1
      · exact absurd isTime notTime.2.1
      · exact absurd isTime notTime.2.2
  · have placeNames := congrArg (List.map Prod.fst) rowOf.steps
    rw [List.map_append, ClassId.map_fst_steps, List.map_map] at placeNames
    have same : chain.map ClassId.name ++ path.list.toList =
        found.map ClassId.name ++ list.toList := by
      have both := pathNames.symm.trans (names.1.trans placeNames)
      simpa [Function.comp_def] using both
    rcases chain_of_names (fun name isList => ⟨_, through.list_mem isList⟩)
      (fun name isList => ⟨_, rowOf.table.list_mem isList⟩) same with ⟨rfl, sameList⟩
    subst sameTop
    exact ⟨rfl, sameList ▸ rowOf⟩

theorem ElementTable.unique {id : ClassId} {list : Option String} {left right : Table}
    (isLeft : ElementTable id list left) (isRight : ElementTable id list right) : left = right := by
  have all : ∀ first ∈ listTables, ∀ second ∈ listTables, first.1 = second.1 →
      first.2.1 = second.2.1 → first.2.2 = second.2.2 := by
    decide
  cases isLeft with
  | cls =>
      cases isRight with
      | cls => rfl
  | list inLeft =>
      cases isRight with
      | list inRight => exact all _ inLeft _ inRight rfl rfl

/-- A row of the path's own chain and list is joined when its indexes hold. -/
theorem Through.joins_of_rowOf (through : Through path before leaf chain) {table : JoinedTable}
    (isBound : table.bound = ((searchPath path).resolveTableName path, resolveParentType path,
      RequiemDB.resolveIndexes path))
    (rowOf : RowOf path.top ident chain path.list entry) :
    table.Joins ident entry.2 ↔
      ∀ constraint ∈ RequiemDB.resolveIndexes path, constraint.Holds entry.2 := by
  simp only [JoinedTable.bound, Prod.mk.injEq] at isBound
  rcases isBound with ⟨tableName, parentType, constraints⟩
  rcases through.table with ⟨own, isOwn, resolved⟩
  have isTable : entry.2.table.sqlName = table.tableName := by
    rw [tableName, resolved, rowOf.table.unique isOwn]
  have letter : ∀ wanted ∈ table.parentType, entry.2.parentType = some wanted := by
    intro wanted isWanted
    rw [parentType, through.letter] at isWanted
    exact rowOf.letter.trans isWanted
  rw [JoinedTable.Joins, and_iff_right isTable, and_iff_right letter, and_iff_right rowOf.ident,
    constraints]

/-- A path that does not end in a permission joins the rows of the elements it addresses. -/
theorem Through.joins_iff {top : MessageTable} (through : Through path before leaf chain)
    (ordinary : ¬ path.EndsInPermission) {table : JoinedTable}
    (isBound : table.bound = ((searchPath path).resolveTableName path, resolveParentType path,
      RequiemDB.resolveIndexes path))
    (placed : Aside entry ∨ ∃ chain list, RowOf top ident chain list entry) :
    table.Joins ident entry.2 ↔ path.Addresses top entry.1 := by
  constructor
  · intro joins
    rcases through.rowOf_of_joins isBound placed joins with ⟨rfl, rowOf⟩
    rw [through.joins_of_rowOf isBound rowOf] at joins
    exact (through.constraints_iff ordinary rowOf).mp joins
  · intro addresses
    rcases through.rowOf_of_addresses placed addresses with ⟨rfl, rowOf⟩
    rw [through.joins_of_rowOf isBound rowOf]
    exact (through.constraints_iff ordinary rowOf).mpr addresses

/-- A path that ends in a permission goes through a target, a file and a file access. -/
theorem Through.permission (through : Through path before leaf chain)
    (ends : path.EndsInPermission) :
    path.top = .alert ∧ chain = [.target, .file, .fileAccess] ∧ path.list = some "permission" := by
  rcases ends with ⟨leafListed, parentListed⟩
  have isList : path.list = some path.leafName := by
    rw [IdmefPath.list, if_neg leafListed]
  have inNames := through.list_mem isList
  have lastListed : ((path.top.classId.steps chain).getLast?).any Prod.snd = true := by
    rcases through.exists_parent with ⟨front, parent, rfl, _, atParent⟩
    rw [atParent] at parentListed
    rw [← through.ends.steps]
    simpa using parentListed
  rcases chain_of_permission through.inChains (List.ne_nil_of_mem inNames) lastListed with
    ⟨isAlert, isChain⟩
  refine ⟨isAlert, isChain, ?_⟩
  rw [isAlert, isChain] at inNames
  rw [isList, List.mem_singleton.mp inNames]

end Joined

end RequiemDB
