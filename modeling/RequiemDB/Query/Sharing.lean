import RequiemDB.Query.TopTable

/-!
# Sharing joined tables

A path uses the first joined table whose path has the same elements but the last,
unless it is compared as a whole. Such a table is right for it when the path it
was added for does not end in a list: the classes that have lists of strings keep
them in tables of their own, and the index of a list is not that of its class.
-/

namespace RequiemDB

/-- The classes whose lists are strings, kept in a table of their own. -/
def ClassId.listedNames : ClassId → List String
  | .process => ["arg", "env"]
  | .webService => ["arg"]
  | .fileAccess => ["permission"]
  | _ => []

theorem ClassId.listed_iff {owner : ClassId} {name : String} {child : Child}
    (isChild : owner.child name = some child) (ofStrings : owner.listedNames ≠ []) :
    child.listed = true ↔ name ∈ owner.listedNames := by
  have all : ∀ entry ∈ owner.children, owner.listedNames ≠ [] →
      (entry.2.listed = true ↔ entry.1 ∈ owner.listedNames) := by
    cases owner <;> decide
  exact all (name, child) (mem_children_of_child isChild) ofStrings

/-- The table of a class. -/
def ClassId.tableName (id : ClassId) : String :=
  "Requiem_" ++ String.ofList (camelCase true id.name.toList)

namespace IdmefPath

variable {path first : IdmefPath}

/-- The table of a path below a message is that of its class, but for lists of strings. -/
theorem resolveTableName_eq_iff {owner : ClassId} (isOwner : path.parentClass = some owner)
    (deep : path.getDepth ≠ 2) :
    (searchPath path).resolveTableName path = owner.tableName ↔
      path.leafIndex = .forbidden ∨ owner.listedNames = [] := by
  rcases path.leaf_of_parent with ⟨parent, child, isParent, isChild, _, _, fits⟩
  rw [isOwner, Option.some.injEq] at isParent
  subst isParent
  have listed : owner.listedNames ≠ [] →
      (path.leafIndex = .forbidden ↔ path.leafName ∉ owner.listedNames) := by
    intro ofStrings
    rw [← ClassId.listed_iff isChild ofStrings, fits.listed_eq, not_not]
  simp only [searchPath, isOwner]
  cases owner with
  | alert =>
      rcases outer_parentClass isOwner (by decide) with ⟨two, _⟩ | ⟨_, _, notAlert, _⟩
      · exact absurd two deep
      · exact absurd rfl notAlert
  | heartbeat =>
      rcases outer_parentClass isOwner (by decide) with ⟨two, _⟩ | ⟨_, _, _, notHeartbeat⟩
      · exact absurd two deep
      · exact absurd rfl notHeartbeat
  | process =>
      have table : ClassId.process.tableName = "Requiem_Process" := by decide
      simp only [listed (by decide), table, processTableNameResolver, ClassId.listedNames]
      split_ifs <;> simp_all
  | webService =>
      have table : ClassId.webService.tableName = "Requiem_WebService" := by decide
      simp only [listed (by decide), table, webServiceTableNameResolver, ClassId.listedNames]
      split_ifs <;> simp_all
  | fileAccess =>
      have table : ClassId.fileAccess.tableName = "Requiem_FileAccess" := by decide
      simp only [listed (by decide), table, fileAccessTableNameResolver, ClassId.listedNames]
      split_ifs <;> simp_all
  | _ => simp [defaultTableNameResolver, isOwner, ClassId.tableName, ClassId.listedNames]

/-- Two paths of one depth that have all elements but the last in common. -/
structure Siblings (first path : IdmefPath) : Prop where
  depth : first.getDepth = path.getDepth
  sameUpTo : first.SameUpTo path (path.getDepth - 1)

namespace Siblings

theorem getElem (siblings : first.Siblings path) {depth : Nat}
    (before : depth < path.getDepth - 1) : first.elements[depth]? = path.elements[depth]? := by
  have taken := siblings.sameUpTo.take_elements
  rw [← List.getElem?_take_of_lt before, taken, List.getElem?_take_of_lt before]

theorem getClass (siblings : first.Siblings path) {depth : Nat}
    (before : depth < path.getDepth - 1) : first.getClass depth = path.getClass depth := by
  rw [IdmefPath.getClass, siblings.getElem before, IdmefPath.getClass]

theorem getIndex (siblings : first.Siblings path) {depth : Nat}
    (before : depth < path.getDepth - 1) : first.getIndex depth = path.getIndex depth := by
  rw [IdmefPath.getIndex, siblings.getElem before, IdmefPath.getIndex]

theorem parentClass (siblings : first.Siblings path) : first.parentClass = path.parentClass := by
  have deep := path.two_le_getDepth
  rw [IdmefPath.parentClass, IdmefPath.parentClass, siblings.depth,
    siblings.getClass (by omega)]

theorem top (siblings : first.Siblings path) : first.top = path.top := by
  have deep := path.two_le_getDepth
  exact siblings.sameUpTo.top (by omega)

end Siblings

theorem addIndexConstraint_injective {level : Option Nat} {left right : PathIndex}
    (same : addIndexConstraint level left = addIndexConstraint level right) : left = right := by
  cases left <;> cases right <;> simp_all [addIndexConstraint]

/-- The index that `_index` is compared with. -/
def ownIndex (path : IdmefPath) : PathIndex :=
  if path.leafIndex ≠ .forbidden then path.leafIndex else path.getIndex (path.getDepth - 2)

/-- Siblings have the same constraints when they compare `_index` with the same index. -/
theorem Siblings.resolveIndexes_eq_iff (siblings : first.Siblings path) :
    resolveIndexes first = resolveIndexes path ↔ first.ownIndex = path.ownIndex := by
  have parents : ((first.elements.map PathElement.index).take (first.getDepth - 2)).drop 1 =
      ((path.elements.map PathElement.index).take (path.getDepth - 2)).drop 1 := by
    have taken := congrArg (List.take (path.getDepth - 2)) siblings.sameUpTo.take_elements
    rw [List.take_take, List.take_take, Nat.min_eq_left (by omega)] at taken
    rw [siblings.depth, ← List.map_take, ← List.map_take, taken]
  simp only [resolveIndexes, parents, List.append_cancel_left_eq]
  exact ⟨addIndexConstraint_injective, fun same => congrArg _ same⟩

/-- Only messages have a child of the name that `resolve_alert_parent_type` compares. -/
theorem leafName_ne_detectTime (deep : path.getDepth ≠ 2) : path.leafName ≠ "detect_time" := by
  intro named
  rcases path.leaf_of_parent with ⟨owner, child, isOwner, isChild, _⟩
  have ofAlert : ∀ entry ∈ owner.children, entry.1 = "detect_time" → owner = .alert := by
    cases owner <;> decide
  have isAlert := ofAlert _ (ClassId.mem_children_of_child isChild) named
  rcases outer_parentClass isOwner (by rw [isAlert]; decide) with ⟨two, _⟩ | ⟨_, _, notAlert, _⟩
  · exact deep two
  · exact notAlert isAlert

/-- The classes in which the letter depends on the last element. -/
def letterClasses : List ClassId := [.toolAlert, .correlationAlert, .fileAccess]

/-- Siblings have the same letter where the last element does not matter, or is of one class. -/
theorem Siblings.resolveParentType_eq (siblings : first.Siblings path)
    (deep : path.getDepth ≠ 2)
    (alike : ∀ owner ∈ letterClasses, path.parentClass = some owner →
      first.getClass (path.getDepth - 1) = path.getClass (path.getDepth - 1)) :
    resolveParentType first = resolveParentType path := by
  have three : 3 ≤ path.getDepth := by
    have two := path.two_le_getDepth
    omega
  have second := siblings.getClass (show 1 < path.getDepth - 1 by omega)
  have names : first.leafName ≠ "detect_time" ∧ path.leafName ≠ "detect_time" :=
    ⟨leafName_ne_detectTime (siblings.depth ▸ deep), leafName_ne_detectTime deep⟩
  have third : path.getDepth ≠ 3 → first.getClass 2 = path.getClass 2 :=
    fun notThree => siblings.getClass (by omega)
  have thirdOf : ∀ owner ∈ letterClasses, path.getClass 1 = some owner →
      first.getClass 2 = path.getClass 2 := by
    intro owner letter isOwner
    by_cases isThree : path.getDepth = 3
    · have same := alike owner letter (by rw [IdmefPath.parentClass, isThree]; exact isOwner)
      simpa [isThree] using same
    · exact third isThree
  have files : path.getDepth ≠ 3 → resolveFileParentType first = resolveFileParentType path := by
    intro notThree
    rw [resolveFileParentType, resolveFileParentType]
    rcases Nat.lt_or_ge path.getDepth 6 with short | long
    · by_cases isFour : path.getDepth = 4
      · have beyond : ∀ other : IdmefPath, other.getDepth = 4 → other.getClass 4 = none := by
          intro other four
          have out : other.elements[4]? = none := List.getElem?_eq_none (Nat.le_of_eq four)
          simp [IdmefPath.getClass, out]
        simp [beyond first (siblings.depth.trans isFour), beyond path isFour]
      · have isFive : path.getDepth = 5 := by omega
        have fourth := siblings.getClass (show 3 < path.getDepth - 1 by omega)
        rw [fourth]
        by_cases ofAccess : path.getClass 3 = some .fileAccess
        · have same := alike .fileAccess (by decide)
            (by rw [IdmefPath.parentClass, isFive]; exact ofAccess)
          simp only [isFive, Nat.reduceSub] at same
          rw [same]
        · simp [ofAccess]
    · rw [siblings.getClass (show 3 < path.getDepth - 1 by omega),
        siblings.getClass (show 4 < path.getDepth - 1 by omega)]
  simp only [resolveParentType, resolveAlertParentType, siblings.top, second]
  cases path.top with
  | heartbeat => rfl
  | alert =>
      simp only
      split
      · rfl
      · rfl
      · rfl
      · next isTool => rw [resolveAlertidentParentType, resolveAlertidentParentType,
          thirdOf _ (by decide) isTool]
      · next isCorrelation => rw [resolveAlertidentParentType, resolveAlertidentParentType,
          thirdOf _ (by decide) isCorrelation]
      · rw [resolveSourceParentType, resolveSourceParentType, siblings.depth]
      · rw [resolveTargetParentType, resolveTargetParentType, siblings.depth]
        by_cases isThree : path.getDepth = 3
        · simp [isThree]
        · rw [third isThree, files isThree]
      · simp [names]

/--
The table that was joined for the first path is right for the other one: the first does not
end in a list, or in a list whose index is that of its class, in a class where the last
element changes neither table nor letter.
-/
def Serves (first path : IdmefPath) : Prop :=
  first.leafIndex = .forbidden ∨
    first.leafIndex = path.getIndex (path.getDepth - 2) ∧
      ∀ owner ∈ first.parentClass, owner.listedNames = [] ∧ owner ∉ letterClasses

/-- The name, letter and constraints of the table that is joined for a path. -/
def tableKey (path : IdmefPath) : String × Option ParentType × List IndexConstraint :=
  ((searchPath path).resolveTableName path, resolveParentType path, resolveIndexes path)

/-- Whether the last element of a path is of a listed child of its class. -/
theorem exists_child {owner : ClassId} (isOwner : path.parentClass = some owner) :
    ∃ child, owner.child path.leafName = some child ∧
      child.content.classId = path.getClass (path.getDepth - 1) ∧
        (child.listed = true ↔ path.leafIndex ≠ .forbidden) := by
  rcases path.leaf_of_parent with ⟨parent, child, isParent, isChild, _, content, fits⟩
  rw [isOwner, Option.some.injEq] at isParent
  subst isParent
  exact ⟨child, isChild, content, fits.listed_eq⟩

/-- Siblings that do not end in a list have the same class at their end where it matters. -/
theorem Siblings.alike_of_forbidden (siblings : first.Siblings path)
    (firstNotListed : first.leafIndex = .forbidden) (notListed : path.leafIndex = .forbidden) :
    ∀ owner ∈ letterClasses, path.parentClass = some owner →
      first.getClass (path.getDepth - 1) = path.getClass (path.getDepth - 1) := by
  have oneClass : ∀ owner ∈ letterClasses, ∀ left ∈ owner.children, ∀ right ∈ owner.children,
      left.2.listed = false → right.2.listed = false →
        left.2.content.classId = right.2.content.classId := by
    decide
  intro owner letter isOwner
  rcases exists_child (siblings.parentClass.trans isOwner) with ⟨left, isLeft, leftClass, leftList⟩
  rcases exists_child isOwner with ⟨right, isRight, rightClass, rightList⟩
  rw [siblings.depth] at leftClass
  rw [← leftClass, ← rightClass]
  exact oneClass owner letter _ (ClassId.mem_children_of_child isLeft) _
    (ClassId.mem_children_of_child isRight) (by simpa [firstNotListed] using leftList)
    (by simpa [notListed] using rightList)

/-- An alertident has a letter, the other children of its class have none. -/
theorem Siblings.letters_differ (siblings : first.Siblings path) {owner : ClassId}
    (isOwner : path.parentClass = some owner) (ofAlertidents : owner = .toolAlert ∨
      owner = .correlationAlert) (listed : first.leafIndex ≠ .forbidden)
    (notListed : path.leafIndex = .forbidden) :
    resolveParentType first ≠ resolveParentType path := by
  have onlyList : ∀ owner ∈ [ClassId.toolAlert, .correlationAlert], ∀ entry ∈ owner.children,
      entry.2.listed = true ↔ entry.2.content.classId = some .alertident := by
    decide
  have inList : owner ∈ [ClassId.toolAlert, .correlationAlert] := by simpa using ofAlertidents
  rcases outer_parentClass isOwner (by rcases ofAlertidents with rfl | rfl <;> decide) with
    ⟨two, isTop⟩ | ⟨three, isAlert, _⟩
  · rcases ofAlertidents with rfl | rfl <;> cases top : path.top <;>
      simp [top, MessageTable.classId] at isTop
  · rcases exists_child (siblings.parentClass.trans isOwner) with
      ⟨left, isLeft, leftClass, leftList⟩
    rcases exists_child isOwner with ⟨right, isRight, rightClass, rightList⟩
    have ofFirst : first.getClass 2 = some .alertident := by
      have listedChild := onlyList owner inList _ (ClassId.mem_children_of_child isLeft)
      rw [leftClass, siblings.depth, three] at listedChild
      exact listedChild.mp (leftList.mpr listed)
    have ofPath : path.getClass 2 ≠ some .alertident := by
      have listedChild := onlyList owner inList _ (ClassId.mem_children_of_child isRight)
      rw [rightClass, three] at listedChild
      exact fun isClass => absurd notListed (rightList.mp (listedChild.mpr isClass))
    have second : path.getClass 1 = some owner := by
      rwa [IdmefPath.parentClass, three] at isOwner
    have firstSecond : first.getClass 1 = some owner :=
      (siblings.getClass (by omega)).trans second
    rcases ofAlertidents with rfl | rfl <;>
      simp [resolveParentType, resolveAlertParentType, siblings.top, isAlert, second, firstSecond,
        resolveAlertidentParentType, ofFirst, ofPath]

/-- A path that does not end in a list can use the table of a sibling exactly when it serves. -/
theorem Siblings.tableKey_eq_iff (siblings : first.Siblings path) (deep : path.getDepth ≠ 2)
    (notListed : path.leafIndex = .forbidden) :
    first.tableKey = path.tableKey ↔ first.Serves path := by
  rcases path.leaf_of_parent with ⟨owner, _, isOwner, _⟩
  have isFirstOwner := siblings.parentClass.trans isOwner
  have table : (searchPath path).resolveTableName path = owner.tableName :=
    (resolveTableName_eq_iff isOwner deep).mpr (.inl notListed)
  have firstTable := resolveTableName_eq_iff isFirstOwner (siblings.depth ▸ deep)
  have own : path.ownIndex = path.getIndex (path.getDepth - 2) := by simp [ownIndex, notListed]
  have ofStrings : ∀ other ∈ letterClasses, other.listedNames = [] →
      other = .toolAlert ∨ other = .correlationAlert := by
    decide
  simp only [tableKey, Prod.mk.injEq, table, firstTable, siblings.resolveIndexes_eq_iff, own]
  constructor
  · rintro ⟨sameTable, sameLetter, sameIndex⟩
    by_cases listed : first.leafIndex = .forbidden
    · exact .inl listed
    · right
      rw [ownIndex, if_pos listed] at sameIndex
      refine ⟨sameIndex, fun other isOther => ?_⟩
      rw [Option.mem_unique isOther isFirstOwner]
      have noStrings := sameTable.resolve_left listed
      refine ⟨noStrings, fun letter => ?_⟩
      exact siblings.letters_differ isOwner (ofStrings owner letter noStrings) listed notListed
        sameLetter
  · rintro (firstNotListed | ⟨sameIndex, ofOwner⟩)
    · refine ⟨.inl firstNotListed, ?_, ?_⟩
      · exact siblings.resolveParentType_eq deep
          (siblings.alike_of_forbidden firstNotListed notListed)
      · have deeper := path.two_le_getDepth
        rw [ownIndex, if_neg (not_not.mpr firstNotListed), siblings.depth,
          siblings.getIndex (by omega)]
    · rcases ofOwner owner isFirstOwner with ⟨noStrings, noLetter⟩
      refine ⟨.inr noStrings, ?_, ?_⟩
      · exact siblings.resolveParentType_eq deep fun other letter isOther =>
          absurd letter (Option.mem_unique isOther isOwner ▸ noLetter)
      · rw [ownIndex]
        split
        · exact sameIndex
        · have deeper := path.two_le_getDepth
          rw [siblings.depth, siblings.getIndex (by omega)]

end IdmefPath

end RequiemDB
