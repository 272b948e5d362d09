import RequiemDB.Query.Selection

/-!
# Permissions

The path to a permission drops the level of the file access, so that it joins the
permissions of all file accesses of a file, and those of the last one a second
time. It selects what it addresses when no other file access has a permission
that its last index stands for; all other paths always do.
-/

namespace RequiemDB

open Lib

section Permissions

variable {E : EnumKind → Type} [Librequiem E] {α : Type}

/-- A list of permissions has one that the index stands for. -/
def PathIndex.Finds (permission : PathIndex) (permissions : List String) : Prop :=
  ∃ position : Nat, position < permissions.length ∧ permission.Covers (some (position : Int))

/--
Only file accesses that are addressed have an addressed permission, and the last one, whose
rows are written twice, has none.
-/
structure Apart (access permission : PathIndex) (fileAccesses : List (FileAccess E)) : Prop where
  last : ∀ fileAccess ∈ fileAccesses.getLast?, ¬ permission.Finds fileAccess.permissions
  others : ∀ (position : Nat) fileAccess, fileAccesses[position]? = some fileAccess →
    permission.Finds fileAccess.permissions → access.Covers (some (position : Int))

/-- For a path to permissions: in every addressed file the file accesses are apart. -/
def Message.Apart (path : IdmefPath) : Message E → Prop
  | .heartbeat _ => True
  | .alert message => ∀ target file access permission,
      path.below.map IdmefPath.key = [("target", target), ("file", file), ("file_access", access),
        ("permission", permission)] →
      ∀ (targetIndex : Nat) theTarget, message.targets[targetIndex]? = some theTarget →
        target.Covers (some (targetIndex : Int)) →
      ∀ (fileIndex : Nat) theFile, theTarget.files[fileIndex]? = some theFile →
        file.Covers (some (fileIndex : Int)) →
      RequiemDB.Apart access permission theFile.fileAccesses

/-- The place of a permission. -/
def permissionPlace (target file access permission : Int) : Place :=
  (((Place.item [] "target" target).item "file" file).item "file_access" access).item "permission"
    permission

@[simp]
theorem filter_placedOptional (keep : Place × Row → Bool) (placed : α → PlacedRows)
    (part : Option α) : (placedOptional placed part).filter keep =
      placedOptional (fun element => (placed element).filter keep) part := by
  cases part <;> rfl

@[simp]
theorem placedOptional_empty (part : Option α) :
    placedOptional (fun _ => []) part = [] := by
  cases part <;> rfl

/-- Whether a row is that of a permission. -/
def isPermission (entry : Place × Row) : Bool := entry.2.table = .fileAccessPermission

section NoPermissions

variable (place : Place) (letter : ParentType) (ident : Nat) (index : Int)

theorem filter_placedNode (node : Node E) :
    (placedNode place letter ident index node).filter isPermission = [] := by
  simp [placedNode, isPermission, nodeRow, addressRow]

theorem filter_placedUser (user : User E) :
    (placedUser place letter ident index user).filter isPermission = [] := by
  simp [placedUser, isPermission, userRow, userIdRow]

theorem filter_placedProcess (process : Process) :
    (placedProcess place letter ident index process).filter isPermission = [] := by
  simp [placedProcess, isPermission, processRow, stringRow]

theorem filter_placedService (service : Service) :
    (placedService place letter ident index service).filter isPermission = [] := by
  rw [placedService]
  cases service.kind <;>
    simp [placedServiceKind, placedWebService, isPermission, serviceRow,
      webServiceRow, snmpServiceRow, stringRow]

theorem filter_placedAnalyzer (analyzer : Analyzer E) :
    (placedAnalyzer letter ident index analyzer).filter isPermission = [] := by
  simp [placedAnalyzer, filter_placedNode, filter_placedProcess, isPermission,
    analyzerRow]

theorem filter_placedSource (source : Source E) :
    (placedSource ident index source).filter isPermission = [] := by
  simp [placedSource, filter_placedNode, filter_placedUser, filter_placedProcess,
    filter_placedService, isPermission, sourceRow]

theorem filter_placedClassification (classification : Classification E) :
    (placedClassification ident classification).filter isPermission = [] := by
  simp [placedClassification, isPermission, classificationRow, referenceRow]

theorem filter_placedAssessment (assessment : Assessment E) :
    (placedAssessment ident assessment).filter isPermission = [] := by
  simp [placedAssessment, isPermission, assessmentRow, impactRow, confidenceRow,
    actionRow]

theorem filter_placedAlertKind (kind : AlertKind) :
    (placedAlertKind ident E kind).filter isPermission = [] := by
  cases kind <;>
    simp [placedAlertKind, isPermission, toolAlertRow, overflowAlertRow,
      correlationAlertRow, alertidentRow]

theorem filter_placedAdditionalData (additionalData : List AdditionalData) :
    (placedAdditionalData letter ident E additionalData).filter isPermission = [] := by
  simp [placedAdditionalData, isPermission, additionalDataRow]

end NoPermissions

theorem filter_placedTarget (ident : Nat) (targetIndex : Int) (target : Target E) :
    (placedTarget ident targetIndex target).filter isPermission =
      listed (fun fileIndex file => listed (fun accessIndex fileAccess => listed (fun index perm =>
        [(permissionPlace targetIndex fileIndex accessIndex index,
          fileAccessPermissionRow ident targetIndex fileIndex accessIndex index perm)])
        fileAccess.permissions) file.fileAccesses) target.files := by
  simp [placedTarget, filter_placedNode, filter_placedUser, filter_placedProcess,
    filter_placedService, placedFile, placedFileAccess, isPermission, targetRow,
    fileRow, fileAccessRow, linkageRow, inodeRow, checksumRow, userIdRow,
    fileAccessPermissionRow, permissionPlace]

theorem filter_isPermission (ident : Nat) (alert : Alert E) :
    (placedRows ident (.alert alert)).filter isPermission =
      listed (fun targetIndex target => listed (fun fileIndex file =>
        listed (fun accessIndex fileAccess => listed (fun index perm =>
          [(permissionPlace targetIndex fileIndex accessIndex index,
            fileAccessPermissionRow ident targetIndex fileIndex accessIndex index perm)])
          fileAccess.permissions) file.fileAccesses) target.files) alert.targets := by
  simp [placedRows, placedParts, placedAlert, filter_placedAssessment, filter_placedAlertKind,
    filter_placedAnalyzer, filter_placedSource, filter_placedTarget, filter_placedClassification,
    filter_placedAdditionalData, placedTime, isPermission, messageTimeRow,
    messageRow, Message.table, MessageTable.table]

theorem all_listed_four {place : Place} {first second third fourth : String}
    (steps : place.map (fun step => (step.1, step.2.isSome)) =
      [(first, true), (second, true), (third, true), (fourth, true)]) :
    ∃ one two three four, place =
      [(first, some one), (second, some two), (third, some three), (fourth, some four)] := by
  simp only [List.map_eq_cons_iff, List.map_eq_nil_iff, Prod.mk.injEq,
    Option.isSome_iff_exists] at steps
  rcases steps with ⟨⟨_, _⟩, _, rfl, ⟨rfl, one, rfl⟩, ⟨_, _⟩, _, rfl, ⟨rfl, two, rfl⟩, ⟨_, _⟩, _,
    rfl, ⟨rfl, three, rfl⟩, ⟨_, _⟩, _, rfl, ⟨rfl, four, rfl⟩, rfl⟩
  exact ⟨one, two, three, four, rfl⟩

theorem RowOf.permission {ident : Nat} {entry : Place × Row}
    (rowOf : RowOf .alert ident [.target, .file, .fileAccess] (some "permission") entry) :
    ∃ target file access index more, entry.1 = permissionPlace target file access index ∧
      entry.2.parents = target :: file :: access :: more ∧ entry.2.index = some index := by
  have names : MessageTable.alert.classId.steps [.target, .file, .fileAccess] ++
      (some "permission").toList.map (·, true) =
        [("target", true), ("file", true), ("file_access", true), ("permission", true)] := by
    decide
  have steps := rowOf.steps
  rw [names] at steps
  rcases all_listed_four steps with ⟨target, file, access, index, isPlace⟩
  rcases rowOf.parents with ⟨more, parents⟩
  have isIndex := rowOf.index
  rw [isPlace] at parents isIndex
  exact ⟨target, file, access, index, more, isPlace, parents,
    (isIndex.resolve_left (by simp)).symm⟩

/-- The elements of a path to a permission. -/
structure PermissionPath (path : IdmefPath) (target file access permission : PathIndex) : Prop where
  top : path.top = .alert
  below : path.below.map IdmefPath.key = [("target", target), ("file", file),
    ("file_access", access), ("permission", permission)]
  targetListed : target ≠ .forbidden
  fileListed : file ≠ .forbidden
  permissionListed : permission ≠ .forbidden

namespace PermissionPath

variable {path : IdmefPath} {target file access permission : PathIndex} {ident : Nat}

theorem indexes (isPath : PermissionPath path target file access permission) :
    path.elements.map PathElement.index = [.forbidden, target, file, access, permission] := by
  have second := congrArg (List.map Prod.snd) isPath.below
  rw [List.map_map] at second
  rw [IdmefPath.elements, List.map_cons]
  exact congrArg _ second

theorem depth (isPath : PermissionPath path target file access permission) :
    path.getDepth = 5 := by
  simpa [IdmefPath.getDepth] using congrArg List.length isPath.indexes

theorem leafIndex (isPath : PermissionPath path target file access permission) :
    path.leafIndex = permission := by
  have atFour := congrArg (·[4]?) isPath.indexes
  simp only [List.getElem?_map] at atFour
  rw [IdmefPath.leafIndex, IdmefPath.getIndex, isPath.depth]
  cases isLast : path.elements[4]? with
  | none => simp [isLast] at atFour
  | some element => simpa [isLast] using atFour

/-- The constraints of the path: there is none on the level of the file access. -/
theorem resolveIndexes (isPath : PermissionPath path target file access permission) :
    RequiemDB.resolveIndexes path = parentConstraints 0 [target, file] ++
      addIndexConstraint none permission := by
  have last := isPath.leafIndex
  rw [IdmefPath.leafIndex] at last
  rw [RequiemDB.resolveIndexes, last, if_pos isPath.permissionListed, isPath.indexes,
    isPath.depth]
  rfl

/-- Such a row is joined when three of its four positions are those of the path. -/
theorem constraints_iff (isPath : PermissionPath path target file access permission) {row : Row}
    {targetIndex fileIndex accessIndex index : Int} {more : List Int}
    (parents : row.parents = targetIndex :: fileIndex :: accessIndex :: more)
    (isIndex : row.index = some index) :
    (∀ constraint ∈ RequiemDB.resolveIndexes path, constraint.Holds row) ↔
      target.Covers (some targetIndex) ∧ file.Covers (some fileIndex) ∧
        permission.Covers (some index) := by
  have flags : [target, file].map (fun index => decide (index ≠ .forbidden)) =
      [some targetIndex, some fileIndex].map Option.isSome := by
    simp [isPath.targetListed, isPath.fileListed]
  have flag : decide (permission ≠ .forbidden) = (some index).isSome := by
    simp [isPath.permissionListed]
  have column : some index = none ∨
      some index = (none : Option Nat).elim row.index (row.parents[·]?) :=
    .inr isIndex.symm
  have outer : row.parents.drop 0 =
      [some targetIndex, some fileIndex].filterMap id ++ (accessIndex :: more) := by
    rw [List.drop_zero, parents]
    rfl
  rw [isPath.resolveIndexes, List.forall_mem_append, parentConstraints_hold_iff flags outer,
    addIndexConstraint_hold_iff flag column, List.forall₂_cons, List.forall₂_cons, and_assoc,
    and_assoc, and_iff_right List.Forall₂.nil]

/-- The path stands for the permissions at the positions that its indexes cover. -/
theorem addresses_iff (isPath : PermissionPath path target file access permission)
    (targetIndex fileIndex accessIndex index : Int) :
    path.Addresses .alert (permissionPlace targetIndex fileIndex accessIndex index) ↔
      target.Covers (some targetIndex) ∧ file.Covers (some fileIndex) ∧
        access.Covers (some accessIndex) ∧ permission.Covers (some index) := by
  have elements : path.rowElements = path.below := by
    rw [IdmefPath.rowElements, isPath.leafIndex, if_neg isPath.permissionListed]
  have below := isPath.below
  simp only [List.map_eq_cons_iff, List.map_eq_nil_iff, IdmefPath.key, Prod.mk.injEq] at below
  rcases below with ⟨first, _, isBelow, ⟨firstName, rfl⟩, second, _, rfl, ⟨secondName, rfl⟩, third,
    _, rfl, ⟨thirdName, rfl⟩, fourth, _, rfl, ⟨fourthName, rfl⟩, rfl⟩
  rw [IdmefPath.Addresses, and_iff_right isPath.top, elements, isBelow]
  simp [permissionPlace, Place.item, firstName, secondName, thirdName, fourthName]

end PermissionPath

theorem Through.permissionPath {path : IdmefPath} {before : List PathElement} {leaf : PathElement}
    {chain : List ClassId} (through : Through path before leaf chain)
    (ends : path.EndsInPermission) :
    ∃ target file access permission, PermissionPath path target file access permission := by
  rcases through.permission ends with ⟨isAlert, rfl, isList⟩
  have names : MessageTable.alert.classId.steps [.target, .file, .fileAccess] =
      [("target", true), ("file", true), ("file_access", true)] := by
    decide
  have steps := through.ends.steps
  rw [isAlert, names] at steps
  simp only [List.map_eq_cons_iff, List.map_eq_nil_iff, Prod.mk.injEq, decide_eq_true_eq] at steps
  rcases steps with ⟨first, _, isBefore, ⟨firstName, firstListed⟩, second, _, rfl,
    ⟨secondName, secondListed⟩, third, _, rfl, ⟨thirdName, _⟩, rfl⟩
  have leafName : leaf.name = "permission" := by
    rw [through.list] at isList
    split at isList
    · exact absurd isList (by simp)
    · exact Option.some.inj isList
  refine ⟨first.index, second.index, third.index, leaf.index, isAlert, ?_, firstListed,
    secondListed, ?_⟩
  · rw [through.ends.split, isBefore]
    simp [IdmefPath.key, firstName, secondName, thirdName, leafName]
  · rw [← through.leafIndex]
    exact ends.1

/-- Filters that keep one list under a map keep the same elements. -/
theorem map_filter_eq_iff {β γ : Type} {elements : List β} {f : β → γ} {wide narrow : β → Bool}
    (within : ∀ element ∈ elements, narrow element = true → wide element = true) :
    (elements.filter wide).map f = (elements.filter narrow).map f ↔
      ∀ element ∈ elements, wide element = true → narrow element = true := by
  have twice : (elements.filter wide).filter narrow = elements.filter narrow := by
    rw [List.filter_filter]
    refine List.filter_congr fun element present => ?_
    cases isNarrow : narrow element with
    | false => rfl
    | true => rw [within element present isNarrow]; rfl
  constructor
  · intro same element present isWide
    have lengths : (elements.filter narrow).length = (elements.filter wide).length := by
      simpa using (congrArg List.length same).symm
    have all : (elements.filter wide).filter narrow = elements.filter wide := by
      refine List.Sublist.eq_of_length List.filter_sublist ?_
      rw [twice, lengths]
    have inWide : element ∈ elements.filter wide := List.mem_filter.mpr ⟨present, isWide⟩
    rw [← all] at inWide
    exact (List.mem_filter.mp inWide).2
  · intro back
    refine congrArg _ (List.filter_congr fun element present => ?_)
    rw [Bool.eq_iff_iff]
    exact ⟨back element present, within element present⟩

/-- The joined rows among those written for a message are the ones of the addressed elements. -/
def SelectsAddressed (path : IdmefPath) (table : JoinedTable) (message : Message E)
    (store : Store) : Prop :=
  (rowsWritten message store).filter (fun row => table.Joins (store.next message.table) row) =
    ((placedRows (store.next message.table) message).filter
      fun entry => path.Addresses message.table entry.1).map Prod.snd

/-- An index that is not -1 stands for positions inside a list only. -/
theorem PathIndex.Covers.inside {β : Type} {index : PathIndex} {elements : List β} {position : Int}
    {element : β} (covers : index.Covers (some position)) (fromStart : index ≠ .number (-1))
    (atPosition : AtPosition elements position element) :
    ∃ place : Nat, position = place ∧ elements[place]? = some element := by
  cases atPosition with
  | inside found => exact ⟨_, rfl, found⟩
  | last isLast => cases index <;> simp_all [PathIndex.Covers]

theorem mem_permissions_iff {ident : Nat} {alert : Alert E} {entry : Place × Row} :
    entry ∈ (placedRows ident (.alert alert)).filter isPermission ↔
      ∃ targetIndex target fileIndex file accessIndex fileAccess index perm,
        AtPosition alert.targets targetIndex target ∧ AtPosition target.files fileIndex file ∧
        AtPosition file.fileAccesses accessIndex fileAccess ∧
        AtPosition fileAccess.permissions index perm ∧
        entry = (permissionPlace targetIndex fileIndex accessIndex index,
          fileAccessPermissionRow ident targetIndex fileIndex accessIndex index perm) := by
  simp only [filter_isPermission, mem_listed_iff, List.mem_singleton]
  constructor
  · rintro ⟨targetIndex, target, atTarget, fileIndex, file, atFile, accessIndex, fileAccess,
      atAccess, index, perm, atPerm, isEntry⟩
    exact ⟨targetIndex, target, fileIndex, file, accessIndex, fileAccess, index, perm, atTarget,
      atFile, atAccess, atPerm, isEntry⟩
  · rintro ⟨targetIndex, target, fileIndex, file, accessIndex, fileAccess, index, perm, atTarget,
      atFile, atAccess, atPerm, isEntry⟩
    exact ⟨targetIndex, target, atTarget, fileIndex, file, atFile, accessIndex, fileAccess,
      atAccess, index, perm, atPerm, isEntry⟩

namespace PermissionPath

variable {path : IdmefPath} {target file access permission : PathIndex} {alert : Alert E}

/-- Among the rows of permissions the path joins addressed ones only, when those are apart. -/
theorem apart_iff (isPath : PermissionPath path target file access permission) (ident : Nat)
    (fromStart : ∀ index ∈ [target, file, access, permission], index ≠ .number (-1)) :
    (∀ entry ∈ (placedRows ident (.alert alert)).filter isPermission,
      (∀ constraint ∈ RequiemDB.resolveIndexes path, constraint.Holds entry.2) →
        path.Addresses .alert entry.1) ↔
      (Message.alert alert).Apart path := by
  simp only [List.mem_cons, List.not_mem_nil, or_false, forall_eq_or_imp, forall_eq] at fromStart
  rcases fromStart with ⟨targetStart, fileStart, accessStart, permissionStart⟩
  constructor
  · intro addressed target' file' access' permission' below targetIndex theTarget isTarget
      coversTarget fileIndex theFile isFile coversFile
    rw [isPath.below] at below
    simp only [List.cons.injEq, Prod.mk.injEq, true_and, and_true] at below
    rcases below with ⟨rfl, rfl, rfl, rfl⟩
    have covered : ∀ accessIndex fileAccess,
        AtPosition theFile.fileAccesses accessIndex fileAccess →
          permission.Finds fileAccess.permissions → access.Covers (some accessIndex) := by
      rintro accessIndex fileAccess atAccess ⟨index, inside, coversIndex⟩
      have isPermissionRow := addressed _ (mem_permissions_iff.mpr ⟨targetIndex, theTarget,
        fileIndex, theFile, accessIndex, fileAccess, index, fileAccess.permissions[index],
        .inside isTarget, .inside isFile, atAccess,
        .inside (List.getElem?_eq_getElem inside), rfl⟩)
      rw [isPath.constraints_iff rfl rfl, isPath.addresses_iff] at isPermissionRow
      exact (isPermissionRow ⟨coversTarget, coversFile, coversIndex⟩).2.2.1
    refine ⟨fun fileAccess isLast finds => ?_, fun position fileAccess found finds =>
      covered position fileAccess (.inside found) finds⟩
    have atEnd := covered (-1) fileAccess (.last isLast) finds
    cases access <;> simp_all [PathIndex.Covers]
  · intro apart entry present holds
    rcases mem_permissions_iff.mp present with ⟨targetIndex, theTarget, fileIndex, theFile,
      accessIndex, fileAccess, index, perm, atTarget, atFile, atAccess, atPerm, rfl⟩
    rw [isPath.constraints_iff rfl rfl] at holds
    rcases holds with ⟨coversTarget, coversFile, coversIndex⟩
    rw [isPath.addresses_iff]
    rcases coversTarget.inside targetStart atTarget with ⟨targetPlace, rfl, isTarget⟩
    rcases coversFile.inside fileStart atFile with ⟨filePlace, rfl, isFile⟩
    rcases coversIndex.inside permissionStart atPerm with ⟨place, rfl, isPerm⟩
    have inFile := apart target file access permission isPath.below targetPlace theTarget isTarget
      coversTarget filePlace theFile isFile coversFile
    have finds : permission.Finds fileAccess.permissions :=
      ⟨place, (List.getElem?_eq_some_iff.mp isPerm).1, coversIndex⟩
    refine ⟨coversTarget, coversFile, ?_, coversIndex⟩
    cases atAccess with
    | inside found => exact inFile.others _ fileAccess found finds
    | last isLast => exact absurd finds (inFile.last fileAccess isLast)

end PermissionPath

theorem permission_rowOf (ident : Nat) (target file access index : Int) (perm : String) :
    RowOf .alert ident [.target, .file, .fileAccess] (some "permission")
      (permissionPlace target file access index,
        fileAccessPermissionRow ident target file access index perm) :=
  ⟨by decide, .permission, rfl, rfl, rfl, ⟨[], rfl⟩, .inr rfl⟩

/-- Only a path that ends in a permission has the names of one. -/
theorem Through.endsInPermission {path : IdmefPath} {before : List PathElement}
    {leaf : PathElement} {chain : List ClassId} (through : Through path before leaf chain)
    {target file access permission : PathIndex}
    (below : path.below.map IdmefPath.key = [("target", target), ("file", file),
      ("file_access", access), ("permission", permission)]) : path.EndsInPermission := by
  rw [through.ends.split, List.map_append, List.map_singleton] at below
  have split : (before.map IdmefPath.key = [("target", target), ("file", file),
      ("file_access", access)]) ∧ [IdmefPath.key leaf] = [("permission", permission)] :=
    List.append_inj' below rfl
  rcases split with ⟨isBefore, isLeaf⟩
  have names : chain.map ClassId.name ++ (none : Option String).toList =
      [ClassId.target, .file, .fileAccess].map ClassId.name ++ (none : Option String).toList := by
    have ofSteps := congrArg (List.map Prod.fst) through.ends.steps
    have ofKeys := congrArg (List.map Prod.fst) isBefore
    rw [ClassId.map_fst_steps] at ofSteps
    simp only [List.map_map, Function.comp_def, IdmefPath.key] at ofSteps ofKeys
    rw [← ofSteps, ofKeys]
    rfl
  have isChain := (chain_of_names (by simp) (by simp) names).1
  subst isChain
  have steps := through.ends.steps
  have isAlert : path.top = .alert := by
    have inChains := through.inChains
    cases isTop : path.top with
    | alert => rfl
    | heartbeat =>
        rw [isTop] at inChains
        exact absurd inChains (by decide)
  have flags : (MessageTable.alert.classId.steps [.target, .file, .fileAccess]) =
      [("target", true), ("file", true), ("file_access", true)] := by
    decide
  rw [isAlert, flags] at steps
  simp only [List.map_eq_cons_iff, List.map_eq_nil_iff, Prod.mk.injEq, decide_eq_true_eq] at steps
  rcases steps with ⟨first, _, rfl, _, second, _, rfl, _, third, _, rfl, ⟨_, thirdListed⟩, rfl⟩
  rcases through.ends.isChild with ⟨child, isChild, _, fits⟩
  simp only [List.cons.injEq, and_true, IdmefPath.key, Prod.mk.injEq] at isLeaf
  have isPermission : ClassId.fileAccess.child "permission" = some Child.strings := by
    decide
  rw [isAlert, isLeaf.1] at isChild
  have isStrings : child = Child.strings :=
    Option.some.inj (isChild.symm.trans isPermission)
  refine ⟨?_, ?_⟩
  · rw [through.leafIndex]
    exact fits.listed_eq.mp (by rw [isStrings]; rfl)
  · rw [IdmefPath.getIndex, through.elements, through.depth]
    exact thirdListed

section Joined

variable {path : IdmefPath} {before : List PathElement} {leaf : PathElement}
  {chain : List ClassId} {table : JoinedTable} {ident : Nat}

theorem Through.joins_of_addresses {top : MessageTable} (through : Through path before leaf chain)
    (isBound : table.bound = ((searchPath path).resolveTableName path, resolveParentType path,
      RequiemDB.resolveIndexes path)) {entry : Place × Row}
    (placed : Aside entry ∨ ∃ chain list, RowOf top ident chain list entry)
    (addresses : path.Addresses top entry.1) : table.Joins ident entry.2 := by
  by_cases ends : path.EndsInPermission
  · rcases through.rowOf_of_addresses placed addresses with ⟨rfl, rowOf⟩
    rcases through.permission ends with ⟨isAlert, isChain, isList⟩
    rcases through.permissionPath ends with ⟨target, file, access, permission, isPath⟩
    rw [through.joins_of_rowOf isBound rowOf]
    rw [isAlert, isChain, isList] at rowOf
    rcases rowOf.permission with ⟨t, f, a, l, more, isPlace, parents, index⟩
    rw [isAlert, isPlace, isPath.addresses_iff] at addresses
    exact (isPath.constraints_iff parents index).mpr
      ⟨addresses.1, addresses.2.1, addresses.2.2.2⟩
  · exact (through.joins_iff ends isBound placed).mpr addresses

/-- A path to a permission joins what it addresses only, when the file accesses are apart. -/
theorem Through.joins_addressed_iff (through : Through path before leaf chain)
    (isBound : table.bound = ((searchPath path).resolveTableName path, resolveParentType path,
      RequiemDB.resolveIndexes path))
    (fromStart : ∀ element ∈ path.elements, element.index ≠ .number (-1))
    (ends : path.EndsInPermission) (message : Message E) :
    (∀ entry ∈ placedRows ident message, table.Joins ident entry.2 →
      path.Addresses message.table entry.1) ↔ message.Apart path := by
  have placed := AllPlaced.message ident message
  rcases through.permission ends with ⟨isAlert, isChain, isList⟩
  rcases through.permissionPath ends with ⟨target, file, access, permission, isPath⟩
  cases message with
  | heartbeat heartbeat =>
      refine iff_of_true (fun entry present joins => ?_) trivial
      have sameTop := (through.rowOf_of_joins isBound (placed entry present) joins).1
      rw [isAlert] at sameTop
      exact absurd sameTop (by simp [Message.table])
  | alert alert =>
      have indexes : ∀ index ∈ [target, file, access, permission], index ≠ .number (-1) := by
        intro index present
        have inPath : index ∈ path.elements.map PathElement.index := by
          rw [isPath.indexes]
          exact List.mem_cons_of_mem _ present
        rcases List.mem_map.mp inPath with ⟨element, isElement, rfl⟩
        exact fromStart element isElement
      rw [← isPath.apart_iff ident indexes]
      constructor
      · intro joined entry present holds
        rcases mem_permissions_iff.mp present with ⟨t, _, f, _, a, _, l, perm, _, _, _, _, rfl⟩
        have rowOf : RowOf path.top ident chain path.list (permissionPlace t f a l,
            fileAccessPermissionRow ident t f a l perm) := by
          rw [isAlert, isChain, isList]
          exact permission_rowOf ident t f a l perm
        exact joined _ (List.mem_of_mem_filter present)
          ((through.joins_of_rowOf isBound rowOf).mpr holds)
      · intro joined entry present joins
        have rowOf := (through.rowOf_of_joins isBound (placed entry present) joins).2
        have holds := (through.joins_of_rowOf isBound rowOf).mp joins
        rw [isAlert, isChain, isList] at rowOf
        refine joined entry (List.mem_filter.mpr ⟨present, ?_⟩) holds
        have isTable := rowOf.table.unique ElementTable.permission
        simp [isPermission, isTable]

end Joined

/--
A joined table selects the rows of the addressed elements exactly when, for a path to a
permission, the file accesses are apart.
-/
theorem joinSelects_iff (message : Message E) {store : Store} (sound : store.Sound)
    {path : IdmefPath} (stored : path.Stored) {join later : Join} {table : JoinedTable}
    (joined : classicSqlJoinNewTable join path ((searchPath path).resolveTableName path) =
      .ok (table, later)) :
    SelectsAddressed path table message store ↔ message.Apart path := by
  rcases stored.through with ⟨before, leaf, chain, through⟩
  have isBound := (classicSqlJoinNewTable_ok joined).2.2.1
  have placed := AllPlaced.message (store.next message.table) message
  have within : ∀ entry ∈ placedRows (store.next message.table) message,
      path.Addresses message.table entry.1 → table.Joins (store.next message.table) entry.2 :=
    fun entry present => through.joins_of_addresses isBound (placed entry present)
  rw [SelectsAddressed, ← map_placedRows message sound, List.filter_map,
    map_filter_eq_iff (by simpa using within)]
  simp only [Function.comp_apply, decide_eq_true_eq]
  by_cases ends : path.EndsInPermission
  · exact through.joins_addressed_iff isBound stored.fromStart ends message
  · refine iff_of_true (fun entry present => (through.joins_iff ends isBound
      (placed entry present)).mp) ?_
    cases message with
    | heartbeat heartbeat => trivial
    | alert alert =>
        intro target file access permission below
        exact absurd (through.endsInPermission below) ends

end Permissions

/-- An alert whose target has a file that one user may read. -/
def readable : Alert TextEnum :=
  { Alert.bare TextEnum with
    targets := [
      { ident := none, decoy := "unknown", interface := none, node := none, user := none
        process := none, service := none
        files := [
          { ident := none, category := "current", name := some "passwd", path := some "/etc"
            createTime := none, modifyTime := none, accessTime := none, dataSize := none
            diskSize := none, fstype := none, fileType := none
            fileAccesses := [
              { userId := { ident := none, type := "original-user", tty := none
                            name := some "root", number := none }
                permissions := ["read"] }]
            linkages := [], inode := none, checksums := [] }] }] }

/-- `alert.target(0).file(0).name` -/
def fileNamePath : IdmefPath where
  top := .alert
  below := [⟨"target", .number 0, .cls .target⟩, ⟨"file", .number 0, .cls .file⟩,
    ⟨"name", .forbidden, .value .string⟩]
  notEmpty := by decide
  follows := by decide

/-- `alert.target(0).file(0).file_access(0).permission(0)` -/
def permissionPath : IdmefPath where
  top := .alert
  below := [⟨"target", .number 0, .cls .target⟩, ⟨"file", .number 0, .cls .file⟩,
    ⟨"file_access", .number 0, .cls .fileAccess⟩, ⟨"permission", .number 0, .value .string⟩]
  notEmpty := by decide
  follows := by decide

/-- The table that is joined for the name of the file. -/
def fileNameTable : JoinedTable where
  path := fileNamePath
  tableName := "Requiem_File"
  number := 0
  parentType := none
  indexConstraints := [⟨some 0, false, 0⟩, ⟨none, false, 0⟩]

/-- The file's name is selected from its row, and not from the copy at -1. -/
theorem joinSelects_iff_fileName :
    SelectsAddressed fileNamePath fileNameTable (.alert readable) Store.empty := by
  have stored : fileNamePath.Stored := ⟨by decide, by decide, by decide, by decide⟩
  have joined : classicSqlJoinNewTable Join.new fileNamePath
      ((searchPath fileNamePath).resolveTableName fileNamePath) =
        .ok (fileNameTable, ⟨some .alert, [fileNameTable], 1⟩) := by
    decide
  refine (joinSelects_iff (.alert readable) Store.sound_empty stored joined).mpr ?_
  intro target file access permission below
  exact absurd below (by simp [fileNamePath])

/-- The table that is joined for the permission. -/
def permissionTable : JoinedTable where
  path := permissionPath
  tableName := "Requiem_FileAccess_Permission"
  number := 0
  parentType := none
  indexConstraints := [⟨some 0, false, 0⟩, ⟨some 1, false, 0⟩, ⟨none, false, 0⟩]

/-- The one permission is selected twice, the second time from the copy of its file access. -/
theorem permission_selectedTwice :
    ¬ ∀ (message : Message TextEnum) (store : Store) (path : IdmefPath) (join later : Join)
      (table : JoinedTable), store.Sound → path.Stored →
        classicSqlJoinNewTable join path ((searchPath path).resolveTableName path) =
          .ok (table, later) →
        SelectsAddressed path table message store := by
  intro always
  have stored : permissionPath.Stored := ⟨by decide, by decide, by decide, by decide⟩
  have joined : classicSqlJoinNewTable Join.new permissionPath
      ((searchPath permissionPath).resolveTableName permissionPath) =
        .ok (permissionTable, ⟨some .alert, [permissionTable], 1⟩) := by
    decide
  have selected := always (.alert readable) Store.empty permissionPath _ _ _ Store.sound_empty
    stored joined
  have counts := congrArg List.length selected
  exact absurd counts (by decide)

end RequiemDB
