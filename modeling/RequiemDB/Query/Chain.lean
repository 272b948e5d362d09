import RequiemDB.Query.Binding

/-!
# The classes on a path

A path to a value goes through a chain of classes, each a child of the one before.
Of those that the format stores there are finitely many, for it does not store the
file of a linkage. The chain and, for a list of strings, the name of the list
settle the table that the path is answered from, and the chain settles the letter;
conversely table and letter settle the chain.
-/

namespace RequiemDB

/-- The table of a class. -/
def ClassId.table : ClassId → Table
  | .alert => .alert
  | .heartbeat => .heartbeat
  | .analyzer => .analyzer
  | .source => .source
  | .target => .target
  | .classification => .classification
  | .reference => .reference
  | .assessment => .assessment
  | .impact => .impact
  | .action => .action
  | .confidence => .confidence
  | .additionalData => .additionalData
  | .toolAlert => .toolAlert
  | .correlationAlert => .correlationAlert
  | .overflowAlert => .overflowAlert
  | .alertident => .alertident
  | .node => .node
  | .address => .address
  | .user => .user
  | .userId => .userId
  | .process => .process
  | .service => .service
  | .webService => .webService
  | .snmpService => .snmpService
  | .file => .file
  | .fileAccess => .fileAccess
  | .linkage => .linkage
  | .inode => .inode
  | .checksum => .checksum

/-- The tables of lists of strings, each with its class and the name of the list. -/
def listTables : List (ClassId × String × Table) :=
  [(.process, "arg", .processArg), (.process, "env", .processEnv),
    (.webService, "arg", .webServiceArg), (.fileAccess, "permission", .fileAccessPermission)]

/-- The tables of elements: those of a class itself, and those of its lists of strings. -/
inductive ElementTable : ClassId → Option String → Table → Prop
  | cls (id : ClassId) : ElementTable id none id.table
  | list {id : ClassId} {name : String} {table : Table} (isList : (id, name, table) ∈ listTables) :
      ElementTable id (some name) table

/-- The class whose elements a table holds, and the name of the list if it is one of strings. -/
def Table.holds (table : Table) : Option (ClassId × Option String) :=
  match listTables.find? fun entry => entry.2.2 = table with
  | some (id, name, _) => some (id, some name)
  | none => ([ClassId.alert, .heartbeat, .analyzer, .source, .target, .classification, .reference,
      .assessment, .impact, .action, .confidence, .additionalData, .toolAlert, .correlationAlert,
      .overflowAlert, .alertident, .node, .address, .user, .userId, .process, .service,
      .webService, .snmpService, .file, .fileAccess, .linkage, .inode, .checksum].find?
        fun id => id.table = table).map fun id => (id, none)

theorem ElementTable.holds_eq {id : ClassId} {list : Option String} {table : Table}
    (isTable : ElementTable id list table) : table.holds = some (id, list) := by
  cases isTable with
  | cls => cases id <;> rfl
  | list isList =>
      have all : ∀ entry ∈ listTables, entry.2.2.holds = some (entry.1, some entry.2.1) := by
        decide
      exact all _ isList

/-- No two tables have one name. -/
theorem Table.sqlName_injective {left right : Table} (same : left.sqlName = right.sqlName) :
    left = right := by
  have named : ∀ table : Table, ([Table.alert, .heartbeat, .alertident, .toolAlert,
      .correlationAlert, .overflowAlert, .analyzer, .classification, .reference, .source, .target,
      .file, .fileAccess, .fileAccessPermission, .linkage, .inode, .checksum, .impact, .action,
      .confidence, .assessment, .additionalData, .createTime, .detectTime, .analyzerTime, .node,
      .address, .user, .userId, .process, .processArg, .processEnv, .service, .webService,
      .webServiceArg, .snmpService].find? fun other => other.sqlName = table.sqlName) =
        some table := by
    intro table
    cases table <;> decide
  have ofLeft := named left
  rw [same, named right, Option.some.injEq] at ofLeft
  exact ofLeft.symm

namespace ClassId

/-- The classes below a class that the format stores: all children but the file of a linkage. -/
def storedChildren (id : ClassId) : List ClassId :=
  if id = .linkage then [] else id.children.filterMap fun entry => entry.2.content.classId

/-- The chains of stored classes below a class, down to a number of levels. -/
def chains : Nat → ClassId → List (List ClassId)
  | 0, _ => [[]]
  | levels + 1, id =>
      [] :: id.storedChildren.flatMap fun next => (chains levels next).map (next :: ·)

/-- A number of levels that no chain below the class exceeds. -/
def levels : ClassId → Nat
  | .alert | .heartbeat => 4
  | .analyzer | .source | .target => 3
  | .file => 2
  | .classification | .assessment | .toolAlert | .correlationAlert | .node | .user | .service
  | .fileAccess => 1
  | _ => 0

theorem levels_lt {id next : ClassId} (isNext : next ∈ id.storedChildren) :
    next.levels < id.levels := by
  have all : ∀ next ∈ id.storedChildren, next.levels < id.levels := by
    cases id <;> decide
  exact all next isNext

/-- A child that is a class has the name of the class; that of a linkage is a file. -/
theorem name_of_child {id next : ClassId} {name : String} {child : Child}
    (isChild : id.child name = some child) (isClass : child.content.classId = some next) :
    name = next.name ∧ (id = .linkage → next = .file) := by
  have all : ∀ entry ∈ id.children, ∀ next ∈ entry.2.content.classId,
      entry.1 = next.name ∧ (id = .linkage → next = .file) := by
    cases id <;> decide
  exact all _ (mem_children_of_child isChild) next isClass

theorem nil_mem_chains (levels : Nat) (id : ClassId) : [] ∈ id.chains levels := by
  cases levels <;> simp [chains]

theorem cons_mem_chains {levels : Nat} {id next : ClassId} {chain : List ClassId}
    (isNext : next ∈ id.storedChildren) (inside : chain ∈ next.chains levels) :
    next :: chain ∈ id.chains (levels + 1) := by
  simp only [chains, List.mem_cons, List.mem_flatMap, List.mem_map]
  exact .inr ⟨next, isNext, chain, inside, rfl⟩

theorem chains_mono {levels more : Nat} {id : ClassId} {chain : List ClassId}
    (inside : chain ∈ id.chains levels) (le : levels ≤ more) : chain ∈ id.chains more := by
  induction levels generalizing id chain more with
  | zero =>
      simp only [chains, List.mem_singleton] at inside
      rw [inside]
      exact nil_mem_chains more id
  | succ levels ih =>
      rw [chains, List.mem_cons, List.mem_flatMap] at inside
      rcases inside with rfl | ⟨next, isNext, found⟩
      · exact nil_mem_chains _ id
      · rcases List.mem_map.mp found with ⟨rest, isRest, rfl⟩
        rcases more with _ | more
        · exact absurd le (by omega)
        · exact cons_mem_chains isNext (ih isRest (by omega))

/-- The last class of a chain below a class. -/
def last : ClassId → List ClassId → ClassId
  | id, [] => id
  | _, next :: chain => last next chain

/-- The names of a chain below a class, and which of them are lists. -/
def steps : ClassId → List ClassId → List (String × Bool)
  | _, [] => []
  | id, next :: chain =>
      (next.name, (id.child next.name).elim false Child.listed) :: steps next chain

end ClassId

/-- The chains of stored classes below a message. -/
def MessageTable.chains (top : MessageTable) : List (List ClassId) := top.classId.chains 4

/-- The letter of the rows of the last class of a chain. -/
def chainLetter : MessageTable → List ClassId → Option ParentType
  | .heartbeat, _ => some .H
  | .alert, .classification :: _ | .alert, .assessment :: _ | .alert, .overflowAlert :: _ => none
  | .alert, .toolAlert :: rest => if rest.head? = some .alertident then some .T else none
  | .alert, .correlationAlert :: rest => if rest.head? = some .alertident then some .C else none
  | .alert, .source :: rest => if rest = [] then none else some .S
  | .alert, .target :: rest =>
      if rest = [] then none
      else if rest.head? = some .file then
        if rest[1]? = some .fileAccess ∧ rest[2]? = some .userId then some .F else none
      else some .T
  | .alert, _ => some .A

/-- A letter that a table is joined with, if any, leaves one chain to a class. -/
theorem chain_of_letter {top other : MessageTable} {chain : List ClassId} {found : List ClassId}
    (inTop : chain ∈ top.chains) (notEmpty : chain ≠ []) (inOther : found ∈ other.chains)
    (sameLast : ClassId.last top.classId chain = ClassId.last other.classId found)
    (letter : ∀ letter ∈ chainLetter top chain, chainLetter other found = some letter) :
    top = other ∧ chain = found := by
  have all : ∀ chain ∈ top.chains, chain ≠ [] → ∀ found ∈ other.chains,
      ClassId.last top.classId chain = ClassId.last other.classId found →
        (∀ letter ∈ chainLetter top chain, chainLetter other found = some letter) →
          top = other ∧ chain = found := by
    cases top <;> cases other <;> decide +kernel
  exact all chain inTop notEmpty found inOther sameLast letter

theorem last_ne_message {top : MessageTable} {chain : List ClassId} (inTop : chain ∈ top.chains)
    (notEmpty : chain ≠ []) (other : MessageTable) :
    ClassId.last top.classId chain ≠ other.classId := by
  have all : ∀ chain ∈ top.chains, chain ≠ [] →
      ClassId.last top.classId chain ≠ other.classId := by
    cases top <;> cases other <;> decide +kernel
  exact all chain inTop notEmpty

/-- Only the permissions of file accesses are lists of strings in a class that is listed itself. -/
theorem chain_of_permission {top : MessageTable} {chain : List ClassId} (inTop : chain ∈ top.chains)
    (ofStrings : (ClassId.last top.classId chain).listedNames ≠ [])
    (listed : ((ClassId.steps top.classId chain).getLast?).any Prod.snd = true) :
    top = .alert ∧ chain = [.target, .file, .fileAccess] := by
  have all : ∀ chain ∈ top.chains, (ClassId.last top.classId chain).listedNames ≠ [] →
      ((ClassId.steps top.classId chain).getLast?).any Prod.snd = true →
        top = .alert ∧ chain = [.target, .file, .fileAccess] := by
    cases top <;> decide +kernel
  exact all chain inTop ofStrings listed

/-- No two classes have one name, and none has that of a list of strings. -/
theorem ClassId.name_injective {left right : ClassId} (same : left.name = right.name) :
    left = right := by
  have named : ∀ id : ClassId, ([ClassId.alert, .heartbeat, .analyzer, .source, .target,
      .classification, .reference, .assessment, .impact, .action, .confidence, .additionalData,
      .toolAlert, .correlationAlert, .overflowAlert, .alertident, .node, .address, .user, .userId,
      .process, .service, .webService, .snmpService, .file, .fileAccess, .linkage, .inode,
      .checksum].find? fun other => other.name = id.name) = some id := by
    intro id
    cases id <;> decide
  have ofLeft := named left
  rw [same, named right, Option.some.injEq] at ofLeft
  exact ofLeft.symm

theorem name_notMem_listedNames (id owner : ClassId) : id.name ∉ owner.listedNames := by
  have all : ∀ entry ∈ listTables, ∀ name ∈ entry.1.listedNames, id.name ≠ name := by
    cases id <;> decide
  intro present
  have isList : ∃ entry ∈ listTables, entry.1 = owner := by
    cases owner <;> simp [ClassId.listedNames, listTables] at present ⊢
  rcases isList with ⟨entry, inTables, rfl⟩
  exact all entry inTables _ present rfl

/-- What a path to a value goes through: a chain of classes, then the value. -/
structure Ends (id : ClassId) (elements before : List PathElement) (leaf : PathElement)
    (chain : List ClassId) : Prop where
  split : elements = before ++ [leaf]
  contents : before.map PathElement.content = chain.map Content.cls
  steps : before.map (fun element => (element.name, decide (element.index ≠ .forbidden))) =
    id.steps chain
  isChild : ∃ child, (id.last chain).child leaf.name = some child ∧
    child.content = leaf.content ∧ leaf.index.Fits child.listed

/-- The file of a linkage. -/
def LinkedFile (parent element : PathElement) : Prop :=
  parent.content = .cls .linkage ∧ element.content = .cls .file

instance (parent element : PathElement) : Decidable (LinkedFile parent element) :=
  inferInstanceAs (Decidable (_ ∧ _))

/-- Elements below a class that end in a value go through a chain of stored classes. -/
theorem Follows.ends {id : ClassId} {elements : List PathElement} (follows : Follows id elements)
    (notEmpty : elements ≠ []) {parent : PathElement} (isParent : parent.content = .cls id)
    (stored : (parent :: elements).IsChain fun first second => ¬ LinkedFile first second)
    (value : ∀ leaf ∈ elements.getLast?, leaf.content.type ≠ .class_) :
    ∃ before leaf chain, Ends id elements before leaf chain ∧ chain ∈ id.chains id.levels := by
  induction elements generalizing id parent with
  | nil => exact absurd rfl notEmpty
  | cons element rest ih =>
      rcases follows with ⟨⟨child, isChild, content, fits⟩, later⟩
      rcases rest with _ | ⟨next, rest⟩
      · exact ⟨[], element, [], ⟨rfl, rfl, rfl, child, isChild, content, fits⟩,
          ClassId.nil_mem_chains _ _⟩
      · cases isContent : element.content with
        | value type => simp [isContent] at later
        | cls below =>
            simp only [isContent] at later
            rw [List.isChain_cons_cons] at stored
            rcases ih later (by simp) isContent stored.2 (by simpa using value) with
              ⟨before, leaf, chain, ends, inChains⟩
            have isClass : child.content.classId = some below := by
              rw [content, isContent, Content.classId]
            rcases ClassId.name_of_child isChild isClass with ⟨isName, ofLinkage⟩
            have isNext : below ∈ id.storedChildren := by
              rw [ClassId.storedChildren, if_neg]
              · exact List.mem_filterMap.mpr ⟨_, ClassId.mem_children_of_child isChild, isClass⟩
              · intro isLinkage
                refine stored.1 ⟨isLinkage ▸ isParent, ?_⟩
                rw [isContent, ofLinkage isLinkage]
            have fewer := ClassId.levels_lt isNext
            have inLevels : below :: chain ∈ id.chains (id.levels - 1 + 1) :=
              ClassId.cons_mem_chains isNext (ClassId.chains_mono inChains (by omega))
            refine ⟨element :: before, leaf, below :: chain, ⟨?_, ?_, ?_, ends.isChild⟩, ?_⟩
            · rw [ends.split, List.cons_append]
            · rw [List.map_cons, ends.contents, isContent, List.map_cons]
            · have flag : decide (element.index ≠ .forbidden) = child.listed := by
                rw [Bool.eq_iff_iff, decide_eq_true_iff, fits.listed_eq]
              rw [List.map_cons, ends.steps, ClassId.steps, ← isName, isChild, Option.elim_some,
                flag]
            · rwa [Nat.sub_add_cancel (by omega)] at inLevels

namespace IdmefPath

variable (path : IdmefPath)

/-- The elements down to the one whose row holds the value: a list of strings has rows itself. -/
def rowElements : List PathElement :=
  if path.leafIndex = .forbidden then path.below.dropLast else path.below

/-- A path to a value that the format stores below the message, without an index of -1. -/
structure Stored : Prop where
  deep : 3 ≤ path.getDepth
  value : path.leafType ≠ .class_
  unlinked : path.elements.IsChain fun first second => ¬ LinkedFile first second
  fromStart : ∀ element ∈ path.elements, element.index ≠ .number (-1)

end IdmefPath

/-- The list of strings that a path ends in. -/
def IdmefPath.list (path : IdmefPath) : Option String :=
  if path.leafIndex = .forbidden then none else some path.leafName

theorem ClassId.getElem?_last (id : ClassId) (chain : List ClassId) :
    (id :: chain)[chain.length]? = some (id.last chain) := by
  induction chain generalizing id with
  | nil => rfl
  | cons next chain ih => simpa [ClassId.last] using ih next

/-- What a stored path goes through: the classes below its message, then the value. -/
structure Through (path : IdmefPath) (before : List PathElement) (leaf : PathElement)
    (chain : List ClassId) : Prop where
  ends : Ends path.top.classId path.below before leaf chain
  inChains : chain ∈ path.top.chains
  notEmpty : chain ≠ []
  value : leaf.content.type ≠ .class_

namespace Through

variable {path : IdmefPath} {before : List PathElement} {leaf : PathElement}
  {chain : List ClassId}

theorem length_before (through : Through path before leaf chain) :
    before.length = chain.length := by
  simpa using congrArg List.length through.ends.contents

theorem depth (through : Through path before leaf chain) :
    path.getDepth = chain.length + 2 := by
  simp [IdmefPath.getDepth, IdmefPath.elements, through.ends.split, through.length_before]

theorem elements (through : Through path before leaf chain) :
    path.elements = (⟨path.top.classId.name, .forbidden, .cls path.top.classId⟩ :: before) ++
      [leaf] := by
  rw [IdmefPath.elements, through.ends.split, List.cons_append]

theorem getElem?_last (through : Through path before leaf chain) :
    path.elements[path.getDepth - 1]? = some leaf := by
  rw [through.elements, through.depth]
  simp [through.length_before]

theorem leafName (through : Through path before leaf chain) : path.leafName = leaf.name := by
  rw [IdmefPath.leafName, IdmefPath.getName, through.getElem?_last, Option.elim_some]

theorem leafIndex (through : Through path before leaf chain) : path.leafIndex = leaf.index := by
  rw [IdmefPath.leafIndex, IdmefPath.getIndex, through.getElem?_last, Option.elim_some]

theorem getClass (through : Through path before leaf chain) (depth : Nat) :
    path.getClass depth = (path.top.classId :: chain)[depth]? := by
  have noClass : leaf.content.classId = none := by
    have value := through.value
    cases content : leaf.content with
    | value type => rfl
    | cls id => simp [content, Content.type] at value
  have contents : path.elements.map PathElement.content =
      (path.top.classId :: chain).map Content.cls ++ [leaf.content] := by
    rw [through.elements, List.map_append, List.map_cons, through.ends.contents]
    rfl
  have all : path.getClass depth =
      (path.elements.map PathElement.content)[depth]?.bind Content.classId := by
    rw [IdmefPath.getClass, List.getElem?_map, Option.bind_map]
    rfl
  rw [all, contents]
  rcases Nat.lt_trichotomy depth (chain.length + 1) with inside | atLeaf | beyond
  · rw [List.getElem?_append_left (by simpa using inside), List.getElem?_map, Option.bind_map]
    cases (path.top.classId :: chain)[depth]? <;> rfl
  · rw [List.getElem?_append_right (by simp [atLeaf]), atLeaf]
    simp [noClass]
  · rw [List.getElem?_eq_none (by simp; omega), List.getElem?_eq_none (by simp; omega)]
    rfl

theorem parentClass (through : Through path before leaf chain) :
    path.parentClass = some (path.top.classId.last chain) := by
  rw [IdmefPath.parentClass, through.getClass, through.depth, Nat.add_sub_cancel,
    ClassId.getElem?_last]

theorem rowElements (through : Through path before leaf chain) :
    path.rowElements = before ++ if leaf.index = .forbidden then [] else [leaf] := by
  rw [IdmefPath.rowElements, through.leafIndex, through.ends.split]
  by_cases listed : leaf.index = .forbidden <;> simp [listed]

theorem list (through : Through path before leaf chain) :
    path.list = if leaf.index = .forbidden then none else some leaf.name := by
  rw [IdmefPath.list, through.leafIndex, through.leafName]

/-- The names of the elements down to the row, and which of them are lists. -/
theorem steps (through : Through path before leaf chain) :
    path.rowElements.map (fun element => (element.name, decide (element.index ≠ .forbidden))) =
      path.top.classId.steps chain ++ path.list.toList.map (·, true) := by
  rw [through.rowElements, List.map_append, through.ends.steps, through.list]
  by_cases listed : leaf.index = .forbidden <;> simp [listed]

theorem list_mem (through : Through path before leaf chain) {name : String}
    (isList : path.list = some name) :
    name ∈ (path.top.classId.last chain).listedNames := by
  rcases through.ends.isChild with ⟨child, isChild, content, fits⟩
  have listedValue : ∀ entry ∈ (path.top.classId.last chain).children, entry.2.listed = true →
      entry.2.content.type ≠ .class_ →
        entry.1 ∈ (path.top.classId.last chain).listedNames := by
    cases path.top.classId.last chain <;> decide
  rw [through.list] at isList
  split at isList
  · exact absurd isList (by simp)
  · next listed =>
      rw [← Option.some.inj isList]
      exact listedValue _ (ClassId.mem_children_of_child isChild) (fits.listed_eq.mpr listed)
        (content ▸ through.value)

/-- The class resolver gives the table of the class, or that of the list of strings. -/
theorem table (through : Through path before leaf chain) :
    ∃ table, ElementTable (path.top.classId.last chain) path.list table ∧
      (searchPath path).resolveTableName path = table.sqlName := by
  have deep : path.getDepth ≠ 2 := by
    have notEmpty := List.length_pos_iff.mpr through.notEmpty
    rw [through.depth]
    omega
  cases isList : path.list with
  | none =>
      refine ⟨_, .cls _, ?_⟩
      have notListed : path.leafIndex = .forbidden := by
        rw [IdmefPath.list] at isList
        by_contra listed
        simp [listed] at isList
      rw [(IdmefPath.resolveTableName_eq_iff through.parentClass deep).mpr (.inl notListed)]
      cases path.top.classId.last chain <;> decide
  | some name =>
      have present := through.list_mem isList
      have isName : path.leafName = name := by
        rw [IdmefPath.list] at isList
        split at isList
        · exact absurd isList (by simp)
        · exact Option.some.inj isList
      rw [searchPath, through.parentClass]
      cases isLast : path.top.classId.last chain <;>
        simp [isLast, ClassId.listedNames] at present
      · rcases present with rfl | rfl
        · refine ⟨.processArg, .list (by decide), ?_⟩
          simp [processTableNameResolver, isName, Table.sqlName]
        · refine ⟨.processEnv, .list (by decide), ?_⟩
          simp [processTableNameResolver, isName, Table.sqlName]
      · subst present
        refine ⟨.webServiceArg, .list (by decide), ?_⟩
        simp [webServiceTableNameResolver, isName, Table.sqlName]
      · subst present
        refine ⟨.fileAccessPermission, .list (by decide), ?_⟩
        simp [fileAccessTableNameResolver, isName, Table.sqlName]

theorem letter (through : Through path before leaf chain) :
    resolveParentType path = chainLetter path.top chain := by
  have deep : path.getDepth ≠ 2 := by
    have notEmpty := List.length_pos_iff.mpr through.notEmpty
    rw [through.depth]
    omega
  have named := IdmefPath.leafName_ne_detectTime deep
  rcases chain with _ | ⟨first, rest⟩
  · exact absurd rfl through.notEmpty
  · have classes := through.getClass
    have depth := through.depth
    have deeper : path.getDepth = 3 ↔ rest = [] := by
      rw [depth, List.length_cons]
      rcases rest with _ | ⟨second, rest⟩ <;> simp
    have aboveThree : path.getDepth > 3 ↔ rest ≠ [] := by
      rw [depth, List.length_cons]
      rcases rest with _ | ⟨second, rest⟩ <;> simp
    rw [resolveParentType]
    cases path.top with
    | heartbeat => rfl
    | alert =>
        simp only [resolveAlertParentType, classes, MessageTable.classId]
        cases first <;>
          simp [chainLetter, resolveAlertidentParentType, resolveSourceParentType,
            resolveTargetParentType, resolveFileParentType, classes, named, deeper, aboveThree,
            List.head?_eq_getElem?]

end Through

/-- A stored path goes through a chain of classes that are stored. -/
theorem IdmefPath.Stored.through {path : IdmefPath} (stored : path.Stored) :
    ∃ before leaf chain, Through path before leaf chain := by
  have elements : path.elements = ⟨path.top.classId.name, .forbidden, .cls path.top.classId⟩ ::
      path.below := rfl
  have isLast : path.below.getLast? = path.elements[path.getDepth - 1]? := by
    have notEmpty := List.length_pos_iff.mpr path.notEmpty
    rw [IdmefPath.getDepth, elements, List.length_cons, Nat.add_sub_cancel,
      List.getLast?_eq_getElem?]
    rcases Nat.exists_eq_succ_of_ne_zero (Nat.pos_iff_ne_zero.mp notEmpty) with ⟨count, isCount⟩
    rw [isCount, List.getElem?_cons_succ, Nat.succ_sub_one]
  have value : ∀ leaf ∈ path.below.getLast?, leaf.content.type ≠ .class_ := by
    intro leaf isLeaf
    have atLeaf := stored.value
    rw [IdmefPath.leafType, IdmefPath.getValueType, ← isLast, isLeaf] at atLeaf
    exact atLeaf
  rcases path.follows.ends path.notEmpty rfl (elements ▸ stored.unlinked) value with
    ⟨before, leaf, chain, ends, inChains⟩
  have isLeaf : leaf ∈ path.below.getLast? := by
    rw [ends.split]
    simp
  have length := congrArg List.length ends.contents
  refine ⟨before, leaf, chain, ends, ?_, ?_, value leaf isLeaf⟩
  · have fromTop : path.top.classId.levels = 4 := by
      cases path.top <;> rfl
    rwa [fromTop] at inChains
  · rintro rfl
    have deep := stored.deep
    simp [IdmefPath.getDepth, elements, ends.split] at deep length
    simp [length] at deep

end RequiemDB
