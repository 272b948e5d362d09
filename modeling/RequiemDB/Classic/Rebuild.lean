import RequiemDB.Classic.Answered
import RequiemDB.Classic.Footprint

/-!
# The readers rebuild the parts of a message

A reader that is shown the rows of a part answers the part, its texts as the
plugin returns them.
-/

namespace RequiemDB

open Lib

variable {E : EnumKind → Type} [Librequiem E] [∀ kind, Inhabited (E kind)]
variable {retrieval : Retrieval} {store : Store} {ident : Nat} {letter : ParentType} {index : Int}

section Lists

variable {α β : Type} {columns : List Column} {query : Select}

/-- A list whose elements do not depend on their positions. -/
theorem each_single (start : Int) (answer : α → β) (elements : List α) :
    each (fun _ element => [answer element]) start elements = elements.map answer := by
  induction elements generalizing start with
  | nil => rfl
  | cons element elements ih => simp [ih]

theorem length_each_single (start : Int) (answer : Int → α → β) (elements : List α) :
    (each (fun index element => [answer index element]) start elements).length =
      elements.length := by
  induction elements generalizing start with
  | nil => rfl
  | cons element elements ih => simp [ih]

theorem read_getListed_map {body : Int → Fetched → Get β} {row : Int → α → Row} {answer : α → β}
    {elements : List α}
    (rows : store.select query = each (fun index element => [row index element]) 0 elements)
    (reads : ∀ index element, (body index (columns.map (row index element).cell)).read retrieval
      store = .ok (answer element)) :
    (getListed columns query body).read retrieval store = .ok (elements.map answer) := by
  rw [← each_single 0]
  exact read_getListed retrieval rows fun position element _ => reads position element

theorem read_getStringListed {row : Int → String → Row} {values : List String}
    (rows : store.select query = each (fun index value => [row index value]) 0 values)
    (cells : ∀ index value, columns.map (row index value).cell = [stringLiteral (some value)]) :
    (getStringListed columns query).read retrieval store = .ok (retrieval.texts values) := by
  have listed := @read_getListed_map retrieval store String (Option String) columns query
    (fun _ row => getString row 0) row (fun value => retrieval.text (some value)) values rows
    fun index value => by simp [cells]
  rw [getStringListed, Get.read_bind, listed]
  simp [Retrieval.texts, List.filterMap_map]

end Lists

section Nodes

variable (names : retrieval.emptyIsNull → NamesGiven E)
include names

theorem read_getAddress {addresses : List (Address E)}
    (shows : Shows store ident [(.address, .is letter)] [index]
      (listed (fun position address => [.must (addressRow letter ident index position address)])
        addresses)) :
    (getAddress ident letter index).read retrieval store =
      .ok (addresses.map (Address.mapTexts retrieval.textMap)) := by
  apply read_getListed_map
  · apply shows.selectListed (.head _) rfl _ fun _ _ => rfl
    simp [Select.Matches, addressRow, ParentTypeTest.Holds]
  · intro position address
    simp [addressRow, Row.cell, map_enumLiteral names, Address.mapTexts, Function.comp_def]

theorem read_getNode {node : Option (Node E)}
    (shows : Shows store ident (nodeFootprint letter).asked [index]
      (optionalScript (nodeScript letter ident index) node)) :
    (getNode ident letter index).read retrieval store =
      .ok (node.map (Node.mapTexts retrieval.textMap)) := by
  cases node with
  | none => exact read_getSingle_none retrieval (shows.selectNothing (.head _) rfl)
  | some node =>
      have addresses := read_getAddress names
        (shows.tail (List.subset_cons_self _ _) (by simp [TablesApart, nodeRow]))
      rw [getNode, read_getSingle_some retrieval (shows.selectFirst (.head _) rfl
        (by simp [Select.Matches, nodeRow, ParentTypeTest.Holds])
        (by simp [found_listed, found_must, Select.Matches, addressRow]))]
      simp [nodeRow, Row.cell, map_enumLiteral names, Node.mapTexts, addresses]

theorem read_getUserId {fileIndex accessIndex : Int} {userIds : List (UserId E)}
    (rows : store.select
        { table := .userId, parentType := .is letter, messageIdent := ident
          parents := [index, fileIndex, accessIndex], listed := true } =
      each (fun position userId =>
        [userIdRow letter ident index fileIndex accessIndex position userId]) 0 userIds) :
    (getUserId ident letter index fileIndex accessIndex).read retrieval store =
      .ok (userIds.map (UserId.mapTexts retrieval.textMap)) := by
  apply read_getListed_map rows
  intro position userId
  simp [userIdRow, Row.cell, map_enumLiteral names, UserId.mapTexts]

theorem read_getUser {user : Option (User E)}
    (shows : Shows store ident (userFootprint letter).asked [index]
      (optionalScript (userScript letter ident index) user)) :
    (getUser ident letter index).read retrieval store =
      .ok (user.map (User.mapTexts retrieval.textMap)) := by
  cases user with
  | none => exact read_getSingle_none retrieval (shows.selectNothing (.head _) rfl)
  | some user =>
      have below : Shows store ident [(.userId, .is letter)] [index]
          (listed (fun position userId =>
            [.must (userIdRow letter ident index 0 0 position userId)]) user.userIds) :=
        shows.tail (List.subset_cons_self _ _) (by simp [TablesApart, userRow])
      have userIds : (getUserId ident letter index 0 0).read retrieval store =
          .ok (user.userIds.map (UserId.mapTexts retrieval.textMap)) := by
        apply read_getUserId names
        apply (below.narrow (List.Subset.refl _) (List.prefix_append [index] [0, 0])).selectListed
          (.head _) rfl _ fun _ _ => rfl
        simp [Select.Matches, userIdRow, ParentTypeTest.Holds]
      rw [getUser, read_getSingle_some retrieval (shows.selectFirst (.head _) rfl
        (by simp [Select.Matches, userRow, ParentTypeTest.Holds])
        (by simp [found_listed, found_must, Select.Matches, userIdRow]))]
      simp [userRow, Row.cell, map_enumLiteral names, User.mapTexts, userIds]

end Nodes

section Processes

theorem read_getStrings {table : Table} {column : Column} {values : List String}
    (shows : Shows store ident [(table, .is letter)] [index]
      (each (fun position value =>
        [.must (stringRow letter ident index table column position value)]) 0 values)) :
    (getStringListed [column] { table, parentType := .is letter, messageIdent := ident
                                parents := [index], listed := true }).read retrieval store =
      .ok (retrieval.texts values) := by
  apply read_getStringListed
  · apply shows.selectEach (.head _) rfl _ fun _ _ => rfl
    simp [Select.Matches, stringRow, ParentTypeTest.Holds]
  · simp [stringRow, Row.cell]

/-- The arguments are those of the process that stands below the index in a `char`. -/
theorem read_getProcess {processes : Int → Option Process}
    (shows : ∀ index, Shows store ident (processFootprint letter).asked [index]
      (optionalScript (processScript letter ident index) (processes index))) :
    (getProcess ident letter index).read retrieval store =
      .ok ((processes index).map fun process =>
        (process.answered processes index).mapTexts retrieval.textMap) := by
  have args : (getProcessArg ident letter index).read retrieval store =
      .ok (retrieval.texts (argsAsked processes index)) :=
    read_getStrings
      ((shows (charIndex index)).narrow (by simp [processFootprint, Footprint.asked])
        List.prefix_rfl).args
  have envs : (getProcessEnv ident letter index).read retrieval store =
      .ok (retrieval.texts ((processes index).elim [] Process.envs)) :=
    read_getStrings
      ((shows index).narrow (by simp [processFootprint, Footprint.asked]) List.prefix_rfl).envs
  have here := shows index
  cases found : processes index with
  | none =>
      rw [found] at here
      exact read_getSingle_none retrieval (here.selectNothing (.head _) rfl)
  | some process =>
      rw [found] at here envs
      rw [getProcess, read_getSingle_some retrieval (here.selectFirst (.head _) rfl
        (by simp [Select.Matches, processRow, ParentTypeTest.Holds])
        (by simp [found_each, found_must, Select.Matches, stringRow]))]
      simp [processRow, Row.cell, Process.mapTexts, Process.answered, args, envs]

end Processes

section Services

/-- The web service that a kind announces. -/
def ServiceKind.webPart : ServiceKind → Option WebService
  | .web webService => some webService
  | _ => none

/-- The SNMP service that a kind announces. -/
def ServiceKind.snmpPart : ServiceKind → Option SnmpService
  | .snmp snmpService => some snmpService
  | _ => none

variable {kind : ServiceKind}

theorem read_getWebService
    (shows : Shows store ident (serviceFootprint letter).asked.tail [index]
      (serviceKindScript letter ident index kind)) :
    (getWebService ident letter index).read retrieval store =
      .ok (kind.webPart.map (WebService.mapTexts retrieval.textMap)) := by
  cases kind with
  | default => exact read_getSingle_none retrieval (shows.selectNothing (.head _) rfl)
  | snmp snmpService =>
      apply read_getSingle_none
      rw [shows.select (.head _) rfl]
      simp [serviceKindScript, found_must, Select.Matches, snmpServiceRow]
  | web webService =>
      have args : (getWebServiceArg ident letter index).read retrieval store =
          .ok (retrieval.texts webService.args) := by
        have below : Shows store ident [(.webServiceArg, .is letter)] [index]
            (listed (fun position arg =>
              [.must (stringRow letter ident index .webServiceArg .arg position arg)])
              webService.args) :=
          shows.tail (by simp [serviceFootprint, Footprint.asked])
            (by simp [TablesApart, webServiceRow])
        apply read_getStringListed
        · apply below.selectListed (.head _) rfl _ fun _ _ => rfl
          simp [Select.Matches, stringRow, ParentTypeTest.Holds]
        · simp [stringRow, Row.cell]
      rw [getWebService, read_getSingle_some retrieval (shows.selectFirst (.head _) rfl
        (by simp [Select.Matches, webServiceRow, ParentTypeTest.Holds])
        (by simp [found_listed, found_must, Select.Matches, stringRow]))]
      simp [webServiceRow, Row.cell, ServiceKind.webPart, WebService.mapTexts, args]

theorem read_getSnmpService
    (shows : Shows store ident (serviceFootprint letter).asked.tail [index]
      (serviceKindScript letter ident index kind)) :
    (getSnmpService ident letter index).read retrieval store =
      .ok (kind.snmpPart.map (SnmpService.mapTexts retrieval.textMap)) := by
  cases kind with
  | default =>
      exact read_getSingle_none retrieval (shows.selectNothing (.tail _ (.tail _ (.head _))) rfl)
  | web webService =>
      apply read_getSingle_none
      rw [shows.select (.tail _ (.tail _ (.head _))) rfl]
      simp [serviceKindScript, webServiceScript, found_cons, found_listed, found_must,
        Select.Matches, webServiceRow, stringRow]
  | snmp snmpService =>
      rw [getSnmpService, read_getSingle_some retrieval (shows.selectFirst
        (.tail _ (.tail _ (.head _))) rfl
        (by simp [Select.Matches, snmpServiceRow, ParentTypeTest.Holds]) rfl)]
      simp [snmpServiceRow, Row.cell, ServiceKind.snmpPart, SnmpService.mapTexts]

theorem read_getService {service : Option Service}
    (shows : Shows store ident (serviceFootprint letter).asked [index]
      (optionalScript (serviceScript letter ident index) service)) :
    (getService ident letter index).read retrieval store =
      .ok (service.map (Service.mapTexts retrieval.textMap)) := by
  cases service with
  | none =>
      have none : store.select { table := .service, parentType := .is letter, messageIdent := ident
                                 parents := [index], listed := false } = [] :=
        shows.selectNothing (.head _) rfl
      simp [getService, none]
  | some service =>
      have below : Shows store ident (serviceFootprint letter).asked.tail [index]
          (serviceKindScript letter ident index service.kind) :=
        shows.tail (fun _ => List.mem_of_mem_tail)
          (by simp [TablesApart, serviceFootprint, Footprint.asked, serviceRow])
      have one : store.select { table := .service, parentType := .is letter, messageIdent := ident
                                parents := [index], listed := false } =
          [serviceRow letter ident index service] := by
        apply shows.selectFirst (.head _) rfl
        · simp [Select.Matches, serviceRow, ParentTypeTest.Holds]
        · cases service.kind <;> simp [serviceKindScript, webServiceScript, found_cons,
            found_listed, found_must, Select.Matches, webServiceRow, snmpServiceRow, stringRow]
      have kind : ∀ kind : ServiceKind,
          serviceKind (kind.webPart.map (WebService.mapTexts retrieval.textMap))
            (kind.snmpPart.map (SnmpService.mapTexts retrieval.textMap)) =
              kind.mapTexts retrieval.textMap := fun kind => by cases kind <;> rfl
      simp [getService, one, serviceRow, Row.cell, Service.mapTexts,
        read_getWebService below, read_getSnmpService below, kind]

end Services

section Analyzers

variable (names : retrieval.emptyIsNull → NamesGiven E)
include names

theorem read_getAnalyzer {analyzers : List (Analyzer E)}
    (shows : Shows store ident (analyzerFootprint letter).asked []
      (listed (analyzerScript letter ident) analyzers)) :
    (getAnalyzer ident letter).read retrieval store =
      .ok ((answeredUnder Analyzer.answered analyzers).map
        (Analyzer.mapTexts retrieval.textMap)) := by
  rw [analyzerScript_eq] at shows
  have nodes : ∀ index, Shows store ident (nodeFootprint letter).asked [index] (optionalScript
      (nodeScript letter ident index) ((atIndex analyzers index).bind Analyzer.node)) := by
    intro index
    rw [← optionalScript_bind]
    refine (shows.narrow ?_ List.prefix_rfl).partBelow (analyzerRow letter ident) _
      (.analyzer, some letter) (fun _ _ => rfl) (within_analyzerParts letter ident) 0
      (fun _ _ => rfl) ?_ index
    · simp [analyzerFootprint, analyzerFootprints, nodeFootprint, Footprint.asked]
    · cases letter <;> decide
  have processes : ∀ index, Shows store ident (processFootprint letter).asked [index]
      (optionalScript (processScript letter ident index)
        (processAt Analyzer.process analyzers index)) := by
    intro index
    rw [processAt, ← optionalScript_bind]
    refine (shows.narrow ?_ List.prefix_rfl).partBelow (analyzerRow letter ident) _
      (.analyzer, some letter) (fun _ _ => rfl) (within_analyzerParts letter ident) 1
      (fun _ _ => rfl) ?_ index
    · simp [analyzerFootprint, analyzerFootprints, nodeFootprint, processFootprint,
        Footprint.asked]
    · cases letter <;> decide
  have heads : Shows store ident [(.analyzer, .is letter)] []
      (listed (fun index analyzer => [.must (analyzerRow letter ident index analyzer)])
        analyzers) := by
    refine (shows.narrow ?_ List.prefix_rfl).heads (analyzerRow letter ident) _
      (fun index analyzer => Within.flatten (within_analyzerParts letter ident index analyzer)) ?_
    · simp [analyzerFootprint, Footprint.asked]
    · simp [TablesApart, analyzerFootprints, nodeFootprint, processFootprint]
  rw [answeredUnder, map_each]
  apply read_getListed
  · apply heads.selectListed (.head _) rfl _ fun _ _ => rfl
    simp [Select.Matches, analyzerRow, ParentTypeTest.Holds]
  · intro position analyzer found
    have node := read_getNode names (nodes position)
    have process := @read_getProcess retrieval store ident letter position _ processes
    simp [analyzerRow, Row.cell, node, process, found, processAt, Analyzer.answered,
      Analyzer.mapTexts, Function.comp_def]

end Analyzers

theorem getNested_map {α β γ : Type} (body : Int → β → Get γ) (make : α → β) (start : Int)
    (elements : List α) :
    getNested body start (elements.map make) =
      getNested (fun index element => body index (make element)) start elements := by
  induction elements generalizing start with
  | nil => rfl
  | cons element elements ih => simp only [List.map_cons, getNested, ih]

section Files

variable {unassigned : Int} {fileIndex : Int} (names : retrieval.emptyIsNull → NamesGiven E)
include names

omit [∀ kind, Inhabited (E kind)] names in
theorem length_select_fileAccess {fileAccesses : List (FileAccess E)}
    (shows : Shows store ident accessFootprint.asked [index, fileIndex]
      (listed (fileAccessScript ident index fileIndex) fileAccesses)) :
    (store.select { table := .fileAccess, parentType := .any, messageIdent := ident
                    parents := [index, fileIndex], listed := true }).length =
      fileAccesses.length := by
  rw [fileAccessScript_eq] at shows
  have heads : Shows store ident [(.fileAccess, .any)] [index, fileIndex] (listed
      (fun access _ => [.must (fileAccessRow ident index fileIndex access)]) fileAccesses) :=
    (shows.narrow (by decide) List.prefix_rfl).heads _ _ (fun access fileAccess =>
      Within.flatten (within_accessParts ident index fileIndex access fileAccess)) (by decide)
  rw [heads.selectListed (.head _) rfl _ fun _ _ => rfl, length_each_single]
  simp [Select.Matches, fileAccessRow, ParentTypeTest.Holds]

/-- The users and the permissions of the file access at an index. -/
theorem read_fileAccess {fileAccesses : List (FileAccess E)}
    (shows : Shows store ident accessFootprint.asked [index, fileIndex]
      (listed (fileAccessScript ident index fileIndex) fileAccesses)) {position : Nat}
    {fileAccess : FileAccess E} (found : fileAccesses[position]? = some fileAccess) :
    (getUserId ident .F index fileIndex position).read retrieval store =
        .ok ([fileAccess.userId].map (UserId.mapTexts retrieval.textMap)) ∧
      (getFileAccessPermission ident index fileIndex position).read retrieval store =
        .ok (retrieval.texts fileAccess.permissions) := by
  rw [fileAccessScript_eq] at shows
  have permission : Shows store ident [(.fileAccessPermission, .any)]
      [index, fileIndex, position] (optionalScript (fun fileAccess : FileAccess E =>
        listed (fun perm text => [.must (fileAccessPermissionRow ident index fileIndex position
          perm text)]) fileAccess.permissions) (atIndex fileAccesses position)) :=
    (shows.narrow (by decide) List.prefix_rfl).partBelow
      (fun access _ => fileAccessRow ident index fileIndex access) _ (.fileAccess, none)
      (fun _ _ => rfl) (within_accessParts ident index fileIndex) 0 (fun _ _ => rfl) (by decide)
      position
  have user : Shows store ident [(.userId, .is .F)] [index, fileIndex, position]
      (optionalScript (fun fileAccess : FileAccess E =>
        [.must (userIdRow .F ident index fileIndex position 0 fileAccess.userId)])
        (atIndex fileAccesses position)) :=
    (shows.narrow (by decide) List.prefix_rfl).partBelow
      (fun access _ => fileAccessRow ident index fileIndex access) _ (.fileAccess, none)
      (fun _ _ => rfl) (within_accessParts ident index fileIndex) 1 (fun _ _ => rfl) (by decide)
      position
  rw [atIndex_natCast, found] at user permission
  constructor
  · apply read_getUserId names
    apply Shows.selectEach user (.head _) rfl _ fun _ _ => rfl
    simp [Select.Matches, userIdRow, ParentTypeTest.Holds]
  · apply read_getStringListed
    · apply permission.selectListed (.head _) rfl _ fun _ _ => rfl
      simp [Select.Matches, fileAccessPermissionRow, ParentTypeTest.Holds]
    · simp [fileAccessPermissionRow, Row.cell]

/-- As many file accesses are read as the low half of their number says. -/
theorem read_getFileAccess {fileAccesses : List (FileAccess E)}
    (shows : Shows store ident accessFootprint.asked [index, fileIndex]
      (listed (fileAccessScript ident index fileIndex) fileAccesses)) :
    (getFileAccess unassigned ident index fileIndex).read retrieval store =
      .ok ((fileAccesses.take (fileAccesses.length % 2 ^ 32)).map
        (FileAccess.mapTexts retrieval.textMap)) := by
  have replicated : List.replicate (fileAccesses.length % 2 ^ 32) () =
      (fileAccesses.take (fileAccesses.length % 2 ^ 32)).map fun _ => () := by
    rw [List.map_const', List.length_take, Nat.min_eq_left (Nat.mod_le _ _)]
  have number : (UInt32.ofInt (fileAccesses.length : Int)).toNat =
      fileAccesses.length % 2 ^ 32 := by
    have := (uint32_ofInt_eq_iff fileAccesses.length _).mp rfl
    omega
  have nested : (getNested (fun cnt _ => do
      let userIds ← getUserId ident .F index fileIndex cnt
      let permissions ← getFileAccessPermission ident index fileIndex cnt
      return ({ userId := userIds.getLast?.getD initialUserId, permissions } : FileAccess E)) 0
      (List.replicate (fileAccesses.length % 2 ^ 32) ())).read retrieval store =
        .ok ((fileAccesses.take (fileAccesses.length % 2 ^ 32)).map
          (FileAccess.mapTexts retrieval.textMap)) := by
    rw [replicated, getNested_map, ← each_single 0]
    apply read_getNested
    intro position fileAccess inTake
    have found : fileAccesses[position]? = some fileAccess := by
      rw [List.getElem?_take] at inTake
      split at inTake
      · exact inTake
      · exact absurd inTake (by simp)
    rcases read_fileAccess names shows found with ⟨userIds, permissions⟩
    simp [userIds, permissions, FileAccess.mapTexts]
  have counted : (countField [] { table := .fileAccess, parentType := .any, messageIdent := ident
                                  parents := [index, fileIndex], listed := true }).read retrieval
      store = .ok [.number fileAccesses.length] := by
    simp [countField, length_select_fileAccess shows]
  simp only [getFileAccess, Get.read_bind, counted, ok_bind, read_requiemdbSqlTableFetchRow,
    read_requiemdbSqlRowFetchField, List.getD_cons_zero, fetchField_number, Get.read_convert,
    requiemdbSqlFieldToUint32, fieldTo_number, Option.getD_some, number]
  exact nested

theorem read_getLinkage {linkages : List (Linkage E)}
    (shows : Shows store ident [(.linkage, .any)] [index, fileIndex]
      (listed (fun position linkage => [.must (linkageRow ident index fileIndex position linkage)])
        linkages)) :
    (getLinkage ident index fileIndex).read retrieval store =
      .ok (linkages.map (Linkage.mapTexts retrieval.textMap)) := by
  apply read_getListed_map
  · apply shows.selectListed (.head _) rfl _ fun _ _ => rfl
    simp [Select.Matches, linkageRow, ParentTypeTest.Holds]
  · intro position linkage
    simp [linkageRow, Row.cell, map_enumLiteral names, Linkage.mapTexts]

theorem read_getChecksum {checksums : List (Checksum E)}
    (shows : Shows store ident [(.checksum, .any)] [index, fileIndex]
      (listed (fun position checksum =>
        [.must (checksumRow ident index fileIndex position checksum)]) checksums)) :
    (getChecksum ident index fileIndex).read retrieval store =
      .ok (checksums.map (Checksum.mapTexts retrieval.textMap)) := by
  apply read_getListed_map
  · apply shows.selectListed (.head _) rfl _ fun _ _ => rfl
    simp [Select.Matches, checksumRow, ParentTypeTest.Holds]
  · intro position checksum
    simp [checksumRow, Row.cell, map_enumLiteral names, Checksum.mapTexts]

omit names in
theorem read_getInode {inode : Option Inode}
    (shows : Shows store ident [(.inode, .any)] [index, fileIndex]
      (optionalScript (fun inode => [.must (inodeRow ident index fileIndex inode)]) inode)) :
    (getInode unassigned ident index fileIndex).read retrieval store =
      .ok (inode.map Inode.answered) := by
  cases inode with
  | none => exact read_getSingle_none retrieval (shows.selectNothing (.head _) rfl)
  | some inode =>
      rw [getInode, read_getSingle_some retrieval (shows.selectFirst (.head _) rfl
        (by simp [Select.Matches, inodeRow, ParentTypeTest.Holds]) rfl)]
      simp only [Get.read_bind]
      rw [read_getTimestamp retrieval store unassigned inode.changeTime]
      · simp [inodeRow, timeCells, Row.cell, Inode.answered]
      · simp [inodeRow, timeCells, Row.cell]
      · simp [inodeRow, timeCells, Row.cell]

/-- The columns of a file as they are read, without its parts. -/
theorem read_getFileRow (file : File E) :
    (getFileRow unassigned ([.ident, .category, .name, .path, .createTime, .createTimeGmtoff,
        .modifyTime, .modifyTimeGmtoff, .accessTime, .accessTimeGmtoff, .dataSize, .diskSize,
        .fstype, .fileType].map (fileRow ident index fileIndex file).cell)).read retrieval store =
      .ok { file.answered.mapTexts retrieval.textMap with
            fileAccesses := [], linkages := [], inode := none, checksums := [] } := by
  simp only [getFileRow, Get.read_bind]
  rw [read_getTimestamp retrieval store unassigned file.createTime,
    read_getTimestamp retrieval store unassigned file.modifyTime,
    read_getTimestamp retrieval store unassigned file.accessTime]
  · simp [fileRow, timeCells, Row.cell, map_enumLiteral names, map_optionalEnumLiteral names,
      File.mapTexts, File.answered, Function.comp_def]
  all_goals simp [fileRow, timeCells, Row.cell]

theorem read_getFile {files : List (File E)}
    (shows : Shows store ident fileFootprint.asked [index]
      (listed (fileScript ident index) files)) :
    (getFile unassigned ident index).read retrieval store =
      .ok ((files.map File.answered).map (File.mapTexts retrieval.textMap)) := by
  rw [fileScript_eq] at shows
  have heads : Shows store ident [(.file, .any)] [index]
      (listed (fun position file => [.must (fileRow ident index position file)]) files) :=
    (shows.narrow (by decide) List.prefix_rfl).heads _ _ (fun position file =>
      Within.flatten (within_fileParts ident index position file)) (by decide)
  have rows : (getElements [.ident, .category, .name, .path, .createTime, .createTimeGmtoff,
      .modifyTime, .modifyTimeGmtoff, .accessTime, .accessTimeGmtoff, .dataSize, .diskSize,
      .fstype, .fileType]
      { table := .file, parentType := .any, messageIdent := ident, parents := [index]
        listed := true }
      fun _ row => (getFileRow unassigned row : Get (File E))).read retrieval store =
      .ok (files.map fun file => { file.answered.mapTexts retrieval.textMap with
        fileAccesses := [], linkages := [], inode := none, checksums := [] }) := by
    rw [read_getElements]
    apply read_getListed_map
    · apply heads.selectListed (.head _) rfl _ fun _ _ => rfl
      simp [Select.Matches, fileRow, ParentTypeTest.Holds]
    · exact fun position file => read_getFileRow names file
  have parts : ∀ (asked : Asked) (part : Nat) {script : Int → File E → Script Row},
      asked ⊆ fileFootprint.asked →
      (∀ position file,
        (fileParts ident index position file)[part]? = some (script position file)) →
      (∀ footprint ∈ [(.file, none)] :: fileFootprints.eraseIdx part,
        TablesApart asked footprint) →
      ∀ position, Shows store ident asked [index, position]
        (optionalScript (script position) (atIndex files position)) := by
    intro asked part script subset found apart
    exact (shows.narrow subset List.prefix_rfl).partBelow (fileRow ident index) _ (.file, none)
      (fun _ _ => rfl) (within_fileParts ident index) part found apart
  have accesses := parts accessFootprint.asked 0 (by decide) (fun _ _ => rfl) (by decide)
  have linkages := parts [(.linkage, .any)] 1 (by decide) (fun _ _ => rfl) (by decide)
  have inodes := parts [(.inode, .any)] 2 (by decide) (fun _ _ => rfl) (by decide)
  have checksums := parts [(.checksum, .any)] 3 (by decide) (fun _ _ => rfl) (by decide)
  rw [getFile, Get.read_bind, rows, ok_bind, getNested_map, List.map_map, ← each_single 0]
  apply read_getNested
  intro position file found
  have access := accesses position
  have linkage := linkages position
  have inode := inodes position
  have checksum := checksums position
  rw [atIndex_natCast, found] at access linkage inode checksum
  simp [read_getFileAccess names access, read_getLinkage names linkage, read_getInode inode,
    read_getChecksum names checksum, File.mapTexts, File.answered]

end Files

end RequiemDB
