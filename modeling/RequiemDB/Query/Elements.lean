import RequiemDB.Query.Matching

/-!
# The rows a joined table finds for a message

In a database that holds an archive, the rows are those placed in the trees of its messages.
The `ON` clause of a path's own table joins to a message the rows of the elements that the
path stands for, and no row of another message.
-/

namespace RequiemDB

open Lib
open AllPlaced (timeTables)

variable {E : EnumKind → Type} [Librequiem E]

section Archive

variable {store : Store} {archive : MessageArchive E} {ident : Nat} {message : Message E}

theorem map_storedRows (entry : ℕ × Message E) :
    (storedRows entry).map Entry.row = (placedRows entry.1 entry.2).map Prod.snd := by
  rw [storedRows, placedRows, List.map_cons, List.map_cons, ← places_message]
  simp [Function.comp_def]

/-- The rows of the database are those in the trees of its messages. -/
theorem Holds.mem_rows_iff (holds : Holds store archive) {row : Row} :
    row ∈ store.rows ↔
      ∃ entry ∈ archive.entries, ∃ place, (place, row) ∈ placedRows entry.1 entry.2 := by
  have ofEntry : ∀ entry : ℕ × Message E, row ∈ (storedRows entry).map Entry.row ↔
      ∃ place, (place, row) ∈ placedRows entry.1 entry.2 := by
    intro entry
    rw [map_storedRows, List.mem_map]
    constructor
    · rintro ⟨⟨place, _⟩, present, rfl⟩
      exact ⟨place, present⟩
    · rintro ⟨place, present⟩
      exact ⟨(place, row), present, rfl⟩
  rw [Store.rows, holds.idle, holds.committed, List.map_flatMap, List.mem_flatMap]
  exact exists_congr fun entry => and_congr_right fun _ => ofEntry entry

theorem belongsTo_of_placed {place : Place} {row : Row}
    (present : (place, row) ∈ placedRows ident message) :
    row.BelongsTo ⟨message.table, ident⟩ := by
  have stored : row ∈ (storedRows (ident, message)).map Entry.row := by
    rw [map_storedRows]
    exact List.mem_map_of_mem present
  rcases List.mem_map.mp stored with ⟨entry, isEntry, rfl⟩
  exact (storedRows_owned isEntry).2

omit [Librequiem E] in
/-- A kind and an ident belong to one message of the archive. -/
theorem message_unique {other : Message E} (present : (ident, message) ∈ archive.entries)
    (otherPresent : (ident, other) ∈ archive.entries) (sameKind : message.table = other.table) :
    message = other := by
  have same := List.inj_on_of_nodup_map archive.distinct present otherPresent
    (Prod.ext sameKind rfl)
  exact congrArg Prod.snd same

/-- The rows of a kind that belong to an ident are placed in the tree of its message. -/
theorem Holds.placed_of_mem (holds : Holds store archive)
    (filed : (ident, message) ∈ archive.entries) {row : Row} (present : row ∈ store.rows)
    (isIdent : row.messageIdent = ident)
    (ofKind : ∀ entry : ℕ × Message E, (∃ place, (place, row) ∈ placedRows entry.1 entry.2) →
      entry.2.table = message.table) :
    ∃ place, (place, row) ∈ placedRows ident message := by
  rcases holds.mem_rows_iff.mp present with ⟨⟨number, other⟩, otherFiled, placed⟩
  have sameKind := ofKind _ placed
  rcases placed with ⟨place, isPlaced⟩
  obtain rfl : number = ident := (belongsTo_of_placed isPlaced).ident.symm.trans isIdent
  obtain rfl := message_unique otherFiled filed sameKind
  exact ⟨place, isPlaced⟩

end Archive

section OwnRows

/-- The rows of the parts of a message stand in no message table. -/
theorem table_of_part {ident : Nat} {message : Message E} {row : Row}
    (present : row ∈ (messageScript ident message).statements) (kind : MessageTable) :
    row.table ≠ kind.table := by
  have apart : ∀ key ∈ messageFootprint message.table, key.1 ≠ kind.table := by
    cases message.table <;> cases kind <;> decide
  rcases List.mem_map.mp present with ⟨item, isItem, rfl⟩
  exact apart _ (within_messageScript ident message item isItem).table

theorem mem_placedRows {ident : Nat} {message : Message E} {row : Row} :
    (∃ place, (place, row) ∈ placedRows ident message) ↔
      row = ownRow ident message ∨ row ∈ (messageScript ident message).statements := by
  rw [← places_message, placedRows]
  constructor
  · rintro ⟨place, present⟩
    rcases List.mem_cons.mp present with isOwn | below
    · exact .inl (congrArg Prod.snd isOwn)
    · exact .inr (List.mem_map_of_mem below)
  · rintro (rfl | present)
    · exact ⟨[], List.mem_cons_self⟩
    · rcases List.mem_map.mp present with ⟨⟨place, _⟩, below, rfl⟩
      exact ⟨place, List.mem_cons_of_mem _ below⟩

/-- The rows of a message table are the own rows of the messages of that kind. -/
theorem Holds.mem_topRows_iff {store : Store} {archive : MessageArchive E}
    (holds : Holds store archive) (kind : MessageTable) {row : Row} :
    row ∈ store.rows ∧ row.table = kind.table ↔
      ∃ ident message, (ident, message) ∈ archive.entries ∧ message.table = kind ∧
        row = ownRow ident message := by
  constructor
  · rintro ⟨present, inTable⟩
    rcases holds.mem_rows_iff.mp present with ⟨⟨ident, message⟩, filed, placed⟩
    rcases mem_placedRows.mp placed with rfl | ofPart
    · exact ⟨ident, message, filed, (messageRow_belongsTo _ _).table_eq inTable, rfl⟩
    · exact absurd inTable (table_of_part ofPart kind)
  · rintro ⟨ident, message, filed, rfl, rfl⟩
    exact ⟨holds.mem_rows_iff.mpr ⟨_, filed, mem_placedRows.mpr (.inl rfl)⟩, rfl⟩

end OwnRows

section Times

/-- A row of one of the other parts stands in no table of times. -/
theorem not_time_of_within {footprints : List Footprint} {scripts : List (Script Row)}
    (within : List.Forall₂ (fun footprint script => Within footprint [] script) footprints
      scripts)
    (noTimes : ∀ footprint ∈ footprints, ∀ key ∈ footprint, key.1 ∉ timeTables.map Prod.snd)
    {row : Row} (present : row ∈ Script.statements scripts.flatten) :
    row.table ∉ timeTables.map Prod.snd := by
  rcases List.mem_map.mp present with ⟨item, isItem, rfl⟩
  have stands := Within.flatten within item isItem
  rcases List.mem_flatten.mp stands.table with ⟨footprint, inFootprints, isKey⟩
  exact noTimes footprint inFootprints _ isKey

theorem statements_optional {α : Type} (row : α → Row) (part : Option α) :
    Script.statements (optionalScript (fun element => [.must (row element)]) part) =
      part.toList.map row := by
  cases part <;> rfl

/-- The rows in the tables of times are those with the times of the message. -/
theorem mem_timeRows_of_part {ident : Nat} {message : Message E} {row : Row}
    (present : row ∈ (messageScript ident message).statements)
    (inTable : row.table ∈ timeTables.map Prod.snd) :
    ∃ name, (name, row) ∈ timeRows ident message := by
  cases message with
  | alert message =>
      rw [messageScript, alertScript_eq, ← List.take_append_drop 3 (alertParts ident message),
        List.flatten_append, Script.statements_append, List.mem_append] at present
      rcases present with ofTime | other
      · simp only [alertParts, List.take_succ_cons, List.take_zero, List.flatten_cons,
          List.flatten_nil, List.append_nil, Script.statements_append, statements_optional,
          List.mem_append, List.mem_map] at ofTime
        rcases ofTime with isCreate | ⟨time, isTime, rfl⟩ | ⟨time, isTime, rfl⟩
        · rw [List.mem_singleton.mp isCreate]
          exact ⟨_, List.mem_cons_self⟩
        · refine ⟨"detect_time", List.mem_append_left _ (List.mem_cons_of_mem _ ?_)⟩
          exact List.mem_map.mpr ⟨time, isTime, rfl⟩
        · refine ⟨"analyzer_time", List.mem_append_right _ ?_⟩
          exact List.mem_map.mpr ⟨time, isTime, rfl⟩
      · have within := List.forall₂_drop 3 (within_alertParts ident message)
        exact absurd inTable (not_time_of_within within (by decide) other)
  | heartbeat message =>
      rw [messageScript, heartbeatScript, Script.statements_append, Script.statements_cons,
        Script.statements_append, statements_optional] at present
      have noTimes : ∀ key ∈ analyzerFootprint .H ++ [(Table.additionalData, some .H)],
          key.1 ∉ timeTables.map Prod.snd := by
        decide
      rcases List.mem_append.mp present with ofAnalyzer | behind
      · rcases List.mem_map.mp ofAnalyzer with ⟨item, isItem, rfl⟩
        have stands := within_analyzers ident .H message.analyzers item isItem
        exact absurd inTable (noTimes _ (List.mem_append_left _ stands.table))
      · rcases List.mem_cons.mp behind with isCreate | later
        · rw [isCreate]
          exact ⟨_, List.mem_cons_self⟩
        · rcases List.mem_append.mp later with ofTime | ofData
          · rcases List.mem_map.mp ofTime with ⟨time, isTime, rfl⟩
            refine ⟨"analyzer_time", List.mem_cons_of_mem _ ?_⟩
            exact List.mem_map.mpr ⟨time, isTime, rfl⟩
          · have within : Within [(.additionalData, some .H)] [] (listed (fun index data =>
                [.must (additionalDataRow .H ident E index data)]) message.additionalData) :=
              .listed fun _ _ => .single ⟨.head _, List.prefix_rfl⟩
            rcases List.mem_map.mp ofData with ⟨item, isItem, rfl⟩
            have stands := (within item isItem).table
            exact absurd inTable (noTimes _ (List.mem_append_right _ stands))

/-- The letter that the rows of a time have in its table. -/
def timeLetter (top : MessageTable) (table : Table) : Option ParentType :=
  if table = .detectTime then none else some (messageLetter top)

/-- The name of a time settles its table and its letter. -/
theorem table_of_timeRow {ident : Nat} {message : Message E} {name : String} {row : Row}
    (isTime : (name, row) ∈ timeRows ident message) :
    (name, row.table) ∈ timeTables ∧ row.parentType = timeLetter message.table row.table ∧
      row ∈ (messageScript ident message).statements := by
  cases message with
  | alert message =>
      rw [messageScript, alertScript_eq]
      simp only [alertParts, List.flatten_cons, Script.statements_append, statements_optional]
      rcases List.mem_append.mp isTime with before | isAnalyzer
      · rcases List.mem_cons.mp before with isCreate | isDetect
        · cases isCreate
          exact ⟨.head _, rfl, List.mem_append_left _ List.mem_cons_self⟩
        · rcases List.mem_map.mp isDetect with ⟨time, inTimes, same⟩
          cases same
          refine ⟨.tail _ (.head _), rfl, List.mem_append_right _ (List.mem_append_left _ ?_)⟩
          exact List.mem_map_of_mem inTimes
      · rcases List.mem_map.mp isAnalyzer with ⟨time, inTimes, same⟩
        cases same
        refine ⟨.tail _ (.tail _ (.head _)), rfl, List.mem_append_right _ (List.mem_append_right _
          (List.mem_append_left _ ?_))⟩
        exact List.mem_map_of_mem inTimes
  | heartbeat message =>
      rw [messageScript, heartbeatScript, Script.statements_append, Script.statements_cons,
        Script.statements_append, statements_optional]
      rcases List.mem_cons.mp isTime with isCreate | isAnalyzer
      · cases isCreate
        exact ⟨.head _, rfl, List.mem_append_right _ List.mem_cons_self⟩
      · rcases List.mem_map.mp isAnalyzer with ⟨time, inTimes, same⟩
        cases same
        refine ⟨.tail _ (.tail _ (.head _)), rfl, List.mem_append_right _ (List.mem_cons_of_mem _
          (List.mem_append_left _ ?_))⟩
        exact List.mem_map_of_mem inTimes

/-- A path of depth 2 that is not answered from the message's own row is that of a time. -/
theorem IdmefPath.time_path (path : IdmefPath) (two : path.getDepth = 2) (notPlain : ¬ path.Plain) :
    ∃ table, (path.leafName, table) ∈ timeTables ∧ (table = .detectTime → path.top = .alert) ∧
      path.tableKey = (table.sqlName, timeLetter path.top table, []) := by
  rcases path with ⟨top, below, notEmpty, follows⟩
  rcases below with _ | ⟨element, _ | ⟨next, rest⟩⟩
  · exact absurd rfl notEmpty
  · rcases follows with ⟨⟨child, isChild, content, fits⟩, _⟩
    have isTime : element.content = .value .time := by
      by_contra other
      refine notPlain ⟨rfl, fun timed => ?_⟩
      cases isContent : element.content <;>
        simp_all [IdmefPath.getValueType, IdmefPath.elements, Content.type]
    have times : ∀ entry ∈ top.classId.children, entry.2.content = .value .time →
        entry.2.listed = false ∧ entry.1 ∈ timeTables.map Prod.fst ∧
          (top = .heartbeat → entry.1 ≠ "detect_time") := by
      cases top <;> decide
    rcases times _ (ClassId.mem_children_of_child isChild) (content.trans isTime) with
      ⟨notListed, named, ofAlert⟩
    have forbidden : element.index = .forbidden := by
      by_contra listed
      rw [fits.listed_eq.mpr listed] at notListed
      exact absurd notListed (by decide)
    rcases element with ⟨name, index, _⟩
    dsimp only at isTime forbidden named ofAlert
    subst isTime forbidden
    simp only [timeTables, List.map_cons, List.map_nil, List.mem_cons, List.not_mem_nil,
      or_false] at named
    rcases named with rfl | rfl | rfl
    · refine ⟨.createTime, .head _, fun isDetect => absurd isDetect (by decide), ?_⟩
      cases top <;> rfl
    · cases top with
      | alert => exact ⟨.detectTime, .tail _ (.head _), fun _ => rfl, rfl⟩
      | heartbeat => exact absurd rfl (ofAlert rfl)
    · refine ⟨.analyzerTime, .tail _ (.tail _ (.head _)),
        fun isDetect => absurd isDetect (by decide), ?_⟩
      cases top <;> rfl
  · simp [IdmefPath.getDepth, IdmefPath.elements] at two

/-- Names of times and their tables belong together. -/
theorem timeTables_unique {name other : String} {table otherTable : Table}
    (isTime : (name, table) ∈ timeTables) (isOther : (other, otherTable) ∈ timeTables) :
    name = other ↔ table = otherTable := by
  have all : ∀ first ∈ timeTables, ∀ second ∈ timeTables,
      first.1 = second.1 ↔ first.2 = second.2 := by
    decide
  exact all _ isTime _ isOther

/-- The letter of a time leaves the kind of message that it belongs to. -/
theorem kind_of_timeLetter {row : Row} {owner : Owner} (belongs : row.BelongsTo owner)
    {name : String} (isTime : (name, row.table) ∈ timeTables) {top : MessageTable}
    (ofAlert : row.table = .detectTime → top = .alert)
    (letter : ∀ letter ∈ timeLetter top row.table, row.parentType = some letter) :
    owner.table = top := by
  have isLetter := belongs.letter
  rcases row with ⟨table, parentType, _, _, _, _⟩
  rcases owner with ⟨kind, _⟩
  dsimp only at isTime ofAlert letter isLetter
  simp only [timeTables, List.mem_cons, Prod.mk.injEq, List.not_mem_nil, or_false] at isTime
  rcases isTime with ⟨_, rfl⟩ | ⟨_, rfl⟩ | ⟨_, rfl⟩
  · cases top <;> cases kind <;> simp_all [timeLetter, Table.letters, messageLetter]
  · cases kind <;> simp_all [Table.letters]
  · cases top <;> cases kind <;> simp_all [timeLetter, Table.letters, messageLetter]

end Times

section Joins

variable {store : Store} {archive : MessageArchive E} {ident : Nat} {message : Message E}
  {path : IdmefPath} {table : JoinedTable}

/-- The table of a time finds the time of the message with that name. -/
theorem Holds.joins_time_iff (holds : Holds store archive)
    (filed : (ident, message) ∈ archive.entries) (two : path.getDepth = 2)
    (notPlain : ¬ path.Plain) (sameTop : path.top = message.table)
    (isBound : table.bound = path.tableKey) (row : Row) :
    row ∈ store.rows ∧ table.Joins ident row ↔ (path.leafName, row) ∈ timeRows ident message := by
  rcases path.time_path two notPlain with ⟨time, isTime, ofAlert, key⟩
  rw [key] at isBound
  simp only [JoinedTable.bound, Prod.mk.injEq] at isBound
  rcases isBound with ⟨tableName, parentType, constraints⟩
  constructor
  · rintro ⟨present, inTable, letter, isIdent, _⟩
    rw [tableName] at inTable
    rw [parentType] at letter
    have sameTable := Table.sqlName_injective inTable
    subst sameTable
    have placed := holds.placed_of_mem filed present isIdent fun entry placed => by
      rcases placed with ⟨place, isPlaced⟩
      rw [← sameTop]
      exact kind_of_timeLetter (belongsTo_of_placed isPlaced) isTime ofAlert letter
    have inTimes : row.table ∈ timeTables.map Prod.snd := List.mem_map_of_mem isTime
    rcases mem_placedRows.mp placed with rfl | ofPart
    · have noTime : ∀ kind : MessageTable, kind.table ∉ timeTables.map Prod.snd := by
        intro kind
        cases kind <;> decide
      exact absurd inTimes (noTime message.table)
    · rcases mem_timeRows_of_part ofPart inTimes with ⟨name, named⟩
      have sameName := (timeTables_unique (table_of_timeRow named).1 isTime).mpr rfl
      rwa [sameName] at named
  · intro named
    rcases table_of_timeRow named with ⟨inTable, letter, ofPart⟩
    have sameTable := (timeTables_unique inTable isTime).mp rfl
    have placed := mem_placedRows.mpr (.inr ofPart)
    refine ⟨holds.mem_rows_iff.mpr ⟨_, filed, placed⟩, ?_, ?_, ?_, ?_⟩
    · rw [tableName, sameTable]
    · rw [parentType, letter, sameTop, sameTable]
      exact fun letter isLetter => isLetter
    · rcases placed with ⟨place, isPlaced⟩
      exact (belongsTo_of_placed isPlaced).ident
    · rw [constraints]
      exact fun _ absent => absurd absent List.not_mem_nil

/-- The table of an element below the message finds the rows of the elements of the path. -/
theorem Holds.joins_element_iff (holds : Holds store archive)
    (filed : (ident, message) ∈ archive.entries) (stored : path.Stored)
    (sameTop : path.top = message.table) (apart : message.Apart path)
    (isBound : table.bound = path.tableKey) (row : Row) :
    row ∈ store.rows ∧ table.Joins ident row ↔
      ∃ place, (place, row) ∈ placedRows ident message ∧
        path.Addresses message.table place := by
  rcases stored.through with ⟨before, leaf, chain, through⟩
  constructor
  · rintro ⟨present, joins⟩
    have isIdent : row.messageIdent = ident := joins.2.2.1
    have placed := holds.placed_of_mem filed present isIdent fun entry placed => by
      rcases placed with ⟨place, isPlaced⟩
      have sameIdent := (belongsTo_of_placed isPlaced).ident
      have inTree := AllPlaced.message entry.1 entry.2 (place, row) isPlaced
      rw [← sameIdent.symm.trans isIdent] at joins
      rw [← sameTop]
      exact (through.rowOf_of_joins isBound inTree joins).1.symm
    rcases placed with ⟨place, isPlaced⟩
    refine ⟨place, isPlaced, ?_⟩
    by_cases ends : path.EndsInPermission
    · exact (through.joins_addressed_iff isBound stored.fromStart ends message).mpr apart
        (place, row) isPlaced joins
    · exact (through.joins_iff ends isBound (AllPlaced.message ident message _ isPlaced)).mp joins
  · rintro ⟨place, isPlaced, addresses⟩
    exact ⟨holds.mem_rows_iff.mpr ⟨_, filed, place, isPlaced⟩,
      through.joins_of_addresses isBound (AllPlaced.message ident message _ isPlaced) addresses⟩

/-- The own table of a path joins to a message the rows that the path stands for. -/
theorem Holds.joins_iff (holds : Holds store archive)
    (filed : (ident, message) ∈ archive.entries) (searched : path.Searched)
    (notPlain : ¬ path.Plain) (sameTop : path.top = message.table) (apart : message.Apart path)
    (isBound : table.bound = path.tableKey) (row : Row) :
    row ∈ store.rows ∧ table.Joins ident row ↔ path.StandsFor ident message row := by
  rw [IdmefPath.StandsFor, if_neg notPlain, and_iff_right sameTop]
  by_cases two : path.getDepth = 2
  · rw [if_pos two]
    exact holds.joins_time_iff filed two notPlain sameTop isBound row
  · have deep := path.two_le_getDepth
    have stored : path.Stored :=
      ⟨by omega, searched.value, searched.unlinked, searched.fromStart⟩
    rw [if_neg two]
    exact holds.joins_element_iff filed stored sameTop apart isBound row

end Joins

end RequiemDB
