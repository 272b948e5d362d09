import Mathlib.Data.List.TakeDrop
import RequiemDB.Classic.Places
import RequiemDB.Classic.Returned

/-!
# A message, inserted and read back

The database behind an insertion shows the reader the rows of the message: what it
had before belongs to other messages. The tree that is read is that of the message
exactly when each process finds its own arguments below the index that the reader
asks for, and no file has so many accesses that their number is cut.
-/

namespace RequiemDB

open Lib

variable {E : EnumKind → Type} [Librequiem E] {α : Type}

section Inserted

/-- The database behind the insertion of a message. -/
def inserted (message : Message E) (store : Store) : Store :=
  ((classicInsert message).run (environment noFaults) store).2

variable (message : Message E) {store : Store} (sound : store.Sound)
include sound

theorem rows_inserted :
    (inserted message store).rows = store.rows ++
      messageRow (store.nextOwner message.table) message.cells ::
        (messageScript (store.next message.table) message).statements := by
  have idle : (inserted message store).Idle :=
    ((classicInsert_addsTo noFaults message sound).sound sound).idle
  have commits := (classicInsert_commits_all message store sound.idle).2
  rw [Store.rows, idle, inserted, commits, Store.rows, sound.idle,
    settledIdent_of_sound message sound]
  simp [ownEntry, childEntry, Function.comp_def]

omit [Librequiem E] sound in
/-- The tests of the tables below a kind of message hold of no row of the other kind. -/
theorem not_holds_of_messageFootprint :
    ∀ entry ∈ (messageFootprint message.table).asked, entry.1 ≠ message.table.table ∧
      ∀ letter ∈ entry.1.letters message.table.other, ¬ entry.2.Holds letter := by
  cases message.table <;> decide

theorem shows_inserted :
    Shows (inserted message store) (store.next message.table)
      (messageFootprint message.table).asked []
        (messageScript (store.next message.table) message) := by
  intro query asks
  rcases not_holds_of_messageFootprint message _ asks.table with ⟨notOwn, otherKind⟩
  have old : store.rows.filter (fun row => query.Matches row) = [] := by
    apply List.filter_eq_nil_iff.mpr
    intro row present
    simpa using sound.not_matches otherKind asks.ident present
  have own : ¬ query.Matches (messageRow (store.nextOwner message.table) message.cells) := by
    rintro ⟨table, _⟩
    exact notOwn table.symm
  rw [rows_inserted message sound, List.filter_append, old, List.nil_append,
    List.filter_cons_of_neg (by simpa using own)]
  rfl

theorem select_inserted :
    (inserted message store).select
        { table := message.table.table, parentType := .any
          messageIdent := store.next message.table, parents := [], listed := false } =
      [messageRow (store.nextOwner message.table) message.cells] := by
  generalize isQuery : ({ table := message.table.table, parentType := .any
                          messageIdent := store.next message.table, parents := []
                          listed := false } : Select) = query
  have old : store.rows.filter (fun row => query.Matches row) = [] := by
    apply List.filter_eq_nil_iff.mpr
    intro row present
    have none : ∀ letter ∈ message.table.table.letters message.table.other,
        ¬ ParentTypeTest.any.Holds letter := by
      cases message.table <;> decide
    have avoids : query.Avoids message.table.other := by
      rw [← isQuery]
      exact none
    have ident : query.messageIdent = store.next message.table := by rw [← isQuery]
    simpa using sound.not_matches avoids ident present
  have below : found query (messageScript (store.next message.table) message) = [] := by
    subst isQuery
    have apart : TablesApart [(message.table.table, .any)] (messageFootprint message.table) := by
      cases message.table <;> decide
    exact Misses.found_eq_nil (within_messageScript (store.next message.table) message) apart
  have own : query.Matches (messageRow (store.nextOwner message.table) message.cells) := by
    subst isQuery
    exact ⟨rfl, trivial, rfl, rfl, by simp⟩
  have unlisted : query.listed = false := by rw [← isQuery]
  rw [Store.select, unlisted, rows_inserted message sound, List.filter_append, old,
    List.nil_append, List.filter_cons_of_pos (by simpa using own)]
  exact congrArg (_ :: ·) below

end Inserted

section Returned

/-- The reader of the messages in a table. -/
def classicGet [∀ kind, Inhabited (E kind)] (unassigned : Int) :
    MessageTable → Nat → Get (MessageRead E)
  | .alert => classicGetAlert unassigned
  | .heartbeat => classicGetHeartbeat unassigned

/-- What is read back of a message. -/
def Message.returned (retrieval : Retrieval) (unassigned : Int) :
    Message E → Except ErrorCode (MessageRead E)
  | .alert message => message.answered.returned retrieval unassigned
  | .heartbeat message => .ok (message.answered.returned retrieval unassigned)

/-- What the reader of a message makes of the rows that were inserted for it. -/
theorem read_classicGet_inserted [∀ kind, Inhabited (E kind)] {retrieval : Retrieval}
    (names : retrieval.emptyIsNull → NamesGiven E) (message : Message E) {store : Store}
    (sound : store.Sound) (unassigned : Int) :
    (classicGet unassigned message.table (store.next message.table)).read retrieval
      (inserted message store) = message.returned retrieval unassigned := by
  have shows := shows_inserted message sound
  have own := select_inserted message sound
  cases message with
  | alert alert => exact read_classicGetAlert names own rfl shows
  | heartbeat heartbeat => exact read_classicGetHeartbeat names own rfl rfl shows

end Returned

section Trees

/-! The tree of a message, without the payloads and what the schema cuts of the numbers. -/

def Inode.tree (inode : Inode) : Inode :=
  { inode with changeTime := inode.changeTime.map Time.wholeSeconds }

def File.tree (file : File E) : File E :=
  { file with
    createTime := file.createTime.map Time.wholeSeconds
    modifyTime := file.modifyTime.map Time.wholeSeconds
    accessTime := file.accessTime.map Time.wholeSeconds
    dataSize := file.dataSize.map fun _ => 0
    diskSize := file.diskSize.map fun _ => 0
    inode := file.inode.map Inode.tree }

def Target.tree (target : Target E) : Target E :=
  { target with files := target.files.map File.tree }

def AlertKind.tree : AlertKind → AlertKind
  | .overflow overflowAlert => .overflow { overflowAlert with buffer := .byteString [] }
  | kind => kind

def AdditionalData.tree (additionalData : AdditionalData) : AdditionalData :=
  { additionalData with data := .byteString [] }

def Message.tree : Message E → Message E
  | .alert message => .alert
      { message with
        kind := message.kind.tree
        targets := message.targets.map Target.tree
        additionalData := message.additionalData.map AdditionalData.tree }
  | .heartbeat message => .heartbeat
      { message with additionalData := message.additionalData.map AdditionalData.tree }

end Trees

section Found

/-- Each process has the arguments that are asked for at the index of its element. -/
def FindsArgs (process : α → Option Process) (elements : List α) : Prop :=
  ∀ (position : Nat) element, elements[position]? = some element →
    ∀ own ∈ process element, argsAsked (processAt process elements) position = own.args

/-- The number of the accesses of each file fits into 32 bits. -/
def CountsAccesses (targets : List (Target E)) : Prop :=
  ∀ target ∈ targets, ∀ file ∈ target.files, file.fileAccesses.length < 2 ^ 32

/-- The reader asks for the parts of the message where they are. -/
def Message.Found : Message E → Prop
  | .alert message =>
      FindsArgs Analyzer.process message.analyzers ∧ FindsArgs Source.process message.sources ∧
        FindsArgs Target.process message.targets ∧ CountsAccesses message.targets
  | .heartbeat message => FindsArgs Analyzer.process message.analyzers

/-- Up to 128 elements, each index is its own `char`. -/
theorem findsArgs_of_short {process : α → Option Process} {elements : List α}
    (short : elements.length ≤ 128) : FindsArgs process elements := by
  intro position element found own present
  have inside : position < elements.length := (List.getElem?_eq_some_iff.mp found).1
  have same : charIndex position = position := Int8.toInt_ofInt_of_le (by omega) (by omega)
  rw [argsAsked, same, processAt, atIndex_natCast, found, Option.bind_some, present]
  rfl

theorem each_single_eq_iff {β : Type} {f g : Int → α → β} {start : Int} {elements : List α} :
    each (fun index element => [f index element]) start elements =
        each (fun index element => [g index element]) start elements ↔
      ∀ (position : Nat) element, elements[position]? = some element →
        f (start + position) element = g (start + position) element := by
  constructor
  · intro same
    induction elements generalizing start with
    | nil => simp
    | cons element elements ih =>
        simp only [each_cons, List.singleton_append, List.cons.injEq] at same
        rintro (_ | position) other found
        · simp only [List.getElem?_cons_zero, Option.some.injEq] at found
          subst found
          simpa using same.1
        · have next := ih same.2 position other found
          rwa [Int.add_assoc, Int.add_comm 1] at next
  · exact fun same => each_congr fun position element found => by rw [same position element found]

theorem map_answeredUnder_eq_iff {β : Type} {answer : List α → Int → α → α} (view : α → β)
    {elements : List α} :
    (answeredUnder answer elements).map view = elements.map view ↔
      ∀ (position : Nat) element, elements[position]? = some element →
        view (answer elements position element) = view element := by
  rw [answeredUnder, map_each, ← each_single 0 view elements]
  refine each_single_eq_iff.trans ?_
  simp only [Int.zero_add]

theorem map_process_eq_iff {processes : Int → Option Process} {index : Int}
    (part : Option Process) :
    part.map (Process.answered processes index) = part ↔
      ∀ own ∈ part, argsAsked processes index = own.args := by
  cases part with
  | none => simp
  | some own =>
      rcases own with ⟨ident, name, pid, path, args, envs⟩
      simp [Process.answered]

omit [Librequiem E] in
theorem analyzers_eq_iff (analyzers : List (Analyzer E)) :
    answeredUnder Analyzer.answered analyzers = analyzers ↔
      FindsArgs Analyzer.process analyzers := by
  have views := @map_answeredUnder_eq_iff _ _ Analyzer.answered id analyzers
  rw [List.map_id, List.map_id] at views
  rw [views]
  refine forall₃_congr fun position analyzer _ => ?_
  rw [← map_process_eq_iff]
  rcases analyzer with ⟨_, _, _, _, _, _, _, _, _, process⟩
  simp [Analyzer.answered]

omit [Librequiem E] in
theorem sources_eq_iff (sources : List (Source E)) :
    answeredUnder Source.answered sources = sources ↔ FindsArgs Source.process sources := by
  have views := @map_answeredUnder_eq_iff _ _ Source.answered id sources
  rw [List.map_id, List.map_id] at views
  rw [views]
  refine forall₃_congr fun position source _ => ?_
  rw [← map_process_eq_iff]
  rcases source with ⟨_, _, _, _, _, process, _⟩
  simp [Source.answered]

omit [Librequiem E] in
theorem file_tree_eq_iff (file : File E) :
    file.answered.tree = file.tree ↔ file.fileAccesses.length < 2 ^ 32 := by
  have cut : file.fileAccesses.take (file.fileAccesses.length % 2 ^ 32) = file.fileAccesses ↔
      file.fileAccesses.length < 2 ^ 32 := by
    rw [List.take_eq_self_iff]
    omega
  rw [← cut]
  rcases file with ⟨_, _, _, _, _, _, _, _, _, _, _, accesses, _, _, _⟩
  simp [File.answered, File.tree, Function.comp_def, Time.wholeSeconds, Inode.answered, Inode.tree]

omit [Librequiem E] in
theorem targets_eq_iff (targets : List (Target E)) :
    (answeredUnder Target.answered targets).map Target.tree = targets.map Target.tree ↔
      FindsArgs Target.process targets ∧ CountsAccesses targets := by
  have target_eq_iff : ∀ (position : Nat) (target : Target E),
      (target.answered targets position).tree = target.tree ↔
        (∀ own ∈ target.process, argsAsked (processAt Target.process targets) position = own.args) ∧
          ∀ file ∈ target.files, file.fileAccesses.length < 2 ^ 32 := by
    intro position target
    rw [← map_process_eq_iff]
    rcases target with ⟨_, _, _, _, _, process, _, files⟩
    simp [Target.answered, Target.tree, file_tree_eq_iff]
  rw [map_answeredUnder_eq_iff]
  simp only [target_eq_iff]
  constructor
  · intro all
    refine ⟨fun position target found => (all position target found).1, fun target present => ?_⟩
    rcases List.mem_iff_getElem?.mp present with ⟨position, found⟩
    exact (all position target found).2
  · rintro ⟨args, counts⟩ position target found
    exact ⟨args position target found, counts target (List.mem_of_getElem? found)⟩

end Found

section Faithful

/-! A plugin that tells an empty value from NULL. -/

variable {retrieval : Retrieval} (faithful : retrieval.emptyIsNull = false)
include faithful

theorem names_of_faithful : retrieval.emptyIsNull → NamesGiven E := by simp [faithful]

theorem textMap_of_faithful : retrieval.textMap = .id := by
  have text : retrieval.text = id := by
    funext value
    cases value <;> simp [Retrieval.text, faithful, Option.filter]
  have texts : retrieval.texts = id := by
    funext values
    simp [Retrieval.texts, text]
  rw [Retrieval.textMap, text, texts]
  rfl

theorem fetchField_blob_of_faithful (bytes : List UInt8) :
    retrieval.fetchField (.blob bytes) = some (.blob (retrieval.textForm bytes)) := by
  simp [Retrieval.fetchField, Retrieval.returned, faithful]

theorem text_of_faithful (value : Option String) : retrieval.text value = value :=
  congrFun (congrArg TextMap.one (textMap_of_faithful faithful)) value

theorem dataReturned_of_faithful (unassigned : Int) (elements : List AdditionalData) :
    (retrieval.dataReturned E unassigned elements).elements.map AdditionalData.tree =
        elements.map AdditionalData.tree ∧
      (retrieval.dataReturned E unassigned elements).dataless = none := by
  induction elements with
  | nil => exact ⟨rfl, rfl⟩
  | cons element elements ih =>
      rcases element with ⟨type, meaning, data⟩
      simp only [Retrieval.dataReturned, fetchField_blob_of_faithful faithful,
        text_of_faithful faithful, List.map_cons, ih]
      exact ⟨rfl, trivial⟩

theorem kind_of_faithful (kind : AlertKind) :
    ∃ read, kind.returned E retrieval = .ok read ∧ read.tree = kind.tree := by
  cases kind with
  | default => exact ⟨_, rfl, rfl⟩
  | tool toolAlert => exact ⟨_, rfl, by simp [AlertKind.tree, textMap_of_faithful faithful]⟩
  | correlation correlationAlert =>
      exact ⟨_, rfl, by simp [AlertKind.tree, textMap_of_faithful faithful]⟩
  | overflow overflowAlert =>
      rw [AlertKind.returned, OverflowAlert.returned, fetchField_blob_of_faithful faithful]
      exact ⟨_, rfl, by simp [AlertKind.tree, text_of_faithful faithful]⟩

theorem returned_tree_iff (message : Message E) (unassigned : Int) :
    (∃ read, message.returned retrieval unassigned = .ok ⟨read, none⟩ ∧ read.tree = message.tree) ↔
      message.Found := by
  cases message with
  | heartbeat heartbeat =>
      have data := @dataReturned_of_faithful E _ retrieval faithful unassigned
        heartbeat.additionalData
      simp only [Message.returned, Heartbeat.returned, Heartbeat.answered, data.2,
        textMap_of_faithful faithful, text_of_faithful faithful]
      simp [Message.tree, data.1, Message.Found, analyzers_eq_iff]
  | alert alert =>
      have data := @dataReturned_of_faithful E _ retrieval faithful unassigned
        alert.additionalData
      rcases @kind_of_faithful E _ retrieval faithful alert.kind with ⟨kind, isKind, sameKind⟩
      simp only [Message.returned, Alert.returned, Alert.answered, isKind, ok_bind, data.2,
        textMap_of_faithful faithful, text_of_faithful faithful]
      simp [pure, Except.pure, Message.tree, data.1, Message.Found, sameKind, analyzers_eq_iff,
        sources_eq_iff, targets_eq_iff]

end Faithful

section ReadingBack

variable [∀ kind, Inhabited (E kind)]

/--
A message that is inserted into a sound database reads back with its tree exactly when the
arguments of each process are found below its index as a `char`, and the accesses of each file
are counted in 32 bits.
-/
theorem insertedMessage_readsBack_iff {retrieval : Retrieval}
    (faithful : retrieval.emptyIsNull = false) (message : Message E) {store : Store}
    (sound : store.Sound) (unassigned : Int) :
    (∃ read, (classicGet unassigned message.table (store.next message.table)).read retrieval
        (inserted message store) = .ok ⟨read, none⟩ ∧ read.tree = message.tree) ↔
      message.Found := by
  rw [read_classicGet_inserted (names_of_faithful faithful) message sound]
  exact returned_tree_iff faithful message unassigned

/-- An analyzer whose process has an argument. -/
def verboseAnalyzer : Analyzer TextEnum where
  analyzerid := some "sensor"
  name := none
  manufacturer := none
  model := none
  version := none
  class_ := none
  ostype := none
  osversion := none
  node := none
  process := some { ident := none, name := some "sensor", pid := some 7, path := none
                    args := ["-v"], envs := [] }

/-- An alert with a chain of analyzers. -/
def relayed (analyzers : Nat) : Message TextEnum :=
  .alert { Alert.bare TextEnum with analyzers := List.replicate analyzers verboseAnalyzer }

/-- The last analyzer of a long chain comes back without the argument of its process. -/
theorem relayed_not_readBack :
    ¬ ∃ read, (classicGet 0 .alert 1).read .pgsql (inserted (relayed 129) .empty) =
        .ok ⟨read, none⟩ ∧ read.tree = (relayed 129).tree := by
  have reads : (classicGet 0 .alert 1).read .pgsql (inserted (relayed 129) .empty) = _ :=
    read_classicGet_inserted (names_of_faithful rfl) (relayed 129) Store.sound_empty 0
  rw [reads, returned_tree_iff rfl]
  rintro ⟨finds, _⟩
  have own := finds 128 verboseAnalyzer (by simp) _ rfl
  have none : argsAsked (processAt Analyzer.process (List.replicate 129 verboseAnalyzer))
      ((128 : Nat) : Int) = [] := rfl
  exact absurd (none.symm.trans own) (by decide)

/-- A message with two analyzers reads back. -/
theorem insertedMessage_readsBack_iff_relayed :
    ∃ read, (classicGet 0 .alert 1).read .pgsql (inserted (relayed 2) .empty) = .ok ⟨read, none⟩ ∧
      read.tree = (relayed 2).tree := by
  have found : (relayed 2).Found := by
    have noTarget : CountsAccesses ([] : List (Target TextEnum)) := by simp [CountsAccesses]
    exact ⟨findsArgs_of_short (by decide), findsArgs_of_short (by decide),
      findsArgs_of_short (by decide), noTarget⟩
  exact (insertedMessage_readsBack_iff rfl (relayed 2) Store.sound_empty 0).mpr found

end ReadingBack

end RequiemDB
