import RequiemDB.Classic.RoundTrip

/-!
# Empty texts on two backends

`sqlite3.c` answers an empty value as it answers NULL, `mysql.c` does not. A
message reads back with one shape from both exactly when the reader meets no empty
text or payload: an empty optional text becomes absent, an empty text of a list is
dropped, an empty payload ends the additional data, and an empty buffer of an
overflow alert leaves the reader without a field.
-/

namespace RequiemDB

open Lib

variable {E : EnumKind → Type} [Librequiem E]

/-- No text is empty. -/
def TextTest.notEmpty : TextTest where
  one text := text ≠ some ""
  many texts := "" ∉ texts

section Texts

theorem text_mysql (text : Option String) : Retrieval.mysql.text text = text :=
  text_of_faithful rfl text

theorem blankText_sqlite3_iff (text : Option String) :
    blankText (Retrieval.sqlite3.text text) = blankText text ↔ text ≠ some "" := by
  cases text with
  | none => simp [Retrieval.text, blankText]
  | some text =>
      by_cases empty : text = "" <;>
        simp [Retrieval.text, Retrieval.sqlite3, blankText, Option.filter, empty]

theorem texts_sqlite3 (texts : List String) :
    Retrieval.sqlite3.texts texts = texts.filter (· ≠ "") := by
  induction texts with
  | nil => rfl
  | cons text texts ih =>
      by_cases empty : text = "" <;>
        simp_all [Retrieval.texts, Retrieval.text, Retrieval.sqlite3, Option.filter]

theorem blankTexts_sqlite3_iff (texts : List String) :
    blankTexts (Retrieval.sqlite3.texts texts) = blankTexts texts ↔ "" ∉ texts := by
  rw [texts_sqlite3, blankTexts, blankTexts]
  constructor
  · intro same
    have lengths := congrArg List.length same
    simp only [List.length_map] at lengths
    intro present
    have kept := (List.length_filter_eq_length_iff.mp lengths) "" present
    simp at kept
  · intro notEmpty
    rw [List.filter_eq_self.mpr]
    intro text present
    have differs : text ≠ "" := by
      rintro rfl
      exact notEmpty present
    simpa using differs

/-- The texts that SQLite keeps are those that are not empty. -/
theorem keeps_sqlite3 : Retrieval.sqlite3.textMap.keeps .blank = .notEmpty := by
  have one : (Retrieval.sqlite3.textMap.keeps .blank).one = TextTest.notEmpty.one :=
    funext fun text => propext (blankText_sqlite3_iff text)
  have many : (Retrieval.sqlite3.textMap.keeps .blank).many = TextTest.notEmpty.many :=
    funext fun texts => propext (blankTexts_sqlite3_iff texts)
  exact congr (congrArg TextTest.mk one) many

end Texts

section Conditions

variable (E) in
def AdditionalData.NotEmpty (additionalData : AdditionalData) : Prop :=
  additionalData.meaning ≠ some "" ∧ getData E additionalData.data ≠ []

variable (E) in
def AlertKind.NotEmpty : AlertKind → Prop
  | .default => True
  | .tool toolAlert => toolAlert.AllTexts .notEmpty
  | .overflow overflowAlert =>
      overflowAlert.program ≠ some "" ∧ getData E overflowAlert.buffer ≠ []
  | .correlation correlationAlert => correlationAlert.AllTexts .notEmpty

/-- No text and no payload of the message is empty. -/
def Message.NotEmpty : Message E → Prop
  | .alert message =>
      message.messageid ≠ some "" ∧
        (∀ assessment ∈ message.assessment, assessment.AllTexts .notEmpty) ∧
        message.kind.NotEmpty E ∧
        (∀ analyzer ∈ message.analyzers, analyzer.AllTexts .notEmpty) ∧
        (∀ source ∈ message.sources, source.AllTexts .notEmpty) ∧
        (∀ target ∈ message.targets, target.AllTexts .notEmpty) ∧
        (∀ classification ∈ message.classification, classification.AllTexts .notEmpty) ∧
        ∀ data ∈ message.additionalData, data.NotEmpty E
  | .heartbeat message =>
      message.messageid ≠ some "" ∧
        (∀ analyzer ∈ message.analyzers, analyzer.AllTexts .notEmpty) ∧
        ∀ data ∈ message.additionalData, data.NotEmpty E

/-- The message as the queries of its reader find it. -/
def Message.answered : Message E → Message E
  | .alert message => .alert message.answered
  | .heartbeat message => .heartbeat message.answered

section Args

variable {α : Type} {process : α → Option Process} {elements : List α}
  (all : ∀ element ∈ elements, ∀ own ∈ process element, own.AllTexts .notEmpty) (index : Int)
include all

theorem argsAsked_notEmpty : "" ∉ argsAsked (processAt process elements) index := by
  rw [argsAsked]
  cases found : processAt process elements (charIndex index) with
  | none => exact List.not_mem_nil
  | some own =>
      rcases Option.bind_eq_some_iff.mp found with ⟨element, atElement, isOwn⟩
      exact (all element (mem_of_atIndex atElement) own isOwn).2.2.2.1

theorem answered_allTexts {element : α} (present : element ∈ elements) :
    ∀ own ∈ (process element).map (Process.answered (processAt process elements) index),
      own.AllTexts .notEmpty := by
  intro own isOwn
  rcases Option.map_eq_some_iff.mp isOwn with ⟨other, isOther, rfl⟩
  rcases all element present other isOther with ⟨ident, name, path, _, envs⟩
  exact ⟨ident, name, path, argsAsked_notEmpty all index, envs⟩

end Args

omit [Librequiem E] in
theorem File.answered_allTexts {file : File E} (notEmpty : file.AllTexts .notEmpty) :
    file.answered.AllTexts .notEmpty := by
  rcases notEmpty with ⟨ident, name, path, fileType, accesses, linkages, checksums⟩
  exact ⟨ident, name, path, fileType,
    fun access present => accesses access (List.mem_of_mem_take present), linkages, checksums⟩

/-- What holds of every element behind its answer holds of the list. -/
theorem forall_mem_answeredUnder {α : Type} {answer : List α → Int → α → α} {elements : List α}
    {property : α → Prop}
    (holds : ∀ index, ∀ element ∈ elements, property (answer elements index element)) :
    ∀ element ∈ answeredUnder answer elements, property element :=
  forall_mem_each _ 0 elements fun index element present entry inPart => by
    rw [List.mem_singleton.mp inPart]
    exact holds index element present

omit [Librequiem E] in
theorem answeredAnalyzers_notEmpty {analyzers : List (Analyzer E)}
    (notEmpty : ∀ analyzer ∈ analyzers, analyzer.AllTexts .notEmpty) :
    ∀ analyzer ∈ answeredUnder Analyzer.answered analyzers, analyzer.AllTexts .notEmpty := by
  apply forall_mem_answeredUnder
  intro index analyzer present
  have own := @answered_allTexts _ Analyzer.process analyzers
    (fun analyzer present => (notEmpty analyzer present).2.2.2.2.2.2.2.2.2) index analyzer present
  rcases notEmpty analyzer present with
    ⟨analyzerid, name, manufacturer, model, version, class_, ostype, osversion, node, _⟩
  exact ⟨analyzerid, name, manufacturer, model, version, class_, ostype, osversion, node, own⟩

omit [Librequiem E] in
theorem answeredSources_notEmpty {sources : List (Source E)}
    (notEmpty : ∀ source ∈ sources, source.AllTexts .notEmpty) :
    ∀ source ∈ answeredUnder Source.answered sources, source.AllTexts .notEmpty := by
  apply forall_mem_answeredUnder
  intro index source present
  have own := @answered_allTexts _ Source.process sources
    (fun source present => (notEmpty source present).2.2.2.2.1) index source present
  rcases notEmpty source present with ⟨ident, interface, node, user, _, service⟩
  exact ⟨ident, interface, node, user, own, service⟩

omit [Librequiem E] in
theorem answeredTargets_notEmpty {targets : List (Target E)}
    (notEmpty : ∀ target ∈ targets, target.AllTexts .notEmpty) :
    ∀ target ∈ answeredUnder Target.answered targets, target.AllTexts .notEmpty := by
  apply forall_mem_answeredUnder
  intro index target present
  have own := @answered_allTexts _ Target.process targets
    (fun target present => (notEmpty target present).2.2.2.2.1) index target present
  rcases notEmpty target present with ⟨ident, interface, node, user, _, service, files⟩
  refine ⟨ident, interface, node, user, own, service, fun file isFile => ?_⟩
  rcases List.mem_map.mp isFile with ⟨other, isOther, rfl⟩
  exact File.answered_allTexts (files other isOther)

theorem Message.NotEmpty.answered {message : Message E} (notEmpty : message.NotEmpty) :
    message.answered.NotEmpty := by
  cases message with
  | alert alert =>
      rcases notEmpty with ⟨messageid, assessment, kind, analyzers, sources, targets, rest⟩
      exact ⟨messageid, assessment, kind, answeredAnalyzers_notEmpty analyzers,
        answeredSources_notEmpty sources, answeredTargets_notEmpty targets, rest⟩
  | heartbeat heartbeat =>
      rcases notEmpty with ⟨messageid, analyzers, data⟩
      exact ⟨messageid, answeredAnalyzers_notEmpty analyzers, data⟩

end Conditions

section Shapes

/-- What is read, without the contents of its texts and payloads. -/
def MessageRead.shape (read : MessageRead E) : MessageRead E := ⟨read.message.blank, read.dataless⟩

variable (unassigned : Int)

theorem fetchField_blob_sqlite3 (bytes : List UInt8) :
    Retrieval.sqlite3.fetchField (.blob bytes) =
      if bytes = [] then none else some (.blob bytes) := by
  simp [Retrieval.fetchField, Retrieval.returned, Retrieval.sqlite3, Retrieval.mysql, Cell.IsEmpty]

theorem fetchField_blob_mysql (bytes : List UInt8) :
    Retrieval.mysql.fetchField (.blob bytes) = some (.blob bytes) :=
  fetchField_blob_of_faithful rfl bytes

theorem payload_sqlite3 (field : Cell) (type : AdditionalDataType) :
    Retrieval.sqlite3.payload unassigned field type =
      Retrieval.mysql.payload unassigned field type := by
  cases type <;> rfl

theorem data_sameShape_iff (elements : List AdditionalData) :
    ((Retrieval.sqlite3.dataReturned E unassigned elements).elements.map AdditionalData.blank =
        (Retrieval.mysql.dataReturned E unassigned elements).elements.map AdditionalData.blank ∧
      (Retrieval.sqlite3.dataReturned E unassigned elements).dataless =
        (Retrieval.mysql.dataReturned E unassigned elements).dataless) ↔
        ∀ data ∈ elements, data.NotEmpty E := by
  simp only [(dataReturned_of_faithful (rfl : Retrieval.mysql.emptyIsNull = false) unassigned
    _).2]
  induction elements with
  | nil => simp [Retrieval.dataReturned]
  | cons element elements ih =>
      rcases element with ⟨type, meaning, data⟩
      by_cases empty : getData E data = []
      · simp [Retrieval.dataReturned, fetchField_blob_sqlite3, empty, AdditionalData.NotEmpty]
      · simp [Retrieval.dataReturned, fetchField_blob_sqlite3, fetchField_blob_mysql, empty,
          AdditionalData.NotEmpty, AdditionalData.blank, payload_sqlite3, text_mysql,
          blankText_sqlite3_iff, and_assoc]
        intro _
        simpa [AdditionalData.NotEmpty] using ih

section Parts

variable {E : EnumKind → Type}

theorem Assessment.sameShape_iff (assessment : Assessment E) :
    (assessment.mapTexts Retrieval.sqlite3.textMap).blank = assessment.blank ↔
      assessment.AllTexts .notEmpty :=
  keeps_sqlite3 ▸ assessment.mapTexts_eq_iff Retrieval.sqlite3.textMap .blank

theorem ToolAlert.sameShape_iff (toolAlert : ToolAlert) :
    (toolAlert.mapTexts Retrieval.sqlite3.textMap).blank = toolAlert.blank ↔
      toolAlert.AllTexts .notEmpty :=
  keeps_sqlite3 ▸ toolAlert.mapTexts_eq_iff Retrieval.sqlite3.textMap .blank

theorem CorrelationAlert.sameShape_iff (correlationAlert : CorrelationAlert) :
    (correlationAlert.mapTexts Retrieval.sqlite3.textMap).blank = correlationAlert.blank ↔
      correlationAlert.AllTexts .notEmpty :=
  keeps_sqlite3 ▸ correlationAlert.mapTexts_eq_iff Retrieval.sqlite3.textMap .blank

theorem Analyzer.sameShape_iff (analyzer : Analyzer E) :
    (analyzer.mapTexts Retrieval.sqlite3.textMap).blank = analyzer.blank ↔
      analyzer.AllTexts .notEmpty :=
  keeps_sqlite3 ▸ analyzer.mapTexts_eq_iff Retrieval.sqlite3.textMap .blank

theorem Source.sameShape_iff (source : Source E) :
    (source.mapTexts Retrieval.sqlite3.textMap).blank = source.blank ↔
      source.AllTexts .notEmpty :=
  keeps_sqlite3 ▸ source.mapTexts_eq_iff Retrieval.sqlite3.textMap .blank

theorem Target.sameShape_iff (target : Target E) :
    (target.mapTexts Retrieval.sqlite3.textMap).blank = target.blank ↔
      target.AllTexts .notEmpty :=
  keeps_sqlite3 ▸ target.mapTexts_eq_iff Retrieval.sqlite3.textMap .blank

theorem Classification.sameShape_iff (classification : Classification E) :
    (classification.mapTexts Retrieval.sqlite3.textMap).blank = classification.blank ↔
      classification.AllTexts .notEmpty :=
  keeps_sqlite3 ▸ classification.mapTexts_eq_iff Retrieval.sqlite3.textMap .blank

end Parts

theorem textMap_mysql : Retrieval.mysql.textMap = .id := textMap_of_faithful rfl

theorem kind_sameShape_iff (kind : AlertKind) :
    AlertKind.blank <$> kind.returned E .sqlite3 = AlertKind.blank <$> kind.returned E .mysql ↔
      kind.NotEmpty E := by
  cases kind with
  | default => simp [AlertKind.returned, AlertKind.NotEmpty]
  | tool toolAlert =>
      simp [AlertKind.returned, AlertKind.NotEmpty, AlertKind.blank, textMap_mysql,
        ToolAlert.sameShape_iff]
  | correlation correlationAlert =>
      simp [AlertKind.returned, AlertKind.NotEmpty, AlertKind.blank, textMap_mysql,
        CorrelationAlert.sameShape_iff]
  | overflow overflowAlert =>
      by_cases empty : getData E overflowAlert.buffer = []
      · simp [AlertKind.returned, OverflowAlert.returned, fetchField_blob_sqlite3,
          fetchField_blob_mysql, empty, AlertKind.NotEmpty]
      · simp [AlertKind.returned, OverflowAlert.returned, fetchField_blob_sqlite3,
          fetchField_blob_mysql, empty, AlertKind.NotEmpty, AlertKind.blank, OverflowAlert.blank,
          text_mysql, blankText_sqlite3_iff]
        exact fun _ => rfl

theorem returned_sameShape_iff (message : Message E) :
    MessageRead.shape <$> message.returned .sqlite3 unassigned =
        MessageRead.shape <$> message.returned .mysql unassigned ↔
      message.answered.NotEmpty := by
  cases message with
  | heartbeat heartbeat =>
      simp only [Message.answered, Message.NotEmpty, Heartbeat.answered,
        ← data_sameShape_iff unassigned]
      simp [Message.returned, Heartbeat.returned, Heartbeat.answered, MessageRead.shape,
        Message.blank, Heartbeat.blank, textMap_mysql, text_mysql, blankText_sqlite3_iff,
        Analyzer.sameShape_iff, and_assoc]
  | alert alert =>
      simp only [Message.answered, Message.NotEmpty, Alert.answered,
        ← data_sameShape_iff unassigned, ← kind_sameShape_iff]
      rcases @kind_of_faithful E _ .mysql rfl alert.kind with ⟨onMysql, isMysql, _⟩
      cases isSqlite : alert.kind.returned E .sqlite3 with
      | error error =>
          simp [Message.returned, Alert.returned, Alert.answered, isMysql, isSqlite, bind,
            Except.bind, pure, Except.pure, Functor.map, Except.map]
      | ok onSqlite =>
          simp [Message.returned, Alert.returned, Alert.answered, MessageRead.shape,
            Message.blank, Alert.blank, textMap_mysql, text_mysql, blankText_sqlite3_iff,
            Assessment.sameShape_iff, Analyzer.sameShape_iff, Source.sameShape_iff,
            Target.sameShape_iff, Classification.sameShape_iff, isMysql, isSqlite, pure,
            Except.pure, and_assoc]

end Shapes

section Whole

variable [∀ kind, Inhabited (E kind)]

/-- The shape in which a message reads back from the database it is inserted into. -/
def readShape (retrieval : Retrieval) (message : Message E) (store : Store) (unassigned : Int) :
    Except ErrorCode (MessageRead E) :=
  MessageRead.shape <$> (classicGet unassigned message.table (store.next message.table)).read
    retrieval (inserted message store)

theorem readShape_eq (names : NamesGiven E) (retrieval : Retrieval) (message : Message E)
    {store : Store} (sound : store.Sound) (unassigned : Int) :
    readShape retrieval message store unassigned =
      MessageRead.shape <$> message.returned retrieval unassigned := by
  rw [readShape, read_classicGet_inserted (fun _ => names) message sound]

/--
A message that is inserted into a sound database reads back with one shape from SQLite and from
MySQL exactly when none of the texts and payloads that are read is empty.
-/
theorem insertedMessage_sameShape_iff (names : NamesGiven E) (message : Message E) {store : Store}
    (sound : store.Sound) (unassigned : Int) :
    readShape .sqlite3 message store unassigned = readShape .mysql message store unassigned ↔
      message.answered.NotEmpty := by
  rw [readShape_eq names .sqlite3 message sound, readShape_eq names .mysql message sound]
  exact returned_sameShape_iff unassigned message

/-- The enumerations with each value kept as its name. -/
abbrev NamedEnum : EnumKind → Type := fun _ => { name : String // name ≠ "" }

instance : Librequiem NamedEnum where
  toString value := value.val
  toNumeric text := if given : text ≠ "" then ⟨text, given⟩ else ⟨"unknown", by decide⟩
  toNumeric_toString value := by simp [value.property]
  dataTypeToString := AdditionalDataType.text
  dataTypeToNumeric text := AdditionalDataType.all.find? fun type => type.text = text
  dataTypeToNumeric_toString := AdditionalDataType.find_text
  dataToString := Data.integerText

instance : ∀ kind, Inhabited (NamedEnum kind) := fun _ => ⟨⟨"unknown", by decide⟩⟩

theorem namesGiven_named : NamesGiven NamedEnum where
  value value := value.property
  dataType type := by cases type <;> decide

/-- An alert with a message ident and a note. -/
def noted (messageid : String) (note : List UInt8) : Message NamedEnum :=
  .alert { Alert.bare NamedEnum with
    messageid := some messageid, additionalData := [⟨.string, none, .charString note⟩] }

/-- An empty message ident is read from MySQL and not from SQLite. -/
theorem noted_not_sameShape :
    readShape .sqlite3 (noted "" [65]) .empty 0 ≠ readShape .mysql (noted "" [65]) .empty 0 := by
  rw [readShape_eq namesGiven_named _ _ Store.sound_empty,
    readShape_eq namesGiven_named _ _ Store.sound_empty, ne_eq, returned_sameShape_iff]
  rintro ⟨messageid, _⟩
  exact messageid rfl

/-- A note that is not empty reads back with one shape, and an empty one does not. -/
theorem insertedMessage_sameShape_iff_noted :
    readShape .sqlite3 (noted "7" [65]) .empty 0 = readShape .mysql (noted "7" [65]) .empty 0 ∧
      readShape .sqlite3 (noted "7" []) .empty 0 ≠ readShape .mysql (noted "7" []) .empty 0 := by
  constructor
  · refine (insertedMessage_sameShape_iff namesGiven_named _ Store.sound_empty 0).mpr ?_
    simp [noted, Message.answered, Alert.answered, Message.NotEmpty, Alert.bare, answeredUnder,
      AlertKind.NotEmpty, AdditionalData.NotEmpty, getData]
  · intro same
    have notEmpty := (insertedMessage_sameShape_iff namesGiven_named _ Store.sound_empty 0).mp same
    simp [noted, Message.answered, Alert.answered, Message.NotEmpty, Alert.bare, answeredUnder,
      AdditionalData.NotEmpty, getData] at notEmpty

end Whole

end RequiemDB
