import RequiemDB.Classic.AllOrNothing
import RequiemDB.Classic.Reading

/-!
# Additional data, written and read back

`insert_additional_data` writes the payload in a form chosen by its kind, and
`get_additional_data` reads it by the declared type. A byte string always comes
back. Every other payload comes back exactly when the text that the server
returns for the stored bytes spells it under the declared type: a text itself, a
number by a decimal numeral. The bytes of a boolean, a byte and a character are
stored as they are and read as a numeral.
-/

namespace RequiemDB

open Lib

variable {E : EnumKind → Type} [Librequiem E]

/-- The decimal digits of a number. -/
def decimalBytes (number : Nat) : List UInt8 :=
  (Nat.toDigits 10 number).map fun digit => UInt8.ofNat digit.toNat

/-- `idmef_data_to_string` writes an integer with its decimal digits. -/
structure WritesDecimals (E : EnumKind → Type) [Librequiem E] : Prop where
  uint32 : ∀ value : UInt32, Librequiem.dataToString E (.uint32 value) = decimalBytes value.toNat
  uint64 : ∀ value : UInt64, Librequiem.dataToString E (.uint64 value) = decimalBytes value.toNat

/-- The types whose payload is a text. -/
def textTypes : List AdditionalDataType := [.string, .xml, .portlist, .dateTime]

/-- The types whose payload is a single byte. -/
def byteTypes : List AdditionalDataType := [.boolean, .byte, .character]

/-- The kind of data that an additional data of a type carries; real values are left out. -/
inductive Carries : AdditionalDataType → Data → Prop
  | boolean (value : UInt8) : Carries .boolean (.byte value)
  | byte (value : UInt8) : Carries .byte (.byte value)
  | character (value : UInt8) : Carries .character (.char value)
  | integer (value : UInt32) : Carries .integer (.uint32 value)
  | ntpstamp (value : UInt64) : Carries .ntpstamp (.uint64 value)
  | text {type : AdditionalDataType} {text : List UInt8} (isText : type ∈ textTypes)
      (noNul : 0 ∉ text) : Carries type (.charString text)
  | byteString (value : List UInt8) : Carries .byteString (.byteString value)

/-- A text begins with a numeral for a number, up to a multiple of the modulus. -/
def Denotes (text : List UInt8) (number modulus : Nat) : Prop :=
  ∃ value : Int, scanNumber (byteText (cString text)) = .number value ∧ value % modulus = number

/-- The text that is returned for a stored payload is itself a spelling of the payload. -/
def Spells (text : List UInt8) : Data → Prop
  | .byte value | .char value => Denotes text value.toNat (2 ^ 32)
  | .uint32 value => Denotes text value.toNat (2 ^ 32)
  | .uint64 value => Denotes text value.toNat (2 ^ 64)
  | .charString value => cString text = value
  | .byteString _ | .float _ | .time _ => True

section Payload

variable (retrieval : Retrieval) (store : Store)

/-- The field of a payload as the server returns it. -/
abbrev payloadField (E : EnumKind → Type) [Librequiem E] (data : Data) : Cell :=
  .blob (retrieval.textForm (getData E data))

theorem uint8_eq_iff (text : List UInt8) (value : UInt8) :
    requiemdbSqlFieldToUint8 (.blob text) = .ok value ↔ Denotes text value.toNat (2 ^ 32) := by
  have below : value.toNat < 256 := value.toNat_lt
  rw [requiemdbSqlFieldToUint8, Cell.value, Denotes]
  cases scanNumber (byteText (cString text)) with
  | endOfText => simp
  | nothing => simp
  | number number =>
      have inRange : (Int32.ofInt number < 0 ∨ 255 < Int32.ofInt number) ↔
          (number.bmod (2 ^ 32) < 0 ∨ 255 < number.bmod (2 ^ 32)) := by
        simp [Int32.lt_iff_toInt_lt]
      have congruent : number.bmod (2 ^ 32) % 2 ^ 32 = number % 2 ^ 32 := Int.bmod_emod
      simp only [Scanned.number.injEq, exists_eq_left', gt_iff_lt, inRange, Int32.toInt_ofInt]
      have least := @Int.le_bmod number (2 ^ 32) (by decide)
      have most := @Int.bmod_lt number (2 ^ 32) (by decide)
      generalize number.bmod (2 ^ 32) = tmp at *
      split
      · next outside =>
          simp only [reduceCtorEq, false_iff]
          omega
      · next inside =>
          rw [Except.ok.injEq, uint8_ofInt_eq_iff]
          omega

/-- A conversion that wraps yields a number exactly from the numerals for it. -/
theorem fieldTo_eq_iff {α : Type} (set : α → Data) {text : List UInt8} {convert : Int → α}
    {data : Data} {number modulus : Nat} {other : Int}
    (isNumber : ∀ value, set (convert value) = data ↔ value % modulus = number)
    (notText : ∀ text, Data.charString text ≠ data) (differs : other % modulus ≠ number) :
    (∀ unassigned : Int, dataOrText (.blob text) (fieldTo (.blob text) convert)
      (fun value => set (value.getD (convert unassigned))) = data) ↔
        Denotes text number modulus := by
  rw [Denotes, fieldTo, Cell.value, fieldToNumber]
  cases scanNumber (byteText (cString text)) with
  | endOfText => simp [Except.map, dataOrText, notText]
  | nothing =>
      simp only [Except.map, dataOrText, Option.map_none, Option.getD_none, isNumber, reduceCtorEq,
        false_and, exists_false, iff_false]
      exact fun all => differs (all other)
  | number value => simp [Except.map, dataOrText, isNumber]

/-- The payload of an element comes back exactly when its returned text spells it. -/
theorem read_getPayload_iff {type : AdditionalDataType} {data : Data}
    (carries : Carries type data) :
    (∀ unassigned, (getPayload unassigned (payloadField retrieval E data) type).read retrieval
      store = .ok data) ↔ Spells (retrieval.textForm (getData E data)) data := by
  have asByte : ∀ (value : UInt8) {set : UInt8 → Data} (_ : ∀ other, set other = set value ↔
      other = value) (_ : ∀ text, Data.charString text ≠ set value),
      dataOrText (payloadField retrieval E (set value))
        (requiemdbSqlFieldToUint8 (payloadField retrieval E (set value))) set = set value ↔
      Denotes (retrieval.textForm (getData E (set value))) value.toNat (2 ^ 32) := by
    intro value set isSet notText
    rw [← uint8_eq_iff]
    cases requiemdbSqlFieldToUint8 (payloadField retrieval E (set value)) with
    | error error => simp [dataOrText, notText]
    | ok other => simp [dataOrText, isSet]
  cases carries with
  | boolean value => simpa [getPayload, Spells] using asByte value (by simp) (by simp)
  | byte value => simpa [getPayload, Spells] using asByte value (by simp) (by simp)
  | character value => simpa [getPayload, Spells] using asByte value (by simp) (by simp)
  | integer value =>
      have differs : ((value.toNat : Int) + 1) % (2 ^ 32 : Nat) ≠ value.toNat := by omega
      simpa [getPayload, Spells, requiemdbSqlFieldToUint32] using fieldTo_eq_iff .uint32
        (fun number => by rw [Data.uint32.injEq, uint32_ofInt_eq_iff]; rfl) (by simp) differs
  | ntpstamp value =>
      have differs : ((value.toNat : Int) + 1) % (2 ^ 64 : Nat) ≠ value.toNat := by omega
      simpa [getPayload, Spells, requiemdbSqlFieldToUint64] using fieldTo_eq_iff .uint64
        (fun number => by rw [Data.uint64.injEq, uint64_ofInt_eq_iff]; rfl) (by simp) differs
  | @text type text isText noNul =>
      simp only [textTypes, List.mem_cons, List.not_mem_nil, or_false] at isText
      rcases isText with rfl | rfl | rfl | rfl <;> simp [getPayload, Spells, Cell.bytes, getData]
  | byteString value =>
      simp [getPayload, Spells, Cell.bytes, getData, retrieval.unescapeBinary_textForm]

end Payload

section Elements

variable (retrieval : Retrieval) (store : Store)

/-- The fetched row of an element. -/
def dataCells (E : EnumKind → Type) [Librequiem E] (element : AdditionalData) : Fetched :=
  [stringLiteral (some (Librequiem.dataTypeToString E element.type)), stringLiteral element.meaning,
    .blob (getData E element.data)]

/-- The cells of an element that are not NULL are returned as such. -/
def Returns (E : EnumKind → Type) [Librequiem E] (retrieval : Retrieval)
    (element : AdditionalData) : Prop :=
  ∀ cell ∈ dataCells E element, cell ≠ .null → retrieval.fetchField cell ≠ none

variable {retrieval store}

theorem fetchField_of_ne_none {cell : Cell} (found : retrieval.fetchField cell ≠ none) :
    retrieval.fetchField cell = some (retrieval.returned cell) := by
  rw [Retrieval.fetchField] at found ⊢
  split
  · next null => exact absurd (if_pos null) found
  · next notNull =>
      rw [if_neg notNull] at found
      split
      · next empty => exact absurd (if_pos empty) found
      · rfl

/-- The elements are read back exactly when the payload of each is. -/
theorem read_fetchData_iff (unassigned : Int) (fetched : Nat) {elements : List AdditionalData}
    (returns : ∀ element ∈ elements, Returns E retrieval element) :
    (fetchData E unassigned fetched (elements.map (dataCells E))).read retrieval store =
        .ok ⟨elements, none⟩ ↔
      ∀ element ∈ elements, (getPayload unassigned (payloadField retrieval E element.data)
        element.type).read retrieval store = .ok element.data := by
  induction elements generalizing fetched with
  | nil => simp [fetchData]
  | cons element elements ih =>
      rcases List.forall_mem_cons.mp returns with ⟨here, later⟩
      have type : retrieval.fetchField
          (stringLiteral (some (Librequiem.dataTypeToString E element.type))) =
            some (.text (Librequiem.dataTypeToString E element.type)) :=
        fetchField_of_ne_none (here _ (by simp [dataCells]) (by simp [stringLiteral]))
      have data : retrieval.fetchField (.blob (getData E element.data)) =
          some (payloadField retrieval E element.data) :=
        fetchField_of_ne_none (here _ (by simp [dataCells]) (by simp))
      have meaning : retrieval.text element.meaning = element.meaning := by
        rw [← map_value_stringLiteral]
        cases given : element.meaning with
        | none => rfl
        | some meaning =>
            have isReturned := here (stringLiteral (some meaning)) (by simp [dataCells, given])
              (by simp [stringLiteral])
            rw [fetchField_of_ne_none isReturned]
            rfl
      have step : (fetchData E unassigned fetched ((element :: elements).map (dataCells E))).read
          retrieval store =
          ((getPayload unassigned (payloadField retrieval E element.data) element.type).read
            retrieval store >>= fun data =>
          (fun later => ⟨⟨element.type, element.meaning, data⟩ :: later.elements,
            later.dataless⟩) <$>
            (fetchData E unassigned (fetched + 1) (elements.map (dataCells E))).read retrieval
              store) := by
        simp [fetchData, getDataType, dataCells, type, data, meaning, Cell.value,
          Librequiem.dataTypeToNumeric_toString]
      rw [step, List.forall_mem_cons, ← ih (fetched + 1) later]
      cases (getPayload unassigned (payloadField retrieval E element.data) element.type).read
        retrieval store with
      | error error => simp [bind, Except.bind]
      | ok data =>
          cases (fetchData E unassigned (fetched + 1) (elements.map (dataCells E))).read retrieval
            store with
          | error error => simp [Functor.map, Except.map]
          | ok later =>
              rcases later with ⟨read, dataless⟩
              rcases element with ⟨type, meaning, written⟩
              simp [Functor.map, Except.map, and_assoc]

end Elements

section Forms

/-- A byte that the escape format leaves as it is. -/
def Printable (byte : UInt8) : Prop := 32 ≤ byte ∧ byte ≤ 126 ∧ byte ≠ 92

instance (byte : UInt8) : Decidable (Printable byte) := inferInstanceAs (Decidable (_ ∧ _ ∧ _))

theorem byteaEscape_eq_iff (byte : UInt8) : byteaEscape byte = [byte] ↔ Printable byte := by
  revert byte
  exact forall_byte (by decide +kernel)

theorem length_byteaEscape (byte : UInt8) :
    1 ≤ (byteaEscape byte).length ∧ ((byteaEscape byte).length = 1 ↔ Printable byte) := by
  revert byte
  exact forall_byte (by decide +kernel)

theorem not_mem_byteaEscape : ∀ byte : UInt8, byte ≠ 0 → 0 ∉ byteaEscape byte :=
  forall_byte (by decide +kernel)

theorem flatMap_byteaEscape_eq_iff (text : List UInt8) :
    text.flatMap byteaEscape = text ↔ ∀ byte ∈ text, Printable byte := by
  have longer : ∀ text : List UInt8, text.length ≤ (text.flatMap byteaEscape).length := by
    intro text
    induction text with
    | nil => exact Nat.le_refl 0
    | cons byte text ih =>
        have atLeastOne := (length_byteaEscape byte).1
        simp only [List.flatMap_cons, List.length_append, List.length_cons]
        omega
  induction text with
  | nil => simp
  | cons byte text ih =>
      rw [List.forall_mem_cons]
      constructor
      · intro same
        have lengths := congrArg List.length same
        have rest := longer text
        have atLeastOne := (length_byteaEscape byte).1
        simp only [List.flatMap_cons, List.length_append, List.length_cons] at lengths
        have printable : Printable byte := (length_byteaEscape byte).2.mp (by omega)
        rw [List.flatMap_cons, (byteaEscape_eq_iff byte).mpr printable] at same
        exact ⟨printable, ih.mp (List.tail_eq_of_cons_eq same)⟩
      · rintro ⟨printable, later⟩
        rw [List.flatMap_cons, (byteaEscape_eq_iff byte).mpr printable, ih.mpr later]
        rfl

theorem digit_byte {digit : Char} (isDigit : digit.isDigit) :
    Printable (UInt8.ofNat digit.toNat) ∧ UInt8.ofNat digit.toNat ≠ 0 ∧
      Char.ofNat (UInt8.ofNat digit.toNat).toNat = digit := by
  have bounds := Char.isDigit_iff_toNat.mp isDigit
  have below : digit.toNat < 256 := Nat.lt_of_le_of_lt bounds.2 (by decide)
  have toNat : (UInt8.ofNat digit.toNat).toNat = digit.toNat := by
    simp [Nat.mod_eq_of_lt below]
  refine ⟨?_, ?_, ?_⟩
  · rw [Printable, UInt8.le_iff_toNat_le, UInt8.le_iff_toNat_le, ne_eq, ← UInt8.toNat_inj, toNat]
    exact ⟨Nat.le_trans (by decide) bounds.1, Nat.le_trans bounds.2 (by decide),
      fun backslash => absurd bounds.2 (by rw [backslash]; decide)⟩
  · rw [ne_eq, ← UInt8.toNat_inj, toNat]
    exact fun nul => absurd bounds.1 (by rw [nul]; decide)
  · rw [toNat, Char.ofNat_toNat]

theorem isDigit_of_mem_toDigits {number : Nat} {digit : Char}
    (present : digit ∈ Nat.toDigits 10 number) : digit.isDigit :=
  Nat.isDigit_of_mem_toDigits (by decide) (by decide) present

theorem printable_of_mem_decimalBytes {number : Nat} {byte : UInt8}
    (present : byte ∈ decimalBytes number) : Printable byte ∧ byte ≠ 0 := by
  rcases List.mem_map.mp present with ⟨digit, inDigits, rfl⟩
  have facts := digit_byte (isDigit_of_mem_toDigits inDigits)
  exact ⟨facts.1, facts.2.1⟩

theorem denotes_decimalBytes {number modulus : Nat} (below : number < modulus) :
    Denotes (decimalBytes number) number modulus := by
  have noNul : 0 ∉ decimalBytes number := fun present =>
    (printable_of_mem_decimalBytes present).2 rfl
  have digits : (decimalBytes number).map (fun byte => Char.ofNat byte.toNat) =
      Nat.toDigits 10 number := by
    rw [decimalBytes, List.map_map]
    refine (List.map_congr_left fun digit present => ?_).trans (List.map_id _)
    exact (digit_byte (isDigit_of_mem_toDigits present)).2.2
  refine ⟨number, ?_, Int.emod_eq_of_lt (Int.natCast_nonneg _) (Int.ofNat_lt.mpr below)⟩
  rw [cString_eq_self noNul, byteText, digits, ← Nat.repr_eq_ofList_toDigits, scanNumber_repr]

/-- `scanNumber` on a text that is given by its characters. -/
def scanChars (chars : List Char) : Scanned :=
  match chars.dropWhile isSpace with
  | [] => .endOfText
  | '-' :: rest => (leadingDigits rest).elim .nothing fun value => .number (-value)
  | '+' :: rest => (leadingDigits rest).elim .nothing fun value => .number value
  | rest => (leadingDigits rest).elim .nothing fun value => .number value

theorem scanNumber_byteText (bytes : List UInt8) :
    scanNumber (byteText bytes) = scanChars (bytes.map fun byte => Char.ofNat byte.toNat) := by
  rw [scanNumber, byteText, String.toList_ofList]
  rfl

/-- The scan of a text yields another number than that of the byte, or none. -/
def missesByte (text : List UInt8) (byte : UInt8) : Bool :=
  match scanChars ((cString text).map fun byte => Char.ofNat byte.toNat) with
  | .number value => value % 2 ^ 32 ≠ byte.toNat
  | _ => true

theorem not_denotes_of_missesByte {text : List UInt8} {byte : UInt8}
    (misses : missesByte text byte) : ¬ Denotes text byte.toNat (2 ^ 32) := by
  rintro ⟨value, scanned, same⟩
  rw [scanNumber_byteText] at scanned
  simp only [missesByte, scanned, decide_eq_true_eq] at misses
  exact misses same

/-- A byte that is returned as it is, or escaped, is not the numeral of itself. -/
theorem not_denotes_byte (byte : UInt8) :
    ¬ Denotes [byte] byte.toNat (2 ^ 32) ∧ ¬ Denotes (byteaEscape byte) byte.toNat (2 ^ 32) := by
  have misses : missesByte [byte] byte ∧ missesByte (byteaEscape byte) byte := by
    revert byte
    exact forall_byte (by decide +kernel)
  exact ⟨not_denotes_of_missesByte misses.1, not_denotes_of_missesByte misses.2⟩

/-- On a backend that returns the bytes themselves, the payloads of one byte are lost. -/
theorem spells_plain_iff (decimals : WritesDecimals E) {type : AdditionalDataType} {data : Data}
    (carries : Carries type data) : Spells (getData E data) data ↔ type ∉ byteTypes := by
  cases carries with
  | boolean value => simpa [byteTypes, Spells, getData] using (not_denotes_byte value).1
  | byte value => simpa [byteTypes, Spells, getData] using (not_denotes_byte value).1
  | character value => simpa [byteTypes, Spells, getData] using (not_denotes_byte value).1
  | integer value =>
      simpa [byteTypes, Spells, getData, decimals.uint32] using denotes_decimalBytes value.toNat_lt
  | ntpstamp value =>
      simpa [byteTypes, Spells, getData, decimals.uint64] using denotes_decimalBytes value.toNat_lt
  | @text type text isText noNul =>
      have notByte : type ∉ byteTypes := by revert isText; cases type <;> decide
      simp [Spells, getData, cString_eq_self noNul, notByte]
  | byteString value => simp [Spells, byteTypes]

/-- In the escape format the texts with other than printable bytes are lost as well. -/
theorem spells_escaped_iff (decimals : WritesDecimals E) {type : AdditionalDataType} {data : Data}
    (carries : Carries type data) :
    Spells ((getData E data).flatMap byteaEscape) data ↔
      type ∉ byteTypes ∧ ∀ text, data = .charString text → ∀ byte ∈ text, Printable byte := by
  have digits : ∀ number, (decimalBytes number).flatMap byteaEscape = decimalBytes number :=
    fun number => (flatMap_byteaEscape_eq_iff _).mpr fun byte present =>
      (printable_of_mem_decimalBytes present).1
  cases carries with
  | boolean value => simpa [byteTypes, Spells, getData] using (not_denotes_byte value).2
  | byte value => simpa [byteTypes, Spells, getData] using (not_denotes_byte value).2
  | character value => simpa [byteTypes, Spells, getData] using (not_denotes_byte value).2
  | integer value =>
      simpa [byteTypes, Spells, getData, decimals.uint32, digits] using
        denotes_decimalBytes value.toNat_lt
  | ntpstamp value =>
      simpa [byteTypes, Spells, getData, decimals.uint64, digits] using
        denotes_decimalBytes value.toNat_lt
  | @text type text isText noNul =>
      have notByte : type ∉ byteTypes := by revert isText; cases type <;> decide
      have stillNoNul : 0 ∉ text.flatMap byteaEscape := by
        rw [List.mem_flatMap]
        rintro ⟨byte, present, isNul⟩
        exact not_mem_byteaEscape byte (fun nul => noNul (nul ▸ present)) isNul
      simp [Spells, getData, cString_eq_self stillNoNul, notByte, flatMap_byteaEscape_eq_iff]
  | byteString value => simp [Spells, byteTypes]

end Forms

section RoundTrip

variable (letter : ParentType) (ident : Nat) (elements : List AdditionalData)

/-- The database behind the insertion of the elements. -/
def insertedData (E : EnumKind → Type) [Librequiem E] (store : Store) : Store :=
  ((insertListed (insertAdditionalData E letter ident) elements (.done 1)).run
    (environment noFaults) store).2

/-- The query of `getAdditionalData`. -/
def dataQuery : Select where
  table := .additionalData
  parentType := .is letter
  messageIdent := ident
  parents := []
  listed := true

theorem rows_insertedData (store : Store) :
    (insertedData letter ident elements E store).rows = store.rows ++
      listed (fun index data => [additionalDataRow letter ident E index data]) elements := by
  have emits : Emits (insertListed (insertAdditionalData E letter ident) elements (.done 1))
      (listed (fun index data => [.must (additionalDataRow letter ident E index data)]) elements) :=
    .insertListedDone (emits_insertAdditionalData letter ident) (by decide)
  have outcome := emits.outcome (fun _ => none) store
  rw [statementFaults_none, Script.exec_of_nothingFails fun _ _ => rfl] at outcome
  rw [insertedData, Store.rows, outcome.2]
  simp [Store.rows, Script.statements, Item.must]

/-- The rows of the query are those that were written, in the order of the list. -/
theorem select_insertedData {store : Store} (fresh : store.select (dataQuery letter ident) = []) :
    ((insertedData letter ident elements E store).select (dataQuery letter ident)).map
        (fun row => [Column.type, .meaning, .data].map row.cell) =
      elements.map (dataCells E) := by
  have isListed : (dataQuery letter ident).listed = true := rfl
  have none : store.rows.filter (fun row => (dataQuery letter ident).Matches row) = [] := by
    rw [Store.select, if_pos isListed] at fresh
    rw [ordered] at fresh
    rw [← List.length_eq_zero_iff, ← List.length_mergeSort, fresh, List.length_nil]
  have isMatch : ∀ index data, (dataQuery letter ident).Matches
      (additionalDataRow letter ident E index data) ↔ index ≠ -1 := by
    intro index data
    simp [Select.Matches, dataQuery, additionalDataRow, ParentTypeTest.Holds]
  rw [Store.select, rows_insertedData, if_pos isListed, List.filter_append, none, List.nil_append,
    filter_listed_row elements isMatch, ordered_each (fun _ _ => rfl)]
  exact map_each_row 0 elements fun _ _ => rfl

/-- The elements come back, whatever a variable holds before it is assigned. -/
def ComesBack (E : EnumKind → Type) [Librequiem E] (retrieval : Retrieval) (store : Store) : Prop :=
  ∀ unassigned, (getAdditionalData E unassigned ident letter).read retrieval
    (insertedData letter ident elements E store) = .ok ⟨elements, none⟩

theorem comesBack_iff_spells {retrieval : Retrieval} {store : Store}
    (fresh : store.select (dataQuery letter ident) = [])
    (carries : ∀ element ∈ elements, Carries element.type element.data)
    (returns : ∀ element ∈ elements, Returns E retrieval element) :
    ComesBack letter ident elements E retrieval store ↔
      ∀ element ∈ elements, Spells (retrieval.textForm (getData E element.data)) element.data := by
  have reads : ∀ unassigned, (getAdditionalData E unassigned ident letter).read retrieval
      (insertedData letter ident elements E store) =
        (fetchData E unassigned 0 (elements.map (dataCells E))).read retrieval
          (insertedData letter ident elements E store) := by
    intro unassigned
    have query : _ = elements.map (dataCells E) := select_insertedData letter ident elements fresh
    rw [getAdditionalData, Get.read_bind, read_requiemdbSqlQuery, ok_bind, ← dataQuery, query]
    cases elements with
    | nil => simp [fetchData]
    | cons element elements => rfl
  simp only [ComesBack, reads, read_fetchData_iff _ _ returns]
  constructor
  · intro all element present
    refine (read_getPayload_iff retrieval (insertedData letter ident elements E store)
      (carries element present)).mp fun unassigned => ?_
    exact all unassigned element present
  · intro all unassigned element present
    exact (read_getPayload_iff retrieval _ (carries element present)).mpr (all element present)
      unassigned

/--
The elements come back exactly when the text that is returned for each stored payload spells
it. Where the bytes are returned as they are, this leaves out the types of one byte; in the
escape format of `bytea` it leaves out the texts with a backslash or an unprintable byte too.
-/
theorem additionalData_comesBack_iff (decimals : WritesDecimals E) {retrieval : Retrieval}
    {store : Store} (fresh : store.select (dataQuery letter ident) = [])
    (carries : ∀ element ∈ elements, Carries element.type element.data)
    (returns : ∀ element ∈ elements, Returns E retrieval element) :
    (ComesBack letter ident elements E retrieval store ↔
      ∀ element ∈ elements,
        Spells (retrieval.textForm (getData E element.data)) element.data) ∧
    (retrieval.textForm = id → (ComesBack letter ident elements E retrieval store ↔
      ∀ element ∈ elements, element.type ∉ byteTypes)) ∧
    (retrieval.textForm = Retrieval.pgsql.textForm →
      (ComesBack letter ident elements E retrieval store ↔
        ∀ element ∈ elements, element.type ∉ byteTypes ∧
          ∀ text, element.data = .charString text → ∀ byte ∈ text, Printable byte)) := by
  have general := comesBack_iff_spells letter ident elements fresh carries returns
  refine ⟨general, fun plain => ?_, fun escaped => ?_⟩
  · rw [general, plain]
    exact forall₂_congr fun element present => spells_plain_iff decimals (carries element present)
  · rw [general, escaped]
    exact forall₂_congr fun element present =>
      spells_escaped_iff decimals (carries element present)

/-- A truth value, stored as one byte on a backend that returns it as it is. -/
def truth : AdditionalData := ⟨.boolean, some "seen", .byte 1⟩

theorem select_empty (query : Select) : Store.empty.select query = [] := by
  simp [Store.select, Store.rows, Store.empty, ordered]

theorem returns_truth : Returns TextEnum .mysql truth := by
  unfold Returns
  decide

/-- The truth value comes back as a text. -/
theorem truth_not_comesBack : Carries truth.type truth.data ∧ Returns TextEnum .mysql truth ∧
    ¬ ComesBack .A 1 [truth] TextEnum .mysql .empty := by
  refine ⟨.boolean 1, returns_truth, ?_⟩
  have spells : ComesBack .A 1 [truth] TextEnum .mysql .empty ↔ _ :=
    comesBack_iff_spells .A 1 [truth] (select_empty _) (by simpa using .boolean 1)
      (by simpa using returns_truth)
  rw [spells]
  intro all
  exact (not_denotes_byte 1).1 (all truth (by simp))

end RoundTrip

section Decimals

theorem toList_byteArray (bytes : ByteArray) : bytes.toList = bytes.data.toList := by
  have loop : ∀ (position : Nat) (read : List UInt8),
      ByteArray.toList.loop bytes position read =
        read.reverse ++ bytes.data.toList.drop position := by
    intro position read
    fun_induction ByteArray.toList.loop bytes position read with
    | case1 position read inside ih =>
        have inList : position < bytes.data.toList.length := by simpa using inside
        have get : bytes.get! position = bytes.data.toList[position] := by
          simp [ByteArray.get!, inside, getElem!_pos]
        rw [ih, List.drop_eq_getElem_cons inList, get]
        simp
    | case2 position read outside =>
        rw [List.drop_of_length_le (by simpa using outside), List.append_nil]
  simpa [ByteArray.toList] using loop 0 []

theorem toList_toUTF8_repr (number : Nat) : number.repr.toUTF8.toList = decimalBytes number := by
  have single : ∀ digit ∈ Nat.toDigits 10 number,
      String.utf8EncodeChar digit = [UInt8.ofNat digit.toNat] := by
    intro digit present
    have bounds := Char.isDigit_iff_toNat.mp (isDigit_of_mem_toDigits present)
    have size : digit.utf8Size = 1 := Char.utf8Size_eq_one_iff.mpr
      (UInt32.le_iff_toNat_le.mpr (Nat.le_trans bounds.2 (by decide)))
    rw [String.utf8EncodeChar_eq_singleton size]
    rfl
  rw [Nat.repr_eq_ofList_toDigits, String.toUTF8, String.toByteArray_ofList, toList_byteArray,
    List.utf8Encode, List.toList_data_toByteArray, List.flatMap_congr single,
    ← List.map_eq_flatMap, decimalBytes]

theorem writesDecimals_text : WritesDecimals TextEnum :=
  ⟨fun value => toList_toUTF8_repr value.toNat, fun value => toList_toUTF8_repr value.toNat⟩

end Decimals

/-- A backslash comes back from a backend that returns the bytes, and not in the escape format. -/
theorem additionalData_comesBack_iff_backslash :
    ComesBack .H 7 [⟨.integer, none, .uint32 4000000000⟩, ⟨.string, none, .charString [92]⟩]
      TextEnum .mysql .empty ∧
    ¬ ComesBack .H 7 [⟨.string, none, .charString [92]⟩] TextEnum .pgsql .empty := by
  have text : Carries .string (.charString [92]) := .text (by decide) (by decide)
  constructor
  · refine ((additionalData_comesBack_iff .H 7 _ writesDecimals_text (select_empty _) ?_ ?_).2.1
      rfl).mpr (by decide)
    · simpa using ⟨.integer 4000000000, text⟩
    · unfold Returns
      decide
  · refine fun comesBack => absurd (((additionalData_comesBack_iff .H 7 _ writesDecimals_text
      (select_empty _) ?_ ?_).2.2 rfl).mp comesBack) ?_
    · simpa using text
    · unfold Returns
      decide
    · intro all
      exact absurd ((all _ List.mem_cons_self).2 [92] rfl 92 List.mem_cons_self) (by decide)

end RequiemDB
