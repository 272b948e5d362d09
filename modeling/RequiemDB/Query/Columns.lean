import RequiemDB.Query.Values

/-!
# Selected columns and read columns

The writer of a query decides by class and name how many columns a path expands
to, the reader by value type and functions. They agree but for three kinds of
reads: the change time of an inode without a function, a `COUNT` of times that is
NULL, and blank microseconds.
-/

namespace RequiemDB

open Lib

/-- The names under which a class has times, apart from the change time of an inode. -/
def ClassId.timeNames : ClassId → List String
  | .alert => ["create_time", "detect_time", "analyzer_time"]
  | .heartbeat => ["create_time", "analyzer_time"]
  | .file => ["create_time", "modify_time", "access_time"]
  | _ => []

/-- The times of the tree are those of messages, of files, and the change time of an inode. -/
theorem ClassId.child_time_iff {owner : ClassId} {name : String} {child : Child}
    (isChild : owner.child name = some child) :
    child.content.type = .time ↔
      name ∈ owner.timeNames ∨ owner = .inode ∧ name = "change_time" := by
  have listed : ∀ entry ∈ owner.children, entry.2.content.type = .time ↔
      entry.1 ∈ owner.timeNames ∨ owner = .inode ∧ entry.1 = "change_time" := by
    cases owner <;> decide
  exact listed (name, child) (mem_children_of_child isChild)

namespace IdmefPath

variable {path : IdmefPath}

theorem leafType_eq_time_iff (path : IdmefPath) :
    path.leafType = .time ↔
      (∃ owner, path.parentClass = some owner ∧ path.leafName ∈ owner.timeNames) ∨
        path.parentClass = some .inode ∧ path.leafName = "change_time" := by
  rcases path.leaf_of_parent with ⟨owner, child, isOwner, isChild, type, _⟩
  rw [← type, ClassId.child_time_iff isChild]
  simp [isOwner]

end IdmefPath

/-- A path whose time is stored with an offset, and selected together with it. -/
def IdmefPath.StoredTime (path : IdmefPath) : Prop :=
  path.leafType = .time ∧ path.parentClass ≠ some .inode

instance (path : IdmefPath) : Decidable path.StoredTime := inferInstanceAs (Decidable (_ ∧ _))

theorem length_messageFieldNameResolver (path : IdmefPath) (context : FieldContext)
    (tableName : String) :
    (messageFieldNameResolver path context tableName).length =
      if context = .select ∧ path.leafName ∈ ["create_time", "detect_time", "analyzer_time"]
        then 3 else 1 := by
  simp only [messageFieldNameResolver, timeWithUsecFieldNameResolver, defaultFieldNameResolver,
    List.mem_cons, List.not_mem_nil, or_false]
  split_ifs <;> simp_all

theorem length_fileFieldNameResolver (path : IdmefPath) (context : FieldContext)
    (tableName : String) :
    (fileFieldNameResolver path context tableName).length =
      if context = .select ∧ path.leafName ∈ ["create_time", "modify_time", "access_time"]
        then 3 else 1 := by
  simp only [fileFieldNameResolver, timeWithoutUsecFieldNameResolver, defaultFieldNameResolver,
    List.mem_cons, List.not_mem_nil, or_false]
  split_ifs <;> simp_all

/-- The number of columns that a path expands to in a field list. -/
theorem length_resolveFieldName (path : IdmefPath) (context : FieldContext) (tableName : String) :
    ((searchPath path).resolveFieldName path context tableName).length =
      if context = .select ∧ path.StoredTime then 3 else 1 := by
  rcases path.leaf_of_parent with ⟨owner, child, isOwner, isChild, _⟩
  simp only [IdmefPath.StoredTime, path.leafType_eq_time_iff, searchPath, isOwner]
  cases owner with
  | alert => simp [length_messageFieldNameResolver, ClassId.timeNames]
  | heartbeat =>
      have noDetectTime : path.leafName ≠ "detect_time" := by
        intro named
        have unknown : ClassId.heartbeat.child "detect_time" = none := by decide
        simp [named, unknown] at isChild
      simp [length_messageFieldNameResolver, ClassId.timeNames, noDetectTime]
  | file => simp [length_fileFieldNameResolver, ClassId.timeNames]
  | _ => simp [ClassId.timeNames, defaultFieldNameResolver, snmpFieldNameResolver,
      checksumFieldNameResolver, renamedFieldNameResolver]

/-- The number of columns that a selected path expands to. -/
def SelectedPath.width (selected : SelectedPath) : Nat :=
  if selected.flags.functions = [] ∧ selected.path.StoredTime then 3 else 1

theorem SelectedFlags.function_eq_none_iff (flags : SelectedFlags) :
    flags.function = none ↔ flags.functions = [] := by
  rw [SelectedFlags.function, List.find?_eq_none, List.eq_nil_iff_forall_not_mem]
  constructor
  · intro absent function present
    exact absent function (by cases function <;> decide) (by simpa using present)
  · intro absent function _
    simpa using absent function

theorem length_addField (select : SqlSelect) (fieldName : List FieldName) (flags : SelectedFlags) :
    (classicSqlSelectAddField select fieldName flags).fields.length =
      select.fields.length + if flags.functions = [] then fieldName.length else 1 := by
  rw [classicSqlSelectAddField]
  cases function : flags.function with
  | none => simp [flags.function_eq_none_iff.mp function]
  | some _ =>
      have asked : flags.functions ≠ [] := by
        intro none
        simp [flags.function_eq_none_iff.mpr none] at function
      simp [asked]

theorem length_classicPathResolve {path : IdmefPath} {context : FieldContext}
    {join joined : Join} {names : List FieldName}
    (resolved : classicPathResolve path context join = .ok (names, joined)) :
    names.length = if context = .select ∧ path.StoredTime then 3 else 1 := by
  rw [classicPathResolve] at resolved
  by_cases plain : path.Plain
  · rw [if_pos plain] at resolved
    have notTime : ¬ path.StoredTime := by
      rintro ⟨isTime, _⟩
      exact plain.2 (by simpa [IdmefPath.leafType, plain.1] using isTime)
    cases resolved
    simp [defaultFieldNameResolver, notTime]
  · rw [if_neg plain] at resolved
    cases table : joinedTable path join with
    | error error => simp [table, bind, Except.bind] at resolved
    | ok found =>
        simp only [table, bind, Except.bind, Except.ok.injEq, Prod.mk.injEq] at resolved
        rw [← resolved.1]
        exact length_resolveFieldName path context _

/-- A path that is resolved adds as many columns as it is wide. -/
theorem length_resolveSelected {selected : SelectedPath} {join joined : Join}
    {select grown : SqlSelect}
    (resolved : classicPathResolveSelected selected join select = .ok (joined, grown)) :
    grown.fields.length = select.fields.length + selected.width := by
  rw [classicPathResolveSelected] at resolved
  generalize isContext : (if selected.flags.functions = [] then FieldContext.select else .function)
    = context at resolved
  cases names : classicPathResolve selected.path context join with
  | error error => simp [names, bind, Except.bind] at resolved
  | ok found =>
      simp only [names, bind, Except.bind, Except.ok.injEq, Prod.mk.injEq] at resolved
      rw [← resolved.2, length_addField, length_classicPathResolve names, SelectedPath.width]
      by_cases asked : selected.flags.functions = [] <;> simp_all

/-- The number of columns that a selection expands to. -/
def widths (selection : List SelectedPath) : Nat := (selection.map SelectedPath.width).sum

@[simp]
theorem widths_nil : widths [] = 0 := rfl

@[simp]
theorem widths_cons (selected : SelectedPath) (selection : List SelectedPath) :
    widths (selected :: selection) = selected.width + widths selection := by
  simp [widths]

theorem length_resolveSelection {selection : List SelectedPath} {join joined : Join}
    {select grown : SqlSelect}
    (resolved : classicPathResolveSelection selection join select = .ok (joined, grown)) :
    grown.fields.length = select.fields.length + widths selection := by
  induction selection generalizing join select with
  | nil =>
      simp only [classicPathResolveSelection, Except.ok.injEq, Prod.mk.injEq] at resolved
      simp [resolved.2]
  | cons selected selection ih =>
      rw [classicPathResolveSelection] at resolved
      cases first : classicPathResolveSelected selected join select with
      | error error => simp [first, bind, Except.bind] at resolved
      | ok found =>
          simp only [first, bind, Except.bind] at resolved
          rw [ih resolved, length_resolveSelected first, widths_cons]
          omega

/-- The start of a selection that is resolved is resolved. -/
theorem resolveSelection_append {before after : List SelectedPath} {join : Join}
    {select : SqlSelect}
    (resolved : (classicPathResolveSelection (before ++ after) join select).isOk) :
    (classicPathResolveSelection before join select).isOk := by
  induction before generalizing join select with
  | nil => rfl
  | cons selected before ih =>
      simp only [List.cons_append, classicPathResolveSelection] at resolved ⊢
      cases first : classicPathResolveSelected selected join select with
      | error error => simp [first, bind, Except.bind, Except.isOk, Except.toBool] at resolved
      | ok found =>
          simp only [first, bind, Except.bind] at resolved ⊢
          exact ih resolved

/-- The number of SQL columns emitted for a selection. -/
def emitted (selection : List SelectedPath) : Nat :=
  match classicPathResolveSelection selection .new .new with
  | .ok (_, select) => select.fields.length
  | .error _ => 0

theorem emitted_eq_widths {selection : List SelectedPath}
    (resolved : (classicPathResolveSelection selection .new .new).isOk) :
    emitted selection = widths selection := by
  rw [emitted]
  cases result : classicPathResolveSelection selection .new .new with
  | error error => simp [result, Except.isOk, Except.toBool] at resolved
  | ok found => simpa [SqlSelect.new] using length_resolveSelection result

section Read

variable {Value : Type} (newFromPath : IdmefPath → String → Except ErrorCode Value)
  (row : (column : Nat) → RowReply column)

/-- A result row as the environment of a reader. -/
def rowEnvironment : Environment RowReply Unit := fun column _ => (row column, ())

@[simp]
theorem rowEnvironment_apply (column : Nat) :
    rowEnvironment row column () = (row column, ()) := rfl

/-- A text without a numeral or anything else behind its white space. -/
def Blank (text : String) : Prop := scanNumber text = .endOfText

instance (text : String) : Decidable (Blank text) := inferInstanceAs (Decidable (_ = _))

theorem fieldToNumber_eq_error_iff (text : String) (initial : Option Int) :
    (fieldToNumber text initial).isOk = false ↔ Blank text := by
  rw [fieldToNumber, Blank]
  cases scanNumber text <;> simp [Except.isOk, Except.toBool]

/-- The offset of a time can be read: it is NULL or not blank. -/
def OffsetReadable (cnt : Nat) : Prop :=
  match row (cnt + 1) with
  | .error _ => False
  | .ok none => True
  | .ok (some gmtoff) => ¬ Blank gmtoff

/-- The microseconds of a time are there and blank. -/
def UsecBlank (cnt : Nat) : Prop :=
  match row (cnt + 2) with
  | .ok (some usec) => Blank usec
  | _ => False

/-- The kinds of reads on which the reader does not agree with the writer. -/
def Misread (cnt : Nat) (selected : SelectedPath) : Prop :=
  selected.MultipleTimeField ∧
    match row cnt with
    | .error _ => False
    | .ok none => selected.flags.functions ≠ [] ∨ selected.path.parentClass = some .inode
    | .ok (some _) => selected.flags.functions = [] ∧
        (selected.path.parentClass = some .inode ∨
          (OffsetReadable row cnt ∧ UsecBlank row cnt))

/-- The value of a selected path cannot be read from the columns at hand. -/
def Unreadable (cnt : Nat) (selected : SelectedPath) : Prop :=
  match row cnt with
  | .error _ => True
  | .ok none => False
  | .ok (some text) =>
      if .count ∈ selected.flags.functions then Blank text
      else if selected.MultipleTimeField then
        ¬ OffsetReadable row cnt ∨ (row (cnt + 2)).isOk = false
      else if selected.path.leafType = .time then False
      else (newFromPath selected.path text).isOk = false

/-- No path is misread before the first one that is unreadable. -/
def NothingMisread : Nat → List SelectedPath → Prop
  | _, [] => True
  | cnt, selected :: selection =>
      ¬ Misread row cnt selected ∧
        (¬ Unreadable newFromPath row cnt selected →
          NothingMisread (cnt + selected.width) selection)

/-- The reads of `get_value` for a path stay within columns. -/
def ReadsWithin (cnt : Nat) (selected : SelectedPath) (first last : Nat) : Prop :=
  (getValue newFromPath cnt selected).Along (rowEnvironment row)
    (fun column _ => first ≤ column ∧ column < last) ()

/-- The result of `get_value` on the row. -/
def valueAt (cnt : Nat) (selected : SelectedPath) : GetValueResult Value :=
  ((getValue newFromPath cnt selected).run (rowEnvironment row) ()).1

variable {newFromPath row} {cnt : Nat} {selected : SelectedPath}

theorem width_of_not_multiple (single : ¬ selected.MultipleTimeField) : selected.width = 1 := by
  rw [SelectedPath.width, if_neg]
  rintro ⟨plain, isTime, _⟩
  exact single ⟨isTime, by simp [plain]⟩

theorem width_of_function (asked : selected.flags.functions ≠ []) : selected.width = 1 := by
  rw [SelectedPath.width, if_neg]
  exact fun both => asked both.1

theorem width_of_inode (ofInode : selected.path.parentClass = some .inode) :
    selected.width = 1 := by
  rw [SelectedPath.width, if_neg]
  exact fun both => both.2.2 ofInode

theorem width_of_multiple (multiple : selected.MultipleTimeField)
    (plain : selected.flags.functions = []) (notInode : selected.path.parentClass ≠ some .inode) :
    selected.width = 3 := by
  rw [SelectedPath.width, if_pos ⟨plain, multiple.1, notInode⟩]

theorem width_pos (selected : SelectedPath) : 0 < selected.width := by
  rw [SelectedPath.width]
  split <;> decide

/-- The one function that a time read with its offset may have is `COUNT`. -/
theorem count_of_multiple (multiple : selected.MultipleTimeField)
    (asked : selected.flags.functions ≠ []) : .count ∈ selected.flags.functions := by
  rcases List.exists_mem_of_ne_nil _ asked with ⟨function, present⟩
  cases function with
  | count => exact present
  | _ => exact absurd present (multiple.2 _ (by simp))

/-- A result by whether the microseconds can be read, and whether they are blank. -/
def ReadUsec (row : (column : Nat) → RowReply column) (cnt : Nat) : GetValueResult Value → Prop
  | .error _ => (row (cnt + 2)).isOk = false
  | .ok (consumed, _) => (row (cnt + 2)).isOk = true ∧
      (UsecBlank row cnt → consumed = 1) ∧ (¬ UsecBlank row cnt → consumed = 3)

/-- A result by what can be read of the offset and the microseconds. -/
def ReadOffset (row : (column : Nat) → RowReply column) (cnt : Nat) :
    GetValueResult Value → Prop
  | .error error =>
      ¬ OffsetReadable row cnt ∨ ReadUsec row cnt (.error error : GetValueResult Value)
  | .ok result => OffsetReadable row cnt ∧ ReadUsec row cnt (.ok result)

theorem ReadUsec.readOffset {result : GetValueResult Value} (usec : ReadUsec row cnt result)
    (readable : OffsetReadable row cnt) : ReadOffset row cnt result := by
  rcases result with error | result
  · exact .inr usec
  · exact ⟨readable, usec⟩

theorem run_getUsec (timestamp : String) (gmtoff : Option Int) :
    ReadUsec row cnt ((getUsec cnt timestamp gmtoff : RowReader (GetValueResult Value)).run
      (rowEnvironment row) ()).1 := by
  simp only [getUsec, fetchField, Program.perform_bind, Program.done_bind, Program.run_perform,
    rowEnvironment_apply]
  cases usec : row (cnt + 2) with
  | error error => simp [ReadUsec, usec, Except.isOk, Except.toBool]
  | ok field =>
      cases field with
      | none => simp [ReadUsec, UsecBlank, usec, Except.isOk, Except.toBool]
      | some text =>
          have blank := fieldToNumber_eq_error_iff text (some 0)
          cases number : fieldToNumber text (some 0) with
          | error error =>
              rw [number] at blank
              simp [ReadUsec, UsecBlank, usec, number, Except.isOk, Except.toBool, blank.mp rfl]
          | ok value =>
              rw [number] at blank
              have notBlank : ¬ Blank text := by simpa [Except.isOk, Except.toBool] using blank
              simp [ReadUsec, UsecBlank, usec, number, Except.isOk, Except.toBool, notBlank]

/-- What `get_value` returns for the offset and the microseconds of a time. -/
theorem run_getGmtoff (timestamp : String) :
    ReadOffset row cnt ((getGmtoff cnt timestamp : RowReader (GetValueResult Value)).run
      (rowEnvironment row) ()).1 := by
  simp only [getGmtoff, fetchField, Program.perform_bind, Program.done_bind, Program.run_perform,
    rowEnvironment_apply]
  cases offset : row (cnt + 1) with
  | error error => exact .inl (by simp [OffsetReadable, offset])
  | ok field =>
      cases field with
      | none => exact (run_getUsec _ _).readOffset (by simp [OffsetReadable, offset])
      | some text =>
          have blank := fieldToNumber_eq_error_iff text (some 0)
          cases number : fieldToNumber text (some 0) with
          | error error =>
              rw [number] at blank
              simp only [number]
              exact Or.inl (by simpa [OffsetReadable, offset] using blank.mp rfl)
          | ok value =>
              rw [number] at blank
              have readable : OffsetReadable row cnt := by
                simpa [OffsetReadable, offset, Except.isOk, Except.toBool] using blank
              simpa only [number] using (run_getUsec _ value).readOffset readable

/-- The offset is read at the next column, and nothing beyond the one behind it. -/
theorem along_getGmtoff {within : Nat → Unit → Prop} (timestamp : String)
    (offset : within (cnt + 1) ()) (usec : within (cnt + 2) ()) :
    (getGmtoff cnt timestamp : RowReader (GetValueResult Value)).Along (rowEnvironment row)
      within () := by
  have usecWithin : ∀ gmtoff, (getUsec cnt timestamp gmtoff :
      RowReader (GetValueResult Value)).Along (rowEnvironment row) within () := by
    intro gmtoff
    simp only [getUsec, fetchField, Program.perform_bind, Program.done_bind, Program.along_perform,
      rowEnvironment_apply]
    refine ⟨usec, ?_⟩
    rcases row (cnt + 2) with error | _ | text
    · trivial
    · trivial
    · cases number : fieldToNumber text (some 0) <;> simp [number]
  simp only [getGmtoff, fetchField, Program.perform_bind, Program.done_bind, Program.along_perform,
    rowEnvironment_apply]
  refine ⟨offset, ?_⟩
  rcases row (cnt + 1) with error | _ | text
  · trivial
  · exact usecWithin _
  · cases number : fieldToNumber text (some 0) with
    | error error => simp [number]
    | ok value => simpa only [number] using usecWithin value

theorem offset_within_of_along {within : Nat → Unit → Prop} (timestamp : String)
    (along : (getGmtoff cnt timestamp : RowReader (GetValueResult Value)).Along
      (rowEnvironment row) within ()) : within (cnt + 1) () := by
  simp only [getGmtoff, fetchField, Program.perform_bind, Program.along_perform] at along
  exact along.1

/-- The result of `get_value` for a path that is not misread. -/
def ReadWell (newFromPath : IdmefPath → String → Except ErrorCode Value)
    (row : (column : Nat) → RowReply column) (cnt : Nat) (selected : SelectedPath) :
    GetValueResult Value → Prop
  | .error _ => Unreadable newFromPath row cnt selected
  | .ok (consumed, _) => ¬ Unreadable newFromPath row cnt selected ∧ consumed = selected.width

/-- A time that is read with its offset, from a cell with a text. -/
theorem readWell_of_readOffset {text : String} (cell : row cnt = .ok (some text))
    (multiple : selected.MultipleTimeField) (counts : .count ∉ selected.flags.functions)
    (width : selected.width = 3) (notBlank : ¬ (OffsetReadable row cnt ∧ UsecBlank row cnt))
    {result : GetValueResult Value} (read : ReadOffset row cnt result) :
    ReadWell newFromPath row cnt selected result := by
  have unreadable : Unreadable newFromPath row cnt selected ↔
      ¬ OffsetReadable row cnt ∨ (row (cnt + 2)).isOk = false := by
    simp [Unreadable, cell, counts, multiple]
  rcases result with error | ⟨consumed, value⟩
  · exact unreadable.mpr read
  · rcases read with ⟨readable, isOk, _, unlessBlank⟩
    refine ⟨by simp [unreadable, readable, isOk], ?_⟩
    rw [width]
    exact unlessBlank fun blank => notBlank ⟨readable, blank⟩

variable (newFromPath) in
theorem valueAt_of_not_misread (well : ¬ Misread row cnt selected) :
    ReadWell newFromPath row cnt selected (valueAt newFromPath row cnt selected) ∧
      ReadsWithin newFromPath row cnt selected cnt (cnt + selected.width) := by
  have positive := width_pos selected
  simp only [valueAt, ReadsWithin, getValue, fetchField, Program.perform_bind, Program.done_bind,
    Program.run_perform, Program.along_perform, rowEnvironment_apply]
  suffices rest : ReadWell newFromPath row cnt selected _ ∧ Program.Along _ _ _ _ from
    ⟨rest.1, ⟨Nat.le_refl _, by omega⟩, rest.2⟩
  cases cell : row cnt with
  | error error => exact ⟨by simp [ReadWell, Unreadable, cell], trivial⟩
  | ok field =>
      cases field with
      | none =>
          have readable : ¬ Unreadable newFromPath row cnt selected := by simp [Unreadable, cell]
          refine ⟨⟨readable, ?_⟩, trivial⟩
          by_cases multiple : selected.MultipleTimeField
          · have agrees : selected.flags.functions = [] ∧
                selected.path.parentClass ≠ some .inode := by
              simpa [Misread, cell, multiple] using well
            rw [if_pos multiple, width_of_multiple multiple agrees.1 agrees.2]
          · rw [if_neg multiple, width_of_not_multiple multiple]
      | some text =>
          by_cases counts : .count ∈ selected.flags.functions
          · have width : selected.width = 1 := width_of_function (List.ne_nil_of_mem counts)
            have blank := fieldToNumber_eq_error_iff text none
            cases number : fieldToNumber text none <;>
              simp_all [ReadWell, Unreadable, Except.isOk, Except.toBool]
          by_cases isTime : selected.path.leafType = .time
          · by_cases multiple : selected.MultipleTimeField
            · have plain : selected.flags.functions = [] := by
                by_contra asked
                exact counts (count_of_multiple multiple asked)
              have agrees : selected.path.parentClass ≠ some .inode ∧
                  ¬ (OffsetReadable row cnt ∧ UsecBlank row cnt) := by
                simpa [Misread, cell, multiple, plain] using well
              have width := width_of_multiple multiple plain agrees.1
              simp only [counts, isTime, multiple, if_true, if_false]
              refine ⟨?_, along_getGmtoff text ⟨by omega, by omega⟩ ⟨by omega, by omega⟩⟩
              exact readWell_of_readOffset cell multiple counts width agrees.2 (run_getGmtoff text)
            · have width := width_of_not_multiple multiple
              simp [counts, isTime, multiple, ReadWell, Unreadable, cell, width]
          · have single : ¬ selected.MultipleTimeField := fun multiple => isTime multiple.1
            have width := width_of_not_multiple single
            cases value : newFromPath selected.path text <;>
              simp [counts, isTime, single, ReadWell, Unreadable, cell, width, value,
                Except.isOk, Except.toBool]

variable (newFromPath) in
/-- A path that is misread is read beyond its columns, or consumes another number of columns. -/
theorem misread_spoils (misread : Misread row cnt selected) :
    (∃ consumed value, valueAt newFromPath row cnt selected = .ok (consumed, value) ∧
      consumed ≠ selected.width) ∨
    ¬ ReadsWithin newFromPath row cnt selected cnt (cnt + selected.width) := by
  rcases misread with ⟨multiple, misread⟩
  cases cell : row cnt with
  | error error => simp [cell] at misread
  | ok field =>
      cases field with
      | none =>
          have width : selected.width = 1 := by
            rcases (by simpa [cell] using misread) with asked | ofInode
            · exact width_of_function asked
            · exact width_of_inode ofInode
          refine .inl ⟨3, .null, ?_, by omega⟩
          simp [valueAt, getValue, fetchField, cell, multiple]
      | some text =>
          have agreed : selected.flags.functions = [] ∧ (selected.path.parentClass = some .inode ∨
              OffsetReadable row cnt ∧ UsecBlank row cnt) := by
            simpa [cell] using misread
          rcases agreed with ⟨plain, spoiled⟩
          have reads : (valueAt newFromPath row cnt selected =
                ((getGmtoff cnt text : RowReader (GetValueResult Value)).run
                  (rowEnvironment row) ()).1) ∧
              (ReadsWithin newFromPath row cnt selected cnt (cnt + selected.width) →
                (getGmtoff cnt text : RowReader (GetValueResult Value)).Along (rowEnvironment row)
                  (fun column _ => cnt ≤ column ∧ column < cnt + selected.width) ()) := by
            simp [valueAt, ReadsWithin, getValue, fetchField, cell, plain, multiple, multiple.1]
          by_cases ofInode : selected.path.parentClass = some .inode
          · right
            intro within
            have beyond := (offset_within_of_along text (reads.2 within)).2
            rw [width_of_inode ofInode] at beyond
            omega
          · have width := width_of_multiple multiple plain ofInode
            rcases spoiled.resolve_left ofInode with ⟨readable, blank⟩
            have read : ReadOffset row cnt (valueAt newFromPath row cnt selected) := by
              rw [reads.1]
              exact run_getGmtoff text
            cases result : valueAt newFromPath row cnt selected with
            | error error =>
                rw [result] at read
                rcases read with unreadable | failed
                · exact absurd readable unreadable
                · cases usec : row (cnt + 2) <;>
                    simp_all [UsecBlank, ReadUsec, Except.isOk, Except.toBool]
            | ok value =>
                rw [result] at read
                have consumed : value.1 = 1 := read.2.2.1 blank
                exact .inl ⟨value.1, value.2, rfl, by omega⟩

end Read

section Alignment

variable {Value : Type} (newFromPath : IdmefPath → String → Except ErrorCode Value)
  (row : (column : Nat) → RowReply column)

/-- The loop of `classic_get_next_values` has read the paths and stands at column `cnt`. -/
def ReadUpTo (first : Nat) (selection : List SelectedPath) (cnt : Nat) : Prop :=
  ∃ values, ((readValues newFromPath first selection).run (rowEnvironment row) ()).1 =
    .ok (cnt, values)

/--
The reader and the writer agree: each path that is reached is read at its first column and
within its columns, and a row that is read to its end is consumed as a whole.
-/
structure ColumnsAligned (selection : List SelectedPath) : Prop where
  positions : ∀ before selected after cnt, selection = before ++ selected :: after →
    ReadUpTo newFromPath row 0 before cnt →
      cnt = emitted before ∧
        ReadsWithin newFromPath row cnt selected (emitted before) (emitted (before ++ [selected]))
  total : ∀ cnt, ReadUpTo newFromPath row 0 selection cnt → cnt = emitted selection

/-- The agreement from a column on, in terms of the widths of the paths. -/
structure AlignedFrom (first : Nat) (selection : List SelectedPath) : Prop where
  positions : ∀ before selected after cnt, selection = before ++ selected :: after →
    ReadUpTo newFromPath row first before cnt →
      cnt = first + widths before ∧
        ReadsWithin newFromPath row cnt selected cnt (cnt + selected.width)
  total : ∀ cnt, ReadUpTo newFromPath row first selection cnt → cnt = first + widths selection

variable {newFromPath row}

theorem readUpTo_nil {first cnt : Nat} : ReadUpTo newFromPath row first [] cnt ↔ cnt = first := by
  simp [ReadUpTo, readValues, eq_comm]

theorem readUpTo_cons {first cnt : Nat} {selected : SelectedPath}
    {selection : List SelectedPath} :
    ReadUpTo newFromPath row first (selected :: selection) cnt ↔
      ∃ consumed value, valueAt newFromPath row first selected = .ok (consumed, value) ∧
        ReadUpTo newFromPath row (first + consumed) selection cnt := by
  simp only [ReadUpTo, readValues, Program.run_bind]
  cases result : valueAt newFromPath row first selected with
  | error error =>
      rw [valueAt] at result
      simp [result]
  | ok found =>
      rcases found with ⟨consumed, value⟩
      rw [valueAt] at result
      simp only [result, Except.ok.injEq, Prod.mk.injEq, Program.run_bind]
      constructor
      · rintro ⟨values, read⟩
        refine ⟨consumed, value, ⟨rfl, rfl⟩, ?_⟩
        cases rest : ((readValues newFromPath (first + consumed) selection).run
            (rowEnvironment row) ()).1 with
        | error error => simp [rest] at read
        | ok later =>
            simp only [rest, Program.run_done, Except.ok.injEq, Prod.mk.injEq] at read
            exact ⟨later.2, by rw [← read.1]⟩
      · rintro ⟨_, _, ⟨rfl, rfl⟩, values, read⟩
        exact ⟨value :: values, by simp [read]⟩

/-- A path that is read consumes one column or more, and the loop goes on behind them. -/
theorem readUpTo_singleton {first cnt : Nat} {selected : SelectedPath} :
    ReadUpTo newFromPath row first [selected] cnt ↔
      ∃ consumed value, valueAt newFromPath row first selected = .ok (consumed, value) ∧
        cnt = first + consumed := by
  simp only [readUpTo_cons, readUpTo_nil]

theorem AlignedFrom.not_misread {first : Nat} {selected : SelectedPath}
    {selection : List SelectedPath}
    (aligned : AlignedFrom newFromPath row first (selected :: selection)) :
    ¬ Misread row first selected := by
  intro misread
  have within := (aligned.positions [] selected selection first rfl (readUpTo_nil.mpr rfl)).2
  rcases misread_spoils newFromPath misread with
    ⟨consumed, value, result, different⟩ | beyond
  · have read : ReadUpTo newFromPath row first [selected] (first + consumed) :=
      readUpTo_singleton.mpr ⟨consumed, value, result, rfl⟩
    have stands : first + consumed = first + widths [selected] := by
      rcases selection with _ | ⟨next, selection⟩
      · exact aligned.total _ read
      · exact (aligned.positions [selected] next selection _ rfl read).1
    simp only [widths_cons, widths_nil] at stands
    omega
  · exact beyond within

/-- Behind a path that is not misread the loop goes on at the columns of the next one. -/
theorem readUpTo_cons_of_not_misread {first cnt : Nat} {selected : SelectedPath}
    {selection : List SelectedPath} (well : ¬ Misread row first selected) :
    ReadUpTo newFromPath row first (selected :: selection) cnt ↔
      ¬ Unreadable newFromPath row first selected ∧
        ReadUpTo newFromPath row (first + selected.width) selection cnt := by
  have read := (valueAt_of_not_misread newFromPath well).1
  rw [readUpTo_cons]
  cases result : valueAt newFromPath row first selected with
  | error error =>
      rw [result] at read
      have unreadable : Unreadable newFromPath row first selected := read
      simp [unreadable]
  | ok found =>
      rw [result] at read
      rcases read with ⟨readable, consumed⟩
      constructor
      · rintro ⟨_, _, isFound, later⟩
        cases isFound
        exact ⟨readable, consumed ▸ later⟩
      · rintro ⟨_, later⟩
        exact ⟨found.1, found.2, rfl, consumed.symm ▸ later⟩

theorem alignedFrom_iff (first : Nat) (selection : List SelectedPath) :
    AlignedFrom newFromPath row first selection ↔
      NothingMisread newFromPath row first selection := by
  induction selection generalizing first with
  | nil =>
      refine ⟨fun _ => trivial, fun _ => ⟨?_, ?_⟩⟩
      · intro before selected after _ split
        simp at split
      · intro cnt read
        simp [readUpTo_nil.mp read]
  | cons selected selection ih =>
      constructor
      · intro aligned
        have well := aligned.not_misread
        refine ⟨well, fun readable => (ih _).mp ⟨?_, ?_⟩⟩
        · intro before other after cnt split reached
          have here := aligned.positions (selected :: before) other after cnt (by simp [split])
            ((readUpTo_cons_of_not_misread well).mpr ⟨readable, reached⟩)
          rwa [widths_cons, ← Nat.add_assoc] at here
        · intro cnt reached
          have last := aligned.total cnt
            ((readUpTo_cons_of_not_misread well).mpr ⟨readable, reached⟩)
          rwa [widths_cons, ← Nat.add_assoc] at last
      · rintro ⟨well, later⟩
        refine ⟨?_, ?_⟩
        · intro before other after cnt split reached
          rcases before with _ | ⟨_, before⟩
          · cases split
            rw [readUpTo_nil.mp reached]
            exact ⟨by simp, (valueAt_of_not_misread newFromPath well).2⟩
          · cases split
            rcases (readUpTo_cons_of_not_misread well).mp reached with ⟨readable, reached⟩
            have here := ((ih _).mpr (later readable)).positions before other after cnt rfl reached
            rwa [widths_cons, ← Nat.add_assoc]
        · intro cnt reached
          rcases (readUpTo_cons_of_not_misread well).mp reached with ⟨readable, reached⟩
          rw [widths_cons, ← Nat.add_assoc]
          exact ((ih _).mpr (later readable)).total cnt reached

/--
The columns of a row are read where they were selected exactly when no path that is reached
is misread: a time of an inode without a function, `COUNT` of a time where the cell is NULL,
or blank microseconds.
-/
theorem columnsAligned_iff {selection : List SelectedPath}
    (resolved : (classicPathResolveSelection selection .new .new).isOk) :
    ColumnsAligned newFromPath row selection ↔ NothingMisread newFromPath row 0 selection := by
  rw [← alignedFrom_iff]
  have prefixWidths : ∀ before after, selection = before ++ after →
      emitted before = widths before := by
    intro before after split
    rw [split] at resolved
    exact emitted_eq_widths (resolveSelection_append resolved)
  have cell : ∀ before selected after, selection = before ++ selected :: after →
      emitted before = widths before ∧
        emitted (before ++ [selected]) = widths before + selected.width := by
    intro before selected after split
    refine ⟨prefixWidths before _ split, ?_⟩
    rw [prefixWidths (before ++ [selected]) after (by simp [split])]
    simp [widths]
  constructor
  · intro aligned
    refine ⟨?_, ?_⟩
    · intro before selected after cnt split reached
      rcases aligned.positions before selected after cnt split reached with ⟨stands, within⟩
      rcases cell before selected after split with ⟨start, last⟩
      rw [start] at stands
      rw [start, last, ← stands] at within
      exact ⟨by omega, within⟩
    · intro cnt reached
      rw [aligned.total cnt reached, prefixWidths selection [] (by simp), Nat.zero_add]
  · intro aligned
    refine ⟨?_, ?_⟩
    · intro before selected after cnt split reached
      rcases aligned.positions before selected after cnt split reached with ⟨stands, within⟩
      rcases cell before selected after split with ⟨start, last⟩
      rw [Nat.zero_add] at stands
      rw [start, last, ← stands]
      exact ⟨rfl, within⟩
    · intro cnt reached
      rw [aligned.total cnt reached, prefixWidths selection [] (by simp), Nat.zero_add]

end Alignment

/-- `alert.target(0).file(0).inode.change_time` -/
def changeTimePath : IdmefPath where
  top := .alert
  below := [⟨"target", .number 0, .cls .target⟩, ⟨"file", .number 0, .cls .file⟩,
    ⟨"inode", .forbidden, .cls .inode⟩, ⟨"change_time", .forbidden, .value .time⟩]
  notEmpty := by decide
  follows := by decide

/-- The row of an alert without a file: NULL, and the message's own ident. -/
def rowWithoutFile : (column : Nat) → RowReply column
  | 0 => .ok none
  | 1 => .ok (some "m1")
  | _ => .error queryError

/-- The message's ident is selected in the second column and read from the fourth. -/
theorem changeTime_misaligned :
    ¬ ColumnsAligned (fun _ text => .ok text) rowWithoutFile
      [.plain changeTimePath, .plain messageidPath] := by
  intro aligned
  have reached : ReadUpTo (fun _ text => .ok text) rowWithoutFile 0 [.plain changeTimePath] 3 :=
    ⟨[.null], rfl⟩
  have stands := (aligned.positions _ _ [] 3 rfl reached).1
  exact absurd stands (by decide)

theorem columnsAligned_iff_withoutFile :
    ColumnsAligned (fun _ text => .ok text) rowWithoutFile
        [.plain changeTimePath, .plain messageidPath] ↔
      NothingMisread (fun _ text => .ok text) rowWithoutFile 0
        [.plain changeTimePath, .plain messageidPath] :=
  columnsAligned_iff (by decide)

end RequiemDB
