import RequiemDB.Lib.Confined
import RequiemDB.Query.Columns
import RequiemDB.Query.Found

/-!
# The values of a query, read back

The reader takes the values of a row from its columns one path behind the other. Where no path
is misread, each value is what the reader makes of the cells of its own path, so that a query
for values returns the values of the messages that it asks for.
-/

namespace RequiemDB

open Lib

section Reader

variable {Value : Type} {newFromPath : IdmefPath → String → Except ErrorCode Value}
  {row : (column : Nat) → RowReply column} {selected : SelectedPath}

theorem run_getUsec_shift (cnt : Nat) (timestamp : String) (gmtoff : Option Int) :
    ((getUsec cnt timestamp gmtoff : RowReader (GetValueResult Value)).run
        (rowEnvironment row) ()).1 =
      ((getUsec 0 timestamp gmtoff : RowReader (GetValueResult Value)).run
        (rowEnvironment fun column => row (cnt + column)) ()).1 := by
  simp only [getUsec, fetchField, Program.perform_bind, Program.done_bind, Program.run_perform,
    rowEnvironment_apply]
  rcases row (cnt + 2) with error | _ | text
  · rfl
  · rfl
  · cases number : fieldToNumber text (some 0) <;> simp only [number, Program.run_done]

theorem run_getGmtoff_shift (cnt : Nat) (timestamp : String) :
    ((getGmtoff cnt timestamp : RowReader (GetValueResult Value)).run (rowEnvironment row) ()).1 =
      ((getGmtoff 0 timestamp : RowReader (GetValueResult Value)).run
        (rowEnvironment fun column => row (cnt + column)) ()).1 := by
  simp only [getGmtoff, fetchField, Program.perform_bind, Program.done_bind, Program.run_perform,
    rowEnvironment_apply]
  rcases row (cnt + 1) with error | _ | text
  · rfl
  · exact run_getUsec_shift cnt timestamp (some 0)
  · cases number : fieldToNumber text (some 0) with
    | error error => simp only [number, Program.run_done]
    | ok value => simpa only [number] using run_getUsec_shift cnt timestamp value

/-- A value depends on the cells from its column on, and not on where that is. -/
theorem valueAt_shift (cnt : Nat) :
    valueAt newFromPath row cnt selected =
      valueAt newFromPath (fun column => row (cnt + column)) 0 selected := by
  simp only [valueAt, getValue, fetchField, Program.perform_bind, Program.done_bind,
    Program.run_perform, rowEnvironment_apply, Nat.add_zero]
  rcases row cnt with error | _ | text
  · rfl
  · rfl
  · dsimp only
    split_ifs
    · cases fieldToNumber text none <;> rfl
    · exact run_getGmtoff_shift cnt text
    · rfl
    · cases newFromPath selected.path text <;> rfl

end Reader

/-- A row of a result: each cell as the text the server gives for it, nothing for NULL. -/
def textRow (text : Cell → Option String) (tuple : List (Option Cell)) :
    (column : Nat) → RowReply column :=
  fun column => tuple[column]?.join.elim (.error queryError) fun cell => .ok (text cell)

section Value

variable {Value : Type} (newFromPath : IdmefPath → String → Except ErrorCode Value)
  (text : Cell → Option String)

/-- What the reader makes of the cells of a path. -/
def SelectedPath.valueOf (cells : List (Option Cell)) (selected : SelectedPath) :
    Except ErrorCode (FetchedValue Value) :=
  (valueAt newFromPath (textRow text cells) 0 selected).map Prod.snd

variable {newFromPath text} {selected : SelectedPath} {before own after : List (Option Cell)}

theorem textRow_inside {column : Nat} (from_ : before.length ≤ column)
    (below : column < before.length + own.length) :
    textRow text (before ++ (own ++ after)) column =
      textRow text own (column - before.length) := by
  rw [textRow, textRow, List.getElem?_append_right from_, List.getElem?_append_left (by omega)]

variable (newFromPath) in
/-- A path that is not misread has the value of its own cells. -/
theorem valueAt_inside (wide : own.length = selected.width)
    (well : ¬ Misread (textRow text (before ++ (own ++ after))) before.length selected) :
    valueAt newFromPath (textRow text (before ++ (own ++ after))) before.length selected =
      valueAt newFromPath (textRow text own) 0 selected := by
  have within := (valueAt_of_not_misread newFromPath well).2
  rw [ReadsWithin, ← wide] at within
  let shifted : (column : Nat) → RowReply column :=
    fun column => textRow text own (column - before.length)
  have agree : ∀ (column : Nat) (state : Unit),
      before.length ≤ column ∧ column < before.length + own.length →
      rowEnvironment (textRow text (before ++ (own ++ after))) column state =
        rowEnvironment shifted column state := fun column _ inside =>
    Prod.ext (textRow_inside inside.1 inside.2) rfl
  have same : valueAt newFromPath (textRow text (before ++ (own ++ after))) before.length selected =
      valueAt newFromPath shifted before.length selected :=
    congrArg Prod.fst (Program.run_congr_along agree within)
  have back : (fun column => shifted (before.length + column)) = textRow text own := by
    funext column
    exact congrArg (textRow text own) (Nat.add_sub_cancel_left ..)
  rw [same, valueAt_shift, back]

/-- The values of a row are those of the cells of its paths. -/
theorem run_readValues (before : List (Option Cell))
    {cellsOf : SelectedPath → List (Option Cell)} {selection : List SelectedPath}
    (wide : ∀ selected ∈ selection, (cellsOf selected).length = selected.width)
    (well : NothingMisread newFromPath (textRow text (before ++ selection.flatMap cellsOf))
      before.length selection) :
    ((readValues newFromPath before.length selection).run
        (rowEnvironment (textRow text (before ++ selection.flatMap cellsOf))) ()).1.map Prod.snd =
      selection.mapM fun selected => selected.valueOf newFromPath text (cellsOf selected) := by
  induction selection generalizing before with
  | nil => rfl
  | cons selected selection ih =>
      rcases List.forall_mem_cons.mp wide with ⟨here, later⟩
      rcases well with ⟨notMisread, restWell⟩
      rw [List.flatMap_cons] at notMisread restWell ⊢
      have read := (valueAt_of_not_misread newFromPath notMisread).1
      have own := valueAt_inside newFromPath here notMisread
      rw [List.mapM_cons, SelectedPath.valueOf, readValues]
      simp only [Program.run_bind]
      rw [← valueAt, own]
      rw [own] at read
      cases result : valueAt newFromPath (textRow text (cellsOf selected)) 0 selected with
      | error error => rfl
      | ok found =>
          rcases found with ⟨consumed, value⟩
          rw [result] at read
          rcases read with ⟨readable, rfl⟩
          have rest := restWell readable
          rw [← here, ← List.append_assoc, ← List.length_append] at rest
          have values := ih _ later rest
          rw [List.length_append, here, List.append_assoc] at values
          simp only [Program.run_bind]
          rw [← values]
          cases ((readValues newFromPath (before.length + selected.width) selection).run
            (rowEnvironment (textRow text
              (before ++ (cellsOf selected ++ selection.flatMap cellsOf)))) ()).1 <;> rfl

/-- What the reader returns for a row that is put together from the cells of its paths. -/
theorem run_classicGetNextValues {cellsOf : SelectedPath → List (Option Cell)}
    {selection : List SelectedPath}
    (wide : ∀ selected ∈ selection, (cellsOf selected).length = selected.width)
    (well : NothingMisread newFromPath (textRow text (selection.flatMap cellsOf)) 0 selection) :
    ((classicGetNextValues newFromPath selection).run
        (rowEnvironment (textRow text (selection.flatMap cellsOf))) ()).1 =
      selection.mapM fun selected => selected.valueOf newFromPath text (cellsOf selected) := by
  have values : ((readValues newFromPath 0 selection).run
      (rowEnvironment (textRow text (selection.flatMap cellsOf))) ()).1.map Prod.snd =
        selection.mapM fun selected => selected.valueOf newFromPath text (cellsOf selected) :=
    run_readValues [] wide well
  rw [← values, classicGetNextValues, Program.run_bind]
  cases ((readValues newFromPath 0 selection).run
    (rowEnvironment (textRow text (selection.flatMap cellsOf))) ()).1 <;> rfl

end Value

section Calls

variable {E : EnumKind → Type} [Librequiem E] {dialect : SqlDialect}
  {limitOffset : Int → Int → Except ErrorCode String} {query : SqlQuery}
  {server : SearchServer dialect.backend} {archive : MessageArchive E} {store : Store}

omit [Librequiem E] in
theorem length_cells {selected : SelectedPath} (plain : selected.flags.functions = [])
    (pick : IdmefPath → Option Row) :
    (server.cells .select pick selected.path).length = selected.width := by
  rw [SearchServer.cells, List.length_map, SelectedPath.width, IdmefPath.fields]
  by_cases isPlain : selected.path.Plain
  · have notTime : ¬ selected.path.StoredTime := by
      rintro ⟨isTime, _⟩
      exact isPlain.2 (by simpa [IdmefPath.leafType, isPlain.1] using isTime)
    rw [if_pos isPlain, if_neg fun both => notTime both.2]
    rfl
  · rw [if_neg isPlain, length_resolveFieldName]
    exact if_congr (and_congr_left fun _ => by simp [plain]) rfl rfl

/--
The query for values, read back row by row, returns the values of the messages that it asks
for: those of the selected paths, each read from its own cells, for every choice of elements that
the criteria hold of, and no others.
-/
theorem values_read_back (holds : Holds store archive) {selection : List SelectedPath}
    {criteria : Option (Criteria Criterion)} {distinct : Bool} {limit offset : Int}
    (built : classicGetValues ⟨criterionText dialect, limitOffset⟩ selection criteria distinct
      limit offset = .ok query)
    (can : server.CanAnswer archive (.values selection criteria distinct limit offset))
    (plain : ∀ selected ∈ selection, selected.flags.functions = []) {Value : Type}
    (newFromPath : IdmefPath → String → Except ErrorCode Value) (text : Cell → Option String)
    (well : ∀ tuple, server.listing.Row store.rows query tuple →
      NothingMisread newFromPath (textRow text tuple) 0 selection)
    (values : Except ErrorCode (List (FetchedValue Value))) :
    (∃ tuple, server.listing.Row store.rows query tuple ∧
      ((classicGetNextValues newFromPath selection).run
        (rowEnvironment (textRow text tuple)) ()).1 = values) ↔
      ∃ ident message pick,
        server.Matches archive (.values selection criteria distinct limit offset) ident message
          pick ∧
        (selection.mapM fun selected => selected.valueOf newFromPath text
          ((server.cells .select pick selected.path).map some)) = values := by
  have wide : ∀ pick : IdmefPath → Option Row, ∀ selected ∈ selection,
      ((server.cells .select pick selected.path).map some).length = selected.width := by
    intro pick selected present
    rw [List.length_map]
    exact length_cells (plain selected present) pick
  constructor
  · rintro ⟨tuple, isRow, rfl⟩
    have notMisread := well tuple isRow
    rcases (row_iff_matches holds built can plain tuple).mp isRow with
      ⟨ident, message, pick, isMatch, rfl⟩
    exact ⟨ident, message, pick, isMatch, (run_classicGetNextValues (wide pick) notMisread).symm⟩
  · rintro ⟨ident, message, pick, isMatch, rfl⟩
    have isRow := (row_iff_matches holds built can plain _).mpr
      ⟨ident, message, pick, isMatch, rfl⟩
    exact ⟨_, isRow, run_classicGetNextValues (wide pick) (well _ isRow)⟩

theorem values_read_back_scan :
    (∃ tuple, scanServer.listing.Row scanStore.rows
        { scanQuery with select := ⟨[.field (.column "t0" "text")], 1, [], []⟩ } tuple ∧
      ((classicGetNextValues (fun _ text => .ok text) [.plain textPath]).run
        (rowEnvironment (textRow (fun | .text text => some text | _ => none) tuple)) ()).1 =
        .ok [.fromPath "scan"]) ↔
      ∃ ident message pick,
        scanServer.Matches scanArchive
          (.values [.plain textPath] (some scanCriteria) false (-1) (-1)) ident message pick ∧
        ([SelectedPath.plain textPath].mapM fun selected =>
          selected.valueOf (fun _ text => .ok text) (fun | .text text => some text | _ => none)
            ((scanServer.cells .select pick selected.path).map some)) =
          .ok [.fromPath "scan"] := by
  have built : classicGetValues ⟨criterionText quotingDialect, fun _ _ => .ok ""⟩
      [.plain textPath] (some scanCriteria) false (-1) (-1) =
        .ok { scanQuery with select := ⟨[.field (.column "t0" "text")], 1, [], []⟩ } := rfl
  have can : scanServer.CanAnswer scanArchive
      (.values [.plain textPath] (some scanCriteria) false (-1) (-1)) :=
    can_scan (by decide) rfl rfl
  exact values_read_back holds_scan built can (by decide) _ _
    (fun _ _ => ⟨fun misread => absurd misread.1 (by decide), fun _ => trivial⟩) _

end Calls

end RequiemDB
