import RequiemDB.Query.Columns

/-!
# Ordinals

`GROUP BY` and `ORDER BY` name columns by their ordinals. A select counts the
paths that were added, not the columns that they expand to: behind a time that is
selected with its offset and microseconds the ordinals fall two short.
-/

namespace RequiemDB

def SelectedFlags.ordered (flags : SelectedFlags) : Bool := flags.orderAsc || flags.orderDesc

/-- The selected paths with a flag, each with its position in the selection from `start` on. -/
def flagged (flag : SelectedFlags → Bool) (selection : List SelectedPath) (start : Nat) :
    List (SelectedPath × Nat) :=
  (selection.zipIdx start).filter fun entry => flag entry.1.flags

/-- The number of the first column that is emitted for a path, counted from 1. -/
def firstColumn (selection : List SelectedPath) (position : Nat) : Nat :=
  emitted (selection.take position) + 1

/-- Each flagged path is named once, in the order of the selection, by its first column. -/
structure OrdinalsRight (selection : List SelectedPath) (select : SqlSelect) : Prop where
  groupBy : select.groupBy = (flagged SelectedFlags.groupBy selection 0).map
    fun entry => firstColumn selection entry.2
  orderBy : select.orderBy.map Prod.fst = (flagged SelectedFlags.ordered selection 0).map
    fun entry => firstColumn selection entry.2

/-- One path is counted, and named by the count when it is flagged. -/
theorem ordinals_addField (select : SqlSelect) (fieldName : List FieldName)
    (flags : SelectedFlags) :
    (classicSqlSelectAddField select fieldName flags).fieldCount = select.fieldCount + 1 ∧
      (classicSqlSelectAddField select fieldName flags).groupBy =
        select.groupBy ++ (if flags.groupBy then [select.fieldCount + 1] else []) ∧
      (classicSqlSelectAddField select fieldName flags).orderBy.map Prod.fst =
        select.orderBy.map Prod.fst ++ (if flags.ordered then [select.fieldCount + 1] else []) := by
  refine ⟨rfl, rfl, ?_⟩
  by_cases ordered : flags.orderAsc ∨ flags.orderDesc <;>
    simp [classicSqlSelectAddField, SelectedFlags.ordered, ordered]

theorem flagged_cons (flag : SelectedFlags → Bool) (selected : SelectedPath)
    (selection : List SelectedPath) (start : Nat) :
    (flagged flag (selected :: selection) start).map (fun entry => entry.2 + 1) =
      (if flag selected.flags then [start + 1] else []) ++
        (flagged flag selection (start + 1)).map fun entry => entry.2 + 1 := by
  by_cases isFlagged : flag selected.flags <;> simp [flagged, isFlagged]

/-- A flagged path is named by its own number in the selection. -/
theorem ordinals_resolveSelection {selection : List SelectedPath} {join joined : Join}
    {select grown : SqlSelect}
    (resolves : classicPathResolveSelection selection join select = .ok (joined, grown)) :
    grown.groupBy = select.groupBy ++
        (flagged SelectedFlags.groupBy selection select.fieldCount).map (fun entry => entry.2 + 1) ∧
      grown.orderBy.map Prod.fst = select.orderBy.map Prod.fst ++
        (flagged SelectedFlags.ordered selection select.fieldCount).map
          fun entry => entry.2 + 1 := by
  induction selection generalizing join select with
  | nil =>
      simp only [classicPathResolveSelection, Except.ok.injEq, Prod.mk.injEq] at resolves
      simp [flagged, resolves.2]
  | cons selected selection ih =>
      rw [classicPathResolveSelection, classicPathResolveSelected] at resolves
      generalize (if selected.flags.functions = [] then FieldContext.select else .function)
        = context at resolves
      cases first : classicPathResolve selected.path context join with
      | error error => simp [first, bind, Except.bind] at resolves
      | ok found =>
          simp only [first, bind, Except.bind] at resolves
          have added := ordinals_addField select found.1 selected.flags
          have later := ih resolves
          rw [added.1, added.2.1, added.2.2] at later
          rw [flagged_cons, flagged_cons, ← List.append_assoc, ← List.append_assoc]
          exact later

/-- A selection of paths with one column each has as many columns as paths, and no other. -/
theorem widths_eq_length_iff (selection : List SelectedPath) :
    widths selection = selection.length ↔ ∀ selected ∈ selection, selected.width = 1 := by
  have atLeast : ∀ selection : List SelectedPath, selection.length ≤ widths selection := by
    intro selection
    induction selection with
    | nil => simp
    | cons selected selection ih =>
        have positive := width_pos selected
        simp only [widths_cons, List.length_cons]
        omega
  induction selection with
  | nil => simp
  | cons selected selection ih =>
      have positive := width_pos selected
      have rest := atLeast selection
      rw [List.forall_mem_cons, widths_cons, List.length_cons]
      constructor
      · intro same
        exact ⟨by omega, ih.mp (by omega)⟩
      · rintro ⟨here, later⟩
        have same := ih.mpr later
        omega

/-- A path that expands to one column: no stored time, or one under a function. -/
def SelectedPath.Single (selected : SelectedPath) : Prop :=
  selected.path.StoredTime → selected.flags.functions ≠ []

theorem SelectedPath.width_eq_one_iff (selected : SelectedPath) :
    selected.width = 1 ↔ selected.Single := by
  rw [SelectedPath.width, SelectedPath.Single]
  split
  · next three => simp [three.1, three.2]
  · next one => simpa [imp_not_comm] using fun isTime none => one ⟨none, isTime⟩

/-- The number of a path is that of its first column when no path before it is wider. -/
theorem column_iff {selection : List SelectedPath} {join : Join} {select : SqlSelect}
    (resolves : classicPathResolveSelection selection .new .new = .ok (join, select))
    {position : Nat} {selected : SelectedPath} (isSelected : selection[position]? = some selected) :
    position + 1 = firstColumn selection position ↔
      ∀ earlier ∈ selection.take position, earlier.Single := by
  have inside := (List.getElem?_eq_some_iff.mp isSelected).1
  have all : (classicPathResolveSelection
      (selection.take position ++ selection.drop position) .new .new).isOk := by
    rw [List.take_append_drop, resolves]
    rfl
  have start := resolveSelection_append all
  have length : (selection.take position).length = position := by
    rw [List.length_take]
    omega
  have widthsIff := widths_eq_length_iff (selection.take position)
  simp only [length, SelectedPath.width_eq_one_iff] at widthsIff
  rw [firstColumn, emitted_eq_widths start, ← widthsIff]
  omega

/--
The ordinals are right exactly when every path in front of a flagged one expands to a
single column.
-/
theorem ordinalsRight_iff {selection : List SelectedPath} {join : Join} {select : SqlSelect}
    (resolves : classicPathResolveSelection selection .new .new = .ok (join, select)) :
    OrdinalsRight selection select ↔
      ∀ position selected, selection[position]? = some selected →
        selected.flags.groupBy ∨ selected.flags.ordered →
        ∀ earlier ∈ selection.take position, earlier.Single := by
  have ordinals := ordinals_resolveSelection resolves
  simp only [SqlSelect.new, List.nil_append, List.map_nil] at ordinals
  have named : ∀ flag : SelectedFlags → Bool,
      (flagged flag selection 0).map (fun entry => entry.2 + 1) =
          (flagged flag selection 0).map (fun entry => firstColumn selection entry.2) ↔
        ∀ position selected, selection[position]? = some selected → flag selected.flags →
          ∀ earlier ∈ selection.take position, earlier.Single := by
    intro flag
    rw [List.map_inj_left]
    constructor
    · intro same position selected isSelected isFlagged
      have present : (selected, position) ∈ flagged flag selection 0 := by
        rw [flagged, List.mem_filter, List.mem_zipIdx_iff_getElem?]
        exact ⟨isSelected, isFlagged⟩
      exact (column_iff resolves isSelected).mp (same _ present)
    · rintro singles ⟨selected, position⟩ present
      rw [flagged, List.mem_filter, List.mem_zipIdx_iff_getElem?] at present
      exact (column_iff resolves present.1).mpr (singles position selected present.1 present.2)
  constructor
  · rintro ⟨groupBy, orderBy⟩ position selected isSelected (grouped | ordered)
    · exact (named _).mp (ordinals.1.symm.trans groupBy) position selected isSelected grouped
    · exact (named _).mp (ordinals.2.symm.trans orderBy) position selected isSelected ordered
  · intro singles
    refine ⟨ordinals.1.trans ?_, ordinals.2.trans ?_⟩
    · exact (named _).mpr fun position selected isSelected grouped =>
        singles position selected isSelected (.inl grouped)
    · exact (named _).mpr fun position selected isSelected ordered =>
        singles position selected isSelected (.inr ordered)

/-- The creation time comes first, the ident of the message orders the rows. -/
def timeThenIdent : List SelectedPath :=
  [.plain (createTimePath .alert), ⟨messageidPath, ⟨[], false, true, false⟩⟩]

/-- The same selection with the paths exchanged. -/
def identThenTime : List SelectedPath :=
  [⟨messageidPath, ⟨[], false, true, false⟩⟩, .plain (createTimePath .alert)]

theorem ordinalsRight_iff_identThenTime :
    ∃ join select, classicPathResolveSelection identThenTime .new .new = .ok (join, select) ∧
      OrdinalsRight identThenTime select := by
  refine ⟨_, _, rfl, (ordinalsRight_iff rfl).mpr ?_⟩
  intro position selected isSelected isFlagged
  rcases position with _ | _ | position
  · simp
  · simp only [identThenTime, List.getElem?_cons_succ, List.getElem?_cons_zero,
      Option.some.injEq] at isSelected
    rw [← isSelected] at isFlagged
    exact absurd isFlagged (by decide)
  · simp [identThenTime] at isSelected

/-- The rows are ordered by the second column, an offset to UTC, where the ident is the fourth. -/
theorem timeThenIdent_orderedByOffset :
    ¬ ∀ join select, classicPathResolveSelection timeThenIdent .new .new = .ok (join, select) →
      OrdinalsRight timeThenIdent select := by
  intro always
  have right := always _ _ rfl
  exact absurd right.orderBy (by decide)

end RequiemDB
