import Mathlib.Data.List.TakeWhile
import RequiemDB.Classic.Deletion

/-!
# Deletion from a list of idents

The list is one text, which each statement of a bulk deletion carries. A server reads the
same idents in it, and a bulk deletion leaves what the deletions of the idents one by one
leave, in whatever order their statements come.
-/

namespace RequiemDB

open Lib

section Text

/-- `"%s%" REQUIEM_PRIu64`, put behind the text so far. -/
def catIdent (out : List Char) (needSep : Bool) (ident : UInt64) : List Char :=
  out ++ (if needSep then ", " else "").toList ++ Nat.toDigits 10 ident.toNat

/-- The loop of `get_string_from_ident_list`. -/
def catIdents (out : List Char) (needSep : Bool) : List UInt64 → List Char
  | [] => out
  | ident :: idents => catIdents (catIdent out needSep ident) true idents

def getStringFromIdentList (ident : List UInt64) : List Char × Int :=
  (catIdents "IN (".toList false ident ++ ")".toList, ident.length)

/-- What `snprintf` leaves in the `buf` of `classic_delete_alert` and of its sibling. -/
def identBuf (ident : UInt64) : List Char :=
  ("= ".toList ++ Nat.toDigits 10 ident.toNat).take (32 - 1)

/-- A number with blanks in front. -/
def readIdent (text : List Char) : Option Nat :=
  let digits := text.dropWhile (· = ' ')
  if digits ≠ [] ∧ digits.all Char.isDigit then some (Nat.ofDigitChars 10 digits 0) else none

/-- What a server reads behind `_message_ident`: a comparison or a list. -/
def readIdentTest (text : List Char) : Option IdentTest :=
  match text with
  | '=' :: rest => (readIdent rest).map .equal
  | 'I' :: 'N' :: rest =>
      match rest.dropWhile (· = ' ') with
      | '(' :: inner =>
          if inner.getLast? = some ')' then
            ((inner.dropLast.splitOn ',').mapM readIdent).map .among
          else none
      | _ => none
  | _ => none

theorem readIdent_digits (number : Nat) : readIdent (Nat.toDigits 10 number) = some number := by
  have digits : ∀ digit ∈ Nat.toDigits 10 number, digit.isDigit := fun digit inside =>
    Nat.isDigit_of_mem_toDigits (by decide) (by decide) inside
  have noBlank : (Nat.toDigits 10 number).dropWhile (· = ' ') = Nat.toDigits 10 number := by
    apply List.dropWhile_eq_self_iff.mpr
    intro notEmpty blank
    have isDigit := digits _ (List.getElem_mem notEmpty)
    rw [of_decide_eq_true blank] at isDigit
    exact absurd isDigit (by decide)
  rw [readIdent, noBlank, if_pos ⟨Nat.toDigits_ne_nil, List.all_eq_true.mpr digits⟩,
    Nat.ofDigitChars_ten_toDigits]

theorem readIdent_blank (text : List Char) : readIdent (' ' :: text) = readIdent text := rfl

/-- The texts between the commas: behind the first one each begins with a blank. -/
def identTexts : List UInt64 → List (List Char)
  | [] => []
  | ident :: idents =>
      Nat.toDigits 10 ident.toNat :: idents.map fun ident => ' ' :: Nat.toDigits 10 ident.toNat

theorem catIdents_separated (out : List Char) (idents : List UInt64) :
    catIdents out true idents =
      out ++ idents.flatMap fun ident => ',' :: ' ' :: Nat.toDigits 10 ident.toNat := by
  induction idents generalizing out with
  | nil => exact (List.append_nil out).symm
  | cons ident idents ih =>
      rw [catIdents, ih, List.flatMap_cons, ← List.append_assoc]
      simp [catIdent]

theorem intercalate_cons_flatMap (separator : Char) (first : List Char)
    (rest : List (List Char)) :
    [separator].intercalate (first :: rest) = first ++ rest.flatMap (separator :: ·) := by
  induction rest generalizing first with
  | nil => simp
  | cons next rest ih => simp [ih]

/-- The loop writes the texts with a comma between each two. -/
theorem catIdents_eq (out : List Char) (idents : List UInt64) :
    catIdents out false idents = out ++ [','].intercalate (identTexts idents) := by
  cases idents with
  | nil => exact (List.append_nil out).symm
  | cons ident idents =>
      rw [catIdents, catIdents_separated, identTexts, intercalate_cons_flatMap, List.flatMap_map]
      simp [catIdent]

theorem not_mem_identTexts {idents : List UInt64} : ∀ piece ∈ identTexts idents, ',' ∉ piece := by
  have digits : ∀ ident : UInt64, ',' ∉ Nat.toDigits 10 ident.toNat := fun ident comma =>
    absurd (Nat.isDigit_of_mem_toDigits (by decide) (by decide) comma) (by decide)
  cases idents with
  | nil => exact fun _ inside => absurd inside List.not_mem_nil
  | cons ident idents =>
      intro piece inside
      rcases List.mem_cons.mp inside with rfl | inRest
      · exact digits ident
      · rcases List.mem_map.mp inRest with ⟨other, _, rfl⟩
        simpa using digits other

theorem mapM_readIdent (idents : List UInt64) :
    (identTexts idents).mapM readIdent = some (idents.map UInt64.toNat) := by
  have blanks : ∀ idents : List UInt64,
      (idents.map fun ident => ' ' :: Nat.toDigits 10 ident.toNat).mapM readIdent =
        some (idents.map UInt64.toNat) := by
    intro idents
    induction idents with
    | nil => rfl
    | cons ident idents ih => simp [ih, readIdent_blank, readIdent_digits]
  cases idents with
  | nil => rfl
  | cons ident idents => simp [identTexts, blanks, readIdent_digits]

theorem readIdentTest_list {idents : List UInt64} (notEmpty : idents ≠ []) :
    readIdentTest (catIdents "IN (".toList false idents ++ ")".toList) =
      some (.among (idents.map UInt64.toNat)) := by
  have someTexts : identTexts idents ≠ [] := by
    cases idents with
    | nil => exact absurd rfl notEmpty
    | cons ident idents => exact List.cons_ne_nil _ _
  have split := List.splitOn_intercalate ',' not_mem_identTexts someTexts
  rw [catIdents_eq]
  simp [readIdentTest, split, mapM_readIdent]

theorem length_digits_le (ident : UInt64) : (Nat.toDigits 10 ident.toNat).length ≤ 20 := by
  have below : ident.toNat < 10 ^ 20 := Nat.lt_trans ident.toNat_lt (by decide)
  rw [← String.length_ofList, ← Nat.repr_eq_ofList_toDigits]
  exact (Nat.length_repr_le_iff (by decide)).mpr below

/-- The buffer holds every ident, and denotes it. -/
theorem readIdentTest_identBuf (ident : UInt64) :
    readIdentTest (identBuf ident) = some (.equal ident.toNat) := by
  have fits : ("= ".toList ++ Nat.toDigits 10 ident.toNat).length ≤ 32 - 1 := by
    have digits := length_digits_le ident
    simp only [List.length_append]
    exact Nat.add_le_add_left digits 2 |>.trans (by decide)
  rw [identBuf, List.take_of_length_le fits]
  simp [readIdentTest, readIdent_blank, readIdent_digits]

end Text

section Functions

def doDelete : MessageTable → IdentTest → Sql Int
  | .alert => doDeleteAlert
  | .heartbeat => doDeleteHeartbeat

/--
`classic_delete_alert` and `classic_delete_heartbeat`, with the statements as a server reads
them; `none` if it cannot.
-/
def classicDeleteIdent (kind : MessageTable) (ident : UInt64) : Option (Sql Int) :=
  (readIdentTest (identBuf ident)).map (doDelete kind)

/-- The end of the functions that delete from a text with the number of its idents. -/
def deleteFromString (kind : MessageTable) (buf : List Char) (count : Int) : Option (Sql Int) :=
  (readIdentTest buf).map fun idents =>
    doDelete kind idents >>= fun ret => .done (if ret < 0 then ret else count)

/-- `classic_delete_alert_from_list` and `classic_delete_heartbeat_from_list`. -/
def classicDeleteFromIdentList (kind : MessageTable) (ident : List UInt64) : Option (Sql Int) :=
  deleteFromString kind (getStringFromIdentList ident).1 (getStringFromIdentList ident).2

/-- The functions of a format plugin that delete messages; it may lack that for a list. -/
structure FormatPlugin where
  delete : MessageTable → UInt64 → Option (Sql Int)
  deleteFromList : MessageTable → Option (List UInt64 → Option (Sql Int))

/-- The loop of the functions below, which has deleted `i` idents. -/
def deleteOneByOne (delete : UInt64 → Option (Sql Int)) (i : Int) :
    List UInt64 → Option (Sql Int)
  | [] => some (.done i)
  | ident :: idents => do
      let here ← delete ident
      let later ← deleteOneByOne delete (i + 1) idents
      return checked here later

/--
`_requiemdb_plugin_format_delete_alert_from_list` and
`_requiemdb_plugin_format_delete_heartbeat_from_list`.
-/
def requiemdbPluginFormatDeleteFromList (plugin : FormatPlugin) (kind : MessageTable)
    (idents : List UInt64) : Option (Sql Int) :=
  match plugin.deleteFromList kind with
  | some deleteFromList => deleteFromList idents
  | none => deleteOneByOne (plugin.delete kind) 0 idents

/-- The classic plugin. -/
def classic : FormatPlugin where
  delete := classicDeleteIdent
  deleteFromList kind := some (classicDeleteFromIdentList kind)

/-- The plugin without its functions for lists. -/
def FormatPlugin.withoutLists (plugin : FormatPlugin) : FormatPlugin where
  delete := plugin.delete
  deleteFromList _ := none

theorem classicDeleteIdent_eq (kind : MessageTable) (ident : UInt64) :
    classicDeleteIdent kind ident = some (doDelete kind (.equal ident.toNat)) := by
  rw [classicDeleteIdent, readIdentTest_identBuf]
  rfl

theorem classicDeleteFromIdentList_eq (kind : MessageTable) {idents : List UInt64}
    (notEmpty : idents ≠ []) :
    classicDeleteFromIdentList kind idents =
      some (deleteFromList (doDelete kind) (idents.map UInt64.toNat)) := by
  rw [classicDeleteFromIdentList, getStringFromIdentList, deleteFromString,
    readIdentTest_list notEmpty, deleteFromList, List.length_map]
  rfl

end Functions

section Rows

theorem kept_kept (first second : List Delete) (entries : List Entry) :
    kept second (kept first entries) = kept (first ++ second) entries := by
  rw [kept, kept, kept, List.filter_filter]
  apply List.filter_congr
  intro entry _
  rw [← Bool.decide_and, decide_eq_decide, List.forall_mem_append, and_comm]

/-- The statements of `do_delete_alert` and of `do_delete_heartbeat`. -/
def queriesOf : MessageTable → IdentTest → List Delete
  | .alert => alertQueries
  | .heartbeat => heartbeatQueries

theorem doDelete_eq (kind : MessageTable) (idents : IdentTest) :
    doDelete kind idents = deleteMessage (queriesOf kind) idents := by
  cases kind <;> rfl

/-- The statements of one deletion differ from those of another in the test alone. -/
theorem queriesOf_eq (kind : MessageTable) (idents : IdentTest) :
    queriesOf kind idents =
      (queriesOf kind (.among [])).map fun query => { query with ident := idents } := by
  cases kind <;> rfl

/-- A row that is spared by each of two tests is spared by a test for either. -/
theorem spared_iff {kind : MessageTable} {first second both : IdentTest}
    (either : ∀ ident, both.Holds ident ↔ first.Holds ident ∨ second.Holds ident) (row : Row) :
    (∀ query ∈ queriesOf kind first ++ queriesOf kind second, ¬ query.Matches row) ↔
      ∀ query ∈ queriesOf kind both, ¬ query.Matches row := by
  rw [queriesOf_eq kind first, queriesOf_eq kind second, queriesOf_eq kind both,
    List.forall_mem_append, List.forall_mem_map, List.forall_mem_map, List.forall_mem_map,
    ← forall₂_and]
  refine forall₂_congr fun query _ => ?_
  simp only [Delete.Matches, either]
  tauto

/-- Deleting one message more is deleting the longer list. -/
theorem kept_cons_ident (kind : MessageTable) (ident : Nat) (idents : List Nat)
    (entries : List Entry) :
    kept (queriesOf kind (.among idents)) (kept (queriesOf kind (.equal ident)) entries) =
      kept (queriesOf kind (.among (ident :: idents))) entries := by
  rw [kept_kept]
  apply List.filter_congr
  intro entry _
  rw [decide_eq_decide]
  exact spared_iff (fun _ => List.mem_cons) entry.row

theorem kept_among_nil (kind : MessageTable) (entries : List Entry) :
    kept (queriesOf kind (.among [])) entries = entries := by
  apply List.filter_eq_self.mpr
  intro entry _
  rw [decide_eq_true_eq, queriesOf_eq, List.forall_mem_map]
  exact fun query _ matched => absurd matched.2.2 List.not_mem_nil

end Rows

section Runs

/-- The rows behind a deletion none of whose calls fails. -/
structure Leaves (entries : List Entry) (result : Store) : Prop where
  committed : result.committed = entries
  visible : result.visible = entries

theorem run_deleteEach_noFaults (queries : List Delete) (store : Store) :
    ((deleteEach queries).run (environment noFaults) store).1 = 0 ∧
      Leaves (kept queries store.visible)
        ((deleteEach queries).run (environment noFaults) store).2 := by
  induction queries generalizing store with
  | nil =>
      have all : kept [] store.visible = store.visible := List.filter_eq_self.mpr (by simp)
      rw [all]
      exact ⟨rfl, rfl, rfl⟩
  | cons query queries ih =>
      have later := ih ((store.counted (.delete query)).delete query)
      rw [← kept_cons]
      exact later

theorem run_doDelete_noFaults (kind : MessageTable) (idents : IdentTest) (store : Store) :
    ((doDelete kind idents).run (environment noFaults) store).1 = 0 ∧
      Leaves (kept (queriesOf kind idents) store.committed)
        ((doDelete kind idents).run (environment noFaults) store).2 := by
  rw [doDelete_eq]
  exact run_deleteEach_noFaults _ _

/-- The deletion of a list leaves the rows of the messages that are not in it. -/
theorem run_deleteFromList_noFaults (kind : MessageTable) (idents : List Nat) (store : Store) :
    ((deleteFromList (doDelete kind) idents).run (environment noFaults) store).1 =
        idents.length ∧
      Leaves (kept (queriesOf kind (.among idents)) store.committed)
        ((deleteFromList (doDelete kind) idents).run (environment noFaults) store).2 := by
  rcases run_doDelete_noFaults kind (.among idents) store with ⟨answer, leaves⟩
  rw [deleteFromList, Program.run_bind, Program.run_done, answer]
  exact ⟨rfl, leaves⟩

/-- One by one: each call goes on from the rows that the calls before it leave. -/
theorem run_deleteOneByOne_noFaults (kind : MessageTable) (idents : List UInt64) (i : Int)
    {store : Store} (idle : idents = [] → store.Idle) :
    ∃ program, deleteOneByOne (classicDeleteIdent kind) i idents = some program ∧
      (program.run (environment noFaults) store).1 = i + idents.length ∧
      Leaves (kept (queriesOf kind (.among (idents.map UInt64.toNat))) store.committed)
        (program.run (environment noFaults) store).2 := by
  induction idents generalizing i store with
  | nil =>
      refine ⟨.done i, rfl, (Int.add_zero i).symm, ?_⟩
      rw [List.map_nil, kept_among_nil]
      exact ⟨rfl, idle rfl⟩
  | cons ident idents ih =>
      rcases run_doDelete_noFaults kind (.equal ident.toNat) store with ⟨answer, leaves⟩
      have stillIdle := leaves.visible.trans leaves.committed.symm
      rcases ih (i + 1) fun _ => stillIdle with ⟨later, isLater, count, rest⟩
      refine ⟨checked (doDelete kind (.equal ident.toNat)) later, ?_, ?_, ?_⟩
      · rw [deleteOneByOne, classicDeleteIdent_eq, isLater]
        rfl
      · rw [run_checked, answer, if_neg (Int.lt_irrefl 0), count, List.length_cons]
        omega
      · rw [run_checked, answer, if_neg (Int.lt_irrefl 0), List.map_cons, ← kept_cons_ident,
          ← leaves.committed]
        exact rest

/--
A bulk deletion leaves the rows and answers the number that the deletions of its idents one by
one do, and its text denotes these idents.
-/
theorem bulk_eq_oneByOne (kind : MessageTable) {idents : List UInt64} (notEmpty : idents ≠ [])
    (store : Store) :
    readIdentTest (getStringFromIdentList idents).1 =
        some (.among (idents.map UInt64.toNat)) ∧
      ∃ bulk oneByOne,
        requiemdbPluginFormatDeleteFromList classic kind idents = some bulk ∧
        requiemdbPluginFormatDeleteFromList classic.withoutLists kind idents = some oneByOne ∧
        (bulk.run (environment noFaults) store).1 =
          (oneByOne.run (environment noFaults) store).1 ∧
        (bulk.run (environment noFaults) store).2.committed =
          (oneByOne.run (environment noFaults) store).2.committed ∧
        (bulk.run (environment noFaults) store).2.visible =
          (oneByOne.run (environment noFaults) store).2.visible := by
  refine ⟨readIdentTest_list notEmpty, ?_⟩
  rcases run_deleteFromList_noFaults kind (idents.map UInt64.toNat) store with
    ⟨bulkCount, bulkLeaves⟩
  rcases run_deleteOneByOne_noFaults kind idents 0 fun isEmpty => absurd isEmpty notEmpty with
    ⟨oneByOne, isProgram, count, leaves⟩
  refine ⟨_, oneByOne, classicDeleteFromIdentList_eq kind notEmpty, isProgram, ?_, ?_, ?_⟩
  · rw [bulkCount, count, List.length_map, Int.zero_add]
  · rw [bulkLeaves.committed, leaves.committed]
  · rw [bulkLeaves.visible, leaves.visible]

/-- Three alerts with a row each. -/
def threeAlerts : Store :=
  let rows : List Entry := [4, 5, 7].map fun ident =>
    ⟨some ⟨.alert, ident⟩, messageRow ⟨.alert, ident⟩ []⟩
  { Store.empty with committed := rows, visible := rows, next := fun _ => 8 }

/-- A list with a duplicate, of two of the alerts and an ident of no message. -/
theorem bulk_eq_oneByOne_duplicate :
    readIdentTest (getStringFromIdentList [4, 7, 4, 9]).1 = some (.among [4, 7, 4, 9]) ∧
      ∃ bulk oneByOne,
        requiemdbPluginFormatDeleteFromList classic .alert [4, 7, 4, 9] = some bulk ∧
        requiemdbPluginFormatDeleteFromList classic.withoutLists .alert [4, 7, 4, 9] =
          some oneByOne ∧
        (bulk.run (environment noFaults) threeAlerts).1 =
          (oneByOne.run (environment noFaults) threeAlerts).1 ∧
        (bulk.run (environment noFaults) threeAlerts).2.committed =
          (oneByOne.run (environment noFaults) threeAlerts).2.committed ∧
        (bulk.run (environment noFaults) threeAlerts).2.visible =
          (oneByOne.run (environment noFaults) threeAlerts).2.visible :=
  bulk_eq_oneByOne .alert (List.cons_ne_nil 4 [7, 4, 9]) threeAlerts

end Runs

end RequiemDB
