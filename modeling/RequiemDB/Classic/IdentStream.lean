import RequiemDB.Classic.IdentList

/-!
# Deletion from a stream of idents

`get_string_from_result_ident` tests what the cursor returns for zero alone, so an error is
taken for one more ident, and as it persists the loop does not end.
-/

namespace RequiemDB

open Lib

/-- What `requiemdb_result_idents_get_next` returns: 1 with an ident, 0, or an error. -/
inductive GetNext where
  | ident (value : UInt64)
  | ended
  | error (error : ErrorCode)
deriving DecidableEq

/-- The outcomes of the calls on a result; an error persists once it occurs. -/
structure ResultIdents where
  outcome : ℕ → GetNext
  persists : ∀ {call : ℕ} {error : ErrorCode},
    outcome call = .error error → outcome (call + 1) = .error error

variable (results : ResultIdents)

/-- From a call on the idents are yielded, and then the last outcome. -/
def ResultIdents.Reads (call : ℕ) : List UInt64 → GetNext → Prop
  | [], last => results.outcome call = last
  | ident :: idents, last =>
      results.outcome call = .ident ident ∧ ResultIdents.Reads (call + 1) idents last

section Functions

/--
The loop of `get_string_from_result_ident`, for at most `fuel` rounds; `none` if it goes on
then. An error leaves the variable of the ident as it is.
-/
def catResultIdents : (fuel call : ℕ) → (ident : UInt64) → (needSep : Bool) → (i : Int) →
    (out : List Char) → Option (List Char × Int)
  | 0, _, _, _, _, _ => none
  | fuel + 1, call, ident, needSep, i, out =>
      match results.outcome call with
      | .ended => some (out, i)
      | .ident value =>
          catResultIdents fuel (call + 1) value true (i + 1) (catIdent out needSep value)
      | .error _ =>
          catResultIdents fuel (call + 1) ident true (i + 1) (catIdent out needSep ident)

/-- The text and its number; the text of no ident is destroyed. -/
def getStringFromResultIdent (fuel : ℕ) (ident : UInt64) : Option (List Char × Int) :=
  (catResultIdents results fuel 0 ident false 0 "IN (".toList).map fun (out, i) =>
    if i = 0 then ([], 0) else (out ++ ")".toList, i)

/--
`classic_delete_alert_from_result_idents` and `classic_delete_heartbeat_from_result_idents`;
the variable of the ident holds any value at first.
-/
def classicDeleteFromResultIdents (kind : MessageTable) (fuel : ℕ) (ident : UInt64) :
    Option (Sql Int) :=
  (getStringFromResultIdent results fuel ident).bind fun (buf, count) =>
    if count ≤ 0 then some (.done count) else deleteFromString kind buf count

end Functions

section Streams

variable {results : ResultIdents}

theorem ResultIdents.not_reads_of_error {call : ℕ} {error : ErrorCode}
    (failed : results.outcome call = .error error) (idents : List UInt64) :
    ¬ results.Reads call idents .ended := by
  cases idents with
  | nil => exact fun ended => absurd (failed.symm.trans ended) nofun
  | cons ident idents => exact fun reads => absurd (failed.symm.trans reads.1) nofun

theorem reads_of_catResultIdents {fuel call : ℕ} {ident : UInt64} {needSep : Bool} {i : Int}
    {out : List Char} {result : List Char × Int}
    (ends : catResultIdents results fuel call ident needSep i out = some result) :
    ∃ idents, results.Reads call idents .ended := by
  induction fuel generalizing call ident needSep i out with
  | zero => exact absurd ends nofun
  | succ fuel ih =>
      rw [catResultIdents] at ends
      split at ends
      · next ended => exact ⟨[], ended⟩
      · next value yielded =>
          rcases ih ends with ⟨idents, reads⟩
          exact ⟨value :: idents, yielded, reads⟩
      · next error failed =>
          rcases ih ends with ⟨idents, reads⟩
          exact absurd reads (ResultIdents.not_reads_of_error (results.persists failed) idents)

/-- On a stream that ends the loop writes the idents of it, with one round for its end. -/
theorem catResultIdents_of_reads {fuel call : ℕ} {idents : List UInt64}
    (reads : results.Reads call idents .ended) (ident : UInt64) (needSep : Bool) (i : Int)
    (out : List Char) :
    catResultIdents results fuel call ident needSep i out =
      if idents.length < fuel then some (catIdents out needSep idents, i + idents.length)
      else none := by
  induction idents generalizing fuel call ident needSep i out with
  | nil =>
      cases fuel with
      | zero => rfl
      | succ fuel =>
          have ended : results.outcome call = .ended := reads
          simp [catResultIdents, ended, catIdents]
  | cons value idents ih =>
      cases fuel with
      | zero => rfl
      | succ fuel =>
          rcases reads with ⟨yielded, later⟩
          rw [catResultIdents, yielded]
          dsimp only
          rw [ih later, catIdents]
          simp only [List.length_cons, Nat.add_lt_add_iff_right, Int.natCast_add, Int.natCast_one,
            Int.add_assoc, Int.add_comm 1]

theorem classicDeleteFromResultIdents_of_reads (kind : MessageTable) {fuel : ℕ}
    {idents : List UInt64} (reads : results.Reads 0 idents .ended) (ident : UInt64) :
    classicDeleteFromResultIdents results kind fuel ident =
      if idents.length < fuel then
        some (deleteFromResultIdents (doDelete kind) (idents.map UInt64.toNat))
      else none := by
  rw [classicDeleteFromResultIdents, getStringFromResultIdent, catResultIdents_of_reads reads]
  by_cases enough : idents.length < fuel
  · rw [if_pos enough, if_pos enough]
    cases idents with
    | nil => rfl
    | cons first rest =>
        have positive : ¬ (0 : Int) + ((first :: rest).length : ℕ) ≤ 0 := by
          rw [List.length_cons]
          omega
        have some_ : ¬ (0 : Int) + ((first :: rest).length : ℕ) = 0 :=
          fun isZero => positive isZero.le
        have program := classicDeleteFromIdentList_eq kind (List.cons_ne_nil first rest)
        rw [classicDeleteFromIdentList, getStringFromIdentList] at program
        simp only [Option.map_some, Option.bind_some, if_neg some_, if_neg positive]
        rw [Int.zero_add, program, deleteFromResultIdents, List.map_cons,
          if_neg (List.cons_ne_nil _ _)]
  · rw [if_neg enough, if_neg enough]
    rfl

end Streams

section Statements

variable {State : Type}

/-- The `DELETE` statements that are sent. -/
def deletionsSent : SqlOp → State → List Delete
  | .delete statement, _ => [statement]
  | _, _ => []

variable (environment : Environment SqlReply State)

theorem deletionsSent_deleteEach {queries : List Delete} {state : State} {statement : Delete}
    (sent : statement ∈ (deleteEach queries).trace environment deletionsSent state) :
    statement ∈ queries := by
  induction queries generalizing state with
  | nil => exact absurd sent List.not_mem_nil
  | cons query queries ih =>
      rw [deleteEach, Program.trace_perform, List.mem_append] at sent
      rcases sent with here | later
      · rw [List.mem_singleton.mp here]
        exact List.mem_cons_self
      · by_cases failed : (environment (.delete query) state).1 < 0
        · rw [if_pos failed] at later
          exact absurd later List.not_mem_nil
        · rw [if_neg failed] at later
          exact List.mem_cons_of_mem _ (ih later)

/-- Every statement of a deletion makes the test that it was called with. -/
theorem deletionsSent_doDelete {kind : MessageTable} {idents : IdentTest} {state : State}
    {statement : Delete}
    (sent : statement ∈ (doDelete kind idents).trace environment deletionsSent state) :
    statement.ident = idents := by
  rw [doDelete_eq, deleteMessage, checked, Program.trace_bind, List.mem_append] at sent
  rcases sent with start | later
  · exact absurd start List.not_mem_nil
  · split at later
    · exact absurd later List.not_mem_nil
    · have isQuery := deletionsSent_deleteEach environment later
      rw [queriesOf_eq] at isQuery
      rcases List.mem_map.mp isQuery with ⟨query, _, rfl⟩
      rfl

end Statements

/-- The program deletes the messages with these idents. -/
structure DeletesIdents (kind : MessageTable) (idents : List UInt64) (program : Sql Int) :
    Prop where
  /-- Without idents nothing is sent. -/
  empty : idents = [] → program = .done 0
  /-- Each statement sent names the idents, each as often as it was read. -/
  statements : ∀ {State : Type} (environment : Environment SqlReply State) (state : State),
    ∀ statement ∈ program.trace environment deletionsSent state, ∃ wanted,
      statement.ident = .among wanted ∧ wanted.Perm (idents.map UInt64.toNat)
  /-- A success removes the rows of these messages and no others. -/
  deleted : ∀ store : Store, store.Sound →
    DeletesExactly program kind (idents.map UInt64.toNat) store
  /-- A success answers their number. -/
  size : ∀ {State : Type} (environment : Environment SqlReply State) (state : State),
    0 ≤ (program.run environment state).1 → (program.run environment state).1 = idents.length
  /-- It succeeds if no call fails. -/
  succeeds : ∀ store : Store, (program.run (environment noFaults) store).1 = idents.length

/-- The function returns, with the program as its calls and its answer. -/
def ResultOf (kind : MessageTable) (results : ResultIdents) (ident : UInt64)
    (program : Sql Int) : Prop :=
  ∃ fuel, classicDeleteFromResultIdents results kind fuel ident = some program

/-- What the two functions are to do with a stream. -/
structure DeletesWhatWasRead (kind : MessageTable) (results : ResultIdents) (ident : UInt64) :
    Prop where
  terminates : ∃ program, ResultOf kind results ident program
  /-- An error in front of the end is returned, and nothing is sent. -/
  error : ∀ program, ResultOf kind results ident program →
    ∀ idents error, results.Reads 0 idents (.error error) → program = .done error.code
  deletes : ∀ program, ResultOf kind results ident program →
    ∀ idents, results.Reads 0 idents .ended → DeletesIdents kind idents program

section Streams

variable {results : ResultIdents}

theorem ResultIdents.Reads.unique {call : ℕ} {idents others : List UInt64} {last : GetNext}
    (reads : results.Reads call idents .ended) (otherReads : results.Reads call others last)
    (isLast : ∀ ident, last ≠ .ident ident) : idents = others ∧ last = .ended := by
  induction idents generalizing call others with
  | nil =>
      have ended : results.outcome call = .ended := reads
      cases others with
      | nil => exact ⟨rfl, otherReads.symm.trans ended⟩
      | cons other others => exact absurd (ended.symm.trans otherReads.1) nofun
  | cons ident idents ih =>
      cases others with
      | nil => exact absurd (otherReads.symm.trans reads.1) (isLast ident)
      | cons other others =>
          obtain rfl := GetNext.ident.inj (reads.1.symm.trans otherReads.1)
          rcases ih reads.2 otherReads.2 with ⟨rfl, ended⟩
          exact ⟨rfl, ended⟩

theorem classicDeleteFromList_exact (kind : MessageTable) (idents : List ℕ) {store : Store}
    (sound : store.Sound) :
    DeletesExactly (deleteFromList (doDelete kind) idents) kind idents store := by
  cases kind with
  | alert => exact classicDeleteAlertFromList_exact sound idents
  | heartbeat => exact classicDeleteHeartbeatFromList_exact sound idents

theorem deletesIdents_nil (kind : MessageTable) :
    DeletesIdents kind [] (deleteFromResultIdents (doDelete kind) []) where
  empty _ := rfl
  statements _ _ _ sent := absurd sent List.not_mem_nil
  deleted _ _ _ _ := (List.filter_eq_self.mpr (by simp [Entry.Doomed])).symm
  size _ _ _ := rfl
  succeeds _ := rfl

theorem deletesIdents_list (kind : MessageTable) {idents : List UInt64} (some_ : idents ≠ []) :
    DeletesIdents kind idents (deleteFromList (doDelete kind) (idents.map UInt64.toNat)) where
  empty none_ := absurd none_ some_
  statements environment state statement sent := by
    rw [deleteFromList, Program.trace_bind, List.mem_append] at sent
    rcases sent with here | later
    · exact ⟨_, deletionsSent_doDelete environment here, List.Perm.refl _⟩
    · exact absurd later List.not_mem_nil
  deleted _ sound := classicDeleteFromList_exact kind _ sound
  size environment state := by
    rw [deleteFromList, Program.run_bind, Program.run_done, List.length_map]
    intro succeeded
    split at succeeded
    · next failed => exact absurd failed (Int.not_lt.mpr succeeded)
    · next deleted => exact if_neg deleted
  succeeds store := by rw [(run_deleteFromList_noFaults kind _ store).1, List.length_map]

/-- A function that returns has read the idents up to the end. -/
theorem reads_of_returns {kind : MessageTable} {ident : UInt64} {program : Sql Int}
    (returned : ResultOf kind results ident program) :
    ∃ idents, results.Reads 0 idents .ended := by
  rcases returned with ⟨fuel, isProgram⟩
  rw [classicDeleteFromResultIdents, getStringFromResultIdent] at isProgram
  rcases Option.bind_eq_some_iff.mp isProgram with ⟨text, isText, _⟩
  rcases Option.map_eq_some_iff.mp isText with ⟨result, ends, _⟩
  exact reads_of_catResultIdents ends

theorem returns_of_reads (kind : MessageTable) {idents : List UInt64}
    (reads : results.Reads 0 idents .ended) (ident : UInt64) {program : Sql Int} :
    ResultOf kind results ident program ↔
      program = deleteFromResultIdents (doDelete kind) (idents.map UInt64.toNat) := by
  constructor
  · rintro ⟨fuel, isProgram⟩
    rw [classicDeleteFromResultIdents_of_reads kind reads] at isProgram
    split at isProgram
    · exact (Option.some.inj isProgram).symm
    · exact absurd isProgram nofun
  · rintro rfl
    refine ⟨idents.length + 1, ?_⟩
    rw [classicDeleteFromResultIdents_of_reads kind reads, if_pos (Nat.lt_succ_self _)]

theorem deletesWhatWasRead_of_reads (kind : MessageTable) {idents : List UInt64}
    (reads : results.Reads 0 idents .ended) (ident : UInt64) :
    DeletesWhatWasRead kind results ident where
  terminates := ⟨_, (returns_of_reads kind reads ident).mpr rfl⟩
  error _ _ others error failed := absurd (reads.unique failed nofun).2 nofun
  deletes program returned others otherReads := by
    rw [(returns_of_reads kind reads ident).mp returned, (otherReads.unique reads nofun).1]
    cases idents with
    | nil => exact deletesIdents_nil kind
    | cons first rest => exact deletesIdents_list kind (List.cons_ne_nil first rest)

/-- The functions do what they are to do exactly on the streams that end without an error. -/
theorem deletesWhatWasRead_iff (kind : MessageTable) (results : ResultIdents)
    (ident : UInt64) :
    DeletesWhatWasRead kind results ident ↔ ∃ idents, results.Reads 0 idents .ended := by
  constructor
  · intro deletes
    rcases deletes.terminates with ⟨program, returned⟩
    exact reads_of_returns returned
  · rintro ⟨idents, reads⟩
    exact deletesWhatWasRead_of_reads kind reads ident

/-- A cursor whose first call fails is read for ever. -/
theorem not_deletesWhatWasRead :
    ¬ ∀ (kind : MessageTable) (results : ResultIdents) (ident : UInt64),
      DeletesWhatWasRead kind results ident := by
  intro always
  let failing : ResultIdents := ⟨fun _ => .error ⟨-1, by decide⟩, fun failed => failed⟩
  rcases (always .alert failing 0).terminates with ⟨program, returned⟩
  rcases reads_of_returns returned with ⟨idents, reads⟩
  have failed : failing.outcome 0 = .error ⟨-1, by decide⟩ := rfl
  exact ResultIdents.not_reads_of_error failed idents reads

end Streams

end RequiemDB
