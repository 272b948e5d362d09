import Mathlib.Data.List.DropRight
import RequiemDB.Lib.Routine
import RequiemDB.Sql.Escaping

/-!
# The error messages of PostgreSQL

`handle_error` of `pgsql.c` with `sql_query`, which calls it. What libpq answers is
given, and the copy of the message is memory that is checked. The trimming loop
stops at a byte that stays, so a message without one lets it run below the copy.
A query that fails ends accordingly (`settles_sqlQuery`, `settles_sqlQuery_fault`).
-/

namespace RequiemDB.Pgsql

open Lib Lib.Routine

inductive ConnStatus where
  | ok | bad
deriving DecidableEq

/-- What `PQstatus` and `PQerrorMessage` answer, and whether `strdup` finds memory. -/
structure Connection where
  status : ConnStatus
  errorMessage : Option (Terminated (0 : UInt8))
  duplicates : Bool

def errorConnection : Nat := 3

def errorQuery : Nat := 4

/-- An error code, and the text of a verbose error. -/
structure Error where
  code : Nat
  text : Option (List UInt8)
deriving DecidableEq

/-- `len - 1` in `size_t`. -/
def sizePred (len : Nat) : Nat := (len + (Escaping.sizeModulus - 1)) % Escaping.sizeModulus

/-- The bytes that a message may not end in. -/
def isTrimmed (byte : UInt8) : Bool := byte = 10 || byte = 32

/-- A round of the trimming loop, on the copy and its `len`. -/
def trim : List UInt8 × Nat → Routine (Round (List UInt8 × Nat) (List UInt8))
  | (tmp, len) => do
    let byte ← load tmp len
    if isTrimmed byte then
      let tmp ← store tmp len 0
      return .again (tmp, sizePred len)
    else return .leave tmp

def handleError (code : Nat) (connection : Connection) : Routine Error := do
  let code := if connection.status = .bad then errorConnection else code
  match connection.errorMessage with
  | none => return ⟨code, none⟩
  | some error =>
    if connection.duplicates then
      let length ← strlen 0 error.memory 0
      let tmp ← loop trim (error.memory, sizePred length)
      let text ← stringAt 0 tmp 0
      return ⟨code, some text⟩
    else return ⟨code, some error.content⟩

/-- The results of `PQresultStatus` that `sql_query` tells apart, and the other ones. -/
inductive ExecStatus where
  | tuplesOk | commandOk | emptyQuery | otherStatus
deriving DecidableEq

/-- What `PQexec` leaves: a status and the number of tuples, or no result. -/
structure Execution where
  result : Option (ExecStatus × Nat)
  connection : Connection

inductive QueryResult where
  | rows | nothing
  | error (error : Error)
deriving DecidableEq

/-- `sql_query` behind the allocation of its result. -/
def sqlQuery (execution : Execution) : Routine QueryResult :=
  match execution.result with
  | none => .error <$> handleError errorQuery execution.connection
  | some (status, tuples) =>
    if status = .tuplesOk ∧ tuples ≠ 0 then pure .rows
    else if status = .tuplesOk ∨ status = .commandOk then pure .nothing
    else .error <$> handleError errorQuery execution.connection

section Trim

theorem sizePred_succ {len : Nat} (fits : len + 1 < Escaping.sizeModulus) :
    sizePred (len + 1) = len := by
  have same : len + 1 + (Escaping.sizeModulus - 1) = len + Escaping.sizeModulus := by omega
  rw [sizePred, same, Nat.add_mod_right, Nat.mod_eq_of_lt (by omega)]

/-- The length of an empty text wraps around. -/
theorem sizePred_zero : sizePred 0 = Escaping.sizeModulus - 1 := rfl

theorem trim_of_isTrimmed {front after : List UInt8} {byte : UInt8}
    (trimmed : isTrimmed byte) :
    trim (front ++ byte :: after, front.length) =
      pure (.again (front ++ 0 :: after, sizePred front.length)) := by
  rw [trim, load_append, return_bind, if_pos trimmed, store_append, return_bind]

theorem trim_of_not_isTrimmed {front after : List UInt8} {byte : UInt8}
    (kept : ¬isTrimmed byte) :
    trim (front ++ byte :: after, front.length) = pure (.leave (front ++ byte :: after)) := by
  rw [trim, load_append, return_bind, if_neg kept]

/-- The loop clears a tail that is trimmed, by induction on the tail from its end. -/
theorem settles_clear {front trailing after : List UInt8} {outcome : Checked (List UInt8)}
    (all : ∀ byte ∈ trailing, isTrimmed byte)
    (fits : front.length + trailing.length < Escaping.sizeModulus)
    (later : SettlesOn (loop trim
      (front ++ (List.replicate trailing.length 0 ++ after), sizePred front.length)) outcome) :
    SettlesOn (loop trim
      (front ++ (trailing ++ after), sizePred (front.length + trailing.length))) outcome := by
  induction trailing using List.reverseRecOn generalizing after with
  | nil => exact later
  | append_singleton trailing byte ih =>
      rw [List.length_append, List.length_singleton] at fits later
      rw [List.replicate_succ', List.append_assoc] at later
      have cleared := ih (fun byte mem => all byte (List.mem_append_left _ mem)) (by omega) later
      have trimmed := all byte (by simp)
      refine SettlesOn.again ?_ cleared
      have len : sizePred (front.length + (trailing ++ [byte]).length) =
          (front ++ trailing).length := by
        rw [List.length_append, List.length_append, List.length_singleton, ← Nat.add_assoc]
        exact sizePred_succ (by omega)
      have copy : front ++ (trailing ++ [byte] ++ after) = front ++ trailing ++ byte :: after := by
        simp
      rw [len, copy, trim_of_isTrimmed trimmed, List.length_append]
      simpa using SettlesOn.pure _

theorem settles_trim {left after : List UInt8} (stays : ∃ byte ∈ left, ¬isTrimmed byte)
    (fits : left.length < Escaping.sizeModulus) :
    SettlesOn (loop trim (left ++ after, sizePred left.length))
      (.ended (left.rdropWhile isTrimmed ++
        (List.replicate (left.rtakeWhile isTrimmed).length 0 ++ after))) := by
  have parts : left.rdropWhile isTrimmed ++ left.rtakeWhile isTrimmed = left :=
    List.rdropWhile_append_rtakeWhile
  have lengths := congrArg List.length parts
  rw [List.length_append] at lengths
  rcases List.eq_nil_or_concat' (left.rdropWhile isTrimmed) with none | ⟨front, byte, isKept⟩
  · rcases stays with ⟨byte, mem, kept⟩
    exact absurd (List.rdropWhile_eq_nil_iff.mp none byte mem) kept
  · have kept : ¬isTrimmed byte := by
      have last := List.rdropWhile_last_not isTrimmed left (by simp [isKept])
      simpa only [isKept, List.getLast_append_singleton] using last
    have stops : trim (front ++ [byte] ++
          (List.replicate (left.rtakeWhile isTrimmed).length 0 ++ after),
          sizePred (front ++ [byte]).length) =
        pure (.leave (front ++ [byte] ++
          (List.replicate (left.rtakeWhile isTrimmed).length 0 ++ after))) := by
      rw [isKept, List.length_append, List.length_singleton] at lengths
      rw [List.length_append, List.length_singleton, sizePred_succ (by omega), List.append_assoc,
        List.singleton_append, trim_of_not_isTrimmed kept]
    have settles := settles_clear (fun _ => List.mem_rtakeWhile_imp)
      (by rw [← isKept, lengths]; exact fits) (SettlesOn.leave (stops ▸ SettlesOn.pure _))
    rwa [← isKept, ← List.append_assoc, parts, lengths] at settles

/-- With nothing that stays, the loop looks behind all memory. -/
theorem settles_trim_fault {trailing after : List UInt8}
    (all : ∀ byte ∈ trailing, isTrimmed byte)
    (fits : (trailing ++ after).length < Escaping.sizeModulus) :
    SettlesOn (loop trim (trailing ++ after, sizePred trailing.length)) .fault := by
  rw [List.length_append] at fits
  have cleared : (List.replicate trailing.length (0 : UInt8) ++ after).length <
      Escaping.sizeModulus := by
    rwa [List.length_append, List.length_replicate]
  have faults : trim (List.replicate trailing.length 0 ++ after, sizePred 0) = fault := by
    rw [trim, sizePred_zero, load_of_le (by omega), fault_bind]
  have settles := @settles_clear [] trailing after .fault all (by rw [List.length_nil]; omega)
    (SettlesOn.loop_fault (faults ▸ SettlesOn.fault))
  rwa [List.nil_append, List.length_nil, Nat.zero_add] at settles

end Trim

section HandleError

variable {code : Nat} {status : ConnStatus} {text : Terminated (0 : UInt8)}

theorem handleError_some :
    handleError code ⟨status, some text, true⟩ = do
      let tmp ← loop trim (text.memory, sizePred text.content.length)
      let trimmed ← stringAt 0 tmp 0
      return ⟨if status = .bad then errorConnection else code, some trimmed⟩ := by
  have length : strlen 0 text.memory 0 = pure text.content.length := by
    have string := stringAt_append text.noNul [] []
    rw [strlen, Terminated.memory]
    rw [List.nil_append, List.length_nil] at string
    rw [string, return_bind]
  rw [handleError]
  simp only [length, return_bind, if_true]

/-- A message with a byte that stays is trimmed and handed on. -/
theorem settles_handleError (stays : ∃ byte ∈ text.content, ¬isTrimmed byte) :
    SettlesOn (handleError code ⟨status, some text, true⟩)
      (.ended ⟨if status = .bad then errorConnection else code,
        some (text.content.rdropWhile isTrimmed)⟩) := by
  have fits := text.fits
  have noNul : 0 ∉ text.content.rdropWhile isTrimmed := fun mem =>
    text.noNul ((List.rdropWhile_prefix isTrimmed _).subset mem)
  have string : stringAt 0 (text.content.rdropWhile isTrimmed ++
      (List.replicate (text.content.rtakeWhile isTrimmed).length 0 ++ [0])) 0 =
      pure (text.content.rdropWhile isTrimmed) := by
    rw [← List.replicate_succ', List.replicate_succ]
    exact stringAt_append noNul [] _
  rw [handleError_some]
  refine SettlesOn.bind (settles_trim stays (Nat.lt_of_succ_lt fits)) ?_
  rw [string, return_bind]
  exact SettlesOn.pure _

/-- A message without one is not. -/
theorem settles_handleError_fault (all : ∀ byte ∈ text.content, isTrimmed byte) :
    SettlesOn (handleError code ⟨status, some text, true⟩) .fault := by
  rw [handleError_some]
  refine SettlesOn.bind_fault (settles_trim_fault all ?_)
  rw [List.length_append, List.length_singleton]
  exact text.fits

/--
The error has the message without the newlines and spaces at its end exactly when the message has
another byte.
-/
theorem settles_handleError_iff (code : Nat) (status : ConnStatus)
    (text : Terminated (0 : UInt8)) :
    SettlesOn (handleError code ⟨status, some text, true⟩)
        (.ended ⟨if status = .bad then errorConnection else code,
          some (text.content.rdropWhile isTrimmed)⟩) ↔
      ∃ byte ∈ text.content, ¬isTrimmed byte := by
  refine ⟨fun settles => ?_, settles_handleError⟩
  by_contra none
  push Not at none
  have same := settles.unique (settles_handleError_fault none)
  cases same

/-- The message behind an empty query. -/
def emptyMessage : Terminated (0 : UInt8) := ⟨[], by decide, by decide⟩

theorem not_settles_emptyMessage :
    ¬SettlesOn (handleError errorQuery ⟨.ok, some emptyMessage, true⟩)
      (.ended ⟨errorQuery, some []⟩) := by
  intro settles
  have faults : SettlesOn (handleError errorQuery ⟨.ok, some emptyMessage, true⟩) .fault :=
    settles_handleError_fault fun _ mem => absurd mem List.not_mem_nil
  cases settles.unique faults

end HandleError

section SqlQuery

variable {execution : Execution}

/-- There is no result, or its status says neither that there are tuples nor that all is done. -/
def Execution.Fails (execution : Execution) : Prop :=
  ∀ status tuples, execution.result = some (status, tuples) →
    status ≠ .tuplesOk ∧ status ≠ .commandOk

theorem sqlQuery_of_fails (fails : execution.Fails) :
    sqlQuery execution = .error <$> handleError errorQuery execution.connection := by
  rw [sqlQuery]
  cases isResult : execution.result with
  | none => rfl
  | some result =>
      rcases result with ⟨status, tuples⟩
      rcases fails status tuples isResult with ⟨notTuples, notCommand⟩
      simp only [notTuples, notCommand, false_and, false_or, if_false]

/-- An empty query is answered without a message. -/
theorem settles_sqlQuery_fault {status : ConnStatus} {text : Terminated (0 : UInt8)}
    (fails : execution.Fails) (isConnection : execution.connection = ⟨status, some text, true⟩)
    (all : ∀ byte ∈ text.content, isTrimmed byte) : SettlesOn (sqlQuery execution) .fault := by
  rw [sqlQuery_of_fails fails, isConnection]
  exact SettlesOn.bind_fault (settles_handleError_fault all)

theorem settles_sqlQuery {status : ConnStatus} {text : Terminated (0 : UInt8)}
    (fails : execution.Fails) (isConnection : execution.connection = ⟨status, some text, true⟩)
    (stays : ∃ byte ∈ text.content, ¬isTrimmed byte) :
    SettlesOn (sqlQuery execution)
      (.ended (.error ⟨if status = .bad then errorConnection else errorQuery,
        some (text.content.rdropWhile isTrimmed)⟩)) := by
  rw [sqlQuery_of_fails fails, isConnection]
  exact SettlesOn.bind (settles_handleError stays) (SettlesOn.pure _)

end SqlQuery

end RequiemDB.Pgsql
