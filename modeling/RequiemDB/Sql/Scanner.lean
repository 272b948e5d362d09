import RequiemDB.Lib.Routine
import RequiemDB.Sql.Settings

/-!
# The settings scanner in memory

`requiemdb_sql_settings_set_from_string` with its cursor and the buffers that it
writes to. A cursor that passes the terminator is a fault, as an access outside
of a buffer is. The index that `get_value` writes at is an `int`. While it does not
overflow, the scanner does what `Settings` says of the text behind the cursor.
-/

namespace RequiemDB.Settings.Scanner

open Lib Lib.Routine

/-- The terminator. -/
def nul : Char := '\x00'

/-- A conversion to `int`. -/
@[irreducible]
def toInt (value : Int) : Int := value.bmod (2 ^ 32)

/-- The error of an allocation that fails. -/
def outOfMemory : ErrorCode := ⟨-1, minusOne_negative⟩

/-- What a scanner returns, with the cursor and the string that it leaves. -/
structure Token where
  ret : Int
  cursor : Nat
  text : List Char

/-- How the calls of one round of the loop go: two allocations and `requiem_hash_set`. -/
structure Outcome where
  named : Bool
  allocated : Bool
  stored : Int

section Functions

variable (str : Terminated nul)

/-- `**str` -/
def peek (cursor : Nat) : Routine Char := load str.memory cursor

/-- `(*str)++`, which may not pass the terminator. -/
def advance (cursor : Nat) : Routine Nat :=
  if cursor < str.content.length then pure (cursor + 1) else fault

def skipWhile (accepts : Char → Bool) : Nat → Routine Nat :=
  loop fun cursor => do
    let c ← peek str cursor
    if accepts c then
      let next ← advance str cursor
      return .again next
    else return .leave cursor

def skipSpaces : Nat → Routine Nat := skipWhile str isSpace

/-- `get_name` behind the spaces. -/
def nameFrom (outcome : Outcome) (start : Nat) : Routine Token := do
  let cursor ← skipWhile str isNameChar start
  let c ← peek str cursor
  if c ≠ '=' ∨ cursor = start then return ⟨invalidSettingsString.code, cursor, []⟩
  else
    let name ← strndup nul str.memory start (cursor - start)
    let cursor ← advance str cursor
    if outcome.named then return ⟨toInt (cursor - start - 1), cursor, name⟩
    else return ⟨outOfMemory.code, cursor, []⟩

def getName (outcome : Outcome) (cursor : Nat) : Routine Token := do
  let start ← skipSpaces str cursor
  let first ← peek str start
  if first = nul then return ⟨0, start, []⟩ else nameFrom str outcome start

/-- The variables of the loop of `get_value`. -/
structure Scan where
  escaped : Bool
  cnt : Int
  value : List Char
  cursor : Nat

/-- `(*value)[cnt++] = **str`. The last byte of the buffer is left for the terminator. -/
def put (scan : Scan) (c : Char) : Routine Scan :=
  if scan.cnt + 1 < scan.value.length then do
    let value ← store scan.value scan.cnt c
    return { scan with cnt := toInt (scan.cnt + 1), value }
  else fault

def scanRound (endOfString : Char) (scan : Scan) : Routine (Round Scan Scan) := do
  let c ← peek str scan.cursor
  if c = nul then return .leave scan
  else if scan.escaped then
    let scan ← put scan c
    let cursor ← advance str scan.cursor
    return .again { scan with escaped := false, cursor }
  else if c = '\\' then
    let cursor ← advance str scan.cursor
    return .again { scan with escaped := true, cursor }
  else if c = endOfString then
    let cursor ← advance str scan.cursor
    return .leave { scan with cursor }
  else
    let scan ← put scan c
    let cursor ← advance str scan.cursor
    return .again { scan with cursor }

/-- The opening quote, which is stepped over and ends the value too. -/
def openQuote (cursor : Nat) : Routine (Char × Nat) := do
  let c ← peek str cursor
  if isQuote c then
    let cursor ← advance str cursor
    return (c, cursor)
  else return (' ', cursor)

def getValue (outcome : Outcome) (cursor : Nat) : Routine Token := do
  let size ← strlen nul str.memory cursor
  if outcome.allocated then
    let (endOfString, cursor) ← openQuote str cursor
    let scan ← loop (scanRound str endOfString) ⟨false, 0, List.replicate (size + 1) nul, cursor⟩
    let c ← peek str scan.cursor
    if c = nul ∧ isQuote endOfString then
      return ⟨invalidSettingsString.code, scan.cursor, []⟩
    else
      let text ← stringAt nul scan.value 0
      return ⟨scan.cnt, scan.cursor, text⟩
  else return ⟨outOfMemory.code, cursor, []⟩

/-- A round of the loop behind its name. -/
def setValue (outcomes : Nat → Outcome) (number : Nat) (settings : Hash) (name : Token) :
    Routine (Round (Nat × Nat × Hash) (Int × Hash)) := do
  let value ← getValue str (outcomes number) name.cursor
  if value.ret < 0 then return .leave (value.ret, settings)
  else if (outcomes number).stored < 0 then return .leave ((outcomes number).stored, settings)
  else return .again (number + 1, value.cursor, settings.set name.text value.text)

/-- A round of the loop, on its number, the cursor and the settings. -/
def settingRound (outcomes : Nat → Outcome) :
    Nat × Nat × Hash → Routine (Round (Nat × Nat × Hash) (Int × Hash))
  | (number, cursor, settings) => do
    let name ← getName str (outcomes number) cursor
    if name.ret ≤ 0 then return .leave (name.ret, settings)
    else setValue str outcomes number settings name

def setFromString (outcomes : Nat → Outcome) (settings : Hash) : Routine (Int × Hash) :=
  loop (settingRound str outcomes) (0, 0, settings)

end Functions

/-- The cursor is in front of the text `rest` of the string. -/
def At (str : Terminated nul) (cursor : Nat) (rest : List Char) : Prop :=
  ∃ before, str.content = before ++ rest ∧ before.length = cursor

section Cursor

variable {str : Terminated nul} {cursor : Nat} {c : Char} {rest : List Char}

theorem at_zero (str : Terminated nul) : At str 0 str.content := ⟨[], rfl, rfl⟩

theorem At.subset (isAt : At str cursor rest) : rest ⊆ str.content := by
  rcases isAt with ⟨before, split, _⟩
  rw [split]
  exact List.subset_append_right before rest

theorem At.noNul (isAt : At str cursor rest) : nul ∉ rest := fun mem =>
  str.noNul (isAt.subset mem)

theorem At.next (isAt : At str cursor (c :: rest)) : At str (cursor + 1) rest := by
  rcases isAt with ⟨before, split, rfl⟩
  exact ⟨before ++ [c], by rw [split, List.append_assoc]; rfl, by simp⟩

theorem At.ne_nul (isAt : At str cursor (c :: rest)) : c ≠ nul := fun same =>
  isAt.noNul (same ▸ List.mem_cons_self)

theorem At.length_le (isAt : At str cursor rest) : rest.length ≤ str.content.length := by
  rcases isAt with ⟨before, split, _⟩
  rw [split, List.length_append]
  omega

theorem peek_cons (isAt : At str cursor (c :: rest)) : peek str cursor = pure c := by
  rcases isAt with ⟨before, split, rfl⟩
  rw [peek, Terminated.memory, split, List.append_assoc, List.cons_append, load_append]

/-- At the end of the text, the cursor is on the terminator. -/
theorem peek_nil (isAt : At str cursor []) : peek str cursor = pure nul := by
  rcases isAt with ⟨before, split, rfl⟩
  rw [peek, Terminated.memory, split, List.append_nil, load_append]

theorem peek_at (isAt : At str cursor rest) :
    ∃ c, peek str cursor = pure c ∧ (c = nul ↔ rest = []) := by
  cases rest with
  | nil => exact ⟨nul, peek_nil isAt, iff_of_true rfl rfl⟩
  | cons c rest => exact ⟨c, peek_cons isAt, iff_of_false isAt.ne_nul (List.cons_ne_nil c rest)⟩

theorem advance_cons (isAt : At str cursor (c :: rest)) :
    advance str cursor = pure (cursor + 1) := by
  rcases isAt with ⟨before, split, rfl⟩
  rw [advance, if_pos (by rw [split, List.length_append, List.length_cons]; omega)]

theorem strlen_at (isAt : At str cursor rest) :
    strlen nul str.memory cursor = pure rest.length := by
  have noNul := isAt.noNul
  rcases isAt with ⟨before, split, rfl⟩
  rw [strlen, Terminated.memory, split, List.append_assoc, stringAt_append noNul, return_bind]

end Cursor

section SkipWhile

variable {str : Terminated nul} {cursor : Nat} {rest : List Char}

/-- A run of characters is skipped, up to the terminator at most. -/
theorem settles_skipWhile {accepts : Char → Bool} (stops : accepts nul = false)
    (isAt : At str cursor rest) :
    SettlesOn (skipWhile str accepts cursor)
        (.ended (cursor + (rest.takeWhile accepts).length)) ∧
      At str (cursor + (rest.takeWhile accepts).length) (rest.dropWhile accepts) := by
  induction rest generalizing cursor with
  | nil =>
      refine ⟨SettlesOn.leave ?_, isAt⟩
      rw [peek_nil isAt, return_bind, if_neg (by simp [stops])]
      exact SettlesOn.pure _
  | cons c rest ih =>
      by_cases accepted : accepts c
      · rw [List.takeWhile_cons_of_pos accepted, List.dropWhile_cons_of_pos accepted,
          List.length_cons, Nat.add_comm _ 1, ← Nat.add_assoc]
        rcases ih isAt.next with ⟨settles, isAtEnd⟩
        refine ⟨SettlesOn.again ?_ settles, isAtEnd⟩
        rw [peek_cons isAt, return_bind, if_pos accepted, advance_cons isAt, return_bind]
        exact SettlesOn.pure _
      · rw [List.takeWhile_cons_of_neg accepted, List.dropWhile_cons_of_neg accepted]
        refine ⟨SettlesOn.leave ?_, isAt⟩
        rw [peek_cons isAt, return_bind, if_neg accepted]
        exact SettlesOn.pure _

end SkipWhile

section GetName

variable {str : Terminated nul} {cursor start : Nat} {rest text : List Char}

theorem strndup_at {name behind : List Char} (isAt : At str cursor (name ++ behind)) :
    strndup nul str.memory cursor name.length = pure name := by
  have noNul : nul ∉ name := fun mem => isAt.noNul (List.mem_append_left _ mem)
  rcases isAt with ⟨before, split, rfl⟩
  rw [Terminated.memory, split, List.append_assoc, List.append_assoc, strndup_append noNul]

theorem settles_nameFrom (outcome : Outcome) {after : List Char} (isAt : At str start text)
    (some : text.takeWhile isNameChar ≠ [])
    (behind : text.dropWhile isNameChar = '=' :: after) :
    SettlesOn (nameFrom str outcome start)
        (.ended (if outcome.named then
          ⟨toInt (text.takeWhile isNameChar).length,
            start + (text.takeWhile isNameChar).length + 1, text.takeWhile isNameChar⟩
          else ⟨outOfMemory.code, start + (text.takeWhile isNameChar).length + 1, []⟩)) ∧
      At str (start + (text.takeWhile isNameChar).length + 1) after := by
  rcases settles_skipWhile (by decide : isNameChar nul = false) isAt with ⟨skipped, isAtEnd⟩
  have whole : text.takeWhile isNameChar ++ text.dropWhile isNameChar = text :=
    List.takeWhile_append_dropWhile
  have isName := strndup_at (whole.symm ▸ isAt)
  have long : start + (text.takeWhile isNameChar).length ≠ start := by
    have positive := List.length_pos_iff.mpr some
    omega
  rw [behind] at isAtEnd
  refine ⟨SettlesOn.bind skipped ?_, isAtEnd.next⟩
  rw [peek_cons isAtEnd, return_bind, if_neg (not_or.mpr ⟨not_not.mpr rfl, long⟩),
    Nat.add_sub_cancel_left, isName, return_bind, advance_cons isAtEnd, return_bind]
  have size : ((start + (text.takeWhile isNameChar).length + 1 : Nat) : Int) - start - 1 =
      (text.takeWhile isNameChar).length := by omega
  rw [size]
  split
  · exact SettlesOn.pure _
  · exact SettlesOn.pure _

theorem settles_nameFrom_invalid (outcome : Outcome) (isAt : At str start text)
    (refused : ∀ after, text.dropWhile isNameChar = '=' :: after →
      text.takeWhile isNameChar = []) :
    SettlesOn (nameFrom str outcome start)
      (.ended ⟨invalidSettingsString.code, start + (text.takeWhile isNameChar).length, []⟩) := by
  rcases settles_skipWhile (by decide : isNameChar nul = false) isAt with ⟨skipped, isAtEnd⟩
  refine SettlesOn.bind skipped ?_
  cases behind : text.dropWhile isNameChar with
  | nil =>
      rw [behind] at isAtEnd
      rw [peek_nil isAtEnd, return_bind, if_pos (.inl (by decide))]
      exact SettlesOn.pure _
  | cons c after =>
      rw [behind] at isAtEnd
      rw [peek_cons isAtEnd, return_bind]
      by_cases isEquals : c = '='
      · subst isEquals
        rw [if_pos (.inr (by rw [refused after behind]; rfl))]
        exact SettlesOn.pure _
      · rw [if_pos (.inl isEquals)]
        exact SettlesOn.pure _

/-- What `get_name` returns for the text behind the cursor. -/
def nameToken (outcome : Outcome) (next : Nat) (rest : List Char) : Token :=
  match Settings.getName rest with
  | .error error => ⟨error.code, next, []⟩
  | .ok none => ⟨0, next, []⟩
  | .ok (some (name, _)) =>
      if outcome.named then ⟨toInt name.length, next, name⟩ else ⟨outOfMemory.code, next, []⟩

/-- `get_name` reads what it reads of the text behind the cursor. -/
theorem settles_getName (outcome : Outcome) (isAt : At str cursor rest) :
    ∃ next, SettlesOn (getName str outcome cursor) (.ended (nameToken outcome next rest)) ∧
      ∀ name behind, Settings.getName rest = .ok (some (name, behind)) → At str next behind := by
  rcases settles_skipWhile (by decide : isSpace nul = false) isAt with ⟨skipped, isAtStart⟩
  generalize cursor + (rest.takeWhile isSpace).length = start at skipped isAtStart
  cases isText : rest.dropWhile isSpace with
  | nil =>
      have named : Settings.getName rest = .ok none := by simp [Settings.getName, isText]
      rw [isText] at isAtStart
      refine ⟨start, SettlesOn.bind skipped ?_, by simp [named]⟩
      rw [peek_nil isAtStart, return_bind, if_pos rfl, nameToken, named]
      exact SettlesOn.pure _
  | cons first text =>
      rw [isText] at isAtStart
      have enters : ∀ {token}, SettlesOn (nameFrom str outcome start) (.ended token) →
          SettlesOn (getName str outcome cursor) (.ended token) := by
        intro token later
        refine SettlesOn.bind skipped ?_
        rw [peek_cons isAtStart, return_bind, if_neg isAtStart.ne_nul]
        exact later
      by_cases accepted : ∃ after, (first :: text).dropWhile isNameChar = '=' :: after ∧
          (first :: text).takeWhile isNameChar ≠ []
      · rcases accepted with ⟨after, behind, some⟩
        have named : Settings.getName rest =
            .ok (.some ((first :: text).takeWhile isNameChar, after)) := by
          simp only [Settings.getName, isText, behind, if_neg some]
          simp
        rcases settles_nameFrom outcome isAtStart some behind with ⟨settles, isAtEnd⟩
        refine ⟨start + ((first :: text).takeWhile isNameChar).length + 1, enters ?_, ?_⟩
        · rw [nameToken, named]
          exact settles
        · intro name other same
          rw [named] at same
          cases same
          exact isAtEnd
      · have refused : ∀ after, (first :: text).dropWhile isNameChar = '=' :: after →
            (first :: text).takeWhile isNameChar = [] := by
          intro after behind
          by_contra some
          exact accepted ⟨after, behind, some⟩
        have named : Settings.getName rest = .error invalidSettingsString := by
          simp only [Settings.getName, isText, if_neg (List.cons_ne_nil _ _)]
          split
          · next behind => rw [if_pos (refused _ behind)]
          · rfl
        refine ⟨start + ((first :: text).takeWhile isNameChar).length, enters ?_, by simp [named]⟩
        rw [nameToken, named]
        exact settles_nameFrom_invalid outcome isAtStart refused

end GetName

section Int

theorem toInt_of_lt {count : Nat} (short : count < 2 ^ 31) : toInt count = count := by
  rw [toInt, Int.bmod_def]
  omega

/-- The first index that an `int` cannot hold. -/
theorem toInt_full : toInt (2 ^ 31 : Nat) = -2 ^ 31 := by
  rw [toInt]
  decide

end Int

/-- The characters of `text` are written to the buffer, and `room` more fit in. -/
structure Scan.Holds (scan : Scan) (text : List Char) (room : Nat) : Prop where
  value : scan.value = text ++ List.replicate (room + 1) nul
  cnt : scan.cnt = toInt text.length

/-- The variables with `text` in the buffer and room for `room` more characters. -/
def Scan.written (text : List Char) (room cursor : Nat) : Scan :=
  ⟨false, toInt text.length, text ++ List.replicate (room + 1) nul, cursor⟩

theorem Scan.holds_written (text : List Char) (room cursor : Nat) :
    (written text room cursor).Holds text room := ⟨rfl, rfl⟩

section Put

variable {scan : Scan} {text : List Char} {room : Nat}

theorem put_of_lt (holds : scan.Holds text (room + 1)) (short : text.length < 2 ^ 31) (c : Char) :
    put scan c = pure { scan with
      cnt := toInt (text ++ [c]).length
      value := text ++ [c] ++ List.replicate (room + 1) nul } := by
  have cnt : scan.cnt = text.length := holds.cnt.trans (toInt_of_lt short)
  have below : scan.cnt + 1 < scan.value.length := by
    rw [cnt, holds.value, List.length_append, List.length_replicate]
    omega
  have size : (text.length : Int) + 1 = ((text ++ [c]).length : Nat) := by simp
  rw [put, if_pos below, cnt, holds.value, List.replicate_succ, store_append, return_bind, size,
    List.append_assoc, List.singleton_append]

/-- Behind 2^31 characters the index is negative. -/
theorem put_of_full (holds : scan.Holds text (room + 1)) (full : text.length = 2 ^ 31) (c : Char) :
    put scan c = fault := by
  have cnt : scan.cnt = -2 ^ 31 := by rw [holds.cnt, full, toInt_full]
  rw [put]
  split
  · rw [store_of_neg (by rw [cnt]; decide), fault_bind]
  · rfl

end Put

section Scan

variable {str : Terminated nul} {scan : Scan} {text rest : List Char} {endOfString c : Char}
  {extra : Nat}

/-- The loop writes `more` behind `text` and leaves the cursor at `behind`, if the index lasts. -/
def Scans (str : Terminated nul) (endOfString : Char) (scan : Scan)
    (text more behind : List Char) : Prop :=
  (text.length + more.length ≤ 2 ^ 31 →
    ∃ after room, SettlesOn (loop (scanRound str endOfString) scan) (.ended after) ∧
      At str after.cursor behind ∧ after.Holds (text ++ more) room) ∧
  (text.length ≤ 2 ^ 31 → 2 ^ 31 < text.length + more.length →
    SettlesOn (loop (scanRound str endOfString) scan) .fault)

theorem scans_put {more behind : List Char} (isAt : At str scan.cursor (c :: rest))
    (holds : scan.Holds text (rest.length + extra + 1))
    (round : scanRound str endOfString scan = do
      let scan ← put scan c
      let cursor ← advance str scan.cursor
      return .again { scan with escaped := false, cursor })
    (later : Scans str endOfString
      (.written (text ++ [c]) (rest.length + extra) (scan.cursor + 1)) (text ++ [c]) more behind) :
    Scans str endOfString scan text (c :: more) behind := by
  by_cases short : text.length < 2 ^ 31
  · have again : SettlesOn (scanRound str endOfString scan) (.ended (.again
        (.written (text ++ [c]) (rest.length + extra) (scan.cursor + 1)))) := by
      rw [round, put_of_lt holds short, return_bind, advance_cons isAt, return_bind]
      exact SettlesOn.pure _
    constructor
    · intro lasts
      have lastsNext : (text ++ [c]).length + more.length ≤ 2 ^ 31 := by
        rw [List.length_cons] at lasts
        rw [List.length_append, List.length_singleton]
        omega
      rcases later.1 lastsNext with ⟨after, room, settles, isAtEnd, holdsEnd⟩
      refine ⟨after, room, again.again settles, isAtEnd, ?_⟩
      rwa [List.append_assoc, List.singleton_append] at holdsEnd
    · intro _ overflows
      rw [List.length_cons] at overflows
      refine again.again (later.2 ?_ ?_) <;> rw [List.length_append, List.length_singleton] <;>
        omega
  · constructor
    · intro lasts
      rw [List.length_cons] at lasts
      omega
    · intro fits _
      refine SettlesOn.loop_fault ?_
      rw [round, put_of_full holds (by omega), fault_bind]
      exact SettlesOn.fault

theorem scans_skip {more behind : List Char} {next : Scan}
    (round : scanRound str endOfString scan = pure (.again next))
    (later : Scans str endOfString next text more behind) :
    Scans str endOfString scan text more behind := by
  have again : SettlesOn (scanRound str endOfString scan) (.ended (.again next)) :=
    round ▸ SettlesOn.pure _
  constructor
  · intro lasts
    rcases later.1 lasts with ⟨after, room, settles, isAtEnd, holdsEnd⟩
    exact ⟨after, room, again.again settles, isAtEnd, holdsEnd⟩
  · exact fun fits overflows => again.again (later.2 fits overflows)

theorem scans_leave {behind : List Char} {after : Scan} {room : Nat}
    (round : scanRound str endOfString scan = pure (.leave after))
    (isAt : At str after.cursor behind) (holds : after.Holds text room) :
    Scans str endOfString scan text [] behind := by
  constructor
  · intro _
    refine ⟨after, room, SettlesOn.leave (round ▸ SettlesOn.pure _), isAt, ?_⟩
    rwa [List.append_nil]
  · intro fits overflows
    rw [List.length_nil] at overflows
    omega

/-- The loop of `get_value` writes what `scanValue` keeps, one case for each of its branches. -/
theorem scans (isAt : At str scan.cursor rest) (holds : scan.Holds text (rest.length + extra)) :
    Scans str endOfString scan text (scanValue endOfString scan.escaped rest).1
      (scanValue endOfString scan.escaped rest).2 := by
  induction rest generalizing scan text extra with
  | nil =>
      refine scans_leave ?_ isAt holds
      rw [scanRound, peek_nil isAt, return_bind, if_pos rfl]
  | cons c rest ih =>
      rw [List.length_cons, Nat.add_right_comm] at holds
      have written : Scans str endOfString
          (.written (text ++ [c]) (rest.length + extra) (scan.cursor + 1)) (text ++ [c])
          (scanValue endOfString false rest).1 (scanValue endOfString false rest).2 :=
        ih isAt.next (Scan.holds_written _ _ _)
      have peeked := peek_cons isAt
      have notNul := isAt.ne_nul
      cases isEscaped : scan.escaped with
      | true =>
          rw [scanValue, if_pos rfl]
          refine scans_put isAt holds ?_ written
          rw [scanRound, peeked, return_bind, if_neg notNul, if_pos isEscaped]
      | false =>
          have plain : ¬scan.escaped = true := by rw [isEscaped]; exact Bool.false_ne_true
          rw [scanValue, if_neg Bool.false_ne_true]
          by_cases backslash : c = '\\'
          · rw [if_pos backslash]
            let next : Scan := { scan with escaped := true, cursor := scan.cursor + 1 }
            have holdsNext : next.Holds text (rest.length + (extra + 1)) :=
              ⟨holds.value, holds.cnt⟩
            refine scans_skip ?_ (ih isAt.next holdsNext)
            rw [scanRound, peeked, return_bind, if_neg notNul, if_neg plain, if_pos backslash,
              advance_cons isAt, return_bind]
          rw [if_neg backslash]
          by_cases ends : c = endOfString
          · rw [if_pos ends]
            let after : Scan := { scan with cursor := scan.cursor + 1 }
            have holdsAfter : after.Holds text (rest.length + extra + 1) :=
              ⟨holds.value, holds.cnt⟩
            refine scans_leave ?_ isAt.next holdsAfter
            rw [scanRound, peeked, return_bind, if_neg notNul, if_neg plain, if_neg backslash,
              if_pos ends, advance_cons isAt, return_bind]
          rw [if_neg ends]
          refine scans_put isAt holds ?_ written
          rw [scanRound, peeked, return_bind, if_neg notNul, if_neg plain, if_neg backslash,
            if_neg ends, put]
          split
          · rw [store]
            split
            · simp only [return_bind, isEscaped]
            · rfl
          · rfl

end Scan

section GetValue

variable {str : Terminated nul} {cursor : Nat} {rest : List Char} {outcome : Outcome}

/-- The characters that `get_value` writes, also where it refuses the value in the end. -/
def writtenValue (rest : List Char) : List Char :=
  (scanValue (openValue rest).1 false (openValue rest).2).1

theorem getValue_eq (rest : List Char) :
    Settings.getValue rest =
      if (scanValue (openValue rest).1 false (openValue rest).2).2 = [] ∧
          isQuote (openValue rest).1 then .error invalidSettingsString
      else .ok (writtenValue rest, (scanValue (openValue rest).1 false (openValue rest).2).2) :=
  rfl

theorem scanValue_subset (endOfString : Char) (escaped : Bool) (text : List Char) :
    (scanValue endOfString escaped text).1 ⊆ text := by
  induction text generalizing escaped with
  | nil => exact List.Subset.refl _
  | cons c text ih =>
      have kept : c :: (scanValue endOfString false text).1 ⊆ c :: text :=
        List.cons_subset_cons c (ih false)
      rw [scanValue]
      split
      · exact kept
      · split
        · exact List.subset_cons_of_subset c (ih true)
        · split
          · exact List.nil_subset _
          · exact kept

theorem openQuote_at (isAt : At str cursor rest) :
    ∃ start extra, openQuote str cursor = pure ((openValue rest).1, start) ∧
      At str start (openValue rest).2 ∧ rest.length = (openValue rest).2.length + extra := by
  cases rest with
  | nil =>
      refine ⟨cursor, 0, ?_, isAt, rfl⟩
      rw [openQuote, peek_nil isAt, return_bind, if_neg (by decide), openValue]
  | cons c rest =>
      rw [openQuote, peek_cons isAt, return_bind, openValue]
      by_cases quoted : isQuote c
      · rw [if_pos quoted, if_pos quoted, advance_cons isAt, return_bind]
        exact ⟨cursor + 1, 1, rfl, isAt.next, rfl⟩
      · rw [if_neg quoted, if_neg quoted]
        exact ⟨cursor, 0, rfl, isAt, rfl⟩

/-- What `get_value` returns for the text behind the cursor. -/
def valueToken (next : Nat) (rest : List Char) : Token :=
  match Settings.getValue rest with
  | .error error => ⟨error.code, next, []⟩
  | .ok (value, _) => ⟨toInt value.length, next, value⟩

theorem settles_getValue_of_not_allocated (isAt : At str cursor rest)
    (notAllocated : outcome.allocated = false) :
    SettlesOn (getValue str outcome cursor) (.ended ⟨outOfMemory.code, cursor, []⟩) := by
  rw [getValue, strlen_at isAt, return_bind, if_neg (by simp [notAllocated])]
  exact SettlesOn.pure _

theorem getValue_of_allocated {endOfString : Char} {start : Nat} (isAt : At str cursor rest)
    (allocated : outcome.allocated = true)
    (opened : openQuote str cursor = pure (endOfString, start)) :
    getValue str outcome cursor = do
      let scan ← loop (scanRound str endOfString) (.written [] rest.length start)
      let c ← peek str scan.cursor
      if c = nul ∧ isQuote endOfString then
        return ⟨invalidSettingsString.code, scan.cursor, []⟩
      else
        let text ← stringAt nul scan.value 0
        return ⟨scan.cnt, scan.cursor, text⟩ := by
  have cnt : (0 : Int) = toInt ([] : List Char).length := (toInt_of_lt (by decide)).symm
  rw [getValue, strlen_at isAt, return_bind, if_pos allocated, opened, return_bind, cnt]
  rfl

/-- The loop of `get_value` on the text behind the opening quote. -/
theorem scans_openValue {start extra : Nat} (isAt : At str start (openValue rest).2)
    (size : rest.length = (openValue rest).2.length + extra) :
    Scans str (openValue rest).1 (.written [] rest.length start) [] (writtenValue rest)
      (scanValue (openValue rest).1 false (openValue rest).2).2 := by
  rw [size]
  exact scans isAt (Scan.holds_written _ _ _)

theorem openValue_subset (rest : List Char) : (openValue rest).2 ⊆ rest := by
  cases rest with
  | nil => exact List.Subset.refl _
  | cons c rest =>
      rw [openValue]
      split
      · exact List.subset_cons_self c rest
      · exact List.Subset.refl _

/-- A value that the index lasts for is read as it is of the text behind the cursor. -/
theorem settles_getValue (isAt : At str cursor rest) (allocated : outcome.allocated = true)
    (lasts : (writtenValue rest).length ≤ 2 ^ 31) :
    ∃ next, SettlesOn (getValue str outcome cursor) (.ended (valueToken next rest)) ∧
      ∀ value behind, Settings.getValue rest = .ok (value, behind) → At str next behind := by
  rcases openQuote_at isAt with ⟨start, extra, opened, isAtStart, size⟩
  rcases (scans_openValue isAtStart size).1 (by rwa [List.length_nil, Nat.zero_add]) with
    ⟨after, room, settles, isAtEnd, holds⟩
  have noNul : nul ∉ writtenValue rest := fun mem =>
    isAt.noNul (openValue_subset rest (scanValue_subset _ _ _ mem))
  have text : stringAt nul after.value 0 = pure (writtenValue rest) := by
    rw [holds.value, List.replicate_succ]
    exact stringAt_append noNul [] _
  rw [getValue_of_allocated isAt allocated opened]
  by_cases unclosed : (scanValue (openValue rest).1 false (openValue rest).2).2 = [] ∧
      isQuote (openValue rest).1
  · have refused : Settings.getValue rest = .error invalidSettingsString :=
      (getValue_eq rest).trans (if_pos unclosed)
    rw [unclosed.1] at isAtEnd
    refine ⟨after.cursor, SettlesOn.bind settles ?_, by simp [refused]⟩
    rw [peek_nil isAtEnd, return_bind, if_pos ⟨rfl, unclosed.2⟩, valueToken, refused]
    exact SettlesOn.pure _
  · have got : Settings.getValue rest = .ok (writtenValue rest, _) :=
      (getValue_eq rest).trans (if_neg unclosed)
    rcases peek_at isAtEnd with ⟨c, peeked, isEnd⟩
    refine ⟨after.cursor, SettlesOn.bind settles ?_, ?_⟩
    · rw [peeked, return_bind, if_neg fun both => unclosed ⟨isEnd.mp both.1, both.2⟩, text,
        return_bind, valueToken, got, holds.cnt]
      exact SettlesOn.pure _
    · intro value behind same
      rw [got] at same
      cases same
      exact isAtEnd

/-- A value that it does not last for is written in front of the buffer. -/
theorem settles_getValue_fault (isAt : At str cursor rest) (allocated : outcome.allocated = true)
    (overflows : 2 ^ 31 < (writtenValue rest).length) :
    SettlesOn (getValue str outcome cursor) .fault := by
  rcases openQuote_at isAt with ⟨start, extra, opened, isAtStart, size⟩
  rw [getValue_of_allocated isAt allocated opened]
  refine SettlesOn.bind_fault ((scans_openValue isAtStart size).2 (Nat.zero_le _) ?_)
  rwa [List.length_nil, Nat.zero_add]

end GetValue

end RequiemDB.Settings.Scanner
