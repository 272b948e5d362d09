import RequiemDB.Sql.Scanner

/-!
# The runs of the settings scanner

The loop of `requiemdb_sql_settings_set_from_string`, round by round. A round that
gets to a value of more than 2^31 characters faults, and the loop ends in every
other run. On a string shorter than that it leaves the settings that `Settings`
reads of the text, if no call fails.
-/

namespace RequiemDB.Settings.Scanner

open Lib Lib.Routine

section Loop

variable {str : Terminated nul} {outcomes : Nat → Outcome} {number cursor : Nat}
  {settings : Hash} {rest behind name : List Char}

/-- The name that a round reads and the text in which it looks for the value, if it gets there. -/
def roundName (outcome : Outcome) (rest : List Char) : Option (List Char × List Char) :=
  match Settings.getName rest with
  | .ok (some (name, behind)) =>
      if outcome.named ∧ 0 < toInt name.length ∧ outcome.allocated then some (name, behind)
      else none
  | _ => none

/-- The value that a round stores and the text of the next round, if there is one. -/
def roundValue (outcome : Outcome) (behind : List Char) : Option (List Char × List Char) :=
  match Settings.getValue behind with
  | .ok (value, rest) =>
      if 0 ≤ toInt value.length ∧ 0 ≤ outcome.stored then some (value, rest) else none
  | .error _ => none

/-- The loop gets to a value of the text, in the round `number` or a later one. -/
inductive GetsTo (outcomes : Nat → Outcome) : Nat → List Char → List Char → Prop where
  | here {number : Nat} {rest name behind : List Char}
      (read : roundName (outcomes number) rest = some (name, behind)) :
      GetsTo outcomes number rest (writtenValue behind)
  | later {number : Nat} {rest name behind value next reached : List Char}
      (read : roundName (outcomes number) rest = some (name, behind))
      (stored : roundValue (outcomes number) behind = some (value, next))
      (reaches : GetsTo outcomes (number + 1) next reached) : GetsTo outcomes number rest reached

theorem settles_leave_name {ret : Int} (isAt : At str cursor rest)
    (returns : ∀ next, (nameToken (outcomes number) next rest).ret = ret) (ends : ret ≤ 0) :
    SettlesOn (settingRound str outcomes (number, cursor, settings))
      (.ended (.leave (ret, settings))) := by
  rcases settles_getName (outcomes number) isAt with ⟨next, settles, _⟩
  refine SettlesOn.bind settles ?_
  rw [returns next, if_pos ends]
  exact SettlesOn.pure _

theorem exists_setValue (settings : Hash) (isAt : At str cursor rest)
    (named : Settings.getName rest = .ok (some (name, behind)))
    (isNamed : (outcomes number).named = true) (counted : 0 < toInt name.length) :
    ∃ next, At str next behind ∧ ∀ {outcome},
      SettlesOn (setValue str outcomes number settings ⟨toInt name.length, next, name⟩) outcome →
      SettlesOn (settingRound str outcomes (number, cursor, settings)) outcome := by
  rcases settles_getName (outcomes number) isAt with ⟨next, settles, isAtNext⟩
  refine ⟨next, isAtNext name behind named, fun later => SettlesOn.bind settles ?_⟩
  rw [nameToken, named]
  simp only [isNamed, if_true]
  rw [if_neg (Int.not_le.mpr counted)]
  exact later

theorem settles_round_of_none (isAt : At str cursor rest)
    (ends : roundName (outcomes number) rest = none) :
    ∃ result, SettlesOn (settingRound str outcomes (number, cursor, settings))
      (.ended (.leave result)) := by
  cases got : Settings.getName rest with
  | error error =>
      exact ⟨_, settles_leave_name isAt (fun next => by rw [nameToken, got])
        (Int.le_of_lt error.negative)⟩
  | ok named =>
      cases named with
      | none => exact ⟨_, settles_leave_name isAt (fun next => by rw [nameToken, got])
          (Int.le_refl 0)⟩
      | some named =>
          rcases named with ⟨name, behind⟩
          by_cases isNamed : (outcomes number).named = true
          · by_cases counted : 0 < toInt name.length
            · have notAllocated : (outcomes number).allocated = false := by
                simpa [roundName, got, isNamed, counted] using ends
              rcases exists_setValue settings isAt got isNamed counted with ⟨next, isAtNext, enters⟩
              refine ⟨(outOfMemory.code, settings), enters ?_⟩
              refine SettlesOn.bind (settles_getValue_of_not_allocated isAtNext notAllocated) ?_
              rw [if_pos outOfMemory.negative]
              exact SettlesOn.pure _
            · exact ⟨_, settles_leave_name isAt (fun next => by simp [nameToken, got, isNamed])
                (Int.not_lt.mp counted)⟩
          · exact ⟨_, settles_leave_name isAt (fun next => by simp [nameToken, got, isNamed])
              (Int.le_of_lt outOfMemory.negative)⟩

theorem roundName_eq_some (read : roundName (outcomes number) rest = some (name, behind)) :
    Settings.getName rest = .ok (some (name, behind)) ∧ (outcomes number).named = true ∧
      0 < toInt name.length ∧ (outcomes number).allocated = true := by
  rw [roundName] at read
  split at read
  · next got =>
      split at read
      · next holds =>
          cases read
          exact ⟨got, holds⟩
      · cases read
  · cases read

theorem settles_round_fault (isAt : At str cursor rest)
    (read : roundName (outcomes number) rest = some (name, behind))
    (overflows : 2 ^ 31 < (writtenValue behind).length) :
    SettlesOn (settingRound str outcomes (number, cursor, settings)) .fault := by
  rcases roundName_eq_some read with ⟨got, isNamed, counted, allocated⟩
  rcases exists_setValue settings isAt got isNamed counted with ⟨next, isAtNext, enters⟩
  exact enters (SettlesOn.bind_fault (settles_getValue_fault isAtNext allocated overflows))

/-- A value that is refused, or longer than an `int` can tell. -/
theorem settles_setValue_refused {ret : Int} {token : Token} (isAt : At str token.cursor behind)
    (allocated : (outcomes number).allocated = true)
    (lasts : (writtenValue behind).length ≤ 2 ^ 31)
    (returns : ∀ next, (valueToken next behind).ret = ret) (ends : ret < 0) :
    SettlesOn (setValue str outcomes number settings token) (.ended (.leave (ret, settings))) := by
  rcases settles_getValue isAt allocated lasts with ⟨after, settles, _⟩
  refine SettlesOn.bind settles ?_
  rw [returns after, if_pos ends]
  exact SettlesOn.pure _

theorem settles_setValue_stored {value after : List Char} (token : Token)
    (isAt : At str token.cursor behind) (allocated : (outcomes number).allocated = true)
    (lasts : (writtenValue behind).length ≤ 2 ^ 31)
    (got : Settings.getValue behind = .ok (value, after)) (counted : 0 ≤ toInt value.length) :
    ∃ next, At str next after ∧
      SettlesOn (setValue str outcomes number settings token)
        (.ended (if (outcomes number).stored < 0 then .leave ((outcomes number).stored, settings)
          else .again (number + 1, next, settings.set token.text value))) := by
  rcases settles_getValue isAt allocated lasts with ⟨next, settles, isAtNext⟩
  refine ⟨next, isAtNext value after got, SettlesOn.bind settles ?_⟩
  rw [valueToken, got]
  rw [if_neg (Int.not_lt.mpr counted)]
  split
  · exact SettlesOn.pure _
  · exact SettlesOn.pure _

theorem settles_round_leave (isAt : At str cursor rest)
    (read : roundName (outcomes number) rest = some (name, behind))
    (lasts : (writtenValue behind).length ≤ 2 ^ 31)
    (ends : roundValue (outcomes number) behind = none) :
    ∃ result, SettlesOn (settingRound str outcomes (number, cursor, settings))
      (.ended (.leave result)) := by
  rcases roundName_eq_some read with ⟨named, isNamed, counted, allocated⟩
  rcases exists_setValue settings isAt named isNamed counted with ⟨next, isAtNext, enters⟩
  cases got : Settings.getValue behind with
  | error error =>
      exact ⟨_, enters (settles_setValue_refused isAtNext allocated lasts
        (fun after => by rw [valueToken, got]) error.negative)⟩
  | ok taken =>
      rcases taken with ⟨value, after⟩
      by_cases short : 0 ≤ toInt value.length
      · have failed : (outcomes number).stored < 0 := by
          simpa [roundValue, got, short] using ends
        rcases settles_setValue_stored ⟨toInt name.length, next, name⟩ isAtNext allocated lasts got
          short with ⟨_, _, settles⟩
        rw [if_pos failed] at settles
        exact ⟨_, enters settles⟩
      · exact ⟨_, enters (settles_setValue_refused isAtNext allocated lasts
          (fun after => by rw [valueToken, got]) (Int.not_le.mp short))⟩

theorem roundValue_eq_some {value after : List Char}
    (stored : roundValue (outcomes number) behind = some (value, after)) :
    Settings.getValue behind = .ok (value, after) ∧ 0 ≤ toInt value.length ∧
      0 ≤ (outcomes number).stored := by
  rw [roundValue] at stored
  split at stored
  · next got =>
      split at stored
      · next holds =>
          cases stored
          exact ⟨got, holds⟩
      · cases stored
  · cases stored

theorem settles_round_again {value after : List Char} (isAt : At str cursor rest)
    (read : roundName (outcomes number) rest = some (name, behind))
    (lasts : (writtenValue behind).length ≤ 2 ^ 31)
    (stored : roundValue (outcomes number) behind = some (value, after)) :
    ∃ next, At str next after ∧
      SettlesOn (settingRound str outcomes (number, cursor, settings))
        (.ended (.again (number + 1, next, settings.set name value))) := by
  rcases roundName_eq_some read with ⟨named, isNamed, counted, allocated⟩
  rcases roundValue_eq_some stored with ⟨got, short, succeeds⟩
  rcases exists_setValue settings isAt named isNamed counted with ⟨start, isAtStart, enters⟩
  rcases settles_setValue_stored ⟨toInt name.length, start, name⟩ isAtStart allocated lasts got
    short with ⟨next, isAtNext, settles⟩
  rw [if_neg (Int.not_lt.mpr succeeds)] at settles
  exact ⟨next, isAtNext, enters settles⟩

theorem length_lt_of_round {value after : List Char}
    (read : roundName (outcomes number) rest = some (name, behind))
    (stored : roundValue (outcomes number) behind = some (value, after)) :
    after.length < rest.length :=
  Nat.lt_of_le_of_lt (length_getValue (roundValue_eq_some stored).1)
    (length_getName (roundName_eq_some read).1)

/-- The loop from a text ends if the index lasts for every value that it gets to, or faults. -/
def Runs (str : Terminated nul) (outcomes : Nat → Outcome) (number cursor : Nat)
    (settings : Hash) (rest : List Char) : Prop :=
  ((∀ value, GetsTo outcomes number rest value → value.length ≤ 2 ^ 31) →
    ∃ result, SettlesOn (loop (settingRound str outcomes) (number, cursor, settings))
      (.ended result)) ∧
  ((∃ value, GetsTo outcomes number rest value ∧ 2 ^ 31 < value.length) →
    SettlesOn (loop (settingRound str outcomes) (number, cursor, settings)) .fault)

/-- Every run of the loop, by induction on the length of the text. -/
theorem runs (isAt : At str cursor rest) : Runs str outcomes number cursor settings rest := by
  induction size : rest.length using Nat.strong_induction_on
    generalizing rest number cursor settings with
  | _ size ih =>
  cases read : roundName (outcomes number) rest with
  | none =>
      constructor
      · intro _
        rcases settles_round_of_none isAt read with ⟨result, settles⟩
        exact ⟨result, SettlesOn.leave settles⟩
      · rintro ⟨value, reaches, _⟩
        cases reaches with
        | here read' => simp [read] at read'
        | later read' _ _ => simp [read] at read'
  | some read' =>
      rcases read' with ⟨name, behind⟩
      by_cases lasts : (writtenValue behind).length ≤ 2 ^ 31
      · cases stored : roundValue (outcomes number) behind with
        | none =>
            constructor
            · intro _
              rcases settles_round_leave isAt read lasts stored with ⟨result, settles⟩
              exact ⟨result, SettlesOn.leave settles⟩
            · rintro ⟨value, reaches, overflows⟩
              cases reaches with
              | here read' =>
                  cases read.symm.trans read'
                  omega
              | later read' stored' _ =>
                  cases read.symm.trans read'
                  simp [stored] at stored'
        | some stored' =>
            rcases stored' with ⟨value, after⟩
            rcases settles_round_again isAt read lasts stored with ⟨next, isAtNext, round⟩
            have rest' : Runs str outcomes (number + 1) next (settings.set name value) after :=
              ih after.length (size ▸ length_lt_of_round read stored) isAtNext rfl
            constructor
            · intro all
              rcases rest'.1 fun later reaches => all later (.later read stored reaches) with
                ⟨result, settles⟩
              exact ⟨result, round.again settles⟩
            · rintro ⟨late, reaches, overflows⟩
              cases reaches with
              | here read' =>
                  cases read.symm.trans read'
                  omega
              | later read' stored' reaches =>
                  cases read.symm.trans read'
                  cases stored.symm.trans stored'
                  exact round.again (rest'.2 ⟨late, reaches, overflows⟩)
      · have overflows : 2 ^ 31 < (writtenValue behind).length := Nat.not_le.mp lasts
        constructor
        · intro all
          exact absurd (all _ (.here read)) lasts
        · intro _
          exact SettlesOn.loop_fault (settles_round_fault isAt read overflows)

/--
The scanner ends inside of its string and its buffers exactly when no value that it gets to has
more than 2^31 characters.
-/
theorem settles_setFromString_iff (str : Terminated nul) (outcomes : Nat → Outcome)
    (settings : Hash) :
    (∃ result, SettlesOn (setFromString str outcomes settings) (.ended result)) ↔
      ∀ value, GetsTo outcomes 0 str.content value → value.length ≤ 2 ^ 31 := by
  have run : Runs str outcomes 0 0 settings str.content := runs (at_zero str)
  constructor
  · rintro ⟨result, settles⟩ value reaches
    by_contra long
    have faults := run.2 ⟨value, reaches, Nat.not_le.mp long⟩
    cases settles.unique faults
  · exact run.1

/-- The string `a=xx…x`. -/
def longSetting (count : Nat) (fits : count + 3 < 2 ^ 64) : Terminated nul where
  content := 'a' :: '=' :: List.replicate count 'x'
  noNul := by simp [nul]
  fits := by
    rw [List.length_cons, List.length_cons, List.length_replicate]
    omega

theorem writtenValue_replicate (count : Nat) :
    writtenValue (List.replicate count 'x') = List.replicate count 'x' := by
  have opened : openValue (List.replicate count 'x') = (' ', List.replicate count 'x') := by
    cases count with
    | zero => rfl
    | succ count => rfl
  have scanned : (scanValue ' ' false (List.replicate count 'x')).1 = List.replicate count 'x' := by
    induction count with
    | zero => rfl
    | succ count ih =>
        rw [List.replicate_succ, scanValue, if_neg Bool.false_ne_true, if_neg (by decide),
          if_neg (by decide)]
        exact congrArg _ (ih (by cases count <;> rfl))
  rw [writtenValue, opened]
  exact scanned

theorem getsTo_longSetting (count : Nat) (fits : count + 3 < 2 ^ 64) :
    GetsTo (fun _ => ⟨true, true, 0⟩) 0 (longSetting count fits).content
      (List.replicate count 'x') := by
  have named : Settings.getName (longSetting count fits).content =
      .ok (some (['a'], List.replicate count 'x')) :=
    getName_append (List.cons_ne_nil 'a' []) (List.forall_mem_singleton.mpr rfl)
  have counted : 0 < toInt ['a'].length := by
    rw [toInt_of_lt (by decide)]
    decide
  have read : roundName ⟨true, true, 0⟩ (longSetting count fits).content =
      some (['a'], List.replicate count 'x') := by
    rw [roundName, named]
    exact if_pos ⟨rfl, counted, rfl⟩
  have reaches : GetsTo (fun _ => ⟨true, true, 0⟩) 0 (longSetting count fits).content
      (writtenValue (List.replicate count 'x')) := .here read
  rwa [writtenValue_replicate] at reaches

/-- A value of which the last character goes to a negative index. -/
theorem not_settles_longSetting :
    ¬∃ result, SettlesOn (setFromString (longSetting (2 ^ 31 + 1) (by decide))
      (fun _ => ⟨true, true, 0⟩) .empty) (.ended result) := by
  rintro ⟨result, settles⟩
  have run : Runs (longSetting (2 ^ 31 + 1) (by decide)) (fun _ => ⟨true, true, 0⟩) 0 0 .empty
      (longSetting (2 ^ 31 + 1) (by decide)).content := runs (at_zero _)
  have faults := run.2 ⟨_, getsTo_longSetting _ _, by rw [List.length_replicate]; decide⟩
  cases settles.unique faults

end Loop

section Refinement

variable {str : Terminated nul} {outcomes : Nat → Outcome} {number cursor : Nat}
  {settings : Hash} {rest name behind value : List Char}

theorem length_scanValue_fst (endOfString : Char) (escaped : Bool) (text : List Char) :
    (scanValue endOfString escaped text).1.length ≤ text.length := by
  induction text generalizing escaped with
  | nil => exact Nat.le_refl _
  | cons c text ih =>
      have later := ih false
      have skipped := ih true
      rw [scanValue]
      split
      · exact Nat.succ_le_succ later
      · split
        · exact Nat.le_succ_of_le skipped
        · split
          · exact Nat.zero_le _
          · exact Nat.succ_le_succ later

theorem length_writtenValue (rest : List Char) : (writtenValue rest).length ≤ rest.length := by
  refine Nat.le_trans (length_scanValue_fst _ _ _) ?_
  cases rest with
  | nil => exact Nat.le_refl _
  | cons c rest =>
      rw [openValue]
      split
      · exact Nat.le_succ _
      · exact Nat.le_refl _

theorem length_of_getName (got : Settings.getName rest = .ok (some (name, behind))) :
    0 < name.length ∧ name.length ≤ rest.length := by
  simp only [Settings.getName] at got
  split at got
  · cases got
  · split at got
    · split at got
      · cases got
      · next some =>
          cases got
          refine ⟨List.length_pos_iff.mpr some, ?_⟩
          exact Nat.le_trans (List.takeWhile_prefix _).length_le (List.length_dropWhile_le _ _)
    · cases got

theorem eq_writtenValue {after : List Char} (got : Settings.getValue rest = .ok (value, after)) :
    value = writtenValue rest := by
  rw [getValue_eq] at got
  split at got
  · cases got
  · cases got
    rfl

/-- The loop from a text, by induction on its length. -/
theorem settles_loop (fine : ∀ number, outcomes number = ⟨true, true, 0⟩)
    (isAt : At str cursor rest) (short : rest.length < 2 ^ 31) :
    SettlesOn (loop (settingRound str outcomes) (number, cursor, settings))
      (.ended (Settings.setFromString settings rest)) := by
  induction size : rest.length using Nat.strong_induction_on
    generalizing rest number cursor settings with
  | _ size ih =>
  rw [setFromString_eq]
  cases got : Settings.getName rest with
  | error error =>
      exact SettlesOn.leave (settles_leave_name isAt (fun next => by rw [nameToken, got])
        (Int.le_of_lt error.negative))
  | ok named =>
      cases named with
      | none =>
          exact SettlesOn.leave (settles_leave_name isAt (fun next => by rw [nameToken, got])
            (Int.le_refl 0))
      | some named =>
          rcases named with ⟨name, behind⟩
          rcases length_of_getName got with ⟨positive, partOf⟩
          have shorter := length_getName got
          have written := length_writtenValue behind
          have lasts : (writtenValue behind).length ≤ 2 ^ 31 := by omega
          have counted : 0 < toInt name.length := by
            rw [toInt_of_lt (by omega)]
            omega
          have isNamed : (outcomes number).named = true := by rw [fine]
          have allocated : (outcomes number).allocated = true := by rw [fine]
          have stored : ¬(outcomes number).stored < 0 := by simp [fine]
          rcases exists_setValue settings isAt got isNamed counted with ⟨next, isAtNext, enters⟩
          dsimp only
          cases read : Settings.getValue behind with
          | error error =>
              exact SettlesOn.leave (enters (settles_setValue_refused isAtNext allocated lasts
                (fun after => by rw [valueToken, read]) error.negative))
          | ok taken =>
              rcases taken with ⟨value, after⟩
              have isValue := eq_writtenValue read
              have fits : 0 ≤ toInt value.length := by
                rw [toInt_of_lt (by rw [isValue]; omega)]
                omega
              rcases settles_setValue_stored ⟨toInt name.length, next, name⟩ isAtNext allocated
                lasts read fits with ⟨later, isAtLater, settles⟩
              rw [if_neg stored] at settles
              have remains := length_getValue read
              refine SettlesOn.again (enters settles) ?_
              show SettlesOn
                (loop (settingRound str outcomes) (number + 1, later, settings.set name value))
                (.ended (Settings.setFromString (settings.set name value) after))
              exact ih after.length (by omega) isAtLater (by omega) rfl

/--
While no call fails, the scanner reads from a string that an `int` can count what is read of its
text.
-/
theorem settles_setFromString (fine : ∀ number, outcomes number = ⟨true, true, 0⟩)
    (short : str.content.length < 2 ^ 31) :
    SettlesOn (setFromString str outcomes settings)
      (.ended (Settings.setFromString settings str.content)) :=
  settles_loop fine (at_zero str) short

end Refinement

end RequiemDB.Settings.Scanner
