import RequiemDB.Query.Server

/-!
# Broken-down times and the instants they select

What the constraints of a broken-down time say of an instant, for each plugin. The
day of the year is written as `struct tm` counts it, from 0, where the servers count
from 1; the day of the week is shifted by one for PostgreSQL, which counts as
`struct tm` does; and the year before the year 0 is the mark of a year not set.
-/

namespace RequiemDB

open Lib

/-- The field of a broken-down time that a constraint is about. -/
def Tm.field (time : Tm) : TimeConstraint → Int
  | .year => time.year
  | .month => time.mon
  | .yday => time.yday
  | .mday => time.mday
  | .wday => time.wday
  | .hour => time.hour
  | .min => time.min
  | .sec => time.sec

/-- A field that is set is not -1. -/
def Tm.IsSet (time : Tm) (part : TimeConstraint) : Prop := time.field part ≠ -1

/-- The ranges of `struct tm`, for the fields that are set. -/
structure Tm.Standard (time : Tm) : Prop where
  mon : time.mon = -1 ∨ 0 ≤ time.mon ∧ time.mon ≤ 11
  yday : time.yday = -1 ∨ 0 ≤ time.yday ∧ time.yday ≤ 365
  mday : time.mday = -1 ∨ 1 ≤ time.mday ∧ time.mday ≤ 31
  wday : time.wday = -1 ∨ 0 ≤ time.wday ∧ time.wday ≤ 6

/-- Every field that is set has the value of the other time. -/
def Tm.Agrees (time stored : Tm) : Prop :=
  ∀ part, time.IsSet part → time.field part = stored.field part

/-- The value that the core passes to the plugin. -/
def Tm.passed (time : Tm) : TimeConstraint → Int
  | .year => if time.year ≠ -1 then time.year + 1900 else time.year
  | .month => if time.mon ≠ -1 then time.mon + 1 else time.mon
  | part => time.field part

theorem mem_brokenDownFields {time : Tm} {part : TimeConstraint} {value : Int} :
    (part, value) ∈ brokenDownFields time ↔ value = time.passed part ∧ value ≠ -1 := by
  cases part <;> simp [brokenDownFields, Tm.passed, Tm.field]

/-- The expression a plugin compares, and the number it compares it with. -/
def timeFunction : Backend → Int → TimeConstraint → TimeFunction × Int
  | .mysql => mysqlTimeFunction
  | .pgsql => pgsqlTimeFunction
  | .sqlite3 => sqlite3TimeFunction

/-- The constraint of a plugin on a part of a time, for equality at UTC. -/
def timeComparison (backend : Backend) (entry : TimeConstraint × Int) (field : String) :
    Comparison :=
  let (function, value) := timeFunction backend entry.2 entry.1
  match backend with
  | .mysql => .time function .dateAdd field 0 "= BINARY" true value
  | .pgsql => .time function .interval field 0 "=" false value
  | .sqlite3 => .time function .datetime field 0 "=" false value

/-- The number a plugin writes is the part that its expression takes of a time. -/
def Passes (backend : Backend) (stored : Tm) (entry : TimeConstraint × Int) : Prop :=
  (timeFunction backend entry.2 entry.1).1.part stored =
    some (timeFunction backend entry.2 entry.1).2

instance (backend : Backend) (stored : Tm) (entry : TimeConstraint × Int) :
    Decidable (Passes backend stored entry) :=
  inferInstanceAs (Decidable (_ = _))

theorem buildTimeConstraintString_equal (backend : Backend) (part : TimeConstraint) (value : Int) :
    buildTimeConstraintString backend part ⟨.equal, false, false⟩ value 0 =
      .ok (timeComparison backend (part, value)) := by
  cases backend <;> rfl

theorem buildCriterionBrokenDownTimeEqual_eq (dialect : SqlDialect) (time : Tm) :
    buildCriterionBrokenDownTimeEqual dialect ⟨.equal, false, false⟩ time =
      .ok (buildConjunction ((brokenDownFields time).map (timeComparison dialect.backend))) := by
  have mapped : (brokenDownFields time).mapM (fun entry => buildTimeConstraintString
      dialect.backend entry.1 ⟨.equal, false, false⟩ entry.2 0) =
        Except.ok ((brokenDownFields time).map (timeComparison dialect.backend)) := by
    simp only [buildTimeConstraintString_equal]
    exact List.mapM_pure
  simp only [buildCriterionBrokenDownTimeEqual, mapped]
  rfl

section Server

variable {backend : Backend} (server : SqlServer backend)

/-- Every expression of the tables takes a part of a time. -/
theorem part_timeFunction (backend : Backend) (stored : Tm) (value : Int) (part : TimeConstraint) :
    ∃ number, (timeFunction backend value part).1.part stored = some number := by
  cases backend <;> cases part <;> exact ⟨_, rfl⟩

theorem truth_timeComparison (content : server.Value) (entry : TimeConstraint × Int)
    (field : String) :
    server.truth (some content) (timeComparison backend entry field) =
      .ofBool (Passes backend (gmtime (server.instant content)) entry) := by
  rcases part_timeFunction backend (gmtime (server.instant content)) entry.2 entry.1
    with ⟨number, takes⟩
  cases backend <;>
    simp [timeComparison, SqlServer.truth, SqlServer.reads, relatePart, sqlOperator, mysqlOperator,
      pgsqlOperator, sqlite3Operator, takes, Passes, Relation.ofNumbers, SqlOperator.answer]

/-- A time that is not NULL is selected if it passes every constraint, and there is one. -/
theorem selects_brokenDownTime (time : Tm) (content : server.Value) (field : String) :
    server.Selects (some content)
        (buildConjunction ((brokenDownFields time).map (timeComparison backend)) field) ↔
      brokenDownFields time ≠ [] ∧
        ∀ entry ∈ brokenDownFields time,
          Passes backend (gmtime (server.instant content)) entry := by
  by_cases set : brokenDownFields time = []
  · have hollow : Hollow ([] : ConditionText) := .nil
    simpa [set, buildConjunction] using SqlServer.not_selects (some content) hollow
  · have isConjunction := conjunction_buildConjunction
      ((brokenDownFields time).map (timeComparison backend)) field (by simpa using set)
    rw [SqlServer.selects_iff (some content) isConjunction]
    simp only [List.map_map, Function.comp_def, truth_timeComparison, Truth.all_map_ofBool,
      Truth.ofBool_eq_holds]
    simp [set]

end Server

section Fields

/-- The year that the addition of 1900 makes the mark of a field not set. -/
def Tm.Lost (time : Tm) (part : TimeConstraint) : Prop := part = .year ∧ time.year = -1901

/-- The plugin and the server count the days from different origins. -/
def Shifted (backend : Backend) (part : TimeConstraint) : Prop :=
  part = .yday ∨ part = .wday ∧ backend = .pgsql

/-- The value of a field for which its constraint is true of a time. -/
def Tm.told (stored : Tm) (backend : Backend) : TimeConstraint → Int
  | .yday => stored.yday + 1
  | .wday => if backend = .pgsql then stored.wday - 1 else stored.wday
  | part => stored.field part

theorem told_eq_iff {stored : Tm} {backend : Backend} {part : TimeConstraint} :
    stored.told backend part = stored.field part ↔ ¬ Shifted backend part := by
  cases part <;> cases backend <;> simp [Tm.told, Tm.field, Shifted]

variable {time stored : Tm} {backend : Backend} {part : TimeConstraint}

theorem passed_eq_iff (standard : time.Standard) :
    time.passed part = -1 ↔ ¬ time.IsSet part ∨ time.Lost part := by
  have mon := standard.mon
  cases part <;> simp only [Tm.passed, Tm.IsSet, Tm.field, Tm.Lost]
  case year =>
    split
    · simp
      omega
    · simp
      omega
  case month =>
    split
    · simp
      omega
    · simp
  all_goals simp

/-- The offsets of the core, of the plugin and of the server, added up. -/
theorem passes_iff (standard : time.Standard) (set : time.IsSet part) :
    Passes backend stored (part, time.passed part) ↔
      time.field part = stored.told backend part := by
  rw [Passes]
  cases part with
  | year =>
      have isSet : time.year ≠ -1 := set
      cases backend <;> simp [timeFunction, mysqlTimeFunction, pgsqlTimeFunction,
        sqlite3TimeFunction, TimeFunction.part, Tm.passed, Tm.told, Tm.field, isSet] <;> omega
  | month =>
      have isSet : time.mon ≠ -1 := set
      cases backend <;> simp [timeFunction, mysqlTimeFunction, pgsqlTimeFunction,
        sqlite3TimeFunction, TimeFunction.part, Tm.passed, Tm.told, Tm.field, isSet] <;> omega
  | wday =>
      have isSet : time.wday ≠ -1 := set
      have inWeek : time.wday.tmod 7 = time.wday := by
        rcases standard.wday with notSet | ⟨low, high⟩
        · exact absurd notSet isSet
        · exact Int.tmod_eq_of_lt low (by omega)
      cases backend <;> simp [timeFunction, mysqlTimeFunction, pgsqlTimeFunction,
        sqlite3TimeFunction, TimeFunction.part, Tm.passed, Tm.told, Tm.field, inWeek] <;> omega
  | yday | mday | hour | min | sec =>
      cases backend <;> simp [timeFunction, mysqlTimeFunction, pgsqlTimeFunction,
        sqlite3TimeFunction, TimeFunction.part, Tm.passed, Tm.told, Tm.field] <;> omega

/-- What is selected: each field whose constraint is written must have the value told. -/
theorem selects_iff_told (server : SqlServer backend) (standard : time.Standard)
    (content : server.Value) (field : String) :
    server.Selects (some content)
        (buildConjunction ((brokenDownFields time).map (timeComparison backend)) field) ↔
      (∃ part, time.IsSet part ∧ ¬ time.Lost part) ∧
        ∀ part, time.IsSet part → ¬ time.Lost part →
          time.field part = (gmtime (server.instant content)).told backend part := by
  have written : ∀ part, time.passed part ≠ -1 ↔ time.IsSet part ∧ ¬ time.Lost part := by
    intro part
    rw [Ne, passed_eq_iff standard, not_or, not_not]
  rw [selects_brokenDownTime]
  constructor
  · rintro ⟨some, passes⟩
    constructor
    · rcases List.exists_mem_of_ne_nil _ some with ⟨⟨part, value⟩, isEntry⟩
      rcases mem_brokenDownFields.mp isEntry with ⟨rfl, isPassed⟩
      exact ⟨part, (written part).mp isPassed⟩
    · intro part set kept
      have isPassed := (written part).mpr ⟨set, kept⟩
      exact (passes_iff standard set).mp (passes _ (mem_brokenDownFields.mpr ⟨rfl, isPassed⟩))
  · rintro ⟨⟨part, isWritten⟩, told⟩
    constructor
    · have isEntry : (part, time.passed part) ∈ brokenDownFields time :=
        mem_brokenDownFields.mpr ⟨rfl, (written part).mpr isWritten⟩
      exact List.ne_nil_of_mem isEntry
    · rintro ⟨other, value⟩ isEntry
      rcases mem_brokenDownFields.mp isEntry with ⟨rfl, isPassed⟩
      rcases (written other).mp isPassed with ⟨set, kept⟩
      exact (passes_iff standard set).mpr (told other set kept)

/-- A field whose constraint is right tells the two times apart. -/
def Tm.ToldApart (time stored : Tm) (backend : Backend) : Prop :=
  ∃ part, time.IsSet part ∧ ¬ Shifted backend part ∧ ¬ time.Lost part ∧
    time.field part ≠ stored.field part

/--
A broken-down time is answered rightly: a field with the right constraint differs; or else,
where fields are counted from another origin, the true field and the one told both differ,
and where only the year is lost, the other fields are there just if it is the year.
-/
def Tm.Answered (time stored : Tm) (backend : Backend) : Prop :=
  time.ToldApart stored backend ∨
    ((∃ part, time.IsSet part ∧ Shifted backend part) →
      (∃ part, time.IsSet part ∧ time.field part ≠ stored.field part) ∧
      ∃ part, time.IsSet part ∧ Shifted backend part ∧
        time.field part ≠ stored.told backend part) ∧
    ((∀ part, time.IsSet part → ¬ Shifted backend part) → time.year = -1901 →
      (stored.year = -1901 ↔ ∃ part, time.IsSet part ∧ part ≠ .year))

/-- Where no field is shifted, the values told are the fields, but for a year that is lost. -/
theorem told_iff_of_unshifted (unshifted : ∀ part, time.IsSet part → ¬ Shifted backend part) :
    (∀ part, time.IsSet part → ¬ time.Lost part → time.field part = stored.told backend part) ↔
      ¬ time.ToldApart stored backend := by
  constructor
  · rintro told ⟨part, set, _, kept, apart⟩
    rw [told part set kept] at apart
    exact apart (told_eq_iff.mpr (unshifted part set))
  · intro together part set kept
    rw [told_eq_iff.mpr (unshifted part set)]
    by_contra apart
    exact together ⟨part, set, unshifted part set, kept, apart⟩

theorem Shifted.not_lost (shifted : Shifted backend part) : ¬ time.Lost part := by
  rintro ⟨rfl, _⟩
  rcases shifted with isYday | ⟨isWday, _⟩
  · exact absurd isYday (by decide)
  · exact absurd isWday (by decide)

/-- Where a field is shifted, what is told and what is so exclude each other. -/
theorem answered_iff_of_shifted (set : time.IsSet part) (shifted : Shifted backend part) :
    (((∃ part, time.IsSet part ∧ ¬ time.Lost part) ∧
        ∀ part, time.IsSet part → ¬ time.Lost part → time.field part = stored.told backend part) ↔
      time.Agrees stored) ↔ time.Answered stored backend := by
  have notBoth : time.field part = stored.told backend part →
      time.field part ≠ stored.field part := by
    intro told agrees
    exact told_eq_iff.mp (told.symm.trans agrees) shifted
  constructor
  · intro same
    by_cases apart : time.ToldApart stored backend
    · exact .inl apart
    · refine .inr ⟨fun _ => ⟨?_, ?_⟩, fun unshifted => absurd shifted (unshifted part set)⟩
      · by_contra agree
        have agrees : time.Agrees stored := by
          intro other otherSet
          by_contra differs
          exact agree ⟨other, otherSet, differs⟩
        exact notBoth ((same.mpr agrees).2 part set shifted.not_lost) (agrees part set)
      · by_contra tell
        have told : ∀ other, time.IsSet other → ¬ time.Lost other →
            time.field other = stored.told backend other := by
          intro other otherSet kept
          by_contra differs
          by_cases otherShifted : Shifted backend other
          · exact tell ⟨other, otherSet, otherShifted, differs⟩
          · rw [told_eq_iff.mpr otherShifted] at differs
            exact apart ⟨other, otherSet, otherShifted, kept, differs⟩
        have agrees := same.mp ⟨⟨part, set, shifted.not_lost⟩, told⟩
        exact notBoth (told part set shifted.not_lost) (agrees part set)
  · rintro (⟨other, otherSet, unshifted, kept, differs⟩ | ⟨bothDiffer, _⟩)
    · constructor
      · rintro ⟨_, told⟩
        exact absurd ((told other otherSet kept).trans (told_eq_iff.mpr unshifted)) differs
      · intro agrees
        exact absurd (agrees other otherSet) differs
    · rcases bothDiffer ⟨part, set, shifted⟩ with
        ⟨⟨first, firstSet, notAgrees⟩, second, secondSet, secondShifted, notTold⟩
      constructor
      · rintro ⟨_, told⟩
        exact absurd (told second secondSet secondShifted.not_lost) notTold
      · intro agrees
        exact absurd (agrees first firstSet) notAgrees

theorem agrees_iff_of_unshifted (unshifted : ∀ part, time.IsSet part → ¬ Shifted backend part) :
    time.Agrees stored ↔
      ¬ time.ToldApart stored backend ∧ (time.year = -1901 → stored.year = -1901) := by
  constructor
  · intro agrees
    constructor
    · rintro ⟨part, set, _, _, differs⟩
      exact differs (agrees part set)
    · intro lost
      have set : time.IsSet .year := by simp [Tm.IsSet, Tm.field, lost]
      exact (agrees .year set).symm.trans lost
  · rintro ⟨together, year⟩ part set
    by_contra differs
    by_cases lost : time.Lost part
    · rcases lost with ⟨rfl, lost⟩
      exact differs (lost.trans (year lost).symm)
    · exact together ⟨part, set, unshifted part set, lost, differs⟩

/-- Where no field is shifted, only a year that is lost makes a difference. -/
theorem answered_iff_of_unshifted (aField : ∃ part, time.IsSet part)
    (unshifted : ∀ part, time.IsSet part → ¬ Shifted backend part) :
    (((∃ part, time.IsSet part ∧ ¬ time.Lost part) ∧
        ∀ part, time.IsSet part → ¬ time.Lost part → time.field part = stored.told backend part) ↔
      time.Agrees stored) ↔ time.Answered stored backend := by
  have noShift : ¬ ∃ part, time.IsSet part ∧ Shifted backend part :=
    fun ⟨part, set, shifted⟩ => unshifted part set shifted
  rw [told_iff_of_unshifted unshifted, agrees_iff_of_unshifted unshifted, Tm.Answered]
  by_cases apart : time.ToldApart stored backend
  · simp [apart]
  · by_cases lost : time.year = -1901
    · have others : (∃ part, time.IsSet part ∧ ¬ time.Lost part) ↔
          ∃ part, time.IsSet part ∧ part ≠ .year := by
        simp [Tm.Lost, lost]
      rw [others]
      constructor
      · intro same
        exact .inr ⟨fun shifted => absurd shifted noShift, fun _ _ => by
          simpa [apart, lost] using same.symm⟩
      · rintro (apart' | ⟨_, year⟩)
        · exact absurd apart' apart
        · simpa [apart, lost] using (year unshifted lost).symm
    · have someKept : ∃ part, time.IsSet part ∧ ¬ time.Lost part := by
        rcases aField with ⟨part, set⟩
        exact ⟨part, set, fun isLost => lost isLost.2⟩
      constructor
      · intro _
        exact .inr ⟨fun shifted => absurd shifted noShift, fun _ isLost => absurd isLost lost⟩
      · intro _
        simp [apart, lost, someKept]

end Fields

/--
For every plugin, instant and broken-down time with a field set: the constraints select the
instant exactly if its fields are those set, as far as `Answered` tells.
-/
theorem selects_iff_agrees_iff (dialect : SqlDialect) (server : SqlServer dialect.backend)
    {time : Tm} (standard : time.Standard) (aField : ∃ part, time.IsSet part)
    (content : server.Value) (field : String) :
    ∃ text, buildCriterionBrokenDownTimeEqual dialect ⟨.equal, false, false⟩ time = .ok text ∧
      ((server.Selects (some content) (text field) ↔
          time.Agrees (gmtime (server.instant content))) ↔
        time.Answered (gmtime (server.instant content)) dialect.backend) := by
  refine ⟨_, buildCriterionBrokenDownTimeEqual_eq dialect time, ?_⟩
  rw [selects_iff_told server standard content field]
  by_cases shifted : ∃ part, time.IsSet part ∧ Shifted dialect.backend part
  · rcases shifted with ⟨part, set, isShifted⟩
    exact answered_iff_of_shifted set isShifted
  · have unshifted : ∀ part, time.IsSet part → ¬ Shifted dialect.backend part :=
      fun part set isShifted => shifted ⟨part, set, isShifted⟩
    exact answered_iff_of_unshifted aField unshifted

/-- A server whose values are instants; the constraints on times compare nothing else. -/
abbrev instants (backend : Backend) : SqlServer backend where
  Value := Int
  compare _ _ _ _ := false
  lower := id
  lowerText := id
  instant := id
  accepts _ := true

/-- The first day of a year. -/
def firstDay : Tm := ⟨-1, -1, -1, -1, -1, -1, -1, 0⟩

theorem standard_firstDay : firstDay.Standard := by
  constructor <;> decide

theorem selects_iff_agrees_iff_firstDay :
    ∃ text, buildCriterionBrokenDownTimeEqual (plainDialect .mysql) ⟨.equal, false, false⟩
        firstDay = .ok text ∧
      (((instants .mysql).Selects (some 86400) (text "time") ↔
          firstDay.Agrees (gmtime 86400)) ↔
        firstDay.Answered (gmtime 86400) .mysql) :=
  selects_iff_agrees_iff (plainDialect .mysql) (instants .mysql) standard_firstDay
    ⟨.yday, (by decide : (0 : Int) ≠ -1)⟩ 86400 "time"

/-- No plugin finds the first of January by the first day of the year. -/
theorem firstDay_not_selects : firstDay.Agrees (gmtime 0) ∧
    ∀ backend, ∃ text, buildCriterionBrokenDownTimeEqual (plainDialect backend)
        ⟨.equal, false, false⟩ firstDay = .ok text ∧
      ¬ (instants backend).Selects (some 0) (text "time") := by
  constructor
  · intro part set
    cases part <;> first | rfl | exact absurd rfl set
  · intro backend
    refine ⟨_, buildCriterionBrokenDownTimeEqual_eq (plainDialect backend) firstDay, ?_⟩
    cases backend <;> decide

end RequiemDB
