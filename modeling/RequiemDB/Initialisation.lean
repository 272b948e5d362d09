import RequiemDB.Lib.Machine
import RequiemDB.Sql.Operation

/-!
# Initialisation of the library

`requiemdb_init` and `requiemdb_deinit` with the counter that they share. The counter goes up
in front of the steps that can fail and does not come down behind a failure, so the next
`requiemdb_init` takes the library for initialised.
-/

namespace RequiemDB

open Lib

/-- `REQUIEMDB_ERROR_CANNOT_LOAD_FORMAT_PLUGIN`. -/
def cannotLoadFormatPlugin : ErrorCode := ⟨-1, minusOne_negative⟩

/-- `REQUIEMDB_ERROR_CANNOT_LOAD_SQL_PLUGIN`. -/
def cannotLoadSqlPlugin : ErrorCode := ⟨-1, minusOne_negative⟩

/-- The outcome of each step of `requiemdb_init`, should it come to it. -/
structure InitSteps where
  requiemInit : Option ErrorCode
  formatPluginDirAccess : Bool
  loadFormatPlugins : Option ErrorCode
  sqlPluginDirAccess : Bool
  loadSqlPlugins : Option ErrorCode

/-- The static variables: a list of plugins is loaded once its directory was. -/
structure Library where
  refcount : Int
  /-- The counter has left the range of an `int`. -/
  overflown : Bool
  sqlPluginList : Bool
  pluginFormatList : Bool
deriving DecidableEq

namespace Library

variable (library : Library)

def initial : Library where
  refcount := 0
  overflown := false
  sqlPluginList := false
  pluginFormatList := false

/-- `librequiemdb_refcount++`. -/
def increment : Library :=
  { library with
    refcount := library.refcount + 1
    overflown := library.overflown || decide (2 ^ 31 - 1 < library.refcount + 1) }

/-- Both lists are loaded. -/
def Loaded : Prop := library.sqlPluginList ∧ library.pluginFormatList

/-- No list is loaded. -/
def Unloaded : Prop := library.sqlPluginList = false ∧ library.pluginFormatList = false

end Library

/-- `requiemdb_init` behind the test of the counter. -/
def loadPlugins (steps : InitSteps) (library : Library) : Int × Library :=
  match steps.requiemInit with
  | some error => (error.code, library)
  | none =>
    if !steps.formatPluginDirAccess then (cannotLoadFormatPlugin.code, library)
    else match steps.loadFormatPlugins with
    | some error => (error.code, library)
    | none =>
      let library := { library with pluginFormatList := true }
      if !steps.sqlPluginDirAccess then (cannotLoadSqlPlugin.code, library)
      else match steps.loadSqlPlugins with
      | some error => (error.code, library)
      | none => (0, { library with sqlPluginList := true })

def requiemdbInit (steps : InitSteps) (library : Library) : Int × Library :=
  if library.refcount > 0 then (0, library.increment) else loadPlugins steps library.increment

def requiemdbDeinit (library : Library) : Library :=
  let library := { library with refcount := library.refcount - 1 }
  if library.refcount > 0 then library
  else { library with sqlPluginList := false, pluginFormatList := false }

/-- A call of the library. -/
inductive LibraryCall where
  | init (steps : InitSteps)
  | deinit

/-- The library with the numbers of its successful initialisations and of the others' calls. -/
structure Usage where
  library : Library
  inits : ℕ
  deinits : ℕ

namespace Usage

def initial : Usage where
  library := .initial
  inits := 0
  deinits := 0

/-- A call with its return value. -/
def serve : Machine Usage LibraryCall (Option Int)
  | usage, .init steps =>
      let (ret, library) := requiemdbInit steps usage.library
      (some ret, { usage with library, inits := usage.inits + if ret = 0 then 1 else 0 })
  | usage, .deinit =>
      (none, { usage with
        library := requiemdbDeinit usage.library, deinits := usage.deinits + 1 })

/-- A `requiemdb_deinit` answers a `requiemdb_init` that returned success. -/
def Answers (usage : Usage) : LibraryCall → Prop
  | .init _ => True
  | .deinit => usage.deinits < usage.inits

/-- What the counter is for. -/
structure Counted (call : LibraryCall) (reply : Option Int) (after : Usage) : Prop where
  defined : after.library.overflown = false
  success : reply = some 0 → after.library.Loaded
  outstanding : after.deinits < after.inits → after.library.Loaded
  unloads : call = .deinit → (after.library.Unloaded ↔ after.deinits = after.inits)

/-- The counter is right behind each of the calls. -/
def RightAlong (calls : List LibraryCall) (usage : Usage) : Prop :=
  serve.Along (fun usage call => Counted call (serve usage call).1 (serve usage call).2)
    calls usage

end Usage

/-- One of the steps fails. -/
def InitSteps.Fail (steps : InitSteps) : Prop :=
  steps.requiemInit ≠ none ∨ steps.formatPluginDirAccess = false ∨
    steps.loadFormatPlugins ≠ none ∨ steps.sqlPluginDirAccess = false ∨
      steps.loadSqlPlugins ≠ none

instance (steps : InitSteps) : Decidable steps.Fail :=
  inferInstanceAs (Decidable (_ ∨ _ ∨ _ ∨ _ ∨ _))

/--
The condition on the calls, with so many successful ones unanswered: no call comes behind an
initialisation that has to make its steps and fails in one, and the number of unanswered calls
stays an `int`.
-/
def FailsLast (outstanding : ℕ) : List LibraryCall → Prop
  | [] => True
  | .init steps :: calls =>
      outstanding < 2 ^ 31 - 1 ∧
        if outstanding = 0 ∧ steps.Fail then calls = [] else FailsLast (outstanding + 1) calls
  | .deinit :: calls => FailsLast (outstanding - 1) calls

section Steps

variable {steps : InitSteps}

theorem loadPlugins_of_not_fail (succeeds : ¬ steps.Fail) (library : Library) :
    loadPlugins steps library =
      (0, { library with sqlPluginList := true, pluginFormatList := true }) := by
  simp only [InitSteps.Fail, not_or, ne_eq, not_not, Bool.not_eq_false] at succeeds
  rcases succeeds with ⟨requiemInit, formatAccess, format, sqlAccess, sql⟩
  simp [loadPlugins, requiemInit, formatAccess, format, sqlAccess, sql]

/-- A failure leaves the list of the SQL plugins and the counter as they are. -/
theorem loadPlugins_of_fail (fails : steps.Fail) (library : Library) :
    (loadPlugins steps library).1 < 0 ∧
      (loadPlugins steps library).2.refcount = library.refcount ∧
      (loadPlugins steps library).2.overflown = library.overflown ∧
      (loadPlugins steps library).2.sqlPluginList = library.sqlPluginList := by
  rw [loadPlugins]
  split
  · next error _ => exact ⟨error.negative, rfl, rfl, rfl⟩
  · next requiemInit =>
      split
      · exact ⟨cannotLoadFormatPlugin.negative, rfl, rfl, rfl⟩
      · next formatAccess =>
          split
          · next error _ => exact ⟨error.negative, rfl, rfl, rfl⟩
          · next format =>
              dsimp only
              split
              · exact ⟨cannotLoadSqlPlugin.negative, rfl, rfl, rfl⟩
              · next sqlAccess =>
                  split
                  · next error _ => exact ⟨error.negative, rfl, rfl, rfl⟩
                  · next sql =>
                      rw [Bool.not_eq_true, Bool.not_eq_false'] at formatAccess sqlAccess
                      simp [InitSteps.Fail, requiemInit, formatAccess, format, sqlAccess, sql]
                        at fails

end Steps

namespace Usage

/-- The counter is the number of unanswered calls, and the lists are loaded if there are any. -/
structure Balanced (outstanding : ℕ) (usage : Usage) : Prop where
  refcount : usage.library.refcount = outstanding
  defined : usage.library.overflown = false
  inits : usage.inits = usage.deinits + outstanding
  loaded : 0 < outstanding → usage.library.Loaded
  unloaded : outstanding = 0 → usage.library.Unloaded

/-- Behind a failure the counter is one ahead, and the SQL plugins are missing. -/
structure Broken (usage : Usage) : Prop where
  refcount : usage.library.refcount = 1
  inits : usage.inits = usage.deinits
  missing : usage.library.sqlPluginList = false

theorem balanced_initial : Balanced 0 initial where
  refcount := rfl
  defined := rfl
  inits := rfl
  loaded positive := absurd positive (Nat.lt_irrefl 0)
  unloaded _ := ⟨rfl, rfl⟩

section Calls

variable {usage : Usage} {outstanding : ℕ} {steps : InitSteps}

theorem Balanced.serve_init_first (balanced : Balanced 0 usage) (succeeds : ¬ steps.Fail) :
    (serve usage (.init steps)).1 = some 0 ∧ Balanced 1 (serve usage (.init steps)).2 := by
  have notPositive : ¬ usage.library.refcount > 0 := by
    rw [balanced.refcount]
    decide
  have inits := balanced.inits
  simp only [serve, requiemdbInit, if_neg notPositive, loadPlugins_of_not_fail succeeds]
  refine ⟨trivial, ?_, ?_, ?_, fun _ => ⟨rfl, rfl⟩, nofun⟩
  · simp [Library.increment, balanced.refcount]
  · simp [Library.increment, balanced.refcount, balanced.defined]
  · simp [inits]

theorem Balanced.serve_init_fails (balanced : Balanced 0 usage) (fails : steps.Fail) :
    Counted (.init steps) (serve usage (.init steps)).1 (serve usage (.init steps)).2 ∧
      Broken (serve usage (.init steps)).2 := by
  have notPositive : ¬ usage.library.refcount > 0 := by
    rw [balanced.refcount]
    decide
  have inits := balanced.inits
  rcases loadPlugins_of_fail fails usage.library.increment with
    ⟨negative, refcount, overflown, sqlPlugins⟩
  have notZero : ¬ (loadPlugins steps usage.library.increment).1 = 0 := by omega
  simp only [serve, requiemdbInit, if_neg notPositive, if_neg notZero]
  refine ⟨⟨?_, ?_, ?_, nofun⟩, ?_, ?_, ?_⟩
  · rw [overflown]
    simp [Library.increment, balanced.refcount, balanced.defined]
  · exact fun isZero => absurd (Option.some.inj isZero) notZero
  · intro more
    simp only at more
    omega
  · rw [refcount]
    simp [Library.increment, balanced.refcount]
  · simpa using inits
  · rw [sqlPlugins]
    exact (balanced.unloaded rfl).1

/-- A further initialisation counts one more, as long as the counter is in range. -/
theorem Balanced.serve_init_again (balanced : Balanced outstanding usage)
    (positive : 0 < outstanding) (steps : InitSteps) :
    (serve usage (.init steps)).1 = some 0 ∧
      ((serve usage (.init steps)).2.library.overflown = false ↔ outstanding < 2 ^ 31 - 1) ∧
      (outstanding < 2 ^ 31 - 1 → Balanced (outstanding + 1) (serve usage (.init steps)).2) := by
  have isPositive : usage.library.refcount > 0 := by
    rw [balanced.refcount]
    exact Int.natCast_pos.mpr positive
  have inits := balanced.inits
  have refcount := balanced.refcount
  have range : usage.library.increment.overflown = false ↔ outstanding < 2 ^ 31 - 1 := by
    simp only [Library.increment, balanced.defined, Bool.false_or, decide_eq_false_iff_not]
    omega
  simp only [serve, requiemdbInit, if_pos isPositive]
  refine ⟨trivial, range, fun inRange => ⟨?_, range.mpr inRange, ?_, fun _ => ?_, nofun⟩⟩
  · simp [Library.increment, refcount]
  · simp only [if_true]
    omega
  · exact balanced.loaded positive

theorem Balanced.serve_deinit (balanced : Balanced outstanding usage)
    (positive : 0 < outstanding) : Balanced (outstanding - 1) (serve usage .deinit).2 := by
  have inits := balanced.inits
  have refcount : usage.library.refcount - 1 = (outstanding - 1 : ℕ) := by
    rw [balanced.refcount]
    omega
  simp only [serve, requiemdbDeinit]
  split
  · next stays =>
      refine ⟨refcount, balanced.defined, ?_, fun _ => balanced.loaded positive, ?_⟩
      · simp only
        omega
      · intro none_
        rw [refcount, none_] at stays
        exact absurd stays (by decide)
  · next unloads =>
      refine ⟨refcount, balanced.defined, ?_, ?_, fun _ => ⟨rfl, rfl⟩⟩
      · simp only
        omega
      · intro more
        rw [refcount] at unloads
        exact absurd (Int.natCast_pos.mpr more) unloads

theorem Balanced.counted (balanced : Balanced outstanding usage) (call : LibraryCall)
    (reply : Option Int) (success : reply = some 0 → 0 < outstanding) :
    Counted call reply usage := by
  have inits := balanced.inits
  refine ⟨balanced.defined, fun isZero => balanced.loaded (success isZero), ?_, fun _ => ?_⟩
  · intro more
    exact balanced.loaded (by omega)
  · constructor
    · intro unloaded
      by_contra differ
      have loaded := balanced.loaded (by omega)
      rw [Library.Loaded, unloaded.1] at loaded
      exact Bool.false_ne_true loaded.1
    · intro equal
      exact balanced.unloaded (by omega)

/-- Behind a failure no call is right: there is none to answer, and the next one succeeds. -/
theorem Broken.rightAlong_nil (broken : Broken usage) {calls : List LibraryCall}
    (legal : serve.Along Answers calls usage) : RightAlong calls usage ↔ calls = [] := by
  cases calls with
  | nil => exact iff_of_true trivial rfl
  | cons call calls =>
      refine iff_of_false (fun right => ?_) (List.cons_ne_nil _ _)
      cases call with
      | deinit =>
          have unanswered : usage.deinits < usage.inits := legal.1
          rw [broken.inits] at unanswered
          exact Nat.lt_irrefl _ unanswered
      | init steps =>
          have isPositive : usage.library.refcount > 0 := by
            rw [broken.refcount]
            decide
          have loaded := right.1.success (by simp only [serve, requiemdbInit, if_pos isPositive])
          simp only [serve, requiemdbInit, if_pos isPositive] at loaded
          exact Bool.false_ne_true (broken.missing.symm.trans loaded.1)

end Calls

theorem Balanced.rightAlong_failsLast {calls : List LibraryCall} {outstanding : ℕ} {usage : Usage}
    (balanced : Balanced outstanding usage) (legal : serve.Along Answers calls usage) :
    RightAlong calls usage ↔ FailsLast outstanding calls := by
  induction calls generalizing outstanding usage with
  | nil => exact iff_of_true trivial trivial
  | cons call calls ih =>
      rcases legal with ⟨answers, later⟩
      cases call with
      | deinit =>
          have inits := balanced.inits
          have unanswered : usage.deinits < usage.inits := answers
          have next := balanced.serve_deinit (by omega)
          have counted := next.counted .deinit (serve usage .deinit).1 nofun
          rw [FailsLast, ← ih next later]
          exact and_iff_right counted
      | init steps =>
          rw [FailsLast]
          rcases Nat.eq_zero_or_pos outstanding with rfl | positive
          · by_cases fails : steps.Fail
            · rcases balanced.serve_init_fails fails with ⟨counted, broken⟩
              rw [if_pos ⟨rfl, fails⟩, and_iff_right (by decide), ← broken.rightAlong_nil later]
              exact and_iff_right counted
            · rcases balanced.serve_init_first fails with ⟨_, next⟩
              have counted := next.counted (.init steps) (serve usage (.init steps)).1
                fun _ => Nat.one_pos
              rw [if_neg fun both => fails both.2, and_iff_right (by decide), ← ih next later]
              exact and_iff_right counted
          · rcases balanced.serve_init_again positive steps with ⟨_, inRange, next⟩
            rw [if_neg fun both => Nat.ne_of_gt positive both.1]
            by_cases range : outstanding < 2 ^ 31 - 1
            · have counted := (next range).counted (.init steps)
                (serve usage (.init steps)).1 fun _ => Nat.succ_pos _
              rw [and_iff_right range, ← ih (next range) later]
              exact and_iff_right counted
            · refine iff_of_false (fun right => ?_) fun both => range both.1
              exact range (inRange.mp right.1.defined)

/--
In a sequence of calls the counter is right behind each of them exactly if no call comes behind
an initialisation that fails, and never more calls are unanswered than an `int` counts.
-/
theorem rightAlong_iff {calls : List LibraryCall}
    (legal : serve.Along Answers calls initial) :
    RightAlong calls initial ↔ FailsLast 0 calls :=
  balanced_initial.rightAlong_failsLast legal

/-- Every step succeeds. -/
def allSucceed : InitSteps := ⟨none, true, none, true, none⟩

/-- Two initialisations and their ends. -/
theorem rightAlong_iff_nested :
    RightAlong [.init allSucceed, .init allSucceed, .deinit, .deinit] initial ↔
      FailsLast 0 [.init allSucceed, .init allSucceed, .deinit, .deinit] :=
  rightAlong_iff
    ⟨trivial, trivial, show 0 < 2 by decide, show 1 < 2 by decide, trivial⟩

/-- Behind an initialisation without a plugin directory the next one returns 0 at once. -/
theorem not_rightAlong :
    ¬ ∀ calls : List LibraryCall, serve.Along Answers calls initial →
      RightAlong calls initial := by
  intro right
  let unmounted : InitSteps := { allSucceed with formatPluginDirAccess := false }
  have both := right [.init unmounted, .init allSucceed] ⟨trivial, trivial, trivial⟩
  have loaded := both.2.1.success (by decide)
  exact Bool.false_ne_true loaded.1

end Usage

end RequiemDB
