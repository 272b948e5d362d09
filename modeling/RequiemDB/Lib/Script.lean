import RequiemDB.Lib.Indexed

/-!
# Scripts of statements that may fail

A client that sends a fixed sequence of statements inside a transaction handles
the failure of each in one of three ways: it stops, it goes on as if the
statement had succeeded, or it sends another statement in its place. A
`Script` records the statements with their handling. Against a pattern of
failures, given by position, `exec` tells whether the script is finished and
which statements took effect.
-/

namespace Lib

/-- What a client does when a statement fails. -/
inductive OnFailure (S : Type*) where
  | stop
  | ignore
  | instead (statement : S)

/-- A statement and the handling of its failure. -/
structure Item (S : Type*) where
  statement : S
  onFailure : OnFailure S

abbrev Script (S : Type*) := List (Item S)

/-- A statement whose failure ends the script. -/
def Item.must {S : Type*} (statement : S) : Item S := ⟨statement, .stop⟩

namespace Script

variable {S : Type*}

/-- The statements of a run in which none fails. -/
def statements (script : Script S) : List S := script.map Item.statement

@[simp]
theorem statements_nil : statements ([] : Script S) = [] := rfl

@[simp]
theorem statements_cons (item : Item S) (script : Script S) :
    statements (item :: script) = item.statement :: statements script := rfl

@[simp]
theorem statements_append (left right : Script S) :
    statements (left ++ right) = statements left ++ statements right :=
  List.map_append

variable (fails : Nat → Bool)

/--
The statements that take effect and the position behind the last one sent; nothing when the
script stops. The statement at position `n` of those sent fails when `fails n` says so.
-/
def exec : Nat → Script S → Option (List S × Nat)
  | position, [] => some ([], position)
  | position, item :: rest =>
      if fails position then
        match item.onFailure with
        | .stop => none
        | .ignore => exec (position + 1) rest
        | .instead statement =>
            if fails (position + 1) then none
            else (exec (position + 2) rest).map fun (done, last) => (statement :: done, last)
      else (exec (position + 1) rest).map fun (done, last) => (item.statement :: done, last)

/-- A failure that the client tests for strikes. -/
def Stops : Nat → Script S → Prop
  | _, [] => False
  | position, ⟨_, .stop⟩ :: rest => fails position ∨ Stops (position + 1) rest
  | position, ⟨_, .ignore⟩ :: rest => Stops (position + 1) rest
  | position, ⟨_, .instead _⟩ :: rest =>
      if fails position then fails (position + 1) ∨ Stops (position + 2) rest
      else Stops (position + 1) rest

/-- No statement of the script fails. -/
def NothingFails (start : Nat) (script : Script S) : Prop :=
  ∀ position < script.length, fails (start + position) = false

/-- A statement that is replaced is replaced by another one. -/
def ReplacesByOthers (script : Script S) : Prop :=
  ∀ item ∈ script, item.onFailure ≠ .instead item.statement

variable {fails}

@[simp]
theorem nothingFails_nil (start : Nat) : NothingFails fails start ([] : Script S) := by
  simp [NothingFails]

theorem nothingFails_cons (start : Nat) (item : Item S) (rest : Script S) :
    NothingFails fails start (item :: rest) ↔
      fails start = false ∧ NothingFails fails (start + 1) rest := by
  constructor
  · intro none
    refine ⟨by simpa using none 0 (by simp), ?_⟩
    intro position inside
    have later := none (position + 1) (by simpa using inside)
    simpa [Nat.add_assoc, Nat.add_comm 1] using later
  · rintro ⟨here, later⟩ position inside
    rcases position with _ | position
    · simpa using here
    · have := later position (by simpa using inside)
      simpa [Nat.add_assoc, Nat.add_comm 1] using this

/-- A script ends early exactly when a failure it tests for strikes. -/
theorem exec_eq_none_iff (position : Nat) (script : Script S) :
    exec fails position script = none ↔ Stops fails position script := by
  induction script generalizing position with
  | nil => simp [exec, Stops]
  | cons item rest ih =>
      rcases item with ⟨statement, _ | _ | other⟩
      · by_cases failed : fails position <;> simp [exec, Stops, failed, ih]
      · by_cases failed : fails position <;> simp [exec, Stops, failed, ih]
      · by_cases failed : fails position
        · by_cases again : fails (position + 1) <;> simp [exec, Stops, failed, again, ih]
        · simp [exec, Stops, failed, ih]

/-- Without failures every statement takes effect. -/
theorem exec_of_nothingFails {start : Nat} {script : Script S}
    (none : NothingFails fails start script) :
    exec fails start script = some (script.statements, start + script.length) := by
  induction script generalizing start with
  | nil => simp [exec]
  | cons item rest ih =>
      rcases (nothingFails_cons start item rest).mp none with ⟨here, later⟩
      simp [exec, here, ih later, Nat.add_assoc, Nat.add_comm 1]

/-- At most one statement takes effect for each item. -/
theorem length_of_exec {position : Nat} {script : Script S} {done : List S} {last : Nat}
    (finished : exec fails position script = some (done, last)) :
    done.length ≤ script.length := by
  induction script generalizing position done last with
  | nil =>
      simp only [exec, Option.some.injEq, Prod.mk.injEq] at finished
      simp [← finished.1]
  | cons item rest ih =>
      simp only [exec] at finished
      split at finished
      · split at finished
        · exact absurd finished (by simp)
        · exact Nat.le_trans (ih finished) (by simp)
        · split at finished
          · exact absurd finished (by simp)
          · simp only [Option.map_eq_some_iff, Prod.mk.injEq, Prod.exists] at finished
            rcases finished with ⟨later, _, laterFinished, rfl, _⟩
            simpa using ih laterFinished
      · simp only [Option.map_eq_some_iff, Prod.mk.injEq, Prod.exists] at finished
        rcases finished with ⟨later, _, laterFinished, rfl, _⟩
        simpa using ih laterFinished

/-- A finished script has carried out all its statements only if none failed. -/
theorem nothingFails_of_complete {position : Nat} {script : Script S} {last : Nat}
    (others : ReplacesByOthers script)
    (finished : exec fails position script = some (script.statements, last)) :
    NothingFails fails position script := by
  induction script generalizing position with
  | nil => simp
  | cons item rest ih =>
      have laterOthers : ReplacesByOthers rest := fun later present =>
        others later (List.mem_cons_of_mem item present)
      rw [nothingFails_cons]
      simp only [exec] at finished
      split at finished
      · exfalso
        split at finished
        · exact absurd finished (by simp)
        · -- the statement is missing, and no other statement makes up for it
          have short := length_of_exec finished
          simp only [List.length_cons, statements, List.length_map] at short
          omega
        · rename_i other replacing
          split at finished
          · exact absurd finished (by simp)
          · simp only [Option.map_eq_some_iff, Prod.mk.injEq, Prod.exists] at finished
            rcases finished with ⟨later, _, _, same, _⟩
            simp only [statements_cons, List.cons.injEq] at same
            exact others item (by simp) (by rw [replacing, same.1])
      · rename_i succeeded
        simp only [Option.map_eq_some_iff, Prod.mk.injEq, Prod.exists] at finished
        rcases finished with ⟨later, _, laterFinished, same, rfl⟩
        simp only [statements_cons, List.cons.injEq, true_and] at same
        subst same
        exact ⟨by simpa using succeeded, ih laterOthers laterFinished⟩

/--
All or nothing: a script carries out either all of its statements or stops exactly when a
failure it tests for strikes or no statement fails.
-/
theorem complete_or_stopped_iff {position : Nat} {script : Script S}
    (others : ReplacesByOthers script) :
    (∀ done last, exec fails position script = some (done, last) → done = script.statements) ↔
      Stops fails position script ∨ NothingFails fails position script := by
  rw [← exec_eq_none_iff]
  constructor
  · intro complete
    cases outcome : exec fails position script with
    | none => exact Or.inl rfl
    | some result =>
        rcases result with ⟨done, last⟩
        have same := complete done last outcome
        subst same
        exact Or.inr (nothingFails_of_complete others outcome)
  · rintro (stopped | none) done last finished
    · simp [stopped] at finished
    · rw [exec_of_nothingFails none] at finished
      simp only [Option.some.injEq, Prod.mk.injEq] at finished
      exact finished.1.symm

section Offered

/-- The statements that may be sent, those included that take the place of others. -/
def offered : Script S → List S
  | [] => []
  | ⟨statement, .instead other⟩ :: rest => statement :: other :: offered rest
  | ⟨statement, .stop⟩ :: rest | ⟨statement, .ignore⟩ :: rest => statement :: offered rest

@[simp]
theorem offered_nil : offered ([] : Script S) = [] := rfl

@[simp]
theorem offered_append (left right : Script S) :
    offered (left ++ right) = offered left ++ offered right := by
  induction left with
  | nil => rfl
  | cons item left ih => rcases item with ⟨statement, _ | _ | other⟩ <;> simp [offered, ih]

theorem offered_flatten (parts : List (Script S)) :
    offered parts.flatten = (parts.map offered).flatten := by
  induction parts with
  | nil => rfl
  | cons part parts ih => simp [ih]

/-- No statement of the script is replaced by another one. -/
def Plain (script : Script S) : Prop := script.offered = script.statements

namespace Plain

theorem nil : Plain ([] : Script S) := rfl

theorem must {statement : S} {rest : Script S} (plain : Plain rest) :
    Plain (.must statement :: rest) := congrArg (statement :: ·) plain

theorem ignore {statement : S} {rest : Script S} (plain : Plain rest) :
    Plain (⟨statement, .ignore⟩ :: rest) := congrArg (statement :: ·) plain

theorem append {left right : Script S} (inLeft : Plain left) (inRight : Plain right) :
    Plain (left ++ right) := by
  rw [Plain, offered_append, inLeft, inRight, statements_append]

theorem single (statement : S) : Plain [.must statement] := must nil

variable {α : Type*} {part : Int → α → Script S}
  (plain : ∀ index element, (part index element).Plain)
include plain

theorem each (start : Int) (elements : List α) : Plain (Lib.each part start elements) := by
  rw [Plain, each_hom part start elements _ offered_nil offered_append, statements, map_each]
  exact each_congr fun position element _ => plain _ element

theorem listed (elements : List α) : Plain (Lib.listed part elements) := by
  refine append (each plain 0 elements) ?_
  cases elements.getLast? with
  | none => exact nil
  | some last => exact plain (-1) last

end Plain

theorem length_statements_le_offered (script : Script S) :
    script.statements.length ≤ script.offered.length := by
  induction script with
  | nil => exact Nat.le_refl 0
  | cons item rest ih =>
      rcases item with ⟨statement, _ | _ | other⟩
      · exact Nat.succ_le_succ ih
      · exact Nat.succ_le_succ ih
      · exact Nat.succ_le_succ (Nat.le_succ_of_le ih)

theorem Plain.not_instead {script : Script S} (plain : script.Plain) {item : Item S}
    (present : item ∈ script) (other : S) : item.onFailure ≠ .instead other := by
  induction script with
  | nil => exact absurd present List.not_mem_nil
  | cons first rest ih =>
      rcases first with ⟨statement, _ | _ | replacement⟩
      · rcases List.mem_cons.mp present with rfl | later
        · simp
        · exact ih (List.cons.inj plain).2 later
      · rcases List.mem_cons.mp present with rfl | later
        · simp
        · exact ih (List.cons.inj plain).2 later
      · have same := congrArg List.length (List.cons.inj plain).2
        have bound := length_statements_le_offered rest
        simp only [List.length_cons] at same
        rw [← statements] at same
        omega

end Offered

section Sent

variable (fails)

/-- The statements that are sent, those that fail among them. -/
def sent : Nat → Script S → List S
  | _, [] => []
  | position, item :: rest =>
      item.statement ::
        if fails position then
          match item.onFailure with
          | .stop => []
          | .ignore => sent (position + 1) rest
          | .instead other => other :: if fails (position + 1) then [] else sent (position + 2) rest
        else sent (position + 1) rest

end Sent

section Finishes

/-! Failures that depend on the statement as well as on its position. -/

variable (fails : S → Nat → Bool)

/-- The script is finished, and the statements in the list took effect. -/
inductive Finishes : Nat → Script S → List S → Prop
  | nil {position : Nat} : Finishes position [] []
  | sent {position : Nat} {item : Item S} {rest : Script S} {done : List S}
      (succeeds : fails item.statement position = false)
      (later : Finishes (position + 1) rest done) :
      Finishes position (item :: rest) (item.statement :: done)
  | ignored {position : Nat} {statement : S} {rest : Script S} {done : List S}
      (failed : fails statement position = true) (later : Finishes (position + 1) rest done) :
      Finishes position (⟨statement, .ignore⟩ :: rest) done
  | replaced {position : Nat} {statement other : S} {rest : Script S} {done : List S}
      (failed : fails statement position = true) (succeeds : fails other (position + 1) = false)
      (later : Finishes (position + 2) rest done) :
      Finishes position (⟨statement, .instead other⟩ :: rest) (other :: done)

/-- A statement fails that is replaced by another one then. -/
def Replaces : Nat → Script S → Prop
  | _, [] => False
  | position, ⟨statement, .instead _⟩ :: rest =>
      fails statement position = true ∨ Replaces (position + 1) rest
  | position, _ :: rest => Replaces (position + 1) rest

variable {fails}

/-- What takes effect of the statements whose failure the client does not go on from. -/
theorem Finishes.filter {keep : S → Bool} {position : Nat} {script : Script S} {done : List S}
    (finishes : Finishes fails position script done)
    (tested : ∀ item ∈ script, keep item.statement = true → item.onFailure = .stop)
    (original : ¬ Replaces fails position script) :
    done.filter keep = script.statements.filter keep := by
  induction finishes with
  | nil => rfl
  | @sent position item rest done _ _ ih =>
      have later : ¬ Replaces fails (position + 1) rest := by
        rcases item with ⟨statement, _ | _ | other⟩
        · exact original
        · exact original
        · exact fun replaces => original (.inr replaces)
      rw [statements_cons, List.filter_cons, List.filter_cons,
        ih (fun item present => tested item (.tail _ present)) later]
  | @ignored position statement rest done _ _ ih =>
      have unkept : ¬ keep statement = true := by
        intro kept
        exact absurd (tested _ (.head _) kept) (by simp)
      rw [statements_cons, List.filter_cons_of_neg unkept,
        ih (fun item present => tested item (.tail _ present)) original]
  | replaced failed => exact absurd (.inl failed) original

/-- A statement that takes the place of another one takes effect. -/
theorem Finishes.mem_of_replaces {position : Nat} {script : Script S} {done : List S}
    (finishes : Finishes fails position script done) (replaces : Replaces fails position script) :
    ∃ item ∈ script, ∃ other ∈ done, item.onFailure = .instead other := by
  have further : ∀ {item : Item S} {rest : Script S} {done later : List S},
      (∃ item ∈ rest, ∃ other ∈ done, item.onFailure = .instead other) → done ⊆ later →
      ∃ entry ∈ item :: rest, ∃ other ∈ later, entry.onFailure = .instead other := by
    rintro item rest done later ⟨entry, present, other, isDone, replaces⟩ subset
    exact ⟨entry, .tail _ present, other, subset isDone, replaces⟩
  induction finishes with
  | nil => exact absurd replaces id
  | @sent position item rest done succeeds _ ih =>
      have later : Replaces fails (position + 1) rest := by
        rcases item with ⟨statement, _ | _ | other⟩
        · exact replaces
        · exact replaces
        · refine replaces.resolve_left ?_
          simpa using succeeds
      exact further (ih later) (List.subset_cons_self _ _)
  | ignored _ _ ih => exact further (ih replaces) (List.Subset.refl _)
  | @replaced position statement other rest done _ _ _ _ =>
      exact ⟨_, .head _, other, .head _, rfl⟩

end Finishes

end Script

section Map

variable {S T : Type*} (f : S → T)

def OnFailure.map : OnFailure S → OnFailure T
  | .stop => .stop
  | .ignore => .ignore
  | .instead statement => .instead (f statement)

def Item.map (item : Item S) : Item T := ⟨f item.statement, item.onFailure.map f⟩

/-- The statements sent of a script of other statements are the other statements of those sent. -/
theorem Script.sent_map (fails : Nat → Bool) (position : Nat) (script : Script S) :
    Script.sent fails position (script.map (Item.map f)) =
      (Script.sent fails position script).map f := by
  induction script generalizing position with
  | nil => rfl
  | cons item rest ih =>
      rcases item with ⟨statement, _ | _ | other⟩
      · by_cases failed : fails position <;> simp [sent, Item.map, OnFailure.map, failed, ih]
      · simp [sent, Item.map, OnFailure.map, ih]
      · by_cases failed : fails position
        · by_cases again : fails (position + 1) <;>
            simp [sent, Item.map, OnFailure.map, failed, again, ih]
        · simp [sent, Item.map, OnFailure.map, failed, ih]

theorem Script.stops_map (fails : Nat → Bool) (position : Nat) (script : Script S) :
    Script.Stops fails position (script.map (Item.map f)) ↔ Script.Stops fails position script := by
  induction script generalizing position with
  | nil => rfl
  | cons item rest ih =>
      rcases item with ⟨statement, _ | _ | other⟩ <;>
        simp [Stops, Item.map, OnFailure.map, ih]

end Map

end Lib
