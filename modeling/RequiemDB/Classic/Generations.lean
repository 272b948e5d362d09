import RequiemDB.Classic.EmptyTexts

/-!
# Copies of copies

What is read of a message is inserted into the next database and read again, as a chain of
copies between databases does. The index that is asked for the arguments of a process is a
`char`, so that a copy may have the arguments of another process. A copy of a copy has found
its place: all later copies have its tree.
-/

namespace RequiemDB

open Lib

variable {E : EnumKind → Type} [Librequiem E] {α : Type}

section Args

variable (process : α → Option Process)

/-- The arguments of the process of the element at an index. -/
def argsAt (elements : List α) (index : Int) : List String :=
  (processAt process elements index).elim [] Process.args

theorem argsAsked_eq (elements : List α) (index : Int) :
    argsAsked (processAt process elements) index = argsAt process elements (charIndex index) :=
  rfl

/-- An index that is no position and not -1 finds nothing. -/
theorem argsAt_of_lt (elements : List α) {index : Int} (below : index < -1) :
    argsAt process elements index = [] := by
  rcases index with position | position
  · exact absurd below (by simp)
  · cases position with
    | zero => exact absurd below (by decide)
    | succ position => rfl

theorem charIndex_eq (index : Int) : charIndex index = index.bmod 256 :=
  Int8.toInt_ofInt

theorem charIndex_range (index : Int) : -128 ≤ charIndex index ∧ charIndex index < 128 := by
  rw [charIndex_eq, Int.bmod_def]
  omega

theorem charIndex_of_char {index : Int} (lower : 0 ≤ index) (upper : index < 128) :
    charIndex index = index := by
  rw [charIndex_eq, Int.bmod_def]
  omega

/-- An answered element keeps its process, with other arguments. -/
def KeepsProcess (answer : List α → Int → α → α) : Prop :=
  ∀ elements index element, process (answer elements index element) =
    (process element).map (Process.answered (processAt process elements) index)

theorem getElem?_each_single {β : Type} (f : Int → α → β) (start : Int) (elements : List α)
    (position : Nat) :
    (each (fun index element => [f index element]) start elements)[position]? =
      elements[position]?.map (f (start + position)) := by
  induction elements generalizing start position with
  | nil => simp
  | cons element elements ih =>
      cases position with
      | zero => simp
      | succ position => simp [ih, Int.add_assoc, Int.add_comm 1]

theorem getElem?_answeredUnder (answer : List α → Int → α → α) (elements : List α)
    (position : Nat) :
    (answeredUnder answer elements)[position]? =
      elements[position]?.map (answer elements position) := by
  rw [answeredUnder, getElem?_each_single, Int.zero_add]

theorem length_answeredUnder (answer : List α → Int → α → α) (elements : List α) :
    (answeredUnder answer elements).length = elements.length := by
  have same : (answeredUnder answer elements).map (fun _ => ()) = elements.map fun _ => () :=
    (map_answeredUnder_eq_iff fun _ => ()).mpr fun _ _ _ => rfl
  simpa using congrArg List.length same

section Answered

variable {process} {answer : List α → Int → α → α} (keeps : KeepsProcess process answer)
  (elements : List α)
include keeps

theorem processAt_answered (position : Nat) :
    processAt process (answeredUnder answer elements) position =
      (processAt process elements position).map
        (Process.answered (processAt process elements) position) := by
  rw [processAt, atIndex_natCast, getElem?_answeredUnder, processAt, atIndex_natCast]
  cases found : elements[position]? with
  | none => rfl
  | some element => exact keeps elements position element

theorem argsAt_answered (position : Nat) :
    argsAt process (answeredUnder answer elements) position =
      (processAt process elements position).elim [] fun _ =>
        argsAt process elements (charIndex position) := by
  rw [argsAt, processAt_answered keeps]
  cases processAt process elements position <;> rfl

/-- Below 128, and where nothing is found, the first copy has the arguments of the message. -/
theorem argsAt_answered_of_char {index : Int} (differs : index ≠ -1) (upper : index < 128) :
    argsAt process (answeredUnder answer elements) index = argsAt process elements index := by
  rcases Int.lt_or_le index (-1) with below | above
  · rw [argsAt_of_lt process _ below, argsAt_of_lt process _ below]
  · lift index to Nat using (by omega)
    rw [argsAt_answered keeps, charIndex_of_char (by omega) upper, argsAt]
    cases processAt process elements index <;> rfl

section Last

variable {elements} {position : Nat} (length : elements.length = position + 1)
include length

omit keeps in
theorem atIndex_minusOne : atIndex elements (-1) = atIndex elements (position : Int) := by
  rw [← atIndex_last (List.ne_nil_of_length_eq_add_one length), length]
  congr 1
  omega

omit keeps in
theorem argsAt_minusOne : argsAt process elements (-1) = argsAt process elements position := by
  rw [argsAt, argsAt, processAt, processAt, atIndex_minusOne length]

theorem argsAt_answered_minusOne :
    argsAt process (answeredUnder answer elements) (-1) =
      (processAt process elements position).elim [] fun _ =>
        argsAt process elements (charIndex position) := by
  rw [argsAt_minusOne ((length_answeredUnder answer elements).trans length),
    argsAt_answered keeps]

end Last

/-- An index that is asked for finds in a second copy what it finds in the first. -/
theorem argsAt_again {index : Int} (upper : index < 128) :
    argsAt process (answeredUnder answer (answeredUnder answer elements)) index =
      argsAt process (answeredUnder answer elements) index := by
  rcases eq_or_ne index (-1) with rfl | differs
  · cases length : elements.length with
    | zero =>
        rw [List.length_eq_zero_iff.mp length]
        rfl
    | succ position =>
        have lengthAnswered := (length_answeredUnder answer elements).trans length
        rw [argsAt_answered_minusOne keeps lengthAnswered, argsAt_answered_minusOne keeps length,
          processAt_answered keeps]
        cases present : processAt process elements position with
        | none => rfl
        | some own =>
            simp only [Option.map_some, Option.elim_some]
            rcases eq_or_ne (charIndex position) (-1) with isLast | notLast
            · rw [isLast, argsAt_answered_minusOne keeps length, present, isLast]
              rfl
            · exact argsAt_answered_of_char keeps _ notLast (charIndex_range _).2
  · exact argsAt_answered_of_char keeps _ differs upper

/-- Up to 256 elements the first copy has what is asked for of the message. -/
theorem argsAt_answered_of_short (short : elements.length ≤ 256) {position : Nat}
    (inside : position < elements.length) :
    argsAt process (answeredUnder answer elements) (charIndex position) =
      argsAt process elements (charIndex position) := by
  rcases eq_or_ne (charIndex position) (-1) with isLast | notLast
  · have isEnd : elements.length = position + 1 := by
      rw [charIndex_eq, Int.bmod_def] at isLast
      omega
    rw [isLast, argsAt_answered_minusOne keeps isEnd, isLast, argsAt_minusOne isEnd, argsAt]
    cases processAt process elements position <;> rfl
  · exact argsAt_answered_of_char keeps _ notLast (charIndex_range _).2

/-- A copy has found its place when what it asks for is what was asked for of the message. -/
theorem findsArgs_answered
    (same : ∀ position < elements.length,
      argsAt process (answeredUnder answer elements) (charIndex position) =
        argsAt process elements (charIndex position)) :
    FindsArgs process (answeredUnder answer elements) := by
  intro position element found own isOwn
  have inside : position < elements.length := by
    rw [← length_answeredUnder answer elements]
    exact (List.getElem?_eq_some_iff.mp found).1
  have isAnswered := processAt_answered keeps elements position
  rw [processAt, atIndex_natCast, found, Option.bind_some, Option.mem_def.mp isOwn] at isAnswered
  rcases Option.map_eq_some_iff.mp isAnswered.symm with ⟨before, _, rfl⟩
  rw [argsAsked_eq, same position inside]
  rfl

theorem findsArgs_again :
    FindsArgs process (answeredUnder answer (answeredUnder answer elements)) :=
  findsArgs_answered keeps _ fun position _ =>
    argsAt_again keeps elements (charIndex_range position).2

theorem findsArgs_answered_of_short (short : elements.length ≤ 256) :
    FindsArgs process (answeredUnder answer elements) :=
  findsArgs_answered keeps _ fun _ inside => argsAt_answered_of_short keeps elements short inside

end Answered

end Args

section Messages

omit [Librequiem E] in
theorem keepsProcess_analyzer : KeepsProcess Analyzer.process (Analyzer.answered (E := E)) :=
  fun _ _ _ => rfl

omit [Librequiem E] in
theorem keepsProcess_source : KeepsProcess Source.process (Source.answered (E := E)) :=
  fun _ _ _ => rfl

omit [Librequiem E] in
theorem keepsProcess_target : KeepsProcess Target.process (Target.answered (E := E)) :=
  fun _ _ _ => rfl

/-- A copy has the analyzers, sources and targets that the queries of the reader answer. -/
inductive CopyOf : Message E → Message E → Prop
  | alert {alert copy : Alert E}
      (analyzers : copy.analyzers = answeredUnder Analyzer.answered alert.analyzers)
      (sources : copy.sources = answeredUnder Source.answered alert.sources)
      (targets : copy.targets = answeredUnder Target.answered alert.targets) :
      CopyOf (.alert alert) (.alert copy)
  | heartbeat {heartbeat copy : Heartbeat E}
      (analyzers : copy.analyzers = answeredUnder Analyzer.answered heartbeat.analyzers) :
      CopyOf (.heartbeat heartbeat) (.heartbeat copy)

theorem copyOf_of_returned {retrieval : Retrieval} (faithful : retrieval.emptyIsNull = false)
    {message copy : Message E} {unassigned : Int}
    (returns : message.returned retrieval unassigned = .ok ⟨copy, none⟩) :
    CopyOf message copy := by
  cases message with
  | alert alert =>
      rcases @kind_of_faithful E _ retrieval faithful alert.kind with ⟨kind, isKind, _⟩
      simp only [Message.returned, Alert.returned, Alert.answered, isKind, ok_bind,
        textMap_of_faithful faithful] at returns
      have same : _ = copy := congrArg MessageRead.message (Except.ok.inj returns)
      subst same
      exact .alert (by simp) (by simp) (by simp)
  | heartbeat heartbeat =>
      simp only [Message.returned, Heartbeat.returned, Heartbeat.answered,
        textMap_of_faithful faithful] at returns
      have same : _ = copy := congrArg MessageRead.message (Except.ok.inj returns)
      subst same
      exact .heartbeat (by simp)

omit [Librequiem E] in
theorem countsAccesses_answered (targets : List (Target E)) :
    CountsAccesses (answeredUnder Target.answered targets) := by
  apply forall_mem_answeredUnder
  intro index target _ file present
  rcases List.mem_map.mp present with ⟨before, _, rfl⟩
  simp only [File.answered, List.length_take]
  exact Nat.lt_of_le_of_lt (Nat.min_le_left _ _) (Nat.mod_lt _ (by decide))

/-- The lists of a message with processes below their elements have up to 256 of them. -/
def Message.Short : Message E → Prop
  | .alert message => message.analyzers.length ≤ 256 ∧ message.sources.length ≤ 256 ∧
      message.targets.length ≤ 256
  | .heartbeat message => message.analyzers.length ≤ 256

omit [Librequiem E] in
theorem CopyOf.found_of_short {message copy : Message E} (isCopy : CopyOf message copy)
    (short : message.Short) : copy.Found ∧ copy.Short := by
  cases isCopy with
  | alert analyzers sources targets =>
      rcases short with ⟨shortAnalyzers, shortSources, shortTargets⟩
      rw [Message.Found, Message.Short, analyzers, sources, targets, length_answeredUnder,
        length_answeredUnder, length_answeredUnder]
      exact ⟨⟨findsArgs_answered_of_short keepsProcess_analyzer _ shortAnalyzers,
        findsArgs_answered_of_short keepsProcess_source _ shortSources,
        findsArgs_answered_of_short keepsProcess_target _ shortTargets,
        countsAccesses_answered _⟩, shortAnalyzers, shortSources, shortTargets⟩
  | heartbeat analyzers =>
      rw [Message.Found, Message.Short, analyzers, length_answeredUnder]
      exact ⟨findsArgs_answered_of_short keepsProcess_analyzer _ short, short⟩

omit [Librequiem E] in
theorem CopyOf.found {message copy again : Message E} (isCopy : CopyOf message copy)
    (isAgain : CopyOf copy again) : again.Found := by
  cases isCopy with
  | alert analyzers sources targets =>
      cases isAgain with
      | alert againAnalyzers againSources againTargets =>
          rw [Message.Found, againAnalyzers, againSources, againTargets, analyzers, sources,
            targets]
          exact ⟨findsArgs_again keepsProcess_analyzer _, findsArgs_again keepsProcess_source _,
            findsArgs_again keepsProcess_target _, countsAccesses_answered _⟩
  | heartbeat analyzers =>
      cases isAgain with
      | heartbeat againAnalyzers =>
          rw [Message.Found, againAnalyzers, analyzers]
          exact findsArgs_again keepsProcess_analyzer _

end Messages

section Chain

variable [∀ kind, Inhabited (E kind)] {retrieval : Retrieval}

/-- A message that is inserted into a sound database and read back there. -/
structure ReadsBack (retrieval : Retrieval) (store : Store) (message copy : Message E) : Prop where
  sound : store.Sound
  reads : ∃ unassigned : Int,
    (classicGet unassigned message.table (store.next message.table)).read retrieval
      (inserted message store) = .ok ⟨copy, none⟩

theorem ReadsBack.returned (faithful : retrieval.emptyIsNull = false) {store : Store}
    {message copy : Message E} (readsBack : ReadsBack retrieval store message copy) :
    ∃ unassigned, message.returned retrieval unassigned = .ok ⟨copy, none⟩ := by
  rcases readsBack.reads with ⟨unassigned, reads⟩
  rw [read_classicGet_inserted (names_of_faithful faithful) message readsBack.sound] at reads
  exact ⟨unassigned, reads⟩

theorem ReadsBack.copyOf (faithful : retrieval.emptyIsNull = false) {store : Store}
    {message copy : Message E} (readsBack : ReadsBack retrieval store message copy) :
    CopyOf message copy := by
  rcases readsBack.returned faithful with ⟨unassigned, returns⟩
  exact copyOf_of_returned faithful returns

theorem ReadsBack.tree_eq (faithful : retrieval.emptyIsNull = false) {store : Store}
    {message copy : Message E} (readsBack : ReadsBack retrieval store message copy)
    (isFound : message.Found) : copy.tree = message.tree := by
  rcases readsBack.returned faithful with ⟨unassigned, returns⟩
  rcases (returned_tree_iff faithful message unassigned).mpr isFound with ⟨read, isRead, tree⟩
  rw [returns] at isRead
  cases Except.ok.inj isRead
  exact tree

/--
A message that is copied from database to database changes its tree at most twice, and only
once if its lists have up to 256 elements.
-/
theorem copies_settle (faithful : retrieval.emptyIsNull = false) {stores : ℕ → Store}
    {copies : ℕ → Message E}
    (chain : ∀ step, ReadsBack retrieval (stores step) (copies step) (copies (step + 1))) :
    (∀ step, (copies (step + 2)).tree = (copies 2).tree) ∧
      ((copies 0).Short → ∀ step, (copies (step + 1)).tree = (copies 1).tree) := by
  have isCopy : ∀ step, CopyOf (copies step) (copies (step + 1)) := fun step =>
    (chain step).copyOf faithful
  constructor
  · intro step
    induction step with
    | zero => rfl
    | succ step ih =>
        have isFound := (isCopy step).found (isCopy (step + 1))
        exact ((chain (step + 2)).tree_eq faithful isFound).trans ih
  · intro short step
    have both : ∀ step, (copies (step + 1)).Found ∧ (copies (step + 1)).Short := by
      intro step
      induction step with
      | zero => exact (isCopy 0).found_of_short short
      | succ step ih => exact (isCopy (step + 1)).found_of_short ih.2
    induction step with
    | zero => rfl
    | succ step ih => exact ((chain (step + 1)).tree_eq faithful (both step).1).trans ih

/-- Every message that a faithful plugin stores is read back, with all of its data. -/
theorem exists_readsBack (faithful : retrieval.emptyIsNull = false) (message : Message E)
    {store : Store} (sound : store.Sound) :
    ∃ copy, ReadsBack retrieval store message copy := by
  have reads : ∃ copy, message.returned retrieval 0 = .ok ⟨copy, none⟩ := by
    cases message with
    | heartbeat heartbeat =>
        have data := @dataReturned_of_faithful E _ retrieval faithful 0 heartbeat.additionalData
        simp only [Message.returned, Heartbeat.returned, Heartbeat.answered, data.2]
        exact ⟨_, rfl⟩
    | alert alert =>
        have data := @dataReturned_of_faithful E _ retrieval faithful 0 alert.additionalData
        rcases @kind_of_faithful E _ retrieval faithful alert.kind with ⟨kind, isKind, _⟩
        simp only [Message.returned, Alert.returned, Alert.answered, isKind, ok_bind, data.2]
        exact ⟨_, rfl⟩
  rcases reads with ⟨copy, returns⟩
  refine ⟨copy, sound, 0, ?_⟩
  rw [read_classicGet_inserted (names_of_faithful faithful) message sound, returns]

/-- An alert with a chain of 300 analyzers, copied again and again. -/
theorem copies_settle_relayed :
    ∃ copies : ℕ → Message TextEnum, copies 0 = relayed 300 ∧
      ∀ step, (copies (step + 2)).tree = (copies 2).tree := by
  choose next readsBack using fun message : Message TextEnum =>
    exists_readsBack (rfl : Retrieval.mysql.emptyIsNull = false) message Store.sound_empty
  have chain : ∀ step, ReadsBack .mysql ((fun _ => Store.empty : ℕ → Store) step)
      (next^[step] (relayed 300)) (next^[step + 1] (relayed 300)) := by
    intro step
    rw [Function.iterate_succ_apply']
    exact readsBack _
  exact ⟨fun step => next^[step] (relayed 300), rfl, (copies_settle rfl chain).1⟩

end Chain

end RequiemDB
