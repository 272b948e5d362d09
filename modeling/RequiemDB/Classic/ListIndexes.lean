import Mathlib.Data.List.Perm.Basic
import RequiemDB.Classic.ListKeys
import RequiemDB.Classic.PrimaryKeys
import RequiemDB.Classic.Successes

/-!
# The indexes of listed rows

In a database that successful calls of `classicInsert` have built, the rows of a
list should have the indexes 0, 1, ... in the order of the list, and the last
element once more under index -1. The insertion keeps to this but for three lists:
it copies no argument, no environment string and no alertident of a tool alert, and
for a tool alert without alertidents whose own row fails it inserts an alertident
under index -1.
-/

namespace RequiemDB

open Lib

variable {E : EnumKind → Type} [Librequiem E] {α : Type}

section Indexed

/-- The rows of a list: each element under its position, and a copy of the last one under -1. -/
structure Indexed (rows : List Row) (elements : List (Int → Row)) : Prop where
  empty : elements = [] → rows = []
  indexes : elements ≠ [] → (rows.map Row.index).Perm
    (((List.range elements.length).map fun position => some (position : Int)) ++ [some (-1)])
  inOrder : ∀ row ∈ rows, ∀ (position : Nat) element, elements[position]? = some element →
    row.index = some (position : Int) → row = element position
  copied : ∀ copy ∈ rows, copy.index = some (-1) → ∀ last ∈ rows,
    last.index = some ((elements.length : Int) - 1) → copy.cells = last.cells

/-- An element is written under the index given, which is not among its other cells. -/
def Numbered (element : Int → Row) : Prop :=
  ∀ index, (element index).index = some index ∧
    ∀ other, (element index).cells = (element other).cells

theorem numbered_asRows {row : Int → α → Row}
    (numbered : ∀ element, Numbered fun index => row index element) (elements : List α) :
    ∀ element ∈ asRows row elements, Numbered element := by
  intro element present
  rcases List.mem_map.mp present with ⟨original, _, rfl⟩
  exact numbered original

theorem numbered_listAt (message : Message E) (ident : Nat) (key : ListKey) :
    ∀ element ∈ message.listAt ident key, Numbered element := by
  cases key <;> exact numbered_asRows (fun _ _ => ⟨rfl, fun _ => rfl⟩) _

theorem each_indexes (start : Nat) (elements : List α) :
    each (fun index _ => [some index]) start elements =
      (List.range' start elements.length).map fun position => some (position : Int) := by
  induction elements generalizing start with
  | nil => rfl
  | cons element elements ih =>
      have next : (start : Int) + 1 = ((start + 1 : Nat) : Int) := rfl
      rw [each_cons, next, ih, List.length_cons, List.range'_succ]
      rfl

section Written

variable {elements : List (Int → Row)} (numbered : ∀ element ∈ elements, Numbered element)
include numbered

theorem map_index_each :
    (each (fun index (row : Int → Row) => [row index]) 0 elements).map Row.index =
      (List.range elements.length).map fun position => some (position : Int) := by
  have indexes := each_indexes 0 elements
  rw [← List.range_eq_range'] at indexes
  rw [map_each, ← indexes]
  refine each_congr fun position element found => ?_
  have isIndex := (numbered element (List.mem_of_getElem? found) (0 + (position : Int))).1
  simpa using isIndex

theorem atIndex_of_mem_listed {row : Row}
    (present : row ∈ listed (fun index (row : Int → Row) => [row index]) elements) :
    ∃ index element, atIndex elements index = some element ∧ row = element index ∧
      row.index = some index := by
  rcases (mem_listed_iff _ _).mp present with ⟨index, element, atPosition, inPart⟩
  have found := atPosition.atIndex_eq
  have isRow := List.mem_singleton.mp inPart
  exact ⟨index, element, found, isRow, isRow ▸ (numbered element (mem_of_atIndex found) index).1⟩

theorem indexed_listed :
    Indexed (listed (fun index (row : Int → Row) => [row index]) elements) elements where
  empty := by
    rintro rfl
    rfl
  indexes nonempty := by
    rw [listed, List.map_append, map_index_each numbered]
    refine List.Perm.append_left _ ?_
    cases isLast : elements.getLast? with
    | none => exact absurd (List.getLast?_eq_none_iff.mp isLast) nonempty
    | some last =>
        have isIndex := (numbered last (List.mem_of_getLast? isLast) (-1)).1
        simp [isIndex]
  inOrder row present position element found isPosition := by
    rcases atIndex_of_mem_listed numbered present with ⟨index, other, atOther, isRow, isIndex⟩
    have same : index = position := Option.some.inj (isIndex.symm.trans isPosition)
    rw [same, atIndex_natCast, found] at atOther
    rw [isRow, same, Option.some.inj atOther]
  copied copy isCopy ofCopy last isLast ofLast := by
    rcases atIndex_of_mem_listed numbered isCopy with ⟨index, element, found, isRow, isIndex⟩
    rcases atIndex_of_mem_listed numbered isLast with ⟨other, original, atLast, isOther, isNumber⟩
    have copyIndex : index = -1 := Option.some.inj (isIndex.symm.trans ofCopy)
    have lastIndex : other = (elements.length : Int) - 1 :=
      Option.some.inj (isNumber.symm.trans ofLast)
    have present := mem_of_atIndex found
    rw [copyIndex, ← atIndex_last (List.ne_nil_of_mem present), ← lastIndex, atLast] at found
    rw [isRow, isOther, Option.some.inj found]
    exact (numbered element present index).2 other

/-- A list without the copy of its last element has no row under index -1. -/
theorem not_indexed_each (nonempty : elements ≠ []) :
    ¬ Indexed (each (fun index (row : Int → Row) => [row index]) 0 elements) elements := by
  intro indexed
  have perm := indexed.indexes nonempty
  rw [map_index_each numbered] at perm
  have sameLength := perm.length_eq
  simp at sameLength

theorem indexed_written_iff (copied : Bool) :
    Indexed (written copied elements) elements ↔ copied = true ∨ elements = [] := by
  cases copied with
  | true => simpa [written] using indexed_listed numbered
  | false =>
      simp only [written, Bool.false_eq_true, if_false, false_or]
      constructor
      · intro indexed
        by_contra nonempty
        exact not_indexed_each numbered nonempty indexed
      · rintro rfl
        exact indexed_listed numbered

end Written

end Indexed

section Replaced

omit [Librequiem E] in
theorem replaced_of_toolAlertScript {ident : Nat} {toolAlert : ToolAlert} {item : Item Row}
    (present : item ∈ toolAlertScript ident toolAlert) {other : Row}
    (replaces : item.onFailure = .instead other) :
    toolAlert.alertidents = [] ∧ other = alertidentRow .T ident (-1) none := by
  rcases List.mem_cons.mp present with rfl | below
  · cases empty : toolAlert.alertidents with
    | nil =>
        simp only [empty, List.isEmpty_nil, if_true, OnFailure.instead.injEq] at replaces
        exact ⟨rfl, replaces.symm⟩
    | cons alertident alertidents => simp [empty] at replaces
  · have plain : Script.Plain (each (fun index alertident =>
        [.must (alertidentRow .T ident index (some alertident))]) 0 toolAlert.alertidents) :=
      .each (fun _ _ => .single _) 0 _
    exact absurd replaces (plain.not_instead below other)

/-- The one insertion that is replaced is that of a tool alert without alertidents. -/
theorem replaced_of_messageScript {ident : Nat} {message : Message E} {item : Item Row}
    (present : item ∈ messageScript ident message) {other : Row}
    (replaces : item.onFailure = .instead other) :
    message.table = .alert ∧ message.listAt ident .toolAlertidents = [] ∧
      other = alertidentRow .T ident (-1) none := by
  cases message with
  | heartbeat heartbeat =>
      have plain : (heartbeatScript ident heartbeat).Plain := by
        refine .append (.listed (plain_analyzerScript .H ident) _) (.must (.append ?_ ?_))
        · exact Plain.optional (fun _ => .single _) _
        · exact .listed (fun _ _ => .single _) _
      exact absurd replaces (plain.not_instead present other)
  | alert alert =>
      rw [messageScript, alertScript_eq] at present
      rcases List.mem_flatten.mp present with ⟨part, isPart, inPart⟩
      have plain : ∀ part ∈ (alertParts ident alert).eraseIdx 4, part.Plain := by
        simp only [alertParts, List.eraseIdx, List.forall_mem_cons]
        refine ⟨.single _, Plain.optional (fun _ => .single _) _,
          Plain.optional (fun _ => .single _) _, Plain.optional (plain_assessmentScript ident) _,
          .listed (plain_analyzerScript .A ident) _, .listed (plain_sourceScript ident) _,
          .listed (plain_targetScript ident) _, Plain.optional (plain_classificationScript ident) _,
          .listed (fun _ _ => .single _) _, List.forall_mem_nil _⟩
      have which : part = alertKindScript ident E alert.kind ∨
          part ∈ (alertParts ident alert).eraseIdx 4 := by
        simp only [alertParts, List.eraseIdx, List.mem_cons] at isPart ⊢
        tauto
      rcases which with rfl | isOther
      · cases kind : alert.kind with
        | tool toolAlert =>
            rw [kind] at inPart
            rcases replaced_of_toolAlertScript inPart replaces with ⟨empty, isRow⟩
            refine ⟨rfl, ?_, isRow⟩
            simp [Message.listAt, Message.ofAlert, kind, AlertKind.toolAlertidents, empty, asRows]
        | default =>
            rw [kind] at inPart
            exact absurd inPart List.not_mem_nil
        | overflow overflowAlert =>
            rw [kind] at inPart
            exact absurd replaces ((Script.Plain.single _).not_instead inPart other)
        | correlation correlationAlert =>
            rw [kind] at inPart
            have plain : (correlationAlertScript ident correlationAlert).Plain :=
              .must (.listed (fun _ _ => .single _) _)
            exact absurd replaces (plain.not_instead inPart other)
      · exact absurd replaces ((plain part isOther).not_instead inPart other)

end Replaced

section Built

/-- A call of `classicInsert`: its message, the faults it met and the database it found. -/
structure Insertion (E : EnumKind → Type) where
  message : Message E
  faults : Faults
  before : Store

/-- The ident that the message is given. -/
def Insertion.ident (call : Insertion E) : Nat := call.before.next call.message.table

/-- The databases that successful calls of `classicInsert` build, with those calls. -/
inductive Built : Store → List (Insertion E) → Prop
  | empty (next : MessageTable → Nat) : Built { Store.empty with next := next } []
  | insert {store : Store} {calls : List (Insertion E)} (built : Built store calls)
      (message : Message E) (faults : Faults)
      (succeeded : 0 ≤ ((classicInsert message).run (environment faults) store).1) :
      Built ((classicInsert message).run (environment faults) store).2
        (calls ++ [⟨message, faults, store⟩])

variable {store : Store} {calls : List (Insertion E)}

theorem Built.sound (built : Built store calls) : store.Sound := by
  induction built with
  | empty next => exact ⟨rfl, fun entry absent => absurd absent List.not_mem_nil⟩
  | insert _ message faults _ ih => exact (classicInsert_addsTo faults message ih).sound ih

/-- A query on the rows that messages of a kind have, and those of the other kind have not. -/
structure QueriesKind (kind : MessageTable) (query : Select) : Prop where
  notOwn : query.table ≠ kind.table
  otherKind : query.Avoids kind.other

theorem ListKey.queriesKind (key : ListKey) (ident : Nat) :
    QueriesKind key.kind (key.select ident) := by
  rcases key with (_ | _) | (_ | _) | _ | _ | _ | _ | _ | _ | ⟨(_ | _) | _ | _, _⟩ |
    ⟨(_ | _) | _ | _, _⟩ | ⟨(_ | _) | _ | _, _⟩ | ⟨(_ | _) | _ | _, _⟩ | ⟨(_ | _) | _ | _, _⟩ |
    _ | _ | _ | _ | _ <;>
  constructor <;>
  simp [Select.Avoids, select, asked, kind, Holder.letter, Holder.kind, messageLetter,
    MessageTable.table, MessageTable.other, Table.letters, nestedLetters, endpointLetters,
    ParentTypeTest.Holds]

theorem ListKey.tested (key : ListKey) : key.asked.1 ∉ untestedTables := by
  cases key <;> simp [asked, untestedTables]

/-- The rows that took effect of a call, and of them what a query on its message finds. -/
structure Insertion.Left (call : Insertion E) (store : Store) (done : List Row) : Prop where
  finishes : (messageScript call.ident call.message).Finishes call.faults.refuses
    (call.before.sent + 2) done
  given : call.ident < store.next call.message.table
  finds : ∀ query : Select, QueriesKind call.message.table query →
    query.messageIdent = call.ident →
      store.rows.filter (fun row => query.Matches row) = done.filter fun row => query.Matches row

/-- Later calls leave what a query on an earlier message finds. -/
theorem Insertion.Left.later {call : Insertion E} {done : List Row} (left : call.Left store done)
    {result : Store} {owner : Owner} (sound : store.Sound) (adds : AddsTo store owner result)
    (fresh : owner.ident = store.next owner.table) : call.Left result done := by
  refine ⟨left.finishes, Nat.lt_of_lt_of_le left.given (adds.next _), ?_⟩
  intro query queries isIdent
  rcases adds.committed with ⟨added, committed, ofOwner⟩
  have sameRows : result.rows = store.rows ++ added.map Entry.row := by
    rw [Store.rows, adds.idle, committed, Store.rows, sound.idle, List.map_append]
  have none : (added.map Entry.row).filter (fun row => query.Matches row) = [] := by
    apply List.filter_eq_nil_iff.mpr
    intro row present
    rcases List.mem_map.mp present with ⟨entry, isAdded, rfl⟩
    have isOther : owner ≠ ⟨call.message.table, query.messageIdent⟩ := by
      rintro rfl
      rw [isIdent] at fresh
      have same : call.ident = store.next call.message.table := fresh
      exact absurd left.given (Nat.not_lt.mpr same.ge)
    simpa using (ofOwner entry isAdded).2.1.not_matches queries.otherKind isOther
  rw [sameRows, List.filter_append, none, List.append_nil, left.finds query queries isIdent]

theorem left_of_succeeded (sound : store.Sound) {message : Message E} {faults : Faults}
    (succeeded : 0 ≤ ((classicInsert message).run (environment faults) store).1) :
    ∃ done, (⟨message, faults, store⟩ : Insertion E).Left
      ((classicInsert message).run (environment faults) store).2 done := by
  rcases classicInsert_inserts message sound succeeded with ⟨done, finishes, committed⟩
  have adds := classicInsert_addsTo faults message sound
  have idle := adds.idle
  refine ⟨done, finishes, ?_, ?_⟩
  · rcases adds.committed with ⟨added, same, ofOwner⟩
    rw [committed, List.append_cancel_left_eq] at same
    exact (ofOwner (ownEntry message store) (same ▸ .head _)).2.2
  · intro query queries isIdent
    have sameRows : ((classicInsert message).run (environment faults) store).2.rows =
        store.rows ++ messageRow (store.nextOwner message.table) message.cells :: done := by
      rw [Store.rows, idle, committed, Store.rows, sound.idle]
      simp [ownEntry, childEntry, Function.comp_def]
    have old : store.rows.filter (fun row => query.Matches row) = [] := by
      apply List.filter_eq_nil_iff.mpr
      intro row present
      simpa using sound.not_matches queries.otherKind isIdent present
    have own : ¬ query.Matches (messageRow (store.nextOwner message.table) message.cells) := by
      rintro ⟨table, _⟩
      exact queries.notOwn table.symm
    rw [sameRows, List.filter_append, old, List.nil_append,
      List.filter_cons_of_neg (by simpa using own)]

/-- Every call of a run has left the rows of its message. -/
theorem Built.left (built : Built store calls) : ∀ call ∈ calls, ∃ done, call.Left store done := by
  induction built with
  | empty next => exact fun call absent => absurd absent List.not_mem_nil
  | @insert store calls built message faults succeeded ih =>
      intro call present
      rcases List.mem_append.mp present with earlier | isLast
      · rcases ih call earlier with ⟨done, left⟩
        exact ⟨done, left.later built.sound (classicInsert_addsTo faults message built.sound) rfl⟩
      · rw [List.mem_singleton.mp isLast]
        exact left_of_succeeded built.sound succeeded

end Built

section Copies

/-- The processes of a message. -/
def Message.processes : Message E → List Process
  | .alert message => message.analyzers.filterMap Analyzer.process ++
      message.sources.filterMap Source.process ++ message.targets.filterMap Target.process
  | .heartbeat message => message.analyzers.filterMap Analyzer.process

/-- The alertidents of a tool alert. -/
def Message.toolAlertidents : Message E → List Alertident :=
  Message.ofAlert fun alert => alert.kind.toolAlertidents

/--
None of the message's lists is one that is written without the copy of its last element, and
the row of a tool alert without alertidents is not refused.
-/
structure Insertion.CopiesLast (call : Insertion E) : Prop where
  processes : ∀ process ∈ call.message.processes, process.args = [] ∧ process.envs = []
  alertidents : call.message.toolAlertidents = []
  original : ¬ (messageScript call.ident call.message).Replaces call.faults.refuses
    (call.before.sent + 2)

/-- The rows below each key of the message of a call are those of its list. -/
def Insertion.ListsIndexed (call : Insertion E) (store : Store) : Prop :=
  ∀ key : ListKey, key.kind = call.message.table →
    Indexed (store.rows.filter fun row => (key.select call.ident).Matches row)
      (call.message.listAt call.ident key)

omit [Librequiem E] in
theorem mem_processes_iff {message : Message E} {process : Process} :
    process ∈ message.processes ↔ ∃ holder : Holder, holder.kind = message.table ∧
      ∃ index, message.processAt holder index = some process := by
  cases message with
  | heartbeat heartbeat =>
      rw [Message.processes, mem_filterMap_iff_atIndex]
      constructor
      · rintro ⟨index, found⟩
        exact ⟨.analyzer .heartbeat, rfl, index, found⟩
      · rintro ⟨holder, sameKind, index, found⟩
        cases holder with
        | analyzer kind =>
            cases sameKind
            exact ⟨index, found⟩
        | source => exact nomatch sameKind
        | target => exact nomatch sameKind
  | alert alert =>
      simp only [Message.processes, List.mem_append, mem_filterMap_iff_atIndex]
      constructor
      · rintro ((⟨index, found⟩ | ⟨index, found⟩) | ⟨index, found⟩)
        · exact ⟨.analyzer .alert, rfl, index, found⟩
        · exact ⟨.source, rfl, index, found⟩
        · exact ⟨.target, rfl, index, found⟩
      · rintro ⟨holder, sameKind, index, found⟩
        cases holder with
        | analyzer kind =>
            cases sameKind
            exact .inl (.inl ⟨index, found⟩)
        | source => exact .inl (.inr ⟨index, found⟩)
        | target => exact .inr ⟨index, found⟩

theorem asRows_eq_nil_iff {row : Int → α → Row} {elements : List α} :
    asRows row elements = [] ↔ elements = [] :=
  List.map_eq_nil_iff

/-- The lists without a copy are empty exactly when the message has no such strings. -/
theorem uncopied_empty_iff (message : Message E) (ident : Nat) :
    (∀ key : ListKey, key.kind = message.table → key.copied = true ∨
        message.listAt ident key = []) ↔
      (∀ process ∈ message.processes, process.args = [] ∧ process.envs = []) ∧
        message.toolAlertidents = [] := by
  constructor
  · intro empty
    refine ⟨fun process present => ?_, ?_⟩
    · rcases mem_processes_iff.mp present with ⟨holder, sameKind, index, found⟩
      have args : (message.processAt holder index).elim [] Process.args = [] :=
        asRows_eq_nil_iff.mp
          ((empty (.processArgs holder index) sameKind).resolve_left Bool.false_ne_true)
      have envs : (message.processAt holder index).elim [] Process.envs = [] :=
        asRows_eq_nil_iff.mp
          ((empty (.processEnvs holder index) sameKind).resolve_left Bool.false_ne_true)
      rw [found] at args envs
      exact ⟨args, envs⟩
    · cases message with
      | heartbeat heartbeat => rfl
      | alert alert =>
          have alertidents := (empty .toolAlertidents rfl).resolve_left Bool.false_ne_true
          rwa [Message.listAt, asRows_eq_nil_iff] at alertidents
  · rintro ⟨processes, alertidents⟩ key sameKind
    cases key with
    | toolAlertidents => exact .inr (asRows_eq_nil_iff.mpr alertidents)
    | processArgs holder index =>
        right
        rw [Message.listAt, asRows_eq_nil_iff]
        cases found : message.processAt holder index with
        | none => rfl
        | some process =>
            exact (processes process (mem_processes_iff.mpr ⟨holder, sameKind, index, found⟩)).1
    | processEnvs holder index =>
        right
        rw [Message.listAt, asRows_eq_nil_iff]
        cases found : message.processAt holder index with
        | none => rfl
        | some process =>
            exact (processes process (mem_processes_iff.mpr ⟨holder, sameKind, index, found⟩)).2
    | _ => exact .inl rfl

/--
Where no insertion is replaced, the rows below each key are those that the list is
written to.
-/
theorem Insertion.Left.rows_below {call : Insertion E} {store : Store} {done : List Row}
    (left : call.Left store done)
    (original : ¬ (messageScript call.ident call.message).Replaces call.faults.refuses
      (call.before.sent + 2))
    {key : ListKey} (sameKind : key.kind = call.message.table) :
    store.rows.filter (fun row => (key.select call.ident).Matches row) =
      written key.copied (call.message.listAt call.ident key) := by
  apply rows_below_key call.message key sameKind
  rintro query ⟨table, isIdent, _⟩
  have isAsked : (query.table, query.parentType) = key.asked := List.mem_singleton.mp table
  have askedTable : query.table = key.asked.1 := congrArg Prod.fst isAsked
  have askedLetter : query.parentType = key.asked.2 := congrArg Prod.snd isAsked
  have queries : QueriesKind call.message.table query := by
    have ofKey := key.queriesKind call.ident
    rw [sameKind] at ofKey
    refine ⟨?_, ?_⟩
    · rw [askedTable]
      exact ofKey.notOwn
    · rw [Select.Avoids, askedTable, askedLetter]
      exact ofKey.otherKind
  rw [left.finds query queries isIdent]
  apply left.finishes.filter _ original
  intro item present kept
  by_contra untested
  have inUntested := (allFit_messageScript _ _ item present).tested untested
  have sameTable : item.statement.table = key.asked.1 :=
    (of_decide_eq_true kept).1.trans askedTable
  rw [sameTable] at inUntested
  exact key.tested inUntested

/-- A replaced insertion leaves an alertident where the list has none. -/
theorem Insertion.Left.not_listsIndexed {call : Insertion E} {store : Store} {done : List Row}
    (left : call.Left store done)
    (replaces : (messageScript call.ident call.message).Replaces call.faults.refuses
      (call.before.sent + 2)) : ¬ call.ListsIndexed store := by
  intro indexed
  rcases left.finishes.mem_of_replaces replaces with ⟨item, present, other, isDone, isReplaced⟩
  rcases replaced_of_messageScript present isReplaced with ⟨isAlert, empty, rfl⟩
  have noRow := (indexed .toolAlertidents isAlert.symm).empty empty
  have queries := ListKey.toolAlertidents.queriesKind call.ident
  rw [show ListKey.toolAlertidents.kind = call.message.table from isAlert.symm] at queries
  rw [left.finds _ queries rfl, List.filter_eq_nil_iff] at noRow
  refine noRow _ isDone (decide_eq_true ?_)
  exact ListKey.select_matches rfl rfl rfl rfl

/-- The lists of a call are indexed exactly when it writes each with its copy. -/
theorem Insertion.Left.indexed_iff {call : Insertion E} {store : Store} {done : List Row}
    (left : call.Left store done) : call.ListsIndexed store ↔ call.CopiesLast := by
  by_cases replaces : (messageScript call.ident call.message).Replaces call.faults.refuses
      (call.before.sent + 2)
  · exact iff_of_false (left.not_listsIndexed replaces) fun copies => copies.original replaces
  · have eachKey : call.ListsIndexed store ↔ ∀ key : ListKey, key.kind = call.message.table →
        key.copied = true ∨ call.message.listAt call.ident key = [] := by
      refine forall₂_congr fun key sameKind => ?_
      rw [left.rows_below replaces sameKind]
      exact indexed_written_iff (numbered_listAt call.message call.ident key) key.copied
    rw [eachKey, uncopied_empty_iff]
    constructor
    · rintro ⟨processes, alertidents⟩
      exact ⟨processes, alertidents, replaces⟩
    · exact fun copies => ⟨copies.processes, copies.alertidents⟩

/--
In a database that successful calls have built, the rows of every list of every message have the
indexes of its elements, and the last one's again under -1, exactly when each call writes its
lists with that copy: no process has an argument or an environment string, no tool alert has an
alertident, and no row of a tool alert without alertidents is refused.
-/
theorem listsIndexed_iff {store : Store} {calls : List (Insertion E)} (built : Built store calls) :
    (∀ call ∈ calls, call.ListsIndexed store) ↔ ∀ call ∈ calls, call.CopiesLast := by
  refine forall₂_congr fun call present => ?_
  rcases built.left call present with ⟨done, left⟩
  exact left.indexed_iff

/-- An alert from a source whose process was called with one argument. -/
def called : Message TextEnum :=
  .alert { Alert.bare TextEnum with
    sources := [{ ident := none, spoofed := "unknown", interface := none, node := none
                  user := none
                  process := some { ident := none, name := some "sshd", pid := some 7, path := none
                                    args := ["-v"], envs := [] }
                  service := none }] }

/-- The call that inserts it into a database without rows. -/
def calledInsertion : Insertion TextEnum := ⟨called, noFaults, Store.empty⟩

theorem built_called :
    Built ((classicInsert called).run (environment noFaults) Store.empty).2 [calledInsertion] :=
  .insert (.empty fun _ => 1) called noFaults (classicInsert_commits_all called Store.empty rfl).1

theorem listsIndexed_iff_called :
    (∀ call ∈ [calledInsertion],
        call.ListsIndexed ((classicInsert called).run (environment noFaults) Store.empty).2) ↔
      ∀ call ∈ [calledInsertion], call.CopiesLast :=
  listsIndexed_iff built_called

/-- Its argument has no row under index -1. -/
theorem called_not_listsIndexed :
    ¬ ∀ (store : Store) (calls : List (Insertion TextEnum)), Built store calls →
      ∀ call ∈ calls, call.ListsIndexed store := by
  intro always
  have indexed := always _ _ built_called calledInsertion (.head _)
  rcases built_called.left calledInsertion (.head _) with ⟨done, left⟩
  have copies := left.indexed_iff.mp indexed
  have process := copies.processes _ (.head _)
  exact absurd process.1 (by decide)

end Copies

end RequiemDB
