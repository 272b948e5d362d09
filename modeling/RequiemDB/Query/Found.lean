import RequiemDB.Classic.ArchiveReading
import RequiemDB.Query.Search

/-!
# What a query finds

The condition of a query selects the rows of its join that the criteria hold of. A listing
therefore names the messages that have such a choice of elements, and a query for values has a
row for each of these choices. Calls that file and delete other messages leave a listing's
answer about a message as it is.
-/

namespace RequiemDB

open Lib

namespace Request

/-- The criteria of a call. -/
def criteria : Request Criterion → Option (Criteria Criterion)
  | .values _ criteria _ _ _ | .idents _ criteria _ _ _ => criteria

/-- The paths with columns in the field list: those selected, or the time that idents go by. -/
def selected : Request Criterion → List SelectedPath
  | .values selection _ _ _ _ => selection
  | .idents messageType _ _ _ order =>
      order.toList.map fun order => ⟨createTimePath messageType, orderFlags order⟩

/-- What the field list starts with. -/
def opening : Request Criterion → SqlSelect
  | .values .. => .new
  | .idents .. => identSelect

/-- All paths that are resolved, in their order. -/
def searchPaths (request : Request Criterion) : List IdmefPath :=
  request.selected.map SelectedPath.path ++ optionalPaths request.criteria

/-- The join that a call starts with. -/
def start (request : Request Criterion) : Join :=
  { Join.new with topClass := request.requested.head? }

/-- The kind of message that a call is about; heartbeats where no path uses a joined table. -/
def kind (request : Request Criterion) : MessageTable :=
  request.joinedClasses.headD .heartbeat

/-- The tokens of the condition of the query, none without criteria. -/
def tokens (dialect : SqlDialect) (request : Request Criterion) :
    Except ErrorCode (Option ConditionText) := do
  let (join, _) ← classicPathResolveSelection request.selected request.start request.opening
  match request.criteria with
  | none => .ok none
  | some criteria => do
      let (tokens, _) ← criteriaTokens dialect criteria join
      .ok (some tokens)

end Request

section Calls

variable {E : EnumKind → Type} [Librequiem E] {dialect : SqlDialect}
  {limitOffset : Int → Int → Except ErrorCode String} {request : Request Criterion}
  {query : SqlQuery}

/-- The condition of a query and its join, from the join of the selected paths. -/
def Conditioned (dialect : SqlDialect) (criteria : Option (Criteria Criterion)) (join : Join)
    (query : SqlQuery) : Prop :=
  match criteria with
  | none => query.condition = none ∧ query.join = join
  | some criteria => ∃ tokens, criteriaTokens dialect criteria join = .ok (tokens, query.join) ∧
      query.condition = some (conditionText tokens)

theorem finishQuery_ok {distinct : Bool} {criteria : Option (Criteria Criterion)}
    {limit offset : Int} {join : Join} {select : SqlSelect}
    (finished : finishQuery ⟨criterionText dialect, limitOffset⟩ distinct criteria limit offset
      join select = .ok query) :
    query.select = select ∧ Conditioned dialect criteria join query := by
  rw [finishQuery] at finished
  rcases ok_of_bind finished with ⟨⟨condition, joined⟩, isCondition, finished⟩
  rcases ok_of_bind finished with ⟨modifiers, _, finished⟩
  cases finished
  refine ⟨rfl, ?_⟩
  cases criteria with
  | none =>
      cases isCondition
      exact ⟨rfl, rfl⟩
  | some criteria =>
      rcases ok_of_bind isCondition with ⟨⟨characters, joinedTo⟩, isText, result⟩
      cases result
      rw [classicPathResolveCriteria_eq] at isText
      cases isTokens : criteriaTokens dialect criteria join with
      | error error =>
          rw [isTokens] at isText
          exact absurd isText (by simp [Except.map])
      | ok resolved =>
          rw [isTokens] at isText
          cases isText
          exact ⟨resolved.1, isTokens, rfl⟩

/-- Both functions resolve their selected paths, and then the criteria. -/
theorem query_ok (built : request.query ⟨criterionText dialect, limitOffset⟩ = .ok query) :
    ∃ join, classicPathResolveSelection request.selected request.start request.opening =
      .ok (join, query.select) ∧ Conditioned dialect request.criteria join query := by
  cases request with
  | values selection criteria distinct limit offset =>
      rcases ok_of_bind built with ⟨⟨join, select⟩, isSelection, finished⟩
      rcases finishQuery_ok finished with ⟨rfl, conditioned⟩
      exact ⟨join, isSelection, conditioned⟩
  | idents messageType criteria limit offset order =>
      rcases ok_of_bind built with ⟨⟨join, select⟩, isOrdered, finished⟩
      rcases finishQuery_ok finished with ⟨rfl, conditioned⟩
      refine ⟨join, ?_, conditioned⟩
      cases order with
      | none => exact isOrdered
      | some order =>
          have isSelected : classicPathResolveSelected ⟨createTimePath messageType,
            orderFlags order⟩ (Join.new.setTopClass messageType) identSelect =
              .ok (join, query.select) := isOrdered
          rw [Request.selected, Option.toList_some, List.map_singleton, Request.start,
            classicPathResolveSelection]
          exact congrArg (· >>= fun result => Except.ok result) isSelected

theorem resolved_of_query
    (built : request.query ⟨criterionText dialect, limitOffset⟩ = .ok query) :
    ∃ resolved, resolvePaths (request.selected.map (fun selected =>
        (selected.path, selected.context)) ++ (optionalPaths request.criteria).map (·, .where_))
        request.start = .ok (resolved, query.join) ∧
      resolved.map Prod.fst = request.searchPaths := by
  rcases query_ok built with ⟨join, isSelection, conditioned⟩
  rcases resolvePaths_of_selection isSelection with ⟨first, isFirst⟩
  have behind : ∃ second, resolvePaths ((optionalPaths request.criteria).map (·, .where_)) join =
      .ok (second, query.join) := by
    cases isCriteria : request.criteria with
    | none =>
        rw [isCriteria] at conditioned
        rcases conditioned with ⟨_, isJoin⟩
        rw [isJoin]
        exact ⟨[], rfl⟩
    | some criteria =>
        rw [isCriteria] at conditioned
        rcases conditioned with ⟨tokens, isTokens, _⟩
        rw [optionalPaths]
        exact resolvePaths_of_criteria criteria isTokens
  rcases behind with ⟨second, isSecond⟩
  have resolves := resolvePaths_append isFirst isSecond
  refine ⟨_, resolves, ?_⟩
  rw [resolvePaths_fst resolves, Request.searchPaths]
  simp [Function.comp_def]

/-- The class that the join of a call settles is the kind of the call. -/
theorem Request.kind_eq (request : Request Criterion) :
    (settled request.requested.head? (request.searchPaths.flatMap IdmefPath.joined)).getD
      .heartbeat = request.kind := by
  cases request with
  | values selection criteria distinct limit offset =>
      rw [Request.kind, List.headD_eq_head?_getD]
      rfl
  | idents messageType criteria limit offset order => rfl

/-- What a call needs of its paths and criteria, and of a server and an archive to answer it. -/
structure SearchServer.CanAnswer (server : SearchServer dialect.backend)
    (archive : MessageArchive E) (request : Request Criterion) : Prop where
  searched : ∀ path ∈ request.searchPaths, path.Searched
  shared : SharedWell request.requested.head? request.searchPaths
  apart : ∀ entry ∈ archive.entries, ∀ path ∈ request.searchPaths, entry.2.Apart path
  timesSet : optionalTimesSet request.criteria
  reads : ∀ tokens, request.tokens dialect = .ok (some tokens) → server.Reads tokens

/-- A message that a call asks for, and what the paths of the call take from it. -/
structure SearchServer.Matches (server : SearchServer dialect.backend)
    (archive : MessageArchive E) (request : Request Criterion) (ident : Nat)
    (message : Message E) (pick : IdmefPath → Option Row) : Prop where
  filed : (ident, message) ∈ archive.entries
  kind : message.table = request.kind
  choice : Choice request.searchPaths ident message pick
  satisfies : server.Satisfies pick request.criteria

variable {server : SearchServer dialect.backend} {archive : MessageArchive E} {store : Store}

omit [Librequiem E] in
theorem SearchServer.CanAnswer.answerable (can : server.CanAnswer archive request)
    {resolved : List (IdmefPath × List FieldName)} {steps : List (IdmefPath × FieldContext)}
    (resolves : resolvePaths steps request.start = .ok (resolved, query.join))
    (paths : resolved.map Prod.fst = request.searchPaths) :
    Answerable archive request.requested.head? resolved query.join where
  grown := (joinOf_new request.requested.head?).run resolves
  added := by
    intro table present
    rcases path_of_joined resolves present with absent | added
    · exact absurd absent List.not_mem_nil
    · rw [resolvePaths_fst resolves]
      exact added
  shared := by
    rw [paths]
    exact can.shared
  searched := by
    rw [paths]
    exact can.searched
  apart := by
    rw [paths]
    exact can.apart

omit [Librequiem E] in
/-- The condition selects a row of the join if the criteria hold of what the aliases stand for. -/
theorem selects_iff (can : server.CanAnswer archive request)
    (built : request.query ⟨criterionText dialect, limitOffset⟩ = .ok query)
    (joined : JoinedRow) :
    server.listing.Selects query.condition joined ↔
      server.Satisfies (fun path => joined.row (query.join.aliasOf path)) request.criteria := by
  rcases query_ok built with ⟨join, isSelection, conditioned⟩
  have set := can.timesSet
  cases isCriteria : request.criteria with
  | none =>
      rw [isCriteria] at conditioned
      rcases conditioned with ⟨noCondition, _⟩
      rw [noCondition]
      exact iff_of_true (by simp [ListingServer.Selects]) (by simp [SearchServer.Satisfies])
  | some criteria =>
      rw [isCriteria] at conditioned set
      rcases conditioned with ⟨tokens, isTokens, isText⟩
      have ofRequest : request.tokens dialect = .ok (some tokens) := by
        rw [Request.tokens, isSelection]
        simp only [bind, Except.bind, isCriteria, isTokens]
      have value := ownValue_criteria (readsOwn_judges server query.join joined) set isTokens
      rw [isText, ListingServer.Selects, SearchServer.Satisfies]
      simp only [Option.mem_def, Option.some.injEq, forall_eq']
      rw [can.reads tokens ofRequest joined, value, Option.some.injEq]

omit [Librequiem E] in
/-- Criteria judge what is picked for their own paths, and nothing else. -/
theorem satisfies_congr {pick other : IdmefPath → Option Row}
    {criteria : Option (Criteria Criterion)}
    (same : ∀ path ∈ optionalPaths criteria, pick path = other path) :
    server.Satisfies pick criteria ↔ server.Satisfies other criteria := by
  cases criteria with
  | none => exact iff_of_true (by simp [SearchServer.Satisfies]) (by simp [SearchServer.Satisfies])
  | some criteria =>
      have judged : ∀ path ∈ criteria.paths,
          server.judges pick path = server.judges other path := by
        intro path present
        funext criterion
        rw [optionalPaths] at same
        simp only [SearchServer.judges, SearchServer.cells, same path present]
      simp only [SearchServer.Satisfies, Option.mem_def, Option.some.injEq, forall_eq']
      rw [Criteria.truth_congr criteria judged]

/-- A selected row of the join shows a message that the call asks for. -/
theorem matches_of_yields (holds : Holds store archive) (can : server.CanAnswer archive request)
    (built : request.query ⟨criterionText dialect, limitOffset⟩ = .ok query) {joined : JoinedRow}
    (yields : query.join.Yields store.rows joined)
    (selects : server.listing.Selects query.condition joined) :
    ∃ ident message, joined.top = ownRow ident message ∧
      server.Matches archive request ident message fun path =>
        joined.row (query.join.aliasOf path) := by
  rcases resolved_of_query built with ⟨resolved, resolves, paths⟩
  have answerable := can.answerable resolves paths
  rcases (holds.mem_top_iff query.join).mp yields.top with ⟨ident, message, filed, kind, isTop⟩
  have choice := answerable.choice_of_yields holds yields filed kind isTop
  rw [answerable.grown.topClass, paths, request.kind_eq] at kind
  rw [paths] at choice
  exact ⟨ident, message, isTop, filed, kind, choice, (selects_iff can built joined).mp selects⟩

/-- A message that the call asks for is in a selected row of the join. -/
theorem yields_of_matches (holds : Holds store archive) (can : server.CanAnswer archive request)
    (built : request.query ⟨criterionText dialect, limitOffset⟩ = .ok query) {ident : Nat}
    {message : Message E} {pick : IdmefPath → Option Row}
    (isMatch : server.Matches archive request ident message pick) :
    ∃ joined, query.join.Yields store.rows joined ∧
      server.listing.Selects query.condition joined ∧ joined.top = ownRow ident message ∧
      ∀ path ∈ request.searchPaths, joined.row (query.join.aliasOf path) = pick path := by
  rcases resolved_of_query built with ⟨resolved, resolves, paths⟩
  have answerable := can.answerable resolves paths
  have kind := isMatch.kind
  have choice := isMatch.choice
  rw [← request.kind_eq, ← paths, ← answerable.grown.topClass] at kind
  rw [← paths] at choice
  rcases answerable.yields_of_choice holds isMatch.filed kind choice with
    ⟨joined, yields, isTop, picked⟩
  rw [paths] at picked
  refine ⟨joined, yields, (selects_iff can built joined).mpr ?_, isTop, picked⟩
  refine (satisfies_congr fun path present => ?_).mpr isMatch.satisfies
  exact picked path (List.mem_append_right _ present)

/-- The field list of a query, by the aliases of its selected paths. -/
theorem fields_of_query (built : request.query ⟨criterionText dialect, limitOffset⟩ = .ok query) :
    query.select.fields = request.opening.fields ++ request.selected.flatMap fun selected =>
      selected.expressions (query.join.aliasOf selected.path) := by
  rcases query_ok built with ⟨join, isSelection, conditioned⟩
  refine fields_of_selection isSelection ?_
  cases isCriteria : request.criteria with
  | none =>
      rw [isCriteria] at conditioned
      rcases conditioned with ⟨_, isJoin⟩
      rw [isJoin]
  | some criteria =>
      rw [isCriteria] at conditioned
      rcases conditioned with ⟨tokens, isTokens, _⟩
      exact criteriaTokens_tables isTokens

omit [Librequiem E] in
/-- The idents of an answer are those of the selected rows of the join. -/
theorem mem_identsOf_iff {messageType : MessageTable} {criteria : Option (Criteria Criterion)}
    {limit offset : Int} {order : Option Direction}
    (built : getMessageIdents ⟨criterionText dialect, limitOffset⟩ messageType criteria limit offset
      order = .ok query) {rows : List Row} {answer : List (List (Option Cell))}
    (answers : server.listing.Answers rows query answer) (ident : Nat) :
    ident ∈ identsOf answer ↔ ∃ joined, query.join.Yields rows joined ∧
      server.listing.Selects query.condition joined ∧ joined.top.messageIdent = ident := by
  have asked : (Request.idents messageType criteria limit offset order).query
      ⟨criterionText dialect, limitOffset⟩ = .ok query := built
  have fields := fields_of_query asked
  have isIdent : ∀ joined, identOf (query.select.fields.map (server.listing.value joined)) =
      some joined.top.messageIdent := by
    intro joined
    rw [fields]
    rfl
  rw [identsOf, List.mem_filterMap]
  constructor
  · rintro ⟨tuple, present, named⟩
    rcases (answers.listing.mem_iff tuple).mp present with ⟨joined, yields, selects, rfl⟩
    rw [isIdent, Option.some.injEq] at named
    exact ⟨joined, yields, selects, named⟩
  · rintro ⟨joined, yields, selects, named⟩
    refine ⟨_, (answers.listing.mem_iff _).mpr ⟨joined, yields, selects, rfl⟩, ?_⟩
    rw [isIdent, named]

/-- The messages in the selected rows of the join are those that the call asks for. -/
theorem selected_iff_matches (holds : Holds store archive) (can : server.CanAnswer archive request)
    (built : request.query ⟨criterionText dialect, limitOffset⟩ = .ok query) (ident : Nat) :
    (∃ joined, query.join.Yields store.rows joined ∧
      server.listing.Selects query.condition joined ∧ joined.top.messageIdent = ident) ↔
        ∃ message pick, server.Matches archive request ident message pick := by
  constructor
  · rintro ⟨joined, yields, selects, named⟩
    rcases matches_of_yields holds can built yields selects with ⟨found, message, isTop, isMatch⟩
    rw [isTop] at named
    obtain rfl : found = ident := named
    exact ⟨message, _, isMatch⟩
  · rintro ⟨message, pick, isMatch⟩
    rcases yields_of_matches holds can built isMatch with ⟨joined, yields, selects, isTop, _⟩
    refine ⟨joined, yields, selects, ?_⟩
    rw [isTop]
    rfl

/--
An answer to the query for idents lists the messages of the kind for which the criteria hold of
some choice of their elements, and no other.
-/
theorem listing_finds_matching (holds : Holds store archive) {messageType : MessageTable}
    {criteria : Option (Criteria Criterion)} {limit offset : Int} {order : Option Direction}
    (built : getMessageIdents ⟨criterionText dialect, limitOffset⟩ messageType criteria limit offset
      order = .ok query)
    (can : server.CanAnswer archive (.idents messageType criteria limit offset order))
    {answer : List (List (Option Cell))}
    (answers : server.listing.Answers store.rows query answer) (ident : Nat) :
    ident ∈ identsOf answer ↔ ∃ message pick,
      server.Matches archive (.idents messageType criteria limit offset order) ident message
        pick :=
  (mem_identsOf_iff built answers ident).trans (selected_iff_matches holds can built ident)

omit [Librequiem E] in
/-- The columns of a selected path have the cells of the row behind its alias. -/
theorem value_expressions {selected : SelectedPath} (plain : selected.flags.functions = [])
    (joined : JoinedRow) (join : Join) :
    (selected.expressions (join.aliasOf selected.path)).map (server.listing.value joined) =
      (server.cells .select (fun path => joined.row (join.aliasOf path)) selected.path).map
        some := by
  have noFunction : selected.flags.function = none := by
    rw [SelectedFlags.function, plain]
    rfl
  rw [SelectedPath.expressions, noFunction, SelectedPath.context, if_pos plain,
    IdmefPath.fields_inTable, SearchServer.cells]
  simp only [List.map_map]
  refine List.map_congr_left fun field _ => ?_
  cases field <;> rfl

/--
The query for values, before `DISTINCT` and the modifiers, has a row for every choice of
elements that the criteria hold of, with the cells of the selected paths, and no other row.
-/
theorem row_iff_matches (holds : Holds store archive) {selection : List SelectedPath}
    {criteria : Option (Criteria Criterion)} {distinct : Bool} {limit offset : Int}
    (built : classicGetValues ⟨criterionText dialect, limitOffset⟩ selection criteria distinct
      limit offset = .ok query)
    (can : server.CanAnswer archive (.values selection criteria distinct limit offset))
    (plain : ∀ selected ∈ selection, selected.flags.functions = [])
    (tuple : List (Option Cell)) :
    server.listing.Row store.rows query tuple ↔ ∃ ident message pick,
      server.Matches archive (.values selection criteria distinct limit offset) ident message
        pick ∧
      tuple = selection.flatMap fun selected =>
        (server.cells .select pick selected.path).map some := by
  have asked : (Request.values selection criteria distinct limit offset).query
      ⟨criterionText dialect, limitOffset⟩ = .ok query := built
  have fields := fields_of_query asked
  have values : ∀ joined, query.select.fields.map (server.listing.value joined) =
      selection.flatMap fun selected => (server.cells .select
        (fun path => joined.row (query.join.aliasOf path)) selected.path).map some := by
    intro joined
    rw [fields, List.map_append, List.map_flatMap]
    exact List.flatMap_congr fun selected present =>
      value_expressions (plain selected present) joined query.join
  rw [ListingServer.Row]
  constructor
  · rintro ⟨joined, yields, selects, rfl⟩
    rcases matches_of_yields holds can built yields selects with ⟨ident, message, _, isMatch⟩
    exact ⟨ident, message, _, isMatch, values joined⟩
  · rintro ⟨ident, message, pick, isMatch, rfl⟩
    rcases yields_of_matches holds can built isMatch with ⟨joined, yields, selects, _, picked⟩
    refine ⟨joined, yields, selects, ?_⟩
    rw [values]
    refine List.flatMap_congr fun selected present => ?_
    have inPaths : selected.path ∈ Request.searchPaths
        (.values selection criteria distinct limit offset) :=
      List.mem_append_left _ (List.mem_map_of_mem present)
    simp only [SearchServer.cells, picked _ inPaths]

/-- Between a number given out and its discarding, the same messages are asked for under it. -/
theorem matches_after_iff {after : MessageArchive E}
    {history : List (Archive.Request MessageTable (Message E) × Bool)}
    (run : Archive.Run archive history after) {ident : Nat}
    (isGiven : ident < archive.next request.kind) :
    (∃ message pick, server.Matches after request ident message pick) ↔
      (∃ message pick, server.Matches archive request ident message pick) ∧
        ¬ Archive.Discarded request.kind ident history := by
  have found := run.find_eq isGiven
  constructor
  · rintro ⟨message, pick, isMatch⟩
    rw [after.find_eq_some_iff.mpr ⟨isMatch.kind, isMatch.filed⟩] at found
    split at found
    · exact absurd found (by simp)
    · next kept =>
        have filed := (archive.find_eq_some_iff.mp found.symm).2
        exact ⟨⟨message, pick, filed, isMatch.kind, isMatch.choice, isMatch.satisfies⟩, kept⟩
  · rintro ⟨⟨message, pick, isMatch⟩, kept⟩
    rw [if_neg kept, archive.find_eq_some_iff.mpr ⟨isMatch.kind, isMatch.filed⟩] at found
    have filed := (after.find_eq_some_iff.mp found).2
    exact ⟨message, pick, filed, isMatch.kind, isMatch.choice, isMatch.satisfies⟩

omit [Librequiem E] in
/-- Messages that are filed have to be answerable, too. -/
theorem SearchServer.CanAnswer.after (can : server.CanAnswer archive request)
    {after : MessageArchive E} {history : List (Archive.Request MessageTable (Message E) × Bool)}
    (run : Archive.Run archive history after)
    (apart : ∀ message, (Archive.Request.file message, true) ∈ history →
      ∀ path ∈ request.searchPaths, message.Apart path) :
    server.CanAnswer after request :=
  { can with
    apart := by
      intro entry present
      rcases run.mem_entries present with before | filed
      · exact can.apart entry before
      · exact apart entry.2 filed }

/-- The idents in the table of a kind are those of the messages of the archive. -/
theorem Holds.mem_idents (holds : Holds store archive) {kind : MessageTable} {ident : Nat} :
    ident ∈ store.idents kind ↔
      ∃ message, (ident, message) ∈ archive.entries ∧ message.table = kind := by
  rw [holds.idents]
  simp

/--
Whatever calls are made between two listings, the second one has the ident of a message that was
there before them exactly if the first one has it and none of the calls deleted it; any other
ident that it has is that of a message which one of the calls inserted and which the criteria
hold of.
-/
theorem listing_after_calls (holds : Holds store archive) (counting : Counting)
    (calls : List (Call E × Faults)) (noticed : ∀ call ∈ calls, call.2.Noticed)
    {messageType : MessageTable} {criteria : Option (Criteria Criterion)} {limit offset : Int}
    {order : Option Direction}
    (built : getMessageIdents ⟨criterionText dialect, limitOffset⟩ messageType criteria limit offset
      order = .ok query)
    (can : server.CanAnswer archive (.idents messageType criteria limit offset order))
    (apart : ∀ message, (Archive.Request.file message, true) ∈
        history calls (serveCalls counting calls store).1 →
      ∀ path ∈ (Request.idents messageType criteria limit offset order).searchPaths,
        message.Apart path)
    {before later : List (List (Option Cell))}
    (answersBefore : server.listing.Answers store.rows query before)
    (answersLater : server.listing.Answers (serveCalls counting calls store).2.rows query later)
    (ident : Nat) :
    (ident ∈ store.idents messageType → (ident ∈ identsOf later ↔ ident ∈ identsOf before ∧
      ¬ Archive.Discarded messageType ident (history calls (serveCalls counting calls store).1))) ∧
    (ident ∈ identsOf later → ident ∉ store.idents messageType → ∃ message pick,
      (Archive.Request.file message, true) ∈ history calls (serveCalls counting calls store).1 ∧
      message.table = messageType ∧
      Choice (Request.idents messageType criteria limit offset order).searchPaths ident message
        pick ∧
      server.Satisfies pick criteria) := by
  rcases holds.serveCalls counting calls noticed with ⟨after, run, holdsAfter⟩
  have canAfter := can.after run apart
  have inLater := (mem_identsOf_iff built answersLater ident).trans
    (selected_iff_matches holdsAfter canAfter built ident)
  have inBefore := (mem_identsOf_iff built answersBefore ident).trans
    (selected_iff_matches holds can built ident)
  rw [inLater, inBefore]
  refine ⟨fun isStored => matches_after_iff run (holds.next ▸ holds.sound.given isStored), ?_⟩
  rintro ⟨message, pick, isMatch⟩ notStored
  have kind : message.table = messageType := isMatch.kind
  refine ⟨message, pick, ?_, kind, isMatch.choice, isMatch.satisfies⟩
  refine (run.mem_entries isMatch.filed).resolve_left fun present => notStored ?_
  exact holds.mem_idents.mpr ⟨message, present, kind⟩

end Calls

section Scans

/-- An alert that is classified as a scan. -/
def scanAlert : Alert TextEnum :=
  { Alert.bare TextEnum with
    classification := some { ident := none, text := some "scan", references := [] } }

/-- An archive in which the scan is the only message. -/
def scanArchive : MessageArchive TextEnum :=
  (MessageArchive.unfilled fun _ => 1).file (.alert scanAlert)

def scanStore : Store :=
  { Store.empty with
    committed := storedRows (1, Message.alert scanAlert)
    visible := storedRows (1, Message.alert scanAlert)
    next := scanArchive.next }

theorem holds_scan : Holds scanStore scanArchive :=
  ⟨rfl, (List.append_nil _).symm, rfl⟩

/-- `alert.classification.text` -/
def textPath : IdmefPath where
  top := .alert
  below := [⟨"classification", .forbidden, .cls .classification⟩,
    ⟨"text", .forbidden, .value .string⟩]
  notEmpty := by decide
  follows := by decide

def quotingDialect : SqlDialect where
  backend := .mysql
  escape text := .ok ("'" ++ text ++ "'")
  emptyReleased := none

/-- `alert.classification.text == 'scan'` -/
def scanCriteria : Criteria Criterion :=
  .node textPath ⟨⟨.equal, false, false⟩, .value (.string "scan")⟩ none none

def scanTokens : ConditionText := [.atom (.fixed "t0.text" "= BINARY" (.escaped "'scan'"))]

def textColumns : ListingServer :=
  { plainServer with
    column := fun name =>
      [("text", Column.text), ("time", .time), ("gmtoff", .gmtoff), ("usec", .usec)].lookup name
    time := rfl
    gmtoff := rfl
    usec := rfl }

/-- A server that compares texts, and reads the condition for scans. -/
def scanServer : SearchServer quotingDialect.backend where
  values :=
    { Value := String
      compare := fun relation _ value literal =>
        decide (relation = .equal ∧ literal = .escaped ("'" ++ value ++ "'"))
      lower := id
      lowerText := id
      instant := fun _ => 0
      accepts := fun _ => true }
  content
    | .text value => some value
    | _ => none
  listing :=
    { textColumns with
      selects := fun text joined => decide (text = conditionText scanTokens ∧
        textColumns.fieldValue joined (.column "t0" "text") = .text "scan") }

theorem quoted_scan {value : String} : "'scan'" = "'" ++ value ++ "'" ↔ value = "scan" := by
  constructor
  · intro same
    have characters := congrArg String.toList same
    rw [String.toList_append, String.toList_append] at characters
    have inner : "scan".toList ++ ['\''] = value.toList ++ ['\''] := (List.cons.inj characters).2
    exact (String.toList_injective (List.append_cancel_right inner)).symm
  · rintro rfl
    decide

theorem reads_scan : scanServer.Reads scanTokens := by
  intro joined
  have read : FieldName.read "t0.text" = .column "t0" "text" := by decide
  have own : ∀ assignment, ownValue assignment scanTokens =
      some (assignment (.fixed "t0.text" "= BINARY" (.escaped "'scan'"))) := fun _ => rfl
  have sameCell : scanServer.listing.fieldValue joined (.column "t0" "text") =
      textColumns.fieldValue joined (.column "t0" "text") := rfl
  rw [own]
  simp only [Comparison.field, SearchServer.fieldCell, read, sameCell]
  cases isCell : textColumns.fieldValue joined (.column "t0" "text") <;>
    simp [scanServer, isCell, SqlServer.truth, SqlServer.reads, SqlServer.relate,
      SqlServer.evaluates, quotingDialect, sqlOperator, mysqlOperator, SqlOperator.answer,
      quoted_scan, Truth.ofBool_eq_holds]

theorem can_scan {request : Request Criterion}
    (onlyText : ∀ path ∈ request.searchPaths, path = textPath)
    (isCriteria : request.criteria = some scanCriteria)
    (isTokens : request.tokens quotingDialect = .ok (some scanTokens)) :
    scanServer.CanAnswer scanArchive request where
  searched := by
    intro path present
    rw [onlyText path present]
    exact ⟨by decide, by decide, by decide⟩
  shared := by
    refine ⟨fun path present _ _ first isFirst => .inl ?_, fun path present plain => ?_⟩
    · have inPaths := (List.mem_filter.mp (List.mem_of_find?_eq_some isFirst)).1
      rw [onlyText first inPaths]
      decide
    · rw [onlyText path present] at plain
      exact absurd plain (by decide)
  apart := by
    intro entry filed path present
    obtain rfl : entry = (1, .alert scanAlert) := List.mem_singleton.mp filed
    rw [onlyText path present]
    intro target file access permission below
    exact absurd below (by simp [textPath])
  timesSet := by
    rw [isCriteria]
    exact ⟨fun _ => trivial, trivial, trivial⟩
  reads := by
    intro tokens ofRequest
    rw [isTokens, Except.ok.injEq, Option.some.injEq] at ofRequest
    rw [← ofRequest]
    exact reads_scan

/-- The query for the idents of scans. -/
def scanQuery : SqlQuery where
  distinct := false
  select := identSelect
  join := ⟨some .alert, [⟨textPath, "Requiem_Classification", 0, none, []⟩], 1⟩
  condition := some (conditionText scanTokens)
  limitOffset := ""

theorem built_scanQuery :
    getMessageIdents ⟨criterionText quotingDialect, fun _ _ => .ok ""⟩ .alert (some scanCriteria)
      (-1) (-1) none = .ok scanQuery := rfl

theorem exists_scan_answer (rows : List Row) :
    ∃ answer, scanServer.listing.Answers rows scanQuery answer := by
  have finite : ∀ tuple, scanServer.listing.Row rows scanQuery tuple →
      tuple ∈ rows.map fun row => [some (Cell.number row.messageIdent)] := by
    rintro _ ⟨joined, yields, _, rfl⟩
    exact List.mem_map.mpr ⟨joined.top, yields.top.1, rfl⟩
  have total : ∀ first second, scanServer.listing.Precedes [] first second ∨
      scanServer.listing.Precedes [] second first := fun _ _ => .inl trivial
  rcases Listing.exists_first total (fun _ _ _ _ _ => trivial) finite [] with
    ⟨answer, listing, _⟩
  exact ⟨answer, by decide, rfl, rfl, listing⟩

theorem listing_finds_matching_scan :
    ∃ answer, scanServer.listing.Answers scanStore.rows scanQuery answer ∧
      (1 ∈ identsOf answer ↔ ∃ message pick,
        scanServer.Matches scanArchive (.idents .alert (some scanCriteria) (-1) (-1) none) 1
          message pick) := by
  have can : scanServer.CanAnswer scanArchive
      (.idents .alert (some scanCriteria) (-1) (-1) none) :=
    can_scan (by decide) rfl rfl
  rcases exists_scan_answer scanStore.rows with ⟨answer, answers⟩
  exact ⟨answer, answers, listing_finds_matching holds_scan built_scanQuery can answers 1⟩

/-- A second scan is inserted, and the first one deleted. -/
def rescan : List (Call TextEnum × Faults) :=
  [(.insert (.alert scanAlert), noFaults), (.deleteAlert 1, noFaults)]

theorem filed_rescan {answers : List Int} {message : Message TextEnum}
    (filed : (Archive.Request.file message, true) ∈ history rescan answers) :
    message = .alert scanAlert := by
  rcases answers with _ | ⟨first, _ | ⟨second, others⟩⟩ <;>
    simp [history, rescan, Call.request] at filed
  · exact filed.1
  · exact filed.1

theorem listing_after_calls_rescan :
    ∃ before later, scanServer.listing.Answers scanStore.rows scanQuery before ∧
      scanServer.listing.Answers (serveCalls .goesOn rescan scanStore).2.rows scanQuery later ∧
      (1 ∈ identsOf later ↔ 1 ∈ identsOf before ∧
        ¬ Archive.Discarded .alert 1 (history rescan (serveCalls .goesOn rescan scanStore).1)) := by
  have can : scanServer.CanAnswer scanArchive
      (.idents .alert (some scanCriteria) (-1) (-1) none) :=
    can_scan (by decide) rfl rfl
  have noticed : ∀ call ∈ rescan, call.2.Noticed := by simp [rescan, Faults.Noticed, noFaults]
  rcases exists_scan_answer scanStore.rows with ⟨before, answersBefore⟩
  rcases exists_scan_answer (serveCalls .goesOn rescan scanStore).2.rows with ⟨later, answersLater⟩
  refine ⟨before, later, answersBefore, answersLater, ?_⟩
  refine (listing_after_calls holds_scan .goesOn rescan noticed built_scanQuery can ?_ answersBefore
    answersLater 1).1 (by decide)
  intro message filed path present
  have isText : path = textPath := List.mem_singleton.mp present
  rw [isText, filed_rescan filed]
  intro target file access permission below
  exact absurd below (by simp [textPath])

end Scans

end RequiemDB
