import RequiemDB.Query.Values

/-!
# The top table of a query

The class of a query is recorded and compared where a table is joined, and only
there. `Outcome` says what a function that resolves paths does to the recorded
class; it composes along the sequence of paths, and the criteria tree is one such
sequence.
-/

namespace RequiemDB

/-- The class recorded behind a sequence of joined paths, given the one before. -/
def settled (recorded : Option MessageTable) (classes : List MessageTable) :
    Option MessageTable :=
  recorded.or classes.head?

/-- No path of the sequence conflicts with the class that is recorded. -/
def Consistent (recorded : Option MessageTable) (classes : List MessageTable) : Prop :=
  ∀ top ∈ classes, settled recorded classes = some top

section Sequence

variable (recorded : Option MessageTable) (first second : List MessageTable)

@[simp]
theorem settled_nil : settled recorded [] = recorded := by simp [settled]

@[simp]
theorem consistent_nil : Consistent recorded [] := by simp [Consistent]

theorem settled_append :
    settled recorded (first ++ second) = settled (settled recorded first) second := by
  simp only [settled, List.head?_append, Option.or_assoc]

theorem settled_of_mem {top : MessageTable} (present : top ∈ first) :
    settled (settled recorded first) second = settled recorded first := by
  rcases first with _ | ⟨head, rest⟩
  · exact absurd present List.not_mem_nil
  · cases recorded <;> simp [settled]

theorem consistent_append :
    Consistent recorded (first ++ second) ↔
      Consistent recorded first ∧ Consistent (settled recorded first) second := by
  simp only [Consistent, settled_append, List.mem_append]
  constructor
  · intro consistent
    refine ⟨fun top present => ?_, fun top present => consistent top (.inr present)⟩
    rw [← settled_of_mem recorded first second present]
    exact consistent top (.inl present)
  · rintro ⟨inFirst, inSecond⟩ top (present | present)
    · rw [settled_of_mem recorded first second present]
      exact inFirst top present
    · exact inSecond top present

end Sequence

/-- Every joined table has the recorded class. -/
def Join.Recorded (join : Join) : Prop :=
  ∀ table ∈ join.tables, join.topClass = some table.path.top

/--
What a function that resolves paths of the given classes makes of a join: it succeeds
exactly when the classes are consistent and nothing else fails, and then the class they
settle is recorded.
-/
def Records {α : Type} (joinOf : α → Join) (join : Join) (classes : List MessageTable)
    (builds : Prop) : Except ErrorCode α → Prop
  | .ok result => Consistent join.topClass classes ∧ builds ∧
      (joinOf result).topClass = settled join.topClass classes ∧ (joinOf result).Recorded
  | .error _ => ¬ (Consistent join.topClass classes ∧ builds)

namespace Records

variable {α β : Type} {joinOf : α → Join} {laterJoin : β → Join} {join : Join}
  {classes laterClasses : List MessageTable} {builds laterBuilds : Prop}

theorem ok {result : α} (same : joinOf result = join) (wellRecorded : join.Recorded) :
    Records joinOf join [] True (.ok result) := by
  refine ⟨consistent_nil _, trivial, ?_, ?_⟩
  · rw [same, settled_nil]
  · rwa [same]

theorem andThen {first : Except ErrorCode α} {rest : α → Except ErrorCode β}
    (records : Records joinOf join classes builds first)
    (later : ∀ result, (joinOf result).Recorded →
      Records laterJoin (joinOf result) laterClasses laterBuilds (rest result)) :
    Records laterJoin join (classes ++ laterClasses) (builds ∧ laterBuilds) (first >>= rest) := by
  cases first with
  | error error =>
      intro both
      exact records ⟨((consistent_append ..).mp both.1).1, both.2.1⟩
  | ok result =>
      rcases records with ⟨consistent, built, settles, wellRecorded⟩
      have next := later result wellRecorded
      simp only [bind, Except.bind]
      cases last : rest result with
      | error error =>
          rw [last] at next
          intro both
          refine next ⟨?_, both.2.2⟩
          rw [settles]
          exact ((consistent_append ..).mp both.1).2
      | ok final =>
          rw [last] at next
          rcases next with ⟨consistentLater, builtLater, settlesLater, recordedLater⟩
          rw [settles] at consistentLater settlesLater
          refine ⟨(consistent_append ..).mpr ⟨consistent, consistentLater⟩, ⟨built, builtLater⟩,
            ?_, recordedLater⟩
          rw [settlesLater, settled_append]

/-- The same function, with its classes and its other reasons to fail written in another way. -/
theorem congr {result : Except ErrorCode α} {otherClasses : List MessageTable}
    {otherBuilds : Prop} (records : Records joinOf join classes builds result)
    (sameClasses : classes = otherClasses) (sameBuilds : builds ↔ otherBuilds) :
    Records joinOf join otherClasses otherBuilds result := by
  rw [← sameClasses]
  cases result with
  | error error => exact fun both => records ⟨both.1, sameBuilds.mpr both.2⟩
  | ok result => exact ⟨records.1, sameBuilds.mp records.2.1, records.2.2⟩

theorem map {first : Except ErrorCode α} (convert : α → β)
    (records : Records joinOf join classes builds first)
    (same : ∀ result, laterJoin (convert result) = joinOf result) :
    Records laterJoin join classes builds (first >>= fun result => .ok (convert result)) := by
  have both : Records laterJoin join (classes ++ []) (builds ∧ True)
      (first >>= fun result => .ok (convert result)) :=
    records.andThen fun result wellRecorded => ok (same result) wellRecorded
  exact both.congr (by simp) (by simp)

/-- A text that is written, or fails to be, without looking at the join. -/
theorem text {Text : Type} {written : Except ErrorCode Text} {convert : Text → α}
    (same : ∀ text, joinOf (convert text) = join) (wellRecorded : join.Recorded) :
    Records joinOf join [] (written.isOk = true)
      (written >>= fun text => .ok (convert text)) := by
  cases written with
  | error error => exact fun both => absurd both.2 (by simp [Except.isOk, Except.toBool])
  | ok text =>
      exact (ok (same text) wellRecorded).congr rfl (by simp [Except.isOk, Except.toBool])

end Records

section Paths

variable {path : IdmefPath} {join : Join}

/-- The classes that are recorded for a path: its own where it needs a joined table. -/
def IdmefPath.joined (path : IdmefPath) : List MessageTable :=
  if path.Plain then [] else [path.top]

/-- A table that is found has the class of the path; a new one is added under that class. -/
theorem records_joinedTable (path : IdmefPath) (wellRecorded : join.Recorded) :
    Records Prod.snd join [path.top] True (joinedTable path join) := by
  rw [joinedTable]
  cases lookup : classicSqlJoinLookupTable join path with
  | some table =>
      have shares : path.Shares table.path := by
        simpa using List.find?_some lookup
      have isTop : join.topClass = some path.top := by
        rw [wellRecorded table (List.mem_of_find?_eq_some lookup), shares.top]
      exact ⟨by simp [Consistent, settled, isTop], trivial, by simp [settled, isTop], wellRecorded⟩
  | none =>
      simp only [classicSqlJoinNewTable]
      by_cases conflict : join.topClass.getD path.top ≠ path.top
      · rw [if_pos conflict]
        rintro ⟨consistent, _⟩
        cases isTop : join.topClass <;> simp_all [Consistent, settled]
      · rw [if_neg conflict]
        rw [not_not] at conflict
        have settles : settled join.topClass [path.top] = some path.top := by
          cases isTop : join.topClass <;> simp_all [settled]
        refine ⟨by simp [Consistent, settles], trivial, settles.symm, ?_⟩
        intro table present
        rcases List.mem_append.mp present with old | new
        · have isTop := wellRecorded table old
          rw [isTop, Option.getD_some] at conflict
          rw [conflict]
        · simp [List.mem_singleton.mp new]

theorem records_classicPathResolve (path : IdmefPath) (context : FieldContext)
    (wellRecorded : join.Recorded) :
    Records Prod.snd join path.joined True (classicPathResolve path context join) := by
  rw [classicPathResolve, IdmefPath.joined]
  by_cases plain : path.Plain
  · rw [if_pos plain, if_pos plain]
    exact .ok rfl wellRecorded
  · rw [if_neg plain, if_neg plain]
    exact (records_joinedTable path wellRecorded).map _ fun _ => rfl

theorem records_classicPathResolveSelected (selected : SelectedPath) (select : SqlSelect)
    (wellRecorded : join.Recorded) :
    Records Prod.fst join selected.path.joined True
      (classicPathResolveSelected selected join select) :=
  (records_classicPathResolve selected.path _ wellRecorded).map _ fun _ => rfl

theorem records_classicPathResolveSelection (selection : List SelectedPath) (select : SqlSelect)
    (wellRecorded : join.Recorded) :
    Records Prod.fst join (selection.flatMap fun selected => selected.path.joined) True
      (classicPathResolveSelection selection join select) := by
  induction selection generalizing join select with
  | nil => exact .ok rfl wellRecorded
  | cons selected selection ih =>
      have both := (records_classicPathResolveSelected selected select wellRecorded).andThen
        fun result wellRecorded => ih result.2 wellRecorded
      exact both.congr rfl (by simp)

end Paths

section Criteria

variable {Criterion : Type} (build : Criterion → Except ErrorCode (List FieldName → String))

mutual

/-- The paths of a criteria tree in the order in which they are resolved. -/
def Criteria.paths : Criteria Criterion → List IdmefPath
  | .node path _ conjunct alternative =>
      path :: (optionalPaths conjunct ++ optionalPaths alternative)

def optionalPaths : Option (Criteria Criterion) → List IdmefPath
  | none => []
  | some criteria => criteria.paths

end

mutual

/-- Every criterion of the tree can be written. -/
def Criteria.Builds : Criteria Criterion → Prop
  | .node _ criterion conjunct alternative =>
      (build criterion).isOk = true ∧ OptionalBuilds conjunct ∧ OptionalBuilds alternative

def OptionalBuilds : Option (Criteria Criterion) → Prop
  | none => True
  | some criteria => criteria.Builds

end

theorem records_criterion (path : IdmefPath) (criterion : Criterion) {join : Join}
    (wellRecorded : join.Recorded) :
    Records Prod.snd join path.joined ((build criterion).isOk = true)
      (classicPathResolveCriterion build path criterion join) := by
  have both : Records Prod.snd join (path.joined ++ []) (True ∧ (build criterion).isOk = true)
      (classicPathResolveCriterion build path criterion join) :=
    (records_classicPathResolve path .where_ wellRecorded).andThen
      fun _ recorded => .text (fun _ => rfl) recorded
  exact both.congr (List.append_nil _) (by simp)

mutual

theorem records_criteria : ∀ (criteria : Criteria Criterion) {join : Join}, join.Recorded →
    Records Prod.snd join (criteria.paths.flatMap IdmefPath.joined) (criteria.Builds build)
      (classicPathResolveCriteria build criteria join)
  | .node path criterion conjunct alternative, join, wellRecorded => by
      have all : Records Prod.snd join (path.joined ++
            ((optionalPaths conjunct).flatMap IdmefPath.joined ++
              (optionalPaths alternative).flatMap IdmefPath.joined))
          ((build criterion).isOk = true ∧ OptionalBuilds build conjunct ∧
            OptionalBuilds build alternative)
          (classicPathResolveCriteria build (.node path criterion conjunct alternative) join) := by
        rw [classicPathResolveCriteria]
        exact (records_criterion build path criterion wellRecorded).andThen fun _ recorded =>
          (records_optionalCriteria conjunct _ _ recorded).andThen fun _ recorded =>
            (records_optionalCriteria alternative _ _ recorded).map _ fun _ => rfl
      exact all.congr (by simp [Criteria.paths]) (by simp [Criteria.Builds])

theorem records_optionalCriteria : ∀ (criteria : Option (Criteria Criterion))
    (opening closing : String) {join : Join}, join.Recorded →
    Records Prod.snd join ((optionalPaths criteria).flatMap IdmefPath.joined)
      (OptionalBuilds build criteria) (resolveOptionalCriteria build opening closing criteria join)
  | none, _, _, _, wellRecorded => .ok rfl wellRecorded
  | some criteria, _, _, _, wellRecorded =>
      (records_criteria criteria wellRecorded).map _ fun _ => rfl

end

end Criteria

section Requests

variable {Criterion : Type} (text : SqlText Criterion)

theorem records_resolveCondition (criteria : Option (Criteria Criterion)) {join : Join}
    (wellRecorded : join.Recorded) :
    Records Prod.snd join ((optionalPaths criteria).flatMap IdmefPath.joined)
      (OptionalBuilds text.criterion criteria) (resolveCondition text criteria join) := by
  cases criteria with
  | none => exact .ok rfl wellRecorded
  | some criteria =>
      exact (records_criteria text.criterion criteria wellRecorded).map _ fun _ => rfl

theorem records_finishQuery (distinct : Bool) (criteria : Option (Criteria Criterion))
    (limit offset : Int) (select : SqlSelect) {join : Join} (wellRecorded : join.Recorded) :
    Records SqlQuery.join join ((optionalPaths criteria).flatMap IdmefPath.joined)
      (OptionalBuilds text.criterion criteria ∧ (text.limitOffset limit offset).isOk = true)
      (finishQuery text distinct criteria limit offset join select) := by
  have both : Records SqlQuery.join join ((optionalPaths criteria).flatMap IdmefPath.joined ++ [])
      (OptionalBuilds text.criterion criteria ∧ (text.limitOffset limit offset).isOk = true)
      (finishQuery text distinct criteria limit offset join select) :=
    (records_resolveCondition text criteria wellRecorded).andThen
      fun _ recorded => .text (fun _ => rfl) recorded
  exact both.congr (List.append_nil _) Iff.rfl

/-- A call that builds a query. -/
inductive Request (Criterion : Type) where
  | values (selection : List SelectedPath) (criteria : Option (Criteria Criterion))
      (distinct : Bool) (limit offset : Int)
  | idents (messageType : MessageTable) (criteria : Option (Criteria Criterion))
      (limit offset : Int) (order : Option Direction)

namespace Request

/-- The query of the call, or its failure. -/
def query : Request Criterion → Except ErrorCode SqlQuery
  | .values selection criteria distinct limit offset =>
      classicGetValues text selection criteria distinct limit offset
  | .idents messageType criteria limit offset order =>
      getMessageIdents text messageType criteria limit offset order

/-- The message type that is asked for. -/
def requested : Request Criterion → List MessageTable
  | .values .. => []
  | .idents messageType _ _ _ _ => [messageType]

/-- The paths involved, selected or in the criteria. -/
def paths : Request Criterion → List IdmefPath
  | .values selection criteria _ _ _ =>
      selection.map SelectedPath.path ++ optionalPaths criteria
  | .idents _ criteria _ _ _ => optionalPaths criteria

/-- The classes involved: the requested one and those with which the paths start. -/
def classes (request : Request Criterion) : List MessageTable :=
  request.requested ++ request.paths.map IdmefPath.top

/-- The requested class and those of the paths that use a joined table. -/
def joinedClasses (request : Request Criterion) : List MessageTable :=
  request.requested ++ request.paths.flatMap IdmefPath.joined

/-- Every criterion and the limits can be written. -/
def Builds : Request Criterion → Prop
  | .values _ criteria _ limit offset | .idents _ criteria limit offset _ =>
      OptionalBuilds text.criterion criteria ∧ (text.limitOffset limit offset).isOk = true

/-- All classes of a list are one. -/
def Agree (classes : List MessageTable) : Prop := ∀ left ∈ classes, ∀ right ∈ classes, left = right

theorem agree_cons_iff (top : MessageTable) (classes : List MessageTable) :
    Agree (top :: classes) ↔ ∀ other ∈ classes, other = top := by
  constructor
  · intro agree other present
    exact agree other (List.mem_cons_of_mem _ present) top List.mem_cons_self
  · intro same left inLeft right inRight
    have isTop : ∀ other ∈ top :: classes, other = top := by simpa using same
    rw [isTop left inLeft, isTop right inRight]

theorem consistent_some_iff (top : MessageTable) (classes : List MessageTable) :
    Consistent (some top) classes ↔ Agree (top :: classes) := by
  rw [agree_cons_iff]
  simp [Consistent, settled, eq_comm]

theorem consistent_none_iff (classes : List MessageTable) :
    Consistent none classes ↔ Agree classes := by
  rcases classes with _ | ⟨top, classes⟩
  · simp [Consistent, Agree]
  · rw [agree_cons_iff, Consistent, List.forall_mem_cons]
    simp [settled, eq_comm]

theorem topTable_of_topClass {join : Join} {classes : List MessageTable}
    (recorded : join.topClass = classes.head?) :
    join.topTable = (classes.headD .heartbeat).table.sqlName := by
  rw [Join.topTable, recorded]
  rcases classes with _ | ⟨_ | _, classes⟩ <;> rfl

/-- A call gives a query exactly when its joined tables agree and all texts can be written. -/
def Answered (request : Request Criterion) : Except ErrorCode SqlQuery → Prop
  | .ok query => Agree request.joinedClasses ∧ request.Builds text ∧
      query.join.topTable = (request.joinedClasses.headD .heartbeat).table.sqlName
  | .error _ => ¬ (Agree request.joinedClasses ∧ request.Builds text)

theorem recorded_new (topClass : Option MessageTable) :
    Join.Recorded { Join.new with topClass := topClass } :=
  fun _ absent => absurd absent List.not_mem_nil

theorem Answered.of_records {request : Request Criterion} {join : Join}
    {classes : List MessageTable} {builds : Prop} {result : Except ErrorCode SqlQuery}
    (records : Records SqlQuery.join join classes builds result)
    (agrees : Consistent join.topClass classes ↔ Agree request.joinedClasses)
    (settles : settled join.topClass classes = request.joinedClasses.head?)
    (sameBuilds : builds ↔ request.Builds text) : request.Answered text result := by
  cases result with
  | error error => exact fun both => records ⟨agrees.mpr both.1, sameBuilds.mpr both.2⟩
  | ok query =>
      rcases records with ⟨consistent, built, topClass, _⟩
      exact ⟨agrees.mp consistent, sameBuilds.mp built,
        topTable_of_topClass (topClass.trans settles)⟩

/-- The creation time by which idents are ordered has the requested class. -/
theorem records_getMessageIdentsSetOrder (messageType : MessageTable) (order : Option Direction)
    (select : SqlSelect) {join : Join} (wellRecorded : join.Recorded) :
    ∃ classes, (∀ top ∈ classes, top = messageType) ∧
      Records Prod.fst join classes True
        (getMessageIdentsSetOrder messageType order join select) := by
  cases order with
  | none => exact ⟨[], by simp, .ok rfl wellRecorded⟩
  | some order =>
      refine ⟨[messageType], by simp, ?_⟩
      have notPlain : ¬ (createTimePath messageType).Plain := by
        cases messageType <;> decide
      have records := records_classicPathResolveSelected
        ⟨createTimePath messageType, orderFlags order⟩ select wellRecorded
      rwa [IdmefPath.joined, if_neg notPlain] at records

theorem answered (request : Request Criterion) :
    request.Answered text (request.query text) := by
  cases request with
  | values selection criteria distinct limit offset =>
      have records : Records SqlQuery.join Join.new _ _
          (classicGetValues text selection criteria distinct limit offset) :=
        (records_classicPathResolveSelection selection .new (recorded_new none)).andThen
          fun result recorded =>
            records_finishQuery text distinct criteria limit offset result.2 recorded
      have classes : (selection.flatMap fun selected => selected.path.joined) ++
          (optionalPaths criteria).flatMap IdmefPath.joined = joinedClasses
            (.values selection criteria distinct limit offset : Request Criterion) := by
        simp [joinedClasses, requested, paths, List.flatMap_map]
      rw [classes] at records
      exact .of_records text records (consistent_none_iff _) rfl (by simp [Builds])
  | idents messageType criteria limit offset order =>
      rcases records_getMessageIdentsSetOrder messageType order identSelect
        (recorded_new (some messageType)) with ⟨ordering, ofType, ordered⟩
      have records : Records SqlQuery.join (Join.new.setTopClass messageType) _ _
          (getMessageIdents text messageType criteria limit offset order) :=
        ordered.andThen fun result recorded =>
          records_finishQuery text false criteria limit offset result.2 recorded
      refine .of_records text records ?_ rfl (by simp [Builds])
      rw [Join.setTopClass, consistent_some_iff, agree_cons_iff, joinedClasses, requested,
        List.singleton_append, agree_cons_iff]
      constructor
      · intro same other present
        exact same other (List.mem_append_right _ present)
      · intro same other present
        rcases List.mem_append.mp present with isOrdering | isCriterion
        · exact ofType other isOrdering
        · exact same other isCriterion

/--
If all classes involved are one, the top table is that class's table; if two of them differ,
the call fails.
-/
def TopTableOwn (request : Request Criterion) : Prop :=
  (∀ top, request.classes ≠ [] → (∀ other ∈ request.classes, other = top) →
    ∀ query, request.query text = .ok query → query.join.topTable = top.table.sqlName) ∧
  ((∃ left ∈ request.classes, ∃ right ∈ request.classes, left ≠ right) →
    ∃ error, request.query text = .error error)

/--
Unless the call fails anyway, because a text cannot be written or joined tables disagree,
all classes are that of the joined tables: that of heartbeats where there is none.
-/
def ClassesJoined (request : Request Criterion) : Prop :=
  request.Builds text → Agree request.joinedClasses →
    ∀ top ∈ request.classes, top = request.joinedClasses.headD .heartbeat

theorem sqlName_injective {left right : MessageTable}
    (same : left.table.sqlName = right.table.sqlName) : left = right := by
  cases left <;> cases right <;> first | rfl | exact absurd same (by decide)

/--
The top table is the paths' own exactly when the classes of all paths are those that joined
tables record, or the call fails for another reason.
-/
theorem topTableOwn_iff (request : Request Criterion) :
    request.TopTableOwn text ↔ request.ClassesJoined text := by
  have answer := request.answered text
  cases result : request.query text with
  | error error =>
      rw [result] at answer
      refine ⟨fun _ builds agree => absurd ⟨agree, builds⟩ answer, fun _ => ⟨?_, ?_⟩⟩
      · intro top _ _ query isQuery
        rw [result] at isQuery
        exact absurd isQuery (by simp)
      · exact fun _ => ⟨error, result⟩
  | ok query =>
      rw [result] at answer
      rcases answer with ⟨agree, builds, topTable⟩
      constructor
      · rintro ⟨own, conflicts⟩ _ _ top present
        have same : ∀ other ∈ request.classes, other = top := by
          intro other isOther
          by_contra different
          rcases conflicts ⟨other, isOther, top, present, different⟩ with ⟨error, failed⟩
          rw [result] at failed
          exact absurd failed (by simp)
        have isTop := own top (List.ne_nil_of_mem present) same query result
        rw [topTable] at isTop
        exact (sqlName_injective isTop).symm
      · intro joined
        have all := joined builds agree
        refine ⟨?_, ?_⟩
        · intro top notEmpty same found isFound
          rw [result, Except.ok.injEq] at isFound
          rcases List.exists_mem_of_ne_nil _ notEmpty with ⟨other, isOther⟩
          rw [← isFound, topTable, ← all other isOther, same other isOther]
        · rintro ⟨left, isLeft, right, isRight, different⟩
          exact absurd ((all left isLeft).trans (all right isRight).symm) different

end Request

end Requests

/-- A plugin that writes every criterion and limit as an empty text. -/
def emptyText : SqlText Unit where
  criterion := fun _ => .ok fun _ => ""
  limitOffset := fun _ _ => .ok ""

/-- The idents of alerts alone, without criteria: the query selects from the heartbeats. -/
theorem messageid_topTable :
    ¬ (Request.values [.plain messageidPath] none false (-1) (-1)).TopTableOwn emptyText := by
  rintro ⟨own, _⟩
  have ofAlerts := own .alert (by decide) (by decide) _ rfl
  exact absurd ofAlerts (by decide)

end RequiemDB
