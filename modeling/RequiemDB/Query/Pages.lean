import RequiemDB.Admin.Window
import RequiemDB.Classic.IdentList
import RequiemDB.Lib.Pages
import RequiemDB.Query.Criterion
import RequiemDB.Query.Listing
import RequiemDB.Query.TopTable

/-!
# Reading a listing in pages

A limit and an offset are a clause that each plugin writes in the words of its server, and
every server reads the same window in it. Pages of a listing are windows of different queries:
in each of them the messages of one second come in an order of their own.
-/

namespace RequiemDB

open Lib

section Text

/-- `%d` -/
def decimal (number : Int) : List Char :=
  if number < 0 then '-' :: Nat.toDigits 10 number.natAbs else Nat.toDigits 10 number.natAbs

/--
`sql_build_limit_offset_string` of the plugins for MySQL and SQLite; `all` is the count that
stands for all rows.
-/
def commaLimitOffsetString (all : List Char) (limit offset : Int) : List Char :=
  if 0 ≤ limit then
    if 0 ≤ offset then " LIMIT ".toList ++ decimal offset ++ ", ".toList ++ decimal limit
    else " LIMIT ".toList ++ decimal limit
  else if 0 ≤ offset then " LIMIT ".toList ++ decimal offset ++ ", ".toList ++ all
  else []

/-- `REQUIEM_UINT64_MAX` -/
def uint64Max : Nat := 2 ^ 64 - 1

def Mysql.sqlBuildLimitOffsetString : Int → Int → List Char :=
  commaLimitOffsetString (Nat.toDigits 10 uint64Max)

def Sqlite3.sqlBuildLimitOffsetString : Int → Int → List Char :=
  commaLimitOffsetString "-1".toList

def Pgsql.sqlBuildLimitOffsetString (limit offset : Int) : List Char :=
  if 0 ≤ limit then
    if 0 ≤ offset then " LIMIT ".toList ++ decimal limit ++ " OFFSET ".toList ++ decimal offset
    else " LIMIT ".toList ++ decimal limit
  else if 0 ≤ offset then " LIMIT ALL OFFSET ".toList ++ decimal offset
  else []

/-- `requiemdb_sql_build_limit_offset_string` -/
def requiemdbSqlBuildLimitOffsetString : Backend → Int → Int → List Char
  | .mysql => Mysql.sqlBuildLimitOffsetString
  | .pgsql => Pgsql.sqlBuildLimitOffsetString
  | .sqlite3 => Sqlite3.sqlBuildLimitOffsetString

/-- What a server takes from the rows of a query; no count stands for all. -/
structure Limits where
  count : Option Nat
  offset : Nat
deriving DecidableEq

def Limits.cut {α : Type} (limits : Limits) (rows : List α) : List α :=
  match limits.count with
  | none => rows.drop limits.offset
  | some count => (rows.drop limits.offset).take count

/-- The count of a clause; PostgreSQL and SQLite have words for all rows. -/
def readCount : Backend → List Char → Option (Option Nat)
  | .mysql, text => (readIdent text).map some
  | .pgsql, text => if text = "ALL".toList then some none else (readIdent text).map some
  | .sqlite3, text =>
      if text.head? = some '-' then
        (readIdent text.tail).map fun number => if number = 0 then some 0 else none
      else (readIdent text).map some

/-- What a server reads in a clause: nothing, a count, or a count with an offset. -/
def readLimits (backend : Backend) (text : List Char) : Option Limits :=
  match text.splitOn ' ' with
  | [[]] => some ⟨none, 0⟩
  | [[], keyword, count] =>
      if keyword = "LIMIT".toList then (readCount backend count).map (⟨·, 0⟩) else none
  | [[], keyword, offset, count] =>
      if keyword = "LIMIT".toList ∧ backend ≠ .pgsql ∧ offset.getLast? = some ',' then
        (readIdent offset.dropLast).bind fun offset =>
          (readCount backend count).map (⟨·, offset⟩)
      else none
  | [[], keyword, count, other, offset] =>
      if keyword = "LIMIT".toList ∧ other = "OFFSET".toList then
        (readIdent offset).bind fun offset => (readCount backend count).map (⟨·, offset⟩)
      else none
  | _ => none

theorem not_mem_digits (char : Char) (notDigit : char.isDigit = false) (number : Nat) :
    char ∉ Nat.toDigits 10 number := fun inside =>
  Bool.false_ne_true (notDigit.symm.trans
    (Nat.isDigit_of_mem_toDigits (by decide) (by decide) inside))

theorem decimal_of_nonneg {number : Int} (nonneg : 0 ≤ number) :
    decimal number = Nat.toDigits 10 number.toNat := by
  rw [decimal, if_neg (Int.not_lt.mpr nonneg)]
  congr 1
  omega

theorem readCount_digits (backend : Backend) (number : Nat) :
    readCount backend (Nat.toDigits 10 number) = some (some number) := by
  have isRead : (readIdent (Nat.toDigits 10 number)).map some = some (some number) := by
    rw [readIdent_digits]
    rfl
  cases backend with
  | mysql => exact isRead
  | pgsql =>
      have notAll : Nat.toDigits 10 number ≠ "ALL".toList := fun same =>
        not_mem_digits 'A' rfl number (same ▸ List.mem_cons_self)
      rw [readCount, if_neg notAll, isRead]
  | sqlite3 =>
      have notMinus : (Nat.toDigits 10 number).head? ≠ some '-' := fun same =>
        not_mem_digits '-' rfl number (List.mem_of_mem_head? same)
      rw [readCount, if_neg notMinus, isRead]

/-- The words of a clause, as they are read again. -/
theorem splitOn_words (words : List (List Char)) (noBlank : ∀ word ∈ words, ' ' ∉ word)
    (some_ : words ≠ []) : ([' '].intercalate words).splitOn ' ' = words :=
  List.splitOn_intercalate ' ' noBlank some_

theorem readLimits_count (backend : Backend) (number : Nat) :
    readLimits backend (" LIMIT ".toList ++ Nat.toDigits 10 number) =
      some ⟨some number, 0⟩ := by
  have words := splitOn_words [[], "LIMIT".toList, Nat.toDigits 10 number]
    (by simpa using not_mem_digits ' ' rfl number) (List.cons_ne_nil _ _)
  have isText : " LIMIT ".toList ++ Nat.toDigits 10 number =
      [' '].intercalate [[], "LIMIT".toList, Nat.toDigits 10 number] := by
    simp [List.intercalate]
  rw [isText, readLimits, words]
  simp [readCount_digits]

theorem readLimits_comma {backend : Backend} (notPgsql : backend ≠ .pgsql) (offset : Nat)
    {all : List Char} {count : Option Nat} (noBlank : ' ' ∉ all)
    (isCount : readCount backend all = some count) :
    readLimits backend (" LIMIT ".toList ++ Nat.toDigits 10 offset ++ ", ".toList ++ all) =
      some ⟨count, offset⟩ := by
  have noBlanks := not_mem_digits ' ' rfl offset
  have words := splitOn_words [[], "LIMIT".toList, Nat.toDigits 10 offset ++ [','], all]
    (by simpa using ⟨noBlanks, noBlank⟩) (List.cons_ne_nil _ _)
  have isText : " LIMIT ".toList ++ Nat.toDigits 10 offset ++ ", ".toList ++ all =
      [' '].intercalate [[], "LIMIT".toList, Nat.toDigits 10 offset ++ [','], all] := by
    simp [List.intercalate]
  rw [isText, readLimits, words]
  simp [notPgsql, readIdent_digits, isCount]

theorem readLimits_offset {backend : Backend} (offset : Nat) (all : List Char)
    {count : Option Nat} (noBlank : ' ' ∉ all) (isCount : readCount backend all = some count) :
    readLimits backend (" LIMIT ".toList ++ all ++ " OFFSET ".toList ++ Nat.toDigits 10 offset) =
      some ⟨count, offset⟩ := by
  have noBlanks := not_mem_digits ' ' rfl offset
  have words := splitOn_words [[], "LIMIT".toList, all, "OFFSET".toList, Nat.toDigits 10 offset]
    (by simpa using ⟨noBlank, noBlanks⟩) (List.cons_ne_nil _ _)
  have isText : " LIMIT ".toList ++ all ++ " OFFSET ".toList ++ Nat.toDigits 10 offset =
      [' '].intercalate [[], "LIMIT".toList, all, "OFFSET".toList,
        Nat.toDigits 10 offset] := by
    simp [List.intercalate]
  rw [isText, readLimits, words]
  simp [readIdent_digits, isCount]

/-- What stands for the limit and the offset in the clause of a plugin. -/
def Backend.limits (backend : Backend) (limit offset : Int) : Limits where
  count :=
    if 0 ≤ limit then some limit.toNat
    else if 0 ≤ offset ∧ backend = .mysql then some uint64Max else none
  offset := offset.toNat

/-- Every server reads the limit and the offset again that its plugin has written. -/
theorem readLimits_build (backend : Backend) (limit offset : Int) :
    readLimits backend (requiemdbSqlBuildLimitOffsetString backend limit offset) =
      some (backend.limits limit offset) := by
  have noBlank := fun number => not_mem_digits ' ' rfl number
  rw [Backend.limits]
  by_cases hasLimit : 0 ≤ limit
  · have isLimit := decimal_of_nonneg hasLimit
    by_cases hasOffset : 0 ≤ offset
    · have isOffset := decimal_of_nonneg hasOffset
      have isCount := fun backend => readCount_digits backend limit.toNat
      rw [if_pos hasLimit]
      cases backend with
      | mysql | sqlite3 =>
          show readLimits _ (commaLimitOffsetString _ limit offset) = _
          rw [commaLimitOffsetString, if_pos hasLimit, if_pos hasOffset, isLimit, isOffset]
          exact readLimits_comma (by decide) _ (noBlank _) (isCount _)
      | pgsql =>
          show readLimits _ (Pgsql.sqlBuildLimitOffsetString limit offset) = _
          rw [Pgsql.sqlBuildLimitOffsetString, if_pos hasLimit, if_pos hasOffset, isLimit, isOffset]
          exact readLimits_offset _ _ (noBlank _) (isCount _)
    · have isZero : offset.toNat = 0 := Int.toNat_of_nonpos (by omega)
      rw [if_pos hasLimit, isZero, ← readLimits_count backend, ← isLimit]
      cases backend with
      | mysql | sqlite3 =>
          show readLimits _ (commaLimitOffsetString _ limit offset) = _
          rw [commaLimitOffsetString, if_pos hasLimit, if_neg hasOffset]
      | pgsql =>
          show readLimits _ (Pgsql.sqlBuildLimitOffsetString limit offset) = _
          rw [Pgsql.sqlBuildLimitOffsetString, if_pos hasLimit, if_neg hasOffset]
  · rw [if_neg hasLimit]
    by_cases hasOffset : 0 ≤ offset
    · have isOffset := decimal_of_nonneg hasOffset
      cases backend with
      | mysql =>
          rw [if_pos ⟨hasOffset, rfl⟩]
          show readLimits _ (commaLimitOffsetString _ limit offset) = _
          rw [commaLimitOffsetString, if_neg hasLimit, if_pos hasOffset, isOffset]
          exact readLimits_comma (by decide) _ (noBlank _) (readCount_digits _ _)
      | sqlite3 =>
          rw [if_neg (by simp)]
          show readLimits _ (commaLimitOffsetString _ limit offset) = _
          rw [commaLimitOffsetString, if_neg hasLimit, if_pos hasOffset, isOffset]
          exact readLimits_comma (by decide) _ (by decide) (by decide)
      | pgsql =>
          rw [if_neg (by simp)]
          show readLimits _ (Pgsql.sqlBuildLimitOffsetString limit offset) = _
          rw [Pgsql.sqlBuildLimitOffsetString, if_neg hasLimit, if_pos hasOffset, isOffset]
          exact readLimits_offset offset.toNat "ALL".toList (by decide) (by decide)
    · have isZero : offset.toNat = 0 := Int.toNat_of_nonpos (by omega)
      rw [if_neg fun both => hasOffset both.1, isZero]
      cases backend with
      | mysql | sqlite3 =>
          show readLimits _ (commaLimitOffsetString _ limit offset) = _
          rw [commaLimitOffsetString, if_neg hasLimit, if_neg hasOffset]
          rfl
      | pgsql =>
          show readLimits _ (Pgsql.sqlBuildLimitOffsetString limit offset) = _
          rw [Pgsql.sqlBuildLimitOffsetString, if_neg hasLimit, if_neg hasOffset]
          rfl

end Text

section Pages

variable {Criterion : Type} {backend : Backend}
  {criterion : Criterion → Except ErrorCode (List FieldName → String)} {server : ListingServer}
  {contents : Contents} {messageType : MessageTable} {criteria : Option (Criteria Criterion)}
  {order : Direction}

/-- What a plugin writes into a query, its own clause for the limits included. -/
def Backend.text (backend : Backend)
    (criterion : Criterion → Except ErrorCode (List FieldName → String)) : SqlText Criterion where
  criterion := criterion
  limitOffset limit offset :=
    .ok (String.ofList (requiemdbSqlBuildLimitOffsetString backend limit offset))

/-- An answer to `get_message_idents`: the server cuts what it answers without the limits. -/
def ListingServer.Lists (server : ListingServer) (backend : Backend)
    (criterion : Criterion → Except ErrorCode (List FieldName → String)) (contents : Contents)
    (messageType : MessageTable) (criteria : Option (Criteria Criterion)) (order : Direction)
    (limit offset : Int) (answer : List (List (Option Cell))) : Prop :=
  ∃ query limits whole,
    getMessageIdents (backend.text criterion) messageType criteria limit offset (some order) =
      .ok query ∧
    readLimits backend query.limitOffset.toList = some limits ∧
    server.Answers contents.rows { query with limitOffset := "" } whole ∧
    answer = limits.cut whole

/-- Messages that an order by their creation times lets change places: `sameTime_iff`. -/
def ListingServer.SameTime (server : ListingServer) (contents : Contents)
    (messageType : MessageTable) (first second : Nat) : Prop :=
  server.before (some (contents.timeCell messageType first .time))
      (some (contents.timeCell messageType second .time)) ∧
    server.before (some (contents.timeCell messageType second .time))
      (some (contents.timeCell messageType first .time))

/-- Messages with creation times may change places when they are of one second. -/
theorem sameTime_iff {ident other : Nat} {first second : UInt32 × Int}
    (isFirst : first ∈ contents.createTime messageType ident)
    (isSecond : second ∈ contents.createTime messageType other) :
    server.SameTime contents messageType ident other ↔ first.1 = second.1 := by
  rw [ListingServer.SameTime, timeCell_of_createTime isFirst, timeCell_of_createTime isSecond,
    server.before_timestamp, server.before_timestamp]
  exact ⟨fun both => UInt32.le_antisymm both.1 both.2,
    fun same => ⟨same ▸ UInt32.le_refl _, same ▸ UInt32.le_refl _⟩⟩

theorem precedes_iff_sameTime {ident other : Nat}
    (inOrder : server.Precedes (orderedSelect order).orderBy (contents.tuple messageType ident)
      (contents.tuple messageType other)) :
    server.Precedes (orderedSelect order).orderBy (contents.tuple messageType other)
      (contents.tuple messageType ident) ↔ server.SameTime contents messageType ident other := by
  revert inOrder
  cases order <;>
    simp +contextual [orderedSelect, ListingServer.Precedes, Contents.tuple,
      ListingServer.SameTime]

/-- The limits are all that a query has of them. -/
theorem getMessageIdents_limits {limit offset : Int} {query : SqlQuery}
    (built : getMessageIdents (backend.text criterion) messageType criteria limit offset
      (some order) = .ok query) (otherLimit otherOffset : Int) :
    getMessageIdents (backend.text criterion) messageType criteria otherLimit otherOffset
      (some order) = .ok { query with
        limitOffset := String.ofList
          (requiemdbSqlBuildLimitOffsetString backend otherLimit otherOffset) } := by
  rw [getMessageIdents, getMessageIdentsSetOrder_eq] at built ⊢
  rcases ok_of_bind built with ⟨⟨join, select⟩, isOrdered, finished⟩
  cases isOrdered
  dsimp only at finished
  rw [finishQuery] at finished
  rcases ok_of_bind finished with ⟨⟨condition, joined⟩, isCondition, finished⟩
  cases finished
  have sameCondition : resolveCondition (backend.text criterion) criteria
      ⟨some messageType, [createTimeTable messageType], 1⟩ = .ok (condition, joined) := isCondition
  show finishQuery (backend.text criterion) false criteria otherLimit otherOffset
    ⟨some messageType, [createTimeTable messageType], 1⟩ (orderedSelect order) = _
  rw [finishQuery, sameCondition]
  rfl

/-- With the limits of a plugin the answers are windows of those without. -/
theorem lists_iff {query : SqlQuery}
    (built : getMessageIdents (backend.text criterion) messageType criteria (-1) (-1)
      (some order) = .ok query) (limit offset : Int) (answer : List (List (Option Cell))) :
    server.Lists backend criterion contents messageType criteria order limit offset answer ↔
      ∃ whole, server.Answers contents.rows { query with limitOffset := "" } whole ∧
        answer = (backend.limits limit offset).cut whole := by
  have limited := getMessageIdents_limits built limit offset
  have isRead : readLimits backend (String.ofList
      (requiemdbSqlBuildLimitOffsetString backend limit offset)).toList =
        some (backend.limits limit offset) := by
    rw [String.toList_ofList, readLimits_build]
  constructor
  · rintro ⟨other, limits, whole, builtToo, isLimits, answers, rfl⟩
    obtain rfl := Except.ok.inj (limited.symm.trans builtToo)
    obtain rfl := Option.some.inj (isRead.symm.trans isLimits)
    exact ⟨whole, answers, rfl⟩
  · rintro ⟨whole, answers, rfl⟩
    exact ⟨_, _, whole, limited, isRead, answers, rfl⟩

theorem cut_page (backend : Backend) (size number : Nat) (rows : List (List (Option Cell))) :
    (backend.limits size (number * size : Nat)).cut rows = page size number rows := by
  rw [Limits.cut, Backend.limits, if_pos (Int.natCast_nonneg size), page]
  rfl

/-- Tuples of messages are known by their idents. -/
theorem map_identsOf {answer : List (List (Option Cell))}
    (tuples : ∀ tuple ∈ answer, ∃ ident, tuple = contents.tuple messageType ident) :
    (identsOf answer).map (contents.tuple messageType) = answer := by
  rw [identsOf]
  induction answer with
  | nil => rfl
  | cons tuple answer ih =>
      rcases List.forall_mem_cons.mp tuples with ⟨⟨ident, rfl⟩, later⟩
      rw [List.filterMap_cons_some (identOf_tuple ident), List.map_cons, ih later]

theorem mem_identsOf {answer : List (List (Option Cell))}
    (tuples : ∀ tuple ∈ answer, ∃ ident, tuple = contents.tuple messageType ident) (ident : Nat) :
    ident ∈ identsOf answer ↔ contents.tuple messageType ident ∈ answer := by
  conv_rhs => rw [← map_identsOf tuples]
  exact (List.mem_map_of_injective fun _ _ => tuple_injective).symm

theorem nodup_identsOf {answer : List (List (Option Cell))}
    (tuples : ∀ tuple ∈ answer, ∃ ident, tuple = contents.tuple messageType ident) :
    (identsOf answer).Nodup ↔ answer.Nodup := by
  conv_rhs => rw [← map_identsOf tuples]
  exact (List.nodup_map_iff fun _ _ => tuple_injective).symm

/-- The pages of a listing, each read by its own query, together give the idents. -/
def PagesGive (server : ListingServer) (backend : Backend)
    (criterion : Criterion → Except ErrorCode (List FieldName → String)) (contents : Contents)
    (messageType : MessageTable) (criteria : Option (Criteria Criterion)) (order : Direction)
    (size count : Nat) (idents : List Nat) : Prop :=
  ∃ pages : Nat → List (List (Option Cell)),
    (∀ number < count, server.Lists backend criterion contents messageType criteria order size
      (number * size : Nat) (pages number)) ∧
    idents = (List.range count).flatMap fun number => identsOf (pages number)

section Answers

variable {query : SqlQuery} {whole : List (List (Option Cell))}

theorem tuples_of_answers (select : query.select = orderedSelect order)
    (first : ∃ others, query.join.tables = createTimeTable messageType :: others)
    (answers : server.Answers contents.rows query whole) :
    ∀ tuple ∈ whole, ∃ ident, tuple = contents.tuple messageType ident := by
  intro tuple inside
  rcases (row_iff select first tuple).mp ((answers.listing.mem_iff tuple).mp inside) with
    ⟨ident, _, isTuple⟩
  exact ⟨ident, isTuple⟩

/-- Where pages end, in terms of the idents. -/
theorem unsplit_iff (select : query.select = orderedSelect order)
    (first : ∃ others, query.join.tables = createTimeTable messageType :: others)
    (answers : server.Answers contents.rows query whole) {size : Nat} (positive : 0 < size) :
    Unsplit (server.Precedes query.select.orderBy) size whole ↔
      ∀ number first second, (identsOf whole)[(number + 1) * size - 1]? = some first →
        (identsOf whole)[(number + 1) * size]? = some second →
        ¬ server.SameTime contents messageType first second := by
  have tuples := tuples_of_answers select first answers
  have isWhole := map_identsOf tuples
  have sorted := answers.listing.sorted
  rw [select] at sorted ⊢
  have inOrder : ∀ {number ident other}, (identsOf whole)[(number + 1) * size - 1]? = some ident →
      (identsOf whole)[(number + 1) * size]? = some other →
      server.Precedes (orderedSelect order).orderBy (contents.tuple messageType ident)
        (contents.tuple messageType other) := by
    intro number ident other isFirst isSecond
    rw [← isWhole, List.pairwise_map] at sorted
    rcases List.getElem?_eq_some_iff.mp isFirst with ⟨here, rfl⟩
    rcases List.getElem?_eq_some_iff.mp isSecond with ⟨there, rfl⟩
    have notZero : 0 < (number + 1) * size := Nat.mul_pos (Nat.succ_pos number) positive
    exact List.pairwise_iff_getElem.mp sorted _ _ here there (by omega)
  have place : ∀ position : Nat, whole[position]? =
      (identsOf whole)[position]?.map (contents.tuple messageType) := by
    intro position
    conv_lhs => rw [← isWhole]
    exact List.getElem?_map
  constructor
  · intro unsplit number ident other isFirst isSecond sameTime
    refine unsplit number _ _ ?_ ?_
      ((precedes_iff_sameTime (inOrder isFirst isSecond)).mpr sameTime)
    · rw [place, isFirst]
      rfl
    · rw [place, isSecond]
      rfl
  · intro apart number left right isLeft isRight precedes
    rw [place] at isLeft isRight
    rcases Option.map_eq_some_iff.mp isLeft with ⟨ident, isFirst, rfl⟩
    rcases Option.map_eq_some_iff.mp isRight with ⟨other, isSecond, rfl⟩
    exact apart number ident other isFirst isSecond
      ((precedes_iff_sameTime (inOrder isFirst isSecond)).mp precedes)

end Answers

/-- The query of a listing without limits, of whose answers all others are windows. -/
theorem exists_unlimited {whole : List (List (Option Cell))}
    (listed : server.Lists backend criterion contents messageType criteria order (-1) (-1) whole) :
    ∃ query : SqlQuery, query.select = orderedSelect order ∧
      (∃ others, query.join.tables = createTimeTable messageType :: others) ∧
      server.Answers contents.rows query whole ∧
      ∀ limit offset answer,
        server.Lists backend criterion contents messageType criteria order limit offset answer ↔
          ∃ whole, server.Answers contents.rows query whole ∧
            answer = (backend.limits limit offset).cut whole := by
  have same := listed
  rcases listed with ⟨query, _, _, built, _⟩
  rcases (lists_iff built (-1) (-1) whole).mp same with ⟨full, answers, isWhole⟩
  have isAll : (backend.limits (-1) (-1)).cut full = full := by cases backend <;> rfl
  rw [isAll] at isWhole
  rcases getMessageIdents_shape built with ⟨select, first⟩
  exact ⟨{ query with limitOffset := "" }, select, first, isWhole ▸ answers, lists_iff built⟩

/--
Pages of a listing give every message that the listing has exactly once, whatever the server
makes of the ties in each query, if and only if no page ends between messages of the same time.
-/
theorem listing_pages_iff (backend : Backend)
    (criterion : Criterion → Except ErrorCode (List FieldName → String)) (server : ListingServer)
    (contents : Contents) (messageType : MessageTable) (criteria : Option (Criteria Criterion))
    (order : Direction) {size count : Nat} (positive : 0 < size)
    {whole : List (List (Option Cell))}
    (listed : server.Lists backend criterion contents messageType criteria order (-1) (-1) whole)
    (enough : whole.length ≤ count * size) :
    (∀ idents, PagesGive server backend criterion contents messageType criteria order size count
        idents → idents.Nodup ∧ ∀ ident, ident ∈ idents ↔ ident ∈ identsOf whole) ↔
      ∀ number first second, (identsOf whole)[(number + 1) * size - 1]? = some first →
        (identsOf whole)[(number + 1) * size]? = some second →
        ¬ server.SameTime contents messageType first second := by
  rcases exists_unlimited listed with ⟨query, select, first, answers, lists⟩
  have tuplesOf : ∀ {answer}, server.Answers contents.rows query answer → ∀ tuple ∈ answer,
      ∃ ident, tuple = contents.tuple messageType ident := tuples_of_answers select first
  have isListing : ∀ {answer}, Listing (server.Row contents.rows query)
      (server.Precedes query.select.orderBy) answer ↔ server.Answers contents.rows query answer :=
    ⟨fun listing => ⟨answers.distinct, answers.ungrouped, answers.unlimited, listing⟩,
      fun isAnswer => isAnswer.listing⟩
  have total : ∀ left right, server.Precedes query.select.orderBy left right ∨
      server.Precedes query.select.orderBy right left := by
    rw [select]
    exact precedes_total
  have trans : ∀ left middle right, server.Precedes query.select.orderBy left middle →
      server.Precedes query.select.orderBy middle right →
      server.Precedes query.select.orderBy left right := by
    rw [select]
    exact precedes_trans
  -- The idents of the pages are those of their tuples, put behind one another.
  have tuplesOfPages : ∀ {parts : Nat → List (List (Option Cell))},
      (∀ number < count, server.Answers contents.rows query (parts number)) →
      ∀ tuple ∈ (List.range count).flatMap fun number => page size number (parts number),
        ∃ ident, tuple = contents.tuple messageType ident := by
    intro parts areAnswers tuple inside
    rcases List.mem_flatMap.mp inside with ⟨number, below, onPage⟩
    exact tuplesOf (areAnswers number (List.mem_range.mp below)) tuple
      (List.mem_of_mem_drop (List.mem_of_mem_take onPage))
  have identsOfPages : ∀ parts : Nat → List (List (Option Cell)),
      identsOf ((List.range count).flatMap fun number => page size number (parts number)) =
        (List.range count).flatMap fun number => identsOf (page size number (parts number)) :=
    fun parts => List.filterMap_flatMap ..
  rw [← unsplit_iff select first answers positive,
    ← Listing.pages_iff total trans answers.listing positive enough]
  constructor
  · intro always parts listings
    have areAnswers := fun number below => isListing.mp (listings number below)
    have tuples := tuplesOfPages areAnswers
    rcases always _ ⟨fun number => page size number (parts number), fun number below =>
      (lists _ _ _).mpr ⟨parts number, areAnswers number below, (cut_page ..).symm⟩, rfl⟩ with
      ⟨nodup, same⟩
    rw [← identsOfPages, nodup_identsOf tuples] at nodup
    refine ⟨nodup, fun tuple => ?_⟩
    rw [← answers.listing.mem_iff]
    have sameTuple : ∀ ident, (contents.tuple messageType ident ∈
        (List.range count).flatMap fun number => page size number (parts number)) ↔
          contents.tuple messageType ident ∈ whole := by
      intro ident
      rw [← mem_identsOf tuples, ← mem_identsOf (tuplesOf answers), identsOfPages]
      exact same ident
    constructor
    · intro inside
      rcases tuples tuple inside with ⟨ident, rfl⟩
      exact (sameTuple ident).mp inside
    · intro inside
      rcases tuplesOf answers tuple inside with ⟨ident, rfl⟩
      exact (sameTuple ident).mpr inside
  · rintro always idents ⟨pages, areLists, rfl⟩
    have each : ∀ number, number < count → ∃ part, server.Answers contents.rows query part ∧
        pages number = page size number part := by
      intro number below
      rcases (lists _ _ _).mp (areLists number below) with ⟨part, isAnswer, isCut⟩
      exact ⟨part, isAnswer, isCut.trans (cut_page ..)⟩
    choose! parts areAnswers isPage using each
    have tuples := tuplesOfPages areAnswers
    have isPages : ((List.range count).flatMap fun number => identsOf (pages number)) =
        identsOf ((List.range count).flatMap fun number => page size number (parts number)) := by
      rw [identsOfPages]
      exact List.flatMap_congr fun number below =>
        congrArg identsOf (isPage number (List.mem_range.mp below))
    rcases always parts fun number below => (areAnswers number below).listing with ⟨nodup, same⟩
    rw [isPages, nodup_identsOf tuples]
    refine ⟨nodup, fun ident => ?_⟩
    rw [mem_identsOf tuples, same, ← answers.listing.mem_iff, mem_identsOf (tuplesOf answers)]

theorem listing_pages_iff_twoAlerts :
    ∃ whole,
      plainServer.Lists .mysql emptyText.criterion twoAlerts .alert none .asc (-1) (-1) whole ∧
      ((∀ idents, PagesGive plainServer .mysql emptyText.criterion twoAlerts .alert none .asc 1
          whole.length idents → idents.Nodup ∧ ∀ ident, ident ∈ idents ↔ ident ∈ identsOf whole) ↔
        ∀ number first second, (identsOf whole)[(number + 1) * 1 - 1]? = some first →
          (identsOf whole)[(number + 1) * 1]? = some second →
          ¬ plainServer.SameTime twoAlerts .alert first second) := by
  have built : getMessageIdents (Backend.mysql.text emptyText.criterion) .alert none (-1) (-1)
      (some .asc) =
        .ok ⟨false, orderedSelect .asc, ⟨some .alert, [createTimeTable .alert], 1⟩, none, ""⟩ := rfl
  rcases exists_answer (getMessageIdents_shape built).1 (getMessageIdents_shape built).2 rfl 1 with
    ⟨whole, answers, _⟩
  have listed : plainServer.Lists .mysql emptyText.criterion twoAlerts .alert none .asc (-1) (-1)
      whole := (lists_iff built (-1) (-1) whole).mpr ⟨whole, answers, rfl⟩
  exact ⟨whole, listed, listing_pages_iff .mysql emptyText.criterion plainServer twoAlerts .alert
    none .asc (by decide) listed (Nat.le_of_eq (Nat.mul_one _).symm)⟩

end Pages

end RequiemDB
