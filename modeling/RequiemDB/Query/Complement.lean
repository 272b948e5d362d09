import Mathlib.Data.Char
import Mathlib.Data.List.Infix
import Mathlib.Data.List.Lex
import RequiemDB.Query.BrokenDownTime

/-!
# Negated criteria and their complement

A negated operator asks for NULL or for the negation of the comparison. It is true
of the other cells than the operator itself, as far as the two comparisons look at
letters alike and neither compares with NULL.
-/

namespace RequiemDB

open Lib

/-- The operators with a negation; a broken-down time has the negation of its equality. -/
def CriterionOperator.Negatable (operator : CriterionOperator) : Prop :=
  operator.not = false ∧
    (operator.test = .equal ∨ operator.test = .substr ∨ operator.test = .regex)

/-- Both texts have an answer for the cell, and exactly one of the two is true of it. -/
def SqlServer.Complements {backend : Backend} (server : SqlServer backend)
    (cell : Option server.Value) (text negated : ConditionText) : Prop :=
  ∃ own other, server.answer cell text = some own ∧ server.answer cell negated = some other ∧
    (other = .holds ↔ own ≠ .holds)

/-- A text behind the guard for NULL of a negated criterion. -/
def behindGuard (field : String) (negated : ConditionText) : ConditionText :=
  [.lparen, .atom (.null field "IS NULL"), .or] ++ negated ++ [.rparen]

section Answer

variable {backend : Backend} {server : SqlServer backend}

theorem answer_atom (cell : Option server.Value) {comparison : Comparison}
    (prepared : backend = .mysql → (server.reads none comparison).isSome) :
    server.answer cell [.atom comparison] = server.reads cell comparison := by
  have ready : server.prepares [.atom comparison] := by
    simpa [SqlServer.prepares, or_iff_not_imp_left] using prepared
  rw [SqlServer.answer, if_pos ready]
  rfl

/-- The guard is true of NULL, so that what is behind it is left alone. -/
theorem answer_behindGuard (cell : Option server.Value) {comparison : Comparison} (field : String)
    (prepared : backend = .mysql → (server.reads none comparison).isSome) :
    server.answer cell (behindGuard field [.atom comparison]) =
      if cell = none then some .holds else server.reads cell comparison := by
  have ready : server.prepares (behindGuard field [.atom comparison]) := by
    simpa [SqlServer.prepares, behindGuard, SqlServer.reads, or_iff_not_imp_left] using prepared
  have runs : runText (server.reads cell) (behindGuard field [.atom comparison]) =
      (server.reads cell (.null field "IS NULL")).bind fun value =>
        if value = .holds then some .holds else (server.reads cell comparison).map value.or := rfl
  rw [SqlServer.answer, if_pos ready, runs]
  cases cell with
  | none => rfl
  | some content =>
      have behind : Truth.or .fails = id := by
        funext value
        cases value <;> rfl
      simp [SqlServer.reads, Truth.ofBool, behind]

/-- A text none of whose comparisons ends with an error. -/
def SqlServer.ReadsAll (server : SqlServer backend) (tokens : ConditionText) : Prop :=
  ∀ comparison, .atom comparison ∈ tokens → ∀ cell, (server.reads cell comparison).isSome

theorem answer_of_readsAll {tokens : ConditionText} (reads : server.ReadsAll tokens)
    (cell : Option server.Value) :
    server.answer cell tokens = ownValue (server.truth cell) tokens := by
  have ready : server.prepares tokens := by
    simp only [SqlServer.prepares, Bool.or_eq_true, List.all_eq_true]
    right
    intro token present
    cases token with
    | atom comparison => exact reads comparison present none
    | _ => rfl
  have known : ∀ comparison, .atom comparison ∈ tokens →
      server.reads cell comparison = some (server.truth cell comparison) := by
    intro comparison present
    rcases Option.isSome_iff_exists.mp (reads comparison present cell) with ⟨value, isValue⟩
    rw [SqlServer.truth, isValue, Option.getD_some]
  rw [SqlServer.answer, if_pos ready, runText_congr known, runText, ownValue]
  cases parseCondition tokens with
  | none => rfl
  | some condition => exact condition.run_some (server.truth cell)

/-- Where no comparison ends with an error, the two texts are both conditions, and differ. -/
theorem complements_of_conjunctions {text negated : ConditionText}
    {meaning opposite : Meaning Comparison} (isText : Conjunction text meaning)
    (isNegated : Conjunction negated opposite) (reads : server.ReadsAll text)
    (readsNegated : server.ReadsAll negated) (cell : Option server.Value) :
    server.Complements cell text negated ↔
      (server.Selects cell negated ↔ ¬ server.Selects cell text) := by
  rcases isText.parse with ⟨condition, parsed, -⟩
  rcases isNegated.parse with ⟨other, otherParsed, -⟩
  simp [SqlServer.Complements, SqlServer.Selects, answer_of_readsAll reads,
    answer_of_readsAll readsNegated, ownValue, parsed, otherParsed]

end Answer

section Constraint

variable {backend : Backend} (server : SqlServer backend)

/-- The match of a pattern takes no account of the case of letters. -/
def SqlServer.CaseFree (content : server.Value) (pattern : Literal) : Prop :=
  server.compare .regexp true content pattern = server.compare .regexp false content pattern

/-- The pattern as the server gets it: SQLite takes `lower()` of it for an operator without case. -/
def SqlServer.compared (operator : CriterionOperator) (pattern : Literal) : Literal :=
  if backend = .sqlite3 ∧ operator.noCase then pattern.lower server.lowerText else pattern

variable {server} {cell : Option server.Value} {literal : Literal} {operator negation : String}
  {relation : Relation} {caseSensitive caseNegated : Bool} {comparison negated : Comparison}

theorem evaluates_map (view : server.Value → server.Value) :
    server.evaluates relation (cell.map view) literal =
      server.evaluates relation cell literal := by
  cases backend <;> cases cell <;> rfl

/-- What an operator of the server says, where its comparison comes to an end. -/
theorem relate_eq {isNegated : Bool}
    (known : sqlOperator backend operator = some ⟨relation, caseSensitive, isNegated⟩) :
    server.relate operator cell literal =
      if server.evaluates relation cell literal then
        some <| match cell with
          | none => .unknown
          | some content =>
              if literal = .null then .unknown
              else SqlOperator.answer ⟨relation, caseSensitive, isNegated⟩
                (server.compare relation caseSensitive content literal)
      else none := by
  rw [SqlServer.relate, known]
  rfl

/--
A comparison and its negation behind the guard: they complement each other where the server
comes to an end with the comparison and a content is compared with no NULL, alike by both.
-/
theorem complements_of_relate {view : server.Value → server.Value}
    (known : sqlOperator backend operator = some ⟨relation, caseSensitive, false⟩)
    (knownNegation : sqlOperator backend negation = some ⟨relation, caseNegated, true⟩)
    (reads : ∀ cell, server.reads cell comparison =
      server.relate operator (cell.map view) literal)
    (readsNegated : ∀ cell, server.reads cell negated =
      server.relate negation (cell.map view) literal) (field : String)
    (cell : Option server.Value) :
    server.Complements cell [.atom comparison] (behindGuard field [.atom negated]) ↔
      server.evaluates relation cell literal ∧ ∀ content ∈ cell, literal ≠ .null ∧
        server.compare relation caseSensitive (view content) literal =
          server.compare relation caseNegated (view content) literal := by
  have readsEq := fun cell => (reads cell).trans (relate_eq known)
  have negatedEq := fun cell => (readsNegated cell).trans (relate_eq knownNegation)
  simp only [evaluates_map] at readsEq negatedEq
  by_cases ends : server.evaluates relation cell literal
  · have onMysql : backend = .mysql → server.evaluates relation none literal := by
      rintro rfl
      simpa [SqlServer.evaluates] using ends
    have prepared : backend = .mysql → (server.reads none comparison).isSome := by
      intro isMysql
      simp [readsEq, onMysql isMysql]
    have preparedNegated : backend = .mysql → (server.reads none negated).isSome := by
      intro isMysql
      simp [negatedEq, onMysql isMysql]
    rw [SqlServer.Complements, answer_atom cell prepared,
      answer_behindGuard cell field preparedNegated, readsEq, negatedEq, if_pos ends, if_pos ends]
    cases cell with
    | none => simp [ends]
    | some content =>
        by_cases isNull : literal = .null
        · simp [isNull]
        · cases own : server.compare relation caseSensitive (view content) literal <;>
            cases other : server.compare relation caseNegated (view content) literal <;>
            simp [isNull, ends, own, other, SqlOperator.answer, Truth.ofBool]
  · have stops : server.answer cell [.atom comparison] = none := by
      have isNone : server.reads cell comparison = none := by rw [readsEq, if_neg ends]
      by_cases ready : server.prepares [.atom comparison]
      · rw [SqlServer.answer, if_pos ready]
        exact isNone
      · rw [SqlServer.answer, if_neg ready]
    simp [SqlServer.Complements, stops, ends]

theorem complements_fixed {field : String}
    (known : sqlOperator backend operator = some ⟨relation, caseSensitive, false⟩)
    (knownNegation : sqlOperator backend negation = some ⟨relation, caseNegated, true⟩) :
    server.Complements cell [.atom (.fixed field operator literal)]
        (behindGuard field [.atom (.fixed field negation literal)]) ↔
      server.evaluates relation cell literal ∧ ∀ content ∈ cell, literal ≠ .null ∧
        server.compare relation caseSensitive content literal =
          server.compare relation caseNegated content literal :=
  complements_of_relate known knownNegation (fun cell => by simp [SqlServer.reads])
    (fun cell => by simp [SqlServer.reads]) field cell

theorem complements_lower {field : String}
    (known : sqlOperator backend operator = some ⟨relation, caseSensitive, false⟩)
    (knownNegation : sqlOperator backend negation = some ⟨relation, caseSensitive, true⟩) :
    server.Complements cell [.atom (.lower field operator literal)]
        (behindGuard field [.atom (.lower field negation literal)]) ↔
      server.evaluates relation cell (literal.lower server.lowerText) ∧
        (cell ≠ none → literal ≠ .null) := by
  rw [complements_of_relate known knownNegation (fun _ => rfl) (fun _ => rfl) field cell]
  cases cell <;> simp

/--
The tables of operators: an operator and its negation complement each other where a pattern is
one that the server matches, but for the patterns of MySQL, where the two negations are
exchanged.
-/
theorem buildConstraintString_negation (server : SqlServer backend) {operator : CriterionOperator}
    (negatable : operator.Negatable) (literal : Literal) :
    ∃ comparison negated,
      buildConstraintString backend operator literal = .ok comparison ∧
      buildConstraintString backend operator.negation literal = .ok negated ∧
      ∀ (field : String) (cell : Option server.Value),
        server.Complements cell [.atom (comparison field)]
            (behindGuard field [.atom (negated field)]) ↔
          (operator.test = .regex →
            server.evaluates .regexp cell (server.compared operator literal)) ∧
          (cell ≠ none → literal ≠ .null) ∧
          (backend = .mysql → operator.test = .regex →
            ∀ content ∈ cell, server.CaseFree content literal) := by
  rcases operator with ⟨test, noCase, not⟩
  have equals : ∀ cell literal, server.evaluates .equal cell literal := fun _ _ => rfl
  have likes : ∀ cell literal, server.evaluates .like cell literal := fun _ _ => rfl
  cases backend with
  | mysql =>
      rcases negatable with ⟨rfl, rfl | rfl | rfl⟩ <;> cases noCase
      case inr.inr.false | inr.inr.true =>
        refine ⟨_, _, rfl, rfl, fun field cell => (complements_fixed rfl rfl).trans ?_⟩
        cases cell <;> simp [SqlServer.compared, SqlServer.CaseFree,
          @eq_comm Bool (server.compare .regexp false _ _)]
      all_goals
        refine ⟨_, _, rfl, rfl, fun field cell => (complements_fixed rfl rfl).trans ?_⟩
        cases cell <;> simp [equals, likes]
  | pgsql =>
      rcases negatable with ⟨rfl, rfl | rfl | rfl⟩ <;> cases noCase
      case inl.true =>
        refine ⟨_, _, rfl, rfl, fun field cell => (complements_lower rfl rfl).trans ?_⟩
        simp [equals]
      all_goals
        refine ⟨_, _, rfl, rfl, fun field cell => (complements_fixed rfl rfl).trans ?_⟩
        cases cell <;> simp [equals, likes, SqlServer.compared]
  | sqlite3 =>
      rcases negatable with ⟨rfl, rfl | rfl | rfl⟩ <;> cases noCase
      case inl.false | inr.inl.false | inr.inr.false =>
        refine ⟨_, _, rfl, rfl, fun field cell => (complements_fixed rfl rfl).trans ?_⟩
        cases cell <;> simp [equals, likes, SqlServer.compared]
      all_goals
        refine ⟨_, _, rfl, rfl, fun field cell => (complements_lower rfl rfl).trans ?_⟩
        simp [equals, likes, SqlServer.compared]

/-- A plugin compares the field with any value alike, or with both in lower case. -/
theorem buildConstraintString_shape {operator : CriterionOperator} {literal : Literal}
    {comparison : String → Comparison}
    (built : buildConstraintString backend operator literal = .ok comparison) :
    ∃ text, ((comparison = fun field => .fixed field text literal) ∧
        ∀ other, buildConstraintString backend operator other =
          .ok fun field => .fixed field text other) ∨
      (comparison = fun field => .lower field text literal) ∧
        ∀ other, buildConstraintString backend operator other =
          .ok fun field => .lower field text other := by
  cases backend with
  | mysql =>
      simp only [buildConstraintString, mysqlBuildConstraintString] at built ⊢
      split at built <;> cases built
      exact ⟨_, .inl ⟨rfl, fun other => rfl⟩⟩
  | pgsql =>
      simp only [buildConstraintString, pgsqlBuildConstraintString] at built ⊢
      split at built
      · cases built
        exact ⟨_, .inl ⟨rfl, fun other => rfl⟩⟩
      · split at built
        · cases built
          rename_i isEqual
          exact ⟨_, .inr ⟨rfl, fun other => by simp [isEqual]⟩⟩
        · split at built <;> cases built
          rename_i notEqual isNegated
          exact ⟨_, .inr ⟨rfl, fun other => by simp [isNegated]⟩⟩
  | sqlite3 =>
      simp only [buildConstraintString, sqlite3BuildConstraintString] at built ⊢
      split at built
      · cases built
      · split at built <;> cases built <;> rename_i isNoCase
        · exact ⟨_, .inr ⟨rfl, fun other => by simp [isNoCase]⟩⟩
        · exact ⟨_, .inl ⟨rfl, fun other => by simp [isNoCase]⟩⟩

end Constraint

section Value

theorem operatorText_null (backend : Backend) :
    operatorText backend ⟨.null, false, false⟩ = "IS NULL" := by
  cases backend <;> rfl

variable {dialect : SqlDialect} {server : SqlServer dialect.backend} {operator : CriterionOperator}

/-- The text of a negated criterion is that of its value, behind the guard for NULL. -/
theorem buildCriterionString_negation {value : CriterionValue} {negated : String → ConditionText}
    (negatable : operator.Negatable)
    (built : buildCriterionValue dialect operator.negation value = .ok negated) :
    buildCriterionString dialect ⟨operator.negation, value⟩ = .ok fun field =>
      behindGuard field (negated field) := by
  rcases operator with ⟨test, noCase, not⟩
  have looksAt : test ≠ .null := by
    rcases negatable with ⟨_, rfl | rfl | rfl⟩ <;> decide
  simp only [buildCriterionString, CriterionOperator.negation, operatorText_null] at built ⊢
  simp [looksAt, built, behindGuard, bind, Except.bind]

theorem buildCriterionString_negatable {value : CriterionValue} (negatable : operator.Negatable) :
    buildCriterionString dialect ⟨operator, value⟩ =
      buildCriterionValue dialect operator value := by
  rcases operator with ⟨test, noCase, not⟩
  rcases negatable with ⟨rfl, rfl | rfl | rfl⟩ <;> simp [buildCriterionString]

theorem conjunction_behindGuard {negated : ConditionText} {meaning : Meaning Comparison}
    (isConjunction : Conjunction negated meaning) (field : String) :
    Conjunction (behindGuard field negated) fun assignment =>
      (assignment (.null field "IS NULL")).or (meaning assignment) := by
  have guard := Conjunction.of_conjunct (Conjunct.atom (Comparison.null field "IS NULL"))
  have whole := Conjunction.of_conjunct (guard.orParens isConjunction)
  simpa [behindGuard] using whole

/-- The guard of a negated criterion: every NULL is selected, whatever is behind it. -/
theorem selects_behindGuard {negated : ConditionText} {meaning : Meaning Comparison}
    (isConjunction : Conjunction negated meaning) (cell : Option server.Value) (field : String) :
    server.Selects cell (behindGuard field negated) ↔
      cell = none ∨ server.Selects cell negated := by
  rw [SqlServer.selects_iff cell (conjunction_behindGuard isConjunction field),
    SqlServer.selects_iff cell isConjunction]
  simp [SqlServer.truth, SqlServer.reads]

/-- A value that no pattern is made of: the library gives none for an empty text. -/
def NullPattern (dialect : SqlDialect) (operator : CriterionOperator) : FixedValue → Prop
  | .string value | .data value _ =>
      operator.test = .substr ∧ value.toList = [] ∧ dialect.emptyReleased = none
  | .time _ | .scalar _ => False

theorem sqlEscape_eq_null {text : Option String} {literal : Literal}
    (escaped : sqlEscape dialect text = .ok literal) : literal = .null ↔ text = none := by
  cases text with
  | none =>
      cases escaped
      simp
  | some text =>
      simp only [sqlEscape] at escaped
      cases escape : dialect.escape text <;> simp_all [Except.map]
      cases escaped
      simp

theorem fixedValue_eq_null {value : FixedValue} {literal : Literal}
    (built : buildCriterionFixedSqlValue dialect value operator = .ok literal) :
    literal = .null ↔ NullPattern dialect operator value := by
  cases value with
  | time sec =>
      cases built
      simp [NullPattern]
  | string text | data text other =>
      simp only [buildCriterionFixedSqlValue] at built
      split at built
      · rename_i isSubstr
        rcases ok_of_bind built with ⟨pattern, like, escaped⟩
        cases like
        rw [sqlEscape_eq_null escaped]
        by_cases empty : text.toList = [] <;> simp [NullPattern, isSubstr, empty]
      · rename_i notSubstr
        rw [sqlEscape_eq_null built]
        simp [NullPattern, notSubstr]
  | scalar text =>
      simp only [buildCriterionFixedSqlValue] at built
      split at built
      · rcases ok_of_bind built with ⟨pattern, like, escaped⟩
        cases like
      · rw [sqlEscape_eq_null built]
        simp [NullPattern]

/--
A pattern that the server matches with the cell: it compiles it, the cell of SQLite is not NULL,
and on MySQL the match has the same result with regard to case as without.
-/
def LiteralComplemented (server : SqlServer dialect.backend) (operator : CriterionOperator)
    (cell : Option server.Value) (literal : Except ErrorCode Literal) : Prop :=
  operator.test = .regex → ∀ pattern, literal = .ok pattern →
    server.evaluates .regexp cell (server.compared operator pattern) ∧
      (dialect.backend = .mysql → ∀ content ∈ cell, server.CaseFree content pattern)

/--
A criterion and its negation: a time has a constraint, a cell that is not NULL is compared with
no NULL, and a pattern is one that the server matches with the cell.
-/
def Complemented (dialect : SqlDialect) (server : SqlServer dialect.backend)
    (operator : CriterionOperator) (cell : Option server.Value) : CriterionValue → Prop
  | .value value =>
      (cell ≠ none → ¬ NullPattern dialect operator value) ∧
        LiteralComplemented server operator cell
          (buildCriterionFixedSqlValue dialect value operator)
  | .regex regex => LiteralComplemented server operator cell (sqlEscape dialect (some regex))
  | .brokenDownTime time => brokenDownFields time ≠ []

theorem complement_literal {literal : Literal} {comparison : String → Comparison}
    (negatable : operator.Negatable)
    (built : buildConstraintString dialect.backend operator literal = .ok comparison)
    (field : String) (cell : Option server.Value) :
    ∃ negated, buildConstraintString dialect.backend operator.negation literal = .ok negated ∧
      (server.Complements cell [.atom (comparison field)]
          (behindGuard field [.atom (negated field)]) ↔
        (cell ≠ none → literal ≠ .null) ∧
          LiteralComplemented server operator cell (.ok literal)) := by
  rcases buildConstraintString_negation server negatable literal with
    ⟨text, negated, isText, isNegated, complements⟩
  rw [isText] at built
  cases built
  refine ⟨negated, isNegated, (complements field cell).trans ?_⟩
  simp only [LiteralComplemented, Except.ok.injEq, forall_eq']
  tauto

/-- A time that is NULL passes no constraint. -/
theorem truth_timeComparison_none (entry : TimeConstraint × Int) (field : String) :
    server.truth none (timeComparison dialect.backend entry field) = .unknown := by
  rcases dialect with ⟨backend, escape, emptyReleased⟩
  cases backend <;> rfl

theorem readsAll_timeComparisons (server : SqlServer dialect.backend)
    (entries : List (TimeConstraint × Int)) (field : String) :
    server.ReadsAll
      (buildConjunction (entries.map (timeComparison dialect.backend)) field) := by
  have own : ∀ entry cell, (server.reads cell
      (timeComparison dialect.backend entry field)).isSome := by
    rcases dialect with ⟨backend, escape, emptyReleased⟩
    cases backend <;> exact fun _ _ => rfl
  induction entries with
  | nil => exact fun _ present => absurd present (by simp [buildConjunction])
  | cons entry entries ih =>
      intro comparison present
      cases entries with
      | nil =>
          simp only [List.map_cons, List.map_nil, buildConjunction, List.mem_singleton,
            ConditionToken.atom.injEq] at present
          exact present ▸ own entry
      | cons next entries =>
          simp only [List.map_cons, buildConjunction, List.mem_cons, ConditionToken.atom.injEq,
            reduceCtorEq, false_or] at present
          rcases present with rfl | later
          · exact own entry
          · exact ih comparison (by simpa using later)

/-- The text of a broken-down time and that of its negation. -/
theorem complement_brokenDownTime (time : Tm) (field : String) (cell : Option server.Value) :
    server.Complements cell
        (buildConjunction ((brokenDownFields time).map (timeComparison dialect.backend)) field)
        (behindGuard field ([.not, .lparen] ++ buildConjunction
          ((brokenDownFields time).map (timeComparison dialect.backend)) field ++ [.rparen])) ↔
      brokenDownFields time ≠ [] := by
  have reads := readsAll_timeComparisons server (brokenDownFields time) field
  by_cases set : brokenDownFields time = []
  · -- The text lacks its operand, so that it is no condition.
    have empty : Hollow ([] : ConditionText) := .nil
    have isEmpty : buildConjunction
        ((brokenDownFields time).map (timeComparison dialect.backend)) field = [] := by
      rw [set, List.map_nil, buildConjunction]
    have noAnswer : server.answer cell [] = none := by
      rw [answer_of_readsAll (isEmpty ▸ reads), ownValue, empty.parse, Option.map_none]
    simp [set, SqlServer.Complements, buildConjunction, noAnswer]
  · have isConjunction := conjunction_buildConjunction
      ((brokenDownFields time).map (timeComparison dialect.backend)) field (by simpa using set)
    have negated := Conjunction.of_conjunct isConjunction.parens.not
    have readsWhole : server.ReadsAll (behindGuard field ([.not, .lparen] ++ buildConjunction
        ((brokenDownFields time).map (timeComparison dialect.backend)) field ++ [.rparen])) := by
      intro comparison present
      simp only [behindGuard, List.cons_append, List.nil_append, List.append_assoc, List.mem_cons,
        List.mem_append, ConditionToken.atom.injEq, reduceCtorEq, false_or, or_false,
        List.not_mem_nil] at present
      rcases present with rfl | inside
      · exact fun _ => rfl
      · exact reads comparison inside
    simp only [List.cons_append, List.nil_append] at readsWhole ⊢
    rw [complements_of_conjunctions isConjunction (conjunction_behindGuard negated field) reads
      readsWhole, selects_behindGuard negated, SqlServer.selects_iff cell negated,
      SqlServer.selects_iff cell isConjunction]
    cases cell with
    | none =>
        rcases List.exists_mem_of_ne_nil _ set with ⟨entry, isEntry⟩
        have notAll : ¬ ∀ entry ∈ brokenDownFields time, (Truth.unknown : Truth) = .holds :=
          fun all => absurd (all entry isEntry) (by decide)
        simpa [Truth.all_eq_holds, truth_timeComparison_none, set] using notAll
    | some content =>
        simp only [List.map_map, Function.comp_def, truth_timeComparison, Truth.all_map_ofBool]
        cases (brokenDownFields time).all fun entry =>
          decide (Passes dialect.backend (gmtime (server.instant content)) entry) <;> simp [set]

end Value

/-- A server of texts without wildcards; a pattern of letters matches where they occur. -/
abbrev letters (backend : Backend) : SqlServer backend where
  Value := String
  compare relation caseSensitive value literal :=
    let fold := fun text : List Char => if caseSensitive then text else text.map Char.toLower
    let content := fold value.toList
    let quoted := fold literal.text.toList.tail.dropLast
    match relation with
    | .equal | .like => content = quoted
    | .regexp => decide (quoted <:+: content)
    | .lesser => decide (content < quoted)
    | .greater => decide (quoted < content)
    | .lesserOrEqual => decide (content ≤ quoted)
    | .greaterOrEqual => decide (quoted ≤ content)
  lower := String.toLower
  lowerText := String.toLower
  instant _ := 0
  accepts literal := literal ≠ .null

/-- The text of `=~ a`, and of its negation. -/
def likeA (field : String) : ConditionText :=
  [.atom (.fixed field "REGEXP BINARY" (.escaped "'a'"))]

def notLikeA (field : String) : ConditionText :=
  [.lparen, .atom (.null field "IS NULL"), .or,
    .atom (.fixed field "NOT REGEXP" (.escaped "'a'")), .rparen]

end RequiemDB
