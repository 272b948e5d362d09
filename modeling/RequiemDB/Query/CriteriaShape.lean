import RequiemDB.Classic.Literals
import RequiemDB.Query.Complement

/-!
# Criteria of one shape

Two trees of criteria that differ only in their texts, patterns and regular
expressions are written with the same tokens, but for the contents of the literals:
exactly if the same patterns are empty, where an empty pattern is written as NULL.
-/

namespace RequiemDB

open Lib

section Tokens

def Literal.token : Literal → SqlToken
  | .escaped text | .timestamp text => .text text
  | .null => .word "NULL"

/-- The tokens of the formats of `Comparison.text`. -/
def Comparison.tokens : Comparison → SqlTokens
  | .fixed field operator value => [.word field, .word operator, value.token]
  | .lower field operator value =>
      [.word "lower", .word "(", .word field, .word ")", .word operator, .word "lower", .word "(",
        value.token, .word ")"]
  | .null field operator => [.word field, .word operator]
  | .time function shift field hours operator quoted value =>
      [.word (function.text (shift.text field hours)), .word operator,
        if quoted then .text value.repr else .number value]

def tokenTokens : ConditionToken Comparison → SqlTokens
  | .lparen => [.word "("]
  | .rparen => [.word ")"]
  | .and => [.word "AND"]
  | .or => [.word "OR"]
  | .not => [.word "NOT"]
  | .atom comparison => comparison.tokens

/-- The tokens of a condition as a part of a statement. -/
def conditionTokens (tokens : ConditionText) : SqlTokens := tokens.flatMap tokenTokens

@[simp]
theorem conditionTokens_append (first second : ConditionText) :
    conditionTokens (first ++ second) = conditionTokens first ++ conditionTokens second :=
  List.flatMap_append

variable (dialect : SqlDialect)

/-- The tokens are the same, or two literals, each of something that was escaped. -/
def SqlDialect.SameButLiterals (first second : SqlToken) : Prop :=
  first = second ∨ ∃ text other content otherContent, dialect.escape text = .ok content ∧
    dialect.escape other = .ok otherContent ∧ first = .text content ∧ second = .text otherContent

variable {dialect}

@[simp]
theorem dialect_sameButLiterals_refl (token : SqlToken) : dialect.SameButLiterals token token :=
  .inl rfl

/-- What is escaped is a literal, unless there is nothing to escape. -/
theorem sqlEscape_sameButLiterals {text other : Option String} {literal otherLiteral : Literal}
    (escaped : sqlEscape dialect text = .ok literal)
    (otherEscaped : sqlEscape dialect other = .ok otherLiteral) :
    dialect.SameButLiterals literal.token otherLiteral.token ↔
      (literal = .null ↔ otherLiteral = .null) := by
  have isLiteral : ∀ {text : Option String} {literal : Literal},
      sqlEscape dialect text = .ok literal → literal = .null ∨
        ∃ text content, dialect.escape text = .ok content ∧ literal = .escaped content := by
    intro text literal escaped
    cases text with
    | none =>
        cases escaped
        exact .inl rfl
    | some text =>
        rw [sqlEscape] at escaped
        cases isContent : dialect.escape text with
        | error error => simp [isContent, Except.map] at escaped
        | ok content =>
            rw [isContent] at escaped
            cases escaped
            exact .inr ⟨text, content, isContent, rfl⟩
  rcases isLiteral escaped with rfl | ⟨text, content, isContent, rfl⟩ <;>
    rcases isLiteral otherEscaped with rfl | ⟨other, otherContent, isOther, rfl⟩
  · simp
  · simp [SqlDialect.SameButLiterals, Literal.token]
  · simp [SqlDialect.SameButLiterals, Literal.token]
  · have alike : dialect.SameButLiterals (Literal.escaped content).token
        (Literal.escaped otherContent).token :=
      .inr ⟨text, other, content, otherContent, isContent, isOther, rfl, rfl⟩
    simpa only [reduceCtorEq, iff_self, iff_true] using alike

end Tokens

section Blank

/-- A value without its text; a number stays. -/
def FixedValue.blank : FixedValue → FixedValue
  | .string _ => .string ""
  | .data _ _ => .data "" ""
  | value => value

def CriterionValue.blank : CriterionValue → CriterionValue
  | .value fixed => .value fixed.blank
  | .regex _ => .regex ""
  | .brokenDownTime time => .brokenDownTime time

def Criterion.blank (criterion : Criterion) : Criterion :=
  { criterion with value := criterion.value.blank }

mutual

def Criteria.blank : Criteria Criterion → Criteria Criterion
  | .node path criterion conjunct alternative =>
      .node path criterion.blank (optionalBlank conjunct) (optionalBlank alternative)

def optionalBlank : Option (Criteria Criterion) → Option (Criteria Criterion)
  | none => none
  | some criteria => some criteria.blank

end

/-- The value is an empty pattern. -/
def CriterionValue.EmptyPattern (dialect : SqlDialect) (operator : CriterionOperator) :
    CriterionValue → Prop
  | .value fixed => NullPattern dialect operator fixed
  | .regex _ | .brokenDownTime _ => False

def Criterion.EmptyPattern (dialect : SqlDialect) (criterion : Criterion) : Prop :=
  criterion.value.EmptyPattern dialect criterion.operator

mutual

/-- The same patterns of two trees are empty. -/
def SamePatterns (dialect : SqlDialect) : Criteria Criterion → Criteria Criterion → Prop
  | .node _ criterion conjunct alternative, .node _ other otherConjunct otherAlternative =>
      (criterion.EmptyPattern dialect ↔ other.EmptyPattern dialect) ∧
        optionalSamePatterns dialect conjunct otherConjunct ∧
        optionalSamePatterns dialect alternative otherAlternative

def optionalSamePatterns (dialect : SqlDialect) :
    Option (Criteria Criterion) → Option (Criteria Criterion) → Prop
  | none, _ => True
  | some _, none => True
  | some criteria, some other => SamePatterns dialect criteria other

end

end Blank

section Paired

variable {dialect : SqlDialect}

/-- Token lists of one length that differ in what was escaped only, exactly if `same`. -/
def Paired (dialect : SqlDialect) (same : Prop) (first second : SqlTokens) : Prop :=
  first.length = second.length ∧ (List.Forall₂ dialect.SameButLiterals first second ↔ same)

theorem Paired.refl (tokens : SqlTokens) : Paired dialect True tokens tokens :=
  ⟨rfl, iff_true_intro (List.forall₂_same.mpr fun _ _ => .inl rfl)⟩

theorem Paired.append {same otherSame : Prop} {first second otherFirst otherSecond : SqlTokens}
    (paired : Paired dialect same first second)
    (other : Paired dialect otherSame otherFirst otherSecond) :
    Paired dialect (same ∧ otherSame) (first ++ otherFirst) (second ++ otherSecond) := by
  rcases paired with ⟨sameLength, iff⟩
  rcases other with ⟨otherLength, otherIff⟩
  refine ⟨by simp [sameLength, otherLength], ?_⟩
  rw [← iff, ← otherIff]
  constructor
  · intro both
    have here := List.forall₂_take_append _ _ _ both
    have behind := List.forall₂_drop_append _ _ _ both
    rw [← sameLength, List.take_left'  rfl] at here
    rw [← sameLength, List.drop_left' rfl] at behind
    exact ⟨here, behind⟩
  · rintro ⟨here, behind⟩
    exact List.rel_append here behind

theorem Paired.of_iff {same other : Prop} {first second : SqlTokens}
    (paired : Paired dialect same first second) (iff : same ↔ other) :
    Paired dialect other first second :=
  ⟨paired.1, paired.2.trans iff⟩

theorem Paired.between {same : Prop} {first second : SqlTokens}
    (paired : Paired dialect same first second) (before behind : SqlTokens) :
    Paired dialect same (before ++ first ++ behind) (before ++ second ++ behind) :=
  (((Paired.refl before).append paired).append (Paired.refl behind)).of_iff (by simp)

end Paired

section Criterion

variable {dialect : SqlDialect}

/-- A comparison is written the same for any two literals. -/
theorem paired_buildConstraintString {operator : CriterionOperator} {literal : Literal}
    {comparison : String → Comparison}
    (built : buildConstraintString dialect.backend operator literal = .ok comparison)
    (other : Literal) :
    ∃ otherComparison, buildConstraintString dialect.backend operator other =
        .ok otherComparison ∧
      ∀ field, Paired dialect (dialect.SameButLiterals literal.token other.token)
        (comparison field).tokens (otherComparison field).tokens := by
  rcases buildConstraintString_shape built with ⟨text, ⟨rfl, builds⟩ | ⟨rfl, builds⟩⟩
  · refine ⟨_, builds other, fun field => ⟨rfl, ?_⟩⟩
    simp [Comparison.tokens]
  · refine ⟨_, builds other, fun field => ⟨rfl, ?_⟩⟩
    simp [Comparison.tokens]

/-- Every text is escaped to some literal. -/
def SqlDialect.Escapes (dialect : SqlDialect) : Prop :=
  ∀ text, ∃ literal, dialect.escape text = .ok literal

theorem sqlEscape_of_escapes (escapes : dialect.Escapes) (text : Option String) :
    ∃ literal, sqlEscape dialect text = .ok literal := by
  cases text with
  | none => exact ⟨.null, rfl⟩
  | some text =>
      rcases escapes text with ⟨literal, escaped⟩
      exact ⟨.escaped literal, by simp [sqlEscape, escaped, Except.map]⟩

theorem fixedSqlValue_of_blank (escapes : dialect.Escapes) {operator : CriterionOperator}
    {value other : FixedValue} (same : value.blank = other.blank) {literal : Literal}
    (built : buildCriterionFixedSqlValue dialect value operator = .ok literal) :
    ∃ otherLiteral, buildCriterionFixedSqlValue dialect other operator = .ok otherLiteral ∧
      (dialect.SameButLiterals literal.token otherLiteral.token ↔
        (NullPattern dialect operator value ↔ NullPattern dialect operator other)) := by
  cases value with
  | time sec | scalar text =>
      cases other <;> simp only [FixedValue.blank] at same <;> cases same
      exact ⟨literal, built, by simp⟩
  | string text | data text shown =>
      have exists_other : ∃ otherLiteral,
          buildCriterionFixedSqlValue dialect other operator = .ok otherLiteral ∧
            (dialect.SameButLiterals literal.token otherLiteral.token ↔
              (literal = .null ↔ otherLiteral = .null)) := by
        cases other <;> simp only [FixedValue.blank] at same <;> cases same
        simp only [buildCriterionFixedSqlValue] at built ⊢
        split at built
        · rename_i isSubstr
          rcases ok_of_bind built with ⟨pattern, _, escaped⟩
          simp only [isSubstr, if_true]
          rcases sqlEscape_of_escapes escapes _ with ⟨otherLiteral, otherEscaped⟩
          exact ⟨otherLiteral, otherEscaped, sqlEscape_sameButLiterals escaped otherEscaped⟩
        · rename_i notSubstr
          simp only [notSubstr, if_false]
          rcases sqlEscape_of_escapes escapes _ with ⟨otherLiteral, otherEscaped⟩
          exact ⟨otherLiteral, otherEscaped, sqlEscape_sameButLiterals built otherEscaped⟩
      rcases exists_other with ⟨otherLiteral, otherBuilt, alike⟩
      refine ⟨otherLiteral, otherBuilt, ?_⟩
      rw [alike, fixedValue_eq_null built, fixedValue_eq_null otherBuilt]

theorem paired_atom {same : Prop} {first second : Comparison}
    (paired : Paired dialect same first.tokens second.tokens) :
    Paired dialect same (conditionTokens [.atom first]) (conditionTokens [.atom second]) := by
  simpa [conditionTokens, tokenTokens] using paired

/-- Values of one shape are written alike, as far as they are empty patterns. -/
theorem paired_buildCriterionValue (escapes : dialect.Escapes) {operator : CriterionOperator}
    {value other : CriterionValue} (same : value.blank = other.blank)
    {text : String → ConditionText}
    (built : buildCriterionValue dialect operator value = .ok text) :
    ∃ otherText, buildCriterionValue dialect operator other = .ok otherText ∧
      ∀ field, Paired dialect
        (value.EmptyPattern dialect operator ↔ other.EmptyPattern dialect operator)
        (conditionTokens (text field)) (conditionTokens (otherText field)) := by
  cases value with
  | value fixed =>
      have inverse : ∃ otherFixed, other = .value otherFixed ∧ fixed.blank = otherFixed.blank := by
        cases other <;> simp_all [CriterionValue.blank]
      rcases inverse with ⟨otherFixed, rfl, sameFixed⟩
      rcases ok_of_bind built with ⟨literal, isLiteral, rest⟩
      rcases ok_of_bind rest with ⟨comparison, isComparison, result⟩
      cases result
      rcases fixedSqlValue_of_blank escapes sameFixed isLiteral with
        ⟨otherLiteral, isOther, literalsPaired⟩
      rcases paired_buildConstraintString isComparison otherLiteral with
        ⟨otherComparison, isOtherComparison, paired⟩
      refine ⟨fun field => [.atom (otherComparison field)], ?_, fun field => ?_⟩
      · simp [buildCriterionValue, buildCriterionFixedValue, isOther, isOtherComparison, bind,
          Except.bind]
      · exact paired_atom ((paired field).of_iff literalsPaired)
  | regex regex =>
      have inverse : ∃ otherRegex, other = .regex otherRegex := by
        cases other <;> simp_all [CriterionValue.blank]
      rcases inverse with ⟨otherRegex, rfl⟩
      rcases ok_of_bind built with ⟨literal, isLiteral, rest⟩
      rcases ok_of_bind rest with ⟨comparison, isComparison, result⟩
      cases result
      rcases sqlEscape_of_escapes escapes (some otherRegex) with ⟨otherLiteral, isOther⟩
      rcases paired_buildConstraintString isComparison otherLiteral with
        ⟨otherComparison, isOtherComparison, paired⟩
      have notNull : literal ≠ .null := by
        rw [Ne, sqlEscape_eq_null isLiteral]
        simp
      have otherNotNull : otherLiteral ≠ .null := by
        rw [Ne, sqlEscape_eq_null isOther]
        simp
      refine ⟨fun field => [.atom (otherComparison field)], ?_, fun field => ?_⟩
      · simp [buildCriterionValue, buildCriterionRegex, isOther, isOtherComparison, bind,
          Except.bind]
      · refine paired_atom ((paired field).of_iff ?_)
        rw [sqlEscape_sameButLiterals isLiteral isOther]
        simp [notNull, otherNotNull, CriterionValue.EmptyPattern]
  | brokenDownTime time =>
      have inverse : other = .brokenDownTime time := by
        cases other <;> simp_all [CriterionValue.blank]
      subst inverse
      refine ⟨text, built, fun field => ?_⟩
      exact (Paired.refl _).of_iff (by simp)

/-- Criteria of one shape are written alike, as far as they are empty patterns. -/
theorem paired_buildCriterionString (escapes : dialect.Escapes) {first second : Criterion}
    (same : first.blank = second.blank) {text : String → ConditionText}
    (built : buildCriterionString dialect first = .ok text) :
    ∃ otherText, buildCriterionString dialect second = .ok otherText ∧
      ∀ field, Paired dialect (first.EmptyPattern dialect ↔ second.EmptyPattern dialect)
        (conditionTokens (text field)) (conditionTokens (otherText field)) := by
  rcases first with ⟨operator, value⟩
  rcases second with ⟨otherOperator, other⟩
  simp only [Criterion.blank, Criterion.mk.injEq] at same
  rcases same with ⟨rfl, sameValue⟩
  simp only [buildCriterionString] at built ⊢
  split at built
  · rename_i testsNull
    have noPattern : ∀ value : CriterionValue, ¬ value.EmptyPattern dialect operator := by
      rcases testsNull with rfl | rfl
      · rintro ((_ | _ | _ | _) | _ | _) <;> simp [CriterionValue.EmptyPattern, NullPattern]
      · rintro ((_ | _ | _ | _) | _ | _) <;> simp [CriterionValue.EmptyPattern, NullPattern]
    refine ⟨text, by simp only [testsNull, if_true]; exact built, fun field => ?_⟩
    exact (Paired.refl _).of_iff (by simp [Criterion.EmptyPattern, noPattern])
  · rename_i looksAt
    split at built
    · rename_i negated
      rcases ok_of_bind built with ⟨inner, isInner, result⟩
      cases result
      rcases paired_buildCriterionValue escapes sameValue isInner with ⟨otherInner, isOther, paired⟩
      refine ⟨_, by simp only [looksAt, negated, if_true, if_false, isOther]; rfl, fun field => ?_⟩
      simp only [conditionTokens_append]
      exact (paired field).between _ _
    · rename_i notNegated
      rcases paired_buildCriterionValue escapes sameValue built with ⟨otherText, isOther, paired⟩
      exact ⟨otherText, by simp [looksAt, notNegated, isOther], paired⟩

end Criterion

section Tree

variable {dialect : SqlDialect}

/-- The texts of criteria of one shape, as far as the same patterns are empty. -/
def PairedCriteria (dialect : SqlDialect) (first : Criteria Criterion) : Prop :=
  ∀ (second : Criteria Criterion) (join joined : Join) (tokens : ConditionText),
    first.blank = second.blank → criteriaTokens dialect first join = .ok (tokens, joined) →
      ∃ otherTokens, criteriaTokens dialect second join = .ok (otherTokens, joined) ∧
        Paired dialect (SamePatterns dialect first second) (conditionTokens tokens)
          (conditionTokens otherTokens)

/-- A part that is there in both trees, with what is written around it. -/
theorem paired_optionalTokens {part other : Option (Criteria Criterion)}
    (pairs : ∀ criteria ∈ part, PairedCriteria dialect criteria)
    (same : optionalBlank part = optionalBlank other) {opening closing tokens : ConditionText}
    {join joined : Join}
    (resolved : optionalTokens dialect opening closing part join = .ok (tokens, joined)) :
    part.isSome = other.isSome ∧
      ∃ otherTokens, optionalTokens dialect opening closing other join =
          .ok (otherTokens, joined) ∧
        Paired dialect (optionalSamePatterns dialect part other) (conditionTokens tokens)
          (conditionTokens otherTokens) := by
  cases part with
  | none =>
      cases other with
      | some other => simp [optionalBlank] at same
      | none =>
          refine ⟨rfl, tokens, resolved, (Paired.refl _).of_iff ?_⟩
          simp [optionalSamePatterns]
  | some criteria =>
      cases other with
      | none => simp [optionalBlank] at same
      | some other =>
          simp only [optionalBlank, Option.some.injEq] at same
          rcases ok_of_bind resolved with ⟨⟨inner, joinInner⟩, isInner, result⟩
          injection result with result
          rcases Prod.mk.inj result with ⟨rfl, rfl⟩
          rcases pairs criteria rfl other join joinInner inner same isInner with
            ⟨otherInner, isOther, paired⟩
          refine ⟨rfl, opening ++ otherInner ++ closing, ?_, ?_⟩
          · rw [optionalTokens, isOther]
            rfl
          · simp only [conditionTokens_append, optionalSamePatterns]
            exact paired.between _ _

mutual

theorem pairedCriteria (escapes : dialect.Escapes) :
    ∀ criteria : Criteria Criterion, PairedCriteria dialect criteria
  | .node path criterion conjunct alternative => by
      rintro ⟨otherPath, other, otherConjunct, otherAlternative⟩ join joined tokens same resolved
      simp only [Criteria.blank, Criteria.node.injEq] at same
      rcases same with ⟨rfl, sameCriterion, sameConjunct, sameAlternative⟩
      rw [criteriaTokens] at resolved
      rcases ok_of_bind resolved with ⟨⟨fieldName, joinField⟩, atField, resolved⟩
      rcases ok_of_bind resolved with ⟨text, built, resolved⟩
      rcases ok_of_bind resolved with ⟨⟨both, joinBoth⟩, atConjunct, resolved⟩
      rcases ok_of_bind resolved with ⟨⟨either, joinEither⟩, atAlternative, resolved⟩
      injection resolved with result
      rcases Prod.mk.inj result with ⟨rfl, rfl⟩
      rcases paired_buildCriterionString escapes sameCriterion built with
        ⟨otherText, otherBuilt, own⟩
      rcases paired_optionalTokens (pairedOptional escapes conjunct) sameConjunct atConjunct with
        ⟨_, otherBoth, otherConjunctTokens, conjunctPaired⟩
      rcases paired_optionalTokens (pairedOptional escapes alternative) sameAlternative
        atAlternative with ⟨bothSome, otherEither, otherAlternativeTokens, alternativePaired⟩
      refine ⟨(if otherAlternative.isSome then [.lparen, .lparen] else []) ++
        otherText (fieldText fieldName) ++ otherBoth ++ otherEither, ?_, ?_⟩
      · rw [criteriaTokens, atField]
        simp only [bind, Except.bind, otherBuilt, otherConjunctTokens, otherAlternativeTokens]
      · rw [bothSome]
        simp only [conditionTokens_append, SamePatterns]
        have whole := (((Paired.refl (conditionTokens
          (if otherAlternative.isSome then [.lparen, .lparen] else []))).append
            (own (fieldText fieldName))).append conjunctPaired).append alternativePaired
        exact whole.of_iff (by simp [and_assoc])

theorem pairedOptional (escapes : dialect.Escapes) :
    ∀ part : Option (Criteria Criterion), ∀ criteria ∈ part, PairedCriteria dialect criteria
  | none => fun _ absent => absurd absent (by simp)
  | some criteria => fun inner isInner => by
      rw [Option.mem_some_iff] at isInner
      subst isInner
      exact pairedCriteria escapes criteria

end

end Tree

/--
The texts of a message change no statement of its insertion but for what was escaped in the
literals; those of criteria change no condition, exactly if the same patterns are empty.
-/
theorem texts_change_literals_iff {E : EnumKind → Type} [Librequiem E] (dialect : SqlDialect)
    (escapes : dialect.Escapes) (answers : Answers) (escape : Escape)
    {message otherMessage : Message E} (sameMessage : message.blank = otherMessage.blank)
    {criteria other : Criteria Criterion} (sameCriteria : criteria.blank = other.blank)
    {join joined : Join} {text : String}
    (resolved : classicPathResolveCriteria (criterionText dialect) criteria join =
      .ok (text, joined)) :
    List.Forall₂ (List.Forall₂ (SameButLiterals escape))
        (sentTokens ((classicInsert message).run (recording answers escape) []).2)
        (sentTokens ((classicInsert otherMessage).run (recording answers escape) []).2) ∧
      ∃ tokens otherTokens,
        criteriaTokens dialect criteria join = .ok (tokens, joined) ∧
        criteriaTokens dialect other join = .ok (otherTokens, joined) ∧
        text = conditionText tokens ∧
        classicPathResolveCriteria (criterionText dialect) other join =
          .ok (conditionText otherTokens, joined) ∧
        (List.Forall₂ dialect.SameButLiterals (conditionTokens tokens)
            (conditionTokens otherTokens) ↔
          SamePatterns dialect criteria other) := by
  refine ⟨sameButLiterals_classicInsert answers sameMessage, ?_⟩
  rw [classicPathResolveCriteria_eq] at resolved
  cases atTokens : criteriaTokens dialect criteria join with
  | error error =>
      rw [atTokens] at resolved
      cases resolved
  | ok answer =>
      rcases answer with ⟨tokens, joinTokens⟩
      rw [atTokens] at resolved
      injection resolved with result
      rcases Prod.mk.inj result with ⟨rfl, rfl⟩
      rcases pairedCriteria escapes criteria other join joinTokens tokens sameCriteria atTokens with
        ⟨otherTokens, otherAtTokens, paired⟩
      refine ⟨tokens, otherTokens, rfl, otherAtTokens, rfl, ?_, paired.2⟩
      rw [classicPathResolveCriteria_eq, otherAtTokens]
      rfl

/-- The messageid contains a text. -/
def substring (text : String) : Criteria Criterion :=
  .node messageidPath ⟨⟨.substr, false, false⟩, .value (.string text)⟩ none none

/-- An alert with a messageid. -/
def named (messageid : String) : Message TextEnum :=
  .alert { Alert.bare TextEnum with messageid := some messageid }

/-- A server that accepts every statement. -/
def accepting : Answers where
  query _ := 0
  maxIdent _ := .ok (.number 1)
  fetchRow _ := .ok ()
  fetchField _ := .ok (some (.number 1))

theorem texts_change_literals_iff_substring :
    List.Forall₂ (List.Forall₂ (SameButLiterals .plain))
        (sentTokens ((classicInsert (named "a")).run (recording accepting .plain) []).2)
        (sentTokens ((classicInsert (named "b")).run (recording accepting .plain) []).2) ∧
      ∃ tokens otherTokens,
        criteriaTokens (plainDialect .mysql) (substring "a") .new = .ok (tokens, .new) ∧
        criteriaTokens (plainDialect .mysql) (substring "b") .new = .ok (otherTokens, .new) ∧
        "top_table.messageid LIKE BINARY 'a'" = conditionText tokens ∧
        classicPathResolveCriteria (criterionText (plainDialect .mysql)) (substring "b") .new =
          .ok (conditionText otherTokens, .new) ∧
        (List.Forall₂ (plainDialect .mysql).SameButLiterals (conditionTokens tokens)
            (conditionTokens otherTokens) ↔
          SamePatterns (plainDialect .mysql) (substring "a") (substring "b")) := by
  refine texts_change_literals_iff (plainDialect .mysql) (fun text => ⟨_, rfl⟩) accepting .plain
    (show (named "a").blank = (named "b").blank from rfl)
    (show (substring "a").blank = (substring "b").blank from rfl) ?_
  decide +kernel

/-- A pattern that is empty is written as the word NULL, which is no literal. -/
theorem emptySubstring_not_literal :
    (substring "a").blank = (substring "").blank ∧
    classicPathResolveCriteria (criterionText (plainDialect .mysql)) (substring "a") .new =
      .ok ("top_table.messageid LIKE BINARY 'a'", .new) ∧
    classicPathResolveCriteria (criterionText (plainDialect .mysql)) (substring "") .new =
      .ok ("top_table.messageid LIKE BINARY NULL", .new) ∧
    ∃ tokens otherTokens,
      criteriaTokens (plainDialect .mysql) (substring "a") .new = .ok (tokens, .new) ∧
      criteriaTokens (plainDialect .mysql) (substring "") .new = .ok (otherTokens, .new) ∧
      ¬ List.Forall₂ (plainDialect .mysql).SameButLiterals (conditionTokens tokens)
        (conditionTokens otherTokens) := by
  refine ⟨rfl, ?_, ?_,
    [.atom (.fixed "top_table.messageid" "LIKE BINARY" (.escaped "'a'"))],
    [.atom (.fixed "top_table.messageid" "LIKE BINARY" .null)], ?_, ?_, ?_⟩
  · decide +kernel
  · decide +kernel
  · decide +kernel
  · decide +kernel
  · simp [conditionTokens, tokenTokens, Comparison.tokens, Literal.token,
      SqlDialect.SameButLiterals]

end RequiemDB
