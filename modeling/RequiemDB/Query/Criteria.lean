import RequiemDB.Query.Criterion
import RequiemDB.Query.Values

/-!
# Criteria and their condition

The criteria of a query are written without a parenthesis around a conjunction, and
with two pairs around an alternative. Every text of a criterion is a conjunction of
operands, so the texts put next to each other are read as the tree says: the
criterion and its conjunct, or the alternative.
-/

namespace RequiemDB

open Lib

theorem ok_of_bind {Error First Answer : Type} {first : Except Error First}
    {rest : First → Except Error Answer} {answer : Answer}
    (succeeded : first >>= rest = .ok answer) :
    ∃ middle, first = .ok middle ∧ rest middle = .ok answer := by
  cases first with
  | error error => exact absurd succeeded (by simp [bind, Except.bind])
  | ok middle => exact ⟨middle, rfl, succeeded⟩

section Tokens

variable (dialect : SqlDialect)

/-- The text of a criterion on the fields of its path. -/
def criterionText (criterion : Criterion) : Except ErrorCode (List FieldName → String) :=
  (buildCriterionString dialect criterion).map fun text fields =>
    conditionText (text (fieldText fields))

mutual

/-- `classicPathResolveCriteria` with the tokens of the text. -/
def criteriaTokens : Criteria Criterion → Join → Except ErrorCode (ConditionText × Join)
  | .node path criterion conjunct alternative, join => do
      let (fieldName, join) ← classicPathResolve path .where_ join
      let text ← buildCriterionString dialect criterion
      let (conjunctText, join) ← optionalTokens [.and] [] conjunct join
      let (alternativeText, join) ←
        optionalTokens [.rparen, .or, .lparen] [.rparen, .rparen] alternative join
      .ok ((if alternative.isSome then [.lparen, .lparen] else []) ++ text (fieldText fieldName) ++
        conjunctText ++ alternativeText, join)

def optionalTokens (opening closing : ConditionText) :
    Option (Criteria Criterion) → Join → Except ErrorCode (ConditionText × Join)
  | none, join => .ok ([], join)
  | some criteria, join => do
      let (text, join) ← criteriaTokens criteria join
      .ok (opening ++ text ++ closing, join)

end

@[simp]
theorem conditionText_nil : conditionText [] = "" := rfl

@[simp]
theorem conditionText_append (first second : ConditionText) :
    conditionText (first ++ second) = conditionText first ++ conditionText second := by
  simp [conditionText, String.join_append]

/-- A text with the table it was resolved into. -/
def withCharacters : ConditionText × Join → String × Join :=
  fun (tokens, join) => (conditionText tokens, join)

mutual

/-- The function of the source writes the characters of the tokens. -/
theorem classicPathResolveCriteria_eq : ∀ (criteria : Criteria Criterion) (join : Join),
    classicPathResolveCriteria (criterionText dialect) criteria join =
      (criteriaTokens dialect criteria join).map withCharacters
  | .node path criterion conjunct alternative, join => by
      rw [classicPathResolveCriteria, classicPathResolveCriterion, criteriaTokens, criterionText]
      cases classicPathResolve path .where_ join with
      | error error => rfl
      | ok resolved =>
          cases buildCriterionString dialect criterion with
          | error error => rfl
          | ok text =>
              have inConjunct := resolveOptionalCriteria_eq [.and] [] conjunct resolved.2
              simp only [Except.map, bind, Except.bind]
              rw [show (" AND " : String) = conditionText [.and] from rfl,
                show ("" : String) = conditionText [] from rfl, inConjunct]
              cases optionalTokens dialect [.and] [] conjunct resolved.2 with
              | error error => rfl
              | ok both =>
                  have inAlternative := resolveOptionalCriteria_eq [.rparen, .or, .lparen]
                    [.rparen, .rparen] alternative both.2
                  simp only [Except.map, withCharacters]
                  rw [show (") OR (" : String) = conditionText [.rparen, .or, .lparen] from rfl,
                    show ("))" : String) = conditionText [.rparen, .rparen] from rfl,
                    inAlternative]
                  cases optionalTokens dialect [.rparen, .or, .lparen] [.rparen, .rparen]
                    alternative both.2 with
                  | error error => rfl
                  | ok either =>
                      have opening : (if alternative.isSome then "((" else "") = conditionText
                          (if alternative.isSome then [.lparen, .lparen] else []) := by
                        split <;> rfl
                      simp [Except.map, withCharacters, opening, String.append_assoc]

theorem resolveOptionalCriteria_eq (opening closing : ConditionText) :
    ∀ (criteria : Option (Criteria Criterion)) (join : Join),
      resolveOptionalCriteria (criterionText dialect) (conditionText opening)
          (conditionText closing) criteria join =
        (optionalTokens dialect opening closing criteria join).map withCharacters
  | none, join => rfl
  | some criteria, join => by
      rw [resolveOptionalCriteria, optionalTokens, classicPathResolveCriteria_eq criteria join]
      cases criteriaTokens dialect criteria join with
      | error error => rfl
      | ok resolved =>
          simp [Except.map, bind, Except.bind, withCharacters, String.append_assoc]

end

end Tokens

section Meaning

variable (dialect : SqlDialect)

/-- The operator looks at no value. -/
def CriterionOperator.TestsNull (operator : CriterionOperator) : Prop :=
  operator = ⟨.null, false, false⟩ ∨ operator = ⟨.null, false, true⟩

instance (operator : CriterionOperator) : Decidable operator.TestsNull :=
  inferInstanceAs (Decidable (_ ∨ _))

/-- There is a constraint for some field of a broken-down time. -/
def CriterionValue.TimeSet : CriterionValue → Prop
  | .brokenDownTime time => brokenDownFields time ≠ []
  | .value _ | .regex _ => True

/-- A broken-down time that the operator looks at is constrained. -/
def Criterion.TimeSet (criterion : Criterion) : Prop :=
  ¬ criterion.operator.TestsNull → criterion.value.TimeSet

mutual

/-- Every broken-down time of the criteria that is looked at is constrained. -/
def Criteria.TimesSet : Criteria Criterion → Prop
  | .node _ criterion conjunct alternative =>
      criterion.TimeSet ∧ optionalTimesSet conjunct ∧ optionalTimesSet alternative

def optionalTimesSet : Option (Criteria Criterion) → Prop
  | none => True
  | some criteria => criteria.TimesSet

end

variable (assignment : Comparison → Truth)

/-- The value of a text that is read on its own. -/
def ownValue (tokens : ConditionText) : Option Truth :=
  (parseCondition tokens).map (Condition.eval assignment)

/-- The value of a text that is read on its own, an error if it is none. -/
def readOwn (tokens : ConditionText) : Except ErrorCode Truth :=
  (ownValue assignment tokens).elim (.error criterionError) .ok

mutual

/--
What criteria ask for: the criterion together with its conjunct, or else the alternative.
Each criterion counts by its own text, on the field that its path resolves to.
-/
def criteriaValue : Criteria Criterion → Join → Except ErrorCode (Truth × Join)
  | .node path criterion conjunct alternative, join => do
      let (fieldName, join) ← classicPathResolve path .where_ join
      let text ← buildCriterionString dialect criterion
      let own ← readOwn assignment (text (fieldText fieldName))
      let (both, join) ← optionalValue Truth.and own conjunct join
      optionalValue Truth.or both alternative join

def optionalValue (connect : Truth → Truth → Truth) (left : Truth) :
    Option (Criteria Criterion) → Join → Except ErrorCode (Truth × Join)
  | none, join => .ok (left, join)
  | some criteria, join => do
      let (right, join) ← criteriaValue criteria join
      .ok (connect left right, join)

end

end Meaning

section Criterion

variable {dialect : SqlDialect}

/-- The constraints of a broken-down time are operands with AND between them. -/
theorem conjunction_buildConjunction (comparisons : List (String → Comparison)) (field : String)
    (some : comparisons ≠ []) :
    Conjunction (buildConjunction comparisons field) fun assignment =>
      .all (comparisons.map fun comparison => assignment (comparison field)) := by
  induction comparisons with
  | nil => exact absurd rfl some
  | cons comparison comparisons ih =>
      have first := Conjunction.of_conjunct (Conjunct.atom (comparison field))
      cases comparisons with
      | nil => simpa [buildConjunction, Truth.all] using first
      | cons next rest => exact first.and (ih (List.cons_ne_nil next rest))

theorem conjunction_brokenDownTimeEqual {operator : CriterionOperator} {time : Tm}
    {text : String → ConditionText}
    (built : buildCriterionBrokenDownTimeEqual dialect operator time = .ok text)
    (set : brokenDownFields time ≠ []) (field : String) :
    ∃ meaning, Conjunction (text field) meaning := by
  rcases ok_of_bind built with ⟨comparisons, mapped, result⟩
  injection result with result
  subst result
  refine ⟨_, conjunction_buildConjunction comparisons field ?_⟩
  rintro rfl
  cases fields : brokenDownFields time with
  | nil => exact set fields
  | cons entry entries =>
      rw [fields, List.mapM_cons] at mapped
      rcases ok_of_bind mapped with ⟨_, _, mapped⟩
      rcases ok_of_bind mapped with ⟨_, _, mapped⟩
      exact absurd mapped (by simp [pure, Except.pure])

theorem conjunction_buildCriterionValue {operator : CriterionOperator} {value : CriterionValue}
    {text : String → ConditionText} (built : buildCriterionValue dialect operator value = .ok text)
    (set : value.TimeSet) (field : String) : ∃ meaning, Conjunction (text field) meaning := by
  cases value with
  | value value =>
      rcases ok_of_bind built with ⟨literal, _, built⟩
      rcases ok_of_bind built with ⟨comparison, _, result⟩
      injection result with result
      subst result
      exact ⟨_, .of_conjunct (.atom _)⟩
  | regex regex =>
      rcases ok_of_bind built with ⟨literal, _, built⟩
      rcases ok_of_bind built with ⟨comparison, _, result⟩
      injection result with result
      subst result
      exact ⟨_, .of_conjunct (.atom _)⟩
  | brokenDownTime time =>
      have isSet : brokenDownFields time ≠ [] := set
      simp only [buildCriterionValue, buildCriterionBrokenDownTime] at built
      split at built
      · exact conjunction_brokenDownTimeEqual built isSet field
      · split at built
        · rcases ok_of_bind built with ⟨inner, equal, result⟩
          injection result with result
          subst result
          rcases conjunction_brokenDownTimeEqual equal isSet field with ⟨meaning, isConjunction⟩
          exact ⟨_, .of_conjunct isConjunction.parens.not⟩
        · exact absurd built (by simp)

/-- The text of a criterion is a conjunction; the guard of a negated one is in parentheses. -/
theorem conjunction_buildCriterionString {criterion : Criterion} {text : String → ConditionText}
    (built : buildCriterionString dialect criterion = .ok text) (set : criterion.TimeSet)
    (field : String) : ∃ meaning, Conjunction (text field) meaning := by
  simp only [buildCriterionString] at built
  split at built
  · injection built with result
    subst result
    exact ⟨_, .of_conjunct (.atom _)⟩
  · rename_i looksAt
    split at built
    · rcases ok_of_bind built with ⟨inner, value, result⟩
      injection result with result
      subst result
      rcases conjunction_buildCriterionValue value (set looksAt) field with
        ⟨meaning, isConjunction⟩
      have guard := Conjunction.of_conjunct (Conjunct.atom
        (Comparison.null field (operatorText dialect.backend ⟨.null, false, false⟩)))
      exact ⟨_, .of_conjunct (guard.orParens isConjunction)⟩
    · exact conjunction_buildCriterionValue built (set looksAt) field

/-- A broken-down time without a constraint leaves an operand out. -/
theorem hollow_buildCriterionValue {operator : CriterionOperator} {value : CriterionValue}
    {text : String → ConditionText} (built : buildCriterionValue dialect operator value = .ok text)
    (notSet : ¬ value.TimeSet) (field : String) : Hollow (text field) := by
  cases value with
  | value value => exact absurd trivial notSet
  | regex regex => exact absurd trivial notSet
  | brokenDownTime time =>
      have empty : brokenDownFields time = [] := by simpa [CriterionValue.TimeSet] using notSet
      have equal : ∀ operator, buildCriterionBrokenDownTimeEqual dialect operator time =
          .ok (buildConjunction []) := by
        intro operator
        rw [buildCriterionBrokenDownTimeEqual, empty]
        rfl
      simp only [buildCriterionValue, buildCriterionBrokenDownTime] at built
      split at built
      · rw [equal] at built
        injection built with result
        subst result
        exact .nil
      · split at built
        · rw [buildCriterionBrokenDownTimeNotEqual, equal] at built
          injection built with result
          subst result
          exact ((Hollow.nil.append (.inr (.inr rfl)) []).cons (.inl rfl)).cons (.inr rfl)
        · exact absurd built (by simp)

theorem hollow_buildCriterionString {criterion : Criterion} {text : String → ConditionText}
    (built : buildCriterionString dialect criterion = .ok text) (notSet : ¬ criterion.TimeSet)
    (field : String) : Hollow (text field) := by
  have looksAt : ¬ criterion.operator.TestsNull := fun null => notSet fun looks => absurd null looks
  have valueNotSet : ¬ criterion.value.TimeSet := fun set => notSet fun _ => set
  simp only [buildCriterionString] at built
  split at built
  · rename_i null
    exact absurd null looksAt
  · split at built
    · rcases ok_of_bind built with ⟨inner, value, result⟩
      injection result with result
      subst result
      have hollow := hollow_buildCriterionValue value valueNotSet field
      have closed := hollow.append (.inr (.inr rfl)) []
      exact (closed.connect (.inr rfl) [.atom _]).cons (.inl rfl)
    · exact hollow_buildCriterionValue built valueNotSet field

end Criterion

section Main

variable (dialect : SqlDialect)

/-- The tokens of criteria are a conjunction with the value that the criteria ask for. -/
def Compiles (criteria : Criteria Criterion) : Prop :=
  ∀ (join joined : Join) (tokens : ConditionText),
    criteriaTokens dialect criteria join = .ok (tokens, joined) →
      ∃ meaning, Conjunction tokens meaning ∧
        ∀ assignment,
          criteriaValue dialect assignment criteria join = .ok (meaning assignment, joined)

theorem readOwn_of_conjunction {tokens : ConditionText} {meaning : Meaning Comparison}
    (isConjunction : Conjunction tokens meaning) (assignment : Comparison → Truth) :
    readOwn assignment tokens = .ok (meaning assignment) := by
  rcases isConjunction.parse with ⟨condition, parsed, value⟩
  simp [readOwn, ownValue, parsed, value]

section Parts

variable {dialect} {part : Option (Criteria Criterion)} {join joined : Join}
  {own : ConditionText} {meaning : Meaning Comparison}

/-- A criterion with its conjunct, if it has one, is a conjunction again. -/
theorem conjunction_conjunct (compiles : ∀ inner ∈ part, Compiles dialect inner)
    (isOwn : Conjunction own meaning) {tokens : ConditionText}
    (resolved : optionalTokens dialect [.and] [] part join = .ok (tokens, joined)) :
    ∃ both, Conjunction (own ++ tokens) both ∧ ∀ assignment,
      optionalValue dialect assignment Truth.and (meaning assignment) part join =
        .ok (both assignment, joined) := by
  cases part with
  | none =>
      injection resolved with result
      rcases Prod.mk.inj result with ⟨rfl, rfl⟩
      refine ⟨meaning, ?_, fun _ => rfl⟩
      rw [List.append_nil]
      exact isOwn
  | some criteria =>
      rcases ok_of_bind resolved with ⟨⟨inner, joinInner⟩, atInner, result⟩
      injection result with result
      rcases Prod.mk.inj result with ⟨rfl, rfl⟩
      rcases compiles criteria rfl join joinInner inner atInner with ⟨right, isRight, value⟩
      refine ⟨fun assignment => (meaning assignment).and (right assignment), ?_,
        fun assignment => ?_⟩
      · rw [List.append_nil]
        exact isOwn.and isRight
      · rw [optionalValue, value assignment]
        rfl

/-- What stands in front of an alternative goes into the parentheses in front of it. -/
theorem conjunction_alternative (compiles : ∀ inner ∈ part, Compiles dialect inner)
    (isOwn : Conjunction own meaning) {tokens : ConditionText}
    (resolved : optionalTokens dialect [.rparen, .or, .lparen] [.rparen, .rparen] part join =
      .ok (tokens, joined)) :
    ∃ either, Conjunction ((if part.isSome then [.lparen, .lparen] else []) ++ own ++ tokens)
        either ∧ ∀ assignment,
      optionalValue dialect assignment Truth.or (meaning assignment) part join =
        .ok (either assignment, joined) := by
  cases part with
  | none =>
      injection resolved with result
      rcases Prod.mk.inj result with ⟨rfl, rfl⟩
      refine ⟨meaning, ?_, fun _ => rfl⟩
      simpa using isOwn
  | some criteria =>
      rcases ok_of_bind resolved with ⟨⟨inner, joinInner⟩, atInner, result⟩
      injection result with result
      rcases Prod.mk.inj result with ⟨rfl, rfl⟩
      rcases compiles criteria rfl join joinInner inner atInner with ⟨right, isRight, value⟩
      have left := Conjunction.of_conjunct isOwn.parens
      have whole := Conjunction.of_conjunct
        (left.orParens (Conjunction.of_conjunct isRight.parens))
      refine ⟨fun assignment => (meaning assignment).or (right assignment), ?_,
        fun assignment => ?_⟩
      · simpa using whole
      · rw [optionalValue, value assignment]
        rfl

end Parts

mutual

theorem compiles_criteria : ∀ criteria : Criteria Criterion, criteria.TimesSet →
    Compiles dialect criteria
  | .node path criterion conjunct alternative, set => by
      intro join joined tokens resolved
      rw [Criteria.TimesSet] at set
      rcases set with ⟨isSet, conjunctSet, alternativeSet⟩
      have conjunctCompiles := compiles_optional conjunct conjunctSet
      have alternativeCompiles := compiles_optional alternative alternativeSet
      rw [criteriaTokens] at resolved
      rcases ok_of_bind resolved with ⟨⟨fieldName, joinField⟩, atField, resolved⟩
      rcases ok_of_bind resolved with ⟨text, built, resolved⟩
      rcases ok_of_bind resolved with ⟨⟨both, joinBoth⟩, atConjunct, resolved⟩
      rcases ok_of_bind resolved with ⟨⟨either, joinEither⟩, atAlternative, resolved⟩
      injection resolved with result
      rcases Prod.mk.inj result with ⟨rfl, rfl⟩
      rcases conjunction_buildCriterionString built isSet (fieldText fieldName) with
        ⟨own, isOwn⟩
      rcases conjunction_conjunct conjunctCompiles isOwn atConjunct with
        ⟨together, isTogether, together_value⟩
      rcases conjunction_alternative alternativeCompiles isTogether atAlternative with
        ⟨whole, isWhole, whole_value⟩
      refine ⟨whole, ?_, fun assignment => ?_⟩
      · simpa only [List.append_assoc] using isWhole
      · have ownValue := readOwn_of_conjunction isOwn assignment
        rw [criteriaValue, atField]
        simp only [bind, Except.bind, built, ownValue, together_value, whole_value]

theorem compiles_optional : ∀ criteria : Option (Criteria Criterion), optionalTimesSet criteria →
    ∀ inner ∈ criteria, Compiles dialect inner
  | none, _ => fun _ absent => absurd absent (by simp)
  | some criteria, set => fun inner isInner => by
      rw [optionalTimesSet] at set
      rw [Option.mem_some_iff] at isInner
      subst isInner
      exact compiles_criteria criteria set

end

section Hollow

variable {dialect}

/-- An operand that is missing in front of a conjunct is missing with it. -/
theorem hollow_conjunct {part : Option (Criteria Criterion)} {join joined : Join}
    {own tokens : ConditionText} (hollow : Hollow own)
    (resolved : optionalTokens dialect [.and] [] part join = .ok (tokens, joined)) :
    Hollow (own ++ tokens) := by
  cases part with
  | none =>
      injection resolved with result
      rcases Prod.mk.inj result with ⟨rfl, rfl⟩
      rw [List.append_nil]
      exact hollow
  | some criteria =>
      rcases ok_of_bind resolved with ⟨⟨inner, joinInner⟩, _, result⟩
      injection result with result
      rcases Prod.mk.inj result with ⟨rfl, rfl⟩
      exact hollow.append (.inl rfl) _

/-- An operand that is missing in front of an alternative is missing in its parentheses. -/
theorem hollow_alternative {part : Option (Criteria Criterion)} {join joined : Join}
    {own tokens : ConditionText} (hollow : Hollow own)
    (resolved : optionalTokens dialect [.rparen, .or, .lparen] [.rparen, .rparen] part join =
      .ok (tokens, joined)) :
    Hollow ((if part.isSome then [.lparen, .lparen] else []) ++ own ++ tokens) := by
  cases part with
  | none =>
      injection resolved with result
      rcases Prod.mk.inj result with ⟨rfl, rfl⟩
      simpa using hollow
  | some criteria =>
      rcases ok_of_bind resolved with ⟨⟨inner, joinInner⟩, _, result⟩
      injection result with result
      rcases Prod.mk.inj result with ⟨rfl, rfl⟩
      have closed := hollow.append (.inr (.inr rfl))
        (.or :: .lparen :: (inner ++ [.rparen, .rparen]))
      have opened := (closed.cons (.inl rfl)).cons (.inl rfl)
      simpa using opened

end Hollow

mutual

/-- Criteria with a time without a constraint leave an operand out. -/
theorem hollow_criteria : ∀ (criteria : Criteria Criterion) (join joined : Join)
    (tokens : ConditionText), ¬ criteria.TimesSet →
    criteriaTokens dialect criteria join = .ok (tokens, joined) → Hollow tokens
  | .node path criterion conjunct alternative, join, joined, tokens, notSet, resolved => by
      rw [criteriaTokens] at resolved
      rcases ok_of_bind resolved with ⟨⟨fieldName, joinField⟩, _, resolved⟩
      rcases ok_of_bind resolved with ⟨text, built, resolved⟩
      rcases ok_of_bind resolved with ⟨⟨both, joinBoth⟩, atConjunct, resolved⟩
      rcases ok_of_bind resolved with ⟨⟨either, joinEither⟩, atAlternative, resolved⟩
      injection resolved with result
      rcases Prod.mk.inj result with ⟨rfl, rfl⟩
      by_cases isSet : criterion.TimeSet
      · by_cases conjunctSet : optionalTimesSet conjunct
        · have alternativeNotSet : ¬ optionalTimesSet alternative := by
            intro alternativeSet
            rw [Criteria.TimesSet] at notSet
            exact notSet ⟨isSet, conjunctSet, alternativeSet⟩
          cases alternative with
          | none => exact absurd trivial (by simpa only [optionalTimesSet] using alternativeNotSet)
          | some alternative =>
              rcases ok_of_bind atAlternative with ⟨⟨inner, joinInner⟩, atInner, result⟩
              injection result with result
              rcases Prod.mk.inj result with ⟨rfl, rfl⟩
              rw [optionalTimesSet] at alternativeNotSet
              have hollow := hollow_criteria alternative joinBoth joinInner inner
                alternativeNotSet atInner
              have inside := (hollow.append (.inr (.inr rfl)) [.rparen]).cons (.inl rfl)
              have whole := inside.connect (.inr rfl)
                ([.lparen, .lparen] ++ text (fieldText fieldName) ++ both ++ [.rparen])
              simpa using whole
        · cases conjunct with
          | none => exact absurd trivial (by simpa only [optionalTimesSet] using conjunctSet)
          | some conjunct =>
              rcases ok_of_bind atConjunct with ⟨⟨inner, joinInner⟩, atInner, result⟩
              injection result with result
              rcases Prod.mk.inj result with ⟨rfl, rfl⟩
              rw [optionalTimesSet] at conjunctSet
              have hollow := hollow_criteria conjunct joinField joinInner inner conjunctSet atInner
              have together := hollow.connect (.inl rfl) (text (fieldText fieldName))
              have whole := hollow_alternative together atAlternative
              simpa using whole
      · have own := hollow_buildCriterionString built isSet (fieldText fieldName)
        have whole := hollow_alternative (hollow_conjunct own atConjunct) atAlternative
        simpa only [List.append_assoc] using whole

end

/--
The text of criteria is a condition, and its value is that of the criterion with its
conjunct, or of the alternative, under every assignment of truth values: exactly if each
broken-down time that is looked at has a constraint.
-/
theorem criteria_compile_iff {criteria : Criteria Criterion} {join joined : Join} {text : String}
    (resolved : classicPathResolveCriteria (criterionText dialect) criteria join =
      .ok (text, joined)) :
    (∃ tokens condition, criteriaTokens dialect criteria join = .ok (tokens, joined) ∧
      text = conditionText tokens ∧ parseCondition tokens = some condition ∧
      ∀ assignment, criteriaValue dialect assignment criteria join =
        .ok (condition.eval assignment, joined)) ↔ criteria.TimesSet := by
  rw [classicPathResolveCriteria_eq] at resolved
  cases atTokens : criteriaTokens dialect criteria join with
  | error error =>
      rw [atTokens] at resolved
      exact absurd resolved (by simp [Except.map])
  | ok answer =>
      rcases answer with ⟨tokens, joinTokens⟩
      rw [atTokens] at resolved
      injection resolved with result
      rcases Prod.mk.inj result with ⟨rfl, rfl⟩
      constructor
      · rintro ⟨read, condition, isRead, _, parsed, _⟩
        injection isRead with result
        rcases Prod.mk.inj result with ⟨rfl, _⟩
        by_contra notSet
        have hollow := hollow_criteria dialect criteria join joinTokens tokens notSet atTokens
        rw [hollow.parse] at parsed
        exact absurd parsed (by simp)
      · intro set
        rcases compiles_criteria dialect criteria set join joinTokens tokens atTokens with
          ⟨meaning, isConjunction, value⟩
        rcases isConjunction.parse with ⟨condition, parsed, same⟩
        refine ⟨tokens, condition, rfl, rfl, parsed, fun assignment => ?_⟩
        rw [value, same]

end Main

/-- A plugin that writes a text between quotes, as it is; the example texts have no quotes. -/
def plainDialect (backend : Backend) : SqlDialect where
  backend := backend
  escape text := .ok ("'" ++ text ++ "'")
  emptyReleased := none

/-- The messageid is `a`, or there is none. -/
def messageidOrNone : Criteria Criterion :=
  .node messageidPath ⟨⟨.equal, false, false⟩, .value (.string "a")⟩ none
    (some (.node messageidPath ⟨⟨.null, false, false⟩, .value (.string "")⟩ none none))

theorem criteria_compile_iff_messageidOrNone :
    (∃ tokens condition,
      criteriaTokens (plainDialect .mysql) messageidOrNone .new = .ok (tokens, .new) ∧
      "((top_table.messageid = BINARY 'a') OR (top_table.messageid IS NULL))" =
        conditionText tokens ∧ parseCondition tokens = some condition ∧
      ∀ assignment, criteriaValue (plainDialect .mysql) assignment messageidOrNone .new =
        .ok (condition.eval assignment, .new)) ↔ messageidOrNone.TimesSet := by
  apply criteria_compile_iff (plainDialect .mysql)
  decide +kernel

/-- The year that the addition of 1900 makes the mark of a field that is not set. -/
def yearLost : Tm := ⟨-1, -1, -1, -1, -1, -1901, -1, -1⟩

/-- The messageid is `a`, and the create time lies in the year -1. -/
def inYearLost : Criteria Criterion :=
  .node messageidPath ⟨⟨.equal, false, false⟩, .value (.string "a")⟩
    (some (.node (createTimePath .alert)
      ⟨⟨.equal, false, false⟩, .brokenDownTime yearLost⟩ none none)) none

theorem inYearLost_not_condition :
    yearLost.year ≠ -1 ∧
    (classicPathResolveCriteria (criterionText (plainDialect .mysql)) inYearLost .new).map
      Prod.fst = .ok "top_table.messageid = BINARY 'a' AND " ∧
    (criteriaTokens (plainDialect .mysql) inYearLost .new).map
      (fun answer => parseCondition answer.1) = .ok none := by
  decide +kernel

end RequiemDB
