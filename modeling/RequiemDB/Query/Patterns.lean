import RequiemDB.Lib.Pattern
import RequiemDB.Query.Criterion

/-!
# Substring patterns and LIKE

An IDMEF pattern has one wildcard, `*`; a pattern of LIKE has two, `%` and `_`. In
both a backslash takes the meaning from the character behind it. The translation
of `build_criterion_fixed_sql_like_value` leaves `_` as it is, so that it becomes
a wildcard, and puts a second backslash before a `%` that has one, so that the
backslash stands for itself and `%` becomes a wildcard.
-/

namespace RequiemDB

open Lib

/-- The wildcard of IDMEF patterns. -/
def idmefMeaning (c : Char) : PatternToken Char := if c = '*' then .any else .literal c

/-- The wildcards of LIKE. -/
def likeMeaning (c : Char) : PatternToken Char :=
  if c = '%' then .any else if c = '_' then .one else .literal c

/-- The text is one that an IDMEF pattern stands for. -/
def IdmefMatches (pattern : String) (text : List Char) : Prop :=
  (Pattern.read '\\' idmefMeaning false pattern.toList).Matches text

/-- What `text LIKE pattern` says on MySQL and PostgreSQL. -/
def LikeMatches (pattern : String) (text : List Char) : Prop :=
  (Pattern.read '\\' likeMeaning false pattern.toList).Matches text

/-- The comparison with what is built for a value; nothing is LIKE NULL. -/
def LikeHolds (dialect : SqlDialect) (value : FixedValue) (text : List Char) : Prop :=
  ∃ pattern, buildCriterionFixedSqlLikeValue dialect value = .ok (some pattern) ∧
    LikeMatches pattern text

/-- No `_` comes without a backslash, and no `%` with one. -/
def Translates : (escapeNext : Bool) → List Char → Prop
  | _, [] => True
  | escapeNext, c :: rest =>
      c ≠ (if escapeNext then '%' else '_') ∧ Translates (¬ escapeNext ∧ c = '\\') rest

instance decidableTranslates : ∀ escapeNext text, Decidable (Translates escapeNext text)
  | _, [] => inferInstanceAs (Decidable True)
  | escapeNext, c :: rest =>
      have := decidableTranslates (¬ escapeNext ∧ c = '\\') rest
      inferInstanceAs (Decidable (_ ∧ _))

section Translation

/-- A pattern that translates reads in LIKE as it does in IDMEF. -/
theorem read_likePattern {escapeNext : Bool} {text : List Char}
    (translates : Translates escapeNext text) :
    Pattern.read '\\' likeMeaning escapeNext (likePattern escapeNext text) =
      Pattern.read '\\' idmefMeaning escapeNext text := by
  induction text generalizing escapeNext with
  | nil => cases escapeNext <;> rfl
  | cons c rest ih =>
      rcases translates with ⟨keeps, later⟩
      have same := ih later
      cases escapeNext with
      | true =>
          have notPercent : c ≠ '%' := keeps
          simpa [likePattern, Pattern.read, notPercent] using same
      | false =>
          have notUnderscore : c ≠ '_' := keeps
          by_cases percent : c = '%'
          · subst percent
            simpa [likePattern, Pattern.read, idmefMeaning] using same
          by_cases star : c = '*'
          · subst star
            simpa [likePattern, Pattern.read, idmefMeaning, likeMeaning] using same
          by_cases backslash : c = '\\'
          · subst backslash
            simpa [likePattern, Pattern.read] using same
          · simpa [likePattern, Pattern.read, idmefMeaning, likeMeaning, percent, star, backslash,
              notUnderscore] using same

/-- How often a pattern has one of the wildcards of LIKE as a letter. -/
def specials (pattern : Pattern Char) : Nat :=
  pattern.count (.literal '%') + pattern.count (.literal '_')

@[simp]
theorem specials_nil : specials [] = 0 := rfl

@[simp]
theorem specials_cons (token : PatternToken Char) (pattern : Pattern Char) :
    specials (token :: pattern) =
      specials pattern + if token = .literal '%' ∨ token = .literal '_' then 1 else 0 := by
  rw [specials, specials, List.count_cons, List.count_cons]
  by_cases percent : token = .literal '%'
  · subst percent
    simp
    omega
  · by_cases underscore : token = .literal '_'
    · subst underscore
      simp
      omega
    · simp [percent, underscore]

/-- The letters that lose their meaning: each `_` without a backslash and each `%` with one. -/
def losses : (escapeNext : Bool) → List Char → Nat
  | _, [] => 0
  | escapeNext, c :: rest =>
      losses (¬ escapeNext ∧ c = '\\') rest + if c = (if escapeNext then '%' else '_') then 1 else 0

theorem translates_of_losses {escapeNext : Bool} {text : List Char}
    (none : losses escapeNext text = 0) : Translates escapeNext text := by
  induction text generalizing escapeNext with
  | nil => trivial
  | cons c rest ih =>
      rw [losses, Nat.add_eq_zero_iff] at none
      refine ⟨?_, ih none.1⟩
      intro lost
      rw [if_pos lost] at none
      exact absurd none.2 Nat.one_ne_zero

/-- These are the letters that LIKE no longer has. -/
theorem specials_likePattern (escapeNext : Bool) (text : List Char) :
    specials (Pattern.read '\\' likeMeaning escapeNext (likePattern escapeNext text)) +
        losses escapeNext text =
      specials (Pattern.read '\\' idmefMeaning escapeNext text) := by
  induction text generalizing escapeNext with
  | nil => cases escapeNext <;> rfl
  | cons c rest ih =>
      cases escapeNext with
      | true =>
          have later := ih false
          by_cases percent : c = '%'
          · subst percent
            simp [likePattern, Pattern.read, losses, likeMeaning]
            omega
          · simp [likePattern, Pattern.read, losses, percent]
            omega
      | false =>
          by_cases backslash : c = '\\'
          · subst backslash
            simpa [likePattern, Pattern.read, losses] using ih true
          have later := ih false
          by_cases percent : c = '%'
          · subst percent
            simp [likePattern, Pattern.read, losses, idmefMeaning]
            omega
          by_cases star : c = '*'
          · subst star
            simpa [likePattern, Pattern.read, losses, idmefMeaning, likeMeaning] using later
          by_cases underscore : c = '_'
          · subst underscore
            simp [likePattern, Pattern.read, losses, idmefMeaning, likeMeaning]
            omega
          · simpa [likePattern, Pattern.read, losses, idmefMeaning, likeMeaning, percent, star,
              backslash, underscore] using later

/-- The shortest text of one pattern has the letters of the other. -/
theorem specials_le_of_same {first second : Pattern Char}
    (same : ∀ text, first.Matches text ↔ second.Matches text) :
    specials first ≤ specials second := by
  have isMatch := (same _).mpr (second.matches_shortest 'a')
  have percents := isMatch.count_le '%'
  have underscores := isMatch.count_le '_'
  rw [Pattern.count_shortest (by decide)] at percents underscores
  exact Nat.add_le_add percents underscores

theorem translates_of_same {text : List Char}
    (same : ∀ other, (Pattern.read '\\' idmefMeaning false text).Matches other ↔
      (Pattern.read '\\' likeMeaning false (likePattern false text)).Matches other) :
    Translates false text := by
  have balance := specials_likePattern false text
  have enough := specials_le_of_same same
  exact translates_of_losses (by omega)

end Translation

section Like

/-- What LIKE compares with: the pattern itself, or what is released for an empty one. -/
theorem likeHolds_string (dialect : SqlDialect) (pattern : String) (text : List Char) :
    LikeHolds dialect (.string pattern) text ↔
      if pattern = "" then ∃ released, dialect.emptyReleased = some released ∧
        LikeMatches released text
      else LikeMatches (String.ofList (likePattern false pattern.toList)) text := by
  rw [LikeHolds, buildCriterionFixedSqlLikeValue]
  by_cases empty : pattern = ""
  · simp [empty]
  · simp [empty]

theorem idmefMatches_empty (text : List Char) : IdmefMatches "" text ↔ text = [] := Iff.rfl

/-- A pattern keeps its meaning exactly when no `_` comes without a backslash and no `%` with
one, and an empty pattern is released as an empty text. -/
theorem likeHolds_iff (dialect : SqlDialect) (pattern : String) :
    (∀ text, IdmefMatches pattern text ↔ LikeHolds dialect (.string pattern) text) ↔
      Translates false pattern.toList ∧ (pattern = "" → dialect.emptyReleased = some "") := by
  by_cases empty : pattern = ""
  · subst empty
    simp only [likeHolds_string, idmefMatches_empty, if_pos]
    constructor
    · intro same
      rcases (same []).mp rfl with ⟨released, isReleased, -⟩
      have onlyEmpty : ∀ text, LikeMatches released text ↔ text = [] := by
        intro text
        rw [same text, isReleased]
        simp
      have blank := Pattern.read_eq_nil (Pattern.eq_nil_of_matches_iff onlyEmpty)
      rw [String.toList_eq_nil_iff] at blank
      exact ⟨trivial, fun _ => by rw [isReleased, blank]⟩
    · intro keeps text
      rw [keeps.2 trivial]
      simp only [Option.some.injEq, exists_eq_left']
      rfl
  · simp only [likeHolds_string, if_neg empty, LikeMatches, String.toList_ofList]
    constructor
    · intro same
      exact ⟨translates_of_same same, fun isEmpty => absurd isEmpty empty⟩
    · intro keeps text
      rw [read_likePattern keeps.1]
      rfl

/-- `a` is no `_`, yet the pattern `_` finds it. -/
theorem underscore_not_likeHolds :
    ¬ (∀ text, IdmefMatches "_" text ↔
      LikeHolds ⟨.mysql, fun text => .ok text, none⟩ (.string "_") text) := by
  intro same
  have found : LikeHolds ⟨.mysql, fun text => .ok text, none⟩ (.string "_") ['a'] :=
    ⟨"_", rfl, 'a', [], rfl, rfl⟩
  rcases (same ['a']).mpr found with ⟨rest, impossible, -⟩
  cases impossible

end Like

end RequiemDB
