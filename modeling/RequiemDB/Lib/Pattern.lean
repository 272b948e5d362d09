import Mathlib.Data.List.Count
import Mathlib.Data.List.Infix

/-!
# Wildcard patterns

A pattern is a list of tokens: a letter that stands for itself, a token for any
one letter and one for any sequence. Languages of patterns differ in the letters
that stand for wildcards; in all of them an escape takes the meaning from the
letter behind it, and stands for itself at the end.
-/

namespace Lib

variable {α : Type*}

inductive PatternToken (α : Type*) where
  | any
  | one
  | literal (letter : α)
deriving DecidableEq

abbrev Pattern (α : Type*) := List (PatternToken α)

namespace Pattern

/-- The text is one that the pattern stands for. -/
def Matches : Pattern α → List α → Prop
  | [], text => text = []
  | .any :: pattern, text => ∃ rest, rest <:+ text ∧ Matches pattern rest
  | .one :: pattern, text => ∃ letter rest, text = letter :: rest ∧ Matches pattern rest
  | .literal letter :: pattern, text => ∃ rest, text = letter :: rest ∧ Matches pattern rest

/-- The shortest text of a pattern whose wildcards for one letter stand for `letter`. -/
def shortest (letter : α) (pattern : Pattern α) : List α :=
  pattern.filterMap fun
    | .any => none
    | .one => some letter
    | .literal own => some own

theorem matches_shortest (letter : α) (pattern : Pattern α) :
    pattern.Matches (pattern.shortest letter) := by
  induction pattern with
  | nil => rfl
  | cons token pattern ih =>
      cases token with
      | any => exact ⟨_, List.suffix_rfl, ih⟩
      | one => exact ⟨letter, _, rfl, ih⟩
      | literal own => exact ⟨_, rfl, ih⟩

section Count

variable [DecidableEq α]

/-- A text has all the letters of its pattern. -/
theorem Matches.count_le {pattern : Pattern α} {text : List α} (isMatch : pattern.Matches text)
    (letter : α) : pattern.count (.literal letter) ≤ text.count letter := by
  induction pattern generalizing text with
  | nil => exact Nat.zero_le _
  | cons token pattern ih =>
      cases token with
      | any =>
          rcases isMatch with ⟨rest, suffix, later⟩
          rw [List.count_cons_of_ne (by simp)]
          exact Nat.le_trans (ih later) (suffix.sublist.count_le letter)
      | one =>
          rcases isMatch with ⟨first, rest, rfl, later⟩
          rw [List.count_cons_of_ne (by simp)]
          exact Nat.le_trans (ih later) List.count_le_count_cons
      | literal own =>
          rcases isMatch with ⟨rest, rfl, later⟩
          have counted := ih later
          by_cases same : own = letter
          · subst same
            rw [List.count_cons_self, List.count_cons_self]
            omega
          · rw [List.count_cons_of_ne (by simpa using same), List.count_cons_of_ne same]
            exact counted

/-- The shortest text has no other letters than those of its pattern and the one given. -/
theorem count_shortest {filler letter : α} (differ : letter ≠ filler) (pattern : Pattern α) :
    (pattern.shortest filler).count letter = pattern.count (.literal letter) := by
  induction pattern with
  | nil => rfl
  | cons token pattern ih =>
      rw [shortest] at ih ⊢
      cases token with
      | any => simpa using ih
      | one => simpa [List.count_cons, differ.symm] using ih
      | literal own => simp [List.count_cons, ih]

end Count

/-- Only the empty pattern stands for the empty text alone. -/
theorem eq_nil_of_matches_iff [Nonempty α] {pattern : Pattern α}
    (empty : ∀ text, pattern.Matches text ↔ text = []) : pattern = [] := by
  cases pattern with
  | nil => rfl
  | cons token pattern =>
      have matchesNil := (empty []).mpr rfl
      cases token with
      | any =>
          rcases matchesNil with ⟨rest, suffix, later⟩
          have letter := Classical.arbitrary α
          have more := (empty [letter]).mp ⟨rest, suffix.trans (List.nil_suffix), later⟩
          exact absurd more (List.cons_ne_nil _ _)
      | one =>
          rcases matchesNil with ⟨_, _, impossible, _⟩
          cases impossible
      | literal own =>
          rcases matchesNil with ⟨_, impossible, _⟩
          cases impossible

section Read

variable [DecidableEq α] (escape : α) (meaning : α → PatternToken α)

/-- The pattern of a text; `escaped` tells whether an escape came right before. -/
def read : (escaped : Bool) → List α → Pattern α
  | false, [] => []
  | true, [] => [.literal escape]
  | true, letter :: text => .literal letter :: read false text
  | false, letter :: text =>
      if letter = escape then read true text else meaning letter :: read false text

variable {escape meaning}

theorem read_eq_nil {escaped : Bool} {text : List α}
    (empty : read escape meaning escaped text = []) : text = [] := by
  induction text generalizing escaped with
  | nil => rfl
  | cons letter text ih =>
      cases escaped with
      | true => cases empty
      | false =>
          rw [read] at empty
          split at empty
          · rw [ih empty] at empty
            cases empty
          · cases empty

end Read

end Pattern

end Lib
