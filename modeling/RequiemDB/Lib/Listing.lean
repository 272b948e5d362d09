import Mathlib.Data.List.Dedup
import Mathlib.Data.List.Pairwise
import Mathlib.Data.List.Perm.Basic

/-!
# Listings

What a query may answer that asks for distinct rows in an order: each row once, and none
behind one that it has to precede. Rows that precede each other may come either way.
-/

namespace Lib

universe u v

variable {α : Type u} {β : Type v} {rows : α → Prop} {before : α → α → Prop}

/-- An answer with the rows, each once and sorted. -/
structure Listing (rows : α → Prop) (before : α → α → Prop) (answer : List α) : Prop where
  nodup : answer.Nodup
  mem_iff : ∀ row, row ∈ answer ↔ rows row
  sorted : answer.Pairwise before

/-- Of two rows of a list in which each stands in a relation to those behind it, one does. -/
theorem related_of_pairwise {relation : α → α → Prop} {elements : List α}
    (pairwise : elements.Pairwise relation) {first second : α} (inFirst : first ∈ elements)
    (inSecond : second ∈ elements) (differ : first ≠ second) :
    relation first second ∨ relation second first := by
  have either : elements.Pairwise fun left right => relation left right ∨ relation right left :=
    pairwise.imp .inl
  have symmetric : Std.Symm fun left right => relation left right ∨ relation right left :=
    ⟨fun _ _ => Or.symm⟩
  exact either.forall inFirst inSecond differ

namespace Listing

variable {answer : List α}

/-- There is an answer in which a row of one's choice comes in front of those it may precede. -/
theorem exists_first (total : ∀ first second, before first second ∨ before second first)
    (trans : ∀ first second third, before first second → before second third →
      before first third)
    {elements : List α} (finite : ∀ row, rows row → row ∈ elements) (front : α) :
    ∃ answer, Listing rows before answer ∧
      answer.Pairwise fun left right => before right left → left = front ∨ right ≠ front := by
  classical
  let le : α → α → Bool := fun left right =>
    before left right ∧ (before right left → left = front ∨ right ≠ front)
  have le_iff : ∀ left right, le left right = true ↔
      before left right ∧ (before right left → left = front ∨ right ≠ front) := by
    intro left right
    exact decide_eq_true_iff
  have leTotal : ∀ left right, (le left right || le right left) = true := by
    intro left right
    rw [Bool.or_eq_true, le_iff, le_iff]
    by_cases one : before left right
    · by_cases other : before right left
      · by_cases isFront : right = front
        · exact .inr ⟨other, fun _ => .inl isFront⟩
        · exact .inl ⟨one, fun _ => .inr isFront⟩
      · exact .inl ⟨one, fun both => absurd both other⟩
    · have other := (total left right).resolve_left one
      exact .inr ⟨other, fun both => absurd both one⟩
  have leTrans : ∀ left middle right, le left middle = true → le middle right = true →
      le left right = true := by
    intro left middle right
    rw [le_iff, le_iff, le_iff]
    rintro ⟨first, firstTie⟩ ⟨second, secondTie⟩
    refine ⟨trans _ _ _ first second, fun back => ?_⟩
    rcases firstTie (trans _ _ _ second back) with isFront | notFront
    · exact .inl isFront
    · rcases secondTie (trans _ _ _ back first) with middleFront | rightNot
      · exact absurd middleFront notFront
      · exact .inr rightNot
  let answer := (elements.dedup.filter fun row => rows row).mergeSort le
  have perm : answer.Perm (elements.dedup.filter fun row => rows row) :=
    List.mergeSort_perm _ le
  have sorted : answer.Pairwise fun left right => le left right = true :=
    List.pairwise_mergeSort leTrans leTotal _
  refine ⟨answer, ⟨?_, ?_, ?_⟩, ?_⟩
  · exact perm.nodup_iff.mpr ((List.nodup_dedup elements).filter _)
  · intro row
    rw [perm.mem_iff, List.mem_filter, List.mem_dedup, decide_eq_true_iff]
    exact ⟨And.right, fun isRow => ⟨finite row isRow, isRow⟩⟩
  · exact sorted.imp fun isLe => ((le_iff _ _).mp isLe).1
  · exact sorted.imp fun isLe => ((le_iff _ _).mp isLe).2

end Listing

end Lib
