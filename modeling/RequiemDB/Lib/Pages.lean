import Mathlib.Data.List.Flatten
import Mathlib.Data.List.Nodup
import RequiemDB.Lib.Listing

/-!
# Pages of a listing

Each page of a listing is asked for by itself, and each time the rows may come in another
order where they precede each other. The pages give every row once, whatever these orders are,
exactly when no page ends between two rows that may change places.
-/

namespace Lib

universe u

variable {α : Type u} {rows : α → Prop} {before : α → α → Prop} {answer other : List α}

/-- A page of a list, counted from zero. -/
def page (size number : ℕ) (answer : List α) : List α := (answer.drop (number * size)).take size

/-- The rows in front of a page, the page itself, and the rows behind it. -/
theorem take_append_page (size number : ℕ) (answer : List α) :
    answer.take (number * size) ++ page size number answer = answer.take ((number + 1) * size) := by
  rw [page, Nat.succ_mul, List.take_add]

/-- No row at the end of a page may change places with the one behind it. -/
def Unsplit (before : α → α → Prop) (size : ℕ) (answer : List α) : Prop :=
  ∀ number first second, answer[(number + 1) * size - 1]? = some first →
    answer[(number + 1) * size]? = some second → ¬ before second first

namespace Listing

theorem perm (listing : Listing rows before answer) (another : Listing rows before other) :
    answer.Perm other :=
  (List.perm_ext_iff_of_nodup listing.nodup another.nodup).mpr fun row =>
    (listing.mem_iff row).trans (another.mem_iff row).symm

/-- In a sorted list the rows of a lower part come first. -/
theorem filter_append_filter (low : α → Bool) (sorted : answer.Pairwise before)
    (lower : ∀ first second, before first second → low second = true → low first = true) :
    answer.filter low ++ answer.filter (fun row => !low row) = answer := by
  induction answer with
  | nil => rfl
  | cons row answer ih =>
      rcases List.pairwise_cons.mp sorted with ⟨isFirst, later⟩
      cases isLow : low row with
      | true => rw [List.filter_cons_of_pos isLow, List.filter_cons_of_neg (by simp [isLow]),
          List.cons_append, ih later]
      | false =>
          have none : answer.filter low = [] := by
            refine List.filter_eq_nil_iff.mpr fun second inside low => ?_
            exact Bool.false_ne_true
              (isLow.symm.trans (lower row second (isFirst second inside) low))
          have all : answer.filter (fun row => !low row) = answer := by
            have split := ih later
            rwa [none] at split
          rw [List.filter_cons_of_neg (by simp [isLow]), List.filter_cons_of_pos (by simp [isLow]),
            none, all, List.nil_append]

section Unsplit

variable (total : ∀ first second, before first second ∨ before second first)
  (trans : ∀ first second third, before first second → before second third → before first third)

include total trans in
/-- The rows in front of one that none of them may follow are those that it does not precede. -/
theorem filter_eq_take (sorted : answer.Pairwise before) {position : ℕ} {first second : α}
    (isFirst : answer[position]? = some first) (isSecond : answer[position + 1]? = some second)
    (unsplit : ¬ before second first) {low : α → Bool}
    (isLow : ∀ row, low row = true ↔ ¬ before second row) :
    answer.filter low = answer.take (position + 1) := by
  rcases List.getElem?_eq_some_iff.mp isFirst with ⟨_, isFirst⟩
  rcases List.getElem?_eq_some_iff.mp isSecond with ⟨inside, isSecond⟩
  have upTo : answer.take (position + 1) = answer.take position ++ [first] := by
    rw [← isFirst, List.take_append_getElem]
  have behind : answer.drop (position + 1) = second :: answer.drop (position + 2) := by
    rw [List.drop_eq_getElem_cons inside, isSecond]
  have split := List.take_append_drop (position + 1) answer
  rw [← split, upTo, behind] at sorted
  rcases List.pairwise_append.mp sorted with ⟨front, back, _⟩
  have all : (answer.take (position + 1)).filter low = answer.take (position + 1) := by
    refine List.filter_eq_self.mpr fun row inFront => (isLow row).mpr fun isBehind => ?_
    rw [upTo, List.mem_append, List.mem_singleton] at inFront
    rcases inFront with earlier | rfl
    · have precedes := (List.pairwise_append.mp front).2.2 row earlier first
        (List.mem_singleton_self first)
      exact unsplit (trans _ _ _ isBehind precedes)
    · exact unsplit isBehind
  have none : (answer.drop (position + 1)).filter low = [] := by
    refine List.filter_eq_nil_iff.mpr fun row isBack low => (isLow row).mp low ?_
    rw [behind, List.mem_cons] at isBack
    rcases isBack with rfl | later
    · exact (total row row).elim id id
    · exact (List.pairwise_cons.mp back).1 row later
  conv_lhs => rw [← split]
  rw [List.filter_append, all, none, List.append_nil]

include total trans in
/-- Where no row may change places with the next one, all listings have the same rows in front. -/
theorem take_perm (listing : Listing rows before answer) (another : Listing rows before other)
    {size : ℕ} (unsplit : Unsplit before size answer) (number : ℕ) :
    (other.take (number * size)).Perm (answer.take (number * size)) := by
  classical
  have same := listing.perm another
  rcases Nat.eq_zero_or_pos (number * size) with isZero | positive
  · rw [isZero, List.take_zero, List.take_zero]
  by_cases inside : number * size < answer.length
  · rcases Nat.exists_eq_succ_of_ne_zero (Nat.ne_of_gt (Nat.pos_of_mul_pos_right positive)) with
      ⟨fewer, rfl⟩
    rcases Nat.exists_eq_succ_of_ne_zero (Nat.ne_of_gt positive) with ⟨position, isPosition⟩
    have isFirst : answer[position]? = some answer[position] :=
      List.getElem?_eq_getElem (by omega)
    have isSecond : answer[position + 1]? = some answer[position + 1] :=
      List.getElem?_eq_getElem (by omega)
    have apart := unsplit fewer answer[position] answer[position + 1]
      (by rw [isPosition]; exact isFirst) (by rw [isPosition]; exact isSecond)
    let low : α → Bool := fun row => ¬ before answer[position + 1] row
    have isLow : ∀ row, low row = true ↔ ¬ before answer[position + 1] row :=
      fun row => decide_eq_true_iff
    have inFront := filter_eq_take total trans listing.sorted isFirst isSecond apart isLow
    have front := filter_append_filter low another.sorted fun first row precedes isLower =>
      (isLow first).mpr fun behind => (isLow row).mp isLower (trans _ _ _ behind precedes)
    have samePart := same.symm.filter low
    rw [inFront] at samePart
    have length := samePart.length_eq
    rw [List.length_take, Nat.min_eq_left (by omega)] at length
    have isFront := congrArg (List.take (position + 1)) front
    rw [List.take_left' length] at isFront
    rw [isPosition, ← isFront]
    exact samePart
  · rw [List.take_of_length_le (Nat.not_lt.mp inside),
      List.take_of_length_le (same.length_eq ▸ Nat.not_lt.mp inside)]
    exact same.symm

include total trans in
/-- The first pages give the rows that come first in a listing. -/
theorem flatMap_page_perm (listing : Listing rows before answer) {size : ℕ}
    (unsplit : Unsplit before size answer) {answers : ℕ → List α} {count : ℕ}
    (listings : ∀ number < count, Listing rows before (answers number)) :
    ((List.range count).flatMap fun number => page size number (answers number)).Perm
      (answer.take (count * size)) := by
  induction count with
  | zero => simp
  | succ count ih =>
      have here := listings count (Nat.lt_succ_self count)
      have upTo := take_perm total trans listing here unsplit count
      have further := take_perm total trans listing here unsplit (count + 1)
      rw [← take_append_page, ← take_append_page size count answer] at further
      have samePage := (List.perm_append_left_iff _).mp
        ((upTo.symm.append_right _).trans further)
      rw [List.range_succ, List.flatMap_append, List.flatMap_singleton,
        ← take_append_page size count answer]
      exact (ih fun number below => listings number (Nat.lt_succ_of_lt below)).append samePage

end Unsplit

/-- Two rows that may change places do so in another listing. -/
theorem exchange (listing : Listing rows before answer) {position : ℕ} {first second : α}
    (isFirst : answer[position]? = some first) (isSecond : answer[position + 1]? = some second)
    (tie : before second first) :
    ∃ exchanged, Listing rows before exchanged ∧ exchanged[position + 1]? = some first := by
  rcases List.getElem?_eq_some_iff.mp isFirst with ⟨here, isFirst⟩
  rcases List.getElem?_eq_some_iff.mp isSecond with ⟨inside, isSecond⟩
  have split : answer = answer.take position ++ first :: second :: answer.drop (position + 2) := by
    conv_lhs => rw [← List.take_append_drop position answer, List.drop_eq_getElem_cons here,
      List.drop_eq_getElem_cons inside, isFirst, isSecond]
  have swapped : answer.Perm
      (answer.take position ++ second :: first :: answer.drop (position + 2)) := by
    conv_lhs => rw [split]
    exact (List.Perm.swap _ _ _).append_left _
  refine ⟨_, ⟨swapped.nodup_iff.mp listing.nodup, fun row => ?_, ?_⟩, ?_⟩
  · rw [← swapped.mem_iff, listing.mem_iff]
  · have sorted := listing.sorted
    rw [split] at sorted
    simp only [List.pairwise_append, List.pairwise_cons, List.mem_cons, forall_eq_or_imp]
      at sorted ⊢
    rcases sorted with ⟨front, ⟨⟨_, ofFirst⟩, ofSecond, later⟩, across⟩
    exact ⟨front, ⟨⟨tie, ofSecond⟩, ofFirst, later⟩,
      fun row inFront =>
        ⟨(across row inFront).2.1, (across row inFront).1, (across row inFront).2.2⟩⟩
  · have length : (answer.take position).length = position := by
      rw [List.length_take]
      omega
    rw [List.getElem?_append_right (by omega), length]
    simp

/--
Pages that are each taken from some listing give every row exactly once, whatever the listings
are, if and only if no page ends between two rows that may change places.
-/
theorem pages_iff (total : ∀ first second, before first second ∨ before second first)
    (trans : ∀ first second third, before first second → before second third →
      before first third)
    (listing : Listing rows before answer) {size count : ℕ} (positive : 0 < size)
    (enough : answer.length ≤ count * size) :
    (∀ answers : ℕ → List α, (∀ number < count, Listing rows before (answers number)) →
        ((List.range count).flatMap fun number => page size number (answers number)).Nodup ∧
        ∀ row, (row ∈ (List.range count).flatMap fun number => page size number (answers number)) ↔
          rows row) ↔
      Unsplit before size answer := by
  constructor
  · intro always number first second isFirst isSecond tie
    have notZero : 0 < (number + 1) * size := Nat.mul_pos (Nat.succ_pos number) positive
    obtain ⟨position, isPosition⟩ : ∃ position, (number + 1) * size = position + 1 :=
      Nat.exists_eq_succ_of_ne_zero (Nat.ne_of_gt notZero)
    rw [isPosition, Nat.add_sub_cancel] at isFirst
    rw [isPosition] at isSecond
    rcases listing.exchange isFirst isSecond tie with ⟨exchanged, another, isThere⟩
    -- The first row is at the end of a page, and at the start of the next one.
    rcases always (fun other => if other = number then answer else exchanged) fun other _ => by
        split
        · exact listing
        · exact another
      with ⟨nodup, _⟩
    have below : number + 1 < count := by
      by_contra beyond
      have inside := (List.getElem?_eq_some_iff.mp isSecond).1
      have notMore : count * size ≤ (number + 1) * size :=
        Nat.mul_le_mul_right size (Nat.not_lt.mp beyond)
      rw [isPosition] at notMore
      omega
    rcases List.nodup_flatMap.mp nodup with ⟨_, disjoint⟩
    have onBoth := related_of_pairwise disjoint (List.mem_range.mpr (Nat.lt_of_succ_lt below))
      (List.mem_range.mpr below) (Nat.ne_of_lt (Nat.lt_succ_self number))
    have start : number * size + size = position + 1 := by rw [← isPosition, Nat.succ_mul]
    have onFirst : first ∈ page size number answer := by
      refine List.mem_of_getElem? (i := size - 1) ?_
      have place : number * size + (size - 1) = position := by omega
      rw [page, List.getElem?_take_of_lt (by omega), List.getElem?_drop, place]
      exact isFirst
    have onNext : first ∈ page size (number + 1) exchanged := by
      refine List.mem_of_getElem? (i := 0) ?_
      rw [page, List.getElem?_take_of_lt positive, List.getElem?_drop, isPosition]
      exact isThere
    simp only [Function.onFun, List.disjoint_left, if_true,
      if_neg (Nat.ne_of_gt (Nat.lt_succ_self number))] at onBoth
    exact onBoth.elim (fun apart => apart onFirst onNext) fun apart => apart onNext onFirst
  · intro unsplit answers listings
    have perm := flatMap_page_perm total trans listing unsplit listings
    rw [List.take_of_length_le enough] at perm
    exact ⟨perm.nodup_iff.mpr listing.nodup, fun row => perm.mem_iff.trans (listing.mem_iff row)⟩

end Listing

end Lib
