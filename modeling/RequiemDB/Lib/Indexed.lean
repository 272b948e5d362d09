import Mathlib.Data.List.Basic

/-!
# Lists flattened under their positions

`each f start xs` concatenates the lists that `f` gives for the elements of `xs`
under the consecutive positions from `start`; `listed f xs` adds the list of the
last element under position -1. A filter or a map acts on the parts, and a
filter that keeps a single position leaves the part of that element.
-/

namespace Lib

variable {α β γ : Type*}

/-- The parts of the elements under the positions `start`, `start + 1`, ... -/
def each (part : Int → α → List β) : Int → List α → List β
  | _, [] => []
  | start, element :: elements => part start element ++ each part (start + 1) elements

/-- The parts under the positions 0, 1, ... and the last element's part under -1. -/
def listed (part : Int → α → List β) (elements : List α) : List β :=
  each part 0 elements ++ elements.getLast?.elim [] (part (-1))

section Each

variable (part : Int → α → List β) (start : Int) (elements : List α)

@[simp]
theorem each_nil : each part start [] = [] := rfl

@[simp]
theorem each_cons (element : α) :
    each part start (element :: elements) =
      part start element ++ each part (start + 1) elements := rfl

@[simp]
theorem listed_nil : listed part [] = [] := rfl

@[simp]
theorem each_empty : each (fun _ (_ : α) => ([] : List β)) start elements = [] := by
  induction elements generalizing start with
  | nil => rfl
  | cons element elements ih => simpa using ih (start + 1)

@[simp]
theorem listed_empty : listed (fun _ (_ : α) => ([] : List β)) elements = [] := by
  simp only [listed, each_empty, List.nil_append]
  cases elements.getLast? <;> rfl

@[simp]
theorem map_each (f : β → γ) :
    (each part start elements).map f =
      each (fun index element => (part index element).map f) start elements := by
  induction elements generalizing start with
  | nil => rfl
  | cons element elements ih => simp [ih]

@[simp]
theorem map_listed (f : β → γ) :
    (listed part elements).map f =
      listed (fun index element => (part index element).map f) elements := by
  simp only [listed, List.map_append, map_each]
  cases elements.getLast? <;> rfl

theorem each_of_map (f : γ → α) (others : List γ) :
    each part start (others.map f) =
      each (fun index other => part index (f other)) start others := by
  induction others generalizing start with
  | nil => rfl
  | cons other others ih => simp [ih]

theorem listed_of_map (f : γ → α) (others : List γ) :
    listed part (others.map f) = listed (fun index other => part index (f other)) others := by
  rw [listed, listed, each_of_map, List.getLast?_map]
  cases others.getLast? <;> rfl

/-- A function that takes the parts of a list apart takes those of the elements. -/
theorem each_hom (f : List β → List γ) (isNil : f [] = [])
    (isAppend : ∀ left right, f (left ++ right) = f left ++ f right) :
    f (each part start elements) =
      each (fun index element => f (part index element)) start elements := by
  induction elements generalizing start with
  | nil => exact isNil
  | cons element elements ih => simp [isAppend, ih]

@[simp]
theorem filter_each (keep : β → Bool) :
    (each part start elements).filter keep =
      each (fun index element => (part index element).filter keep) start elements := by
  induction elements generalizing start with
  | nil => rfl
  | cons element elements ih => simp [ih]

@[simp]
theorem filter_listed (keep : β → Bool) :
    (listed part elements).filter keep =
      listed (fun index element => (part index element).filter keep) elements := by
  simp only [listed, List.filter_append, filter_each]
  cases elements.getLast? <;> rfl

theorem mem_each {entry : β} :
    entry ∈ each part start elements ↔
      ∃ position element, elements[position]? = some element ∧
        entry ∈ part (start + (position : Nat)) element := by
  induction elements generalizing start with
  | nil => simp
  | cons element elements ih =>
      simp only [each_cons, List.mem_append, ih]
      constructor
      · rintro (here | ⟨position, found, atPosition, later⟩)
        · exact ⟨0, element, rfl, by simpa using here⟩
        · refine ⟨position + 1, found, by simpa using atPosition, ?_⟩
          simpa [Int.add_assoc, Int.add_comm 1] using later
      · rintro ⟨position, found, atPosition, present⟩
        rcases position with _ | position
        · left
          simp only [List.getElem?_cons_zero, Option.some.injEq] at atPosition
          subst found
          simpa using present
        · right
          refine ⟨position, found, by simpa using atPosition, ?_⟩
          simpa [Int.add_assoc, Int.add_comm 1] using present

theorem mem_listed {entry : β} :
    entry ∈ listed part elements ↔
      (∃ position element, elements[position]? = some element ∧
        entry ∈ part (position : Nat) element) ∨
      ∃ last, elements.getLast? = some last ∧ entry ∈ part (-1) last := by
  simp only [listed, List.mem_append, mem_each, Int.zero_add]
  apply or_congr_right
  cases elements.getLast? <;> simp

/-- The element is found at a position of the list, or is the last one, found again at -1. -/
inductive AtPosition : List α → Int → α → Prop
  | inside {elements : List α} {position : Nat} {element : α}
      (found : elements[position]? = some element) : AtPosition elements position element
  | last {elements : List α} {element : α} (isLast : elements.getLast? = some element) :
      AtPosition elements (-1) element

theorem mem_listed_iff {entry : β} :
    entry ∈ listed part elements ↔
      ∃ position element, AtPosition elements position element ∧ entry ∈ part position element := by
  rw [mem_listed]
  constructor
  · rintro (⟨position, element, found, inPart⟩ | ⟨last, found, inPart⟩)
    · exact ⟨position, element, .inside found, inPart⟩
    · exact ⟨-1, last, .last found, inPart⟩
  · rintro ⟨_, element, atPosition, inPart⟩
    cases atPosition with
    | inside found => exact .inl ⟨_, element, found, inPart⟩
    | last found => exact .inr ⟨element, found, inPart⟩

/-- What holds of every part holds of the whole. -/
theorem forall_mem_each {property : β → Prop}
    (holds : ∀ index, ∀ element ∈ elements, ∀ entry ∈ part index element, property entry) :
    ∀ entry ∈ each part start elements, property entry := by
  intro entry present
  rcases (mem_each part start elements).mp present with ⟨position, element, found, inPart⟩
  exact holds _ element (List.mem_of_getElem? found) entry inPart

theorem forall_mem_listed {property : β → Prop}
    (holds : ∀ index, ∀ element ∈ elements, ∀ entry ∈ part index element, property entry) :
    ∀ entry ∈ listed part elements, property entry := by
  intro entry present
  rcases (mem_listed part elements).mp present with
    ⟨position, element, found, inPart⟩ | ⟨last, found, inPart⟩
  · exact holds _ element (List.mem_of_getElem? found) entry inPart
  · exact holds _ last (List.mem_of_getLast? found) entry inPart

/-- Entries are related inside each part and across parts under different positions. -/
theorem pairwise_each {related : β → β → Prop}
    (inside : ∀ index element, (part index element).Pairwise related)
    (across : ∀ index other, index ≠ other → ∀ element later, ∀ entry ∈ part index element,
      ∀ further ∈ part other later, related entry further) :
    (each part start elements).Pairwise related := by
  induction elements generalizing start with
  | nil => exact .nil
  | cons element elements ih =>
      refine List.pairwise_append.mpr ⟨inside start element, ih (start + 1), ?_⟩
      intro entry present further later
      rcases (mem_each part (start + 1) elements).mp later with ⟨position, other, _, inPart⟩
      exact across start _ (by omega) element other entry present further inPart

theorem pairwise_listed {related : β → β → Prop}
    (inside : ∀ index element, (part index element).Pairwise related)
    (across : ∀ index other, index ≠ other → ∀ element later, ∀ entry ∈ part index element,
      ∀ further ∈ part other later, related entry further) :
    (listed part elements).Pairwise related := by
  refine List.pairwise_append.mpr ⟨pairwise_each part 0 elements inside across, ?_, ?_⟩
  · cases elements.getLast? with
    | none => exact .nil
    | some last => exact inside (-1) last
  · intro entry present further copied
    rcases (mem_each part 0 elements).mp present with ⟨position, element, _, inPart⟩
    cases isLast : elements.getLast? with
    | none =>
        rw [isLast] at copied
        exact absurd copied List.not_mem_nil
    | some last =>
        rw [isLast] at copied
        exact across _ (-1) (by omega) element last entry inPart further copied

/-- The element at a position, where -1 is the position of the copy of the last one. -/
def atIndex (elements : List α) : Int → Option α
  | .ofNat position => elements[position]?
  | .negSucc 0 => elements.getLast?
  | .negSucc (_ + 1) => none

@[simp]
theorem atIndex_natCast (position : Nat) : atIndex elements position = elements[position]? := rfl

variable {part start elements}

theorem mem_of_atIndex {index : Int} {element : α} (found : atIndex elements index = some element) :
    element ∈ elements := by
  cases index with
  | ofNat position => exact List.mem_of_getElem? found
  | negSucc position =>
      cases position with
      | zero => exact List.mem_of_getLast? found
      | succ position => exact absurd found (by simp [atIndex])

theorem AtPosition.atIndex_eq {index : Int} {element : α}
    (atPosition : AtPosition elements index element) : atIndex elements index = some element := by
  cases atPosition with
  | inside found => exact found
  | last isLast => exact isLast

/-- The copy of the last element is that of the element in front of the end. -/
theorem atIndex_last (nonempty : elements ≠ []) :
    atIndex elements ((elements.length : Int) - 1) = atIndex elements (-1) := by
  have positive := List.length_pos_iff.mpr nonempty
  have position : (elements.length : Int) - 1 = ((elements.length - 1 : Nat) : Int) := by omega
  rw [position, atIndex_natCast, ← List.getLast?_eq_getElem?]
  rfl

theorem mem_filterMap_iff_atIndex {field : α → Option γ} {value : γ} :
    value ∈ elements.filterMap field ↔
      ∃ index, (atIndex elements index).bind field = some value := by
  constructor
  · intro present
    rcases List.mem_filterMap.mp present with ⟨element, inList, isValue⟩
    rcases List.mem_iff_getElem?.mp inList with ⟨position, found⟩
    exact ⟨position, by rw [atIndex_natCast, found, Option.bind_some, isValue]⟩
  · rintro ⟨index, isValue⟩
    rcases Option.bind_eq_some_iff.mp isValue with ⟨element, found, isField⟩
    exact List.mem_filterMap.mpr ⟨element, mem_of_atIndex found, isField⟩

/-- Parts that agree at the positions of the list. -/
theorem each_congr {other : Int → α → List β}
    (same : ∀ (position : Nat) element, elements[position]? = some element →
      part (start + position) element = other (start + position) element) :
    each part start elements = each other start elements := by
  induction elements generalizing start with
  | nil => rfl
  | cons element elements ih =>
      have here := same 0 element rfl
      simp only [Int.natCast_zero, Int.add_zero] at here
      rw [each_cons, each_cons, here, ih fun position later found => ?_]
      have next := same (position + 1) later found
      rwa [Int.natCast_add, Int.add_comm position, ← Int.add_assoc] at next

theorem filter_each_eq_nil {keep : β → Bool}
    (none : ∀ (position : Nat) element, (part (start + position) element).filter keep = []) :
    (each part start elements).filter keep = [] := by
  induction elements generalizing start with
  | nil => rfl
  | cons element elements ih =>
      have here := none 0 element
      have later : ∀ (position : Nat) element,
          (part (start + 1 + position) element).filter keep = [] := by
        intro position element
        have next := none (position + 1) element
        rwa [Int.natCast_add, Int.add_comm position, ← Int.add_assoc] at next
      rw [each_cons, List.filter_append, ih later, List.append_nil]
      simpa using here

theorem filter_each_at {keep : β → Bool} (position : Nat)
    (others : ∀ other, other ≠ start + position →
      ∀ element, (part other element).filter keep = []) :
    (each part start elements).filter keep =
      elements[position]?.elim [] fun element => (part (start + position) element).filter keep := by
  induction elements generalizing start position with
  | nil => rfl
  | cons element elements ih =>
      rw [each_cons, List.filter_append]
      cases position with
      | zero =>
          have later : (each part (start + 1) elements).filter keep = [] :=
            filter_each_eq_nil fun position element => others _ (by omega) element
          simp [later]
      | succ position =>
          have next : start + ((position + 1 : Nat) : Int) = start + 1 + position := by omega
          rw [next] at others ⊢
          rw [others start (by omega), List.nil_append, ih position others, List.getElem?_cons_succ]

/-- A filter that keeps a single position leaves the part of the element there. -/
theorem filter_listed_at {keep : β → Bool} (index : Int)
    (others : ∀ other, other ≠ index → ∀ element, (part other element).filter keep = []) :
    (listed part elements).filter keep =
      (atIndex elements index).elim [] fun element => (part index element).filter keep := by
  have copy : index ≠ -1 → (elements.getLast?.elim [] (part (-1))).filter keep = [] := by
    intro inside
    cases elements.getLast? with
    | none => rfl
    | some last => exact others (-1) (by omega) last
  have inside : index < 0 → (each part 0 elements).filter keep = [] := fun negative =>
    filter_each_eq_nil fun position element => others _ (by omega) element
  rw [listed, List.filter_append]
  cases index with
  | ofNat position =>
      have shift : (0 : Int) + (position : Nat) = Int.ofNat position := Int.zero_add _
      rw [copy (by simp), List.append_nil, filter_each_at position (by rwa [shift]), shift, atIndex]
  | negSucc position =>
      rw [inside (Int.negSucc_lt_zero _), List.nil_append]
      cases position with
      | zero => cases last : elements.getLast? <;> simp [atIndex, last]
      | succ position =>
          rw [copy (by omega), atIndex]
          rfl

end Each

end Lib
