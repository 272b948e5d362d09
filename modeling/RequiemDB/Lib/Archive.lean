import Mathlib.Data.List.Nodup
import Mathlib.Logic.Function.Basic

/-!
# Archives

An archive holds contents of several kinds under numbers. Each kind has its own numbers,
which the archive gives out in order and never twice. A request may be refused; the archive
then keeps its contents, but it may lose numbers.
-/

namespace Lib

universe u v

variable {Kind : Type u} {Content : Type v}

/-- The contents with their numbers, in the order in which they were filed. -/
structure Archive (kindOf : Content → Kind) where
  entries : List (ℕ × Content)
  next : Kind → ℕ
  distinct : (entries.map fun entry => (kindOf entry.2, entry.1)).Nodup
  given : ∀ entry ∈ entries, entry.1 < next (kindOf entry.2)

namespace Archive

/-- What is asked of an archive. -/
inductive Request (Kind : Type u) (Content : Type v) where
  | file (content : Content)
  | discard (kind : Kind) (numbers : List ℕ)

/-- The request is to discard the content under the number. -/
def Request.Discards (kind : Kind) (number : ℕ) : Request Kind Content → Prop
  | .file _ => False
  | .discard ofKind numbers => ofKind = kind ∧ number ∈ numbers

section

variable [DecidableEq Kind]

instance (kind : Kind) (number : ℕ) :
    ∀ request : Request Kind Content, Decidable (request.Discards kind number)
  | .file _ => inferInstanceAs (Decidable False)
  | .discard ofKind numbers => inferInstanceAs (Decidable (ofKind = kind ∧ number ∈ numbers))

end

variable {kindOf : Content → Kind}

/-- The next number of a kind is in use under no content of the kind. -/
theorem next_not_used (archive : Archive kindOf) (kind : Kind) :
    (kind, archive.next kind) ∉ archive.entries.map fun entry => (kindOf entry.2, entry.1) := by
  intro used
  rcases List.mem_map.mp used with ⟨entry, present, same⟩
  have given := archive.given entry present
  rw [(Prod.mk.inj same).1, (Prod.mk.inj same).2] at given
  exact Nat.lt_irrefl _ given

theorem file_distinct (archive : Archive kindOf) (content : Content) :
    ((archive.entries ++ [(archive.next (kindOf content), content)]).map fun entry =>
      (kindOf entry.2, entry.1)).Nodup := by
  rw [List.map_append, List.nodup_append]
  refine ⟨archive.distinct, List.nodup_singleton _, ?_⟩
  intro key used other isNew same
  rw [List.map_singleton, List.mem_singleton] at isNew
  rw [same, isNew] at used
  exact archive.next_not_used _ used

variable [DecidableEq Kind]

theorem file_given (archive : Archive kindOf) (content : Content) :
    ∀ entry ∈ archive.entries ++ [(archive.next (kindOf content), content)],
      entry.1 < Function.update archive.next (kindOf content)
        (archive.next (kindOf content) + 1) (kindOf entry.2) := by
  intro entry present
  rcases List.mem_append.mp present with old | new
  · have given := archive.given entry old
    by_cases same : kindOf entry.2 = kindOf content
    · rw [same] at given ⊢
      rw [Function.update_self]
      exact Nat.lt_succ_of_lt given
    · rwa [Function.update_of_ne same]
  · rw [List.mem_singleton.mp new, Function.update_self]
    exact Nat.lt_succ_self _

/-- A content is filed under the next number of its kind. -/
def file (archive : Archive kindOf) (content : Content) : Archive kindOf where
  entries := archive.entries ++ [(archive.next (kindOf content), content)]
  next := Function.update archive.next (kindOf content) (archive.next (kindOf content) + 1)
  distinct := archive.file_distinct content
  given := archive.file_given content

theorem le_file_next (archive : Archive kindOf) (content : Content) (kind : Kind) :
    archive.next kind ≤ (archive.file content).next kind := by
  show _ ≤ Function.update archive.next (kindOf content) (archive.next (kindOf content) + 1) kind
  rcases eq_or_ne kind (kindOf content) with rfl | differs
  · rw [Function.update_self]
    exact Nat.le_succ _
  · exact Nat.le_of_eq (Function.update_of_ne differs _ _).symm

/-- The entries under other numbers than those of a kind. -/
def others (kindOf : Content → Kind) (kind : Kind) (numbers : List ℕ)
    (entries : List (ℕ × Content)) : List (ℕ × Content) :=
  entries.filter fun entry => ¬ (kindOf entry.2 = kind ∧ entry.1 ∈ numbers)

theorem others_distinct (archive : Archive kindOf) (kind : Kind) (numbers : List ℕ) :
    ((others kindOf kind numbers archive.entries).map fun entry =>
      (kindOf entry.2, entry.1)).Nodup :=
  archive.distinct.sublist (List.filter_sublist.map _)

theorem others_given (archive : Archive kindOf) (kind : Kind) (numbers : List ℕ) :
    ∀ entry ∈ others kindOf kind numbers archive.entries,
      entry.1 < archive.next (kindOf entry.2) := fun entry present =>
  archive.given entry (List.mem_of_mem_filter present)

/-- The contents of a kind under the numbers are removed. -/
def discard (archive : Archive kindOf) (kind : Kind) (numbers : List ℕ) : Archive kindOf where
  entries := others kindOf kind numbers archive.entries
  next := archive.next
  distinct := archive.others_distinct kind numbers
  given := archive.others_given kind numbers

omit [DecidableEq Kind] in
theorem skip_given (archive : Archive kindOf) {next : Kind → ℕ}
    (grows : ∀ kind, archive.next kind ≤ next kind) :
    ∀ entry ∈ archive.entries, entry.1 < next (kindOf entry.2) := fun entry present =>
  Nat.lt_of_lt_of_le (archive.given entry present) (grows _)

/-- Numbers are lost. -/
def skip (archive : Archive kindOf) (next : Kind → ℕ)
    (grows : ∀ kind, archive.next kind ≤ next kind) : Archive kindOf where
  entries := archive.entries
  next := next
  distinct := archive.distinct
  given := archive.skip_given grows

/-- The content of a kind under a number. -/
def find (archive : Archive kindOf) (kind : Kind) (number : ℕ) : Option Content :=
  (archive.entries.find? fun entry => kindOf entry.2 = kind ∧ entry.1 = number).map Prod.snd

section Find

variable (archive : Archive kindOf) {kind : Kind} {number : ℕ} {content : Content}

theorem find_eq_none_iff : archive.find kind number = none ↔
    ∀ entry ∈ archive.entries, ¬ (kindOf entry.2 = kind ∧ entry.1 = number) := by
  simp [find, List.find?_eq_none]

theorem find_eq_some_iff : archive.find kind number = some content ↔
    kindOf content = kind ∧ (number, content) ∈ archive.entries := by
  constructor
  · intro found
    rcases Option.map_eq_some_iff.mp found with ⟨entry, isFound, rfl⟩
    have isEntry := List.find?_some isFound
    simp only [decide_eq_true_eq] at isEntry
    rcases isEntry with ⟨ofKind, rfl⟩
    exact ⟨ofKind, List.mem_of_find?_eq_some isFound⟩
  · rintro ⟨ofKind, present⟩
    cases found : archive.find kind number with
    | none =>
        exact absurd ⟨ofKind, rfl⟩ (archive.find_eq_none_iff.mp found (number, content) present)
    | some other =>
        rcases Option.map_eq_some_iff.mp found with ⟨entry, isFound, rfl⟩
        have isEntry := List.find?_some isFound
        simp only [decide_eq_true_eq] at isEntry
        have same : entry = (number, content) :=
          List.inj_on_of_nodup_map archive.distinct (List.mem_of_find?_eq_some isFound) present
            (by rw [isEntry.1, isEntry.2, ofKind])
        rw [same]

/-- A number that has been given out keeps what it stands for when a content is filed. -/
theorem find_file_of_given (content : Content) (isGiven : number < archive.next kind) :
    (archive.file content).find kind number = archive.find kind number := by
  have isOld : ¬ (kindOf content = kind ∧ archive.next (kindOf content) = number) := by
    rintro ⟨rfl, rfl⟩
    exact Nat.lt_irrefl _ isGiven
  simp only [find, file, List.find?_append, List.find?_singleton]
  rw [if_neg (by simpa using isOld), Option.or_none]

theorem find_discard (ofKind : Kind) (numbers : List ℕ) :
    (archive.discard ofKind numbers).find kind number =
      if ofKind = kind ∧ number ∈ numbers then none else archive.find kind number := by
  simp only [find, discard, others, List.find?_filter]
  split
  · rename_i named
    rw [Option.map_eq_none_iff, List.find?_eq_none]
    rintro entry _ kept
    simp only [decide_eq_true_eq] at kept
    exact kept.1 ⟨kept.2.1.trans named.1.symm, kept.2.2 ▸ named.2⟩
  · rename_i notNamed
    congr 2
    funext entry
    simp only [Bool.decide_and, decide_not]
    by_cases isEntry : kindOf entry.2 = kind ∧ entry.1 = number
    · rw [isEntry.1, isEntry.2]
      have spared : ¬ (kind = ofKind ∧ number ∈ numbers) := fun both =>
        notNamed ⟨both.1.symm, both.2⟩
      simpa [not_and_or] using not_and_or.mp spared
    · rcases not_and_or.mp isEntry with other | other <;> simp [other]

/-- What is made of the entries, when nothing is made of those under other numbers. -/
theorem flatMap_eq_find {β : Type*} {f : ℕ × Content → List β}
    (others : ∀ entry ∈ archive.entries, ¬ (kindOf entry.2 = kind ∧ entry.1 = number) →
      f entry = []) :
    archive.entries.flatMap f =
      (archive.find kind number).elim [] fun content => f (number, content) := by
  cases found : archive.find kind number with
  | none =>
      rw [Option.elim_none, List.flatMap_eq_nil_iff]
      intro entry present
      exact others entry present (archive.find_eq_none_iff.mp found entry present)
  | some content =>
      rcases archive.find_eq_some_iff.mp found with ⟨rfl, present⟩
      rcases List.append_of_mem present with ⟨before, after, split⟩
      have distinct := archive.distinct
      rw [split, List.map_append, List.map_cons, List.nodup_append, List.nodup_cons] at distinct
      rcases distinct with ⟨_, ⟨notAfter, _⟩, apart⟩
      have nothingBefore : before.flatMap f = [] := by
        refine List.flatMap_eq_nil_iff.mpr fun entry inBefore => ?_
        refine others entry (split ▸ List.mem_append_left _ inBefore) fun same => ?_
        exact apart _ (List.mem_map_of_mem inBefore) _ (.head _) (Prod.ext same.1 same.2)
      have nothingAfter : after.flatMap f = [] := by
        refine List.flatMap_eq_nil_iff.mpr fun entry inAfter => ?_
        refine others entry (split ▸ List.mem_append_right _ (.tail _ inAfter)) fun same => ?_
        refine notAfter (List.mem_map.mpr ⟨entry, inAfter, ?_⟩)
        exact Prod.ext same.1 same.2
      rw [split, List.flatMap_append, List.flatMap_cons, nothingBefore, nothingAfter,
        List.nil_append, List.append_nil, Option.elim_some]

end Find

/-- One request and whether it succeeds. -/
inductive Step : Archive kindOf → Request Kind Content × Bool → Archive kindOf → Prop
  | refused (archive : Archive kindOf) (request : Request Kind Content) (next : Kind → ℕ)
      (grows : ∀ kind, archive.next kind ≤ next kind) :
      Step archive (request, false) (archive.skip next grows)
  | filed (archive : Archive kindOf) (content : Content) :
      Step archive (.file content, true) (archive.file content)
  | discarded (archive : Archive kindOf) (kind : Kind) (numbers : List ℕ) :
      Step archive (.discard kind numbers, true) (archive.discard kind numbers)

/-- The requests that are made of an archive, one behind the other. -/
inductive Run : Archive kindOf → List (Request Kind Content × Bool) → Archive kindOf → Prop
  | nil (archive : Archive kindOf) : Run archive [] archive
  | cons {archive between after : Archive kindOf} {event : Request Kind Content × Bool}
      {history : List (Request Kind Content × Bool)} (first : Step archive event between)
      (later : Run between history after) : Run archive (event :: history) after

/-- A request of the history discards the content under the number. -/
def Discarded (kind : Kind) (number : ℕ) (history : List (Request Kind Content × Bool)) : Prop :=
  ∃ event ∈ history, event.2 = true ∧ event.1.Discards kind number

instance (kind : Kind) (number : ℕ) (history : List (Request Kind Content × Bool)) :
    Decidable (Discarded kind number history) :=
  inferInstanceAs (Decidable (∃ event ∈ history, _))

/-- A history discards a content at its first request, or later. -/
theorem ite_discarded_cons {β : Type*} (kind : Kind) (number : ℕ)
    (event : Request Kind Content × Bool) (history : List (Request Kind Content × Bool))
    (gone kept : β) :
    (if Discarded kind number (event :: history) then gone else kept) =
      if Discarded kind number history then gone
      else if event.2 = true ∧ event.1.Discards kind number then gone else kept := by
  have split : Discarded kind number (event :: history) ↔
      (event.2 = true ∧ event.1.Discards kind number) ∨ Discarded kind number history :=
    List.exists_mem_cons_iff ..
  by_cases later : Discarded kind number history
  · rw [if_pos later, if_pos (split.mpr (.inr later))]
  · rw [if_neg later]
    exact if_congr (split.trans (or_iff_left later)) rfl rfl

section Run

variable {archive after : Archive kindOf} {event : Request Kind Content × Bool}
  {history : List (Request Kind Content × Bool)} {kind : Kind} {number : ℕ}

theorem Step.next_le (step : Step archive event after) (kind : Kind) :
    archive.next kind ≤ after.next kind := by
  cases step with
  | refused request next grows => exact grows kind
  | filed content => exact archive.le_file_next content kind
  | discarded ofKind numbers => exact Nat.le_refl _

/-- What stands under a number that has been given out. -/
theorem Step.find_eq (step : Step archive event after) (isGiven : number < archive.next kind) :
    after.find kind number =
      if event.2 = true ∧ event.1.Discards kind number then none else archive.find kind number := by
  cases step with
  | refused request next grows =>
      rw [if_neg (by simp)]
      rfl
  | filed content =>
      rw [if_neg (by simp [Request.Discards])]
      exact archive.find_file_of_given content isGiven
  | discarded ofKind numbers =>
      rw [archive.find_discard]
      exact if_congr (by simp [Request.Discards]) rfl rfl

/-- A number stands for the same content until it is discarded, and is never used again. -/
theorem Run.find_eq (run : Run archive history after) (isGiven : number < archive.next kind) :
    after.find kind number =
      if Discarded kind number history then none else archive.find kind number := by
  induction run with
  | nil archive => rw [if_neg (by simp [Discarded])]
  | @cons archive between after event history first later ih =>
      rw [ih (Nat.lt_of_lt_of_le isGiven (first.next_le kind)), first.find_eq isGiven,
        ite_discarded_cons]

theorem Step.mem_entries (step : Step archive event after) {entry : ℕ × Content}
    (present : entry ∈ after.entries) :
    entry ∈ archive.entries ∨ event = (.file entry.2, true) := by
  cases step with
  | refused request next grows => exact .inl present
  | filed content =>
      rcases List.mem_append.mp present with before | added
      · exact .inl before
      · rw [List.mem_singleton.mp added]
        exact .inr rfl
  | discarded ofKind numbers => exact .inl (List.mem_filter.mp present).1

/-- A content that is there after requests was there before them, or one of them filed it. -/
theorem Run.mem_entries (run : Run archive history after) {entry : ℕ × Content}
    (present : entry ∈ after.entries) :
    entry ∈ archive.entries ∨ (Request.file entry.2, true) ∈ history := by
  induction run with
  | nil archive => exact .inl present
  | cons first later ih =>
      rcases ih present with between | inLater
      · rcases first.mem_entries between with before | isFirst
        · exact .inl before
        · exact .inr (List.mem_cons.mpr (.inl isFirst.symm))
      · exact .inr (List.mem_cons_of_mem _ inLater)

end Run

end Archive

end Lib
