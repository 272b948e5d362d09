import Mathlib.Data.List.Nodup

/-!
# Outer joins

An outer join puts next to a row, for each of several tables, one of the rows that match it
there, or nothing where none does. The rows of the join are the ways to pick from every table:
`OuterJoined.of_picks` makes a row of the join from such picks, `OuterJoined.picked` finds the
picks in a row of the join.
-/

namespace Lib

universe u v w

section Picked

variable {Row : Type v} {candidate other : Row → Prop}

/-- One of the candidates, or nothing where there is none. -/
def Picked (candidate : Row → Prop) : Option Row → Prop
  | some row => candidate row
  | none => ∀ row, ¬ candidate row

/-- What is picked depends on the candidates alone. -/
theorem Picked.congr (same : ∀ row, candidate row ↔ other row) (pick : Option Row) :
    Picked candidate pick ↔ Picked other pick := by
  cases pick with
  | some row => exact same row
  | none => exact forall_congr' fun row => not_congr (same row)

end Picked

section Joined

variable {Table : Type u} {Row : Type v} {Name : Type w}

/-- What a row of a join has picked from each table. -/
structure OuterJoined (tables : List Table) (candidate : Table → Row → Prop)
    (joined : List (Table × Option Row)) : Prop where
  tables : joined.map Prod.fst = tables
  each : ∀ entry ∈ joined, Picked (candidate entry.1) entry.2

variable {tables : List Table} {candidate : Table → Row → Prop}

theorem OuterJoined.of_picks {pick : Table → Option Row}
    (picked : ∀ table ∈ tables, Picked (candidate table) (pick table)) :
    OuterJoined tables candidate (tables.map fun table => (table, pick table)) where
  tables := by simp [Function.comp_def]
  each := by
    intro entry present
    rcases List.mem_map.mp present with ⟨table, inTables, rfl⟩
    exact picked table inTables

variable [DecidableEq Name] (name : Table → Name)

/-- What is picked from the table of a name. -/
def pickOf (joined : List (Table × Option Row)) (wanted : Name) : Option Row :=
  (joined.find? fun entry => name entry.1 = wanted).bind Prod.snd

theorem pickOf_eq {joined : List (Table × Option Row)}
    (distinct : ((joined.map Prod.fst).map name).Nodup) {entry : Table × Option Row}
    (present : entry ∈ joined) : pickOf name joined (name entry.1) = entry.2 := by
  induction joined with
  | nil => exact absurd present List.not_mem_nil
  | cons first joined ih =>
      rw [List.map_cons, List.map_cons, List.nodup_cons] at distinct
      rcases List.mem_cons.mp present with rfl | later
      · simp [pickOf]
      · have differs : name first.1 ≠ name entry.1 := by
          intro same
          refine distinct.1 (same ▸ ?_)
          exact List.mem_map_of_mem (List.mem_map_of_mem later)
        have found := ih distinct.2 later
        rw [pickOf] at found ⊢
        rw [List.find?_cons_of_neg (by simpa using differs)]
        exact found

/-- Where the names are distinct, a row of the join shows what is picked from each table. -/
theorem OuterJoined.picked {joined : List (Table × Option Row)}
    (isJoined : OuterJoined tables candidate joined) (distinct : (tables.map name).Nodup)
    {table : Table} (present : table ∈ tables) :
    Picked (candidate table) (pickOf name joined (name table)) := by
  rw [← isJoined.tables] at present distinct
  rcases List.mem_map.mp present with ⟨entry, inJoined, rfl⟩
  rw [pickOf_eq name distinct inJoined]
  exact isJoined.each entry inJoined

theorem pickOf_map (pick : Table → Option Row) (distinct : (tables.map name).Nodup)
    {table : Table} (present : table ∈ tables) :
    pickOf name (tables.map fun table => (table, pick table)) (name table) = pick table := by
  have entry : (table, pick table) ∈ tables.map fun table => (table, pick table) :=
    List.mem_map_of_mem present
  refine pickOf_eq name ?_ entry
  simpa [Function.comp_def] using distinct

end Joined

/-- The first element with a property is the first one with a narrower property that it has. -/
theorem find?_of_narrower {α : Type u} {wide narrow : α → Bool} {elements : List α} {first : α}
    (found : elements.find? wide = some first) (holds : narrow first = true)
    (narrower : ∀ element, narrow element = true → wide element = true) :
    elements.find? narrow = some first := by
  induction elements with
  | nil => exact absurd found (by simp)
  | cons element elements ih =>
      by_cases isWide : wide element = true
      · rw [List.find?_cons_of_pos isWide, Option.some.injEq] at found
        rw [found, List.find?_cons_of_pos holds]
      · rw [List.find?_cons_of_neg isWide] at found
        rw [List.find?_cons_of_neg fun isNarrow => isWide (narrower element isNarrow), ih found]

end Lib
