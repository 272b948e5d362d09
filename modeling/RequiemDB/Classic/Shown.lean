import RequiemDB.Classic.Reading
import RequiemDB.Classic.Rows

/-!
# The part of a message that a reader sees

The queries of a reader ask for some tables, each with its test of the parent
letter, below some parent indexes. A database shows a script to such queries when
each of them finds the rows of the script and no others. What it shows of a part
follows from what it shows of the whole: the rows of the other parts stand in
other tables, have other letters or stand below other indexes.
-/

namespace RequiemDB

open Lib

variable {α : Type}

/-- Tables, each with a parent letter of its rows. -/
abbrev Footprint := List (Table × Option ParentType)

/-- Tables, each with the test of the parent letter in a query. -/
abbrev Asked := List (Table × ParentTypeTest)

/-- The row stands in one of the tables, with its letter there and below the parent indexes. -/
structure Row.StandsIn (row : Row) (footprint : Footprint) (parents : List Int) : Prop where
  table : (row.table, row.parentType) ∈ footprint
  parents : parents <+: row.parents

/-- All rows of a script stand in the tables below the parent indexes. -/
def Within (footprint : Footprint) (parents : List Int) (script : Script Row) : Prop :=
  ∀ item ∈ script, item.statement.StandsIn footprint parents

namespace Within

variable {footprint : Footprint} {parents : List Int}

theorem nil : Within footprint parents [] := fun _ absent => absurd absent List.not_mem_nil

theorem cons {row : Row} {onFailure : OnFailure Row} {script : Script Row}
    (here : row.StandsIn footprint parents) (later : Within footprint parents script) :
    Within footprint parents (⟨row, onFailure⟩ :: script) :=
  List.forall_mem_cons.mpr ⟨here, later⟩

theorem single {row : Row} (here : row.StandsIn footprint parents) :
    Within footprint parents [.must row] :=
  cons here nil

theorem append {left right : Script Row} (inLeft : Within footprint parents left)
    (inRight : Within footprint parents right) : Within footprint parents (left ++ right) :=
  List.forall_mem_append.mpr ⟨inLeft, inRight⟩

theorem optional {script : α → Script Row} {part : Option α}
    (within : ∀ element, Within footprint parents (script element)) :
    Within footprint parents (optionalScript script part) := by
  cases part with
  | none => exact nil
  | some element => exact within element

theorem each {part : Int → α → Script Row} {start : Int} {elements : List α}
    (within : ∀ index element, Within footprint parents (part index element)) :
    Within footprint parents (Lib.each part start elements) :=
  forall_mem_each part start elements fun index element _ => within index element

theorem listed {part : Int → α → Script Row} {elements : List α}
    (within : ∀ index element, Within footprint parents (part index element)) :
    Within footprint parents (Lib.listed part elements) :=
  forall_mem_listed part elements fun index element _ => within index element

theorem mono {wider : Footprint} {above : List Int} {script : Script Row}
    (within : Within footprint parents script) (tables : footprint ⊆ wider)
    (prefixed : above <+: parents) : Within wider above script := fun item present =>
  ⟨tables (within item present).table, prefixed.trans (within item present).parents⟩

theorem flatten {footprints : List Footprint} {scripts : List (Script Row)}
    (within : List.Forall₂ (fun footprint script => Within footprint parents script) footprints
      scripts) : Within footprints.flatten parents scripts.flatten := by
  induction within with
  | nil => exact nil
  | cons here _ ih =>
      rw [List.flatten_cons, List.flatten_cons]
      exact (here.mono (List.subset_append_left _ _) List.prefix_rfl).append
        (ih.mono (List.subset_append_right _ _) List.prefix_rfl)

end Within

/-- The rows that the query keeps of a script. -/
def found (query : Select) (script : Script Row) : List Row :=
  script.statements.filter fun row => query.Matches row

section Found

variable (query : Select)

@[simp]
theorem found_nil : found query [] = [] := rfl

@[simp]
theorem found_append (left right : Script Row) :
    found query (left ++ right) = found query left ++ found query right := by
  rw [found, Script.statements_append, List.filter_append]
  rfl

theorem found_cons (row : Row) (onFailure : OnFailure Row) (script : Script Row) :
    found query (⟨row, onFailure⟩ :: script) =
      if query.Matches row then row :: found query script else found query script := by
  rw [found, Script.statements_cons, List.filter_cons]
  simp only [decide_eq_true_eq]
  rfl

theorem found_must (row : Row) :
    found query [.must row] = if query.Matches row then [row] else [] :=
  found_cons query row .stop []

theorem found_each (part : Int → α → Script Row) (start : Int) (elements : List α) :
    found query (each part start elements) =
      each (fun index element => found query (part index element)) start elements := by
  rw [found, Script.statements, map_each, filter_each]
  rfl

theorem found_listed (part : Int → α → Script Row) (elements : List α) :
    found query (listed part elements) =
      listed (fun index element => found query (part index element)) elements := by
  rw [found, Script.statements, map_listed, filter_listed]
  rfl

theorem found_eq_nil_iff (script : Script Row) :
    found query script = [] ↔ ∀ item ∈ script, ¬ query.Matches item.statement := by
  simp [found, Script.statements]

end Found

/-- The query is one on the message that asks for one of the tables, below the parents. -/
structure Asks (asked : Asked) (parents : List Int) (ident : Nat) (query : Select) : Prop where
  table : (query.table, query.parentType) ∈ asked
  ident : query.messageIdent = ident
  parents : parents <+: query.parents

/-- No query for the tables below the parents finds a row of the script. -/
def Misses (asked : Asked) (parents : List Int) (ident : Nat) (script : Script Row) : Prop :=
  ∀ query, Asks asked parents ident query → found query script = []

/-- No row of the footprint has a letter that is asked for in its table. -/
def TablesApart (asked : Asked) (footprint : Footprint) : Prop :=
  ∀ table ∈ asked, ∀ entry ∈ footprint, table.1 = entry.1 → ¬ table.2.Holds entry.2

instance (asked : Asked) (footprint : Footprint) : Decidable (TablesApart asked footprint) :=
  inferInstanceAs (Decidable (∀ table ∈ asked, ∀ entry ∈ footprint, _ → _))

namespace Misses

variable {asked : Asked} {parents : List Int} {ident : Nat}

theorem append {left right : Script Row} (inLeft : Misses asked parents ident left)
    (inRight : Misses asked parents ident right) : Misses asked parents ident (left ++ right) := by
  intro query asks
  rw [found_append, inLeft query asks, inRight query asks, List.append_nil]

/-- The rows stand in other tables, or have other letters. -/
theorem ofTables {footprint : Footprint} {above : List Int} {script : Script Row}
    (within : Within footprint above script) (apart : TablesApart asked footprint) :
    Misses asked parents ident script := by
  intro query asks
  apply (found_eq_nil_iff query script).mpr
  rintro item inScript ⟨table, letter, _⟩
  exact apart _ asks.table _ (within item inScript).table table.symm letter

theorem ofParents {footprint : Footprint} {others : List Int} {script : Script Row}
    (within : Within footprint others script) (sameLength : others.length = parents.length)
    (differ : others ≠ parents) : Misses asked parents ident script := by
  intro query asks
  apply (found_eq_nil_iff query script).mpr
  rintro item inScript ⟨_, _, _, same, _⟩
  have below := (within item inScript).parents
  rw [same] at below
  exact differ ((List.prefix_of_prefix_length_le below asks.parents sameLength.le).eq_of_length
    sameLength)

theorem found_eq_nil {query : Select} {footprint : Footprint} {above : List Int}
    {script : Script Row} (within : Within footprint above script)
    (apart : TablesApart [(query.table, query.parentType)] footprint) : found query script = [] :=
  ofTables within apart query ⟨.head _, rfl, List.prefix_rfl⟩

end Misses

/-- Every query for the tables below the parents finds the rows of the script. -/
def Shows (store : Store) (ident : Nat) (asked : Asked) (parents : List Int)
    (script : Script Row) : Prop :=
  ∀ query, Asks asked parents ident query →
    store.rows.filter (fun row => query.Matches row) = found query script

namespace Shows

variable {store : Store} {ident : Nat} {asked : Asked} {parents : List Int}

theorem narrow {wide : Asked} {above : List Int} {script : Script Row}
    (shows : Shows store ident wide above script) (tables : asked ⊆ wide)
    (below : above <+: parents) : Shows store ident asked parents script := fun query asks =>
  shows query ⟨tables asks.table, asks.ident, below.trans asks.parents⟩

theorem left {left right : Script Row} (shows : Shows store ident asked parents (left ++ right))
    (misses : Misses asked parents ident right) : Shows store ident asked parents left := by
  intro query asks
  rw [shows query asks, found_append, misses query asks, List.append_nil]

theorem right {left right : Script Row} (shows : Shows store ident asked parents (left ++ right))
    (misses : Misses asked parents ident left) : Shows store ident asked parents right := by
  intro query asks
  rw [shows query asks, found_append, misses query asks, List.nil_append]

/-- The script behind its first row, for tables without that row. -/
theorem tail {narrower : Asked} {row : Row} {onFailure : OnFailure Row} {script : Script Row}
    (shows : Shows store ident asked parents (⟨row, onFailure⟩ :: script))
    (tables : narrower ⊆ asked) (apart : TablesApart narrower [(row.table, row.parentType)]) :
    Shows store ident narrower parents script := by
  have first : Within [(row.table, row.parentType)] [] [⟨row, onFailure⟩] :=
    .cons ⟨.head _, List.nil_prefix⟩ .nil
  have both : Shows store ident narrower parents ([⟨row, onFailure⟩] ++ script) :=
    shows.narrow tables List.prefix_rfl
  exact both.right (.ofTables first apart)

theorem nothing {footprint : Footprint} {above : List Int} {script : Script Row}
    (shows : Shows store ident asked above script) (within : Within footprint above script)
    (apart : TablesApart asked footprint) (below : above <+: parents) :
    Shows store ident asked parents [] := by
  intro query asks
  rw [shows.narrow (List.Subset.refl asked) below query asks]
  exact Misses.ofTables within apart query asks

/-- One of several scripts, when the tables of the others are not asked for. -/
theorem part {footprints : List Footprint} {above : List Int} {scripts : List (Script Row)}
    (within : List.Forall₂ (fun footprint script => Within footprint above script) footprints
      scripts)
    (shows : Shows store ident asked parents scripts.flatten) (position : Nat)
    {script : Script Row} (found : scripts[position]? = some script)
    (apart : ∀ footprint ∈ footprints.eraseIdx position, TablesApart asked footprint) :
    Shows store ident asked parents script := by
  induction within generalizing position with
  | nil => exact absurd found (by simp)
  | @cons footprint first footprints scripts here later ih =>
      rw [List.flatten_cons] at shows
      cases position with
      | zero =>
          have rest : Misses asked parents ident scripts.flatten := by
            clear ih shows found
            induction later with
            | nil => exact fun _ _ => rfl
            | cons here _ ih =>
                simp only [List.eraseIdx_cons_zero, List.forall_mem_cons] at apart ih
                exact (Misses.ofTables here apart.1).append (ih apart.2)
          rw [← Option.some.inj found]
          exact shows.left rest
      | succ position =>
          simp only [List.eraseIdx_cons_succ, List.forall_mem_cons] at apart
          exact ih (shows.right (.ofTables here apart.1)) position found apart.2

section Elements

variable {elements : List α} {onFailure : OnFailure Row}

/-- Below the element at an index, where the parts of each element stand below its index. -/
theorem below (row : Int → α → Row) (script : Int → α → Script Row)
    (own : Table × Option ParentType) {footprint : Footprint}
    (shows : Shows store ident asked parents
      (listed (fun index element => .must (row index element) :: script index element) elements))
    (inOwn : ∀ index element, ((row index element).table, (row index element).parentType) = own)
    (apart : TablesApart asked [own])
    (within : ∀ index element, Within footprint (parents ++ [index]) (script index element))
    (index : Int) :
    Shows store ident asked (parents ++ [index])
      (optionalScript (script index) (atIndex elements index)) := by
  have heads : ∀ other element,
      Misses asked (parents ++ [index]) ident [.must (row other element)] := fun other element =>
    .ofTables (.single ⟨List.mem_singleton.mpr (inOwn other element), List.nil_prefix⟩) apart
  have others : ∀ other, other ≠ index → ∀ element, Misses asked (parents ++ [index]) ident
      (.must (row other element) :: script other element) := fun other differs element =>
    (heads other element).append
      (.ofParents (within other element) (by simp) fun same => differs (by simpa using same))
  intro query asks
  have atPart : (listed (fun index element =>
        (Script.statements (.must (row index element) :: script index element))) elements).filter
      (fun row => query.Matches row) = _ :=
    filter_listed_at index fun other differs element => others other differs element query asks
  have wide := shows.narrow (List.Subset.refl asked) (List.prefix_append parents [index]) query asks
  rw [wide, found, Script.statements, map_listed]
  refine atPart.trans ?_
  cases atIndex elements index with
  | none => rfl
  | some element =>
      have own := heads index element query asks
      have split := found_append query [.must (row index element)] (script index element)
      rw [own, List.nil_append] at split
      exact split

/-- The rows of the elements alone, when none of their parts is asked for. -/
theorem heads (row : Int → α → Row) (script : Int → α → Script Row) {footprint : Footprint}
    (shows : Shows store ident asked parents
      (listed (fun index element => .must (row index element) :: script index element) elements))
    (within : ∀ index element, Within footprint (parents ++ [index]) (script index element))
    (apart : TablesApart asked footprint) :
    Shows store ident asked parents
      (listed (fun index element => [.must (row index element)]) elements) := by
  intro query asks
  rw [shows query asks, found_listed, found_listed]
  congr 1
  funext index element
  have misses : found query (script index element) = [] :=
    Misses.ofTables (within index element) apart query asks
  have split := found_append query [.must (row index element)] (script index element)
  rwa [misses, List.append_nil] at split

theorem partBelow (row : Int → α → Row) (parts : Int → α → List (Script Row))
    (own : Table × Option ParentType) {footprints : List Footprint}
    (shows : Shows store ident asked parents
      (listed (fun index element => .must (row index element) :: (parts index element).flatten)
        elements))
    (inOwn : ∀ index element, ((row index element).table, (row index element).parentType) = own)
    (within : ∀ index element, List.Forall₂
      (fun footprint script => Within footprint (parents ++ [index]) script) footprints
      (parts index element))
    (position : Nat) {script : Int → α → Script Row}
    (found : ∀ index element, (parts index element)[position]? = some (script index element))
    (apart : ∀ footprint ∈ [own] :: footprints.eraseIdx position, TablesApart asked footprint)
    (index : Int) :
    Shows store ident asked (parents ++ [index])
      (optionalScript (script index) (atIndex elements index)) := by
  rcases List.forall_mem_cons.mp apart with ⟨apartOwn, apartParts⟩
  have parts := shows.below row _ own inOwn apartOwn
    (fun index element => Within.flatten (within index element)) index
  cases atElement : atIndex elements index with
  | none =>
      rw [atElement] at parts
      exact parts
  | some element =>
      rw [atElement] at parts
      exact part (within index element) parts position (found index element) apartParts

end Elements

section Queries

variable {query : Select}

theorem select {script : Script Row}
    (shows : Shows store query.messageIdent asked query.parents script)
    (table : (query.table, query.parentType) ∈ asked) (unlisted : query.listed = false) :
    store.select query = found query script := by
  rw [Store.select, unlisted, shows query ⟨table, rfl, List.prefix_rfl⟩]
  rfl

theorem selectNothing (shows : Shows store query.messageIdent asked query.parents [])
    (table : (query.table, query.parentType) ∈ asked) (unlisted : query.listed = false) :
    store.select query = [] :=
  shows.select table unlisted

theorem selectFirst {row : Row} {onFailure : OnFailure Row} {script : Script Row}
    (shows : Shows store query.messageIdent asked query.parents (⟨row, onFailure⟩ :: script))
    (table : (query.table, query.parentType) ∈ asked) (unlisted : query.listed = false)
    (isMatch : query.Matches row) (others : found query script = []) :
    store.select query = [row] := by
  rw [shows.select table unlisted, found_cons, if_pos isMatch, others]

/-- A query on the rows of a list finds them in the order of the list. -/
theorem selectListed {row : Int → α → Row} {elements : List α}
    (shows : Shows store query.messageIdent asked query.parents
      (listed (fun index element => [.must (row index element)]) elements))
    (table : (query.table, query.parentType) ∈ asked) (isListed : query.listed = true)
    (isMatch : ∀ index element, query.Matches (row index element) ↔ index ≠ -1)
    (indexed : ∀ index element, (row index element).index = some index) :
    store.select query = each (fun index element => [row index element]) 0 elements := by
  have statements : Script.statements (listed (fun index element => [.must (row index element)])
      elements) = listed (fun index element => [row index element]) elements :=
    map_listed ..
  rw [Store.select, isListed, shows query ⟨table, rfl, List.prefix_rfl⟩, found, statements,
    filter_listed_row elements isMatch, if_pos rfl, ordered_each indexed]

theorem selectEach {row : Int → α → Row} {elements : List α}
    (shows : Shows store query.messageIdent asked query.parents
      (each (fun index element => [.must (row index element)]) 0 elements))
    (table : (query.table, query.parentType) ∈ asked) (isListed : query.listed = true)
    (isMatch : ∀ index element, query.Matches (row index element) ↔ index ≠ -1)
    (indexed : ∀ index element, (row index element).index = some index) :
    store.select query = each (fun index element => [row index element]) 0 elements := by
  have all : (each (fun index element => [row index element]) 0 elements).filter
      (fun row => query.Matches row) =
        each (fun index element => [row index element]) 0 elements := by
    apply List.filter_eq_self.mpr
    intro kept present
    rcases (mem_each _ _ _).mp present with ⟨position, element, _, inPart⟩
    rw [List.mem_singleton.mp inPart, decide_eq_true_eq, isMatch]
    omega
  have statements : Script.statements (each (fun index element => [.must (row index element)]) 0
      elements) = each (fun index element => [row index element]) 0 elements :=
    map_each ..
  rw [Store.select, isListed, shows query ⟨table, rfl, List.prefix_rfl⟩, found, statements, all,
    if_pos rfl, ordered_each indexed]

end Queries

end Shows

end RequiemDB
