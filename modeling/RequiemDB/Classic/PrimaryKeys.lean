import RequiemDB.Classic.Footprint
import RequiemDB.Classic.Reachable

/-!
# Primary keys

The primary keys of the schema, and that an insertion never collides on one. Rows of
one message differ in their table, in their letter or in an index: the lists number
their elements, the copy of the last element has the index -1, and the parts of an
element stand below its index. Rows of other messages have another ident, or the letter
of the other kind of messages.
-/

namespace RequiemDB

open Lib

variable {E : EnumKind → Type} [Librequiem E] {α : Type}

/-- The columns of the primary keys; `_message_ident` is `_ident` in the message tables. -/
inductive KeyColumn where
  | parentType | messageIdent | parent (level : Nat) | index
deriving DecidableEq

/-- The `PRIMARY KEY` of a table, which is the same in the three schemas. -/
def Table.primaryKey : Table → List KeyColumn
  | .alert | .heartbeat | .toolAlert | .correlationAlert | .overflowAlert | .classification
  | .impact | .confidence | .assessment | .detectTime => [.messageIdent]
  | .createTime | .analyzerTime => [.parentType, .messageIdent]
  | .alertident | .analyzer | .additionalData => [.parentType, .messageIdent, .index]
  | .reference | .source | .target | .action => [.messageIdent, .index]
  | .file => [.messageIdent, .parent 0, .index]
  | .fileAccess | .linkage | .checksum => [.messageIdent, .parent 0, .parent 1, .index]
  | .inode => [.messageIdent, .parent 0, .parent 1]
  | .fileAccessPermission => [.messageIdent, .parent 0, .parent 1, .parent 2, .index]
  | .node | .user | .process | .service | .webService | .snmpService =>
      [.parentType, .messageIdent, .parent 0]
  | .address | .processArg | .processEnv | .webServiceArg =>
      [.parentType, .messageIdent, .parent 0, .index]
  | .userId => [.parentType, .messageIdent, .parent 0, .parent 1, .parent 2, .index]

/-- Two rows have the same value in a column. -/
def KeyColumn.Agrees (first second : Row) : KeyColumn → Prop
  | .parentType => first.parentType = second.parentType
  | .messageIdent => first.messageIdent = second.messageIdent
  | .parent level => first.parents[level]? = second.parents[level]?
  | .index => first.index = second.index

/-- The rows are rows of one table with the same primary key. -/
def Row.Collides (first second : Row) : Prop :=
  first.table = second.table ∧
    ∀ column ∈ first.table.primaryKey, column.Agrees first second

instance (first second : Row) : ∀ column : KeyColumn, Decidable (column.Agrees first second)
  | .parentType => inferInstanceAs (Decidable (first.parentType = second.parentType))
  | .messageIdent => inferInstanceAs (Decidable (first.messageIdent = second.messageIdent))
  | .parent level => inferInstanceAs (Decidable (first.parents[level]? = second.parents[level]?))
  | .index => inferInstanceAs (Decidable (first.index = second.index))

instance (first second : Row) : Decidable (first.Collides second) :=
  inferInstanceAs (Decidable (_ ∧ ∀ column ∈ first.table.primaryKey, _))

/-- No two of the rows collide. -/
def Distinct (rows : List Row) : Prop := rows.Pairwise fun first second => ¬ first.Collides second

section Apart

/-- Tables that differ, or letters that differ where the letter is part of the key. -/
def KeysApart (first second : Footprint) : Prop :=
  ∀ here ∈ first, ∀ there ∈ second, here.1 = there.1 →
    here.2 ≠ there.2 ∧ .parentType ∈ here.1.primaryKey

instance (first second : Footprint) : Decidable (KeysApart first second) :=
  inferInstanceAs (Decidable (∀ here ∈ first, ∀ there ∈ second, _ → _))

/-- The index of the parent of a level is part of the keys. -/
def KeyedBelow (level : Nat) (footprint : Footprint) : Prop :=
  ∀ entry ∈ footprint, .parent level ∈ entry.1.primaryKey

instance (level : Nat) (footprint : Footprint) : Decidable (KeyedBelow level footprint) :=
  inferInstanceAs (Decidable (∀ entry ∈ footprint, _))

/-- The rows of elements are apart from those below the elements, whose keys have the index. -/
structure Nests (own : Table × Option ParentType) (level : Nat) (footprint : Footprint) : Prop where
  indexed : .index ∈ own.1.primaryKey
  above : KeysApart [own] footprint
  below : KeysApart footprint [own]
  keyed : KeyedBelow level footprint

instance (own : Table × Option ParentType) (level : Nat) (footprint : Footprint) :
    Decidable (Nests own level footprint) :=
  decidable_of_iff (.index ∈ own.1.primaryKey ∧ KeysApart [own] footprint ∧
      KeysApart footprint [own] ∧ KeyedBelow level footprint)
    ⟨fun ⟨indexed, above, below, keyed⟩ => ⟨indexed, above, below, keyed⟩,
      fun nests => ⟨nests.indexed, nests.above, nests.below, nests.keyed⟩⟩

/-- All rows stand in the tables, below the parent indexes. -/
def RowsWithin (footprint : Footprint) (parents : List Int) (rows : List Row) : Prop :=
  ∀ row ∈ rows, row.StandsIn footprint parents

theorem Within.statements {footprint : Footprint} {parents : List Int} {script : Script Row}
    (within : Within footprint parents script) :
    RowsWithin footprint parents script.statements := by
  intro row present
  rcases List.mem_map.mp present with ⟨item, inScript, rfl⟩
  exact within item inScript

theorem not_collides_of_keysApart {first second : Footprint} (apart : KeysApart first second)
    {above below : List Int} {row other : Row} (here : row.StandsIn first above)
    (there : other.StandsIn second below) : ¬ row.Collides other := by
  rintro ⟨sameTable, sameKey⟩
  rcases apart _ here.table _ there.table sameTable with ⟨differ, keyed⟩
  exact differ (sameKey _ keyed)

theorem not_collides_of_parents {footprint : Footprint} {parents : List Int}
    (keyed : KeyedBelow parents.length footprint) {index otherIndex : Int}
    (differ : index ≠ otherIndex) {row other : Row}
    (here : row.StandsIn footprint (parents ++ [index]))
    (there : other.StandsIn footprint (parents ++ [otherIndex])) : ¬ row.Collides other := by
  rintro ⟨_, sameKey⟩
  have same : row.parents[parents.length]? = other.parents[parents.length]? :=
    sameKey _ (keyed _ here.table)
  have atLevel : ∀ {at_ : Int} {found : Row}, found.StandsIn footprint (parents ++ [at_]) →
      found.parents[parents.length]? = some at_ := by
    intro at_ found stands
    rcases stands.parents with ⟨rest, isParents⟩
    rw [← isParents, List.append_assoc]
    simp
  rw [atLevel here, atLevel there, Option.some.injEq] at same
  exact differ same

end Apart

namespace Distinct

theorem nil : Distinct [] := List.Pairwise.nil

theorem single (row : Row) : Distinct [row] := List.pairwise_singleton _ row

theorem flatten {footprints : List Footprint} {parents : List Int} {parts : List (List Row)}
    (within : List.Forall₂ (fun footprint rows => RowsWithin footprint parents rows) footprints
      parts)
    (apart : footprints.Pairwise KeysApart) (distinct : ∀ part ∈ parts, Distinct part) :
    Distinct parts.flatten := by
  induction within with
  | nil => exact nil
  | @cons footprint part footprints parts here later ih =>
      rcases List.pairwise_cons.mp apart with ⟨apartHere, apartLater⟩
      rcases List.forall_mem_cons.mp distinct with ⟨distinctHere, distinctLater⟩
      refine List.pairwise_append.mpr ⟨distinctHere, ih apartLater distinctLater, ?_⟩
      intro row inPart other inLater
      rcases List.mem_flatten.mp inLater with ⟨rest, present, inRest⟩
      rcases List.forall₂_iff_get.mp later with ⟨sameLength, pairs⟩
      rcases List.getElem_of_mem present with ⟨position, inside, rfl⟩
      have stands := pairs position (sameLength ▸ inside) inside other inRest
      exact not_collides_of_keysApart (apartHere _ (List.get_mem _ _)) (here row inPart) stands

theorem cons (own : Table × Option ParentType) {footprint : Footprint} {parents : List Int}
    {row : Row} {rows : List Row} (isRow : (row.table, row.parentType) = own)
    (within : RowsWithin footprint parents rows) (apart : KeysApart [own] footprint)
    (distinct : Distinct rows) : Distinct (row :: rows) := by
  refine List.pairwise_cons.mpr ⟨fun other present => ?_, distinct⟩
  have stands : row.StandsIn [own] [] := ⟨List.mem_singleton.mpr isRow, List.nil_prefix⟩
  exact not_collides_of_keysApart apart stands (within other present)

theorem append {first second : Footprint} {above below : List Int} {left right : List Row}
    (inLeft : RowsWithin first above left) (inRight : RowsWithin second below right)
    (apart : KeysApart first second) (distinctLeft : Distinct left)
    (distinctRight : Distinct right) : Distinct (left ++ right) :=
  List.pairwise_append.mpr ⟨distinctLeft, distinctRight, fun row present other later =>
    not_collides_of_keysApart apart (inLeft row present) (inRight other later)⟩

theorem optional {script : α → Script Row} (part : Option α)
    (distinct : ∀ element, Distinct (script element).statements) :
    Distinct (optionalScript script part).statements := by
  cases part with
  | none => exact nil
  | some element => exact distinct element

section Elements

variable {row : Int → α → Row} (table : Table)
  (isRow : ∀ index element, (row index element).table = table ∧
  (row index element).index = some index) (indexed : .index ∈ table.primaryKey)
include isRow indexed

theorem not_collides_of_index {index other : Int} (differ : index ≠ other) (element later : α) :
    ¬ (row index element).Collides (row other later) := by
  rcases isRow index element with ⟨inTable, atIndex⟩
  rintro ⟨_, sameKey⟩
  have same : (row index element).index = (row other later).index :=
    sameKey .index (inTable.symm ▸ indexed)
  rw [atIndex, (isRow other later).2, Option.some.injEq] at same
  exact differ same

theorem listed (elements : List α) :
    Distinct (Script.statements
      (Lib.listed (fun index element => [.must (row index element)]) elements)) := by
  rw [Script.statements, map_listed]
  refine pairwise_listed _ elements (fun _ _ => List.pairwise_singleton _ _) ?_
  intro index other differ element later entry isEntry further isFurther
  rw [List.mem_singleton.mp isEntry, List.mem_singleton.mp isFurther]
  exact not_collides_of_index table isRow indexed differ element later

theorem each (elements : List α) :
    Distinct (Script.statements
      (Lib.each (fun index element => [.must (row index element)]) 0 elements)) := by
  rw [Script.statements, map_each]
  refine pairwise_each _ 0 elements (fun _ _ => List.pairwise_singleton _ _) ?_
  intro index other differ element later entry isEntry further isFurther
  rw [List.mem_singleton.mp isEntry, List.mem_singleton.mp isFurther]
  exact not_collides_of_index table isRow indexed differ element later

end Elements

theorem elements (own : Table × Option ParentType) (parents : List Int) (footprint : Footprint)
    (row : Int → α → Row) (parts : Int → α → Script Row)
    (nests : Nests own parents.length footprint)
    (isRow : ∀ index element, ((row index element).table, (row index element).parentType) = own ∧
      (row index element).index = some index)
    (within : ∀ index element, Within footprint (parents ++ [index]) (parts index element))
    (distinct : ∀ index element, Distinct (parts index element).statements) (all : List α) :
    Distinct (Script.statements (Lib.listed (fun index element =>
      .must (row index element) :: parts index element) all)) := by
  have stands : ∀ index element, (row index element).StandsIn [own] [] := fun index element =>
    ⟨List.mem_singleton.mpr (isRow index element).1, List.nil_prefix⟩
  have inTable : ∀ index element, (row index element).table = own.1 ∧
      (row index element).index = some index := fun index element =>
    ⟨congrArg Prod.fst (isRow index element).1, (isRow index element).2⟩
  rw [Script.statements, map_listed]
  refine pairwise_listed _ all ?_ ?_
  · intro index element
    refine List.pairwise_cons.mpr ⟨fun other present => ?_, distinct index element⟩
    exact not_collides_of_keysApart nests.above (stands index element)
      ((within index element).statements other present)
  · intro index other differ element later entry isEntry further isFurther
    rcases List.mem_cons.mp isEntry with rfl | inParts
    · rcases List.mem_cons.mp isFurther with rfl | inFurther
      · exact not_collides_of_index own.1 inTable nests.indexed differ element later
      · exact not_collides_of_keysApart nests.above (stands index element)
          ((within other later).statements further inFurther)
    · rcases List.mem_cons.mp isFurther with rfl | inFurther
      · exact not_collides_of_keysApart nests.below
          ((within index element).statements entry inParts) (stands other later)
      · exact not_collides_of_parents nests.keyed differ
          ((within index element).statements entry inParts)
          ((within other later).statements further inFurther)

end Distinct

section Parts

variable (letter : ParentType) (ident : Nat) (index : Int)

theorem distinct_nodeScript (node : Node E) :
    Distinct (nodeScript letter ident index node).statements := by
  have below : Within [(.address, some letter)] [index] (listed (fun position address =>
      [.must (addressRow letter ident index position address)]) node.addresses) :=
    .listed fun _ _ => .single ⟨.head _, List.prefix_rfl⟩
  refine .cons (.node, some letter) rfl below.statements (by simp [KeysApart]) ?_
  exact .listed .address (fun _ _ => ⟨rfl, rfl⟩) (by decide) _

theorem distinct_userScript (user : User E) :
    Distinct (userScript letter ident index user).statements := by
  have below : Within [(.userId, some letter)] [index] (listed (fun position userId =>
      [.must (userIdRow letter ident index 0 0 position userId)]) user.userIds) :=
    .listed fun _ _ => .single ⟨.head _, List.prefix_append [index] [0, 0]⟩
  refine .cons (.user, some letter) rfl below.statements (by simp [KeysApart]) ?_
  exact .listed .userId (fun _ _ => ⟨rfl, rfl⟩) (by decide) _

theorem distinct_processScript (process : Process) :
    Distinct (processScript letter ident index process).statements := by
  have ofArgs : Within [(.processArg, some letter)] [index] (each (fun position arg =>
      [.must (stringRow letter ident index .processArg .arg position arg)]) 0 process.args) :=
    .each fun _ _ => .single ⟨.head _, List.prefix_rfl⟩
  have ofEnvs : Within [(.processEnv, some letter)] [index] (each (fun position env =>
      [.must (stringRow letter ident index .processEnv .env position env)]) 0 process.envs) :=
    .each fun _ _ => .single ⟨.head _, List.prefix_rfl⟩
  have below := (ofArgs.mono (List.subset_append_left _ _) List.prefix_rfl).append
    (ofEnvs.mono (List.subset_append_right _ _) List.prefix_rfl)
  refine .cons (.process, some letter) rfl below.statements (by simp [KeysApart]) ?_
  change Distinct (Script.statements (_ ++ _))
  rw [Script.statements_append]
  refine .append ofArgs.statements ofEnvs.statements (by simp [KeysApart]) ?_ ?_
  · exact .each .processArg (fun _ _ => ⟨rfl, rfl⟩) (by decide) _
  · exact .each .processEnv (fun _ _ => ⟨rfl, rfl⟩) (by decide) _

theorem distinct_serviceScript (service : Service) :
    Distinct (serviceScript letter ident index service).statements := by
  have below : Within [(.webService, some letter), (.webServiceArg, some letter),
      (.snmpService, some letter)] [index] (serviceKindScript letter ident index service.kind) := by
    cases service.kind with
    | default => exact .nil
    | web webService =>
        refine .cons ⟨.head _, List.prefix_rfl⟩ ?_
        exact .listed fun _ _ => .single ⟨.tail _ (.head _), List.prefix_rfl⟩
    | snmp snmpService => exact .single ⟨.tail _ (.tail _ (.head _)), List.prefix_rfl⟩
  refine .cons (.service, some letter) rfl below.statements (by simp [KeysApart]) ?_
  cases service.kind with
  | default => exact .nil
  | snmp snmpService => exact .single _
  | web webService =>
      have ofArgs : Within [(.webServiceArg, some letter)] [index] (listed (fun position arg =>
          [.must (stringRow letter ident index .webServiceArg .arg position arg)])
          webService.args) :=
        .listed fun _ _ => .single ⟨.head _, List.prefix_rfl⟩
      refine .cons (.webService, some letter) rfl ofArgs.statements (by simp [KeysApart]) ?_
      exact .listed .webServiceArg (fun _ _ => ⟨rfl, rfl⟩) (by decide) _

theorem Distinct.parts {footprints : List Footprint} {parents : List Int}
    {parts : List (Script Row)}
    (within : List.Forall₂ (fun footprint script => Within footprint parents script) footprints
      parts)
    (apart : footprints.Pairwise KeysApart)
    (distinct : ∀ part ∈ parts, Distinct part.statements) :
    Distinct (Script.statements parts.flatten) := by
  have statements : Script.statements parts.flatten = (parts.map Script.statements).flatten :=
    List.map_flatten
  rw [statements]
  refine .flatten (List.forall₂_map_right_iff.mpr
    (within.imp fun _ _ => Within.statements)) apart ?_
  intro rows present
  rcases List.mem_map.mp present with ⟨part, inParts, rfl⟩
  exact distinct part inParts

theorem distinct_analyzers (isMessage : letter = .A ∨ letter = .H) (analyzers : List (Analyzer E)) :
    Distinct (Script.statements (listed (analyzerScript letter ident) analyzers)) := by
  rw [analyzerScript_eq]
  have sides : Nests (.analyzer, some letter) 0 (analyzerFootprints letter).flatten ∧
      (analyzerFootprints letter).Pairwise KeysApart := by
    rcases isMessage with rfl | rfl <;> decide
  refine .elements _ [] _ (analyzerRow letter ident) _ sides.1 (fun _ _ => ⟨rfl, rfl⟩)
    (fun index analyzer => .flatten (within_analyzerParts letter ident index analyzer))
    (fun index analyzer => ?_) analyzers
  refine .parts (within_analyzerParts letter ident index analyzer) sides.2 ?_
  simp only [analyzerParts, List.forall_mem_cons]
  exact ⟨.optional _ (distinct_nodeScript letter ident index),
    .optional _ (distinct_processScript letter ident index), List.forall_mem_nil _⟩

end Parts

section AlertParts

variable (ident : Nat)

theorem distinct_accesses (targetIndex fileIndex : Int) (accesses : List (FileAccess E)) :
    Distinct (Script.statements
      (listed (fileAccessScript ident targetIndex fileIndex) accesses)) := by
  rw [fileAccessScript_eq]
  have nests : Nests (.fileAccess, none) 2 accessFootprints.flatten := by decide
  refine .elements _ [targetIndex, fileIndex] _
    (fun index _ => fileAccessRow ident targetIndex fileIndex index) _ nests (fun _ _ => ⟨rfl, rfl⟩)
    (fun index access => .flatten (within_accessParts ident targetIndex fileIndex index access))
    (fun index access => ?_) accesses
  refine .parts (within_accessParts ident targetIndex fileIndex index access) (by decide) ?_
  simp only [accessParts, List.forall_mem_cons]
  exact ⟨.listed .fileAccessPermission (fun _ _ => ⟨rfl, rfl⟩) (by decide) _, .single _,
    List.forall_mem_nil _⟩

theorem distinct_files (targetIndex : Int) (files : List (File E)) :
    Distinct (Script.statements (listed (fileScript ident targetIndex) files)) := by
  rw [fileScript_eq]
  have nests : Nests (.file, none) 1 fileFootprints.flatten := by decide
  refine .elements _ [targetIndex] _ (fileRow ident targetIndex) _ nests (fun _ _ => ⟨rfl, rfl⟩)
    (fun index file => .flatten (within_fileParts ident targetIndex index file))
    (fun index file => ?_) files
  refine .parts (within_fileParts ident targetIndex index file) (by decide) ?_
  simp only [fileParts, List.forall_mem_cons]
  exact ⟨distinct_accesses ident targetIndex index _,
    .listed .linkage (fun _ _ => ⟨rfl, rfl⟩) (by decide) _,
    .optional _ fun _ => .single _,
    .listed .checksum (fun _ _ => ⟨rfl, rfl⟩) (by decide) _, List.forall_mem_nil _⟩

theorem distinct_sources (sources : List (Source E)) :
    Distinct (Script.statements (listed (sourceScript ident) sources)) := by
  rw [sourceScript_eq]
  refine .elements (.source, none) [] _ (sourceRow ident) _ (by decide) (fun _ _ => ⟨rfl, rfl⟩)
    (fun index source => .flatten (within_sourceParts ident index source))
    (fun index source => ?_) sources
  refine .parts (within_sourceParts ident index source) (by decide) ?_
  simp only [sourceParts, List.forall_mem_cons]
  exact ⟨.optional _ (distinct_nodeScript .S ident index),
    .optional _ (distinct_userScript .S ident index),
    .optional _ (distinct_processScript .S ident index),
    .optional _ (distinct_serviceScript .S ident index), List.forall_mem_nil _⟩

theorem distinct_targets (targets : List (Target E)) :
    Distinct (Script.statements (listed (targetScript ident) targets)) := by
  rw [targetScript_eq]
  refine .elements (.target, none) [] _ (targetRow ident) _ (by decide) (fun _ _ => ⟨rfl, rfl⟩)
    (fun index target => .flatten (within_targetParts ident index target))
    (fun index target => ?_) targets
  refine .parts (within_targetParts ident index target) (by decide) ?_
  simp only [targetParts, List.forall_mem_cons]
  exact ⟨.optional _ (distinct_nodeScript .T ident index),
    .optional _ (distinct_userScript .T ident index),
    .optional _ (distinct_processScript .T ident index),
    .optional _ (distinct_serviceScript .T ident index), distinct_files ident index _,
    List.forall_mem_nil _⟩

theorem distinct_assessmentScript (assessment : Assessment E) :
    Distinct (assessmentScript ident assessment).statements := by
  rw [assessmentScript_eq]
  refine .cons (.assessment, none) rfl
    (Within.flatten (within_assessmentParts ident assessment)).statements (by decide) ?_
  refine .parts (within_assessmentParts ident assessment) (by decide) ?_
  simp only [assessmentParts, List.forall_mem_cons]
  exact ⟨.optional _ fun _ => .single _, .optional _ fun _ => .single _,
    .listed .action (fun _ _ => ⟨rfl, rfl⟩) (by decide) _, List.forall_mem_nil _⟩

theorem distinct_classificationScript (classification : Classification E) :
    Distinct (classificationScript ident classification).statements := by
  have below : Within [(.reference, none)] [] (listed (fun index reference =>
      [.must (referenceRow ident index reference)]) classification.references) :=
    .listed fun _ _ => .single ⟨.head _, List.prefix_rfl⟩
  refine .cons (.classification, none) rfl below.statements (by decide) ?_
  exact .listed .reference (fun _ _ => ⟨rfl, rfl⟩) (by decide) _

end AlertParts

section Plain

theorem Plain.optional {script : α → Script Row} (plain : ∀ element, (script element).Plain)
    (part : Option α) : (optionalScript script part).Plain := by
  cases part with
  | none => exact .nil
  | some element => exact plain element

variable (letter : ParentType) (ident : Nat) (index : Int)

theorem plain_nodeScript (node : Node E) : (nodeScript letter ident index node).Plain :=
  .must (.listed (fun _ _ => .single _) _)

theorem plain_userScript (user : User E) : (userScript letter ident index user).Plain :=
  .must (.listed (fun _ _ => .single _) _)

theorem plain_processScript (process : Process) :
    (processScript letter ident index process).Plain := by
  refine .must (.append ?_ ?_)
  · exact .each (fun _ _ => .single _) 0 _
  · exact .each (fun _ _ => .single _) 0 _

theorem plain_serviceScript (service : Service) :
    (serviceScript letter ident index service).Plain := by
  refine .must ?_
  cases service.kind with
  | default => exact .nil
  | web webService => exact .ignore (.listed (fun _ _ => .single _) _)
  | snmp snmpService => exact .single _

theorem plain_analyzerScript (analyzer : Analyzer E) :
    (analyzerScript letter ident index analyzer).Plain := by
  refine .must (.append ?_ ?_)
  · exact Plain.optional (plain_nodeScript letter ident index) _
  · exact Plain.optional (plain_processScript letter ident index) _

theorem plain_fileAccessScript (targetIndex fileIndex : Int) (fileAccess : FileAccess E) :
    (fileAccessScript ident targetIndex fileIndex index fileAccess).Plain :=
  .must (.append (.listed (fun _ _ => .single _) _) (.single _))

theorem plain_fileScript (targetIndex : Int) (file : File E) :
    (fileScript ident targetIndex index file).Plain := by
  refine .must (.append ?_ (.append ?_ (.append ?_ ?_)))
  · exact .listed (fun access (fileAccess : FileAccess E) =>
      plain_fileAccessScript ident access targetIndex index fileAccess) _
  · exact .listed (fun _ _ => .single _) _
  · exact Plain.optional (fun _ => .single _) _
  · exact .listed (fun _ _ => .single _) _

theorem plain_sourceScript (source : Source E) : (sourceScript ident index source).Plain := by
  refine .must (.append ?_ (.append ?_ (.append ?_ ?_)))
  · exact Plain.optional (plain_nodeScript .S ident index) _
  · exact Plain.optional (plain_userScript .S ident index) _
  · exact Plain.optional (plain_processScript .S ident index) _
  · exact Plain.optional (plain_serviceScript .S ident index) _

theorem plain_targetScript (target : Target E) : (targetScript ident index target).Plain := by
  refine .must (.append ?_ (.append ?_ (.append ?_ (.append ?_ ?_))))
  · exact Plain.optional (plain_nodeScript .T ident index) _
  · exact Plain.optional (plain_userScript .T ident index) _
  · exact Plain.optional (plain_processScript .T ident index) _
  · exact Plain.optional (plain_serviceScript .T ident index) _
  · exact .listed (fun fileIndex (file : File E) => plain_fileScript ident fileIndex index file) _

theorem plain_assessmentScript (assessment : Assessment E) :
    (assessmentScript ident assessment).Plain := by
  refine .must (.append ?_ (.append ?_ ?_))
  · exact Plain.optional (fun _ => .single _) _
  · exact Plain.optional (fun _ => .single _) _
  · exact .listed (fun _ _ => .single _) _

theorem plain_classificationScript (classification : Classification E) :
    (classificationScript ident classification).Plain :=
  .ignore (.listed (fun _ _ => .single _) _)

end Plain

section Messages

variable (ident : Nat)

/-- The rows that may be sent for a part stand in its tables and do not collide. -/
structure Sent (footprint : Footprint) (script : Script Row) : Prop where
  within : RowsWithin footprint [] script.offered
  distinct : Distinct script.offered

theorem Sent.plain {footprint : Footprint} {script : Script Row} (plain : script.Plain)
    (within : Within footprint [] script) (distinct : Distinct script.statements) :
    Sent footprint script := by
  rw [← plain] at distinct
  refine ⟨?_, distinct⟩
  rw [plain]
  exact within.statements

theorem Sent.optional {footprint : Footprint} {script : α → Script Row}
    (sent : ∀ element, Sent footprint (script element)) (part : Option α) :
    Sent footprint (optionalScript script part) := by
  cases part with
  | none => exact ⟨fun _ absent => absurd absent List.not_mem_nil, .nil⟩
  | some element => exact sent element

theorem Sent.single {footprint : Footprint} {row : Row}
    (stands : (row.table, row.parentType) ∈ footprint) : Sent footprint [.must row] :=
  .plain (.single row) (.single ⟨stands, List.nil_prefix⟩) (.single row)

/-- A message whose parts are sent to tables that are apart. -/
theorem Sent.flatten {footprints : List Footprint} {parts : List (Script Row)}
    (sent : List.Forall₂ Sent footprints parts) (apart : footprints.Pairwise KeysApart) :
    Sent footprints.flatten parts.flatten := by
  rcases List.forall₂_iff_get.mp sent with ⟨sameLength, each⟩
  have ofPart : ∀ part ∈ parts, ∃ footprint ∈ footprints, Sent footprint part := by
    intro part inParts
    rcases List.getElem_of_mem inParts with ⟨position, inside, rfl⟩
    exact ⟨_, List.get_mem _ ⟨position, sameLength ▸ inside⟩,
      each position (sameLength ▸ inside) inside⟩
  refine ⟨?_, ?_⟩ <;> rw [Script.offered_flatten]
  · intro row present
    rcases List.mem_flatten.mp present with ⟨rows, inRows, inPart⟩
    rcases List.mem_map.mp inRows with ⟨part, inParts, rfl⟩
    rcases ofPart part inParts with ⟨footprint, isFootprint, sentPart⟩
    have stands := sentPart.within row inPart
    exact ⟨List.mem_flatten.mpr ⟨footprint, isFootprint, stands.table⟩, List.nil_prefix⟩
  · refine .flatten (List.forall₂_map_right_iff.mpr (sent.imp fun _ _ => Sent.within)) apart ?_
    intro rows present
    rcases List.mem_map.mp present with ⟨part, inParts, rfl⟩
    rcases ofPart part inParts with ⟨footprint, _, sentPart⟩
    exact sentPart.distinct

/-- An alert's kind; a tool alert without alertidents may send one behind a failure. -/
theorem sent_alertKindScript (kind : AlertKind) :
    Sent alertKindFootprint (alertKindScript ident E kind) := by
  have standsIn : ∀ {row : Row}, (row.table, row.parentType) ∈ alertKindFootprint →
      row.StandsIn alertKindFootprint [] := fun inTable => ⟨inTable, List.nil_prefix⟩
  cases kind with
  | default => exact .plain .nil (within_alertKindScript ident .default) .nil
  | overflow overflowAlert => exact .single (.tail _ (.tail _ (.head _)))
  | correlation correlationAlert =>
      have below : Within [(.alertident, some .C)] [] (listed (fun index alertident =>
          [.must (alertidentRow .C ident index (some alertident))])
          correlationAlert.alertidents) :=
        .listed fun _ _ => .single ⟨.head _, List.prefix_rfl⟩
      refine .plain (.must (.listed (fun _ _ => .single _) _))
        (within_alertKindScript ident (.correlation correlationAlert)) ?_
      refine .cons (.correlationAlert, none) rfl below.statements (by decide) ?_
      exact .listed .alertident (fun _ _ => ⟨rfl, rfl⟩) (by decide) _
  | tool toolAlert =>
      cases isNone : toolAlert.alertidents with
      | nil =>
          have offered : (toolAlertScript ident toolAlert).offered =
              [toolAlertRow ident toolAlert, alertidentRow .T ident (-1) none] := by
            simp [toolAlertScript, isNone, Script.offered]
          have within : RowsWithin [(.alertident, some .T)] [] [alertidentRow .T ident (-1) none] :=
            List.forall_mem_singleton.mpr ⟨.head _, List.nil_prefix⟩
          refine ⟨?_, ?_⟩
          · change RowsWithin _ _ (toolAlertScript ident toolAlert).offered
            rw [offered]
            refine List.forall_mem_cons.mpr ⟨standsIn (.head _), ?_⟩
            exact List.forall_mem_singleton.mpr (standsIn (.tail _ (.tail _ (.tail _ (.head _)))))
          · change Distinct (toolAlertScript ident toolAlert).offered
            rw [offered]
            exact .cons (.toolAlert, none) rfl within (by decide) (.single _)
      | cons alertident alertidents =>
          have below : Within [(.alertident, some .T)] [] (each (fun index alertident =>
              [.must (alertidentRow .T ident index (some alertident))]) 0
              toolAlert.alertidents) :=
            .each fun _ _ => .single ⟨.head _, List.prefix_rfl⟩
          have script : toolAlertScript ident toolAlert =
              ⟨toolAlertRow ident toolAlert, .ignore⟩ :: each (fun index alertident =>
                [.must (alertidentRow .T ident index (some alertident))]) 0
                toolAlert.alertidents := by
            simp [toolAlertScript, isNone]
          refine .plain ?_ (within_alertKindScript ident (.tool toolAlert)) ?_
          · change (toolAlertScript ident toolAlert).Plain
            rw [script]
            exact .ignore (.each (fun _ _ => .single _) 0 _)
          · change Distinct (toolAlertScript ident toolAlert).statements
            rw [script]
            refine .cons (.toolAlert, none) rfl below.statements (by decide) ?_
            exact .each .alertident (fun _ _ => ⟨rfl, rfl⟩) (by decide) _

theorem sent_analyzers (letter : ParentType) (isMessage : letter = .A ∨ letter = .H)
    (analyzers : List (Analyzer E)) :
    Sent (analyzerFootprint letter) (listed (analyzerScript letter ident) analyzers) :=
  .plain (.listed (plain_analyzerScript letter ident) analyzers)
    (within_analyzers ident letter analyzers) (distinct_analyzers letter ident isMessage analyzers)

theorem sent_additionalData (letter : ParentType) (additionalData : List AdditionalData) :
    Sent [(.additionalData, some letter)] (listed (fun index data =>
      [.must (additionalDataRow letter ident E index data)]) additionalData) :=
  .plain (.listed (fun _ _ => .single _) _)
    (.listed fun _ _ => .single ⟨.head _, List.prefix_rfl⟩)
    (.listed .additionalData (fun _ _ => ⟨rfl, rfl⟩) (by decide) _)

theorem sent_time (table : Table) (letter : Option ParentType) (time : Option Time) :
    Sent [(table, letter)]
      (optionalScript (fun time => [.must (messageTimeRow ident table letter (some time))])
        time) := by
  apply Sent.optional
  intro time
  exact .single (List.mem_singleton.mpr rfl)

theorem sent_alertParts (alert : Alert E) :
    List.Forall₂ Sent alertFootprints (alertParts ident alert) :=
  .cons (.single (.head _)) <|
  .cons (sent_time ident _ _ _) <|
  .cons (sent_time ident _ _ _) <|
  .cons (.optional (fun assessment => .plain (plain_assessmentScript ident assessment)
    (within_assessmentScript ident assessment) (distinct_assessmentScript ident assessment)) _) <|
  .cons (sent_alertKindScript ident alert.kind) <|
  .cons (sent_analyzers ident .A (.inl rfl) _) <|
  .cons (.plain (.listed (plain_sourceScript ident) _) (within_sources ident _)
    (distinct_sources ident _)) <|
  .cons (.plain (.listed (plain_targetScript ident) _) (within_targets ident _)
    (distinct_targets ident _)) <|
  .cons (.optional (fun classification => .plain (plain_classificationScript ident classification)
    (within_classificationScript ident classification)
    (distinct_classificationScript ident classification)) _) <|
  .cons (sent_additionalData ident .A _) .nil

theorem sent_heartbeatParts (heartbeat : Heartbeat E) :
    List.Forall₂ Sent heartbeatFootprints (heartbeatParts ident heartbeat) :=
  .cons (sent_analyzers ident .H (.inr rfl) _) <|
  .cons (.single (.head _)) <|
  .cons (sent_time ident _ _ _) <|
  .cons (sent_additionalData ident .H _) .nil

/-- The rows that may be sent for a message below its own row. -/
theorem sent_messageScript (message : Message E) :
    Sent (messageFootprint message.table) (messageScript ident message) := by
  cases message with
  | alert alert =>
      rw [messageScript, alertScript_eq]
      exact .flatten (sent_alertParts ident alert) (by decide)
  | heartbeat heartbeat =>
      rw [messageScript, heartbeatScript_eq]
      exact .flatten (sent_heartbeatParts ident heartbeat) (by decide)

end Messages

end RequiemDB
