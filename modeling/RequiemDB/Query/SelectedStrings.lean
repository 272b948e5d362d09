import Mathlib.Data.List.TakeWhile
import RequiemDB.Sql.Operation
/-!
# Path selection strings

`requiemdb_selected_path_new_string` with its parsers. A pointer into a string is the
rest of the string that it points to, and `idmef_path_new_fast` is a parameter.

A filter is compared with as many characters of a filter's name as it has itself, so every
beginning of a name is taken for the name, the empty one too. A function ends at the last
closing parenthesis of the string; what stands behind it is not looked at.
-/

namespace RequiemDB.PathSelection

/-- `REQUIEMDB_ERROR_INVALID_SELECTED_OBJECT_STRING`. -/
def invalidSelectedObjectString : ErrorCode := ⟨-1, minusOne_negative⟩

/-- The filters and their flags, in the order in which they are tried. -/
def filterTable : List (List Char × Nat) :=
  [("group_by".toList, 0x20), ("order_desc".toList, 0x80), ("order_asc".toList, 0x40)]

/-- The functions and their flags. -/
def functionTable : List (List Char × Nat) :=
  [("min(".toList, 0x01), ("max(".toList, 0x02), ("avg(".toList, 0x04), ("std(".toList, 0x08),
    ("count(".toList, 0x10)]

/-- `strchr`. -/
def strchr (c : Char) : List Char → Option (List Char)
  | [] => none
  | first :: rest => if first = c then some (first :: rest) else strchr c rest

/-- `strrchr`. -/
def strrchr (c : Char) : List Char → Option (List Char)
  | [] => none
  | first :: rest =>
      match strrchr c rest with
      | some last => some last
      | none => if first = c then some (first :: rest) else none

theorem strchr_eq_some {c : Char} {str rest : List Char} :
    strchr c str = some rest ↔
      ∃ front tail, str = front ++ rest ∧ rest = c :: tail ∧ c ∉ front := by
  induction str with
  | nil =>
      refine iff_of_false nofun ?_
      rintro ⟨front, tail, split, rfl, _⟩
      exact absurd split (by simp)
  | cons first str ih =>
      rw [strchr]
      split
      · next isFirst =>
          constructor
          · rintro same
            obtain rfl := Option.some.inj same
            exact ⟨[], str, rfl, by rw [isFirst], List.not_mem_nil⟩
          · rintro ⟨front, tail, split, rfl, before⟩
            cases front with
            | nil => rw [split, List.nil_append]
            | cons other front =>
                obtain ⟨rfl, _⟩ := List.cons.inj split
                exact absurd (isFirst ▸ List.mem_cons_self) before
      · next notFirst =>
          rw [ih]
          constructor
          · rintro ⟨front, tail, rfl, isRest, before⟩
            refine ⟨first :: front, tail, rfl, isRest, ?_⟩
            simp [before, Ne.symm notFirst]
          · rintro ⟨front, tail, split, rfl, before⟩
            cases front with
            | nil => exact absurd (List.cons.inj split).1 notFirst
            | cons other front =>
                obtain ⟨rfl, rest⟩ := List.cons.inj split
                exact ⟨front, tail, rest, rfl, fun later => before (List.mem_cons_of_mem _ later)⟩

theorem strchr_length_lt {c : Char} {str rest : List Char} (found : strchr c str = some rest) :
    rest.tail.length < str.length := by
  rcases strchr_eq_some.mp found with ⟨front, tail, rfl, rfl, _⟩
  simp only [List.tail_cons, List.length_append, List.length_cons]
  omega

/-- The first `len` characters of a filter against the same number of each name. -/
def parseFilter (str : List Char) (len : Nat) : Except ErrorCode Nat :=
  match filterTable.find? fun filter => (str.take len).isPrefixOf filter.1 with
  | some filter => .ok filter.2
  | none => .error invalidSelectedObjectString

/-- The loop of `parse_filters`, with the flags so far. -/
def parseFilters (flags : Nat) (start : List Char) : Except ErrorCode Nat :=
  match _found : strchr ',' start with
  | some rest =>
      match parseFilter start (start.length - rest.length) with
      | .ok ret => parseFilters (flags ||| ret) rest.tail
      | .error error => .error error
  | none =>
      match parseFilter start start.length with
      | .ok ret => .ok (flags ||| ret)
      | .error error => .error error
termination_by start.length
decreasing_by exact strchr_length_lt _found

def parseFunction (str : List Char) : Nat :=
  (functionTable.find? fun function => function.1.isPrefixOf str).elim 0 Prod.snd

variable {Path : Type}

def parsePath (idmefPathNewFast : List Char → Except ErrorCode Path) (str : List Char)
    (len : Nat) : Except ErrorCode Path :=
  idmefPathNewFast (str.take len)

/-- The path and the flags of a selected path. -/
def requiemdbSelectedPathNewString (idmefPathNewFast : List Char → Except ErrorCode Path)
    (str : List Char) : Except ErrorCode (Path × Nat) := do
  let filters := strchr '/' str
  let flags ← match filters with
    | some filters => parseFilters 0 filters.tail
    | none => .ok 0
  let ret := parseFunction str
  if ret ≠ 0 then
    match strchr '(' str, strrchr ')' str with
    | some start, some close =>
        let path ← parsePath idmefPathNewFast start.tail (start.tail.length - close.length)
        return (path, flags ||| ret)
    | _, _ => .error invalidSelectedObjectString
  else
    let path ← match filters with
      | some filters => parsePath idmefPathNewFast str (str.length - filters.length)
      | none => idmefPathNewFast str
    return (path, flags)

section Filters

/-- The text is the beginning of the name of a filter, or its whole. -/
def Abbreviates (piece : List Char) : Prop := ∃ filter ∈ filterTable, piece <+: filter.1

/-- The flag of the first filter whose name begins with the text. -/
def filterFlag (piece : List Char) : Nat :=
  (filterTable.find? fun filter => piece.isPrefixOf filter.1).elim 0 Prod.snd

/-- The union of flags. -/
def union (flags : Nat) (pieces : List (List Char)) : Nat :=
  pieces.foldl (fun flags piece => flags ||| filterFlag piece) flags

theorem union_eq (flags : Nat) (pieces : List (List Char)) :
    union flags pieces = union 0 pieces ||| flags := by
  induction pieces generalizing flags with
  | nil => exact (Nat.zero_or flags).symm
  | cons piece pieces ih =>
      have first : union flags (piece :: pieces) = union (flags ||| filterFlag piece) pieces := rfl
      have alone : union 0 (piece :: pieces) = union (0 ||| filterFlag piece) pieces := rfl
      rw [first, alone, ih, ih (0 ||| filterFlag piece), Nat.zero_or, Nat.or_assoc,
        Nat.or_comm flags]

theorem parseFilter_ok_iff (str : List Char) (len flag : Nat) :
    parseFilter str len = .ok flag ↔
      Abbreviates (str.take len) ∧ flag = filterFlag (str.take len) := by
  rw [parseFilter, filterFlag, Abbreviates]
  cases found : filterTable.find? fun filter => (str.take len).isPrefixOf filter.1 with
  | none =>
      refine iff_of_false nofun ?_
      rintro ⟨⟨filter, isFilter, isPrefix⟩, _⟩
      exact List.find?_eq_none.mp found filter isFilter (List.isPrefixOf_iff_prefix.mpr isPrefix)
  | some filter =>
      have isPrefixOf : (str.take len).isPrefixOf filter.1 = true := by
        simpa using List.find?_some found
      have isPrefix := List.isPrefixOf_iff_prefix.mp isPrefixOf
      constructor
      · intro same
        exact ⟨⟨filter, List.mem_of_find?_eq_some found, isPrefix⟩, (Except.ok.inj same).symm⟩
      · rintro ⟨_, rfl⟩
        rfl

theorem strchr_eq_none {c : Char} {str : List Char} : strchr c str = none ↔ c ∉ str := by
  induction str with
  | nil => exact iff_of_true rfl List.not_mem_nil
  | cons first str ih =>
      rw [strchr]
      split
      · next isFirst => simp [isFirst]
      · next notFirst => simp [ih, Ne.symm notFirst]

theorem strchr_append {c : Char} {front : List Char} (before : c ∉ front) (tail : List Char) :
    strchr c (front ++ c :: tail) = some (c :: tail) :=
  strchr_eq_some.mpr ⟨front, tail, rfl, rfl, before⟩

theorem parseFilters_ok_iff {str : List Char} {flags result : Nat} :
    parseFilters flags str = .ok result ↔
      (∀ piece ∈ str.splitOn ',', Abbreviates piece) ∧ result = union flags (str.splitOn ',') := by
  induction size : str.length using Nat.strongRecOn generalizing str flags with
  | ind length ih =>
      rw [parseFilters]
      split
      · next rest found =>
          rcases strchr_eq_some.mp found with ⟨front, tail, rfl, rfl, before⟩
          have len : (front ++ ',' :: tail).length - (',' :: tail).length = front.length := by
            rw [List.length_append, Nat.add_sub_cancel]
          have shorter : tail.length < length := by
            rw [← size, List.length_append, List.length_cons]
            omega
          rw [len, List.splitOn_append_cons_self_of_not_mem before, List.forall_mem_cons,
            List.tail_cons]
          have first := parseFilter_ok_iff (front ++ ',' :: tail) front.length
          rw [List.take_left] at first
          split
          · next ret parsed =>
              rcases (first ret).mp parsed with ⟨abbreviates, rfl⟩
              rw [ih _ shorter rfl, and_iff_right abbreviates]
              rfl
          · next error parsed =>
              refine iff_of_false nofun fun all => ?_
              have accepted := (first _).mpr ⟨all.1.1, rfl⟩
              exact absurd (parsed.symm.trans accepted) nofun
      · next found =>
          rw [List.splitOn_eq_singleton (strchr_eq_none.mp found), List.forall_mem_singleton]
          have only := parseFilter_ok_iff str str.length
          rw [List.take_length] at only
          split
          · next ret parsed =>
              rcases (only ret).mp parsed with ⟨abbreviates, rfl⟩
              rw [and_iff_right abbreviates]
              constructor
              · intro same
                exact (Except.ok.inj same).symm
              · rintro rfl
                rfl
          · next error parsed =>
              refine iff_of_false nofun fun all => ?_
              have accepted := (only _).mpr ⟨all.1, rfl⟩
              exact absurd (parsed.symm.trans accepted) nofun

end Filters
section Targets

/-- The text in front of the filters, and the texts between the commas behind it. -/
def parts (str : List Char) : List Char × List (List Char) :=
  match strchr '/' str with
  | some filters => (str.take (str.length - filters.length), filters.tail.splitOn ',')
  | none => (str, [])

/--
How the source reads the text in front of the filters: the path in it, what stands behind the
last closing parenthesis, and the flag of the function.
-/
inductive ReadsTarget : (target path behind : List Char) → (flag : Nat) → Prop
  | alone {target : List Char} (noFunction : parseFunction target = 0) :
      ReadsTarget target target [] 0
  | call {function : List Char × Nat} {path behind : List Char}
      (known : function ∈ functionTable) (last : ')' ∉ behind) :
      ReadsTarget (function.1 ++ path ++ ')' :: behind) path behind function.2

theorem strrchr_eq_none {c : Char} {str : List Char} : strrchr c str = none ↔ c ∉ str := by
  induction str with
  | nil => exact iff_of_true rfl List.not_mem_nil
  | cons first str ih =>
      rw [strrchr]
      cases later : strrchr c str with
      | some last =>
          have inside : c ∈ str := by
            by_contra absent
            exact absurd (later.symm.trans (ih.mpr absent)) nofun
          exact iff_of_false nofun fun absent => absent (List.mem_cons_of_mem _ inside)
      | none =>
          have outside := ih.mp later
          by_cases isFirst : first = c
          · simp [isFirst]
          · simp [isFirst, Ne.symm isFirst, outside]

theorem strrchr_append {c : Char} {tail : List Char} (last : c ∉ tail) (front : List Char) :
    strrchr c (front ++ c :: tail) = some (c :: tail) := by
  induction front with
  | nil => rw [List.nil_append, strrchr, strrchr_eq_none.mpr last, if_pos rfl]
  | cons first front ih => rw [List.cons_append, strrchr, ih]

theorem exists_last {c : Char} {str : List Char} (inside : c ∈ str) :
    ∃ front tail, str = front ++ c :: tail ∧ c ∉ tail := by
  induction str with
  | nil => exact absurd inside List.not_mem_nil
  | cons first str ih =>
      by_cases later : c ∈ str
      · rcases ih later with ⟨front, tail, rfl, last⟩
        exact ⟨first :: front, tail, rfl, last⟩
      · rcases List.mem_cons.mp inside with rfl | inStr
        · exact ⟨[], str, rfl, later⟩
        · exact absurd inStr later

/-- The name of a function ends with its opening parenthesis. -/
theorem functionTable_names : ∀ function ∈ functionTable,
    function.1 = function.1.dropLast ++ ['('] ∧ '(' ∉ function.1.dropLast ∧
      ')' ∉ function.1 ∧ '/' ∉ function.1 ∧ function.2 ≠ 0 := by
  decide

/-- No string begins with the names of two functions. -/
theorem functionTable_apart : ∀ first ∈ functionTable, ∀ second ∈ functionTable,
    (first.1 <+: second.1 ∨ second.1 <+: first.1) → first = second := by
  decide

theorem parseFunction_eq_zero {str : List Char} :
    parseFunction str = 0 ↔ ∀ function ∈ functionTable, ¬ function.1 <+: str := by
  rw [parseFunction]
  cases found : functionTable.find? fun function => function.1.isPrefixOf str with
  | none =>
      refine iff_of_true rfl fun function known isPrefix => ?_
      exact List.find?_eq_none.mp found function known (List.isPrefixOf_iff_prefix.mpr isPrefix)
  | some function =>
      have known := List.mem_of_find?_eq_some found
      have isPrefixOf : function.1.isPrefixOf str = true := by simpa using List.find?_some found
      refine iff_of_false (functionTable_names function known).2.2.2.2 fun noFunction => ?_
      exact noFunction function known (List.isPrefixOf_iff_prefix.mp isPrefixOf)

theorem parseFunction_of_initial {str : List Char} {function : List Char × Nat}
    (known : function ∈ functionTable) (isPrefix : function.1 <+: str) :
    parseFunction str = function.2 := by
  rw [parseFunction]
  cases found : functionTable.find? fun function => function.1.isPrefixOf str with
  | none =>
      exact absurd (List.isPrefixOf_iff_prefix.mpr isPrefix)
        (List.find?_eq_none.mp found function known)
  | some other =>
      have isPrefixOf : other.1.isPrefixOf str = true := by simpa using List.find?_some found
      have same := functionTable_apart other (List.mem_of_find?_eq_some found) function known
        (List.prefix_or_prefix_of_prefix (List.isPrefixOf_iff_prefix.mp isPrefixOf) isPrefix)
      rw [same]
      rfl

/-- The name of a function does not reach beyond a slash. -/
theorem prefix_of_prefix_append {name front behind : List Char} (noSlash : '/' ∉ name)
    (cut : behind = [] ∨ ∃ rest, behind = '/' :: rest) (isPrefix : name <+: front ++ behind) :
    name <+: front := by
  rcases List.prefix_or_prefix_of_prefix isPrefix (List.prefix_append front behind) with
    inside | ⟨beyond, rfl⟩
  · exact inside
  · rw [List.prefix_append_right_inj] at isPrefix
    rcases cut with rfl | ⟨rest, rfl⟩
    · simp [List.prefix_nil.mp isPrefix]
    · cases beyond with
      | nil => simp
      | cons first beyond =>
          obtain rfl := (List.cons_prefix_cons.mp isPrefix).1
          exact absurd (List.mem_append_right _ List.mem_cons_self) noSlash

end Targets
section Strings

variable {Path : Type} {idmefPathNewFast : List Char → Except ErrorCode Path}

theorem parts_of_not_mem {str : List Char} (noSlash : '/' ∉ str) : parts str = (str, []) := by
  rw [parts, strchr_eq_none.mpr noSlash]

theorem parts_append {target : List Char} (noSlash : '/' ∉ target) (filters : List Char) :
    parts (target ++ '/' :: filters) = (target, filters.splitOn ',') := by
  rw [parts, strchr_append noSlash]
  simp only [List.length_append, Nat.add_sub_cancel, List.take_left, List.tail_cons]

/-- A string is its target, or its target, a slash and its filters. -/
theorem split_parts (str : List Char) :
    '/' ∉ (parts str).1 ∧ ((parts str).2 = [] ∧ str = (parts str).1 ∨
      (parts str).2 ≠ [] ∧ str = (parts str).1 ++ '/' :: [','].intercalate (parts str).2) := by
  cases found : strchr '/' str with
  | none =>
      have noSlash := strchr_eq_none.mp found
      rw [parts_of_not_mem noSlash]
      exact ⟨noSlash, .inl ⟨rfl, rfl⟩⟩
  | some rest =>
      rcases strchr_eq_some.mp found with ⟨target, filters, rfl, rfl, noSlash⟩
      rw [parts_append noSlash]
      refine ⟨noSlash, .inr ⟨List.splitOn_ne_nil ',' filters, ?_⟩⟩
      rw [List.intercalate_splitOn]

theorem not_mem_intercalate {c separator : Char} (notSeparator : c ≠ separator)
    {pieces : List (List Char)} (absent : ∀ piece ∈ pieces, c ∉ piece) :
    c ∉ [separator].intercalate pieces := by
  induction pieces with
  | nil => exact List.not_mem_nil
  | cons piece pieces ih =>
      rw [List.forall_mem_cons] at absent
      cases pieces with
      | nil => simpa using absent.1
      | cons next rest =>
          have later := ih absent.2
          simp only [List.intercalate_cons_cons, List.mem_append, List.mem_singleton, not_or]
          exact ⟨⟨absent.1, notSeparator⟩, later⟩

theorem Abbreviates.not_mem {piece : List Char} (abbreviates : Abbreviates piece) :
    ')' ∉ piece := by
  have names : ∀ filter ∈ filterTable, ')' ∉ filter.1 := by decide
  rcases abbreviates with ⟨filter, known, isPrefix⟩
  exact fun inside => names filter known (isPrefix.subset inside)

/-- The flags that the filters of a string give. -/
def filtersFlags (str : List Char) : Except ErrorCode Nat :=
  match strchr '/' str with
  | some filters => parseFilters 0 filters.tail
  | none => .ok 0

theorem filtersFlags_ok_iff {str : List Char} {flags : Nat} :
    filtersFlags str = .ok flags ↔
      (∀ piece ∈ (parts str).2, Abbreviates piece) ∧ flags = union 0 (parts str).2 := by
  rw [filtersFlags, parts]
  cases strchr '/' str with
  | none =>
      simp only [List.not_mem_nil, false_imp_iff, implies_true, true_and]
      exact ⟨fun same => (Except.ok.inj same).symm, fun same => congrArg _ same.symm⟩
  | some filters => exact parseFilters_ok_iff

/-- The path of a string and the flag of its function. -/
def targetPath (idmefPathNewFast : List Char → Except ErrorCode Path) (str : List Char) :
    Except ErrorCode Path :=
  if parseFunction str ≠ 0 then
    match strchr '(' str, strrchr ')' str with
    | some start, some close =>
        parsePath idmefPathNewFast start.tail (start.tail.length - close.length)
    | _, _ => .error invalidSelectedObjectString
  else
    match strchr '/' str with
    | some filters => parsePath idmefPathNewFast str (str.length - filters.length)
    | none => idmefPathNewFast str

theorem newString_ok_iff {str : List Char} {path : Path} {flags : Nat} :
    requiemdbSelectedPathNewString idmefPathNewFast str = .ok (path, flags) ↔
      ∃ filters, filtersFlags str = .ok filters ∧
        targetPath idmefPathNewFast str = .ok path ∧ flags = filters ||| parseFunction str := by
  have whole : requiemdbSelectedPathNewString idmefPathNewFast str =
      (filtersFlags str).bind fun filters =>
        (targetPath idmefPathNewFast str).map fun path =>
          (path, filters ||| parseFunction str) := by
    rw [requiemdbSelectedPathNewString, filtersFlags, targetPath]
    by_cases function : parseFunction str ≠ 0
    · simp only [if_pos function]
      cases strchr '/' str <;> cases strchr '(' str <;> cases strrchr ')' str <;> rfl
    · have none_ := Decidable.not_not.mp function
      simp only [none_, Nat.or_zero]
      cases strchr '/' str <;> rfl
  rw [whole]
  cases filtersFlags str with
  | error error => exact iff_of_false nofun fun ⟨_, isOk, _⟩ => nomatch isOk
  | ok filters =>
      cases targetPath idmefPathNewFast str with
      | error error => exact iff_of_false nofun fun ⟨_, _, isOk, _⟩ => nomatch isOk
      | ok target =>
          constructor
          · intro same
            rcases Prod.mk.inj (Except.ok.inj same) with ⟨rfl, rfl⟩
            exact ⟨filters, rfl, rfl, rfl⟩
          · rintro ⟨_, isFilters, isPath, rfl⟩
            obtain rfl := Except.ok.inj isFilters
            obtain rfl := Except.ok.inj isPath
            rfl

theorem last_unique {c : Char} {front tail front' tail' : List Char}
    (same : front ++ c :: tail = front' ++ c :: tail') (last : c ∉ tail) (last' : c ∉ tail') :
    front = front' ∧ tail = tail' := by
  have found := strrchr_append last front
  rw [same, strrchr_append last' front'] at found
  obtain rfl := (List.cons.inj (Option.some.inj found)).2
  exact ⟨List.append_cancel_right same, rfl⟩

theorem ReadsTarget.of_function {function : List Char × Nat} {more path behind : List Char}
    {flag : Nat} (known : function ∈ functionTable)
    (reads : ReadsTarget (function.1 ++ more) path behind flag) :
    more = path ++ ')' :: behind ∧ ')' ∉ behind ∧ flag = function.2 := by
  generalize isTarget : function.1 ++ more = target at reads
  cases reads with
  | alone noFunction =>
      subst isTarget
      rw [parseFunction_of_initial known (List.prefix_append _ _)] at noFunction
      exact absurd noFunction (functionTable_names function known).2.2.2.2
  | @call other path behind otherKnown last =>
      rw [List.append_assoc] at isTarget
      have same : function = other := functionTable_apart function known other otherKnown
        (List.prefix_or_prefix_of_prefix (isTarget ▸ List.prefix_append _ _)
          (List.prefix_append _ _))
      subst same
      exact ⟨List.append_cancel_left isTarget, last, rfl⟩

theorem ReadsTarget.of_alone {target path behind : List Char} {flag : Nat}
    (noFunction : parseFunction target = 0) (reads : ReadsTarget target path behind flag) :
    path = target ∧ behind = [] ∧ flag = 0 := by
  cases reads with
  | alone _ => exact ⟨rfl, rfl, rfl⟩
  | @call function path behind known last =>
      rw [List.append_assoc, parseFunction_of_initial known (List.prefix_append _ _)] at noFunction
      exact absurd noFunction (functionTable_names function known).2.2.2.2

/-- The string and its target begin with the same function. -/
theorem parseFunction_target (str : List Char) :
    parseFunction (parts str).1 = parseFunction str ∧ (parseFunction str ≠ 0 →
      ∃ function ∈ functionTable, ∃ more, (parts str).1 = function.1 ++ more) := by
  rcases split_parts str with ⟨_, shape⟩
  have split : ∃ rest, str = (parts str).1 ++ rest ∧
      (rest = [] ∨ ∃ filters, rest = '/' :: filters) := by
    rcases shape with ⟨_, isTarget⟩ | ⟨_, isStr⟩
    · exact ⟨[], by rw [List.append_nil, ← isTarget], .inl rfl⟩
    · exact ⟨_, isStr, .inr ⟨_, rfl⟩⟩
  rcases split with ⟨rest, isStr, cut⟩
  generalize (parts str).1 = target at isStr
  subst isStr
  by_cases none_ : parseFunction (target ++ rest) = 0
  · refine ⟨?_, fun some_ => absurd none_ some_⟩
    rw [none_, parseFunction_eq_zero]
    intro function known isPrefix
    exact parseFunction_eq_zero.mp none_ function known
      (isPrefix.trans (List.prefix_append _ _))
  · have found := mt parseFunction_eq_zero.mpr none_
    simp only [not_forall, not_not] at found
    rcases found with ⟨function, known, isPrefix⟩
    have inTarget := prefix_of_prefix_append (functionTable_names function known).2.2.2.1 cut
      isPrefix
    rcases inTarget with ⟨more, rfl⟩
    refine ⟨?_, fun _ => ⟨function, known, more, rfl⟩⟩
    rw [parseFunction_of_initial known (List.prefix_append _ _),
      parseFunction_of_initial known isPrefix]

theorem targetPath_alone {str : List Char} (noFunction : parseFunction str = 0) :
    targetPath idmefPathNewFast str = idmefPathNewFast (parts str).1 := by
  rw [targetPath, if_neg (not_not.mpr noFunction), parts]
  cases strchr '/' str <;> rfl

/-- No filter has a parenthesis. -/
theorem exists_behind_target {str : List Char}
    (abbreviate : ∀ piece ∈ (parts str).2, Abbreviates piece) :
    ∃ rest, str = (parts str).1 ++ rest ∧ ')' ∉ rest := by
  rcases split_parts str with ⟨_, ⟨_, isStr⟩ | ⟨_, isStr⟩⟩
  · exact ⟨[], by rw [List.append_nil, ← isStr], List.not_mem_nil⟩
  · refine ⟨_, isStr, ?_⟩
    have absent := not_mem_intercalate (by decide : ')' ≠ ',') fun piece inside =>
      (abbreviate piece inside).not_mem
    simpa using absent

section Call

variable {function : List Char × Nat} {more rest : List Char}

theorem targetPath_function (known : function ∈ functionTable) :
    targetPath idmefPathNewFast (function.1 ++ more) =
      match strrchr ')' (function.1 ++ more) with
      | some close => parsePath idmefPathNewFast more (more.length - close.length)
      | none => .error invalidSelectedObjectString := by
  rcases functionTable_names function known with ⟨isName, noOpening, _, _, someFlag⟩
  have isFlag : parseFunction (function.1 ++ more) = function.2 :=
    parseFunction_of_initial known (List.prefix_append _ _)
  have opens : strchr '(' (function.1 ++ more) = some ('(' :: more) := by
    rw [isName, List.append_assoc]
    exact strchr_append noOpening _
  rw [targetPath, isFlag, if_pos someFlag, opens]
  cases strrchr ')' (function.1 ++ more) <;> rfl

/-- The path within a function ends in front of the last parenthesis. -/
theorem targetPath_call {text behind : List Char} (known : function ∈ functionTable)
    (last : ')' ∉ behind) (noParenthesis : ')' ∉ rest) :
    targetPath idmefPathNewFast (function.1 ++ (text ++ ')' :: behind) ++ rest) =
      idmefPathNewFast text := by
  have whole : function.1 ++ (text ++ ')' :: behind) ++ rest =
      function.1 ++ (text ++ ')' :: (behind ++ rest)) := by
    simp only [List.append_assoc, List.cons_append]
  have closes : strrchr ')' (function.1 ++ (text ++ ')' :: (behind ++ rest))) =
      some (')' :: (behind ++ rest)) := by
    rw [← List.append_assoc]
    exact strrchr_append (by simp [last, noParenthesis]) _
  have length : (text ++ ')' :: (behind ++ rest)).length - (')' :: (behind ++ rest)).length =
      text.length := by
    rw [List.length_append, Nat.add_sub_cancel]
  rw [whole, targetPath_function known, closes]
  show parsePath idmefPathNewFast (text ++ ')' :: (behind ++ rest))
    ((text ++ ')' :: (behind ++ rest)).length - (')' :: (behind ++ rest)).length) = _
  rw [length, parsePath, List.take_left]

theorem targetPath_unclosed (known : function ∈ functionTable) (unclosed : ')' ∉ more)
    (noParenthesis : ')' ∉ rest) :
    targetPath idmefPathNewFast (function.1 ++ more ++ rest) =
      .error invalidSelectedObjectString := by
  have never : strrchr ')' (function.1 ++ (more ++ rest)) = none := by
    rw [strrchr_eq_none]
    simp [(functionTable_names function known).2.2.1, unclosed, noParenthesis]
  rw [List.append_assoc, targetPath_function known, never]

end Call

/-- The target is read in front of the filters, as none of these has a parenthesis. -/
theorem targetPath_ok_iff {str : List Char} {path : Path}
    (abbreviate : ∀ piece ∈ (parts str).2, Abbreviates piece) :
    targetPath idmefPathNewFast str = .ok path ↔
      ∃ text behind, ReadsTarget (parts str).1 text behind (parseFunction str) ∧
        idmefPathNewFast text = .ok path := by
  rcases parseFunction_target str with ⟨sameFunction, begins⟩
  by_cases none_ : parseFunction str = 0
  · have noFunction := sameFunction.trans none_
    rw [targetPath_alone none_, none_]
    constructor
    · exact fun accepted => ⟨_, _, .alone noFunction, accepted⟩
    · rintro ⟨text, behind, reads, accepted⟩
      rw [← (reads.of_alone noFunction).1]
      exact accepted
  · rcases begins none_ with ⟨function, known, more, isTarget⟩
    rcases exists_behind_target abbreviate with ⟨rest, isStr, noParenthesis⟩
    have isFlag : parseFunction str = function.2 := by
      rw [← sameFunction, isTarget, parseFunction_of_initial known (List.prefix_append _ _)]
    have isPath : targetPath idmefPathNewFast str =
        targetPath idmefPathNewFast (function.1 ++ more ++ rest) := by
      rw [← isTarget, ← isStr]
    rw [isTarget, isFlag, isPath]
    by_cases closed : ')' ∈ more
    · rcases exists_last closed with ⟨text, behind, rfl, last⟩
      rw [targetPath_call known last noParenthesis]
      constructor
      · intro accepted
        refine ⟨text, behind, ?_, accepted⟩
        rw [← List.append_assoc]
        exact .call known last
      · rintro ⟨text', behind', reads, accepted⟩
        rcases reads.of_function known with ⟨same, last', _⟩
        obtain ⟨rfl, rfl⟩ := last_unique same last last'
        exact accepted
    · rw [targetPath_unclosed known closed noParenthesis]
      refine iff_of_false nofun ?_
      rintro ⟨text, behind, reads, _⟩
      rcases reads.of_function known with ⟨rfl, _⟩
      exact closed (List.mem_append_right _ List.mem_cons_self)

end Strings
section Grammar

variable {Path : Type} (idmefPathNewFast : List Char → Except ErrorCode Path)

/-- `T`: a path alone, or a path within one of the functions. -/
inductive Target : (target path : List Char) → (flag : Nat) → Prop
  | alone {path : List Char} (noFunction : ∀ function ∈ functionTable, ¬ function.1 <+: path) :
      Target path path 0
  | call {function : List Char × Nat} {path : List Char} (known : function ∈ functionTable) :
      Target (function.1 ++ path ++ [')']) path function.2

/-- `T` or `T/F1,...,Fn`, with the path in it and the union of the flags. -/
inductive Selects : (str path : List Char) → (flags : Nat) → Prop
  | plain {target path : List Char} {flag : Nat} (isTarget : Target target path flag) :
      Selects target path flag
  | filtered {target path : List Char} {flag : Nat} (isTarget : Target target path flag)
      {filters : List (List Char × Nat)} (some_ : filters ≠ [])
      (known : ∀ filter ∈ filters, filter ∈ filterTable) :
      Selects (target ++ '/' :: [','].intercalate (filters.map Prod.fst)) path
        (filters.foldl (fun flags filter => flags ||| filter.2) flag)

/-- The string is parsed by the grammar and by nothing else. -/
def ParsedByGrammar (str : List Char) : Prop :=
  ∀ path flags, requiemdbSelectedPathNewString idmefPathNewFast str = .ok (path, flags) ↔
    ∃ text, text ≠ [] ∧ '/' ∉ text ∧ idmefPathNewFast text = .ok path ∧ Selects str text flags

/--
The condition on a string: if its filters are beginnings of names and its path is accepted,
then the filters are whole names, the path is not empty, and nothing stands behind the closing
parenthesis of a function.
-/
def Strict (str : List Char) : Prop :=
  ∀ text behind flag, ReadsTarget (parts str).1 text behind flag →
    (∀ piece ∈ (parts str).2, Abbreviates piece) → (idmefPathNewFast text).isOk →
    (∀ piece ∈ (parts str).2, piece ∈ filterTable.map Prod.fst) ∧ text ≠ [] ∧ behind = []

theorem target_iff {target path : List Char} {flag : Nat} :
    Target target path flag ↔ ReadsTarget target path [] flag := by
  constructor
  · rintro (noFunction | known)
    · exact .alone (parseFunction_eq_zero.mpr noFunction)
    · exact .call known List.not_mem_nil
  · intro reads
    generalize nothing : ([] : List Char) = behind at reads
    cases reads with
    | alone noFunction => exact .alone (parseFunction_eq_zero.mp noFunction)
    | call known _ =>
        subst nothing
        exact .call known

theorem ReadsTarget.path_subset {target path behind : List Char} {flag : Nat}
    (reads : ReadsTarget target path behind flag) : path ⊆ target := by
  cases reads with
  | alone _ => exact List.Subset.refl _
  | call _ _ =>
      intro c inside
      simp [inside]

theorem filterTable_names : ∀ filter ∈ filterTable,
    filterFlag filter.1 = filter.2 ∧ ',' ∉ filter.1 := by
  decide

theorem union_names {filters : List (List Char × Nat)}
    (known : ∀ filter ∈ filters, filter ∈ filterTable) (flag : Nat) :
    union flag (filters.map Prod.fst) =
      filters.foldl (fun flags filter => flags ||| filter.2) flag := by
  induction filters generalizing flag with
  | nil => rfl
  | cons filter filters ih =>
      rw [List.forall_mem_cons] at known
      rw [List.foldl_cons, ← (filterTable_names filter known.1).1]
      exact ih known.2 _

theorem selects_iff {str text : List Char} {flags : Nat} (noSlash : '/' ∉ text) :
    Selects str text flags ↔ ∃ flag, ReadsTarget (parts str).1 text [] flag ∧
      (∀ piece ∈ (parts str).2, piece ∈ filterTable.map Prod.fst) ∧
      flags = union flag (parts str).2 := by
  have slashFree : ∀ {target : List Char} {flag : Nat}, Target target text flag → '/' ∉ target := by
    rintro target flag (_ | known)
    · exact noSlash
    · simp [noSlash, (functionTable_names _ known).2.2.2.1]
  constructor
  · rintro (isTarget | ⟨isTarget, some_, known⟩)
    · rw [parts_of_not_mem (slashFree isTarget)]
      exact ⟨flags, target_iff.mp isTarget, fun _ inside => absurd inside List.not_mem_nil, rfl⟩
    · rename_i target flag filters
      have noComma : ∀ piece ∈ filters.map Prod.fst, ',' ∉ piece := by
        intro piece inside
        rcases List.mem_map.mp inside with ⟨filter, inFilters, rfl⟩
        exact (filterTable_names filter (known filter inFilters)).2
      have isSplit := List.splitOn_intercalate ',' noComma (by simpa using some_)
      rw [parts_append (slashFree isTarget), isSplit]
      refine ⟨flag, target_iff.mp isTarget, ?_, (union_names known flag).symm⟩
      intro piece inside
      rcases List.mem_map.mp inside with ⟨filter, inFilters, rfl⟩
      exact List.mem_map_of_mem (known filter inFilters)
  · rintro ⟨flag, reads, names, rfl⟩
    rcases split_parts str with ⟨_, ⟨none_, isStr⟩ | ⟨some_, isStr⟩⟩
    · rw [none_]
      have plain := Selects.plain (target_iff.mpr reads)
      rwa [← isStr] at plain
    · have filters : ∃ filters : List (List Char × Nat),
          filters.map Prod.fst = (parts str).2 ∧ ∀ filter ∈ filters, filter ∈ filterTable := by
        clear some_ isStr
        generalize (parts str).2 = pieces at names
        induction pieces with
        | nil => exact ⟨[], rfl, fun _ inside => absurd inside List.not_mem_nil⟩
        | cons piece pieces ih =>
            rw [List.forall_mem_cons] at names
            rcases List.mem_map.mp names.1 with ⟨filter, known, rfl⟩
            rcases ih names.2 with ⟨filters, rfl, others⟩
            exact ⟨filter :: filters, rfl, List.forall_mem_cons.mpr ⟨known, others⟩⟩
      rcases filters with ⟨filters, isPieces, known⟩
      rw [← isPieces] at some_ isStr ⊢
      have filtered := Selects.filtered (target_iff.mpr reads) (by simpa using some_) known
      rw [union_names known flag]
      rwa [← isStr] at filtered

theorem abbreviates_of_name {piece : List Char} (name : piece ∈ filterTable.map Prod.fst) :
    Abbreviates piece := by
  rcases List.mem_map.mp name with ⟨filter, known, rfl⟩
  exact ⟨filter, known, List.prefix_rfl⟩

/-- What the source accepts, in terms of the parts of the string. -/
theorem parsed_iff {str : List Char} {path : Path} {flags : Nat} :
    requiemdbSelectedPathNewString idmefPathNewFast str = .ok (path, flags) ↔
      (∀ piece ∈ (parts str).2, Abbreviates piece) ∧
        ∃ text behind flag, ReadsTarget (parts str).1 text behind flag ∧
          idmefPathNewFast text = .ok path ∧ flags = union flag (parts str).2 := by
  rw [newString_ok_iff]
  have flag_eq : ∀ {text behind flag}, ReadsTarget (parts str).1 text behind flag →
      flag = parseFunction str := by
    intro text behind flag reads
    rcases parseFunction_target str with ⟨sameFunction, _⟩
    rw [← sameFunction]
    generalize (parts str).1 = target at reads
    cases reads with
    | alone noFunction => exact noFunction.symm
    | call known _ =>
        rw [List.append_assoc]
        exact (parseFunction_of_initial known (List.prefix_append _ _)).symm
  constructor
  · rintro ⟨filters, isFilters, isPath, rfl⟩
    rcases filtersFlags_ok_iff.mp isFilters with ⟨abbreviate, rfl⟩
    rcases (targetPath_ok_iff abbreviate).mp isPath with ⟨text, behind, reads, accepted⟩
    exact ⟨abbreviate, text, behind, _, reads, accepted, (union_eq _ _).symm⟩
  · rintro ⟨abbreviate, text, behind, flag, reads, accepted, rfl⟩
    obtain rfl := flag_eq reads
    exact ⟨_, filtersFlags_ok_iff.mpr ⟨abbreviate, rfl⟩,
      (targetPath_ok_iff abbreviate).mpr ⟨text, behind, reads, accepted⟩, union_eq _ _⟩

theorem ReadsTarget.unique {target path behind path' behind' : List Char} {flag flag' : Nat}
    (reads : ReadsTarget target path behind flag)
    (others : ReadsTarget target path' behind' flag') : path = path' ∧ behind = behind' := by
  cases reads with
  | alone noFunction =>
      rcases others.of_alone noFunction with ⟨rfl, rfl, _⟩
      exact ⟨rfl, rfl⟩
  | @call function _ _ known last =>
      rw [List.append_assoc] at others
      rcases others.of_function known with ⟨same, last', _⟩
      exact last_unique same last last'

/--
A string is parsed by the grammar and by nothing else exactly if it has no filter that is only
the beginning of a name, no text behind the parenthesis of a function and no empty path, or is
refused all the same.
-/
theorem parsedByGrammar_iff {Path : Type} (idmefPathNewFast : List Char → Except ErrorCode Path)
    (str : List Char) :
    ParsedByGrammar idmefPathNewFast str ↔ Strict idmefPathNewFast str := by
  have noSlash : ∀ {text behind flag}, ReadsTarget (parts str).1 text behind flag →
      '/' ∉ text := fun reads inside => (split_parts str).1 (reads.path_subset inside)
  constructor
  · intro parsed text behind flag reads abbreviate isOk
    cases accepted : idmefPathNewFast text with
    | error error => rw [accepted] at isOk; exact absurd isOk Bool.false_ne_true
    | ok path =>
        have isParsed := (parsed_iff idmefPathNewFast).mpr
          ⟨abbreviate, text, behind, flag, reads, accepted, rfl⟩
        rcases (parsed path _).mp isParsed with ⟨text', some_, noSlash', _, selects⟩
        rcases (selects_iff noSlash').mp selects with ⟨flag', reads', names, _⟩
        obtain ⟨rfl, rfl⟩ := reads.unique reads'
        exact ⟨names, some_, rfl⟩
  · intro strict path flags
    rw [parsed_iff]
    constructor
    · rintro ⟨abbreviate, text, behind, flag, reads, accepted, isUnion⟩
      have isOk : (idmefPathNewFast text).isOk := by rw [accepted]; rfl
      rcases strict text behind flag reads abbreviate isOk with ⟨names, some_, rfl⟩
      exact ⟨text, some_, noSlash reads, accepted,
        (selects_iff (noSlash reads)).mpr ⟨flag, reads, names, isUnion⟩⟩
    · rintro ⟨text, some_, slashFree, accepted, selects⟩
      rcases (selects_iff slashFree).mp selects with ⟨flag, reads, names, isUnion⟩
      exact ⟨fun piece inside => abbreviates_of_name (names piece inside), text, [], flag, reads,
        accepted, isUnion⟩

/-- `alert.messageid/order` is accepted, with the flag of the first name that begins so. -/
theorem not_parsedByGrammar :
    ¬ ∀ str : List Char, ParsedByGrammar (fun text => .ok text) str := by
  intro parsed
  have noSlash : '/' ∉ "alert.messageid".toList := by decide
  have noComma : ',' ∉ "order".toList := by decide
  have areParts : parts ("alert.messageid".toList ++ '/' :: "order".toList) =
      ("alert.messageid".toList, ["order".toList]) := by
    rw [parts_append noSlash, List.splitOn_eq_singleton noComma]
  have abbreviates : ∀ piece ∈ ["order".toList], Abbreviates piece := by
    rw [List.forall_mem_singleton]
    exact ⟨_, List.mem_cons_of_mem _ List.mem_cons_self, by decide⟩
  have alone : parseFunction "alert.messageid".toList = 0 := by decide
  have accepted : requiemdbSelectedPathNewString (fun text => .ok text)
      ("alert.messageid".toList ++ '/' :: "order".toList) =
        .ok ("alert.messageid".toList, 0x80) := by
    rw [parsed_iff, areParts]
    exact ⟨abbreviates, _, _, _, .alone alone, rfl, by decide⟩
  rcases (parsed _ _ _).mp accepted with ⟨text, _, slashFree, _, selects⟩
  rcases (selects_iff slashFree).mp selects with ⟨_, _, names, _⟩
  rw [areParts] at names
  exact absurd (names "order".toList (by decide)) (by decide)

end Grammar

end RequiemDB.PathSelection
