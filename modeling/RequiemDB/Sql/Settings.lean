import Mathlib.Data.List.TakeWhile
import Mathlib.Logic.Function.Basic
import RequiemDB.Query.Values

/-!
# Settings strings

`requiemdb_sql_settings_set_from_string` with the two scanners it calls. A string
is the list of the characters before its terminator, and the cursor of a scanner
is the rest of the string behind it.

A quoted value is refused when its closing quote is the last character of the
string, so that a list of settings whose values are quoted is never read back.
Values without quotes are.
-/

namespace RequiemDB.Settings

/-- The hash of the settings, from names to values. -/
abbrev Hash := List Char → Option (List Char)

/-- Settings behind `requiemdb_sql_settings_new`. -/
def Hash.empty : Hash := fun _ => none

/-- `requiem_hash_set`, which replaces the value of a name. -/
def Hash.set (settings : Hash) (name value : List Char) : Hash :=
  Function.update settings name (some value)

/-- `REQUIEMDB_ERROR_INVALID_SETTINGS_STRING`. -/
def invalidSettingsString : ErrorCode := ⟨-1, minusOne_negative⟩

/-- `isalnum` in the C locale, or an underscore. -/
def isNameChar (c : Char) : Bool := c.isAlphanum || c = '_'

/-- A name and the rest behind its `=`, or nothing at the end of the string. -/
def getName (str : List Char) : Except ErrorCode (Option (List Char × List Char)) :=
  let start := str.dropWhile isSpace
  if start = [] then .ok none
  else
    let name := start.takeWhile isNameChar
    match start.dropWhile isNameChar with
    | '=' :: rest => if name = [] then .error invalidSettingsString else .ok (some (name, rest))
    | _ => .error invalidSettingsString

/-- The loop of `get_value`, which ends behind `endOfString` or at the terminator. -/
def scanValue (endOfString : Char) : (escaped : Bool) → List Char → List Char × List Char
  | _, [] => ([], [])
  | escaped, c :: rest =>
      let later := scanValue endOfString false rest
      if escaped then (c :: later.1, later.2)
      else if c = '\\' then scanValue endOfString true rest
      else if c = endOfString then ([], rest)
      else (c :: later.1, later.2)

/-- The marks that `get_value` takes for quotes. -/
def isQuote (c : Char) : Bool := c = '\'' || c = '"'

/-- The character that ends a value, and the string behind the opening quote. -/
def openValue : List Char → Char × List Char
  | c :: rest => if isQuote c then (c, rest) else (' ', c :: rest)
  | [] => (' ', [])

/-- The end of a quoted value is not told from the end of the string. -/
def getValue (str : List Char) : Except ErrorCode (List Char × List Char) :=
  let (endOfString, start) := openValue str
  let (value, rest) := scanValue endOfString false start
  if rest = [] ∧ isQuote endOfString then .error invalidSettingsString else .ok (value, rest)

theorem length_scanValue (endOfString : Char) (escaped : Bool) (str : List Char) :
    (scanValue endOfString escaped str).2.length ≤ str.length := by
  induction str generalizing escaped with
  | nil => exact Nat.le_refl _
  | cons c rest ih =>
      rw [scanValue]
      split
      · exact Nat.le_succ_of_le (ih false)
      · split
        · exact Nat.le_succ_of_le (ih true)
        · split
          · exact Nat.le_succ _
          · exact Nat.le_succ_of_le (ih false)

theorem length_getValue {str value rest : List Char} (got : getValue str = .ok (value, rest)) :
    rest.length ≤ str.length := by
  have opened : (openValue str).2.length ≤ str.length := by
    cases str with
    | nil => simp [openValue]
    | cons c rest =>
        rw [openValue]
        split <;> simp
  have scanned := length_scanValue (openValue str).1 false (openValue str).2
  simp only [getValue] at got
  split at got
  · cases got
  · cases got
    exact Nat.le_trans scanned opened

theorem length_getName {str name rest : List Char} (got : getName str = .ok (some (name, rest))) :
    rest.length < str.length := by
  have spaces := List.length_dropWhile_le isSpace str
  simp only [getName] at got
  split at got
  · cases got
  · split at got
    · next behind =>
        split at got
        · cases got
        cases got
        have names := List.length_dropWhile_le isNameChar (str.dropWhile isSpace)
        rw [behind, List.length_cons] at names
        omega
    · cases got

/--
The loop ends at the end of the string, or at the first error of a scanner. What the scanner
itself does with the string is shown to be this in `Scanner.settles_setFromString`.
-/
def setFromString (settings : Hash) (str : List Char) : Int × Hash :=
  match _got : getName str with
  | .error error => (error.code, settings)
  | .ok none => (0, settings)
  | .ok (some (name, rest)) =>
      match _read : getValue rest with
      | .error error => (error.code, settings)
      | .ok (value, rest) => setFromString (settings.set name value) rest
termination_by str.length
decreasing_by exact Nat.lt_of_le_of_lt (length_getValue _read) (length_getName _got)

/-- How the value of a setting is written. -/
inductive Form where
  | doubleQuoted | singleQuoted | plain
deriving DecidableEq

namespace Form

/-- The character that ends a value. -/
def delimiter : Form → Char
  | .doubleQuoted => '"'
  | .singleQuoted => '\''
  | .plain => ' '

/-- A backslash before every delimiter and backslash. -/
def escape (form : Form) (value : List Char) : List Char :=
  value.flatMap fun c => if c = form.delimiter ∨ c = '\\' then ['\\', c] else [c]

/-- A value, between quotes unless it is plain. -/
def write (form : Form) (value : List Char) : List Char :=
  if form = .plain then form.escape value
  else form.delimiter :: form.escape value ++ [form.delimiter]

end Form

/-- A name and a value that can be written in a form. -/
structure Setting (form : Form) where
  name : List Char
  value : List Char
  named : name ≠ []
  nameChars : ∀ c ∈ name, isNameChar c
  nulFree : '\x00' ∉ value
  startsPlain : form = .plain → ∃ c, value.head? = some c ∧ ¬ isQuote c

namespace Setting

variable {form : Form}

def write (setting : Setting form) : List Char :=
  setting.name ++ '=' :: form.write setting.value

/-- The settings with single spaces between them. -/
def writeAll (settings : List (Setting form)) : List Char :=
  [' '].intercalate (settings.map write)

/-- Each name with the value last listed for it, and no other name. -/
def lastListed (settings : List (Setting form)) : Hash := fun name =>
  (settings.filter fun setting => setting.name = name).getLast?.map value

end Setting

section Scanners

theorem getName_space (str : List Char) : getName (' ' :: str) = getName str := rfl

theorem getName_append {name rest : List Char} (named : name ≠ [])
    (nameChars : ∀ c ∈ name, isNameChar c) :
    getName (name ++ '=' :: rest) = .ok (some (name, rest)) := by
  rcases List.exists_cons_of_ne_nil named with ⟨first, later, rfl⟩
  have notSpace : isSpace first = false := by
    have spaces : [' ', '\t', '\n', '\x0b', '\x0c', '\r'].any isNameChar = false := by decide
    apply decide_eq_false
    intro inSpaces
    exact List.any_eq_false.mp spaces first inSpaces (nameChars first List.mem_cons_self)
  have taken : (first :: later ++ '=' :: rest).takeWhile isNameChar = first :: later := by
    rw [List.takeWhile_append_of_pos nameChars, List.takeWhile_cons_of_neg (by decide),
      List.append_nil]
  have dropped : (first :: later ++ '=' :: rest).dropWhile isNameChar = '=' :: rest := by
    rw [List.dropWhile_append_of_pos nameChars, List.dropWhile_cons_of_neg (by decide)]
  have start : (first :: later ++ '=' :: rest).dropWhile isSpace = first :: later ++ '=' :: rest :=
    List.dropWhile_cons_of_neg (by simp [notSpace])
  simp only [getName, start, taken, dropped]
  simp

/-- An escaped value is read as it was, in front of what is read of the rest. -/
theorem scanValue_escape (form : Form) (value rest : List Char) :
    scanValue form.delimiter false (form.escape value ++ rest) =
      (value ++ (scanValue form.delimiter false rest).1,
        (scanValue form.delimiter false rest).2) := by
  induction value with
  | nil => rfl
  | cons c value ih =>
      rw [Form.escape, List.flatMap_cons, List.append_assoc, ← Form.escape]
      by_cases marked : c = form.delimiter ∨ c = '\\'
      · rw [if_pos marked]
        simp [scanValue, ih]
      · rw [if_neg marked]
        rcases not_or.mp marked with ⟨notDelimiter, notBackslash⟩
        simp [scanValue, notDelimiter, notBackslash, ih]

/-- A plain value is read up to the space behind it, or to the end of the string. -/
theorem getValue_plain (setting : Setting .plain) (behind : List Char) :
    getValue (Form.write .plain setting.value ++ behind) =
      .ok (setting.value ++ (scanValue ' ' false behind).1, (scanValue ' ' false behind).2) := by
  have isWrite : Form.write .plain setting.value = Form.escape .plain setting.value := rfl
  have opened : openValue (Form.escape .plain setting.value ++ behind) =
      (' ', Form.escape .plain setting.value ++ behind) := by
    rcases setting.startsPlain rfl with ⟨first, isFirst, notQuote⟩
    rcases List.head?_eq_some_iff.mp isFirst with ⟨later, isValue⟩
    rw [isValue, Form.escape, List.flatMap_cons]
    split
    · rfl
    · simp [openValue, notQuote]
  have scanned := scanValue_escape .plain setting.value behind
  rw [Form.delimiter] at scanned
  rw [getValue, isWrite, opened]
  simp only [scanned]
  exact if_neg fun both => absurd both.2 (by decide)

/-- A quoted value is read up to its closing quote, unless the string ends there. -/
theorem getValue_quoted {form : Form} (quoted : form ≠ .plain) (value behind : List Char) :
    getValue (form.write value ++ behind) =
      if behind = [] then .error invalidSettingsString else .ok (value, behind) := by
  have isMark : isQuote form.delimiter := by cases form <;> first | rfl | exact absurd rfl quoted
  have notBackslash : form.delimiter ≠ '\\' := by cases form <;> decide
  have isWrite : form.write value ++ behind =
      form.delimiter :: (form.escape value ++ form.delimiter :: behind) := by
    simp [Form.write, quoted]
  have scanned := scanValue_escape form value (form.delimiter :: behind)
  have closed : scanValue form.delimiter false (form.delimiter :: behind) = ([], behind) := by
    simp [scanValue, notBackslash]
  rw [closed, List.append_nil] at scanned
  rw [getValue, isWrite, openValue, if_pos isMark]
  simp only [scanned, isMark, and_true]

end Scanners

section Loop

variable (settings : Hash)

theorem setFromString_eq (str : List Char) :
    setFromString settings str =
      match getName str with
      | .error error => (error.code, settings)
      | .ok none => (0, settings)
      | .ok (some (name, rest)) =>
          match getValue rest with
          | .error error => (error.code, settings)
          | .ok (value, rest) => setFromString (settings.set name value) rest := by
  rw [setFromString]
  split <;> rename_i got
  · rw [got]
  · rw [got]
  · rw [got]
    dsimp only
    split <;> rename_i read <;> rw [read]

@[simp]
theorem setFromString_nil : setFromString settings [] = (0, settings) := by
  rw [setFromString_eq]
  rfl

theorem setFromString_space (str : List Char) :
    setFromString settings (' ' :: str) = setFromString settings str := by
  rw [setFromString_eq, getName_space, ← setFromString_eq]

theorem setFromString_write {form : Form} (setting : Setting form) (behind : List Char) :
    setFromString settings (setting.write ++ behind) =
      match getValue (form.write setting.value ++ behind) with
      | .error error => (error.code, settings)
      | .ok (value, rest) => setFromString (settings.set setting.name value) rest := by
  have got : getName (setting.write ++ behind) =
      .ok (some (setting.name, form.write setting.value ++ behind)) := by
    rw [Setting.write, List.append_assoc, List.cons_append]
    exact getName_append setting.named setting.nameChars
  rw [setFromString_eq, got]

/-- The settings behind a list of them is set. -/
def Setting.setAll {form : Form} (list : List (Setting form)) : Hash :=
  list.foldl (fun settings setting => settings.set setting.name setting.value) settings

theorem Setting.writeAll_cons {form : Form} (setting : Setting form) (list : List (Setting form)) :
    writeAll (setting :: list) =
      setting.write ++ if list = [] then [] else ' ' :: writeAll list := by
  cases list with
  | nil => simp [writeAll, List.intercalate]
  | cons next list => simp [writeAll, List.intercalate_cons_cons]

theorem setFromString_writeAll_plain (list : List (Setting .plain)) :
    setFromString settings (Setting.writeAll list) = (0, Setting.setAll settings list) := by
  induction list generalizing settings with
  | nil => exact setFromString_nil settings
  | cons setting list ih =>
      rw [Setting.writeAll_cons, setFromString_write, getValue_plain]
      by_cases last : list = []
      · subst last
        simp [scanValue, Setting.setAll]
      · simpa [last, scanValue, Setting.setAll] using
          ih (settings.set setting.name setting.value)

theorem setFromString_writeAll_quoted {form : Form} (quoted : form ≠ .plain)
    {list : List (Setting form)} (some : list ≠ []) :
    (setFromString settings (Setting.writeAll list)).1 < 0 := by
  induction list generalizing settings with
  | nil => exact absurd rfl some
  | cons setting list ih =>
      rw [Setting.writeAll_cons, setFromString_write, getValue_quoted quoted]
      by_cases last : list = []
      · simp only [last, if_true]
        exact invalidSettingsString.negative
      · simp only [last, if_false, List.cons_ne_nil, setFromString_space]
        exact ih _ last

/-- The settings behind a list of them, by the last value of each name. -/
theorem setAll_apply {form : Form} (list : List (Setting form)) (name : List Char) :
    Setting.setAll settings list name = (Setting.lastListed list name).or (settings name) := by
  induction list generalizing settings with
  | nil => rfl
  | cons setting list ih =>
      have later := ih (settings.set setting.name setting.value)
      rw [Setting.setAll] at later ⊢
      rw [List.foldl_cons, later, Setting.lastListed, Setting.lastListed, List.filter_cons]
      by_cases same : setting.name = name
      · subst same
        simp only [decide_true, if_true, List.getLast?_cons, Hash.set, Function.update_self]
        cases (list.filter fun other => other.name = setting.name).getLast? <;> rfl
      · have other : name ≠ setting.name := fun equal => same equal.symm
        simp [same, Hash.set, other]

end Loop

/-- The text of the settings is accepted, and sets each name to the value last listed for it. -/
def ReadsBack {form : Form} (list : List (Setting form)) : Prop :=
  setFromString .empty (Setting.writeAll list) = (0, Setting.lastListed list)

theorem not_readsBack_of_quoted {form : Form} (quoted : form ≠ .plain)
    {list : List (Setting form)} (some : list ≠ []) : ¬ ReadsBack list := by
  intro readsBack
  have refused := setFromString_writeAll_quoted .empty quoted some
  rw [readsBack] at refused
  exact Int.lt_irrefl 0 refused

/-- The setting `host="a"`. -/
def hostA : Setting .doubleQuoted where
  name := "host".toList
  value := ['a']
  named := by decide
  nameChars := List.all_eq_true.mp (by decide)
  nulFree := by decide
  startsPlain := by decide

end RequiemDB.Settings
