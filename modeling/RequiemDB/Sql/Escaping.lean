import RequiemDB.Lib.Quoted
import RequiemDB.Sql.Field

/-!
# Escaping

What the SQL plugins make of a buffer that goes into a statement, and what the servers read
in the literals. The escape functions of the client libraries and the readers of the servers
are parameters, with what their manuals say of them.
-/

namespace RequiemDB.Escaping

open Lib

section Manuals

/-- A quote is written twice. -/
def doubled (byte : UInt8) : List UInt8 := if byte = 39 then [39, 39] else [byte]

/-- `mysql_real_escape_string` of one byte. -/
def mysqlEscaped : UInt8 → List UInt8
  | 0 => [92, 48]
  | 10 => [92, 110]
  | 13 => [92, 114]
  | 26 => [92, 90]
  | 34 => [92, 34]
  | 39 => [92, 39]
  | 92 => [92, 92]
  | byte => [byte]

/-- `PQescapeString` of one byte; a backslash is plain if strings are as the standard has them. -/
def pgsqlEscaped (standardStrings : Bool) (byte : UInt8) : List UInt8 :=
  if byte = 92 ∧ ¬ standardStrings then [92, 92] else doubled byte

/-- The byte that MySQL reads in a backslash and the byte behind it. -/
def mysqlPair : UInt8 → Option UInt8
  | 48 => some 0
  | 98 => some 8
  | 116 => some 9
  | 110 => some 10
  | 114 => some 13
  | 90 => some 26
  -- `\%` and `\_` stand for two bytes
  | 37 | 95 => none
  | byte => some byte

/-- The same for PostgreSQL, where a digit, `x` or `u` begins a longer sequence. -/
def pgsqlPair : UInt8 → Option UInt8
  | 98 => some 8
  | 116 => some 9
  | 110 => some 10
  | 102 => some 12
  | 114 => some 13
  | byte => if byte = 0 ∨ 48 ≤ byte ∧ byte ≤ 55 ∨ byte ∈ [85, 117, 120] then none else some byte

def quoteRules (standardStrings : Bool) : Backend → QuoteRules UInt8
  | .sqlite3 => ⟨39, fun _ => false, fun _ _ => none⟩
  | .mysql => ⟨39, (· == 92), fun _ => mysqlPair⟩
  | .pgsql => ⟨39, fun byte => !standardStrings && byte == 92, fun _ => pgsqlPair⟩

/-- The functions that the plugins call, on the bytes from a pointer on. -/
structure ClientLibraries where
  standardStrings : Bool
  /-- The conversion `%q` of `sqlite3_mprintf`. -/
  mprintfQ : List UInt8 → List UInt8
  mysqlRealEscapeString : List UInt8 → Nat → List UInt8
  pqEscapeString : List UInt8 → Nat → List UInt8
  pqEscapeBytea : List UInt8 → Nat → List UInt8
  pqServerVersion : Nat
  mprintfQ_eq : ∀ input, mprintfQ input = (cString input).flatMap doubled
  mysqlRealEscapeString_eq : ∀ input size,
    mysqlRealEscapeString input size = (input.take size).flatMap mysqlEscaped
  /-- `PQescapeString` stops at a terminator. -/
  pqEscapeString_eq : ∀ input size,
    pqEscapeString input size = (cString (input.take size)).flatMap (pgsqlEscaped standardStrings)

end Manuals

section Plugins

/-- A buffer with its terminator, from the bytes at a pointer and a size. -/
abbrev EscapeFunction := List UInt8 → Nat → Except ErrorCode (List UInt8)

/-- The two functions that a plugin may set. -/
structure EscapePlugin where
  escape : Option EscapeFunction
  escapeBinary : Option EscapeFunction

def hexDigits : List UInt8 := [48, 49, 50, 51, 52, 53, 54, 55, 56, 57, 65, 66, 67, 68, 69, 70]

def bin2hex : List UInt8 → Nat → List UInt8
  | byte :: input, inlen + 1 =>
      hexDigits.getD (byte >>> 4).toNat 0 :: hexDigits.getD (byte &&& 0x0f).toNat 0 ::
        bin2hex input inlen
  | _, _ => []

/-- The number of values of a `size_t`. -/
def sizeModulus : Nat := 2 ^ 64

/-- `_requiemdb_plugin_sql_escape_binary`. -/
def pluginSqlEscapeBinary (plugin : EscapePlugin) : EscapeFunction := fun input inputSize =>
  match plugin.escapeBinary with
  | some escapeBinary => escapeBinary input inputSize
  | none =>
      let outsize := (inputSize * 2 + 4) % sizeModulus
      if outsize ≤ inputSize then .error criterionError
      else .ok (88 :: 39 :: bin2hex input inputSize ++ [39, 0])

/-- `_requiemdb_plugin_sql_escape`. -/
def pluginSqlEscape (plugin : EscapePlugin) : EscapeFunction := fun input inputSize =>
  match plugin.escape with
  | none => pluginSqlEscapeBinary plugin input inputSize
  | some escape => escape input inputSize

/-- `requiemdb_sql_escape_fast`, once there is a session. -/
def requiemdbSqlEscapeFast (plugin : EscapePlugin) (input : List UInt8) (inputSize : Nat) :
    Except ErrorCode (List UInt8) :=
  pluginSqlEscape plugin input inputSize

variable (libraries : ClientLibraries)

/-- `sql_escape` of `sqlite3.c`; the size is not used. -/
def sqlite3SqlEscape : EscapeFunction := fun input _ =>
  .ok (39 :: libraries.mprintfQ input ++ [39, 0])

/-- `sql_escape` of `pgsql.c` and `sql_escape_binary` of `mysql.c`. -/
def sqlEscape (escapeString : List UInt8 → Nat → List UInt8) (error : ErrorCode) :
    EscapeFunction := fun input inputSize =>
  let rsize := (inputSize * 2 + 3) % sizeModulus
  if rsize ≤ inputSize then .error error
  else .ok (39 :: escapeString input inputSize ++ [39, 0])

def pgsqlSqlEscape : EscapeFunction := sqlEscape libraries.pqEscapeString criterionError

def mysqlSqlEscapeBinary : EscapeFunction :=
  sqlEscape libraries.mysqlRealEscapeString ⟨-1, minusOne_negative⟩

/-- `sql_escape_binary` of `pgsql.c`. -/
def pgsqlSqlEscapeBinary : EscapeFunction := fun input inputSize =>
  let literal := 39 :: cString (libraries.pqEscapeBytea input inputSize) ++ [39, 0]
  .ok (if libraries.pqServerVersion ≥ 80200 then 69 :: literal else literal)

/-- What `*_LTX_requiem_plugin_init` sets. -/
def escapePlugin : Backend → EscapePlugin
  | .mysql => ⟨none, some (mysqlSqlEscapeBinary libraries)⟩
  | .pgsql => ⟨some (pgsqlSqlEscape libraries), some (pgsqlSqlEscapeBinary libraries)⟩
  | .sqlite3 => ⟨some (sqlite3SqlEscape libraries), none⟩

end Plugins

section Literals

/-- A server that follows the manual of its backend. -/
abbrev TextReader (standardStrings : Bool) (backend : Backend) : Type :=
  QuoteReader (quoteRules standardStrings backend)

/-- The bytes that a server reads in one text literal, and what follows the literal. -/
def textLiteral {standardStrings : Bool} {backend : Backend}
    (reader : TextReader standardStrings backend) : List UInt8 → Option (List UInt8 × List UInt8)
  | 39 :: rest => reader.read rest
  | _ => none

def hexValue (digit : UInt8) : Option UInt8 :=
  if 48 ≤ digit ∧ digit ≤ 57 then some (digit - 48)
  else if 65 ≤ digit ∧ digit ≤ 70 then some (digit - 55)
  else if 97 ≤ digit ∧ digit ≤ 102 then some (digit - 87)
  else none

/-- Pairs of hexadecimal digits up to a quote. -/
def readHex : List UInt8 → Option (List UInt8 × List UInt8)
  | 39 :: rest => some ([], rest)
  | high :: low :: rest => do
      let high ← hexValue high
      let low ← hexValue low
      let (bytes, rest) ← readHex rest
      some ((16 * high + low) :: bytes, rest)
  | _ => none

/-- The bytes of one literal `X'..'`, and what follows it. -/
def blobLiteral : List UInt8 → Option (List UInt8 × List UInt8)
  | 88 :: 39 :: rest | 120 :: 39 :: rest => readHex rest
  | _ => none

/-- A buffer is written that holds one literal of the server, which denotes the bytes. -/
def Denotes {standardStrings : Bool} {backend : Backend}
    (reader : TextReader standardStrings backend) (output : Except ErrorCode (List UInt8))
    (bytes : List UInt8) : Prop :=
  ∃ buffer, output = .ok buffer ∧ textLiteral reader (cString buffer) = some (bytes, [])

/-- The same for a literal `X'..'`, in a buffer that it fills up to the terminator. -/
def DenotesHex (output : Except ErrorCode (List UInt8)) (bytes : List UInt8) : Prop :=
  ∃ digits : List UInt8, output = .ok (88 :: 39 :: digits ++ [39, 0]) ∧
    (88 :: 39 :: digits ++ [39, 0]).length = 2 * bytes.length + 4 ∧
    blobLiteral (cString (88 :: 39 :: digits ++ [39, 0])) = some (bytes, [])

end Literals

section Spelling

variable (standardStrings : Bool)

@[simp]
theorem quote_quoteRules (backend : Backend) : (quoteRules standardStrings backend).quote = 39 := by
  cases backend <;> rfl

theorem spells_doubled {rules : QuoteRules UInt8} (quote : rules.quote = 39) {byte : UInt8}
    (notSpecial : ¬ rules.special byte) : rules.Spells (doubled byte) byte := by
  rw [doubled]
  split
  · next isQuote =>
      rw [isQuote, ← quote]
      exact .doubled
  · next notQuote => exact .plain (quote ▸ notQuote) notSpecial

theorem spells_mysqlEscaped (byte : UInt8) :
    (quoteRules standardStrings .mysql).Spells (mysqlEscaped byte) byte := by
  unfold mysqlEscaped
  split
  case h_8 =>
    next _ _ _ _ _ notQuote notBackslash => exact .plain notQuote (by simpa [quoteRules])
  all_goals exact .pair (by simp) rfl rfl

theorem spells_pgsqlEscaped (byte : UInt8) :
    (quoteRules standardStrings .pgsql).Spells (pgsqlEscaped standardStrings byte) byte := by
  rw [pgsqlEscaped]
  split
  · next backslash =>
      rcases backslash with ⟨rfl, notStandard⟩
      exact .pair (by simp) (by simp [quoteRules, notStandard]) rfl
  · next plain =>
      refine spells_doubled (quote_quoteRules standardStrings .pgsql) ?_
      simp only [quoteRules, Bool.and_eq_true, Bool.not_eq_true', beq_iff_eq]
      rintro ⟨notStandard, rfl⟩
      exact plain ⟨rfl, by simp [notStandard]⟩

theorem not_mem_doubled {byte : UInt8} (notNul : byte ≠ 0) : 0 ∉ doubled byte := by
  rw [doubled]
  split
  · decide
  · simpa using notNul.symm

theorem not_mem_mysqlEscaped : ∀ byte : UInt8, 0 ∉ mysqlEscaped byte :=
  forall_byte (by decide +kernel)

theorem not_mem_pgsqlEscaped {byte : UInt8} (notNul : byte ≠ 0) :
    0 ∉ pgsqlEscaped standardStrings byte := by
  rw [pgsqlEscaped]
  split
  · decide
  · exact not_mem_doubled notNul

end Spelling

section Hexadecimal

theorem readHex_byte (byte : UInt8) (rest : List UInt8) :
    readHex (hexDigits.getD (byte >>> 4).toNat 0 :: hexDigits.getD (byte &&& 0x0f).toNat 0 ::
      rest) = (readHex rest).map (Prod.map (byte :: ·) id) := by
  have digits : ∀ byte : UInt8, hexDigits.getD (byte >>> 4).toNat 0 ≠ 39 ∧
      hexValue (hexDigits.getD (byte >>> 4).toNat 0) = some (byte >>> 4) ∧
      hexValue (hexDigits.getD (byte &&& 0x0f).toNat 0) = some (byte &&& 0x0f) ∧
      (16 : UInt8) * (byte >>> 4) + (byte &&& 0x0f) = byte :=
    forall_byte (by decide +kernel)
  rcases digits byte with ⟨notQuote, high, low, value⟩
  rw [readHex, high, low]
  · cases readHex rest <;> simp [value, Prod.map]
  · exact notQuote

theorem readHex_bin2hex (bytes rest : List UInt8) :
    readHex (bin2hex bytes bytes.length ++ 39 :: rest) = some (bytes, rest) := by
  induction bytes with
  | nil => simp [bin2hex, readHex]
  | cons byte bytes ih =>
      rw [List.length_cons, bin2hex, List.cons_append, List.cons_append, readHex_byte, ih]
      rfl

theorem length_bin2hex (bytes : List UInt8) :
    (bin2hex bytes bytes.length).length = 2 * bytes.length := by
  induction bytes with
  | nil => rfl
  | cons byte bytes ih =>
      simp only [List.length_cons, bin2hex, ih]
      omega

theorem not_mem_bin2hex (bytes : List UInt8) : 0 ∉ bin2hex bytes bytes.length := by
  have notNul : ∀ byte : UInt8, (0 : UInt8) ≠ hexDigits.getD (byte >>> 4).toNat 0 ∧
      (0 : UInt8) ≠ hexDigits.getD (byte &&& 0x0f).toNat 0 :=
    forall_byte (by decide +kernel)
  induction bytes with
  | nil => decide
  | cons byte bytes ih =>
      simp only [List.length_cons, bin2hex, List.mem_cons, not_or]
      exact ⟨(notNul byte).1, (notNul byte).2, ih⟩

/-- The built-in form of any bytes, of a plugin that sets no function of its own. -/
theorem denotesHex {plugin : EscapePlugin} (builtIn : plugin.escapeBinary = none)
    {bytes : List UInt8} (fits : 2 * bytes.length + 4 < sizeModulus) :
    DenotesHex (pluginSqlEscapeBinary plugin bytes bytes.length) bytes := by
  have size : (bytes.length * 2 + 4) % sizeModulus = bytes.length * 2 + 4 :=
    Nat.mod_eq_of_lt (by omega)
  refine ⟨bin2hex bytes bytes.length, ?_, ?_, ?_⟩
  · simp only [pluginSqlEscapeBinary, builtIn, size]
    rw [if_neg (by omega)]
  · simp only [List.length_append, length_bin2hex, List.length_cons, List.length_nil]
  · have noNul : 0 ∉ 88 :: 39 :: bin2hex bytes bytes.length ++ [39] := by
      simp [not_mem_bin2hex]
    have text := cString_append_nul noNul []
    rw [List.append_assoc] at text
    exact (congrArg blobLiteral text).trans (readHex_bin2hex bytes [])

end Hexadecimal

section Texts

variable (libraries : ClientLibraries)

/-- A literal whose bytes are spelled one by one denotes them. -/
theorem textLiteral_spelled {standardStrings : Bool} {backend : Backend}
    (reader : TextReader standardStrings backend) {spell : UInt8 → List UInt8} {bytes : List UInt8}
    (spells : ∀ byte ∈ bytes, (quoteRules standardStrings backend).Spells (spell byte) byte)
    (noNul : ∀ byte ∈ bytes, 0 ∉ spell byte) :
    textLiteral reader (cString (39 :: bytes.flatMap spell ++ [39, 0])) = some (bytes, []) := by
  have whole : 0 ∉ 39 :: bytes.flatMap spell ++ [39] := by
    simp only [List.cons_append, List.mem_cons, List.mem_append, List.mem_flatMap, not_or,
      not_exists, not_and]
    exact ⟨by decide, noNul, by decide⟩
  have text := cString_append_nul whole []
  rw [List.append_assoc] at text
  have ends : ([] : List UInt8).head? ≠ some (quoteRules standardStrings backend).quote := by simp
  have read := reader.read_flatMap spells ends
  rw [quote_quoteRules] at read
  exact (congrArg (textLiteral reader) text).trans read

/-- The bytes that the plugin of a backend writes of a buffer and a size. -/
def written (backend : Backend) (buf : List UInt8) (n : Nat) : List UInt8 :=
  if backend = .sqlite3 then buf else buf.take n

variable {libraries}

theorem sqlEscape_ok {escapeString : List UInt8 → Nat → List UInt8} {error : ErrorCode}
    (input : List UInt8) {inputSize : Nat} (fits : 2 * inputSize + 4 < sizeModulus) :
    sqlEscape escapeString error input inputSize =
      .ok (39 :: escapeString input inputSize ++ [39, 0]) := by
  have size : (inputSize * 2 + 3) % sizeModulus = inputSize * 2 + 3 :=
    Nat.mod_eq_of_lt (by omega)
  simp only [sqlEscape, size]
  exact if_neg (by omega)

theorem escapeFast_eq (backend : Backend) {buf : List UInt8} (noNul : 0 ∉ buf) {n : Nat}
    (fits : 2 * n + 4 < sizeModulus)
    (reader : TextReader libraries.standardStrings backend) :
    ∃ buffer, requiemdbSqlEscapeFast (escapePlugin libraries backend) buf n = .ok buffer ∧
      textLiteral reader (cString buffer) = some (written backend buf n, []) := by
  have notNul : ∀ byte ∈ buf, byte ≠ 0 := fun byte present same => noNul (same ▸ present)
  have inBuffer : ∀ byte ∈ buf.take n, byte ∈ buf := fun byte => List.mem_of_mem_take
  cases backend with
  | mysql =>
      refine ⟨_, sqlEscape_ok buf fits, ?_⟩
      rw [libraries.mysqlRealEscapeString_eq]
      exact textLiteral_spelled reader (fun byte _ => spells_mysqlEscaped _ byte)
        fun byte _ => not_mem_mysqlEscaped byte
  | pgsql =>
      refine ⟨_, sqlEscape_ok buf fits, ?_⟩
      rw [libraries.pqEscapeString_eq, cString_eq_self fun present => noNul (inBuffer 0 present)]
      exact textLiteral_spelled reader (fun byte _ => spells_pgsqlEscaped _ byte)
        fun byte present => not_mem_pgsqlEscaped _ (notNul byte (inBuffer byte present))
  | sqlite3 =>
      refine ⟨_, rfl, ?_⟩
      rw [libraries.mprintfQ_eq, cString_eq_self noNul]
      exact textLiteral_spelled reader
        (fun byte _ => spells_doubled (quote_quoteRules _ .sqlite3) (by simp [quoteRules]))
        fun byte present => not_mem_doubled (notNul byte present)

end Texts

section Exactness

/-- What the escape functions promise of a buffer and a size, and of any bytes. -/
def EscapesExactly (libraries : ClientLibraries) {backend : Backend}
    (reader : TextReader libraries.standardStrings backend) (buf : List UInt8) (n : Nat) : Prop :=
  Denotes reader (requiemdbSqlEscapeFast (escapePlugin libraries backend) buf n) (buf.take n) ∧
    ∀ (plugin : EscapePlugin) (bytes : List UInt8), plugin.escapeBinary = none →
      2 * bytes.length + 4 < sizeModulus →
      DenotesHex (pluginSqlEscapeBinary plugin bytes bytes.length) bytes

/-- The plugin of SQLite writes the whole buffer, whatever size it is given. -/
theorem escapesExactly_iff (libraries : ClientLibraries) {backend : Backend}
    (reader : TextReader libraries.standardStrings backend) {buf : List UInt8} (noNul : 0 ∉ buf)
    {n : Nat} (within : n ≤ buf.length) (fits : 2 * n + 4 < sizeModulus) :
    EscapesExactly libraries reader buf n ↔ (backend = .sqlite3 → n = buf.length) := by
  rcases escapeFast_eq backend noNul fits reader with ⟨buffer, escaped, read⟩
  have hex : ∀ (plugin : EscapePlugin) (bytes : List UInt8), plugin.escapeBinary = none →
      2 * bytes.length + 4 < sizeModulus →
      DenotesHex (pluginSqlEscapeBinary plugin bytes bytes.length) bytes :=
    fun _ _ builtIn fits => denotesHex builtIn fits
  constructor
  · rintro ⟨⟨buffer', escaped', read'⟩, -⟩ sqlite3
    rw [escaped, Except.ok.injEq] at escaped'
    subst escaped'
    rw [read, Option.some.injEq, Prod.mk.injEq, written, if_pos sqlite3] at read'
    have lengths := congrArg List.length read'.1
    rw [List.length_take] at lengths
    omega
  · intro whole
    refine ⟨⟨buffer, escaped, ?_⟩, hex⟩
    rw [read, written]
    split
    · next sqlite3 => rw [whole sqlite3, List.take_length]
    · rfl

/-- Functions that do what the manuals say. -/
def plainLibraries : ClientLibraries where
  standardStrings := true
  mprintfQ input := (cString input).flatMap doubled
  mysqlRealEscapeString input size := (input.take size).flatMap mysqlEscaped
  pqEscapeString input size := (cString (input.take size)).flatMap (pgsqlEscaped true)
  pqEscapeBytea input size := (input.take size).flatMap byteaEscape
  pqServerVersion := 90000
  mprintfQ_eq _ := rfl
  mysqlRealEscapeString_eq _ _ := rfl
  pqEscapeString_eq _ _ := rfl

/-- The buffer `it's` up to its apostrophe, on MySQL. -/
theorem escapesExactly_iff_apostrophe :
    EscapesExactly plainLibraries (quoteRules true .mysql).strictReader [105, 116, 39, 115] 3 ↔
      (Backend.mysql = .sqlite3 → 3 = [105, 116, 39, 115].length) :=
  escapesExactly_iff plainLibraries (quoteRules true .mysql).strictReader (by decide) (by decide)
    (by decide)

/-- The first byte of `ab` becomes the literal of both on SQLite. -/
theorem not_escapesExactly :
    ¬ EscapesExactly plainLibraries (quoteRules true .sqlite3).strictReader [97, 98] 1 := by
  rintro ⟨⟨buffer, escaped, read⟩, -⟩
  have buffer_eq : buffer = [39, 97, 98, 39, 0] := (Except.ok.inj escaped).symm
  rw [buffer_eq] at read
  revert read
  decide

end Exactness

end RequiemDB.Escaping
