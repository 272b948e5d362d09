import Mathlib.Data.List.Basic

/-!
# Quoted texts

A text between two quotes, as a reader takes it off what follows the first one. The rules say
which signs a manual gives a meaning; a reader may do what it likes with anything else. A
text whose signs are spelled by the rules is one token to each of these readers.
-/

namespace Lib

universe u

structure QuoteRules (Sign : Type u) where
  quote : Sign
  /-- Signs beside the quote that do not stand for themselves. -/
  special : Sign → Bool
  /-- What a special sign and the one behind it stand for. -/
  pair : Sign → Sign → Option Sign

/-- `read` is given what follows the first quote: the text up to the last one, and the rest. -/
structure QuoteReader {Sign : Type u} (rules : QuoteRules Sign) where
  read : List Sign → Option (List Sign × List Sign)
  read_close : ∀ {rest : List Sign}, rest.head? ≠ some rules.quote →
    read (rules.quote :: rest) = some ([], rest)
  read_doubled : ∀ rest : List Sign,
    read (rules.quote :: rules.quote :: rest) = (read rest).map (Prod.map (rules.quote :: ·) id)
  read_plain : ∀ {sign : Sign} (rest : List Sign), sign ≠ rules.quote → ¬ rules.special sign →
    read (sign :: rest) = (read rest).map (Prod.map (sign :: ·) id)
  read_pair : ∀ {first second meant : Sign} (rest : List Sign), first ≠ rules.quote →
    rules.special first → rules.pair first second = some meant →
    read (first :: second :: rest) = (read rest).map (Prod.map (meant :: ·) id)

namespace QuoteRules

variable {Sign : Type u} (rules : QuoteRules Sign)

/-- What spells a sign wherever it stands. -/
inductive Spells : List Sign → Sign → Prop
  | plain {sign : Sign} : sign ≠ rules.quote → ¬ rules.special sign → Spells [sign] sign
  | doubled : Spells [rules.quote, rules.quote] rules.quote
  | pair {first second sign : Sign} : first ≠ rules.quote → rules.special first →
      rules.pair first second = some sign → Spells [first, second] sign

section Strict

variable [DecidableEq Sign]

/-- A special sign without a meaning ends the text in an error. -/
def strictRead : List Sign → Option (List Sign × List Sign)
  | [] => none
  | [sign] => if sign = rules.quote then some ([], []) else none
  | first :: second :: rest =>
      if first = rules.quote then
        if second = rules.quote then (strictRead rest).map (Prod.map (rules.quote :: ·) id)
        else some ([], second :: rest)
      else if rules.special first then
        match rules.pair first second with
        | some meant => (strictRead rest).map (Prod.map (meant :: ·) id)
        | none => none
      else (strictRead (second :: rest)).map (Prod.map (first :: ·) id)

/-- The reader that accepts nothing beyond the rules. -/
def strictReader : QuoteReader rules where
  read := rules.strictRead
  read_close {rest} ends := by
    cases rest with
    | nil => simp [strictRead]
    | cons next rest =>
        have notQuote : next ≠ rules.quote := fun same => ends (by rw [same, List.head?_cons])
        simp [strictRead, notQuote]
  read_doubled rest := by simp [strictRead]
  read_plain {sign} rest notQuote notSpecial := by
    cases rest with
    | nil => simp [strictRead, notQuote]
    | cons next rest => simp [strictRead, notQuote, notSpecial]
  read_pair rest notQuote special meant := by simp [strictRead, notQuote, special, meant]

end Strict

end QuoteRules

namespace QuoteReader

variable {Sign : Type u} {rules : QuoteRules Sign} (reader : QuoteReader rules)

theorem read_spelled {spelling : List Sign} {sign : Sign} (spells : rules.Spells spelling sign)
    (rest : List Sign) :
    reader.read (spelling ++ rest) = (reader.read rest).map (Prod.map (sign :: ·) id) := by
  cases spells with
  | plain notQuote notSpecial => exact reader.read_plain rest notQuote notSpecial
  | doubled => exact reader.read_doubled rest
  | pair notQuote special meant => exact reader.read_pair rest notQuote special meant

/-- A text that is spelled sign by sign is read back, whatever follows it but a quote. -/
theorem read_flatMap {spell : Sign → List Sign} {text : List Sign}
    (spells : ∀ sign ∈ text, rules.Spells (spell sign) sign) {rest : List Sign}
    (ends : rest.head? ≠ some rules.quote) :
    reader.read (text.flatMap spell ++ rules.quote :: rest) = some (text, rest) := by
  induction text with
  | nil => exact reader.read_close ends
  | cons sign text ih =>
      have first := spells sign List.mem_cons_self
      have others := ih fun next present => spells next (List.mem_cons_of_mem sign present)
      rw [List.flatMap_cons, List.append_assoc, reader.read_spelled first, others]
      rfl

end QuoteReader

end Lib
