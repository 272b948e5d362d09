import Mathlib.Tactic.Common
import RequiemDB.Sql.Operation

/-!
# The load command

`cmd_load` with the functions it calls. The limit of `--count` is compared with `cur_count`,
which goes up when a transaction is flushed and not with each message: what is read is the
count rounded up to whole transactions, or everything where there are none.
-/

namespace RequiemDB.Admin

variable {M : Type}

/-- What a file holds at a position, as `requiem_msg_read` and `idmef_message_read` find it. -/
inductive Stored (M : Type) where
  | unreadable (error : ErrorCode)
  | undecodable (error : ErrorCode)
  | message (idmef : M)

/-- The options of the command; `limit` is absent without `--count`. -/
structure LoadOptions (M : Type) where
  eventsPerTransaction : ℕ
  offset : ℕ
  limit : Option ℕ
  criteria : Option (M → Bool)

/--
What may happen to the command: the error of an insertion, by the insertions before it, and
the signal, by the tests of `stop_processing` before it.
-/
structure Mishaps where
  insertion : ℕ → Option ErrorCode
  signal : ℕ → Bool

/-- The database that the messages are loaded into. -/
structure Target (M : Type) where
  committed : List M
  pending : List M
  inTransaction : Bool

namespace Target

variable (target : Target M)

/-- A database with these messages, and no transaction. -/
def on (committed : List M) : Target M := ⟨committed, [], false⟩

/-- `requiemdb_transaction_start`; in a transaction it is an error that nobody looks at. -/
def start : Target M :=
  if target.inTransaction then target else { target with inTransaction := true }

def finish : Target M :=
  if target.inTransaction then ⟨target.committed ++ target.pending, [], false⟩ else target

def abort : Target M := if target.inTransaction then ⟨target.committed, [], false⟩ else target

def insert (idmef : M) : Target M :=
  if target.inTransaction then { target with pending := target.pending ++ [idmef] }
  else { target with committed := target.committed ++ [idmef] }

end Target

/-- The variables of the command; `processed` holds the messages that the criteria were asked. -/
structure Load (M : Type) where
  target : Target M
  curCount : ℕ
  eventNo : ℕ
  offsetCopy : ℕ
  processed : List M
  insertions : ℕ
  tests : ℕ

/-- What `do_read_message` returns: a negative value, 0, or 1 without or with a message. -/
inductive ReadResult (M : Type) where
  | failed (error : ErrorCode)
  | ended
  | skipped
  | message (idmef : M)

section Functions

variable (options : LoadOptions M) (mishaps : Mishaps)

/-- `! criteria || idmef_criteria_match(criteria, idmef)`. -/
def LoadOptions.wants (idmef : M) : Bool := options.criteria.all fun criteria => criteria idmef

/-- The limit is reached. -/
def LoadOptions.Reached (curCount : ℕ) : Prop := ∃ limit ∈ options.limit, limit ≤ curCount

instance (curCount : ℕ) : Decidable (options.Reached curCount) :=
  match isLimit : options.limit with
  | none => isFalse fun ⟨_, isSome, _⟩ => nomatch isLimit.symm.trans isSome
  | some limit =>
      decidable_of_iff (limit ≤ curCount) <| by
        rw [LoadOptions.Reached, isLimit]
        simp

/-- On what the file holds next, and on its end. -/
def doReadMessage (load : Load M) : Option (Stored M) → ReadResult M × Load M
  | none => (.ended, load)
  | some (.unreadable error) => (.failed error, load)
  | some stored =>
      if load.offsetCopy > 0 then (.skipped, { load with offsetCopy := load.offsetCopy - 1 })
      else if options.Reached load.curCount then (.ended, load)
      else match stored with
      | .unreadable error | .undecodable error => (.failed error, load)
      | .message idmef => (.message idmef, load)

/-- The part of `flush_transaction_if_needed` that has an `event_no`. -/
def Load.flush (load : Load M) (increment : ℕ) : Load M :=
  if options.eventsPerTransaction = 0 then load
  else
    let eventNo := load.eventNo + increment
    if options.eventsPerTransaction ≤ eventNo ∨ increment = 0 ∧ eventNo ≠ 0 then
      { load with
        target := load.target.finish.start
        curCount := load.curCount + eventNo
        eventNo := 0 }
    else { load with eventNo }

/-- The message is matched and, if it does, inserted. -/
def Load.process (load : Load M) (idmef : M) : Int × Load M :=
  let load := { load with processed := load.processed ++ [idmef] }
  if options.wants idmef then
    match mishaps.insertion load.insertions with
    | some error => (error.code, { load with insertions := load.insertions + 1 })
    | none => (0, { load with
        target := load.target.insert idmef, insertions := load.insertions + 1 })
  else (1, load)

/-- The loop of `load_from_file`, with the value of `ret`. -/
def loadFromFile : List (Stored M) → Int → Load M → Int × Load M
  | file, ret, load =>
    if mishaps.signal load.tests then (ret, { load with tests := load.tests + 1 })
    else
      let load := { load with tests := load.tests + 1 }
      match file with
      | [] => (0, (doReadMessage options load none).2)
      | stored :: file =>
        match doReadMessage options load (some stored) with
        | (.failed error, load) => (error.code, load)
        | (.ended, load) => (0, load)
        | (.skipped, load) => loadFromFile file 1 load
        | (.message idmef, load) =>
            let (ret, load) := load.process options mishaps idmef
            if ret < 0 then (ret, load) else loadFromFile file ret (load.flush options 1)

/-- The loop of `cmd_load` over its files. -/
def loadFiles : List (List (Stored M)) → Int → Load M → Int × Load M
  | [], ret, load => (ret, load)
  | file :: files, _, load =>
      let (ret, load) :=
        loadFromFile options mishaps file 0 { load with offsetCopy := options.offset }
      if ret < 0 then (ret, load) else loadFiles files ret load

/-- `transaction_end`. -/
def Load.close (load : Load M) (ret : Int) : Load M :=
  if options.eventsPerTransaction > 1 then
    if ret < 0 then { load with target := load.target.abort }
    else { load with
      target := load.target.finish, curCount := load.curCount + load.eventNo }
  else load

/-- `cmd_load` behind the setup of its options. -/
def cmdLoad (files : List (List (Stored M))) (target : Target M) : Int × Load M :=
  let opened := if options.eventsPerTransaction > 1 then target.start else target
  let (ret, load) := loadFiles options mishaps files 0 ⟨opened, 0, 0, 0, [], 0, 0⟩
  (ret, load.close options ret)

end Functions

/-- Nothing happens to the command. -/
def noMishaps : Mishaps := ⟨fun _ => none, fun _ => false⟩

/--
On a single file of messages the command processes those from the offset on, at most as many
as the count, and leaves those of them that the criteria match in the database.
-/
def HonoursCount (options : LoadOptions M) (count : ℕ) (messages stored : List M) : Prop :=
  let load := (cmdLoad { options with limit := some count } noMishaps
    [messages.map .message] (.on stored)).2
  load.processed = (messages.drop options.offset).take count ∧
    load.processed.length ≤ count ∧
    load.target.committed =
      stored ++ ((messages.drop options.offset).take count).filter options.wants

section Counters

theorem flushed_at_multiple {size number : ℕ} (full : size ≤ number % size + 1)
    (positive : 0 < size) :
    number / size * size + (number % size + 1) = (number + 1) / size * size ∧
      (number + 1) % size = 0 := by
  have below := Nat.mod_lt number positive
  have split := Nat.div_add_mod number size
  have isMultiple : number + 1 = size * (number / size + 1) := by
    rw [Nat.mul_add, Nat.mul_one]
    omega
  rw [isMultiple, Nat.mul_div_cancel_left _ positive, Nat.mul_mod_right]
  refine ⟨?_, rfl⟩
  rw [Nat.mul_comm _ size, Nat.mul_comm _ size, ← isMultiple]
  omega

theorem kept_inside {size number : ℕ} (inside : number % size + 1 < size) :
    number / size = (number + 1) / size ∧ number % size + 1 = (number + 1) % size := by
  have split := Nat.div_add_mod number size
  have positive : 0 < size := by omega
  have next : number % size + 1 + size * (number / size) = number + 1 := by omega
  rcases (Nat.div_mod_unique positive).mpr ⟨next, inside⟩ with ⟨quotient, remainder⟩
  exact ⟨quotient.symm, remainder.symm⟩

end Counters

section Runs

variable {options : LoadOptions M} {stored : List M} {load : Load M}

/-- The counters and the database after the messages processed so far. -/
structure Counts (options : LoadOptions M) (stored : List M) (load : Load M) : Prop where
  curCount : load.curCount =
    load.processed.length / options.eventsPerTransaction * options.eventsPerTransaction
  eventNo : 0 < options.eventsPerTransaction →
    load.eventNo = load.processed.length % options.eventsPerTransaction
  kept : load.target.committed ++ load.target.pending =
    stored ++ load.processed.filter options.wants
  outside : load.target.inTransaction = false → load.target.pending = []
  never : options.eventsPerTransaction = 0 → load.target.inTransaction = false
  single : options.eventsPerTransaction = 1 → load.target.pending = []

theorem Target.insert_kept {target : Target M} (outside : target.inTransaction = false →
    target.pending = []) (idmef : M) :
    (target.insert idmef).committed ++ (target.insert idmef).pending =
      target.committed ++ target.pending ++ [idmef] := by
  rw [Target.insert]
  split
  · exact (List.append_assoc _ _ _).symm
  · next closed => simp [outside (Bool.eq_false_iff.mpr closed)]

theorem Target.insert_outside {target : Target M} (outside : target.inTransaction = false →
    target.pending = []) (idmef : M) :
    (target.insert idmef).inTransaction = target.inTransaction ∧
      (target.inTransaction = false → (target.insert idmef).pending = []) := by
  rw [Target.insert]
  split
  · next isOpen => exact ⟨rfl, fun closed => absurd (isOpen.symm.trans closed) nofun⟩
  · exact ⟨rfl, outside⟩

theorem Target.flushed {target : Target M} (outside : target.inTransaction = false →
    target.pending = []) :
    target.finish.start.committed = target.committed ++ target.pending ∧
      target.finish.start.pending = [] ∧ target.finish.start.inTransaction = true := by
  rw [Target.finish]
  split
  · exact ⟨rfl, rfl, rfl⟩
  · next closed =>
      have nothing := outside (Bool.eq_false_iff.mpr closed)
      simp [Target.start, closed, nothing]

theorem Load.process_quiet (options : LoadOptions M) (load : Load M) (idmef : M) :
    0 ≤ (load.process options noMishaps idmef).1 ∧
      (load.process options noMishaps idmef).2.target =
        (if options.wants idmef then load.target.insert idmef else load.target) ∧
      (load.process options noMishaps idmef).2.processed = load.processed ++ [idmef] ∧
      (load.process options noMishaps idmef).2.curCount = load.curCount ∧
      (load.process options noMishaps idmef).2.eventNo = load.eventNo ∧
      (load.process options noMishaps idmef).2.offsetCopy = load.offsetCopy := by
  rw [Load.process]
  split
  · exact ⟨Int.le_refl 0, rfl, rfl, rfl, rfl, rfl⟩
  · exact ⟨Int.one_nonneg, rfl, rfl, rfl, rfl, rfl⟩

theorem Counts.process (counts : Counts options stored load) (idmef : M) :
    Counts options stored ((load.process options noMishaps idmef).2.flush options 1) := by
  rcases load.process_quiet options idmef with
    ⟨_, isTarget, processed, curCount, eventNo, _⟩
  generalize (load.process options noMishaps idmef).2 = after at *
  have length : after.processed.length = load.processed.length + 1 := by
    rw [processed, List.length_append, List.length_singleton]
  have kept : after.target.committed ++ after.target.pending =
      stored ++ after.processed.filter options.wants := by
    rw [isTarget, processed, List.filter_append, ← List.append_assoc, ← counts.kept]
    split
    · next wanted => simp [Target.insert_kept counts.outside, wanted]
    · next unwanted => simp [unwanted]
  have outside : after.target.inTransaction = load.target.inTransaction ∧
      (load.target.inTransaction = false → after.target.pending = []) := by
    rw [isTarget]
    split
    · exact Target.insert_outside counts.outside idmef
    · exact ⟨rfl, counts.outside⟩
  have stillOutside : after.target.inTransaction = false → after.target.pending = [] :=
    fun closed => outside.2 (outside.1.symm.trans closed)
  rw [Load.flush]
  split
  · next none_ =>
      refine ⟨?_, fun some_ => absurd none_ (Nat.ne_of_gt some_), kept, stillOutside, ?_, ?_⟩
      · rw [curCount, counts.curCount, none_, Nat.mul_zero, Nat.mul_zero]
      · exact fun _ => outside.1.trans (counts.never none_)
      · exact fun one => absurd (none_.symm.trans one) Nat.zero_ne_one
  · next some_ =>
      have positive := Nat.pos_of_ne_zero some_
      have number := eventNo.trans (counts.eventNo positive)
      dsimp only
      split
      · next full =>
          have flushNow : options.eventsPerTransaction ≤
              load.processed.length % options.eventsPerTransaction + 1 := by omega
          rcases flushed_at_multiple flushNow positive with ⟨multiple, nothingLeft⟩
          rcases Target.flushed stillOutside with ⟨committed, pending, isOpen⟩
          refine ⟨?_, fun _ => ?_, ?_, fun _ => pending, fun none_ => absurd none_ some_,
            fun _ => pending⟩
          · rw [curCount, counts.curCount, number, length]
            exact multiple
          · rw [length, nothingLeft]
          · rw [pending, committed, List.append_nil, kept]
      · next notFull =>
          have inside : load.processed.length % options.eventsPerTransaction + 1 <
              options.eventsPerTransaction := by omega
          rcases kept_inside inside with ⟨quotient, remainder⟩
          refine ⟨?_, fun _ => ?_, kept, stillOutside, fun none_ => absurd none_ some_,
            fun one => ?_⟩
          · rw [curCount, counts.curCount, length, quotient]
          · rw [length, ← remainder, number]
          · rw [one] at inside
            omega

theorem flush_unread (options : LoadOptions M) (load : Load M) (increment : ℕ) :
    (load.flush options increment).processed = load.processed ∧
      (load.flush options increment).offsetCopy = load.offsetCopy := by
  rw [Load.flush]
  split
  · exact ⟨rfl, rfl⟩
  · dsimp only
    split <;> exact ⟨rfl, rfl⟩

/-- How many more of the messages are processed behind a number of others. -/
structure Stops (options : LoadOptions M) (number available more : ℕ) : Prop where
  bound : more ≤ available
  before : ∀ earlier < more, ¬ options.Reached
    ((number + earlier) / options.eventsPerTransaction * options.eventsPerTransaction)
  ended : more = available ∨ options.Reached
    ((number + more) / options.eventsPerTransaction * options.eventsPerTransaction)

theorem Stops.next {number available more : ℕ} (stops : Stops options (number + 1) available more)
    (goesOn : ¬ options.Reached
      (number / options.eventsPerTransaction * options.eventsPerTransaction)) :
    Stops options number (available + 1) (more + 1) := by
  have shift : ∀ later, number + 1 + later = number + (later + 1) := fun later => by omega
  refine ⟨Nat.succ_le_succ stops.bound, ?_, ?_⟩
  · intro earlier below
    cases earlier with
    | zero => exact goesOn
    | succ earlier =>
        rw [← shift]
        exact stops.before earlier (Nat.lt_of_succ_lt_succ below)
  · rw [← shift]
    exact stops.ended.imp (congrArg (· + 1)) id

theorem not_signal (tests : ℕ) : ¬ noMishaps.signal tests = true := Bool.false_ne_true

section Steps

variable (idmef : M) (file : List (Stored M)) (ret : Int)

theorem loadFromFile_skipped (skipping : load.offsetCopy > 0) :
    loadFromFile options noMishaps (.message idmef :: file) ret load =
      loadFromFile options noMishaps file 1
        { load with tests := load.tests + 1, offsetCopy := load.offsetCopy - 1 } := by
  rw [loadFromFile, if_neg (not_signal _)]
  simp only [doReadMessage, if_pos skipping]

theorem loadFromFile_reached (behind : ¬ load.offsetCopy > 0)
    (reached : options.Reached load.curCount) :
    loadFromFile options noMishaps (.message idmef :: file) ret load =
      (0, { load with tests := load.tests + 1 }) := by
  rw [loadFromFile, if_neg (not_signal _)]
  simp only [doReadMessage, if_neg behind, if_pos reached]

theorem loadFromFile_processed (behind : ¬ load.offsetCopy > 0)
    (goesOn : ¬ options.Reached load.curCount) :
    let processed := { load with tests := load.tests + 1 }.process options noMishaps idmef
    loadFromFile options noMishaps (.message idmef :: file) ret load =
      loadFromFile options noMishaps file processed.1 (processed.2.flush options 1) := by
  have succeeded := ({ load with tests := load.tests + 1 }.process_quiet options idmef).1
  rw [loadFromFile, if_neg (not_signal _)]
  simp only [doReadMessage, if_neg behind, if_neg goesOn]
  rw [if_neg (Int.not_lt.mpr succeeded)]

end Steps

/-- The loop over the messages of a file, of which those up to the offset are skipped. -/
theorem loadFromFile_messages (messages : List M) (ret : Int) (nonnegative : 0 ≤ ret)
    (counts : Counts options stored load) :
    let result := loadFromFile options noMishaps (messages.map .message) ret load
    0 ≤ result.1 ∧ Counts options stored result.2 ∧
      ∃ more, Stops options load.processed.length (messages.drop load.offsetCopy).length more ∧
        result.2.processed = load.processed ++ (messages.drop load.offsetCopy).take more := by
  induction messages generalizing ret load with
  | nil =>
      rw [List.drop_nil]
      refine ⟨Int.le_refl 0, ?_, 0, ⟨Nat.le_refl 0, nofun, .inl rfl⟩, ?_⟩
      · exact ⟨counts.curCount, counts.eventNo, counts.kept, counts.outside, counts.never,
          counts.single⟩
      · exact (List.append_nil _).symm
  | cons idmef messages ih =>
      let tested : Load M := { load with tests := load.tests + 1 }
      have testedCounts : Counts options stored tested :=
        ⟨counts.curCount, counts.eventNo, counts.kept, counts.outside, counts.never,
          counts.single⟩
      by_cases skipping : load.offsetCopy > 0
      · let skipped : Load M := { tested with offsetCopy := load.offsetCopy - 1 }
        have step : loadFromFile options noMishaps ((idmef :: messages).map .message) ret load =
            loadFromFile options noMishaps (messages.map .message) 1 skipped := by
          rw [List.map_cons, loadFromFile_skipped _ _ _ skipping]
        have skippedCounts : Counts options stored skipped :=
          ⟨counts.curCount, counts.eventNo, counts.kept, counts.outside, counts.never,
            counts.single⟩
        have rest := ih 1 Int.one_nonneg skippedCounts
        have offset : (idmef :: messages).drop load.offsetCopy =
            messages.drop skipped.offsetCopy := by
          rw [← Nat.succ_pred_eq_of_pos skipping, List.drop_succ_cons]
          rfl
        rw [step, offset]
        exact rest
      · have noOffset : load.offsetCopy = 0 := by omega
        rw [noOffset, List.drop_zero]
        by_cases reached : options.Reached load.curCount
        · have step : loadFromFile options noMishaps ((idmef :: messages).map .message) ret load =
              (0, tested) := by
            rw [List.map_cons, loadFromFile_reached _ _ _ skipping reached]
          rw [step]
          refine ⟨Int.le_refl 0, testedCounts, 0, ⟨Nat.zero_le _, nofun, .inr ?_⟩, ?_⟩
          · rw [Nat.add_zero, ← counts.curCount]
            exact reached
          · exact (List.append_nil _).symm
        · rcases tested.process_quiet options idmef with
            ⟨succeeded, _, processed, _, _, offsetCopy⟩
          have step : loadFromFile options noMishaps ((idmef :: messages).map .message) ret load =
              loadFromFile options noMishaps (messages.map .message)
                (tested.process options noMishaps idmef).1
                ((tested.process options noMishaps idmef).2.flush options 1) := by
            rw [List.map_cons, loadFromFile_processed _ _ _ skipping reached]
          rcases flush_unread options (tested.process options noMishaps idmef).2 1 with
            ⟨sameProcessed, sameOffset⟩
          rw [processed] at sameProcessed
          rw [offsetCopy] at sameOffset
          rcases ih _ succeeded (testedCounts.process idmef) with
            ⟨nonnegative, finalCounts, more, stops, final⟩
          rw [sameOffset, sameProcessed] at final stops
          have noneSkipped : tested.offsetCopy = 0 := noOffset
          rw [noneSkipped, List.drop_zero] at final stops
          rw [List.length_append, List.length_singleton] at stops
          rw [counts.curCount] at reached
          rw [step]
          refine ⟨nonnegative, finalCounts, more + 1, stops.next reached, ?_⟩
          rw [final, List.take_succ_cons, List.append_assoc]
          rfl

theorem counts_opened (options : LoadOptions M) (stored : List M) (offset : ℕ) :
    Counts options stored
      ⟨if options.eventsPerTransaction > 1 then (Target.on stored).start else .on stored,
        0, 0, offset, [], 0, 0⟩ := by
  refine ⟨by simp, fun _ => (Nat.zero_mod _).symm, ?_, ?_, ?_, ?_⟩
  · split <;> rfl
  · split <;> exact fun _ => rfl
  · intro none_
    rw [if_neg (by omega)]
    rfl
  · intro one
    rw [if_neg (by omega)]
    rfl

theorem Counts.close (counts : Counts options stored load) {ret : Int} (succeeded : 0 ≤ ret) :
    (load.close options ret).target.committed =
        stored ++ load.processed.filter options.wants ∧
      (load.close options ret).processed = load.processed := by
  have all := counts.kept
  rw [Load.close]
  split
  · rw [if_neg (Int.not_lt.mpr succeeded)]
    refine ⟨?_, rfl⟩
    rw [← all, Target.finish]
    split
    · rfl
    · next closed => simp [counts.outside (Bool.eq_false_iff.mpr closed)]
  · next few =>
      refine ⟨?_, rfl⟩
      rcases Nat.le_one_iff_eq_zero_or_eq_one.mp (Nat.not_lt.mp few) with none_ | one
      · rw [counts.outside (counts.never none_), List.append_nil] at all
        exact all
      · rw [counts.single one, List.append_nil] at all
        exact all

theorem cmdLoad_messages (options : LoadOptions M) (messages stored : List M) :
    let load := (cmdLoad options noMishaps [messages.map .message] (.on stored)).2
    load.target.committed = stored ++ load.processed.filter options.wants ∧
      ∃ more, Stops options 0 (messages.drop options.offset).length more ∧
        load.processed = (messages.drop options.offset).take more := by
  rcases loadFromFile_messages messages 0 (Int.le_refl 0)
    (counts_opened options stored options.offset) with ⟨succeeded, counts, more, stops, final⟩
  have notFailed := Int.not_lt.mpr succeeded
  simp only [cmdLoad, loadFiles, if_neg notFailed]
  rcases counts.close succeeded with ⟨committed, processed⟩
  refine ⟨?_, more, stops, processed.trans final⟩
  rw [processed]
  exact committed

/-- The number of processed messages is the count exactly if this is a number of transactions. -/
theorem Stops.take_eq_iff {limited : LoadOptions M} {count : ℕ} {available : List M} {more : ℕ}
    (isLimit : limited.limit = some count) (stops : Stops limited 0 available.length more) :
    available.take more = available.take count ↔
      limited.eventsPerTransaction ∣ count ∨ available.length ≤ count := by
  have reached : ∀ number, limited.Reached number ↔ count ≤ number := by
    intro number
    simp [LoadOptions.Reached, isLimit]
  have whole : ∀ number, number / limited.eventsPerTransaction * limited.eventsPerTransaction ≤
      number := fun number => Nat.div_mul_le_self number _
  have before := stops.before
  have ended := stops.ended
  have bound := stops.bound
  simp only [Nat.zero_add, reached] at before ended
  constructor
  · intro same
    have lengths := congrArg List.length same
    simp only [List.length_take] at lengths
    rcases ended with all | enough
    · right
      omega
    · have atLeast := Nat.le_trans enough (whole more)
      by_cases within : available.length ≤ count
      · exact .inr within
      · left
        have equal : more = count := by omega
        rw [equal] at enough
        exact ⟨count / limited.eventsPerTransaction, by
          rw [Nat.mul_comm]
          exact Nat.le_antisymm enough (whole count)⟩
  · intro fits
    have notBeyond : available.length ≤ count ∨ more ≤ count := by
      rcases fits with ⟨transactions, rfl⟩ | within
      · right
        by_contra beyond
        have notReached := before _ (Nat.not_le.mp beyond)
        rcases Nat.eq_zero_or_pos limited.eventsPerTransaction with none_ | positive
        · rw [none_] at notReached
          simp at notReached
        · rw [Nat.mul_div_cancel_left _ positive, Nat.mul_comm] at notReached
          exact notReached (Nat.le_refl _)
      · exact .inl within
    rcases ended with all | enough
    · rw [all, List.take_length, List.take_of_length_le]
      omega
    · have atLeast := Nat.le_trans enough (whole more)
      rcases notBeyond with within | notMore
      · rw [List.take_of_length_le, List.take_of_length_le within]
        omega
      · rw [Nat.le_antisymm notMore atLeast]

/-- The count is honoured exactly if it is a number of whole transactions or exceeds the file. -/
theorem honoursCount_iff (options : LoadOptions M) (count : ℕ) (messages stored : List M) :
    HonoursCount options count messages stored ↔
      options.eventsPerTransaction ∣ count ∨ messages.length ≤ options.offset + count := by
  rcases cmdLoad_messages { options with limit := some count } messages stored with
    ⟨committed, more, stops, processed⟩
  have sameWindow := Stops.take_eq_iff rfl stops
  have within : (messages.drop options.offset).length ≤ count ↔
      messages.length ≤ options.offset + count := by
    rw [List.length_drop]
    omega
  rw [← within, ← sameWindow, HonoursCount]
  dsimp only at committed processed ⊢
  rw [committed, processed]
  constructor
  · exact fun honours => honours.1
  · intro same
    refine ⟨same, ?_, ?_⟩
    · rw [same]
      exact List.length_take_le count _
    · rw [same]
      rfl

/-- With 1000 messages for a transaction `--count 1` loads a file of two. -/
theorem not_honoursCount :
    ¬ ∀ (options : LoadOptions ℕ) (count : ℕ) (messages stored : List ℕ),
      HonoursCount options count messages stored := by
  intro honours
  have one := (honours ⟨1000, 0, none, none⟩ 1 [4, 7] []).2.1
  exact absurd one (by decide +kernel)

end Runs

end RequiemDB.Admin
