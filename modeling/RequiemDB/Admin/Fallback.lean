import Mathlib.Data.List.Nodup
import Mathlib.Data.List.Perm.Subperm
import RequiemDB.Admin.Save

/-!
# When every message is saved once

As long as no message fails, the queries of `cmd_save` follow each other like those of a
copy. Behind the first batch with a failure the offset falls back by the number of
failures. Without a limit the loop then writes a message again or never ends; with a limit
everything is decided by the batch with the failure and the two batches behind it.
-/

namespace RequiemDB.Admin

open Lib

variable {M : Type}

/-- The command ends by itself with the result. -/
def SaveEnds (flaws : Nat → Option Flaw) (options : Options) (limit : Int) (state : Saving M)
    (result : (Int × Counters) × Saving M) : Prop :=
  ∃ enough, ∀ rounds ≥ enough,
    (cmdSave options rounds limit).run (saving flaws) state = result

/-- The command ends, writes no message twice and every requested one that can be written. -/
def SavesOnce (flaws : Nat → Option Flaw) (options : Options) (limit : Int)
    (source : List (Nat × M)) : Prop :=
  ∃ result, SaveEnds flaws options limit ⟨source, [], 0⟩ result ∧ result.2.written.Nodup ∧
    ∀ entry ∈ requested options limit source, flaws entry.1 = none → entry.1 ∈ result.2.written

section Fallback

variable (flaws : Nat → Option Flaw) (options : Options) (limit : Int) (source : List (Nat × M))

/-- The requested messages in front of the first batch in which one fails. -/
def beforeFailure : Nat :=
  (requested options limit source).findIdx (fun entry => (flaws entry.1).isSome) /
    options.eventsPerTransaction * options.eventsPerTransaction

/-- The messages at an offset behind the one of the command. -/
def messagesAt (start size : Nat) : List (Nat × M) :=
  (source.drop (options.offset.toNat + start)).take (min options.eventsPerTransaction size)

/-- The first batch in which a message fails. -/
def firstBatch : List (Nat × M) :=
  messagesAt options source (beforeFailure flaws options limit source)
    (limit.toNat - beforeFailure flaws options limit source)

/-- The batch behind it, for which the offset has moved on by the messages written only. -/
def secondBatch : List (Nat × M) :=
  let first := firstBatch flaws options limit source
  messagesAt options source
    (beforeFailure flaws options limit source + (savable flaws first).length)
    (limit.toNat - beforeFailure flaws options limit source - first.length)

/-- The third batch. -/
def thirdBatch : List (Nat × M) :=
  let first := firstBatch flaws options limit source
  let second := secondBatch flaws options limit source
  messagesAt options source
    (beforeFailure flaws options limit source + (savable flaws first).length +
      (savable flaws second).length)
    (limit.toNat - beforeFailure flaws options limit source - first.length - second.length)

/-- The offset falls back behind a failure, and nothing comes of it. -/
structure FallsBackSafely : Prop where
  limited : 0 ≤ limit
  repeats : ∀ entry ∈ secondBatch flaws options limit source,
    entry ∈ firstBatch flaws options limit source → flaws entry.1 ≠ none
  missed : ∀ entry ∈ (requested options limit source).drop
      (beforeFailure flaws options limit source),
    entry ∉ firstBatch flaws options limit source →
    entry ∉ secondBatch flaws options limit source → flaws entry.1 ≠ none
  third : ∀ entry ∈ thirdBatch flaws options limit source, flaws entry.1 ≠ none

/-- No requested message fails, or the failures do no harm. -/
def FailsSafely : Prop :=
  (∀ entry ∈ requested options limit source, flaws entry.1 = none) ∨
    FallsBackSafely flaws options limit source

end Fallback

section Clean

variable {flaws : Nat → Option Flaw} {options : Options} {limit : Int}
  {source done todo front rest : List (Nat × M)} {counters : Counters} {state result : Saving M}

/-- Behind rounds in which no message has failed. -/
structure Clean (options : Options) (limit : Int) (source done todo : List (Nat × M))
    (counters : Counters) (state : Saving M) : Prop where
  isSource : state.source = source
  whole : requested options limit source = done ++ todo
  counted : counters.curCount = done.length
  limited : counters.limitCopy = if limit < 0 then limit else limit - done.length
  written : state.written = done.map Prod.fst

theorem savable_append (flaws : Nat → Option Flaw) (left right : List (Nat × M)) :
    savable flaws (left ++ right) = savable flaws left ++ savable flaws right :=
  List.filter_append _ _

theorem savable_eq_self (none_ : ∀ entry ∈ todo, flaws entry.1 = none) :
    savable flaws todo = todo :=
  List.filter_eq_self.mpr fun entry present => by simpa using none_ entry present

theorem Clean.nextBatch_eq (clean : Clean options limit source done todo counters state)
    (copies : options.deleteCopied = false) (inRange : InRange options source)
    (distinct : (source.map Prod.fst).Nodup) :
    nextBatch options counters state.source = todo.take options.eventsPerTransaction := by
  have next := Admin.nextBatch_eq inRange distinct clean.whole clean.counted clean.limited
  rw [remaining, copies] at next
  rw [clean.isSource]
  exact next

theorem Clean.step (clean : Clean options limit source done (front ++ rest) counters state)
    (isBatch : nextBatch options counters state.source = front)
    (some_ : front ≠ []) (none_ : ∀ entry ∈ front, flaws entry.1 = none) :
    Clean options limit source (done ++ front) rest
      (savedCounters flaws options counters state.source) (state.saved flaws options counters) where
  isSource := clean.isSource
  whole := by rw [clean.whole, List.append_assoc]
  counted := by
    rw [savedCounters, isBatch, savable_eq_self none_, List.length_append, clean.counted]
  limited := by
    have limited := clean.limited
    rcases requested_split clean.whole with ⟨beyond, _, inLimit⟩
    rw [savedCounters, isBatch, List.length_append]
    show (counters.charged front.length).limitCopy = _
    have nonempty := List.length_pos_iff.mpr some_
    rw [Counters.charged]
    by_cases unlimited : limit < 0
    · rw [if_pos unlimited] at limited ⊢
      have noLimit : ¬ counters.limitCopy > 0 := by omega
      rw [if_neg noLimit, limited]
    · rw [if_neg unlimited] at limited inLimit ⊢
      have length := congrArg List.length inLimit.2
      rw [List.length_take, List.length_append, List.length_append] at length
      have hasLimit : counters.limitCopy > 0 := by omega
      rw [if_pos hasLimit]
      show counters.limitCopy - (front.length : Int) = _
      omega
  written := by
    rw [Saving.saved, isBatch, savable_eq_self none_, List.map_append, ← clean.written]

theorem Clean.batches (copies : options.deleteCopied = false) (inRange : InRange options source)
    (distinct : (source.map Prod.fst).Nodup)
    (clean : Clean options limit source done (front ++ rest) counters state)
    (none_ : ∀ entry ∈ front, flaws entry.1 = none) {batches : Nat}
    (whole : front.length = batches * options.eventsPerTransaction) :
    ∃ after afterwards, Clean options limit source (done ++ front) rest after afterwards ∧
      ∀ result, Finishes flaws options counters state result ↔
        Finishes flaws options after afterwards result := by
  induction batches generalizing done front counters state with
  | zero =>
      have empty : front = [] := List.length_eq_zero_iff.mp (by simpa using whole)
      subst empty
      rw [List.append_nil]
      exact ⟨counters, state, clean, fun _ => Iff.rfl⟩
  | succ batches ih =>
      have length : options.eventsPerTransaction ≤ front.length := by
        rw [whole, Nat.succ_mul]
        exact Nat.le_add_left _ _
      have next := clean.nextBatch_eq copies inRange distinct
      rw [List.take_append_of_le_length length] at next
      have some_ : front.take options.eventsPerTransaction ≠ [] := by
        have positive := inRange.positive
        apply List.ne_nil_of_length_pos
        rw [List.length_take]
        omega
      have cut := clean
      rw [← List.take_append_drop options.eventsPerTransaction front, List.append_assoc] at cut
      have stepped := cut.step next some_ fun entry present =>
        none_ entry (List.mem_of_mem_take present)
      have shorter : (front.drop options.eventsPerTransaction).length =
          batches * options.eventsPerTransaction := by
        rw [List.length_drop, whole, Nat.succ_mul, Nat.add_sub_cancel]
      rcases ih stepped (fun entry present => none_ entry (List.mem_of_mem_drop present)) shorter
        with ⟨after, afterwards, behind, same⟩
      rw [List.append_assoc, List.take_append_drop] at behind
      refine ⟨after, afterwards, behind, fun result => ?_⟩
      rw [Finishes.next_iff (next ▸ some_)]
      exact same result

/-- Without a failure the loop ends with the whole window in the file. -/
theorem Clean.finishes (copies : options.deleteCopied = false) (inRange : InRange options source)
    (distinct : (source.map Prod.fst).Nodup)
    (clean : Clean options limit source done todo counters state)
    (none_ : ∀ entry ∈ todo, flaws entry.1 = none) :
    ∃ result, Finishes flaws options counters state result ∧
      result.written = (done ++ todo).map Prod.fst := by
  induction size : todo.length using Nat.strongRecOn generalizing done todo counters state with
  | ind length ih =>
      subst size
      have next := clean.nextBatch_eq copies inRange distinct
      by_cases nothing : todo = []
      · subst nothing
        refine ⟨_, .last (next.trans List.take_nil), ?_⟩
        rw [List.append_nil]
        exact clean.written
      · have positive := inRange.positive
        have nonempty := List.length_pos_iff.mpr nothing
        have some_ : todo.take options.eventsPerTransaction ≠ [] := by
          apply List.ne_nil_of_length_pos
          rw [List.length_take]
          omega
        have shorter : (todo.drop options.eventsPerTransaction).length < todo.length := by
          rw [List.length_drop]
          omega
        have cut := clean
        rw [← List.take_append_drop options.eventsPerTransaction todo] at cut
        have stepped := cut.step next some_ fun entry present =>
          none_ entry (List.mem_of_mem_take present)
        rcases ih _ shorter stepped (fun entry present =>
          none_ entry (List.mem_of_mem_drop present)) rfl with ⟨result, later, written⟩
        refine ⟨result, .next (next ▸ some_) later, ?_⟩
        rw [written, List.append_assoc, List.take_append_drop]

end Clean

section At

variable {flaws : Nat → Option Flaw} {options : Options} {source : List (Nat × M)}
  {counters : Counters} {state : Saving M} {cur size : Nat}

/-- At the head of a round, with an offset behind that of the command and a limit. -/
structure At (options : Options) (source : List (Nat × M)) (cur size : Nat) (counters : Counters)
    (state : Saving M) : Prop where
  isSource : state.source = source
  counted : counters.curCount = cur
  limited : counters.limitCopy = size
  inside : cur ≤ (source.drop options.offset.toNat).length

theorem At.nextBatch_eq (here : At options source cur size counters state)
    (copies : options.deleteCopied = false) (inRange : InRange options source) :
    nextBatch options counters state.source = messagesAt options source cur size := by
  rcases inRange with ⟨_, events, offset, ends⟩
  have inside := here.inside
  rw [List.length_drop] at inside
  have notNegative : ¬ (size : Int) < 0 := by omega
  have sizes : min (options.eventsPerTransaction : Int) size =
      (min options.eventsPerTransaction size : Nat) := by omega
  rw [nextBatch, window, here.limited, here.counted, here.isSource, copies, if_neg notNegative,
    sizes, toCInt_of_range offset (by omega)]
  have start : toCInt (options.offset + (if false then 0 else cur : Nat)) =
      (options.offset.toNat + cur : Nat) := by
    rw [if_neg Bool.false_ne_true, toCInt_of_range (by omega) (by omega)]
    omega
  have count : toCInt (min options.eventsPerTransaction size : Nat) =
      (min options.eventsPerTransaction size : Nat) := toCInt_of_range (by omega) (by omega)
  rw [start, count, if_neg (by omega), Int.toNat_natCast, Int.toNat_natCast, messagesAt]

theorem getElem?_messagesAt {position : Nat} {entry : Nat × M}
    (found : (messagesAt options source cur size)[position]? = some entry) :
    (source.drop options.offset.toNat)[cur + position]? = some entry := by
  rw [messagesAt, List.getElem?_take] at found
  split at found
  · rwa [← List.drop_drop, List.getElem?_drop] at found
  · exact absurd found (by simp)

theorem mem_messagesAt {entry : Nat × M} :
    entry ∈ messagesAt options source cur size ↔
      ∃ position < min options.eventsPerTransaction size,
        (source.drop options.offset.toNat)[cur + position]? = some entry := by
  constructor
  · intro present
    rcases List.mem_iff_getElem?.mp present with ⟨position, found⟩
    have within := (List.getElem?_eq_some_iff.mp found).1
    rw [messagesAt, List.length_take] at within
    exact ⟨position, by omega, getElem?_messagesAt found⟩
  · rintro ⟨position, within, found⟩
    apply List.mem_iff_getElem?.mpr
    refine ⟨position, ?_⟩
    rw [messagesAt, List.getElem?_take, if_pos within, ← List.drop_drop, List.getElem?_drop]
    exact found

theorem length_messagesAt (options : Options) (source : List (Nat × M)) (cur size : Nat) :
    (messagesAt options source cur size).length =
      min (min options.eventsPerTransaction size)
        ((source.drop options.offset.toNat).length - cur) := by
  rw [messagesAt, List.length_take, ← List.drop_drop, List.length_drop]

theorem messagesAt_subset {smaller : Nat} (less : smaller ≤ size) :
    messagesAt options source cur smaller ⊆ messagesAt options source cur size := by
  apply List.take_subset_take_left
  omega

/-- The round behind, or the same one where the loop ends. -/
theorem At.follow (flaws : Nat → Option Flaw) (here : At options source cur size counters state)
    (copies : options.deleteCopied = false) (inRange : InRange options source)
    {batch : List (Nat × M)} (isBatch : messagesAt options source cur size = batch) :
    ∃ after afterwards,
      At options source (cur + (savable flaws batch).length) (size - batch.length) after
        afterwards ∧
      afterwards.written = state.written ++ (savable flaws batch).map Prod.fst ∧
      ∀ result, Finishes flaws options counters state result ↔
        Finishes flaws options after afterwards result := by
  have next := here.nextBatch_eq copies inRange
  rw [isBatch] at next
  by_cases nothing : batch = []
  · subst nothing
    exact ⟨counters, state, here, (List.append_nil _).symm, fun _ => Iff.rfl⟩
  · have length := length_messagesAt options source cur size
    have nonempty := List.length_pos_iff.mpr nothing
    have savables : (savable flaws batch).length ≤ batch.length := List.length_filter_le _ _
    rw [isBatch] at length
    refine ⟨_, _, ?_, ?_, fun result => Finishes.next_iff (next ▸ nothing)⟩
    · refine ⟨here.isSource, ?_, ?_, ?_⟩
      · rw [savedCounters, next, here.counted]
      · have limited := here.limited
        rw [savedCounters, next]
        show (counters.charged batch.length).limitCopy = _
        rw [Counters.charged, if_pos (by omega)]
        show counters.limitCopy - (batch.length : Int) = _
        omega
      · have inside := here.inside
        omega
    · rw [Saving.saved, next]

/-- A loop whose batches cannot be written ends without another message in the file. -/
theorem At.finishes_failing (here : At options source cur size counters state)
    (copies : options.deleteCopied = false) (inRange : InRange options source)
    (fail : ∀ entry ∈ messagesAt options source cur size, flaws entry.1 ≠ none) :
    ∃ result, Finishes flaws options counters state result ∧ result.written = state.written := by
  induction size using Nat.strongRecOn generalizing counters state with
  | ind size ih =>
      have next := here.nextBatch_eq copies inRange
      have none_ : savable flaws (messagesAt options source cur size) = [] :=
        List.filter_eq_nil_iff.mpr fun entry present => by simpa using fail entry present
      by_cases nothing : messagesAt options source cur size = []
      · exact ⟨_, .last (next.trans nothing), rfl⟩
      · rcases here.follow flaws copies inRange rfl with
          ⟨after, afterwards, behind, written, same⟩
        rw [none_, List.length_nil, Nat.add_zero] at behind
        rw [none_, List.map_nil, List.append_nil] at written
        have length := length_messagesAt options source cur size
        have nonempty := List.length_pos_iff.mpr nothing
        rcases ih _ (by omega) behind fun entry present =>
          fail entry (messagesAt_subset (Nat.sub_le _ _) present) with ⟨result, finishes, kept⟩
        exact ⟨result, (same result).mpr finishes, kept.trans written⟩

end At

section Three

variable {flaws : Nat → Option Flaw} {options : Options} {source : List (Nat × M)}
  {cur first second size : Nat}

/-- Where all messages behind as many as are written fail, those in front of them are written. -/
theorem savable_take {messages : List (Nat × M)}
    (tail : savable flaws (messages.drop (savable flaws messages).length) = []) :
    ∀ entry ∈ messages.take (savable flaws messages).length, flaws entry.1 = none := by
  have counts : (savable flaws (messages.take (savable flaws messages).length)).length =
      (savable flaws messages).length := by
    have both := savable_append flaws (messages.take (savable flaws messages).length)
      (messages.drop (savable flaws messages).length)
    rw [tail, List.append_nil, List.take_append_drop] at both
    exact congrArg List.length both.symm
  have length : (messages.take (savable flaws messages).length).length =
      (savable flaws messages).length :=
    List.length_take_of_le (List.length_filter_le _ _)
  intro entry present
  have whole := List.length_filter_eq_length_iff.mp (counts.trans length.symm) entry present
  simpa using whole

/--
If nothing of the third batch is written twice, nothing of it is written. The third batch
begins where the messages that the second one wrote would end if it had written its first
ones, but these belong to the first batch too.
-/
theorem third_fails {firsts seconds thirds : List (Nat × M)}
    (isFirst : firsts = messagesAt options source cur size)
    (isSecond : seconds = messagesAt options source (cur + (savable flaws firsts).length)
      (size - firsts.length))
    (isThird : thirds = messagesAt options source
      (cur + (savable flaws firsts).length + (savable flaws seconds).length)
      (size - firsts.length - seconds.length))
    (flawed : (savable flaws firsts).length < firsts.length)
    (onceSecond : ∀ entry ∈ seconds, entry ∈ firsts → flaws entry.1 ≠ none)
    (onceThird : ∀ entry ∈ thirds, entry ∈ firsts ∨ entry ∈ seconds → flaws entry.1 ≠ none) :
    ∀ entry ∈ thirds, flaws entry.1 ≠ none := by
  have lengthSecond := length_messagesAt options source (cur + (savable flaws firsts).length)
    (size - firsts.length)
  have lengthFirst := length_messagesAt options source cur size
  have atSecond : ∀ (position : Nat) (other : Nat × M), seconds[position]? = some other →
      (source.drop options.offset.toNat)[cur + (savable flaws firsts).length + position]? =
        some other := by
    intro position other found
    rw [isSecond] at found
    exact getElem?_messagesAt found
  rw [← isFirst] at lengthFirst
  rw [← isSecond] at lengthSecond
  intro entry inThird isSavable
  have found := inThird
  rw [isThird, mem_messagesAt] at found
  rcases found with ⟨position, inside, found⟩
  have inSource := (List.getElem?_eq_some_iff.mp found).1
  have beyond : seconds.length ≤ (savable flaws seconds).length + position := by
    by_contra within
    have inSecond : entry ∈ seconds := by
      rw [isSecond, mem_messagesAt]
      exact ⟨(savable flaws seconds).length + position, by omega, by rw [← Nat.add_assoc, found]⟩
    exact onceThird entry inThird (.inr inSecond) isSavable
  -- behind the place where the third batch begins nothing of the second one was written
  have tail : savable flaws (seconds.drop (savable flaws seconds).length) = [] := by
    refine List.filter_eq_nil_iff.mpr fun other present => ?_
    have inSecond := List.mem_of_mem_drop present
    rcases List.mem_iff_getElem?.mp present with ⟨offset, at_⟩
    rw [List.getElem?_drop] at at_
    have within := (List.getElem?_eq_some_iff.mp at_).1
    have alsoThird : other ∈ thirds := by
      rw [isThird, mem_messagesAt]
      refine ⟨offset, by omega, ?_⟩
      rw [Nat.add_assoc]
      exact atSecond _ other at_
    simpa using onceThird other alsoThird (.inr inSecond)
  by_cases nothing : (savable flaws seconds).length = 0
  · omega
  · -- the first message of the second batch was written, but the first batch has it too
    have nonempty : 0 < seconds.length := by omega
    have isHead : seconds[0]? = some seconds[0] := List.getElem?_eq_getElem nonempty
    have inTake : seconds[0] ∈ seconds.take (savable flaws seconds).length := by
      apply List.mem_iff_getElem?.mpr
      exact ⟨0, by rw [List.getElem?_take, if_pos (by omega), isHead]⟩
    have inFirst : seconds[0] ∈ firsts := by
      rw [isFirst, mem_messagesAt]
      exact ⟨(savable flaws firsts).length, by omega, atSecond 0 _ isHead⟩
    exact onceSecond _ (List.getElem_mem nonempty) inFirst (savable_take tail _ inTake)

end Three

section Unlimited

variable {flaws : Nat → Option Flaw} {options : Options} {source : List (Nat × M)}
  {counters : Counters} {state result : Saving M}

/-- Without a limit the loop ends behind the last message only, so each has been written. -/
theorem Finishes.unlimited (copies : options.deleteCopied = false)
    (inRange : InRange options source) (distinct : (source.map Prod.fst).Nodup)
    (finishes : Finishes flaws options counters state result) (isSource : state.source = source)
    (unlimited : counters.limitCopy < 0) (counted : counters.curCount = state.written.length)
    (among : state.written ⊆
      (savable flaws (source.drop options.offset.toNat)).map Prod.fst)
    (once : result.written.Nodup) :
    ∀ entry ∈ source.drop options.offset.toNat, flaws entry.1 = none := by
  have formula : ∀ {counters : Counters} {state : Saving M}, state.source = source →
      counters.limitCopy < 0 → counters.curCount = state.written.length →
      state.written ⊆ (savable flaws (source.drop options.offset.toNat)).map Prod.fst →
      state.written.Nodup →
      state.written.length ≤ (savable flaws (source.drop options.offset.toNat)).length ∧
      nextBatch options counters state.source =
        ((source.drop options.offset.toNat).drop counters.curCount).take
          options.eventsPerTransaction := by
    intro counters state isSource unlimited counted among once
    have length := (List.subperm_of_subset once among).length_le
    rw [List.length_map] at length
    have inside := List.length_filter_le (fun entry => decide (flaws entry.1 = none))
      (source.drop options.offset.toNat)
    refine ⟨length, ?_⟩
    have whole : requested options counters.limitCopy source =
        (source.drop options.offset.toNat).take counters.curCount ++
          (source.drop options.offset.toNat).drop counters.curCount := by
      rw [requested, window, if_pos unlimited, List.take_append_drop]
    have behind : counters.curCount =
        ((source.drop options.offset.toNat).take counters.curCount).length := by
      rw [savable] at length
      rw [List.length_take]
      omega
    have next := Admin.nextBatch_eq inRange distinct whole behind (if_pos unlimited).symm
    rw [remaining, copies] at next
    rw [isSource]
    exact next
  induction finishes with
  | @last counters state nothing =>
      rcases formula isSource unlimited counted among once with ⟨length, next⟩
      rw [nothing, eq_comm, List.take_eq_nil_iff, List.drop_eq_nil_iff] at next
      have positive := inRange.positive
      have inside := List.length_filter_le (fun entry => decide (flaws entry.1 = none))
        (source.drop options.offset.toNat)
      rw [savable] at length
      have whole := List.length_filter_eq_length_iff.mp (Nat.le_antisymm inside (by omega))
      exact fun entry present => by simpa using whole entry present
  | @next counters state result some_ later ih =>
      rcases formula isSource unlimited counted among
        (once.sublist (Finishes.next some_ later).grows.sublist) with ⟨_, next⟩
      refine ih isSource ?_ ?_ ?_ once
      · have noLimit : ¬ counters.limitCopy > 0 := by omega
        rw [savedCounters, Counters.charged, if_neg noLimit]
        exact unlimited
      · rw [savedCounters, Saving.saved, List.length_append, List.length_map, counted]
      · rw [Saving.saved, next]
        refine List.append_subset.mpr ⟨among, List.map_subset _ ?_⟩
        exact (((List.take_sublist _ _).trans (List.drop_sublist _ _)).filter _).subset

end Unlimited

section Limited

variable {flaws : Nat → Option Flaw} {options : Options} {limit : Int} {source : List (Nat × M)}
  {done todo : List (Nat × M)} {counters : Counters} {state result : Saving M}

/-- At the first batch with a failure, behind the messages `done`. -/
structure AtFailure (flaws : Nat → Option Flaw) (options : Options) (limit : Int)
    (source done todo : List (Nat × M)) : Prop where
  whole : requested options limit source = done ++ todo
  length : done.length = beforeFailure flaws options limit source
  batches : ∃ count, done.length = count * options.eventsPerTransaction
  sound : ∀ entry ∈ done, flaws entry.1 = none
  flawed : ∃ entry ∈ firstBatch flaws options limit source, flaws entry.1 ≠ none

theorem requested_initial (limited : 0 ≤ limit) :
    requested options limit source = (source.drop options.offset.toNat).take limit.toNat := by
  rw [requested, window, if_neg (by omega)]

theorem exists_atFailure (limited : 0 ≤ limit) (inRange : InRange options source)
    (flawed : ∃ entry ∈ requested options limit source, flaws entry.1 ≠ none) :
    ∃ done todo, AtFailure flaws options limit source done todo := by
  have positive := inRange.positive
  rcases flawed with ⟨entry, present, fails⟩
  have below : (requested options limit source).findIdx (fun entry => (flaws entry.1).isSome) <
      (requested options limit source).length :=
    List.findIdx_lt_length_of_exists ⟨entry, present, Option.isSome_iff_ne_none.mpr fails⟩
  have earlier : ∀ position < (requested options limit source).findIdx
      (fun entry => (flaws entry.1).isSome), ∀ other : Nat × M,
      (requested options limit source)[position]? = some other → flaws other.1 = none := by
    intro position before other found
    rcases List.getElem?_eq_some_iff.mp found with ⟨inside, rfl⟩
    simpa using List.not_of_lt_findIdx before
  have atIndex : ∃ other : Nat × M, (requested options limit source)[(requested options limit
      source).findIdx (fun entry => (flaws entry.1).isSome)]? = some other ∧
      flaws other.1 ≠ none := by
    have found := List.getElem?_eq_getElem below
    have isFlawed := List.findIdx_of_getElem?_eq_some found
    exact ⟨_, found, Option.isSome_iff_ne_none.mp isFlawed⟩
  generalize isIndex : (requested options limit source).findIdx
    (fun entry => (flaws entry.1).isSome) = index at below earlier atIndex
  have front : beforeFailure flaws options limit source ≤ index := by
    rw [beforeFailure, isIndex]
    exact Nat.div_mul_le_self _ _
  have close : index < beforeFailure flaws options limit source + options.eventsPerTransaction := by
    rw [beforeFailure, isIndex]
    exact Nat.lt_div_mul_add (Nat.lt_of_lt_of_le Nat.zero_lt_one positive)
  refine ⟨(requested options limit source).take (beforeFailure flaws options limit source),
    (requested options limit source).drop (beforeFailure flaws options limit source),
    (List.take_append_drop _ _).symm, ?_, ?_, ?_, ?_⟩
  · rw [List.length_take]
    omega
  · refine ⟨index / options.eventsPerTransaction, ?_⟩
    rw [List.length_take, Nat.min_eq_left (by omega), beforeFailure, isIndex]
  · intro other inFront
    rcases List.mem_iff_getElem?.mp inFront with ⟨position, found⟩
    rw [List.getElem?_take] at found
    split at found
    · exact earlier position (by omega) other found
    · exact absurd found (by simp)
  · rcases atIndex with ⟨other, found, otherFails⟩
    refine ⟨other, ?_, otherFails⟩
    rw [requested_initial limited, List.getElem?_take] at found
    split at found
    · rename_i within
      rw [firstBatch, mem_messagesAt]
      refine ⟨index - beforeFailure flaws options limit source, by omega, ?_⟩
      rw [Nat.add_sub_cancel' front]
      exact found
    · exact absurd found (by simp)

/-- The messages in front of a position of the source and those of a batch there. -/
theorem front_batch_sublist (options : Options) (source : List (Nat × M)) (cur size : Nat) :
    ((source.drop options.offset.toNat).take cur ++ messagesAt options source cur size).Sublist
      source := by
  rw [messagesAt, ← List.drop_drop]
  have batch := (List.take_sublist (min options.eventsPerTransaction size)
    ((source.drop options.offset.toNat).drop cur)).append_left
      ((source.drop options.offset.toNat).take cur)
  rw [List.take_append_drop] at batch
  exact batch.trans (List.drop_sublist _ _)

/-- The state behind two batches from the one with the failure on. -/
theorem AtFailure.follow (atFailure : AtFailure flaws options limit source done todo)
    (copies : options.deleteCopied = false) (limited : 0 ≤ limit)
    (inRange : InRange options source) (distinct : (source.map Prod.fst).Nodup) :
    ∃ after afterwards, At options source (done.length +
        (savable flaws (firstBatch flaws options limit source)).length +
        (savable flaws (secondBatch flaws options limit source)).length)
        (limit.toNat - done.length - (firstBatch flaws options limit source).length -
          (secondBatch flaws options limit source).length) after afterwards ∧
      afterwards.written = (done ++ savable flaws (firstBatch flaws options limit source) ++
        savable flaws (secondBatch flaws options limit source)).map Prod.fst ∧
      ∀ result, Finishes flaws options ⟨0, 0, limit⟩ ⟨source, [], 0⟩ result ↔
        Finishes flaws options after afterwards result := by
  rcases atFailure with ⟨whole, length, ⟨count, batches⟩, sound, _⟩
  have clean : Clean options limit source [] (done ++ todo) ⟨0, 0, limit⟩
      (⟨source, [], 0⟩ : Saving M) := ⟨rfl, whole, rfl, by simp, rfl⟩
  rcases clean.batches copies inRange distinct sound batches with
    ⟨counters, state, behind, same⟩
  have inWindow := congrArg List.length whole
  rw [requested_initial limited, List.length_take, List.length_append] at inWindow
  have here : At options source done.length (limit.toNat - done.length) counters state := by
    refine ⟨behind.isSource, behind.counted, ?_, by omega⟩
    rw [behind.limited, if_neg (by omega), List.nil_append]
    omega
  have first : messagesAt options source done.length (limit.toNat - done.length) =
      firstBatch flaws options limit source := by rw [firstBatch, length]
  rcases here.follow flaws copies inRange first with
    ⟨next, between, behindFirst, writtenFirst, sameFirst⟩
  have second : messagesAt options source (done.length +
      (savable flaws (firstBatch flaws options limit source)).length)
      (limit.toNat - done.length - (firstBatch flaws options limit source).length) =
      secondBatch flaws options limit source := by rw [secondBatch, length]
  rcases behindFirst.follow flaws copies inRange second with
    ⟨after, afterwards, behindSecond, writtenSecond, sameSecond⟩
  refine ⟨after, afterwards, behindSecond, ?_, fun result => ?_⟩
  · rw [writtenSecond, writtenFirst, behind.written, List.nil_append, List.map_append,
      List.map_append]
  · exact (same result).trans ((sameFirst result).trans (sameSecond result))

theorem mem_savable {messages : List (Nat × M)} {entry : Nat × M} :
    entry ∈ savable flaws messages ↔ entry ∈ messages ∧ flaws entry.1 = none := by
  simp [savable]

theorem AtFailure.thirdBatch_eq (atFailure : AtFailure flaws options limit source done todo) :
    messagesAt options source (done.length +
      (savable flaws (firstBatch flaws options limit source)).length +
      (savable flaws (secondBatch flaws options limit source)).length)
      (limit.toNat - done.length - (firstBatch flaws options limit source).length -
        (secondBatch flaws options limit source).length) =
      thirdBatch flaws options limit source := by
  rw [thirdBatch, atFailure.length]

/-- The messages in front of the batch with the failure are where the batch is not. -/
theorem AtFailure.sublist (atFailure : AtFailure flaws options limit source done todo)
    (limited : 0 ≤ limit) :
    done = (source.drop options.offset.toNat).take done.length ∧
      (done ++ firstBatch flaws options limit source).Sublist source := by
  have isPrefix : done = (source.drop options.offset.toNat).take done.length := by
    have whole := atFailure.whole
    rw [requested_initial limited] at whole
    have inLimit := congrArg List.length whole
    rw [List.length_take, List.length_append] at inLimit
    have cut := congrArg (List.take done.length) whole
    rw [List.take_take, Nat.min_eq_left (by omega), List.take_left] at cut
    exact cut.symm
  refine ⟨isPrefix, ?_⟩
  have among := front_batch_sublist options source done.length (limit.toNat - done.length)
  rw [← isPrefix] at among
  rw [firstBatch, ← atFailure.length]
  exact among

theorem messagesAt_sublist (options : Options) (source : List (Nat × M)) (cur size : Nat) :
    (messagesAt options source cur size).Sublist source :=
  (List.take_sublist _ _).trans (List.drop_sublist _ _)

theorem AtFailure.written_subset (atFailure : AtFailure flaws options limit source done todo)
    (limited : 0 ≤ limit) :
    done ++ savable flaws (firstBatch flaws options limit source) ++
      savable flaws (secondBatch flaws options limit source) ⊆ source := by
  refine List.append_subset.mpr ⟨List.append_subset.mpr ⟨?_, ?_⟩, ?_⟩
  · exact ((List.sublist_append_left _ _).trans (atFailure.sublist limited).2).subset
  · exact (List.filter_sublist.trans (messagesAt_sublist _ _ _ _)).subset
  · exact (List.filter_sublist.trans (messagesAt_sublist _ _ _ _)).subset

/-- The second batch begins behind the messages that the rounds before the failure wrote. -/
theorem AtFailure.second_apart (atFailure : AtFailure flaws options limit source done todo)
    (limited : 0 ≤ limit) (distinct : (source.map Prod.fst).Nodup) :
    ∀ entry ∈ done, entry ∉ secondBatch flaws options limit source := by
  have isPrefix := (atFailure.sublist limited).1
  have among := (front_batch_sublist options source (done.length +
    (savable flaws (firstBatch flaws options limit source)).length)
    (limit.toNat - done.length - (firstBatch flaws options limit source).length))
  have once := (List.Nodup.of_map _ distinct).sublist among
  rw [List.nodup_append] at once
  intro entry inDone inSecond
  rw [isPrefix] at inDone
  refine once.2.2 entry ?_ entry ?_ rfl
  · exact List.take_subset_take_left _ (Nat.le_add_right _ _) inDone
  · rw [secondBatch, ← atFailure.length] at inSecond
    exact inSecond

theorem AtFailure.written_nodup (atFailure : AtFailure flaws options limit source done todo)
    (limited : 0 ≤ limit) (distinct : (source.map Prod.fst).Nodup)
    (repeats : ∀ entry ∈ secondBatch flaws options limit source,
      entry ∈ firstBatch flaws options limit source → flaws entry.1 ≠ none) :
    ((done ++ savable flaws (firstBatch flaws options limit source) ++
      savable flaws (secondBatch flaws options limit source)).map Prod.fst).Nodup := by
  have onceSource := List.Nodup.of_map _ distinct
  have among := atFailure.written_subset limited
  have second := atFailure.second_apart limited distinct
  apply List.Nodup.map_on
  · intro entry present other alsoPresent sameIdent
    exact List.inj_on_of_nodup_map distinct (among present) (among alsoPresent) sameIdent
  · rw [List.nodup_append]
    refine ⟨?_, ?_, ?_⟩
    · refine onceSource.sublist (.trans ?_ (atFailure.sublist limited).2)
      exact List.filter_sublist.append_left done
    · exact onceSource.sublist (List.filter_sublist.trans (messagesAt_sublist _ _ _ _))
    · rintro entry present other inSecond rfl
      have inBatch := (mem_savable.mp inSecond).1
      rcases List.mem_append.mp present with inDone | inFirst
      · exact second entry inDone inBatch
      · exact repeats entry inBatch (mem_savable.mp inFirst).1 (mem_savable.mp inSecond).2

theorem AtFailure.apart (atFailure : AtFailure flaws options limit source done todo)
    (distinct : (source.map Prod.fst).Nodup) : ∀ entry ∈ done, entry ∉ todo := by
  have requestedOnce : (requested options limit source).Nodup :=
    (List.Nodup.of_map _ distinct).sublist (window_sublist _ _ _)
  rw [atFailure.whole, List.nodup_append] at requestedOnce
  intro entry inDone inTodo
  exact requestedOnce.2.2 entry inDone entry inTodo rfl

/-- Where nothing is written twice, what batches have in common is not written again. -/
theorem repeats_of_nodup {firsts seconds thirds : List (Nat × M)}
    (once : (done ++ savable flaws firsts ++ savable flaws seconds ++
      savable flaws thirds).Nodup) :
    (∀ entry ∈ seconds, entry ∈ firsts → flaws entry.1 ≠ none) ∧
      ∀ entry ∈ thirds, entry ∈ firsts ∨ entry ∈ seconds → flaws entry.1 ≠ none := by
  simp only [List.nodup_append] at once
  rcases once with ⟨⟨_, _, beforeSecond⟩, _, beforeThird⟩
  constructor
  · intro entry inSecond inFirst isSound
    exact beforeSecond entry (List.mem_append_right _ (mem_savable.mpr ⟨inFirst, isSound⟩)) entry
      (mem_savable.mpr ⟨inSecond, isSound⟩) rfl
  · intro entry inThird inEarlier isSound
    refine beforeThird entry ?_ entry (mem_savable.mpr ⟨inThird, isSound⟩) rfl
    rcases inEarlier with inFirst | inSecond
    · exact List.mem_append_left _
        (List.mem_append_right _ (mem_savable.mpr ⟨inFirst, isSound⟩))
    · exact List.mem_append_right _ (mem_savable.mpr ⟨inSecond, isSound⟩)

/-- A run that saves everything once writes nothing of the third batch. -/
theorem AtFailure.fallsBackSafely (atFailure : AtFailure flaws options limit source done todo)
    (copies : options.deleteCopied = false) (limited : 0 ≤ limit)
    (inRange : InRange options source) (distinct : (source.map Prod.fst).Nodup)
    (finishes : Finishes flaws options ⟨0, 0, limit⟩ ⟨source, [], 0⟩ result)
    (once : result.written.Nodup)
    (covers : ∀ entry ∈ requested options limit source, flaws entry.1 = none →
      entry.1 ∈ result.written) :
    FallsBackSafely flaws options limit source := by
  rcases atFailure.follow copies limited inRange distinct with
    ⟨counters, state, behind, written, same⟩
  have third := atFailure.thirdBatch_eq
  have finishesBehind := (same result).mp finishes
  rcases behind.follow flaws copies inRange third with
    ⟨after, afterwards, _, writtenThird, sameThird⟩
  have grown := ((sameThird result).mp finishesBehind).grows
  have nodup := once.sublist grown.sublist
  rw [writtenThird, written, ← List.map_append] at nodup
  rcases repeats_of_nodup (List.Nodup.of_map _ nodup) with ⟨repeats, onceThird⟩
  have flawed : (savable flaws (firstBatch flaws options limit source)).length <
      (firstBatch flaws options limit source).length := by
    rcases atFailure.flawed with ⟨entry, present, fails⟩
    exact List.length_filter_lt_length_iff_exists.mpr ⟨entry, present, by simpa using fails⟩
  have thirdFails : ∀ entry ∈ thirdBatch flaws options limit source, flaws entry.1 ≠ none :=
    third_fails rfl rfl rfl flawed repeats onceThird
  refine ⟨limited, repeats, ?_, thirdFails⟩
  rcases behind.finishes_failing copies inRange (third ▸ thirdFails) with ⟨other, ends, kept⟩
  have isResult := finishesBehind.unique ends
  rw [atFailure.whole, ← atFailure.length, List.drop_left]
  intro entry inTodo notFirst notSecond isSound
  have isRequested : entry ∈ requested options limit source :=
    atFailure.whole ▸ List.mem_append_right _ inTodo
  have inFile := covers entry isRequested isSound
  rw [isResult, kept, written, List.mem_map] at inFile
  rcases inFile with ⟨other, inWritten, sameIdent⟩
  have same := List.inj_on_of_nodup_map distinct (atFailure.written_subset limited inWritten)
    ((window_sublist _ _ _).subset isRequested) sameIdent
  rw [same] at inWritten
  rcases List.mem_append.mp inWritten with inDone | inSecond
  · rcases List.mem_append.mp inDone with inDone | inFirst
    · exact atFailure.apart distinct entry inDone inTodo
    · exact notFirst (mem_savable.mp inFirst).1
  · exact notSecond (mem_savable.mp inSecond).1

/-- With a limit and a failure, everything is decided by three batches. -/
theorem AtFailure.savesOnce_iff (atFailure : AtFailure flaws options limit source done todo)
    (copies : options.deleteCopied = false) (limited : 0 ≤ limit)
    (inRange : InRange options source) (distinct : (source.map Prod.fst).Nodup) :
    (∃ result, Finishes flaws options ⟨0, 0, limit⟩ ⟨source, [], 0⟩ result ∧
      result.written.Nodup ∧ ∀ entry ∈ requested options limit source, flaws entry.1 = none →
        entry.1 ∈ result.written) ↔
      FallsBackSafely flaws options limit source := by
  constructor
  · rintro ⟨result, finishes, once, covers⟩
    exact atFailure.fallsBackSafely copies limited inRange distinct finishes once covers
  · rintro ⟨_, repeats, missed, thirdFails⟩
    rcases atFailure.follow copies limited inRange distinct with
      ⟨counters, state, behind, written, same⟩
    rw [atFailure.whole, ← atFailure.length, List.drop_left] at missed
    rcases behind.finishes_failing copies inRange (atFailure.thirdBatch_eq ▸ thirdFails) with
      ⟨result, ends, kept⟩
    refine ⟨result, (same result).mpr ends, ?_, ?_⟩
    · rw [kept, written]
      exact atFailure.written_nodup limited distinct repeats
    · intro entry isRequested isSound
      rw [kept, written]
      apply List.mem_map_of_mem
      rw [atFailure.whole, List.mem_append] at isRequested
      by_cases inFirst : entry ∈ firstBatch flaws options limit source
      · exact List.mem_append_left _
          (List.mem_append_right _ (mem_savable.mpr ⟨inFirst, isSound⟩))
      · by_cases inSecond : entry ∈ secondBatch flaws options limit source
        · exact List.mem_append_right _ (mem_savable.mpr ⟨inSecond, isSound⟩)
        · rcases isRequested with inDone | inTodo
          · exact List.mem_append_left _ (List.mem_append_left _ inDone)
          · exact absurd isSound (missed entry inTodo inFirst inSecond)

end Limited

/-- The command saves each message once exactly if its loop does. -/
theorem savesOnce_iff_finishes {flaws : Nat → Option Flaw} {options : Options} {limit : Int}
    {source : List (Nat × M)} (distinct : (source.map Prod.fst).Nodup) :
    SavesOnce flaws options limit source ↔
      ∃ result, Finishes flaws { options with deleteCopied := false } ⟨0, 0, limit⟩
        ⟨source, [], 0⟩ result ∧ result.written.Nodup ∧
        ∀ entry ∈ requested options limit source, flaws entry.1 = none →
          entry.1 ∈ result.written := by
  constructor
  · rintro ⟨⟨final, result⟩, ⟨enough, ends⟩, once, covers⟩
    exact ⟨result, finishes_of_run distinct ends, once, covers⟩
  · rintro ⟨result, finishes, once, covers⟩
    rcases finishes.run distinct with ⟨enough, final, ends⟩
    exact ⟨(final, result), ⟨enough, ends⟩, once, covers⟩

end RequiemDB.Admin

/--
`cmd_save` ends and writes every requested message that can be written, and none of them
twice, exactly if no requested message fails or there is a limit and the two batches behind
the first one with a failure neither repeat nor miss a message.
-/
theorem RequiemDB.Admin.cmdSave_saves_once {M : Type} (flaws : Nat → Option Flaw)
    (options : Options) (limit : Int) (source : List (Nat × M))
    (inRange : InRange options source) (distinct : (source.map Prod.fst).Nodup) :
    SavesOnce flaws options limit source ↔ FailsSafely flaws options limit source := by
  have copying : InRange { options with deleteCopied := false } source :=
    ⟨inRange.positive, inRange.events, inRange.offset, inRange.ends⟩
  rw [savesOnce_iff_finishes distinct]
  by_cases sound : ∀ entry ∈ requested options limit source, flaws entry.1 = none
  · refine iff_of_true ?_ (.inl sound)
    have clean : Clean { options with deleteCopied := false } limit source []
        (requested options limit source) ⟨0, 0, limit⟩ (⟨source, [], 0⟩ : Saving M) :=
      ⟨rfl, rfl, rfl, by simp, rfl⟩
    rcases clean.finishes rfl copying distinct sound with ⟨result, finishes, written⟩
    refine ⟨result, finishes, ?_, fun entry isRequested _ => ?_⟩
    · rw [written]
      exact distinct.sublist ((window_sublist _ _ _).map Prod.fst)
    · rw [written]
      exact List.mem_map_of_mem isRequested
  · by_cases limited : 0 ≤ limit
    · have flawed : ∃ entry ∈ requested options limit source, flaws entry.1 ≠ none := by
        push Not at sound
        exact sound
      rcases exists_atFailure limited copying flawed with ⟨done, todo, atFailure⟩
      refine (atFailure.savesOnce_iff rfl limited copying distinct).trans ?_
      constructor
      · intro safely
        exact .inr ⟨limited, safely.repeats, safely.missed, safely.third⟩
      · rintro (allSound | safely)
        · exact absurd allSound sound
        · exact ⟨limited, safely.repeats, safely.missed, safely.third⟩
    · -- without a limit the loop would end behind a message that failed
      have unlimited : limit < 0 := Int.not_le.mp limited
      refine iff_of_false ?_ ?_
      · rintro ⟨result, finishes, once, _⟩
        have all := finishes.unlimited rfl copying distinct rfl unlimited rfl
          (List.nil_subset _) once
        apply sound
        rw [requested, window, if_pos unlimited]
        exact all
      · rintro (allSound | safely)
        · exact sound allSound
        · exact limited safely.limited

namespace RequiemDB.Admin

/-- The message with the ident 4 cannot be written. -/
def fourFails : Nat → Option Flaw
  | 4 => some (.writing ⟨-1, minusOne_negative⟩)
  | _ => none

/-- Two messages of which the first one fails are found, and then the second one again. -/
theorem cmdSave_saves_once_fourFails :
    SavesOnce fourFails ⟨2, 0, false⟩ (-1) [(4, ()), (7, ())] ↔
      FailsSafely fourFails ⟨2, 0, false⟩ (-1) [(4, ()), (7, ())] :=
  cmdSave_saves_once fourFails ⟨2, 0, false⟩ (-1) [(4, ()), (7, ())]
    ⟨by decide, by decide, by decide, by decide⟩ (by decide)

theorem not_finishes_fourFails {state result : Saving Unit} (alone : state.source = [(4, ())]) :
    ¬ Finishes fourFails ⟨2, 0, false⟩ ⟨0, 0, -1⟩ state result := by
  intro finishes
  generalize start : (⟨0, 0, -1⟩ : Counters) = counters at finishes
  induction finishes with
  | last nothing =>
      rw [alone, ← start] at nothing
      exact absurd nothing (by decide)
  | next _ _ ih =>
      refine ih alone ?_
      rw [← start, alone]
      rfl

/-- The second message is written twice; alone in the database the first one is tried for ever. -/
theorem not_cmdSave_saves_once :
    ¬ SavesOnce fourFails ⟨2, 0, false⟩ (-1) [(4, ()), (7, ())] ∧
      ¬ ∃ result, SaveEnds fourFails ⟨2, 0, false⟩ (-1) ⟨[(4, ())], [], 0⟩ result := by
  constructor
  · rintro ⟨result, ⟨enough, ends⟩, once, _⟩
    have twice : result.2.written = [7, 7] := by
      have isResult := ends (enough + 3) (Nat.le_add_right _ _)
      rw [← isResult]
      rfl
    rw [twice] at once
    exact absurd once (by decide)
  · rintro ⟨⟨final, result⟩, enough, ends⟩
    exact not_finishes_fourFails rfl (finishes_of_run (by decide) ends)

end RequiemDB.Admin
