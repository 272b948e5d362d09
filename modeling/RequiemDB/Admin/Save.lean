import RequiemDB.Admin.Requested

/-!
# Saving messages to a file

`cmd_save` with `save_iterate_message`. A message that cannot be read or written is
skipped, and the counter from which the next query takes its offset counts the others
only: behind a failure the queries fall back and find messages again. The file takes the
place of the destination database.
-/

namespace RequiemDB.Admin

open Lib

variable {M : Type}

section Functions

variable (options : Options)

/-- The loop of `save_iterate_message`; `insertMessage` is the write to the file. -/
def saveIterateMessage : List Nat → Counters → Command M Counters
  | [], counters => .perform .stopProcessing fun _ => .done counters
  | ident :: idents, counters =>
      .perform .stopProcessing fun stop =>
      if stop then .done counters
      else .perform (.getMessage ident) fun
      | .error _ => saveIterateMessage idents counters
      | .ok message =>
        .perform (.insertMessage ident message) fun ret =>
        if ret < 0 then saveIterateMessage idents counters
        else saveIterateMessage idents { counters with curCount := counters.curCount + 1 }

/-- The `do ... while` loop of `cmd_save`, for at most `rounds` rounds. -/
def saveRounds : Nat → Counters → Command M (Int × Counters)
  | 0, counters => .done (0, counters)
  | rounds + 1, counters =>
      fetchMessageIdentsLimited options counters fun
      | .error error, counters => .done (error.code, counters)
      | .ok batch, counters =>
        if batch.count ≤ 0 then .done (batch.count, counters)
        else saveIterateMessage batch.idents counters >>= fun counters =>
          .perform .stopProcessing fun stop =>
          if stop then .done (0, counters) else saveRounds rounds counters

/-- `cmd_save` behind the setup of its options, its database and its file. -/
def cmdSave (rounds : Nat) (limit : Int) : Command M (Int × Counters) :=
  saveRounds { options with deleteCopied := false } rounds ⟨0, 0, limit⟩

end Functions

/-- What goes wrong with a message, each time it is tried. -/
inductive Flaw where
  | retrieval (error : ErrorCode)
  | writing (error : ErrorCode)

/-- The database and the file. -/
structure Saving (M : Type) where
  source : List (Nat × M)
  /-- The idents of the messages in the file. -/
  written : List Nat
  /-- The queries for idents so far. -/
  queries : Nat

/-- The idents with a flaw fail, everything else succeeds. -/
def saving (flaws : Nat → Option Flaw) : Environment (@Reply M) (Saving M) := fun op state =>
  match op with
  | .fetchIdents limit offset =>
      (.ok (.ofMessages (window limit offset state.source)),
        { state with queries := state.queries + 1 })
  | .getMessage ident =>
      (match flaws ident, state.source.find? fun entry => entry.1 = ident with
        | some (.retrieval error), _ => .error error
        | _, some entry => .ok entry.2
        | _, none => .error ⟨-1, minusOne_negative⟩, state)
  | .insertMessage ident _ =>
      match flaws ident with
      | some (.writing error) => (error.code, state)
      | _ => (0, { state with written := state.written ++ [ident] })
  | .recordIdent _ _ => ((), state)
  | .deleteFromList idents => (idents.length, state)
  | .transactionStart | .transactionEnd | .transactionAbort => (0, state)
  | .stopProcessing => (false, state)

/-- The messages among these that are written. -/
def savable (flaws : Nat → Option Flaw) (messages : List (Nat × M)) : List (Nat × M) :=
  messages.filter fun entry => flaws entry.1 = none

section Iterate

variable {flaws : Nat → Option Flaw}

theorem run_saveIterateMessage (flaws : Nat → Option Flaw) (batch : List (Nat × M))
    (counters : Counters) (state : Saving M)
    (distinct : (state.source.map Prod.fst).Nodup) (present : batch ⊆ state.source) :
    (saveIterateMessage (batch.map Prod.fst) counters).run (saving flaws) state =
      ({ counters with curCount := counters.curCount + (savable flaws batch).length },
        { state with written := state.written ++ (savable flaws batch).map Prod.fst }) := by
  induction batch generalizing counters state with
  | nil => simp [saveIterateMessage, saving, savable]
  | cons entry batch ih =>
      rcases List.cons_subset.mp present with ⟨here, later⟩
      have found := find_entry distinct here
      rw [List.map_cons, saveIterateMessage, Program.run_perform]
      simp only [saving, Bool.false_eq_true, if_false, Program.run_perform, found]
      cases flaw : flaws entry.1 with
      | none =>
          have isSavable : savable flaws (entry :: batch) = entry :: savable flaws batch :=
            List.filter_cons_of_pos (by simpa using flaw)
          simp only [Program.run_perform, saving, flaw, Int.lt_irrefl, if_false]
          rw [ih _ { state with written := state.written ++ [entry.1] } distinct later, isSavable]
          simp [Nat.add_assoc, Nat.add_comm 1]
      | some kind =>
          have notSavable : savable flaws (entry :: batch) = savable flaws batch :=
            List.filter_cons_of_neg (by simp [flaw])
          rw [notSavable]
          cases kind with
          | retrieval error => exact ih counters state distinct later
          | writing error =>
              simp only [Program.run_perform, saving, flaw, error.negative, if_true]
              exact ih counters state distinct later

variable {options : Options} {counters : Counters} {state : Saving M}

/-- The counters and the state behind a round. -/
def savedCounters (flaws : Nat → Option Flaw) (options : Options) (counters : Counters)
    (source : List (Nat × M)) : Counters :=
  let batch := nextBatch options counters source
  { counters.charged batch.length with
    curCount := counters.curCount + (savable flaws batch).length }

def Saving.saved (flaws : Nat → Option Flaw) (options : Options) (counters : Counters)
    (state : Saving M) : Saving M :=
  let batch := nextBatch options counters state.source
  { state with
    written := state.written ++ (savable flaws batch).map Prod.fst, queries := state.queries + 1 }

theorem run_fetch_saving
    (rest : Except ErrorCode Batch → Counters → Command M (Int × Counters)) :
    (fetchMessageIdentsLimited options counters rest).run (saving flaws) state =
      (rest (.ok (.ofMessages (nextBatch options counters state.source)))
        (counters.charged (nextBatch options counters state.source).length)).run
          (saving flaws) { state with queries := state.queries + 1 } := by
  simp only [fetchMessageIdentsLimited, Program.run_perform, saving]
  rfl

theorem run_saveRounds_succ (distinct : (state.source.map Prod.fst).Nodup)
    (some_ : nextBatch options counters state.source ≠ []) (rounds : Nat) :
    (saveRounds options (rounds + 1) counters).run (saving flaws) state =
      (saveRounds options rounds (savedCounters flaws options counters state.source)).run
        (saving flaws) (state.saved flaws options counters) := by
  have positive : ¬ (Batch.ofMessages (nextBatch options counters state.source)).count ≤ 0 := by
    simpa [Batch.ofMessages] using some_
  have among : (nextBatch options counters state.source).Sublist state.source :=
    window_sublist _ _ _
  have saved := run_saveIterateMessage flaws (nextBatch options counters state.source)
    (counters.charged (nextBatch options counters state.source).length)
    { state with queries := state.queries + 1 } distinct among.subset
  rw [saveRounds, run_fetch_saving]
  simp only [if_neg positive, Program.run_bind, Program.run_perform]
  simp only [Batch.ofMessages, saved, saving, Bool.false_eq_true, if_false]
  rw [savedCounters, Saving.saved, charged_curCount]

theorem run_saveRounds_last (nothing : nextBatch options counters state.source = [])
    (rounds : Nat) :
    (saveRounds options (rounds + 1) counters).run (saving flaws) state =
      ((0, counters.charged 0), { state with queries := state.queries + 1 }) := by
  rw [saveRounds, run_fetch_saving, nothing]
  rfl

/-- The loop ends by itself, with the messages of `result` in the file. -/
inductive Finishes (flaws : Nat → Option Flaw) (options : Options) :
    Counters → Saving M → Saving M → Prop
  | last {counters : Counters} {state : Saving M}
      (nothing : nextBatch options counters state.source = []) :
      Finishes flaws options counters state { state with queries := state.queries + 1 }
  | next {counters : Counters} {state result : Saving M}
      (some_ : nextBatch options counters state.source ≠ [])
      (later : Finishes flaws options (savedCounters flaws options counters state.source)
        (state.saved flaws options counters) result) :
      Finishes flaws options counters state result

section Finishes

variable {result other : Saving M}

theorem Finishes.next_iff (some_ : nextBatch options counters state.source ≠ []) :
    Finishes flaws options counters state result ↔
      Finishes flaws options (savedCounters flaws options counters state.source)
        (state.saved flaws options counters) result := by
  constructor
  · rintro (nothing | ⟨_, later⟩)
    · exact absurd nothing some_
    · exact later
  · exact .next some_

theorem Finishes.unique (first : Finishes flaws options counters state result)
    (second : Finishes flaws options counters state other) : result = other := by
  induction first with
  | last nothing =>
      cases second with
      | last _ => rfl
      | next some_ _ => exact absurd nothing some_
  | next some_ _ ih => exact ih ((Finishes.next_iff some_).mp second)

theorem Finishes.grows (finishes : Finishes flaws options counters state result) :
    state.written <+: result.written := by
  induction finishes with
  | last _ => exact List.prefix_rfl
  | next _ _ ih => exact (List.prefix_append _ _).trans ih

/-- The run of the loop with any bound that is great enough. -/
theorem Finishes.run (finishes : Finishes flaws options counters state result)
    (distinct : (state.source.map Prod.fst).Nodup) :
    ∃ enough final, ∀ rounds ≥ enough,
      (saveRounds options rounds counters).run (saving flaws) state = (final, result) := by
  induction finishes with
  | @last counters state nothing =>
      refine ⟨1, (0, counters.charged 0), fun rounds enough => ?_⟩
      rcases Nat.exists_eq_succ_of_ne_zero (Nat.ne_of_gt enough) with ⟨fewer, rfl⟩
      exact run_saveRounds_last nothing fewer
  | next some_ _ ih =>
      rcases ih distinct with ⟨bound, final, ends⟩
      refine ⟨bound + 1, final, fun rounds enough => ?_⟩
      rcases Nat.exists_eq_succ_of_ne_zero (Nat.ne_of_gt (Nat.zero_lt_of_lt enough)) with
        ⟨fewer, rfl⟩
      rw [run_saveRounds_succ distinct some_]
      exact ends fewer (Nat.le_of_succ_le_succ enough)

/-- A loop that does not depend on the bound has ended: every round makes a query. -/
theorem finishes_of_run (distinct : (state.source.map Prod.fst).Nodup) {enough : Nat}
    {final : Int × Counters} (ends : ∀ rounds ≥ enough,
      (saveRounds options rounds counters).run (saving flaws) state = (final, result)) :
    Finishes flaws options counters state result := by
  induction enough generalizing counters state with
  | zero =>
      exfalso
      have before := congrArg (fun outcome => outcome.2.queries) (ends 0 (Nat.le_refl 0))
      have behind := congrArg (fun outcome => outcome.2.queries) (ends 1 (Nat.zero_le 1))
      simp only [saveRounds, Program.run_done] at before
      have counted : result.queries = state.queries + 1 := by
        rw [← behind]
        by_cases nothing : nextBatch options counters state.source = []
        · exact congrArg (fun outcome => outcome.2.queries) (run_saveRounds_last nothing 0)
        · exact congrArg (fun outcome => outcome.2.queries)
            (run_saveRounds_succ distinct nothing 0)
      omega
  | succ enough ih =>
      by_cases nothing : nextBatch options counters state.source = []
      · have last := ends (enough + 1) (Nat.le_refl _)
        rw [run_saveRounds_last nothing] at last
        rcases Prod.mk.inj last with ⟨_, rfl⟩
        exact .last nothing
      · refine .next nothing (ih distinct fun rounds above => ?_)
        rw [← run_saveRounds_succ distinct nothing]
        exact ends (rounds + 1) (Nat.succ_le_succ above)

end Finishes

end Iterate

end RequiemDB.Admin
