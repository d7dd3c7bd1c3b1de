import Mathlib
import CardLedger.Proofs.EngineSteps

/-!
# Bounded transfer retries

A transfer checks that its two cards differ and that the amount is valid, then makes attempts:
each attempt reads both cards and writes the pair. An attempt that loses a race to another
writer (`concurrentModification`) is made again, at most `maxTransferRetries` more times; any
other outcome ends the transfer.

The statements hold over every store, whatever its lookups and pair writes answer: the retry
loop makes `k + 1` attempts for some `k` no larger than the retry budget, each on the engine the
attempt before it left, every attempt but the last lost a race, and the last one's outcome is the
transfer's (`exec_transferWithRetries_attempts`). So a lost race is answered only when every
attempt lost one (`transferWithRetries_lostRace_iff`). On the plain store a failed attempt
changes nothing, so neither does a failed transfer.
-/

namespace CardLedger

def LostRace {α : Type} (outcome : Except CardError α) : Prop :=
  ∃ id, outcome = .error (.concurrentModification id)

namespace Engine

section AnyStore

variable {σ : Type}

def afterRuns {α : Type} (m : EngineM σ α) (k : Nat) (eng : Engine σ) : Engine σ :=
  (fun e => (exec m e).2)^[k] eng

@[simp] theorem afterRuns_zero {α : Type} (m : EngineM σ α) (eng : Engine σ) :
    afterRuns m 0 eng = eng := rfl

theorem afterRuns_succ {α : Type} (m : EngineM σ α) (k : Nat) (eng : Engine σ) :
    afterRuns m (k + 1) eng = afterRuns m k (exec m eng).2 :=
  Function.iterate_succ_apply _ k eng

variable [CardRepository σ]

theorem exec_transfer_eq (eng : Engine σ) (who : Identity) (source target : CardId)
    (amount : Decimal) :
    exec (transfer who source target amount) eng =
      if source = target then
        (.error (.invalidRequest "Cannot transfer funds to the same card"), eng)
      else
        match Amount.ofDecimal amount with
        | .error e => (.error e, eng)
        | .ok a => exec (transferWithRetries who.id source target a eng.config.maxTransferRetries)
            eng := by
  by_cases same : source = target
  · simp [transfer, same]
  · cases checked : Amount.ofDecimal amount <;> simp [transfer, same, checked, exec_bind]

variable (owner : OwnerId) (source target : CardId) (amount : Amount)

theorem exec_transferWithRetries_of_not_lost (retries : Nat) (eng : Engine σ)
    (won : ¬ LostRace (exec (tryTransfer owner source target amount) eng).1) :
    exec (transferWithRetries owner source target amount (retries + 1)) eng =
      exec (tryTransfer owner source target amount) eng := by
  rw [transferWithRetries, exec_tryCatch]
  rcases attempt : exec (tryTransfer owner source target amount) eng with ⟨e | _, eng'⟩
  · cases e
    case concurrentModification id => exact absurd ⟨id, by rw [attempt]⟩ won
    all_goals simp
  · rfl

theorem exec_transferWithRetries_of_lost (retries : Nat) (eng : Engine σ) {id : CardId}
    (raced : (exec (tryTransfer owner source target amount) eng).1 =
      .error (.concurrentModification id)) :
    exec (transferWithRetries owner source target amount (retries + 1)) eng =
      exec (transferWithRetries owner source target amount retries)
        (exec (tryTransfer owner source target amount) eng).2 := by
  have attempt : exec (tryTransfer owner source target amount) eng =
      (.error (.concurrentModification id),
        (exec (tryTransfer owner source target amount) eng).2) :=
    Prod.ext raced rfl
  rw [transferWithRetries, exec_tryCatch, attempt]

theorem exec_transferWithRetries_attempts (retries : Nat) (eng : Engine σ) :
    ∃ k ≤ retries,
      (∀ i < k, LostRace
        (exec (tryTransfer owner source target amount)
          (afterRuns (tryTransfer owner source target amount) i eng)).1) ∧
      (k < retries → ¬ LostRace
        (exec (tryTransfer owner source target amount)
          (afterRuns (tryTransfer owner source target amount) k eng)).1) ∧
      exec (transferWithRetries owner source target amount retries) eng =
        exec (tryTransfer owner source target amount)
          (afterRuns (tryTransfer owner source target amount) k eng) := by
  induction retries generalizing eng with
  | zero => exact ⟨0, le_rfl, by simp, by simp, rfl⟩
  | succ retries induction =>
    by_cases raced : LostRace (exec (tryTransfer owner source target amount) eng).1
    · -- a lost race: the attempts left are those of the loop with one retry fewer
      obtain ⟨id, lostFirst⟩ := raced
      obtain ⟨k, bounded, lost, last, run⟩ :=
        induction (exec (tryTransfer owner source target amount) eng).2
      refine ⟨k + 1, Nat.succ_le_succ bounded, ?_, ?_, ?_⟩
      · intro i below
        cases i with
        | zero => exact ⟨id, lostFirst⟩
        | succ i =>
          rw [afterRuns_succ]
          exact lost i (Nat.lt_of_succ_lt_succ below)
      · intro below
        rw [afterRuns_succ]
        exact last (Nat.lt_of_succ_lt_succ below)
      · rw [afterRuns_succ,
          exec_transferWithRetries_of_lost owner source target amount _ _ lostFirst]
        exact run
    · exact ⟨0, Nat.zero_le _, by simp, fun _ => raced,
        exec_transferWithRetries_of_not_lost owner source target amount _ _ raced⟩

theorem transferWithRetries_lostRace_iff (retries : Nat) (eng : Engine σ) :
    LostRace (exec (transferWithRetries owner source target amount retries) eng).1 ↔
      ∀ i ≤ retries, LostRace
        (exec (tryTransfer owner source target amount)
          (afterRuns (tryTransfer owner source target amount) i eng)).1 := by
  obtain ⟨k, bounded, lost, last, run⟩ :=
    exec_transferWithRetries_attempts owner source target amount retries eng
  rw [run]
  constructor
  · intro raced i within
    -- the last attempt lost a race, so the budget ran out: it was attempt `retries`
    have spent : k = retries := by
      by_contra short
      exact last (Nat.lt_of_le_of_ne bounded short) raced
    rcases Nat.lt_or_ge i k with earlier | later
    · exact lost i earlier
    · rw [show i = k by omega]
      exact raced
  · intro every
    exact every k bounded

end AnyStore

/-! ## The plain store -/

section PlainStore

variable (eng : Engine Store) (owner : OwnerId) (source target : CardId) (amount : Amount)

theorem exec_tryTransfer_fails_or_succeeds :
    (∃ e, exec (tryTransfer owner source target amount) eng = (.error e, eng)) ∨
      ∃ eng', exec (tryTransfer owner source target amount) eng = (.ok (), eng') := by
  rcases first : eng.store.findByIdAndOwner source owner with e | _ | from_
  · exact .inl ⟨e, by simp [tryTransfer, exec_bind, first]⟩
  · exact .inl ⟨cardNotFound source, by simp [tryTransfer, exec_bind, first]⟩
  rcases second : eng.store.findByIdAndOwner target owner with e | _ | to_
  · exact .inl ⟨e, by simp [tryTransfer, exec_bind, first, second]⟩
  · exact .inl ⟨cardNotFound target, by simp [tryTransfer, exec_bind, first, second]⟩
  cases active₁ : from_.status.allowsFundsMovement
  · exact .inl ⟨.operationConflict ("Source card " ++ source.toText ++ " is not active"),
      by simp [tryTransfer, exec_bind, first, second, active₁]⟩
  cases active₂ : to_.status.allowsFundsMovement
  · exact .inl ⟨.operationConflict ("Destination card " ++ target.toText ++ " is not active"),
      by simp [tryTransfer, exec_bind, first, second, active₁, active₂]⟩
  rcases debit : from_.balance.debit amount with _ | debited
  · exact .inl ⟨.insufficientFunds source,
      by simp [tryTransfer, exec_bind, first, second, active₁, active₂, debit]⟩
  rcases credit : to_.balance.credit amount with e | credited
  · exact .inl ⟨e, by
      simp [tryTransfer, exec_bind, first, second, active₁, active₂, debit, credit]⟩
  rcases saved :
      eng.store.saveBoth { from_ with balance := debited } { to_ with balance := credited }
    with e | ⟨pair, s'⟩
  · exact .inl ⟨e, by
      simp [tryTransfer, exec_bind, first, second, active₁, active₂, debit, credit, saved]⟩
  · exact .inr ⟨{ eng with store := s' }, by
      simp [tryTransfer, exec_bind, first, second, active₁, active₂, debit, credit, saved]⟩

theorem afterRuns_of_lost {k : Nat}
    (lost : ∀ i < k, LostRace
      (exec (tryTransfer owner source target amount)
        (afterRuns (tryTransfer owner source target amount) i eng)).1) :
    ∀ i ≤ k, afterRuns (tryTransfer owner source target amount) i eng = eng := by
  intro i
  induction i with
  | zero => simp
  | succ i induction =>
    intro within
    have kept := induction (Nat.le_of_succ_le within)
    obtain ⟨id, raced⟩ := lost i within
    rw [kept] at raced
    rw [afterRuns, Function.iterate_succ_apply', ← afterRuns, kept]
    rcases exec_tryTransfer_fails_or_succeeds eng owner source target amount with
      ⟨e, failed⟩ | ⟨eng', moved⟩
    · rw [failed]
    · rw [moved] at raced
      cases raced

theorem exec_transfer_fails_or_succeeds (who : Identity) (amount : Decimal) :
    (∃ e, exec (transfer who source target amount) eng = (.error e, eng)) ∨
      ∃ eng', exec (transfer who source target amount) eng = (.ok (), eng') := by
  rw [exec_transfer_eq]
  by_cases same : source = target
  · exact .inl ⟨.invalidRequest "Cannot transfer funds to the same card", by simp [same]⟩
  cases checked : Amount.ofDecimal amount with
  | error e => exact .inl ⟨e, by simp [same]⟩
  | ok a =>
    obtain ⟨k, -, lost, -, run⟩ :=
      exec_transferWithRetries_attempts who.id source target a eng.config.maxTransferRetries eng
    -- every attempt ran on the starting engine, the last one too
    have kept := afterRuns_of_lost eng who.id source target a lost k le_rfl
    simp only [same, if_false, run, kept]
    exact exec_tryTransfer_fails_or_succeeds eng who.id source target a

end PlainStore

/-- Transfer retries are bounded. Over every store, whatever its lookups and pair writes answer:
a transfer makes its two checks and enters the retry loop with the engine's retry budget; the
loop makes `k + 1` attempts for some `k` within the budget, each on the engine the one before it
left, retrying only after a lost race and answering the last attempt's outcome; and it answers a
lost race exactly when every attempt lost one. On the plain store a failed transfer changes
nothing. -/
theorem transfer_retries_bounded :
    (∀ {σ : Type} [CardRepository σ] (eng : Engine σ) (who : Identity) (source target : CardId)
        (amount : Decimal),
      exec (transfer who source target amount) eng =
        if source = target then
          (.error (.invalidRequest "Cannot transfer funds to the same card"), eng)
        else
          match Amount.ofDecimal amount with
          | .error e => (.error e, eng)
          | .ok a =>
            exec (transferWithRetries who.id source target a eng.config.maxTransferRetries) eng) ∧
    (∀ {σ : Type} [CardRepository σ] (owner : OwnerId) (source target : CardId) (amount : Amount)
        (retries : Nat) (eng : Engine σ),
      ∃ k ≤ retries,
        (∀ i < k, LostRace
          (exec (tryTransfer owner source target amount)
            (afterRuns (tryTransfer owner source target amount) i eng)).1) ∧
        (k < retries → ¬ LostRace
          (exec (tryTransfer owner source target amount)
            (afterRuns (tryTransfer owner source target amount) k eng)).1) ∧
        exec (transferWithRetries owner source target amount retries) eng =
          exec (tryTransfer owner source target amount)
            (afterRuns (tryTransfer owner source target amount) k eng)) ∧
    (∀ {σ : Type} [CardRepository σ] (owner : OwnerId) (source target : CardId) (amount : Amount)
        (retries : Nat) (eng : Engine σ),
      LostRace (exec (transferWithRetries owner source target amount retries) eng).1 ↔
        ∀ i ≤ retries, LostRace
          (exec (tryTransfer owner source target amount)
            (afterRuns (tryTransfer owner source target amount) i eng)).1) ∧
    (∀ (eng : Engine Store) (who : Identity) (source target : CardId) (amount : Decimal),
      (∃ e, exec (transfer who source target amount) eng = (.error e, eng)) ∨
        ∃ eng', exec (transfer who source target amount) eng = (.ok (), eng')) :=
  ⟨exec_transfer_eq, exec_transferWithRetries_attempts, transferWithRetries_lostRace_iff,
    fun eng who source target amount =>
      exec_transfer_fails_or_succeeds eng source target who amount⟩

end Engine

end CardLedger
