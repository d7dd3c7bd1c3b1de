import Mathlib
import CardLedger.Proofs.Footprints

/-!
# What each engine operation does to the store

Every operation of the engine either fails and leaves the engine as it was (an issue may have
drawn from the random source first), answers without writing, or makes exactly one write. A
status change or a transfer that fails never fails with a lost race: what it writes back carries
the version it has just read.

* a status change rewrites the row of its card with the status the lifecycle rules allowed,
  one version later (`exec_setStatus_cases`);
* a transfer rewrites the two rows it read, both active, with the debited and the credited
  balance, each one version later (`exec_transfer_cases`);
* deleting removes a stored row with the index entry of its blob (`exec_deleteCard_cases`);
* issuing inserts the first row of a new card, active, under a number the engine drew and
  sealed with its own key (`exec_issueCard_cases`).

The lifecycle rules and the script runner are proved from these statements alone.
-/

namespace CardLedger

def Record.withStatus (r : Record) (status : Status) : Record :=
  { r with status, version := Record.nextVersion r.version }

def Sealer.Drawn (sealer : Sealer) (number : CardNumber) (blob : Blob) : Prop :=
  ∃ e : Entropy, number = e.candidate ∧
    sealer.sealWithNonce e.drawnNonce e.candidate.text = some blob

theorem Store.findById_error {s : Store} {id : CardId} {e : CardError}
    (failed : s.findById id = .error e) (id' : CardId) : e ≠ .concurrentModification id' := by
  unfold Store.findById Store.lookup at failed
  cases row : s.cards[id]? with
  | none => simp [row] at failed
  | some r =>
    rw [row] at failed
    cases opened : r.openWith s.sealer with
    | error e' =>
      simp only [opened, Except.map, Except.error.injEq] at failed
      obtain ⟨m, rfl⟩ := Record.openWith_error opened
      rw [← failed]
      simp
    | ok c => simp [opened, Except.map] at failed

theorem Status.transition_ne_race (current target : Status) (role : Role) (id : CardId) :
    current.transition target role ≠ .error (.concurrentModification id) := by
  cases current <;> cases target <;> cases role <;> simp [Status.transition]

theorem Amount.ofDecimal_ne_race (d : Decimal) (id : CardId) :
    Amount.ofDecimal d ≠ .error (.concurrentModification id) := by
  unfold Amount.ofDecimal
  split
  · simp
  · split
    · simp
    · split <;> simp

theorem Store.save_mirrored {s : Store} (keyed : s.KeyedById) {id : CardId} {r : Record}
    {card : Card} (row : s.cards[id]? = some r) (mirrors : card.Mirrors r) (status : Status) :
    s.save { card with status } =
      .ok ({ card with status, version := Record.nextVersion r.version },
        { s with cards := s.cards.insert id (r.withStatus status) }) := by
  have sameId : card.id = id := Store.id_of_mirrors keyed row mirrors
  have applied : r.apply { card with status } = .ok (r.withStatus status) := by
    simp [Record.apply, Record.withStatus, mirrors.2.2.2.2.1, mirrors.2.2.2.2.2]
  rw [← sameId] at row ⊢
  simp [Store.save, row, applied, Record.withStatus, bind, Except.bind]

/-- `s'` is `s` after `a` moved from `source` to `target`: two distinct active rows, written back
with the debited and the credited balance, each one version later. -/
def Store.Moved (s s' : Store) (source target : CardId) (a : Amount) : Prop :=
  ∃ r₁ r₂ b₁ b₂, source ≠ target ∧ s.cards[source]? = some r₁ ∧ s.cards[target]? = some r₂ ∧
    r₁.status = .active ∧ r₂.status = .active ∧
    r₁.balance.debit a = some b₁ ∧ r₂.balance.credit a = .ok b₂ ∧
    s' = { s with cards :=
      (s.cards.insert source (r₁.rebalanced b₁)).insert target (r₂.rebalanced b₂) }

namespace Engine

variable (eng : Engine Store)

/-! ## Reads -/

theorem exec_loadFor (who : Identity) (id : CardId) :
    (exec (loadFor who id) eng).2 = eng ∧
      ∀ card, (exec (loadFor who id) eng).1 = .ok card →
        ∃ r, eng.store.cards[id]? = some r ∧ card.Mirrors r := by
  by_cases admin : who.isAdmin = true
  · rcases found : eng.store.findById id with e | _ | card <;>
      simp [loadFor, exec_bind, admin, found]
    exact Store.findById_some found
  · rcases found : eng.store.findByIdAndOwner id who.id with e | _ | card <;>
      simp [loadFor, exec_bind, admin, found]
    exact Store.findByIdAndOwner_some found

theorem exec_loadFor_ne_race (who : Identity) (id : CardId) {e : CardError}
    (failed : (exec (loadFor who id) eng).1 = .error e) (id' : CardId) :
    e ≠ .concurrentModification id' := by
  by_cases admin : who.isAdmin = true
  · rcases found : eng.store.findById id with e' | _ | card <;>
      simp [loadFor, exec_bind, admin, found] at failed
    · exact failed ▸ Store.findById_error found id'
    · simp [← failed, cardNotFound]
  · rcases found : eng.store.findByIdAndOwner id who.id with e' | _ | card <;>
      simp [loadFor, exec_bind, admin, found] at failed
    · exact failed ▸ Store.findByIdAndOwner_error found id'
    · simp [← failed, cardNotFound]

theorem exec_getBalance_keeps (who : Identity) (id : CardId) :
    (exec (getBalance who id) eng).2 = eng := by
  rcases found : eng.store.findByIdAndOwner id who.id with e | _ | card <;>
    simp [getBalance, exec_bind, found]

theorem exec_getTotalBalance_keeps (who : Identity) :
    (exec (getTotalBalance who) eng).2 = eng := rfl

theorem exec_listCards_keeps (who : Identity) (f : Card.Filter) :
    (exec (listCards who f) eng).2 = eng := by
  rcases found : eng.store.findAll (if who.isAdmin then f else f.ownedBy who.id) with e | cards <;>
    simp [listCards, found]

/-! ## Status changes -/

theorem exec_setStatus_cases (keyed : eng.store.KeyedById) (who : Identity) (id : CardId)
    (target : Status) :
    (∃ e, (∀ id', e ≠ .concurrentModification id') ∧
      exec (setStatus who id target) eng = (.error e, eng)) ∨
    (∃ card, exec (setStatus who id target) eng = (.ok card, eng)) ∨
    ∃ r status card, eng.store.cards[id]? = some r ∧
      r.status.transition target who.role = .ok (.changed status) ∧
      exec (setStatus who id target) eng =
        (.ok card, { eng with store := { eng.store with
          cards := eng.store.cards.insert id (r.withStatus status) } }) := by
  by_cases expired : target = .expired
  · exact .inl ⟨.invalidTransition "Status cannot be set to expired manually", by simp,
      by simp [setStatus, expired]⟩
  obtain ⟨kept, found⟩ := exec_loadFor eng who id
  rcases loaded : exec (loadFor who id) eng with ⟨e | card, eng'⟩
  · rw [loaded] at kept
    subst kept
    exact .inl ⟨e, exec_loadFor_ne_race _ who id (by rw [loaded]),
      by simp [setStatus, expired, exec_bind, loaded]⟩
  rw [loaded] at kept found
  subst kept
  obtain ⟨r, row, mirrors⟩ := found card rfl
  have sameStatus : card.status = r.status := mirrors.2.2.2.1
  rcases transition : card.status.transition target who.role with e | (status | _)
  · exact .inl ⟨e, fun id' same => Status.transition_ne_race _ _ _ id' (same ▸ transition),
      by simp [setStatus, expired, exec_bind, loaded, transition]⟩
  · -- the loaded card carries its row's version, so the save writes the new status over the row
    refine .inr (.inr ⟨r, status, { card with status, version := Record.nextVersion r.version },
      row, sameStatus ▸ transition, ?_⟩)
    simp [setStatus, expired, exec_bind, loaded, transition,
      Store.save_mirrored keyed row mirrors status]
  · exact .inr (.inl ⟨card, by simp [setStatus, expired, exec_bind, loaded, transition]⟩)

theorem exec_setStatus_changed (keyed : eng.store.KeyedById) {who : Identity} {id : CardId}
    {target status : Status} {r : Record} {card : Card} (row : eng.store.cards[id]? = some r)
    (opens : r.openWith eng.store.sealer = .ok card) (admin : who.isAdmin = true)
    (allowed : r.status.transition target who.role = .ok (.changed status)) :
    exec (setStatus who id target) eng =
      (.ok { card with status, version := Record.nextVersion r.version },
        { eng with store := { eng.store with
          cards := eng.store.cards.insert id (r.withStatus status) } }) := by
  have notExpired : target ≠ .expired := by
    rintro rfl
    rw [Status.transition_expired] at allowed
    cases allowed
  have mirrors := Record.openWith_mirrors opens
  have loaded : exec (loadFor who id) eng = (.ok card, eng) := by
    simp [loadFor, exec_bind, admin, Store.findById, Store.lookup, row, opens, Except.map]
  rw [← mirrors.2.2.2.1] at allowed
  simp [setStatus, notExpired, exec_bind, loaded, allowed,
    Store.save_mirrored keyed row mirrors status]

/-! ## Transfers -/

theorem staged_rebalanced {s : Store} (keyed : s.KeyedById) {id : CardId} {r r' : Record}
    (row : s.cards[id]? = some r) {card : Card} (mirrors : card.Mirrors r) {b : Balance}
    (staged : s.staged { card with balance := b } = .ok r') : r' = r.rebalanced b := by
  obtain ⟨r₀, row₀, applied⟩ := Store.staged_eq_ok staged
  rw [show card.id = id from Store.id_of_mirrors keyed row mirrors, row] at row₀
  cases row₀
  rw [(StoreCall.apply_eq_ok applied).2]
  simp [StoreCall.written, Record.rebalanced, mirrors.2.2.2.1]

theorem status_of_allowsFundsMovement {status : Status}
    (moves : status.allowsFundsMovement = true) : status = .active := by
  cases status <;> simp_all [Status.allowsFundsMovement]

theorem exec_tryTransfer_cases (keyed : eng.store.KeyedById) (owner : OwnerId)
    (source target : CardId) (amount : Amount) :
    (∃ e, (∀ id, e ≠ .concurrentModification id) ∧
      exec (tryTransfer owner source target amount) eng = (.error e, eng)) ∨
    ∃ s', eng.store.Moved s' source target amount ∧
      exec (tryTransfer owner source target amount) eng = (.ok (), { eng with store := s' }) := by
  -- the attempt's checks, in the order it makes them
  rcases first : eng.store.findByIdAndOwner source owner with e | _ | from_
  · exact .inl ⟨e, Store.findByIdAndOwner_error first, by simp [tryTransfer, exec_bind, first]⟩
  · exact .inl ⟨cardNotFound source, by simp [cardNotFound],
      by simp [tryTransfer, exec_bind, first]⟩
  rcases second : eng.store.findByIdAndOwner target owner with e | _ | to_
  · exact .inl ⟨e, Store.findByIdAndOwner_error second,
      by simp [tryTransfer, exec_bind, first, second]⟩
  · exact .inl ⟨cardNotFound target, by simp [cardNotFound],
      by simp [tryTransfer, exec_bind, first, second]⟩
  cases active₁ : from_.status.allowsFundsMovement
  · exact .inl ⟨.operationConflict ("Source card " ++ source.toText ++ " is not active"),
      by simp, by simp [tryTransfer, exec_bind, first, second, active₁]⟩
  cases active₂ : to_.status.allowsFundsMovement
  · exact .inl ⟨.operationConflict ("Destination card " ++ target.toText ++ " is not active"),
      by simp, by simp [tryTransfer, exec_bind, first, second, active₁, active₂]⟩
  rcases debit : from_.balance.debit amount with _ | debited
  · exact .inl ⟨.insufficientFunds source, by simp,
      by simp [tryTransfer, exec_bind, first, second, active₁, active₂, debit]⟩
  rcases credit : to_.balance.credit amount with e | credited
  · have overflow : e = .balanceOverflow := by
      unfold Balance.credit Balance.checkedAdd at credit
      split at credit <;> cases credit
      rfl
    exact .inl ⟨e, by simp [overflow],
      by simp [tryTransfer, exec_bind, first, second, active₁, active₂, debit, credit]⟩
  -- both cards were read from their own rows, so the pair write passes both version checks
  obtain ⟨r₁, row₁, mirror₁⟩ := Store.findByIdAndOwner_some first
  obtain ⟨r₂, row₂, mirror₂⟩ := Store.findByIdAndOwner_some second
  have id₁ : from_.id = source := Store.id_of_mirrors keyed row₁ mirror₁
  have id₂ : to_.id = target := Store.id_of_mirrors keyed row₂ mirror₂
  by_cases same : source = target
  · -- one card read twice: the pair write refuses it before any check
    have refused : eng.store.saveBoth { from_ with balance := debited }
        { to_ with balance := credited } =
        .error (.invalidRequest "Atomic save needs two distinct cards") := by
      simp [Store.saveBoth, id₁, id₂, same]
    exact .inl ⟨.invalidRequest "Atomic save needs two distinct cards", by simp, by
      simp [tryTransfer, exec_bind, first, second, active₁, active₂, debit, credit, refused]⟩
  obtain ⟨written, saved⟩ :=
    Store.saveBoth_read_back keyed same row₁ row₂ mirror₁ mirror₂ debited credited
  have status₁ : from_.status = r₁.status := mirror₁.2.2.2.1
  have status₂ : to_.status = r₂.status := mirror₂.2.2.2.1
  have balance₁ : from_.balance = r₁.balance := mirror₁.2.2.2.2.1
  have balance₂ : to_.balance = r₂.balance := mirror₂.2.2.2.2.1
  refine .inr ⟨_, ⟨r₁, r₂, debited, credited, same, row₁, row₂,
    status₁ ▸ status_of_allowsFundsMovement active₁,
    status₂ ▸ status_of_allowsFundsMovement active₂, balance₁ ▸ debit, balance₂ ▸ credit, rfl⟩, ?_⟩
  simp [tryTransfer, exec_bind, first, second, active₁, active₂, debit, credit, saved]

theorem exec_transferWithRetries_cases (keyed : eng.store.KeyedById) (owner : OwnerId)
    (source target : CardId) (amount : Amount) (retries : Nat) :
    (∃ e, (∀ id, e ≠ .concurrentModification id) ∧
      exec (transferWithRetries owner source target amount retries) eng = (.error e, eng)) ∨
    ∃ s', eng.store.Moved s' source target amount ∧
      exec (transferWithRetries owner source target amount retries) eng = (.ok (), { eng with store := s' }) := by
  cases retries with
  | zero => exact exec_tryTransfer_cases eng keyed owner source target amount
  | succ retries =>
    rw [transferWithRetries, exec_tryCatch]
    rcases exec_tryTransfer_cases eng keyed owner source target amount with
      ⟨e, notRace, failed⟩ | ⟨s', moved, ran⟩
    · rw [failed]
      cases e
      case concurrentModification id => exact absurd rfl (notRace id)
      all_goals exact .inl ⟨_, notRace, rfl⟩
    · rw [ran]
      exact .inr ⟨s', moved, rfl⟩

theorem exec_transfer_cases (keyed : eng.store.KeyedById) (who : Identity)
    (source target : CardId) (amount : Decimal) :
    (∃ e, (∀ id, e ≠ .concurrentModification id) ∧
      exec (transfer who source target amount) eng = (.error e, eng)) ∨
    ∃ a s', eng.store.Moved s' source target a ∧
      exec (transfer who source target amount) eng = (.ok (), { eng with store := s' }) := by
  by_cases same : source = target
  · exact .inl ⟨.invalidRequest "Cannot transfer funds to the same card", by simp,
      by simp [transfer, same]⟩
  rcases checked : Amount.ofDecimal amount with e | a
  · exact .inl ⟨e, fun id refused => Amount.ofDecimal_ne_race amount id (refused ▸ checked),
      by simp [transfer, same, checked, exec_bind]⟩
  rcases exec_transferWithRetries_cases eng keyed who.id source target a
      eng.config.maxTransferRetries with ⟨e, notRace, failed⟩ | ⟨s', moved, ran⟩
  · exact .inl ⟨e, notRace, by simp [transfer, same, checked, exec_bind, failed]⟩
  · exact .inr ⟨a, s', moved, by simp [transfer, same, checked, exec_bind, ran]⟩

/-! ## Deleting -/

theorem exec_deleteCard_cases (who : Identity) (id : CardId) :
    (∃ e, exec (deleteCard who id) eng = (.error e, eng)) ∨
    ∃ r, eng.store.cards[id]? = some r ∧
      exec (deleteCard who id) eng =
        (.ok (), { eng with store := { eng.store with
          cards := eng.store.cards.erase id, numbers := eng.store.numbers.erase r.number } }) := by
  rcases admin : who.requireAdmin "Deleting a card" with e | _
  · exact .inl ⟨e, by simp [deleteCard, exec_bind, admin]⟩
  cases row : eng.store.cards[id]? with
  | none =>
    -- nothing to remove: the store comes back as it was
    have kept : eng.store.delete id = (false, eng.store) := by rw [Store.delete_eq, row]
    exact .inl ⟨cardNotFound id, by simp [deleteCard, exec_bind, admin, kept]⟩
  | some r =>
    have removed : eng.store.delete id = (true, { eng.store with
        cards := eng.store.cards.erase id, numbers := eng.store.numbers.erase r.number }) := by
      rw [Store.delete_eq, row]
    exact .inr ⟨r, rfl, by simp [deleteCard, exec_bind, admin, removed]⟩

/-! ## Issuing -/

theorem exec_generateFrom_drawn (attempts : Nat) :
    ∃ found entropy, exec (generateFrom attempts) eng = (.ok found, { eng with entropy }) ∧
      ∀ number blob, found = some (number, blob) → eng.sealer.Drawn number blob := by
  induction attempts generalizing eng with
  | zero => exact ⟨none, eng.entropy, rfl, by simp⟩
  | succ attempts induction =>
    obtain ⟨blob, sealed, drawn⟩ := exec_drawNumber eng
    by_cases taken : eng.store.hasNumber blob = true
    · -- a taken blob is drawn again, from the source the draw left
      obtain ⟨found, entropy, run, drawnFound⟩ :=
        induction { eng with entropy := eng.entropy.afterNumber }
      exact ⟨found, entropy, by simp [generateFrom, exec_bind, drawn, taken, run], drawnFound⟩
    · refine ⟨some (eng.entropy.candidate, blob), eng.entropy.afterNumber,
        by simp [generateFrom, exec_bind, drawn, taken], ?_⟩
      intro number blob' found
      cases found
      exact ⟨eng.entropy, rfl, sealed⟩

theorem exec_issueCard_cases (who : Identity) (owner : OwnerId) (expiry : Expiry)
    (opening : Balance) :
    ∃ entropy,
      (∃ e, exec (issueCard who owner expiry opening) eng = (.error e, { eng with entropy })) ∨
      ∃ id number blob c s', eng.sealer.Drawn number blob ∧
        eng.store.insert (Card.issue id owner number expiry opening) blob = .ok (c, s') ∧
        exec (issueCard who owner expiry opening) eng =
          (.ok c, { eng with store := s', entropy }) := by
  rcases admin : who.requireAdmin "Issuing a card" with e | _
  · exact ⟨eng.entropy, .inl ⟨e, by simp [issueCard, exec_bind, admin]⟩⟩
  obtain ⟨found, entropy, generated, drawnFound⟩ :=
    exec_generateFrom_drawn eng eng.config.maxGenerationAttempts
  rcases found with _ | ⟨number, blob⟩
  · exact ⟨entropy, .inl ⟨.exhaustedGeneration eng.config.maxGenerationAttempts,
      by simp [issueCard, generate, exec_bind, admin, generated]⟩⟩
  -- the identifier is drawn after the number, from the source the number draws left
  let id := Uuid.randomV4 (Entropy.bits128 entropy).1
  refine ⟨(Entropy.bits128 entropy).2, ?_⟩
  rcases inserted : eng.store.insert (Card.issue id owner number expiry opening) blob
    with e | ⟨c, s'⟩
  · exact .inl ⟨e, by
      simp [issueCard, generate, exec_bind, admin, generated, exec_newCardId, id, inserted]⟩
  · exact .inr ⟨id, number, blob, c, s', drawnFound number blob rfl, inserted, by
      simp [issueCard, generate, exec_bind, admin, generated, exec_newCardId, id, inserted]⟩

end Engine

end CardLedger
