import Mathlib
import CardLedger.Proofs.Issue
import CardLedger.Proofs.Locks

/-!
# Engine calls as scripts of awaited steps

A running engine call waits at two kinds of points: a store call, which runs as one atomic step
of the store, and the row locks of the cards it changes. A `Script` spells a call out as those
points: `call` awaits one store call and goes on with its answer, `lock` takes a `Guard` before
the rest, and `done` is the call's result. Everything between two awaited points is computed at
once, as the engine computes it.

`Script.run` runs a script alone on a store: the locks are taken at once and every store call
answers on the store its predecessors left. The scripts of the engine's calls are written here
after the engine's own steps, and each runs exactly as the engine's operation does
(`Call.agrees`): this is what lets an interleaved run be compared with runs one call at a time.
-/

namespace CardLedger

/-- A call of the store's interface, indexed by what it answers. -/
inductive Request : Type → Type where
  | findById (id : CardId) : Request (Option Card)
  | findByIdAndOwner (id : CardId) (owner : OwnerId) : Request (Option Card)
  | findAll (filter : Card.Filter) : Request (List Card)
  | hasNumber (blob : Blob) : Request Bool
  | sumByOwner (owner : OwnerId) : Request Balance
  | insert (card : Card) (blob : Blob) : Request Card
  | save (card : Card) : Request Card
  | saveBoth (first second : Card) : Request (Card × Card)
  | delete (id : CardId) : Request Bool

namespace Request

variable {β : Type}

def repo : Request β → RepoM Store β
  | findById id => CardRepository.findById id
  | findByIdAndOwner id owner => CardRepository.findByIdAndOwner id owner
  | findAll filter => CardRepository.findAll filter
  | hasNumber blob => CardRepository.hasNumber blob
  | sumByOwner owner => CardRepository.sumByOwner owner
  | insert card blob => CardRepository.insert card blob
  | save card => CardRepository.save card
  | saveBoth first second => CardRepository.saveBoth first second
  | delete id => CardRepository.delete id

def toCall : Request β → StoreCall
  | findById id => .findById id
  | findByIdAndOwner id owner => .findByIdAndOwner id owner
  | findAll filter => .findAll filter
  | hasNumber blob => .hasNumber blob
  | sumByOwner owner => .sumByOwner owner
  | insert card blob => .insert card blob
  | save card => .save card
  | saveBoth first second => .saveBoth first second
  | delete id => .delete id

def perform (r : Request β) (s : Store) : Outcome β × Store := (r.repo.run).run s

@[simp] theorem perform_findById (id : CardId) (s : Store) :
    (findById id).perform s = (s.findById id, s) := rfl

@[simp] theorem perform_findByIdAndOwner (id : CardId) (owner : OwnerId) (s : Store) :
    (findByIdAndOwner id owner).perform s = (s.findByIdAndOwner id owner, s) := rfl

@[simp] theorem perform_findAll (filter : Card.Filter) (s : Store) :
    (findAll filter).perform s = (s.findAll filter, s) := rfl

@[simp] theorem perform_hasNumber (blob : Blob) (s : Store) :
    (hasNumber blob).perform s = (.ok (s.hasNumber blob), s) := rfl

@[simp] theorem perform_sumByOwner (owner : OwnerId) (s : Store) :
    (sumByOwner owner).perform s = (s.sumByOwner owner, s) := rfl

@[simp] theorem perform_insert (card : Card) (blob : Blob) (s : Store) :
    (insert card blob).perform s = match s.insert card blob with
      | .ok (a, s') => (.ok a, s')
      | .error e => (.error e, s) := by
  rcases written : s.insert card blob with e | ⟨a, s'⟩ <;>
    simp [perform, repo, CardRepository.insert, RepoM.write, ExceptT.run, ExceptT.mk, StateT.run,
      written]

@[simp] theorem perform_save (card : Card) (s : Store) :
    (save card).perform s = match s.save card with
      | .ok (a, s') => (.ok a, s')
      | .error e => (.error e, s) := by
  rcases written : s.save card with e | ⟨a, s'⟩ <;>
    simp [perform, repo, CardRepository.save, RepoM.write, ExceptT.run, ExceptT.mk, StateT.run,
      written]

@[simp] theorem perform_saveBoth (first second : Card) (s : Store) :
    (saveBoth first second).perform s = match s.saveBoth first second with
      | .ok (a, s') => (.ok a, s')
      | .error e => (.error e, s) := by
  rcases written : s.saveBoth first second with e | ⟨a, s'⟩ <;>
    simp [perform, repo, CardRepository.saveBoth, RepoM.write, ExceptT.run, ExceptT.mk,
      StateT.run, written]

@[simp] theorem perform_delete (id : CardId) (s : Store) :
    (delete id).perform s = (.ok (s.delete id).1, (s.delete id).2) := by
  simp only [perform, repo, CardRepository.delete, RepoM.write, StateT.run]
  rfl

theorem perform_snd (r : Request β) (s : Store) : (r.perform s).2 = (r.toCall.result s).2 := by
  cases r <;> rfl

end Request

/-- The row locks a call takes before it reads what it changes: one card's, or a pair's. -/
inductive Guard where
  | one (id : CardId)
  | pair (a b : CardId)

namespace Guard

def ids : Guard → List CardId
  | one id => [id]
  | pair a b => LockTable.pairIds a b

def request (g : Guard) (slot : String) : LockStep :=
  match g with
  | one id => .lock slot id
  | pair a b => .lockPair slot a b

theorem ids_ne_nil (g : Guard) : g.ids ≠ [] := by
  cases g with
  | one id => simp [ids]
  | pair a b =>
    simp only [ids, LockTable.pairIds]
    split_ifs <;> simp

end Guard

/-- An engine call as the points it awaits. -/
inductive Script (α : Type) : Type 1 where
  /-- The call has returned. -/
  | done (result : Outcome α)
  /-- The call awaits a store request and goes on with its answer. -/
  | call {β : Type} (request : Request β) (next : Outcome β → Script α)
  /-- The call takes the row locks of a guard, held until it returns. -/
  | lock (guard : Guard) (next : Script α)

namespace Script

variable {α β γ : Type}

def bind : Script α → (α → Script β) → Script β
  | done (.ok a), f => f a
  | done (.error e), _ => done (.error e)
  | call c next, f => call c fun o => (next o).bind f
  | lock g next, f => lock g (next.bind f)

def handle : Script α → (CardError → Script α) → Script α
  | done (.ok a), _ => done (.ok a)
  | done (.error e), h => h e
  | call c next, h => call c fun o => (next o).handle h
  | lock g next, h => lock g (next.handle h)

instance : Monad Script where
  pure a := done (.ok a)
  bind := bind

instance : MonadExceptOf CardError Script where
  throw e := done (.error e)
  tryCatch := handle

@[simp] theorem pure_eq (a : α) : (pure a : Script α) = done (.ok a) := rfl

@[simp] theorem bind_eq (x : Script α) (f : α → Script β) : x >>= f = x.bind f := rfl

@[simp] theorem throw_eq (e : CardError) : (throw e : Script α) = done (.error e) := rfl

@[simp] theorem tryCatch_eq (x : Script α) (h : CardError → Script α) :
    tryCatch x h = x.handle h := rfl

@[simp] theorem map_eq (f : α → β) (x : Script α) :
    f <$> x = x.bind (fun a => done (.ok (f a))) :=
  rfl

@[simp] theorem bind_ok (a : α) (f : α → Script β) : (done (.ok a)).bind f = f a := rfl

@[simp] theorem bind_error (e : CardError) (f : α → Script β) :
    (done (.error e) : Script α).bind f = done (.error e) := rfl

@[simp] theorem bind_call (c : Request γ) (next : Outcome γ → Script α)
    (f : α → Script β) :
    (call c next).bind f = call c fun o => (next o).bind f := rfl

@[simp] theorem bind_lock (g : Guard) (next : Script α) (f : α → Script β) :
    (lock g next).bind f = lock g (next.bind f) := rfl

@[simp] theorem handle_ok (a : α) (h : CardError → Script α) :
    (done (.ok a)).handle h = done (.ok a) :=
  rfl

@[simp] theorem handle_error (e : CardError) (h : CardError → Script α) :
    (done (.error e)).handle h = h e := rfl

@[simp] theorem handle_call (c : Request γ) (next : Outcome γ → Script α)
    (h : CardError → Script α) :
    (call c next).handle h = call c fun o => (next o).handle h := rfl

def perform (c : Request α) : Script α := call c done

def check (o : Outcome α) : Script α := done o

@[simp] theorem perform_bind (c : Request α) (f : α → Script β) :
    (perform c).bind f = call c fun o => (done o).bind f := rfl

@[simp] theorem check_eq (o : Outcome α) : check o = done o := rfl

/-- Runs a script alone on a store: locks are free, and each store call answers on the store the
calls before it left. -/
def run : Script α → Store → Outcome α × Store
  | done r, s => (r, s)
  | call c next, s => (next (c.perform s).1).run (c.perform s).2
  | lock _ next, s => next.run s

@[simp] theorem run_done (r : Outcome α) (s : Store) : (done r).run s = (r, s) := rfl

@[simp] theorem run_call (c : Request γ) (next : Outcome γ → Script α) (s : Store) :
    (call c next).run s = (next (c.perform s).1).run (c.perform s).2 := rfl

@[simp] theorem run_lock (g : Guard) (next : Script α) (s : Store) :
    (lock g next).run s = next.run s := rfl

@[simp] theorem run_perform (c : Request α) (s : Store) : (perform c).run s = c.perform s := rfl

theorem run_bind (x : Script α) (f : α → Script β) (s : Store) :
    (x.bind f).run s = match x.run s with
      | (.ok a, s') => (f a).run s'
      | (.error e, s') => (.error e, s') := by
  induction x generalizing s with
  | done r => cases r <;> rfl
  | call c next ih => exact ih _ _
  | lock g next ih => exact ih s

theorem run_handle (x : Script α) (h : CardError → Script α) (s : Store) :
    (x.handle h).run s = match x.run s with
      | (.ok a, s') => (.ok a, s')
      | (.error e, s') => (h e).run s' := by
  induction x generalizing s with
  | done r => cases r <;> rfl
  | call c next ih => exact ih _ _
  | lock g next ih => exact ih s

/-! ## The engine's calls as scripts -/

def orNotFound (id : CardId) : Option Card → Script Card
  | some card => pure card
  | none => throw (Engine.cardNotFound id)

def loadFor (who : Identity) (id : CardId) : Script Card := do
  let card? ← if who.isAdmin then perform (.findById id)
    else perform (.findByIdAndOwner id who.id)
  orNotFound id card?

def setStatus (who : Identity) (id : CardId) (target : Status) : Script Card := do
  if target = .expired then
    throw (.invalidTransition "Status cannot be set to expired manually")
  lock (.one id) do
    let card ← loadFor who id
    match ← check (card.status.transition target who.role) with
    | .unchanged => pure card
    | .changed status => perform (.save { card with status })

def tryTransfer (owner : OwnerId) (source target : CardId) (amount : Amount) : Script Unit := do
  let from_ ← orNotFound source (← perform (.findByIdAndOwner source owner))
  let to_ ← orNotFound target (← perform (.findByIdAndOwner target owner))
  if !from_.status.allowsFundsMovement then
    throw (.operationConflict ("Source card " ++ source.toText ++ " is not active"))
  if !to_.status.allowsFundsMovement then
    throw (.operationConflict ("Destination card " ++ target.toText ++ " is not active"))
  let debited ← match from_.balance.debit amount with
    | some b => pure b
    | none => throw (.insufficientFunds source)
  let credited ← check (to_.balance.credit amount)
  let _ ← perform (.saveBoth { from_ with balance := debited } { to_ with balance := credited })
  pure ()

def transferWithRetries (owner : OwnerId) (source target : CardId) (amount : Amount) :
    Nat → Script Unit
  | 0 => tryTransfer owner source target amount
  | retries + 1 =>
    tryCatch (tryTransfer owner source target amount) fun e =>
      match e with
      | .concurrentModification _ => transferWithRetries owner source target amount retries
      | other => throw other

def transfer (config : Config) (who : Identity) (source target : CardId) (amount : Decimal) :
    Script Unit := do
  if source = target then throw (.invalidRequest "Cannot transfer funds to the same card")
  let amount ← check (Amount.ofDecimal amount)
  lock (.pair source target)
    (transferWithRetries who.id source target amount config.maxTransferRetries)

def getBalance (who : Identity) (id : CardId) : Script Balance := do
  let card ← orNotFound id (← perform (.findByIdAndOwner id who.id))
  pure card.balance

def getTotalBalance (who : Identity) : Script Balance :=
  perform (.sumByOwner who.id)

def listCards (who : Identity) (f : Card.Filter) : Script (List Card.View) := do
  let f := if who.isAdmin then f else f.ownedBy who.id
  pure ((← perform (.findAll f)).map Card.view)

def deleteCard (who : Identity) (id : CardId) : Script Unit := do
  check (who.requireAdmin "Deleting a card")
  lock (.one id) do
    if !(← perform (.delete id)) then throw (Engine.cardNotFound id)

/-- Draws numbers from a random source until one is not stored, at most `attempts` times; each
draw is the engine's, as `Engine.exec_drawNumber` gives it. Returns the source after the draws. -/
def generateFrom (sealer : Sealer) :
    Nat → Entropy → Script (Option (CardNumber × Blob) × Entropy)
  | 0, e => pure (none, e)
  | attempts + 1, e =>
    match sealer.sealWithNonce e.drawnNonce e.candidate.text with
    | none => throw (.cryptoFailure "empty card number")
    | some blob => do
      if ← perform (.hasNumber blob) then generateFrom sealer attempts e.afterNumber
      else pure (some (e.candidate, blob), e.afterNumber)

def issueCard (config : Config) (sealer : Sealer) (e : Entropy) (who : Identity) (owner : OwnerId)
    (expiry : Expiry) (opening : Balance) : Script Card := do
  check (who.requireAdmin "Issuing a card")
  let (found, e') ← generateFrom sealer config.maxGenerationAttempts e
  match found with
  | none => throw (.exhaustedGeneration config.maxGenerationAttempts)
  | some (number, blob) =>
    perform (.insert (Card.issue (Uuid.randomV4 (Entropy.bits128 e').1) owner number expiry opening)
      blob)

/-! ## Each script runs as the engine's operation -/

section Runs

open Engine

def Runs (m : EngineM Store α) (p : Script α) (eng : Engine Store) : Prop :=
  exec m eng = ((p.run eng.store).1, { eng with store := (p.run eng.store).2 })

theorem runs_getBalance (who : Identity) (id : CardId) (eng : Engine Store) :
    Runs (Engine.getBalance who id) (getBalance who id) eng := by
  rcases found : eng.store.findByIdAndOwner id who.id with e | _ | card <;>
    simp [Runs, Engine.getBalance, getBalance, exec_bind, found, orNotFound]

theorem runs_getTotalBalance (who : Identity) (eng : Engine Store) :
    Runs (Engine.getTotalBalance who) (getTotalBalance who) eng := rfl

theorem runs_listCards (who : Identity) (f : Card.Filter) (eng : Engine Store) :
    Runs (Engine.listCards who f) (listCards who f) eng := by
  rcases found : eng.store.findAll (if who.isAdmin then f else f.ownedBy who.id) with e | cards <;>
    simp [Runs, Engine.listCards, listCards, found]

theorem runs_deleteCard (who : Identity) (id : CardId) (eng : Engine Store) :
    Runs (Engine.deleteCard who id) (deleteCard who id) eng := by
  rcases admin : who.requireAdmin "Deleting a card" with e | _
  · simp [Runs, Engine.deleteCard, deleteCard, exec_bind, admin]
  · cases deleted : (eng.store.delete id).1 <;>
      simp [Runs, Engine.deleteCard, deleteCard, exec_bind, admin, deleted]

theorem runs_loadFor (who : Identity) (id : CardId) (eng : Engine Store) :
    Runs (Engine.loadFor who id) (loadFor who id) eng := by
  by_cases admin : who.isAdmin = true
  · rcases found : eng.store.findById id with e | _ | card <;>
      simp [Runs, Engine.loadFor, loadFor, exec_bind, admin, found, orNotFound]
  · rcases found : eng.store.findByIdAndOwner id who.id with e | _ | card <;>
      simp [Runs, Engine.loadFor, loadFor, exec_bind, admin, found, orNotFound]

theorem Runs.bind {x : EngineM Store α} {p : Script α} {f : α → EngineM Store β}
    {g : α → Script β} {eng : Engine Store} (first : Runs x p eng)
    (rest : ∀ a (s : Store), Runs (f a) (g a) { eng with store := s }) :
    Runs (x >>= f) (p.bind g) eng := by
  unfold Runs at first ⊢
  rw [exec_bind, first, run_bind]
  rcases p.run eng.store with ⟨_ | a, s⟩
  · rfl
  · exact rest a s

theorem runs_setStatus (who : Identity) (id : CardId) (target : Status) (eng : Engine Store) :
    Runs (Engine.setStatus who id target) (setStatus who id target) eng := by
  by_cases expired : target = .expired
  · simp [Runs, Engine.setStatus, setStatus, expired]
  · have loaded := runs_loadFor who id eng
    unfold Runs at loaded
    simp only [Runs, Engine.setStatus, setStatus, expired, ↓reduceIte, exec_bind, loaded, bind_eq,
      run_bind, run_lock]
    rcases (loadFor who id).run eng.store with ⟨_ | card, s⟩
    · simp
    · rcases transition : card.status.transition target who.role with e | (status | _)
      · simp [transition]
      · rcases saved : s.save { card with status } with e | ⟨saved, s'⟩ <;>
          simp [transition, saved]
      · simp [transition]

theorem runs_tryTransfer (owner : OwnerId) (source target : CardId) (amount : Amount)
    (eng : Engine Store) :
    Runs (Engine.tryTransfer owner source target amount) (tryTransfer owner source target amount)
      eng := by
  -- the attempt's checks, in the order it makes them
  rcases first : eng.store.findByIdAndOwner source owner with e | _ | from_
  · simp [Runs, Engine.tryTransfer, tryTransfer, exec_bind, first]
  · simp [Runs, Engine.tryTransfer, tryTransfer, exec_bind, first, orNotFound]
  rcases second : eng.store.findByIdAndOwner target owner with e | _ | to_
  · simp [Runs, Engine.tryTransfer, tryTransfer, exec_bind, first, second, orNotFound]
  · simp [Runs, Engine.tryTransfer, tryTransfer, exec_bind, first, second, orNotFound]
  cases active₁ : from_.status.allowsFundsMovement
  · simp [Runs, Engine.tryTransfer, tryTransfer, exec_bind, first, second, orNotFound, active₁]
  cases active₂ : to_.status.allowsFundsMovement
  · simp [Runs, Engine.tryTransfer, tryTransfer, exec_bind, first, second, orNotFound, active₁,
      active₂]
  rcases debit : from_.balance.debit amount with _ | debited
  · simp [Runs, Engine.tryTransfer, tryTransfer, exec_bind, first, second, orNotFound, active₁,
      active₂, debit]
  rcases credit : to_.balance.credit amount with e | credited
  · simp [Runs, Engine.tryTransfer, tryTransfer, exec_bind, first, second, orNotFound, active₁,
      active₂, debit, credit]
  rcases saved :
      eng.store.saveBoth { from_ with balance := debited } { to_ with balance := credited }
    with e | ⟨pair, s'⟩ <;>
  simp [Runs, Engine.tryTransfer, tryTransfer, exec_bind, first, second, orNotFound, active₁,
    active₂, debit, credit, saved]

theorem Runs.handle {x : EngineM Store α} {p : Script α} {h : CardError → EngineM Store α}
    {h' : CardError → Script α} {eng : Engine Store} (first : Runs x p eng)
    (rest : ∀ e (s : Store), Runs (h e) (h' e) { eng with store := s }) :
    Runs (tryCatch x h) (p.handle h') eng := by
  unfold Runs at first ⊢
  rw [exec_tryCatch, first, run_handle]
  rcases p.run eng.store with ⟨e | a, s⟩
  · exact rest e s
  · rfl

theorem runs_transferWithRetries (owner : OwnerId) (source target : CardId) (amount : Amount)
    (retries : Nat) (eng : Engine Store) :
    Runs (Engine.transferWithRetries owner source target amount retries)
      (transferWithRetries owner source target amount retries) eng := by
  induction retries generalizing eng with
  | zero => exact runs_tryTransfer owner source target amount eng
  | succ retries ih =>
    rw [Engine.transferWithRetries, transferWithRetries, tryCatch_eq]
    refine Runs.handle (runs_tryTransfer owner source target amount eng) fun e s => ?_
    cases e
    case concurrentModification id => exact ih _
    all_goals simp [Runs]

theorem runs_transfer (who : Identity) (source target : CardId) (amount : Decimal)
    (eng : Engine Store) :
    Runs (Engine.transfer who source target amount) (transfer eng.config who source target amount)
      eng := by
  by_cases same : source = target
  · simp [Runs, Engine.transfer, transfer, same]
  rcases checked : Amount.ofDecimal amount with e | amount
  · simp [Runs, Engine.transfer, transfer, same, checked, exec_bind]
  · have retried := runs_transferWithRetries who.id source target amount
      eng.config.maxTransferRetries eng
    unfold Runs at retried
    simp [Runs, Engine.transfer, transfer, same, checked, exec_bind, retried]

theorem run_generateFrom (sealer : Sealer) (attempts : Nat) (e : Entropy) (s : Store) :
    ∃ found e', (generateFrom sealer attempts e).run s = (.ok (found, e'), s) ∧
      ∀ eng : Engine Store, eng.store = s → eng.sealer = sealer → eng.entropy = e →
        exec (Engine.generateFrom attempts) eng = (.ok found, { eng with entropy := e' }) := by
  induction attempts generalizing e with
  | zero =>
    refine ⟨none, e, rfl, ?_⟩
    intro eng _ _ drawn
    subst drawn
    rfl
  | succ attempts ih =>
    obtain ⟨blob, sealed⟩ :
        ∃ blob, sealer.sealWithNonce e.drawnNonce e.candidate.text = some blob := by
      cases h : sealer.sealWithNonce e.drawnNonce e.candidate.text with
      | none => simp [Sealer.sealWithNonce, Entropy.candidate_isEmpty] at h
      | some blob => exact ⟨blob, rfl⟩
    by_cases taken : s.hasNumber blob
    · obtain ⟨found, e', run, exec'⟩ := ih e.afterNumber
      refine ⟨found, e', by simp [generateFrom, sealed, taken, run], ?_⟩
      intro eng stored sealer' drawn
      subst stored sealer' drawn
      obtain ⟨blob', sealed', drawNumber⟩ := exec_drawNumber eng
      rw [sealed, Option.some_inj] at sealed'
      subst sealed'
      simp [Engine.generateFrom, exec_bind, drawNumber, taken,
        exec' { eng with entropy := eng.entropy.afterNumber } rfl rfl rfl]
    · refine ⟨some (e.candidate, blob), e.afterNumber, by simp [generateFrom, sealed, taken],
        ?_⟩
      intro eng stored sealer' drawn
      subst stored sealer' drawn
      obtain ⟨blob', sealed', drawNumber⟩ := exec_drawNumber eng
      rw [sealed, Option.some_inj] at sealed'
      subst sealed'
      simp [Engine.generateFrom, exec_bind, drawNumber, taken]

theorem agrees_issueCard (who : Identity) (owner : OwnerId) (expiry : Expiry) (opening : Balance)
    (eng : Engine Store) :
    let p := issueCard eng.config eng.sealer eng.entropy who owner expiry opening
    (exec (Engine.issueCard who owner expiry opening) eng).1 = (p.run eng.store).1 ∧
      (exec (Engine.issueCard who owner expiry opening) eng).2.store = (p.run eng.store).2 := by
  rcases admin : who.requireAdmin "Issuing a card" with e | _
  · simp [Engine.issueCard, issueCard, exec_bind, admin]
  obtain ⟨found, e', run, generated⟩ :=
    run_generateFrom eng.sealer eng.config.maxGenerationAttempts eng.entropy eng.store
  have drawn := generated eng rfl rfl rfl
  rcases found with _ | ⟨number, blob⟩
  · simp [Engine.issueCard, issueCard, Engine.generate, exec_bind, admin, run, run_bind, drawn]
  · rcases inserted : eng.store.insert
        (Card.issue (Uuid.randomV4 (Entropy.bits128 e').1) owner number expiry opening) blob
      with err | ⟨card, s'⟩ <;>
    simp [Engine.issueCard, issueCard, Engine.generate, exec_bind, admin, run, run_bind, drawn,
      exec_newCardId, inserted]

end Runs

end Script

/-- A call of the engine, as a client makes it. -/
inductive Call where
  | transfer (who : Identity) (source target : CardId) (amount : Decimal)
  | setStatus (who : Identity) (id : CardId) (target : Status)
  | deleteCard (who : Identity) (id : CardId)
  | issueCard (who : Identity) (owner : OwnerId) (expiry : Expiry) (opening : Balance)
  | getBalance (who : Identity) (id : CardId)
  | getTotalBalance (who : Identity)
  | listCards (who : Identity) (filter : Card.Filter)

inductive Reply where
  | unit
  | card (card : Card)
  | balance (balance : Balance)
  | views (views : List Card.View)

namespace Call

open Engine

def run : Call → EngineM Store Reply
  | transfer who source target amount =>
    (fun _ => .unit) <$> Engine.transfer who source target amount
  | setStatus who id target => .card <$> Engine.setStatus who id target
  | deleteCard who id => (fun _ => .unit) <$> Engine.deleteCard who id
  | issueCard who owner expiry opening => .card <$> Engine.issueCard who owner expiry opening
  | getBalance who id => .balance <$> Engine.getBalance who id
  | getTotalBalance who => .balance <$> Engine.getTotalBalance who
  | listCards who filter => .views <$> Engine.listCards who filter

def script (config : Config) (sealer : Sealer) (e : Entropy) : Call → Script Reply
  | transfer who source target amount =>
    (fun _ => .unit) <$> Script.transfer config who source target amount
  | setStatus who id target => .card <$> Script.setStatus who id target
  | deleteCard who id => (fun _ => .unit) <$> Script.deleteCard who id
  | issueCard who owner expiry opening =>
    .card <$> Script.issueCard config sealer e who owner expiry opening
  | getBalance who id => .balance <$> Script.getBalance who id
  | getTotalBalance who => .balance <$> Script.getTotalBalance who
  | listCards who filter => .views <$> Script.listCards who filter

def nonce? (e : Entropy) : Call → Option (List UInt8)
  | issueCard .. => some e.drawnNonce
  | _ => none

private theorem agrees_map {α : Type} (f : α → Reply) {m : EngineM Store α} {p : Script α}
    {eng : Engine Store} (first : (exec m eng).1 = (p.run eng.store).1)
    (second : (exec m eng).2.store = (p.run eng.store).2) :
    (exec (f <$> m) eng).1 = ((f <$> p).run eng.store).1 ∧
      (exec (f <$> m) eng).2.store = ((f <$> p).run eng.store).2 := by
  rw [exec_map, Script.map_eq, Script.run_bind]
  rcases ran : p.run eng.store with ⟨_ | a, s⟩ <;>
  rcases executed : exec m eng with ⟨_ | b, eng'⟩ <;>
  simp_all

theorem agrees (c : Call) (eng : Engine Store) :
    (exec c.run eng).1 = ((c.script eng.config eng.sealer eng.entropy).run eng.store).1 ∧
      (exec c.run eng).2.store =
        ((c.script eng.config eng.sealer eng.entropy).run eng.store).2 := by
  have ofRuns : ∀ {α : Type} {m : EngineM Store α} {p : Script α}, Script.Runs m p eng →
      (exec m eng).1 = (p.run eng.store).1 ∧ (exec m eng).2.store = (p.run eng.store).2 := by
    intro α m p runs
    rw [runs]
    exact ⟨rfl, rfl⟩
  cases c with
  | transfer who source target amount =>
    obtain ⟨first, second⟩ := ofRuns (Script.runs_transfer who source target amount eng)
    exact agrees_map _ first second
  | setStatus who id target =>
    obtain ⟨first, second⟩ := ofRuns (Script.runs_setStatus who id target eng)
    exact agrees_map _ first second
  | deleteCard who id =>
    obtain ⟨first, second⟩ := ofRuns (Script.runs_deleteCard who id eng)
    exact agrees_map _ first second
  | issueCard who owner expiry opening =>
    obtain ⟨first, second⟩ := Script.agrees_issueCard who owner expiry opening eng
    exact agrees_map _ first second
  | getBalance who id =>
    obtain ⟨first, second⟩ := ofRuns (Script.runs_getBalance who id eng)
    exact agrees_map _ first second
  | getTotalBalance who =>
    obtain ⟨first, second⟩ := ofRuns (Script.runs_getTotalBalance who eng)
    exact agrees_map _ first second
  | listCards who filter =>
    obtain ⟨first, second⟩ := ofRuns (Script.runs_listCards who filter eng)
    exact agrees_map _ first second

end Call

end CardLedger
