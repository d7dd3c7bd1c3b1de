import Mathlib
import CardLedger.Engine

/-!
# Engine steps as state transitions

An engine step `m : EngineM σ α` runs on an engine and gives a result together with the engine
after it. `Engine.exec` names that run. The equations here say what each building block of the
engine's operations does when run, so that a proof follows an operation step by step and never
unfolds the monad.
-/

namespace CardLedger

namespace Engine

section Steps

variable {σ : Type}

def exec {α : Type} (m : EngineM σ α) (eng : Engine σ) : Except CardError α × Engine σ :=
  (m.run).run eng

theorem exec_bind {α β : Type} (x : EngineM σ α) (f : α → EngineM σ β) (eng : Engine σ) :
    exec (x >>= f) eng = match exec x eng with
      | (.ok a, eng') => exec (f a) eng'
      | (.error e, eng') => (.error e, eng') := by
  simp only [exec, ExceptT.run_bind, StateT.run_bind]
  rcases (x.run).run eng with ⟨_ | _, eng'⟩ <;> rfl

theorem exec_tryCatch {α : Type} (x : EngineM σ α) (handle : CardError → EngineM σ α)
    (eng : Engine σ) :
    exec (tryCatch x handle) eng = match exec x eng with
      | (.ok a, eng') => (.ok a, eng')
      | (.error e, eng') => exec (handle e) eng' := by
  simp only [exec, ExceptT.run_tryCatch, StateT.run_bind]
  rcases (x.run).run eng with ⟨_ | _, eng'⟩ <;> rfl

@[simp] theorem exec_map {α β : Type} (f : α → β) (x : EngineM σ α) (eng : Engine σ) :
    exec (f <$> x) eng = match exec x eng with
      | (.ok a, eng') => (.ok (f a), eng')
      | (.error e, eng') => (.error e, eng') := by
  simp only [exec, ExceptT.run_map, StateT.run_map]
  rcases (x.run).run eng with ⟨_ | _, eng'⟩ <;> rfl

@[simp] theorem exec_pure {α : Type} (a : α) (eng : Engine σ) :
    exec (pure a : EngineM σ α) eng = (.ok a, eng) := rfl

@[simp] theorem exec_throw {α : Type} (e : CardError) (eng : Engine σ) :
    exec (throw e : EngineM σ α) eng = (.error e, eng) := rfl

@[simp] theorem exec_get (eng : Engine σ) :
    exec (get : EngineM σ (Engine σ)) eng = (.ok eng, eng) := rfl

@[simp] theorem exec_check {α : Type} (o : Outcome α) (eng : Engine σ) :
    exec (check o : EngineM σ α) eng = (o, eng) := by
  cases o <;> rfl

@[simp] theorem exec_orNotFound [CardRepository σ] (id : CardId) (card? : Option Card)
    (eng : Engine σ) :
    exec (orNotFound id card? : EngineM σ Card) eng =
      (match card? with
        | some card => .ok card
        | none => .error (cardNotFound id), eng) := by
  cases card? <;> rfl

@[simp] theorem exec_draw {α : Type} (f : Entropy → α × Entropy) (eng : Engine σ) :
    exec (draw f : EngineM σ α) eng =
      (.ok (f eng.entropy).1, { eng with entropy := (f eng.entropy).2 }) := rfl

theorem exec_onStore [CardRepository σ] {α : Type} (m : RepoM σ α) (eng : Engine σ) :
    exec (onStore m) eng =
      (((m.run).run eng.store).1, { eng with store := ((m.run).run eng.store).2 }) := rfl

end Steps

/-! ## Steps on the plain store -/

section PlainStore

variable (eng : Engine Store)

@[simp] theorem exec_findById (id : CardId) :
    exec (onStore (CardRepository.findById id)) eng = (eng.store.findById id, eng) := rfl

@[simp] theorem exec_findByIdAndOwner (id : CardId) (owner : OwnerId) :
    exec (onStore (CardRepository.findByIdAndOwner id owner)) eng =
      (eng.store.findByIdAndOwner id owner, eng) := rfl

@[simp] theorem exec_hasNumber (blob : Blob) :
    exec (onStore (CardRepository.hasNumber blob)) eng = (.ok (eng.store.hasNumber blob), eng) :=
  rfl

@[simp] theorem exec_findAll (f : Card.Filter) :
    exec (onStore (CardRepository.findAll f)) eng = (eng.store.findAll f, eng) := rfl

@[simp] theorem exec_sumByOwner (owner : OwnerId) :
    exec (onStore (CardRepository.sumByOwner owner)) eng = (eng.store.sumByOwner owner, eng) := rfl

/-! A write on the plain store fails and keeps the engine, or replaces the store. -/

@[simp] theorem exec_delete (id : CardId) :
    exec (onStore (CardRepository.delete id)) eng =
      (.ok (eng.store.delete id).1, { eng with store := (eng.store.delete id).2 }) := rfl

@[simp] theorem exec_insert (card : Card) (blob : Blob) :
    exec (onStore (CardRepository.insert card blob)) eng = match eng.store.insert card blob with
      | .ok (a, s') => (.ok a, { eng with store := s' })
      | .error e => (.error e, eng) := by
  simp only [exec_onStore]
  rcases written : eng.store.insert card blob with e | ⟨a, s'⟩ <;>
    simp [CardRepository.insert, RepoM.write, StateT.run, written]

@[simp] theorem exec_save (card : Card) :
    exec (onStore (CardRepository.save card)) eng = match eng.store.save card with
      | .ok (a, s') => (.ok a, { eng with store := s' })
      | .error e => (.error e, eng) := by
  simp only [exec_onStore]
  rcases written : eng.store.save card with e | ⟨a, s'⟩ <;>
    simp [CardRepository.save, RepoM.write, StateT.run, written]

@[simp] theorem exec_saveBoth (first second : Card) :
    exec (onStore (CardRepository.saveBoth first second)) eng =
      match eng.store.saveBoth first second with
      | .ok (a, s') => (.ok a, { eng with store := s' })
      | .error e => (.error e, eng) := by
  simp only [exec_onStore]
  rcases written : eng.store.saveBoth first second with e | ⟨a, s'⟩ <;>
    simp [CardRepository.saveBoth, RepoM.write, StateT.run, written]

end PlainStore

end Engine

end CardLedger
