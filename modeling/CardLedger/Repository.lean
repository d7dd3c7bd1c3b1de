import CardLedger.Store

/-!
# What the engine needs from a store

`CardRepository σ` lists the store operations the engine uses, each a step of
`RepoM σ = ExceptT CardError (StateM σ)`: it may fail, and the store value it leaves behind is
kept even when it fails (a store that counts its calls counts the failing ones too).

`Store` is the plain instance. `Faulty σ` wraps another store to exercise the engine's recovery
paths: the first `collisions` existence checks answer "taken", and the first `conflicts` pair
writes fail as if another writer had changed the first card. It counts both kinds of call.
-/

namespace CardLedger

abbrev RepoM (σ : Type) := ExceptT CardError (StateM σ)

/-- The store operations the engine uses. -/
class CardRepository (σ : Type) where
  findById : CardId → RepoM σ (Option Card)
  findByIdAndOwner : CardId → OwnerId → RepoM σ (Option Card)
  findAll : Card.Filter → RepoM σ (List Card)
  hasNumber : Blob → RepoM σ Bool
  insert : Card → Blob → RepoM σ Card
  save : Card → RepoM σ Card
  saveBoth : Card → Card → RepoM σ (Card × Card)
  sumByOwner : OwnerId → RepoM σ Balance
  delete : CardId → RepoM σ Bool

namespace RepoM

def read {σ α : Type} (f : σ → Outcome α) : RepoM σ α :=
  ExceptT.mk fun s => (f s, s)

/-- A write that either fails, leaving the store as it is, or replaces it. -/
def write {σ α : Type} (f : σ → Outcome (α × σ)) : RepoM σ α :=
  ExceptT.mk fun s =>
    match f s with
    | .ok (a, s') => (.ok a, s')
    | .error e => (.error e, s)

end RepoM

instance : CardRepository Store where
  findById id := .read (·.findById id)
  findByIdAndOwner id owner := .read (·.findByIdAndOwner id owner)
  findAll f := .read (·.findAll f)
  hasNumber blob := .read fun s => .ok (s.hasNumber blob)
  insert card blob := .write (·.insert card blob)
  save card := .write (·.save card)
  saveBoth first second := .write (·.saveBoth first second)
  sumByOwner owner := .read (·.sumByOwner owner)
  delete id := .write fun s => .ok (s.delete id)

/-- A store with injected failures and call counters. -/
structure Faulty (σ : Type) where
  inner : σ
  collisionsLeft : Nat := 0
  conflictsLeft : Nat := 0
  existenceChecks : Nat := 0
  pairSaves : Nat := 0

namespace Faulty

variable {σ : Type} [CardRepository σ]

/-- Runs a step of the wrapped store. -/
def lift {α : Type} (m : RepoM σ α) : RepoM (Faulty σ) α :=
  ExceptT.mk fun f =>
    let (result, inner) := (m.run).run f.inner
    (result, { f with inner })

/-- Counts the call; answers "taken" while collisions are left. -/
def hasNumber (blob : Blob) : RepoM (Faulty σ) Bool := do
  modify fun f => { f with existenceChecks := f.existenceChecks + 1 }
  let f ← get
  if f.collisionsLeft > 0 then
    set { f with collisionsLeft := f.collisionsLeft - 1 }
    pure true
  else lift (CardRepository.hasNumber blob)

/-- Counts the call; fails as a lost race on the first card while conflicts are left. -/
def saveBoth (first second : Card) : RepoM (Faulty σ) (Card × Card) := do
  modify fun f => { f with pairSaves := f.pairSaves + 1 }
  let f ← get
  if f.conflictsLeft > 0 then
    set { f with conflictsLeft := f.conflictsLeft - 1 }
    throw (.concurrentModification first.id)
  else lift (CardRepository.saveBoth first second)

instance : CardRepository (Faulty σ) where
  findById id := lift (CardRepository.findById id)
  findByIdAndOwner id owner := lift (CardRepository.findByIdAndOwner id owner)
  findAll f := lift (CardRepository.findAll f)
  hasNumber := hasNumber
  insert card blob := lift (CardRepository.insert card blob)
  save card := lift (CardRepository.save card)
  saveBoth := saveBoth
  sumByOwner owner := lift (CardRepository.sumByOwner owner)
  delete id := lift (CardRepository.delete id)

end Faulty

end CardLedger
