import CardLedger.Repository
import CardLedger.Config

/-!
# The card engine

The engine issues cards, changes their status and moves money, over any `CardRepository`. Its
state is the store, the key that seals new card numbers, the settings and the random source.

* Issuing needs the admin role. A number is drawn as fifteen random digits completed by their
  Luhn digit, sealed under a fresh nonce, and kept when the store does not hold that blob yet;
  after `maxGenerationAttempts` taken draws issuing fails.
* A status change to `expired` is refused before anything is read. Admins reach every card,
  users only their own; `Status.transition` decides, and an unchanged status is not written.
* A transfer moves a positive amount between two distinct cards of the caller, both active. The
  pair is written together; a lost race is retried up to `maxTransferRetries` more times.
* Balances, single cards and lists are read-only. A user's list is limited to the user's cards.
* Deleting needs the admin role.
-/

namespace CardLedger

/-- The engine over a store of type `σ`. -/
structure Engine (σ : Type) where
  store : σ
  sealer : Sealer
  config : Config
  entropy : Entropy

abbrev EngineM (σ : Type) := ExceptT CardError (StateM (Engine σ))

namespace Engine

variable {σ : Type} [CardRepository σ]

def create (store : σ) (sealer : Sealer) (config : Config) (entropy : Entropy) :
    Outcome (Engine σ) :=
  config.validate.map fun _ => { store, sealer, config, entropy }

/-- Runs a store step on the engine's store. -/
def onStore {α : Type} (m : RepoM σ α) : EngineM σ α :=
  ExceptT.mk fun eng =>
    let (result, store) := (m.run).run eng.store
    (result, { eng with store })

/-- Fails with the error of an outcome. -/
def check {α : Type} (o : Outcome α) : EngineM σ α :=
  match o with
  | .ok a => pure a
  | .error e => throw e

/-- Draws from the random source. -/
def draw {α : Type} (f : Entropy → α × Entropy) : EngineM σ α := do
  let eng ← get
  let (a, entropy) := f eng.entropy
  set { eng with entropy }
  pure a

def digitText (ds : List Nat) : String := String.ofList (ds.map fun d => Char.ofNat (48 + d))

/-- One draw of a card number: fifteen random digits and their check digit, sealed. -/
def drawNumber : EngineM σ (CardNumber × Blob) := do
  let prefixDigits ← draw (Entropy.digits 15)
  let text ← check (Luhn.complete (digitText prefixDigits))
  let number ← check (CardNumber.parse text)
  let eng ← get
  match ← draw (eng.sealer.sealFresh number.text) with
  | some blob => pure (number, blob)
  | none => throw (.cryptoFailure "empty card number")

/-- Draws numbers until one is not stored, at most `attempts` times. -/
def generateFrom : Nat → EngineM σ (Option (CardNumber × Blob))
  | 0 => pure none
  | attempts + 1 => do
    let (number, blob) ← drawNumber
    if ← onStore (CardRepository.hasNumber blob) then generateFrom attempts
    else pure (some (number, blob))

/-- A card number that is not stored yet, with its sealed form. -/
def generate : EngineM σ (CardNumber × Blob) := do
  let attempts := (← get).config.maxGenerationAttempts
  match ← generateFrom attempts with
  | some found => pure found
  | none => throw (.exhaustedGeneration attempts)

def newCardId : EngineM σ CardId := do
  pure (Uuid.randomV4 (← draw Entropy.bits128))

/-- Issues a card with an opening balance to `owner`. -/
def issueCard (who : Identity) (owner : OwnerId) (expiry : Expiry) (opening : Balance) :
    EngineM σ Card := do
  check (who.requireAdmin "Issuing a card")
  let (number, blob) ← generate
  let id ← newCardId
  onStore (CardRepository.insert (Card.issue id owner number expiry opening) blob)

def cardNotFound (id : CardId) : CardError := .notFound ("Card not found with id: " ++ id.toText)

/-- Fails with `cardNotFound` when the card is missing. -/
def orNotFound (id : CardId) (card? : Option Card) : EngineM σ Card :=
  match card? with
  | some card => pure card
  | none => throw (cardNotFound id)

/-- The card as the caller may see it: admins see every card, users their own. -/
def loadFor (who : Identity) (id : CardId) : EngineM σ Card := do
  let card? ← if who.isAdmin then onStore (CardRepository.findById id)
    else onStore (CardRepository.findByIdAndOwner id who.id)
  orNotFound id card?

/-- Asks for a new status. -/
def setStatus (who : Identity) (id : CardId) (target : Status) : EngineM σ Card := do
  if target = .expired then
    throw (.invalidTransition "Status cannot be set to expired manually")
  let card ← loadFor who id
  match ← check (card.status.transition target who.role) with
  | .unchanged => pure card
  | .changed status => onStore (CardRepository.save { card with status })

/-- One attempt of a transfer between two of `owner`'s cards. -/
def tryTransfer (owner : OwnerId) (source target : CardId) (amount : Amount) : EngineM σ Unit := do
  let from_ ← orNotFound source (← onStore (CardRepository.findByIdAndOwner source owner))
  let to_ ← orNotFound target (← onStore (CardRepository.findByIdAndOwner target owner))
  if !from_.status.allowsFundsMovement then
    throw (.operationConflict ("Source card " ++ source.toText ++ " is not active"))
  if !to_.status.allowsFundsMovement then
    throw (.operationConflict ("Destination card " ++ target.toText ++ " is not active"))
  let debited ← match from_.balance.debit amount with
    | some b => pure b
    | none => throw (.insufficientFunds source)
  let credited ← check (to_.balance.credit amount)
  let _ ← onStore (CardRepository.saveBoth { from_ with balance := debited }
    { to_ with balance := credited })
  pure ()

/-- Attempts a transfer, retrying after a lost race while `retries` are left. -/
def transferWithRetries (owner : OwnerId) (source target : CardId) (amount : Amount) :
    Nat → EngineM σ Unit
  | 0 => tryTransfer owner source target amount
  | retries + 1 =>
    tryCatch (tryTransfer owner source target amount) fun e =>
      match e with
      | .concurrentModification _ => transferWithRetries owner source target amount retries
      | other => throw other

/-- Moves `amount` from one of the caller's cards to another. -/
def transfer (who : Identity) (source target : CardId) (amount : Decimal) : EngineM σ Unit := do
  if source = target then throw (.invalidRequest "Cannot transfer funds to the same card")
  let amount ← check (Amount.ofDecimal amount)
  transferWithRetries who.id source target amount (← get).config.maxTransferRetries

def getBalance (who : Identity) (id : CardId) : EngineM σ Balance := do
  let card ← orNotFound id (← onStore (CardRepository.findByIdAndOwner id who.id))
  pure card.balance

def getTotalBalance (who : Identity) : EngineM σ Balance :=
  onStore (CardRepository.sumByOwner who.id)

def getCard (who : Identity) (id : CardId) : EngineM σ Card.View := do
  pure (← loadFor who id).view

def listCards (who : Identity) (f : Card.Filter) : EngineM σ (List Card.View) := do
  let f := if who.isAdmin then f else f.ownedBy who.id
  pure ((← onStore (CardRepository.findAll f)).map Card.view)

def deleteCard (who : Identity) (id : CardId) : EngineM σ Unit := do
  check (who.requireAdmin "Deleting a card")
  if !(← onStore (CardRepository.delete id)) then throw (cardNotFound id)

end Engine

end CardLedger
