import CardLedger.Engine

/-!
# Labelled sessions

A `Session` drives one engine over a store with injected faults (`Faulty Store`) and lets its
caller name things by labels instead of identifiers:

* **Cards.** Issuing or seeding a card binds a label to its identifier. A card reference is the
  label of a bound card, else an identifier in any form `Uuid.parse` accepts, else a *ghost*: a
  label bound to an identifier of its own that no stored card has (version bits 0, which no
  drawn identifier has).
* **Owners.** Every owner label stands for a fixed identifier of its own.

Everything a session shows names cards and owners by their labels; an identifier with no label
shows as its text. Error texts have each labelled identifier replaced by its label. A card whose
number the engine drew shows a hidden number (`**** **** **** ####`); a seeded card, whose number
the caller gave, shows it.

Besides the engine's operations, a session reaches the store directly (`seed`, `repo*`), past
the injected faults.
-/

namespace CardLedger

/-- A card bound to a label. -/
structure LabelledCard where
  label : String
  id : CardId
  /-- Whether the engine drew the number. -/
  drawn : Bool
  /-- The sealed number the card was stored with. -/
  blob : Option Blob

/-- A card as a session shows it. -/
structure CardShown where
  label : String
  owner : String
  masked : String
  /-- The number, shown for seeded cards only. -/
  number : Option String
  /-- Whether the number has sixteen characters and passes the Luhn check. -/
  numberOk : Bool
  expiry : String
  status : String
  balance : String
  version : Nat

/-- A card view as a session shows it. -/
structure ViewShown where
  label : String
  owner : String
  masked : String
  expiry : String
  status : String
  balance : String

/-- One row of a session's store listing: label, owner, status, balance and version. -/
structure StateRow where
  label : String
  owner : String
  status : String
  balance : String
  version : Nat

/-- The result of a session step. -/
inductive SessionReply where
  | card (c : CardShown)
  | done
  | balance (b : Balance)
  | view (v : ViewShown)
  | views (vs : List ViewShown)
  | cards (cs : List CardShown)
  /-- Whether the sealed number is stored, and whether a fresh sealing of the number it opens
  to is (none when it does not open to a card number). -/
  | stored (present : Bool) (resealed : Option Bool)
  | found (c : Option CardShown)
  | deleted (present : Bool)
  | pair (first second : CardShown)

/-- Why a session step failed: an error of the library (its text with labels put in), or a
request the session cannot carry out. -/
inductive SessionFailure where
  | card (error : CardError) (message : String)
  | request (message : String)

/-- Who calls the engine: an owner label and a role. -/
structure Actor where
  label : String
  role : Role

/-- A filter by labels and decimals, before it is checked. -/
structure FilterSpec where
  owner : Option String := none
  status : Option Status := none
  minBalance : Option Decimal := none
  maxBalance : Option Decimal := none

/-- A card put straight into the store. -/
structure SeedSpec where
  label : String
  owner : String
  number : String
  expiry : String := "12/30"
  status : Status := .active
  balance : Decimal := Decimal.zero
  version : Nat := 0
  id : Option CardId := none
  /-- The stored text of the sealed number, taken as it is. -/
  blob : Option String := none
  /-- A seeded card whose sealed number is stored again. -/
  sameBlobAs : Option String := none

/-- A write straight to the store: the card, and the fields to change. -/
structure SaveSpec where
  card : String
  status : Option Status := none
  balance : Option Decimal := none
  version : Option Nat := none

/-- A step of a session. -/
inductive SessionStep where
  | issue (actor : Actor) (label owner expiry : String) (balance : Option Decimal)
  | setStatus (actor : Actor) (card : String) (status : Status)
  | transfer (actor : Actor) (source target : String) (amount : Decimal)
  | getBalance (actor : Actor) (card : String)
  | total (actor : Actor)
  | getCard (actor : Actor) (card : String)
  | list (actor : Actor) (filter : FilterSpec)
  | delete (actor : Actor) (card : String)
  | seed (spec : SeedSpec)
  | repoExists (label : String)
  | repoFind (card : String) (owner : Option String)
  | repoList (filter : FilterSpec)
  | repoSum (owner : String)
  | repoDelete (card : String)
  | repoSave (spec : SaveSpec)
  | repoSaveBoth (first second : SaveSpec)

/-- An engine with labels. -/
structure Session where
  engine : Engine (Faulty Store)
  cards : List LabelledCard := []
  ghosts : List (String × CardId) := []
  owners : List String := []

abbrev SessionM := ExceptT SessionFailure (StateM Session)

namespace Session

/-- A session over an empty store. The engine seals with `sealer`, the store opens with
`storeSealer`; the first `collisions` number checks answer "taken" and the first `conflicts`
pair writes fail. -/
def create (sealer storeSealer : Sealer) (config : Config) (collisions conflicts : Nat) :
    Outcome Session :=
  let store : Faulty Store :=
    { inner := Store.empty storeSealer, collisionsLeft := collisions, conflictsLeft := conflicts }
  (Engine.create store sealer config Entropy.initial).map fun engine => { engine }

def hiddenMask : String := "**** **** **** ####"

/-- The label of a card identifier, or its text. -/
def cardName (s : Session) (id : CardId) : String :=
  match s.cards.find? (·.id == id) with
  | some c => c.label
  | none =>
    match s.ghosts.find? (·.2 == id) with
    | some (label, _) => label
    | none => id.toText

def ownerIdAt (index : Nat) : OwnerId := Uuid.ofNat (Nat.pow 2 126 + index)

/-- The label of an owner identifier, or its text. -/
def ownerName (s : Session) (id : OwnerId) : String :=
  match (List.range s.owners.length).find? (fun i => ownerIdAt i == id) with
  | some i => s.owners.getD i id.toText
  | none => id.toText

def rename (s : Session) (text : String) : String :=
  let text := s.cards.foldl (fun t c => t.replace c.id.toText c.label) text
  s.ghosts.foldl (fun t g => t.replace g.2.toText g.1) text

def failure (s : Session) (e : CardError) : SessionFailure := .card e (s.rename e.message)

def fail {α : Type} (e : CardError) : SessionM α := do throw (failure (← get) e)

def check {α : Type} : Outcome α → SessionM α
  | .ok a => pure a
  | .error e => fail e

/-- The identifier of an owner label, registering the label on first use. -/
def ownerId (label : String) : SessionM OwnerId := do
  let s ← get
  match s.owners.idxOf? label with
  | some i => pure (ownerIdAt i)
  | none =>
    set { s with owners := s.owners ++ [label] }
    pure (ownerIdAt s.owners.length)

def identity (a : Actor) : SessionM Identity := do pure { id := ← ownerId a.label, role := a.role }

/-- The identifier a card reference stands for. -/
def resolve (ref : String) : SessionM CardId := do
  let s ← get
  match s.cards.find? (·.label == ref) with
  | some c => pure c.id
  | none =>
    match Uuid.parse ref with
    | .ok id => pure id
    | .error _ =>
      match s.ghosts.lookup ref with
      | some id => pure id
      | none =>
        let id := Uuid.ofNat (Nat.pow 2 127 + s.ghosts.length)
        set { s with ghosts := s.ghosts ++ [(ref, id)] }
        pure id

def drawn (s : Session) (id : CardId) : Bool :=
  (s.cards.find? (·.id == id)).any (·.drawn)

/-- How a session shows a card. -/
def showCard (s : Session) (c : Card) : CardShown :=
  let hidden := s.drawn c.id
  { label := s.cardName c.id, owner := s.ownerName c.owner,
    masked := if hidden then hiddenMask else c.number.masked,
    number := if hidden then none else some c.number.text,
    numberOk := c.number.text.length == 16 && Luhn.isValid c.number.text,
    expiry := c.expiry.toText, status := c.status.name, balance := c.balance.toText,
    version := c.version }

/-- How a session shows a card view. -/
def showView (s : Session) (v : Card.View) : ViewShown :=
  { label := s.cardName v.id, owner := s.ownerName v.owner,
    masked := if s.drawn v.id then hiddenMask else v.maskedNumber,
    expiry := v.expiry.toText, status := v.status.name, balance := v.balance.toText }

def byLabel {α : Type} (label : α → String) (xs : List α) : List α :=
  xs.mergeSort fun a b => decide (label a ≤ label b)

/-- The rows of the store, opened with the store's key, sorted by label. -/
def state (s : Session) : Except SessionFailure (List StateRow) :=
  match s.engine.store.inner.findAll {} with
  | .ok cards =>
    .ok (byLabel (·.label) (cards.map fun c =>
      { label := s.cardName c.id, owner := s.ownerName c.owner, status := c.status.name,
        balance := c.balance.toText, version := c.version }))
  | .error e => .error (s.failure e)

def calls (s : Session) : Nat × Nat :=
  (s.engine.store.existenceChecks, s.engine.store.pairSaves)

/-- Runs an engine step. -/
def onEngine {α : Type} (m : EngineM (Faulty Store) α) : SessionM α := do
  let s ← get
  let (result, engine) := (m.run).run s.engine
  set { s with engine }
  check result

/-- Runs a step on the store itself, past the injected faults. -/
def onStore {α : Type} (f : Store → Outcome (α × Store)) : SessionM α := do
  let s ← get
  let eng := s.engine
  match f eng.store.inner with
  | .ok (a, inner) =>
    set { s with engine := { eng with store := { eng.store with inner } } }
    pure a
  | .error e => fail e

def readStore {α : Type} (f : Store → Outcome α) : SessionM α := do
  check (f (← get).engine.store.inner)

def bind (label : String) (id : CardId) (drawn : Bool) (blob : Option Blob) : SessionM Unit :=
  modify fun s => { s with cards := s.cards ++ [{ label, id, drawn, blob }] }

def requireFree (label : String) : SessionM Unit := do
  if (← get).cards.any (·.label == label) then
    throw (.request ("label '" ++ label ++ "' is already bound to a card"))

def balanceOf (d : Decimal) : SessionM Balance := check (Balance.ofDecimal d)

/-- The filter of a filter spec. -/
def filterOf (f : FilterSpec) : SessionM Card.Filter := do
  let owner ← match f.owner with
    | some label => some <$> ownerId label
    | none => pure none
  let minBalance ← match f.minBalance with
    | some d => some <$> balanceOf d
    | none => pure none
  let maxBalance ← match f.maxBalance with
    | some d => some <$> balanceOf d
    | none => pure none
  pure { owner, status := f.status, minBalance, maxBalance }

/-- Draws from the engine's random source. -/
def draw {α : Type} (f : Entropy → α × Entropy) : SessionM α := do
  let s ← get
  let (a, entropy) := f s.engine.entropy
  set { s with engine := { s.engine with entropy } }
  pure a

/-- Puts a seeded card into the store. -/
def seed (spec : SeedSpec) : SessionM CardShown := do
  requireFree spec.label
  let number ← check (CardNumber.parse spec.number)
  let expiry ← check (Expiry.parse spec.expiry)
  let balance ← balanceOf spec.balance
  let owner ← ownerId spec.owner
  let id ← match spec.id with
    | some id => pure id
    | none => do pure (Uuid.randomV4 (← draw Entropy.bits128))
  let s ← get
  let blob ← match spec.blob, spec.sameBlobAs with
    | some text, _ => pure (⟨text⟩ : Blob)
    | none, some other =>
      match (s.cards.find? (·.label == other)).bind (·.blob) with
      | some b => pure b
      | none => throw (.request ("unknown seed '" ++ other ++ "'"))
    | none, none =>
      match ← draw (s.engine.sealer.sealFresh number.text) with
      | some b => pure b
      | none => fail (.cryptoFailure "empty card number")
  let card : Card :=
    { id := id, owner := owner, number := number, expiry := expiry,
      status := spec.status, balance := balance, version := spec.version }
  let stored ← onStore (·.insert card blob)
  bind spec.label id false (some blob)
  pure (showCard (← get) stored)

/-- The card a store write starts from: the stored card, or a blank one at version 0. -/
def saveTarget (spec : SaveSpec) : SessionM Card := do
  let id ← resolve spec.card
  let stored ← readStore (·.findById id)
  let base : Card := stored.getD
    { id, owner := ownerIdAt 0, number := ⟨"0000000000000000"⟩, expiry := ⟨12, 30, by decide,
      by decide, by decide⟩, status := .active, balance := Balance.zero, version := 0 }
  let balance ← match spec.balance with
    | some d => balanceOf d
    | none => pure base.balance
  let status := spec.status.getD base.status
  let version := spec.version.getD base.version
  pure { base with status, balance, version }

/-- Runs one step. -/
def step : SessionStep → SessionM SessionReply
  | .issue actor label owner expiry balance => do
    requireFree label
    let expiry ← check (Expiry.parse expiry)
    let opening ← match balance with
      | some d => balanceOf d
      | none => pure Balance.zero
    let who ← identity actor
    let owner ← ownerId owner
    let card ← onEngine (Engine.issueCard who owner expiry opening)
    let blob := ((← get).engine.store.inner.lookup card.id).map (·.number)
    bind label card.id true blob
    pure (.card (showCard (← get) card))
  | .setStatus actor card status => do
    let who ← identity actor
    let id ← resolve card
    let c ← onEngine (Engine.setStatus who id status)
    pure (.card (showCard (← get) c))
  | .transfer actor source target amount => do
    let who ← identity actor
    let source ← resolve source
    let target ← resolve target
    onEngine (Engine.transfer who source target amount)
    pure .done
  | .getBalance actor card => do
    let who ← identity actor
    let id ← resolve card
    pure (.balance (← onEngine (Engine.getBalance who id)))
  | .total actor => do
    let who ← identity actor
    pure (.balance (← onEngine (Engine.getTotalBalance who)))
  | .getCard actor card => do
    let who ← identity actor
    let id ← resolve card
    let v ← onEngine (Engine.getCard who id)
    pure (.view (showView (← get) v))
  | .list actor filter => do
    let who ← identity actor
    let f ← filterOf filter
    let vs ← onEngine (Engine.listCards who f)
    let s ← get
    pure (.views (byLabel (·.label) (vs.map s.showView)))
  | .delete actor card => do
    let who ← identity actor
    let id ← resolve card
    onEngine (Engine.deleteCard who id)
    pure .done
  | .seed spec => do pure (.card (← seed spec))
  | .repoExists label => do
    let s ← get
    match (s.cards.find? (·.label == label)).bind (·.blob) with
    | some blob =>
      let present := s.engine.store.inner.hasNumber blob
      let text ← check (s.engine.sealer.openBlob blob)
      match CardNumber.parse text with
      | .error _ => pure (.stored present none)
      | .ok number =>
        match ← draw (s.engine.sealer.sealFresh number.text) with
        | some fresh => pure (.stored present (some ((← get).engine.store.inner.hasNumber fresh)))
        | none => pure (.stored present none)
    | none => pure (.stored false (some false))
  | .repoFind card owner => do
    let id ← resolve card
    let found ← match owner with
      | some label => do
        let o ← ownerId label
        readStore (·.findByIdAndOwner id o)
      | none => readStore (·.findById id)
    let s ← get
    pure (.found (found.map s.showCard))
  | .repoList filter => do
    let f ← filterOf filter
    let cards ← readStore (·.findAll f)
    let s ← get
    pure (.cards (byLabel (·.label) (cards.map s.showCard)))
  | .repoSum owner => do
    let o ← ownerId owner
    pure (.balance (← readStore (·.sumByOwner o)))
  | .repoDelete card => do
    let id ← resolve card
    let present ← onStore fun st => .ok (st.delete id)
    pure (.deleted present)
  | .repoSave spec => do
    let card ← saveTarget spec
    let saved ← onStore (·.save card)
    pure (.card (showCard (← get) saved))
  | .repoSaveBoth first second => do
    let a ← saveTarget first
    let b ← saveTarget second
    let (a', b') ← onStore (·.saveBoth a b)
    let s ← get
    pure (.pair (s.showCard a') (s.showCard b'))

def run (s : Session) (st : SessionStep) : Except SessionFailure SessionReply × Session :=
  ((step st).run).run s

end Session

end CardLedger
