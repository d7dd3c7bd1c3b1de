import CardLedger.Script.Command
import CardLedger.Csv.Writer
import CardLedger.Engine
import CardLedger.Crypto.Sha1

/-!
# Running scripts

A `ScriptRunner` applies commands to an engine. Users and owners are named by labels, each label
standing for a fixed owner identifier. Cards are named by labels bound when they are issued; a
card reference that is not a bound label must be an identifier (`Uuid.parse`), else the card is
unknown.

* `issue` refuses a label already bound, then needs the `owner` and `expiry` columns, reads the
  expiry and the opening balance (zero without an amount) and issues the card.
* `block` and `activate` ask for that status.
* `transfer` needs the `to` column, then the amount.
* `delete` deletes the card and forgets every label bound to it.

`report` lists every stored card as an auditor sees it: named by label (or identifier), owner
label, masked number, expiry, status and balance, in byte order of the card's name.

`runText` reads a whole script and applies its commands in order: a record that is not a command
is passed over, and a command that fails leaves the runner as the failure left it.
-/

namespace CardLedger

/-- A line of the card report. -/
structure CardRow where
  card : String
  owner : String
  number : String
  expiry : String
  status : String
  balance : String

def CardRow.header : List String := ["card", "owner", "number", "expiry", "status", "balance"]

def CardRow.fields (r : CardRow) : List String :=
  [r.card, r.owner, r.number, r.expiry, r.status, r.balance]

def CardRow.csv (rows : List CardRow) : String := Csv.write CardRow.header (rows.map (·.fields))

/-- An engine driven by scripted commands. -/
structure ScriptRunner (σ : Type) where
  engine : Engine σ
  cards : List (String × CardId) := []
  owners : List String := []
  issued : List (String × CardId) := []

namespace ScriptRunner

variable {σ : Type} [CardRepository σ]

abbrev RunM (σ : Type) := ExceptT CardError (StateM (ScriptRunner σ))

def ownerNamespace : Uuid := Uuid.ofNat 0x6f1c2a3e8d4b4f0a9b7e5c2d1e8f3a60

/-- The identifier an owner label stands for: the name-based identifier of its bytes, so that a
label names the same owner in every run. -/
def ownerIdOf (label : String) : OwnerId := Uuid.nameBased ownerNamespace label.toUTF8.toList

/-- The identifier of an owner label. The label is registered unless a registered label already
stands for that identifier. -/
def owner (label : String) : RunM σ OwnerId := do
  let r ← get
  if r.owners.any (ownerIdOf · == ownerIdOf label) then pure (ownerIdOf label)
  else
    set { r with owners := r.owners ++ [label] }
    pure (ownerIdOf label)

/-- The registered label of an owner identifier, or its text. -/
def ownerName (r : ScriptRunner σ) (id : OwnerId) : String :=
  match r.owners.find? (ownerIdOf · == id) with
  | some label => label
  | none => id.toText

/-- The identifier of a card reference. -/
def card (ref : String) : RunM σ CardId := do
  match (← get).cards.lookup ref with
  | some id => pure id
  | none =>
    match Uuid.parse ref with
    | .ok id => pure id
    | .error _ => throw (.notFound ("Unknown card '" ++ ref ++ "'"))

/-- Runs an engine step. -/
def onEngine {α : Type} (m : EngineM σ α) : RunM σ α := do
  let r ← get
  let (result, engine) := (m.run).run r.engine
  set { r with engine }
  match result with
  | .ok a => pure a
  | .error e => throw e

def missing (column : String) : CardError := .invalidRequest ("Missing '" ++ column ++ "' column")

def need {α : Type} (column : String) : Option α → RunM σ α
  | some a => pure a
  | none => throw (missing column)

def check {α : Type} : Outcome α → RunM σ α
  | .ok a => pure a
  | .error e => throw e

/-- Applies one command. -/
def apply (c : Command) : RunM σ Unit := do
  let who : Identity := { id := ← owner c.user, role := c.role }
  match c.op with
  | .issue =>
    if ((← get).cards.lookup c.card).isSome then
      throw (.invalidRequest ("Card label '" ++ c.card ++ "' is already in use"))
    let ownerId ← owner (← need "owner" c.owner)
    let expiry ← check (Expiry.parse (← need "expiry" c.expiry))
    let opening ← match c.amount with
      | some d => check (Balance.ofDecimal d)
      | none => pure Balance.zero
    let issued ← onEngine (Engine.issueCard who ownerId expiry opening)
    modify fun r => { r with cards := r.cards ++ [(c.card, issued.id)],
                              issued := r.issued ++ [(c.card, issued.id)] }
  | .block => do
    let id ← card c.card
    let _ ← onEngine (Engine.setStatus who id .blocked)
  | .activate => do
    let id ← card c.card
    let _ ← onEngine (Engine.setStatus who id .active)
  | .transfer => do
    let source ← card c.card
    let target ← card (← need "to" c.target)
    let amount ← need "amount" c.amount
    onEngine (Engine.transfer who source target amount)
  | .delete => do
    let id ← card c.card
    onEngine (Engine.deleteCard who id)
    modify fun r => { r with cards := r.cards.filter (·.2 != id) }

def run (r : ScriptRunner σ) (c : Command) : Outcome Unit × ScriptRunner σ :=
  ((apply c).run).run r

/-- What became of one record of a script. -/
inductive RecordResult where
  /-- The command was applied. -/
  | applied
  /-- The record is not a command. -/
  | unreadable (error : CardError)
  /-- The command failed. -/
  | refused (error : CardError)

/-- Applies the commands of a script in order. -/
def runAll (r : ScriptRunner σ) : List (Outcome Command) → List RecordResult × ScriptRunner σ
  | [] => ([], r)
  | .error e :: rest =>
    let (results, r) := runAll r rest
    (.unreadable e :: results, r)
  | .ok c :: rest =>
    let (outcome, r) := r.run c
    let (results, r) := runAll r rest
    ((match outcome with
      | .ok () => .applied
      | .error e => .refused e) :: results, r)

def runText (r : ScriptRunner σ) (text : String) : List RecordResult × ScriptRunner σ :=
  r.runAll (Command.readAll text)

/-- Every stored card as an auditor sees it, in byte order of the card's name. -/
def report (r : ScriptRunner σ) : Outcome (List CardRow) :=
  let auditor : Identity := { id := Uuid.nil, role := .admin }
  match ((Engine.listCards auditor {}).run).run r.engine with
  | (.error e, _) => .error e
  | (.ok views, _) =>
    let rows := views.map fun v =>
      { card := ((r.cards.find? (·.2 == v.id)).map (·.1)).getD v.id.toText,
        owner := r.ownerName v.owner, number := v.maskedNumber, expiry := v.expiry.toText,
        status := v.status.name, balance := v.balance.toText : CardRow }
    .ok (rows.mergeSort fun a b => decide (a.card ≤ b.card))

end ScriptRunner

end CardLedger
