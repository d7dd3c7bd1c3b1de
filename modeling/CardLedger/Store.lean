import CardLedger.Record
import Std.Data.HashMap

/-!
# The card store

A `Store` keeps two tables: `cards`, the stored row of each card identifier, and `numbers`, a
unique index from each sealed number to the identifier of the row that holds it. Rows are opened
with the store's own `Sealer`.

Every operation is one step over both tables. `insert` refuses a blob the index already holds
and an identifier that is already stored, and otherwise adds the row and its index entry. Writes
are optimistic (`Record.apply`): a card must carry the version of its row. `saveBoth` checks two
distinct cards, the first and then the second, and writes both rows or neither. `delete` removes
a row and then the index entry of the row's blob.
-/

namespace CardLedger

/-- Stored card rows, the index of their sealed numbers, and the key that opens the numbers. -/
structure Store where
  sealer : Sealer
  cards : Std.HashMap CardId Record := {}
  numbers : Std.HashMap Blob CardId := {}

namespace Store

def empty (sealer : Sealer) : Store := { sealer }

def lookup (s : Store) (id : CardId) : Option Record := s.cards[id]?

/-- The card with an identifier, opened. -/
def findById (s : Store) (id : CardId) : Outcome (Option Card) :=
  match s.lookup id with
  | none => .ok none
  | some r => (r.openWith s.sealer).map some

/-- The card with an identifier if it belongs to `owner`; a row of another owner is not opened. -/
def findByIdAndOwner (s : Store) (id : CardId) (owner : OwnerId) : Outcome (Option Card) :=
  match s.lookup id with
  | some r => if r.owner == owner then (r.openWith s.sealer).map some else .ok none
  | none => .ok none

def records (s : Store) : List Record := s.cards.toList.map (·.2)

def sortedRecords (s : Store) : List Record :=
  s.records.mergeSort fun a b => a.id.bits ≤ b.id.bits

/-- Every card that passes the filter, ordered by identifier. Every row is opened, and the first
row (by identifier) that fails to open fails the whole listing. -/
def findAll (s : Store) (f : Card.Filter) : Outcome (List Card) :=
  (s.sortedRecords.mapM (Record.openWith s.sealer)).map (·.filter f.accepts)

def hasNumber (s : Store) (blob : Blob) : Bool := s.numbers.contains blob

/-- Stores the first row of a card; the blob must be new to the index and the identifier new to
the rows. -/
def insert (s : Store) (card : Card) (blob : Blob) : Outcome (Card × Store) :=
  if s.numbers.contains blob then .error .duplicateNumber
  else if s.cards.contains card.id then .error (.concurrentModification card.id)
  else
    let record := Record.ofCard card blob
    .ok ({ card with version := record.version },
      { s with numbers := s.numbers.insert blob card.id, cards := s.cards.insert card.id record })

def missing (id : CardId) : CardError := .notFound ("card " ++ id.toText)

/-- Writes a card over the row of its identifier. -/
def save (s : Store) (card : Card) : Outcome (Card × Store) :=
  match s.cards[card.id]? with
  | none => .error (missing card.id)
  | some r => do
    let r' ← r.apply card
    .ok ({ card with version := r'.version }, { s with cards := s.cards.insert card.id r' })

def staged (s : Store) (card : Card) : Outcome Record := do
  let r ← (s.cards[card.id]?).elim (.error (missing card.id)) .ok
  r.apply card

/-- Writes two distinct cards, checking the first and then the second, and keeps neither write
unless both pass. Each written row goes back under its own identifier. -/
def saveBoth (s : Store) (first second : Card) : Outcome ((Card × Card) × Store) :=
  if first.id == second.id then .error (.invalidRequest "Atomic save needs two distinct cards")
  else do
    let r1 ← s.staged first
    let r2 ← s.staged second
    .ok (({ first with version := r1.version }, { second with version := r2.version }),
      { s with cards := (s.cards.insert r1.id r1).insert r2.id r2 })

def sumByOwner (s : Store) (owner : OwnerId) : Outcome Balance :=
  Balance.total ((s.records.filter fun r => r.owner == owner).map (·.balance))

/-- Removes the row of an identifier and the index entry of its blob, telling whether there was
a row. -/
def delete (s : Store) (id : CardId) : Bool × Store :=
  match s.cards[id]? with
  | some r => (true, { s with cards := s.cards.erase id, numbers := s.numbers.erase r.number })
  | none => (false, s)

end Store

end CardLedger
