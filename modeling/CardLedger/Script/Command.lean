import CardLedger.Csv.Reader
import CardLedger.Csv.Field
import CardLedger.Card.Lifecycle
import CardLedger.Error

/-!
# Script commands

A script is CSV text whose header line names the columns. Each later record is one `Command`:
an operation, the acting user and role, the card it is about, and optionally the target card,
the owner of a new card, an amount and an expiry.

A record is read column by column in header order. Each known column takes the record's next
field; an unknown column takes a field too, unread. `op`, `user`, `role` and `card` need their
field; an optional column with no field left, or an empty field, is absent. A column named twice
is refused, and after all columns the first of `op`, `user`, `role`, `card` with no column is
reported missing. Fields beyond the header are ignored.

A failure names the record, its line and byte offset (`CommandError.message`).
-/

namespace CardLedger

/-- The operation of a command. -/
inductive CommandKind where
  | issue
  | block
  | activate
  | transfer
  | delete
deriving DecidableEq

namespace CommandKind

def variants : List (String × CommandKind) :=
  [("issue", .issue), ("block", .block), ("activate", .activate), ("transfer", .transfer),
    ("delete", .delete)]

/-- The capitalised name of an operation. -/
def title : CommandKind → String
  | .issue => "Issue"
  | .block => "Block"
  | .activate => "Activate"
  | .transfer => "Transfer"
  | .delete => "Delete"

end CommandKind

def Role.title : Role → String
  | .user => "User"
  | .admin => "Admin"

/-- One scripted call. -/
structure Command where
  op : CommandKind
  user : String
  role : Role
  card : String
  target : Option String := none
  owner : Option String := none
  amount : Option Decimal := none
  expiry : Option String := none

namespace Command

open Decode

/-- A command whose columns are read one at a time. -/
structure Draft where
  op : Option CommandKind := none
  user : Option String := none
  role : Option Role := none
  card : Option String := none
  target : Option String := none
  owner : Option String := none
  amount : Option Decimal := none
  expiry : Option String := none
  seen : List String := []

def endOfRow : DecodeError := .custom "expected field, but got end of row"

def nextField : List String → Except DecodeError (String × List String)
  | f :: rest => .ok (f, rest)
  | [] => .error endOfRow

/-- The next field of an optional column: absent when no field is left or it is empty. -/
def nextOptional : List String → Option String × List String
  | [] => (none, [])
  | "" :: rest => (none, rest)
  | f :: rest => (some f, rest)

/-- A variant among named variants. -/
def variantOf {α : Type} (variants : List (String × α)) (name : String) : Except DecodeError α :=
  match variants.lookup name with
  | some a => .ok a
  | none => .error (.unknownVariant name (variants.map Prod.fst))

def roleVariants : List (String × Role) := [("user", .user), ("admin", .admin)]

/-- Reads the column `name` from the fields left. -/
def readColumn (d : Draft) (fields : List String) (name : String) :
    Except DecodeError (Draft × List String) := do
  let known := ["op", "user", "role", "card", "to", "owner", "amount", "expiry"]
  if known.contains name ∧ d.seen.contains name then throw (.duplicateField name)
  let d := if known.contains name then { d with seen := d.seen ++ [name] } else d
  match name with
  | "op" => do
    let (f, rest) ← nextField fields
    pure ({ d with op := some (← variantOf CommandKind.variants f) }, rest)
  | "user" => do
    let (f, rest) ← nextField fields
    pure ({ d with user := some f }, rest)
  | "role" => do
    let (f, rest) ← nextField fields
    pure ({ d with role := some (← variantOf roleVariants f) }, rest)
  | "card" => do
    let (f, rest) ← nextField fields
    pure ({ d with card := some f }, rest)
  | "to" => let (v, rest) := nextOptional fields; pure ({ d with target := v }, rest)
  | "owner" => let (v, rest) := nextOptional fields; pure ({ d with owner := v }, rest)
  | "expiry" => let (v, rest) := nextOptional fields; pure ({ d with expiry := v }, rest)
  | "amount" =>
    match nextOptional fields with
    | (none, rest) => pure (d, rest)
    | (some f, rest) => do
      let amount ← Decimal.ofScalar (Csv.scalarOf f)
      pure ({ d with amount := some amount }, rest)
  | _ => do
    let (_, rest) ← nextField fields
    pure (d, rest)

/-- Reads every column in header order. -/
def readColumns (d : Draft) (fields : List String) : List String → Except DecodeError Draft
  | [] => .ok d
  | name :: names => do
    let (d, rest) ← readColumn d fields name
    readColumns d rest names

/-- The command of a record under a header. -/
def decode (header : List String) (fields : List String) : Except DecodeError Command := do
  let d ← readColumns {} fields header
  match d.op, d.user, d.role, d.card with
  | some op, some user, some role, some card =>
    pure { op, user, role, card, target := d.target, owner := d.owner, amount := d.amount,
           expiry := d.expiry }
  | none, _, _, _ => throw (.missingField "op")
  | _, none, _, _ => throw (.missingField "user")
  | _, _, none, _ => throw (.missingField "role")
  | _, _, _, none => throw (.missingField "card")

def failure (r : Csv.CsvRecord) (e : DecodeError) : CardError :=
  .csv ("CSV deserialize error: record " ++ toString r.index ++ " (line: " ++ toString r.line ++
    ", byte: " ++ toString r.byte ++ "): " ++ e.message Csv.foundStyle)

/-- The commands of a script, in order, each read or refused. -/
def readAll (text : String) : List (Outcome Command) :=
  match Csv.records text with
  | [] => []
  | header :: rows =>
    rows.map fun r =>
      match decode header.fields r.fields with
      | .ok c => .ok c
      | .error e => .error (failure r e)

end Command

end CardLedger
