import CardLedger.Record
import CardLedger.Card.Json

/-!
# Stored rows as JSON

A row is written as the object
`{"id":…,"owner":…,"number":…,"expiry":…,"status":…,"balance":…,"version":…}`, members in this
order, identifiers as hyphenated lowercase text, the balance as a two-decimal string and the
version as a number.

It is read back from JSON text (`Record.ofJsonText`) or from a JSON tree (`Record.ofJsonValue`),
either as an object with these members or as a list of the seven values in this order.

* In an object, members are read in the order they come in the text, or, from a tree, in
  increasing order of their keys. Unknown members are skipped; a repeated member is an error.
  Missing members are reported after all members are read, the first missing one in the
  order above.
* A list must hold exactly seven values.
* An identifier is a string that `Uuid.parse` accepts; the expiry, status, balance and
  version are read as `Json.readExpiry`, `Json.readStatus`, `Json.readBalance` and
  `Json.readUnsigned` read them.
-/

namespace CardLedger

namespace Record

open Decode

def fieldNames : List String := ["id", "owner", "number", "expiry", "status", "balance", "version"]

def expecting : String := "struct CardRecord"

def idExpecting : String := "a formatted UUID string"

/-- Decodes an identifier. -/
def idOf (text : String) : Except DecodeError Uuid :=
  match Uuid.parse text with
  | .ok u => .ok u
  | .error r => .error (.custom ("UUID parsing failed: " ++ r.message))

/-- The JSON tree of a row. -/
def toJson (r : Record) : JsonValue :=
  .object [("id", .string r.id.toText), ("owner", .string r.owner.toText),
    ("number", .string r.number.text), ("expiry", .string r.expiry.toText),
    ("status", .string r.status.name), ("balance", .string r.balance.toText),
    ("version", .number (.unsigned r.version))]

def toJsonText (r : Record) : String := r.toJson.compact

/-- A row whose members are read one at a time. -/
structure Draft where
  id : Option Uuid := none
  owner : Option Uuid := none
  number : Option Blob := none
  expiry : Option Expiry := none
  status : Option Status := none
  balance : Option Balance := none
  version : Option Nat := none

/-- Whether a member of a draft is set. -/
def Draft.has (d : Draft) : String → Bool
  | "id" => d.id.isSome
  | "owner" => d.owner.isSome
  | "number" => d.number.isSome
  | "expiry" => d.expiry.isSome
  | "status" => d.status.isSome
  | "balance" => d.balance.isSome
  | "version" => d.version.isSome
  | _ => false

/-- The row of a complete draft, or the first missing member. -/
def Draft.finish (d : Draft) : Except DecodeError Record :=
  match d.id, d.owner, d.number, d.expiry, d.status, d.balance, d.version with
  | some id, some owner, some number, some expiry, some status, some balance, some version =>
    .ok { id, owner, number, expiry, status, balance, version }
  | _, _, _, _, _, _, _ =>
    .error (.missingField ((fieldNames.find? fun n => !d.has n).getD "id"))

/-! ## From JSON text -/

namespace Text

open Json

/-- Reads the value of a known member into a draft. -/
def readField (d : Draft) : String → JsonM Draft
  | "id" => do pure { d with id := some (← readString idExpecting idOf) }
  | "owner" => do pure { d with owner := some (← readString idExpecting idOf) }
  | "number" => do pure { d with number := some ⟨← readString "a string" .ok⟩ }
  | "expiry" => do pure { d with expiry := some (← readExpiry) }
  | "status" => do pure { d with status := some (← readStatus) }
  | "balance" => do pure { d with balance := some (← readBalance) }
  | "version" => do pure { d with version := some (← readUnsigned) }
  | _ => pure d

/-- Reads the members of an object after its opening brace. -/
def readMembers : Nat → Bool → Draft → JsonM Draft
  | 0, _, d => pure d
  | fuel + 1, first, d => do
    match ← nextKey first with
    | none => pure d
    | some key =>
      if fieldNames.contains key then
        if d.has key then refuse (.duplicateField key)
        else do
          colon
          let d ← readField d key
          readMembers fuel false d
      else do
        colon
        skipValue ((← get).rest.length + 1)
        readMembers fuel false d

/-- Reads the seven values of a list after its opening bracket. -/
def readItems : List String → Nat → Draft → JsonM Draft
  | [], _, d => pure d
  | key :: rest, i, d => do
    if ← nextElement (i = 0) then readItems rest (i + 1) (← readField d key)
    else refuse (.invalidLength i "struct CardRecord with 7 elements")

/-- Reads a row. -/
def readRecord : JsonM Record := placed do
  match ← peekValue with
  | none => failAhead "EOF while parsing a value"
  | some '{' => do
    eat
    let r ← onFailure (do
      let d ← readMembers ((← get).rest.length + 1) true {}
      decoded d.finish) closeObject
    closeObject
    pure r
  | some '[' => do
    eat
    let r ← onFailure (do
      let d ← readItems fieldNames 0 {}
      decoded d.finish) closeList
    closeList
    pure r
  | some _ => wrongKind expecting

end Text

def ofJsonText (text : String) : Except Json.JsonError Record := Json.run Text.readRecord text

/-! ## From a JSON tree -/

namespace Tree

/-- A tree as a found value. -/
def found : JsonValue → Found
  | .null => .unit
  | .bool b => .bool b
  | .number (.unsigned n) => .unsigned n
  | .number (.negative n) => .signed n
  | .number (.float x) => .float x
  | .string s => .str s
  | .array _ => .seq
  | .object _ => .map

/-- A tree as a scalar. -/
def scalar : JsonValue → Scalar
  | .null => .unit
  | .bool b => .bool b
  | .number (.unsigned n) => .unsigned n
  | .number (.negative n) => .signed n
  | .number (.float x) => .float x
  | .string s => .str s
  | .array _ => .seq
  | .object _ => .map

/-- Decodes a string tree. -/
def stringOf {α : Type} (expected : String) (decode : String → Except DecodeError α) :
    JsonValue → Except DecodeError α
  | .string s => decode s
  | v => .error (.invalidType (found v) expected)

def checked {α : Type} : Outcome α → Except DecodeError α
  | .ok a => .ok a
  | .error e => .error (.custom e.message)

/-- Decodes a unit variant: a name, or an object with the name as its single key. -/
def variantOf {α : Type} (variants : List (String × α)) : JsonValue → Except DecodeError α
  | .string s => Json.variantOf variants s
  | .object [(name, value)] => do
    let a ← Json.variantOf variants name
    match value with
    | .null => pure a
    | v => .error (.invalidType (found v) "unit")
  | .object _ => .error (.invalidValue .map "map with a single key")
  | v => .error (.invalidType (found v) "string or map")

def unsignedOf : JsonValue → Except DecodeError Nat
  | .number n => Json.unsignedOf "u64" n
  | v => .error (.invalidType (found v) "u64")

/-- Decodes the value of a known member into a draft. -/
def field (d : Draft) (key : String) (v : JsonValue) : Except DecodeError Draft :=
  match key with
  | "id" => do pure { d with id := some (← stringOf idExpecting idOf v) }
  | "owner" => do pure { d with owner := some (← stringOf idExpecting idOf v) }
  | "number" => do pure { d with number := some ⟨← stringOf "a string" .ok v⟩ }
  | "expiry" => do pure { d with expiry := some (← checked (Expiry.parse (← stringOf "a string" .ok v))) }
  | "status" => do pure { d with status := some (← variantOf Json.statusVariants v) }
  | "balance" => do
    let dec ← Decimal.ofScalar (scalar v)
    pure { d with balance := some (← checked (Balance.ofDecimal dec)) }
  | "version" => do pure { d with version := some (← unsignedOf v) }
  | _ => pure d

def members (d : Draft) : List (String × JsonValue) → Except DecodeError Draft
  | [] => .ok d
  | (k, v) :: rest => do members (← field d k v) rest

/-- Decodes the seven values of a list. -/
def items (d : Draft) : List String → List JsonValue → Nat → Except DecodeError Draft
  | [], [], _ => .ok d
  | [], extra, _ => .error (.invalidLength (7 + extra.length) "fewer elements in array")
  | _ :: _, [], i => .error (.invalidLength i "struct CardRecord with 7 elements")
  | k :: ks, v :: vs, i => do items (← field d k v) ks vs (i + 1)

end Tree

/-- Decodes a row from a JSON tree. An object's members are taken in increasing order of their
keys. -/
def ofJsonValue (v : JsonValue) : Except DecodeError Record :=
  match v with
  | .object ms => do
    let d ← Tree.members {} (ms.mergeSort fun a b => decide (a.1 ≤ b.1))
    d.finish
  | .array vs => do
    let d ← Tree.items {} fieldNames vs 0
    d.finish
  | v => .error (.invalidType (Tree.found v) expecting)

end Record

end CardLedger
