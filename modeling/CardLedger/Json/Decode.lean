import CardLedger.Json.Reader
import CardLedger.Decode.Scalar

/-!
# Typed reads from JSON text

Each reader here takes whitespace, reads one value of the kind it expects and hands it to a
decoding function; a value of another kind is refused as `wrongKind`, and a refusal of the
decoding function is placed after the value.

* `readString` reads a string.
* `readAny` reads any scalar and hands it over as a `Decode.Scalar`. Sequences and maps are
  handed over as such, after their opening bracket, and the decoders used with it refuse them;
  the reader then takes the closing bracket if it follows.
* `readUnsigned` reads a natural number below `2 ^ 64`.
* `readEnum` reads a unit variant: its name as a string, or an object with that name as its
  single key and `null` as its value.
* `nextKey` and `nextElement` walk the members of an object and the items of a list.
-/

namespace CardLedger

namespace Json

open Decode

def decoded {α : Type} : Except DecodeError α → JsonM α
  | .ok a => pure a
  | .error e => refuse e

/-- Reads a string and decodes it. -/
def readString {α : Type} (expected : String) (decode : String → Except DecodeError α) :
    JsonM α := placed do
  match ← peekValue with
  | none => failAhead "EOF while parsing a value"
  | some '"' => do
    eat
    let s ← string
    decoded (decode s)
  | some _ => wrongKind expected

/-- The scalar of a number. -/
def numberScalar : JsonNumber → Scalar
  | .unsigned n => .unsigned n
  | .negative n => .signed n
  | .float x => .float x

/-- Reads a value of any kind and decodes it as a scalar. -/
def readAny {α : Type} (decode : Scalar → Except DecodeError α) : JsonM α := placed do
  match ← peekValue with
  | none => failAhead "EOF while parsing a value"
  | some 'n' => do eat; expectWord ['u', 'l', 'l']; decoded (decode .unit)
  | some 't' => do eat; expectWord ['r', 'u', 'e']; decoded (decode (.bool true))
  | some 'f' => do eat; expectWord ['a', 'l', 's', 'e']; decoded (decode (.bool false))
  | some '-' => do
    eat
    let n ← number false
    decoded (decode (numberScalar n))
  | some '"' => do
    eat
    let s ← string
    decoded (decode (.str s))
  | some '[' => do
    eat
    onFailure (decoded (decode .seq)) closeList
  | some '{' => do
    eat
    onFailure (decoded (decode .map)) closeObject
  | some c =>
    if c.isDigit then do
      let n ← number true
      decoded (decode (numberScalar n))
    else failAhead "expected value"

/-- The natural number of a JSON number, if it is one below `2 ^ 64`. -/
def unsignedOf (expected : String) : JsonNumber → Except DecodeError Nat
  | .unsigned n => .ok n
  | .negative n => .error (.invalidValue (.signed n) expected)
  | .float x => .error (.invalidType (.float x) expected)

/-- Reads a natural number below `2 ^ 64`. -/
def readUnsigned : JsonM Nat := placed do
  match ← peekValue with
  | none => failAhead "EOF while parsing a value"
  | some '-' => do
    eat
    let n ← number false
    decoded (unsignedOf "u64" n)
  | some c =>
    if c.isDigit then do
      let n ← number true
      decoded (unsignedOf "u64" n)
    else wrongKind "u64"

/-- Takes the colon between a key and its value. -/
def colon : JsonM Unit := do
  match ← peekValue with
  | some ':' => eat
  | some _ => failAhead "expected `:`"
  | none => failAhead "EOF while parsing an object"

/-- Reads `null`. -/
def readUnit : JsonM Unit := placed do
  match ← peekValue with
  | none => failAhead "EOF while parsing a value"
  | some 'n' => do eat; expectWord ['u', 'l', 'l']
  | some _ => wrongKind "unit"

/-- The variant of a name, among named variants. -/
def variantOf {α : Type} (variants : List (String × α)) (name : String) : Except DecodeError α :=
  match variants.lookup name with
  | some a => .ok a
  | none => .error (.unknownVariant name (variants.map Prod.fst))

/-- Reads a unit variant by its name. -/
def readEnum {α : Type} (variants : List (String × α)) : JsonM α := do
  match ← peekValue with
  | some '{' => do
    eat
    let name ← readString "variant identifier" (variantOf variants)
    colon
    readUnit
    match ← peekValue with
    | some '}' => do eat; pure name
    | some _ => fail "expected value"
    | none => fail "EOF while parsing an object"
  | some '"' => readString "variant identifier" (variantOf variants)
  | some _ => failAhead "expected value"
  | none => failAhead "EOF while parsing a value"

/-- Reads a key at the character `c?` that starts it. -/
def keyAt : Option Char → JsonM String
  | some '"' => do eat; string
  | some '}' => failAhead "trailing comma"
  | some _ => failAhead "key must be a string"
  | none => failAhead "EOF while parsing a value"

/-- Moves to the next member of an object and reads its key; `none` at the closing brace,
which is left in place. -/
def nextKey (first : Bool) : JsonM (Option String) := do
  match ← peekValue with
  | some '}' => pure none
  | some ',' =>
    if first then some <$> keyAt (some ',')
    else do
      eat
      some <$> keyAt (← peekValue)
  | some c => if first then some <$> keyAt (some c) else failAhead "expected `,` or `\x7d`"
  | none => failAhead "EOF while parsing an object"

/-- Moves to the next item of a list; `false` at the closing bracket, which is left in place. -/
def nextElement (first : Bool) : JsonM Bool := do
  match ← peekValue with
  | some ']' => pure false
  | some ',' =>
    if first then pure true
    else do
      eat
      match ← peekValue with
      | some ']' => failAhead "trailing comma"
      | some _ => pure true
      | none => failAhead "EOF while parsing a value"
  | some _ => if first then pure true else failAhead "expected `,` or `]`"
  | none => failAhead "EOF while parsing a list"

end Json

end CardLedger
