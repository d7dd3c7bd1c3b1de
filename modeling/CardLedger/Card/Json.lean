import CardLedger.Json.Decode
import CardLedger.Card.Lifecycle
import CardLedger.Card.Expiry
import CardLedger.Money

/-!
# JSON forms of the card values

An expiry is the string `"MM/YY"`, a status or a role its lowercase name, and a balance or an
amount its two-decimal text as a string. Reading is more lenient than writing: a balance or an
amount may also be any JSON number, or a string in any form `Decimal.read?` accepts, and is then
checked as `Balance.ofDecimal` or `Amount.ofDecimal` checks it.

A check of the value type itself (`Expiry.parse`, `Balance.ofDecimal`, …) fails with the
card error's text and no place in the JSON text.
-/

namespace CardLedger

namespace Json

def checked {α : Type} : Outcome α → JsonM α
  | .ok a => pure a
  | .error e => throw { message := e.message }

def statusVariants : List (String × Status) :=
  [Status.active, .blocked, .expired].map fun s => (s.name, s)

def roleVariants : List (String × Role) := [Role.user, .admin].map fun r => (r.name, r)

def readExpiry : JsonM Expiry := do
  let text ← readString "a string" .ok
  checked (Expiry.parse text)

def readStatus : JsonM Status := readEnum statusVariants

def readRole : JsonM Role := readEnum roleVariants

def readBalance : JsonM Balance := do
  let d ← readAny Decimal.ofScalar
  checked (Balance.ofDecimal d)

def readAmount : JsonM Amount := do
  let d ← readAny Decimal.ofScalar
  checked (Amount.ofDecimal d)

end Json

def Expiry.toJsonText (e : Expiry) : String := Json.quote e.toText

def Status.toJsonText (s : Status) : String := Json.quote s.name

def Role.toJsonText (r : Role) : String := Json.quote r.name

def Balance.toJsonText (b : Balance) : String := Json.quote b.toText

def Amount.toJsonText (a : Amount) : String := Json.quote a.toText

example : (Json.run Json.readStatus "\"blocked\"").toOption.map Status.name = some "blocked" := by
  decide +kernel

end CardLedger
