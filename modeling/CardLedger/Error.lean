import CardLedger.Uuid

/-!
# Errors

Every failure of the library is a `CardError`, named for its cause. The wording a caller sees
is `CardError.message`, and `CardError.isClient` says whether the caller's request was at
fault (as opposed to the stored data, the configuration or an outside resource).
-/

namespace CardLedger

abbrev CardId := Uuid

abbrev OwnerId := Uuid

/-- Why an operation failed. -/
inductive CardError where
  /-- Sealing or opening a stored value failed. -/
  | cryptoFailure (detail : String)
  /-- Every generated card number was already taken. -/
  | exhaustedGeneration (attempts : Nat)
  /-- The lifecycle does not allow the requested status change. -/
  | invalidTransition (detail : String)
  /-- The request itself is malformed. -/
  | invalidRequest (detail : String)
  /-- The request conflicts with the current state of a card. -/
  | operationConflict (detail : String)
  /-- The source card holds less than the amount to move. -/
  | insufficientFunds (card : CardId)
  /-- A card or another named thing does not exist (or is not visible to the caller). -/
  | notFound (detail : String)
  /-- The caller's role does not allow the operation. -/
  | forbidden (detail : String)
  /-- A stored card changed between reading and writing it. -/
  | concurrentModification (card : CardId)
  /-- A balance would pass the largest amount that can be held. -/
  | balanceOverflow
  /-- The sealed card number is already stored. -/
  | duplicateNumber
  /-- The library was set up with unusable settings. -/
  | configuration (detail : String)
  /-- A command file could not be read. -/
  | csv (detail : String)
  /-- An outside resource failed. -/
  | io (detail : String)
deriving DecidableEq

namespace CardError

/-- The text shown for an error. -/
def message : CardError → String
  | cryptoFailure detail => "Crypto failure: " ++ detail
  | exhaustedGeneration attempts =>
    "Could not generate a unique card number after " ++ toString attempts ++ " attempts"
  | invalidTransition detail => "Invalid status transition: " ++ detail
  | invalidRequest detail => "Invalid request: " ++ detail
  | operationConflict detail => "Operation conflict: " ++ detail
  | insufficientFunds card => "Insufficient funds on source card " ++ card.toText
  | notFound detail => "Not found: " ++ detail
  | forbidden detail => "Forbidden: " ++ detail
  | concurrentModification card => "Card " ++ card.toText ++ " was modified concurrently"
  | balanceOverflow => "Balance would exceed the largest representable amount"
  | duplicateNumber => "Card number already exists"
  | configuration detail => "Configuration error: " ++ detail
  | csv detail => "CSV error: " ++ detail
  | io detail => "IO error: " ++ detail

instance : ToString CardError := ⟨message⟩

/-- The name of an error's kind. -/
def kind : CardError → String
  | cryptoFailure _ => "CryptoFailure"
  | exhaustedGeneration _ => "ExhaustedGeneration"
  | invalidTransition _ => "InvalidTransition"
  | invalidRequest _ => "InvalidRequest"
  | operationConflict _ => "OperationConflict"
  | insufficientFunds _ => "InsufficientFunds"
  | notFound _ => "NotFound"
  | forbidden _ => "Forbidden"
  | concurrentModification _ => "ConcurrentModification"
  | balanceOverflow => "BalanceOverflow"
  | duplicateNumber => "DuplicateNumber"
  | configuration _ => "Configuration"
  | csv _ => "CsvError"
  | io _ => "Io"

/-- Whether the caller's request caused the error. Broken stored data, exhausted generation,
lost races, duplicates, configuration and input/output failures are not the caller's fault. -/
def isClient : CardError → Bool
  | invalidTransition _ | invalidRequest _ | operationConflict _ | insufficientFunds _
  | notFound _ | forbidden _ | balanceOverflow => true
  | _ => false

end CardError

abbrev Outcome (α : Type) := Except CardError α

end CardLedger
