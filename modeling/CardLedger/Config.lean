import CardLedger.Error

/-!
# Engine settings

How many card numbers the engine draws before giving up on finding an unused one (default 10,
at least 1), and how many more times a transfer is tried after losing a race to another write
(default 3).
-/

namespace CardLedger

/-- Settings of the engine. -/
structure Config where
  maxGenerationAttempts : Nat := 10
  maxTransferRetries : Nat := 3

namespace Config

/-- Refuses settings that would never draw a card number. -/
def validate (c : Config) : Outcome Unit :=
  if c.maxGenerationAttempts = 0 then
    .error (.configuration "max_generation_attempts must be at least 1")
  else .ok ()

end Config

end CardLedger
