import CardLedger.Luhn

/-!
# Card numbers

A card number is exactly sixteen ASCII digits that pass the Luhn check. It is shown only
masked: twelve stars in groups of four and the last four digits, as `**** **** **** 1111`.

Main statement: `parse_ok_iff` says exactly which texts are card numbers.
-/

namespace CardLedger

/-- Sixteen ASCII digits with a valid Luhn sum. -/
structure CardNumber where
  text : String
deriving DecidableEq

namespace CardNumber

def length : Nat := 16

def hasDigitShape (text : String) : Bool :=
  text.utf8ByteSize == length && text.toList.all Char.isDigit

/-- Checks the shape first and the Luhn sum second. -/
def parse (text : String) : Outcome CardNumber :=
  if !hasDigitShape text then .error (.invalidRequest "Card number must be 16 decimal digits")
  else if !Luhn.isValid text then .error (.invalidRequest "Card number fails the Luhn check")
  else .ok ⟨text⟩

def maskText (text : String) : String :=
  let ds := text.toList.filter Char.isDigit
  "**** **** **** " ++ String.ofList (ds.drop (ds.length - 4))

def masked (n : CardNumber) : String := maskText n.text

def debugText (n : CardNumber) : String := "CardNumber(\"" ++ n.masked ++ "\")"

theorem parse_ok_iff (text : String) (n : CardNumber) :
    parse text = .ok n ↔ hasDigitShape text = true ∧ Luhn.isValid text = true ∧ n.text = text := by
  unfold parse
  by_cases hs : hasDigitShape text <;> by_cases hv : Luhn.isValid text <;> simp [hs, hv]
  constructor
  · rintro rfl; rfl
  · intro h; cases n; simp_all

example : maskText "4111111111111111" = "**** **** **** 1111" := by decide

end CardNumber

end CardLedger
