import CardLedger.Proofs.JsonText
import CardLedger.Proofs.ScriptReport
import CardLedger.Card.Json

/-!
# Expiry texts

An expiry is written `MM/YY`. Reading takes back exactly the texts written so: two ASCII digits
for a month from `01` to `12`, a slash and two ASCII digits (`IsText`). Reading a text gives the
expiry whose written form it is (`parse_eq_ok_iff`), every other text is refused with the one
message that quotes it, and in JSON an expiry is its text as a string.

Main statement: `parse_reads_exactly_written_form`.
-/

namespace CardLedger

namespace Expiry

def IsText (s : String) : Prop :=
  ∃ m₁ m₂ y₁ y₂ : Char, s.toList = [m₁, m₂, '/', y₁, y₂] ∧
    m₁.isDigit = true ∧ m₂.isDigit = true ∧ y₁.isDigit = true ∧ y₂.isDigit = true ∧
    1 ≤ (m₁.toNat - 48) * 10 + (m₂.toNat - 48) ∧ (m₁.toNat - 48) * 10 + (m₂.toNat - 48) ≤ 12

theorem digitChar_digitValue {c : Char} (digit : c.isDigit = true) :
    Nat.digitChar (c.toNat - 48) = c := by
  have bounds := Char.isDigit_iff_toNat.mp digit
  simp only [Char.reduceToNat] at bounds
  apply Char.toNat_inj.mp
  rw [Nat.toNat_digitChar_of_lt_ten (by omega)]
  omega

theorem digitChars_twoDigitValue {a b : Char} (da : a.isDigit = true) (db : b.isDigit = true) :
    Nat.digitChar (((a.toNat - 48) * 10 + (b.toNat - 48)) / 10) = a ∧
      Nat.digitChar (((a.toNat - 48) * 10 + (b.toNat - 48)) % 10) = b := by
  have bounds := Char.isDigit_iff_toNat.mp db
  simp only [Char.reduceToNat] at bounds
  rw [show ((a.toNat - 48) * 10 + (b.toNat - 48)) / 10 = a.toNat - 48 by omega,
    show ((a.toNat - 48) * 10 + (b.toNat - 48)) % 10 = b.toNat - 48 by omega]
  exact ⟨digitChar_digitValue da, digitChar_digitValue db⟩

theorem twoDigitValue?_eq_some {l : List Char} {n : Nat} (value : twoDigitValue? l = some n) :
    ∃ a b, l = [a, b] ∧ a.isDigit = true ∧ b.isDigit = true ∧
      n = (a.toNat - 48) * 10 + (b.toNat - 48) := by
  unfold twoDigitValue? at value
  split at value
  · rename_i a b
    split at value
    · rename_i digits
      exact ⟨a, b, rfl, digits.1, digits.2, (Option.some.inj value).symm⟩
    · cases value
  · cases value

theorem twoDigitValue?_digitChars {n : Nat} (small : n < 100) :
    twoDigitValue? [Nat.digitChar (n / 10), Nat.digitChar (n % 10)] = some n := by
  have tens : n / 10 < 10 := by omega
  have units : n % 10 < 10 := Nat.mod_lt _ (by decide)
  simp only [twoDigitValue?, Nat.isDigit_digitChar, tens, units, decide_true, and_self,
    if_true, Nat.toNat_digitChar_sub_48_of_lt_ten tens, Nat.toNat_digitChar_sub_48_of_lt_ten units]
  congr 1
  omega

theorem toList_toText (e : Expiry) :
    e.toText.toList = [Nat.digitChar (e.month / 10), Nat.digitChar (e.month % 10), '/',
      Nat.digitChar (e.year / 10), Nat.digitChar (e.year % 10)] := by
  rw [toText_eq, String.toList_ofList]

theorem parse_toText (e : Expiry) : parse e.toText = .ok e := by
  have monthSmall : e.month < 100 := by have := e.month_le; omega
  have split : e.toText.toList.span (· ≠ '/') =
      ([Nat.digitChar (e.month / 10), Nat.digitChar (e.month % 10)],
        '/' :: [Nat.digitChar (e.year / 10), Nat.digitChar (e.year % 10)]) := by
    rw [toList_toText, List.span_eq_takeWhile_dropWhile]
    simp
  unfold parse
  simp only [split, twoDigitValue?_digitChars monthSmall, twoDigitValue?_digitChars e.year_lt]
  rw [dif_pos ⟨e.month_pos, e.month_le, e.year_lt⟩]

theorem eq_toText_of_parse {s : String} {e : Expiry} (read : parse s = .ok e) : s = e.toText := by
  unfold parse at read
  split at read
  · rename_i mm yy halves
    rw [List.span_eq_takeWhile_dropWhile, Prod.mk.injEq] at halves
    have whole : s.toList = mm ++ '/' :: yy := by
      rw [← halves.1, ← halves.2, List.takeWhile_append_dropWhile]
    split at read
    · rename_i month year monthValue yearValue
      obtain ⟨m₁, m₂, rfl, d₁, d₂, rfl⟩ := twoDigitValue?_eq_some monthValue
      obtain ⟨y₁, y₂, rfl, d₃, d₄, rfl⟩ := twoDigitValue?_eq_some yearValue
      split at read
      · cases read
        apply String.toList_inj.mp
        obtain ⟨month₁, month₂⟩ := digitChars_twoDigitValue d₁ d₂
        obtain ⟨year₁, year₂⟩ := digitChars_twoDigitValue d₃ d₄
        rw [whole, toList_toText]
        simp only [List.cons_append, List.nil_append, List.cons.injEq, and_true, true_and]
        exact ⟨month₁.symm, month₂.symm, year₁.symm, year₂.symm⟩
      · cases read
    · cases read
  · cases read

theorem parse_eq_ok_iff (s : String) (e : Expiry) : parse s = .ok e ↔ s = e.toText :=
  ⟨eq_toText_of_parse, fun written => written ▸ parse_toText e⟩

theorem isText_iff (s : String) : IsText s ↔ ∃ e : Expiry, s = e.toText := by
  constructor
  · rintro ⟨m₁, m₂, y₁, y₂, chars, d₁, d₂, d₃, d₄, low, high⟩
    have digit₃ := Char.isDigit_iff_toNat.mp d₃
    have digit₄ := Char.isDigit_iff_toNat.mp d₄
    simp only [Char.reduceToNat] at digit₃ digit₄
    refine ⟨⟨(m₁.toNat - 48) * 10 + (m₂.toNat - 48), (y₁.toNat - 48) * 10 + (y₂.toNat - 48),
      low, high, by omega⟩, ?_⟩
    apply eq_toText_of_parse
    unfold parse
    have split : s.toList.span (· ≠ '/') = ([m₁, m₂], '/' :: [y₁, y₂]) := by
      have notSlash₁ : m₁ ≠ '/' := fun slash => by simp [slash] at d₁
      have notSlash₂ : m₂ ≠ '/' := fun slash => by simp [slash] at d₂
      rw [chars, List.span_eq_takeWhile_dropWhile]
      simp [notSlash₁, notSlash₂]
    rw [split]
    simp only [twoDigitValue?, d₁, d₂, d₃, d₄, and_self, if_true]
    rw [dif_pos ⟨low, high, by omega⟩]
  · rintro ⟨e, rfl⟩
    have monthSmall : e.month / 10 < 10 := by have := e.month_le; omega
    have yearSmall : e.year / 10 < 10 := by have := e.year_lt; omega
    have monthUnits : e.month % 10 < 10 := Nat.mod_lt _ (by decide)
    have yearUnits : e.year % 10 < 10 := Nat.mod_lt _ (by decide)
    refine ⟨_, _, _, _, toList_toText e, ?_⟩
    simp only [Nat.isDigit_digitChar, monthSmall, yearSmall, monthUnits, yearUnits,
      decide_true, Nat.toNat_digitChar_sub_48_of_lt_ten, true_and]
    have := e.month_pos
    have := e.month_le
    omega

theorem parse_ok_or_invalid (s : String) :
    (∃ e, parse s = .ok e) ∨
      parse s = .error (.invalidRequest ("Invalid expiry '" ++ s ++ "', expected MM/YY")) := by
  unfold parse
  split
  · split
    · split
      · exact .inl ⟨_, rfl⟩
      · exact .inr rfl
    · exact .inr rfl
  · exact .inr rfl

/-! ## JSON form -/

theorem toJsonText_eq (e : Expiry) : e.toJsonText = "\"" ++ e.toText ++ "\"" := by
  have monthSmall : e.month / 10 < 10 := by have := e.month_le; omega
  have yearSmall : e.year / 10 < 10 := by have := e.year_lt; omega
  have monthUnits : e.month % 10 < 10 := Nat.mod_lt _ (by decide)
  have yearUnits : e.year % 10 < 10 := Nat.mod_lt _ (by decide)
  rw [toJsonText, Json.quote_of_plain]
  rw [toList_toText]
  simp only [List.mem_cons, List.not_mem_nil, or_false]
  rintro c (same | same | same | same | same) <;> subst same
  · exact Json.plain_of_isDigit (isDigit_digitChar_of_lt monthSmall)
  · exact Json.plain_of_isDigit (isDigit_digitChar_of_lt monthUnits)
  · decide
  · exact Json.plain_of_isDigit (isDigit_digitChar_of_lt yearSmall)
  · exact Json.plain_of_isDigit (isDigit_digitChar_of_lt yearUnits)

theorem reads_readExpiry (e : Expiry) (rest : List Char) :
    Json.Reads Json.readExpiry ((Json.quote e.toText).toList ++ rest) e rest := by
  apply (Json.Reads.readString_quote "a string" rfl rest).bind
  rw [parse_toText]
  exact Json.Reads.pure e rest

theorem readExpiry_toJsonText (e : Expiry) : Json.run Json.readExpiry e.toJsonText = .ok e := by
  apply Json.run_of_reads
  rw [toJsonText, ← List.append_nil (Json.quote e.toText).toList]
  exact reads_readExpiry e []

/-- Reading takes exactly the `MM/YY` texts and gives back the expiry written there, refuses
every other text with the message that quotes it, and reads every written expiry back, also
from its JSON string. -/
theorem parse_reads_exactly_written_form (s : String) (e : Expiry) :
    ((∃ e', parse s = .ok e') ↔ IsText s) ∧
    (¬IsText s →
      parse s = .error (.invalidRequest ("Invalid expiry '" ++ s ++ "', expected MM/YY"))) ∧
    (∀ e', parse s = .ok e' → e'.toText = s) ∧
    parse e.toText = .ok e ∧
    e.toJsonText = "\"" ++ e.toText ++ "\"" ∧
    Json.run Json.readExpiry e.toJsonText = .ok e := by
  have accepted : (∃ e', parse s = .ok e') ↔ IsText s := by
    simp only [parse_eq_ok_iff, isText_iff]
  refine ⟨accepted, fun notText => ?_, fun e' read => (eq_toText_of_parse read).symm,
    parse_toText e, toJsonText_eq e, readExpiry_toJsonText e⟩
  rcases parse_ok_or_invalid s with read | refused
  · exact absurd (accepted.mp read) notText
  · exact refused

/-- `7/29` has a one-digit month and is refused. -/
theorem one_digit_month_refused :
    ¬IsText "7/29" ∧
      parse "7/29" =
        .error (.invalidRequest ("Invalid expiry '" ++ "7/29" ++ "', expected MM/YY")) := by
  have notText : ¬IsText "7/29" := by
    rintro ⟨m₁, m₂, y₁, y₂, chars, -⟩
    have four : "7/29".toList.length = 4 := by decide
    rw [chars] at four
    simp at four
  exact ⟨notText,
    (parse_reads_exactly_written_form "7/29" ⟨7, 29, by decide, by decide, by decide⟩).2.1 notText⟩

end Expiry

end CardLedger
