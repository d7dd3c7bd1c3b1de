import Mathlib
import CardLedger.Proofs.OwnerIsolation

/-!
# Money is exact at two decimals

A decimal stands for the rational number `± mantissa / 10 ^ scale` (`Decimal.value`). Building a
balance from a decimal checks, in this order, that the number is not negative, that it is a
whole number of cents (`Decimal.WholeCents`: a hundred times it is an integer) and that it is at
most `maxMoney`; when all three hold, the balance holds exactly that number, as a count of cents.
An amount is built the same way from a number above zero (`Balance.Checked`, `Amount.Checked`).

Sums and differences of balances are exact counts of cents: a sum above `maxCents` is
`balanceOverflow`, never a rounded value (`Balance.Summed`), and a debit of more than the
balance is refused (`Balance.Debited`). So a debit followed by a credit of the same amount, or a
credit followed by a debit, gives back the balance. Adding a list of balances gives the exact
sum, or `balanceOverflow` when it passes `maxCents`, whatever the order of the list; hence an
owner's total does not depend on the order the store yields the owner's rows in.
-/

namespace CardLedger

namespace Decimal

def value (d : Decimal) : ℚ := d.signedMantissa / 10 ^ d.scale

def WholeCents (d : Decimal) : Prop := ∃ n : ℤ, (n : ℚ) = 100 * d.value

instance (d : Decimal) : Decidable d.WholeCents :=
  decidable_of_iff ((100 * d.value).den = 1)
    ⟨fun whole => ⟨(100 * d.value).num, Rat.coe_int_num_of_den_eq_one whole⟩,
      fun ⟨n, cents⟩ => cents ▸ Rat.den_intCast n⟩

variable {d : Decimal}

@[simp] theorem signedMantissa_zero : zero.signedMantissa = 0 := rfl

theorem compare_zero (d : Decimal) : Decimal.compare d zero = compare d.signedMantissa 0 := by
  have unit : ((Nat.pow 10 zero.scale : Nat) : Int) = 1 := rfl
  rw [Decimal.compare, signedMantissa_zero, zero_mul, unit, mul_one]

theorem value_neg_iff : d.value < 0 ↔ d.signedMantissa < 0 := by
  rw [value, div_neg_iff]
  have positive : (0 : ℚ) < 10 ^ d.scale := by positivity
  constructor
  · rintro (⟨-, below⟩ | ⟨negative, -⟩)
    · exact absurd below (not_lt.mpr positive.le)
    · exact_mod_cast negative
  · intro negative
    exact .inr ⟨by exact_mod_cast negative, positive⟩

theorem value_nonpos_iff : d.value ≤ 0 ↔ d.signedMantissa ≤ 0 := by
  rw [value, div_nonpos_iff]
  have positive : (0 : ℚ) < 10 ^ d.scale := by positivity
  constructor
  · rintro (⟨-, below⟩ | ⟨nonpositive, -⟩)
    · exact absurd below (not_le.mpr positive)
    · exact_mod_cast nonpositive
  · intro nonpositive
    exact .inr ⟨by exact_mod_cast nonpositive, positive.le⟩

theorem lt_zero_iff : d.lt zero = true ↔ d.value < 0 := by
  rw [value_neg_iff, lt, compare_zero, beq_iff_eq, compare_lt_iff_lt]

theorem le_zero_iff : d.le zero = true ↔ d.value ≤ 0 := by
  rw [value_nonpos_iff, le, compare_zero, bne_iff_ne, ne_eq, compare_gt_iff_gt, not_lt]

theorem signedMantissa_of_nonneg (nonneg : 0 ≤ d.value) : d.signedMantissa = d.mantissa := by
  have notBelow : ¬ d.signedMantissa < 0 := fun below => absurd (value_neg_iff.mpr below) (by simpa)
  unfold signedMantissa at notBelow ⊢
  split
  · rename_i negative
    simp only [negative, if_true, Left.neg_neg_iff, Nat.cast_pos, not_lt] at notBelow
    omega
  · rfl

/-! ## Normal form -/

theorem value_shift (m s : Nat) (negative : Bool) (mLt : 10 * m < mantissaBound)
    (sLe : s + 1 ≤ maxScale) (mLt' : m < mantissaBound) (sLe' : s ≤ maxScale) :
    value ⟨10 * m, s + 1, negative, mLt, sLe⟩ = value ⟨m, s, negative, mLt', sLe'⟩ := by
  have ten : (10 : ℚ) ≠ 0 := by norm_num
  cases negative <;>
    simp only [value, signedMantissa, if_true, Bool.false_eq_true, if_false, Nat.cast_mul,
      Nat.cast_ofNat, Int.cast_neg, Int.cast_mul, Int.cast_ofNat, Int.cast_natCast, pow_succ] <;>
    field_simp

theorem value_stripZeros (steps : Nat) (d : Decimal) : (stripZeros steps d).value = d.value := by
  induction steps generalizing d with
  | zero => rfl
  | succ steps induction =>
    obtain ⟨m, s, negative, mLt, sLe⟩ := d
    unfold stripZeros
    split
    · rename_i dropped
      rw [induction]
      obtain ⟨scaled, zeros⟩ := dropped
      obtain ⟨t, rfl⟩ : ∃ t, s = t + 1 := ⟨s - 1, by simp at scaled; omega⟩
      obtain ⟨k, rfl⟩ : ∃ k, m = 10 * k := ⟨m / 10, by simp at zeros; omega⟩
      simp only [Nat.add_sub_cancel, Nat.mul_div_cancel_left k (by decide : 0 < 10)]
      exact (value_shift k t negative mLt sLe _ _).symm
    · rfl

theorem stripZeros_reduced (steps : Nat) (d : Decimal) (enough : d.scale ≤ steps) :
    (stripZeros steps d).scale = 0 ∨ (stripZeros steps d).mantissa % 10 ≠ 0 := by
  induction steps generalizing d with
  | zero => exact .inl (Nat.le_zero.mp enough)
  | succ steps induction =>
    unfold stripZeros
    split
    · exact induction _ (by dsimp only; omega)
    · rename_i kept
      by_cases scaled : d.scale = 0
      · exact .inl scaled
      · exact .inr fun zeros => kept ⟨Nat.pos_of_ne_zero scaled, zeros⟩

theorem value_normalize (d : Decimal) : d.normalize.value = d.value := by
  unfold normalize
  split
  · rename_i zeroMantissa
    simp [value, signedMantissa, zeroMantissa, zero]
  · exact value_stripZeros _ _

theorem normalize_reduced (d : Decimal) :
    d.normalize.scale = 0 ∨ d.normalize.mantissa % 10 ≠ 0 := by
  unfold normalize
  split
  · exact .inl rfl
  · exact stripZeros_reduced _ _ le_rfl

/-! ## Whole cents -/

theorem hundred_mul_value_of_scale_le (small : d.scale ≤ 2) :
    100 * d.value = ((d.signedMantissa * 10 ^ (2 - d.scale) : ℤ) : ℚ) := by
  have split : (100 : ℚ) = 10 ^ (2 - d.scale) * 10 ^ d.scale := by
    rw [← pow_add, Nat.sub_add_cancel small]
    norm_num
  have positive : (10 : ℚ) ^ d.scale ≠ 0 := by positivity
  rw [value, split]
  push_cast
  field_simp

theorem not_wholeCents_of_reduced (wide : 2 < d.scale) (lastDigit : d.mantissa % 10 ≠ 0) :
    ¬ d.WholeCents := by
  rintro ⟨n, cents⟩
  obtain ⟨t, scale⟩ : ∃ t, d.scale = t + 3 := ⟨d.scale - 3, by omega⟩
  have positive : (10 : ℚ) ^ d.scale ≠ 0 := by positivity
  -- clearing the denominator: `n * 10 ^ (t + 3) = 100 * signedMantissa`
  have cleared : (d.signedMantissa : ℤ) = 10 * (n * 10 ^ t) := by
    have inQ : ((n * 10 ^ (t + 3) : ℤ) : ℚ) = ((100 * d.signedMantissa : ℤ) : ℚ) := by
      rw [value, scale] at cents
      push_cast
      rw [cents]
      field_simp
    have hundred : 100 * d.signedMantissa = 100 * (10 * (n * 10 ^ t)) := by
      rw [← Int.cast_injective inQ]
      ring
    exact Int.eq_of_mul_eq_mul_left (by norm_num) hundred
  have divides : (10 : ℤ) ∣ d.signedMantissa := ⟨_, cleared⟩
  have magnitude : d.signedMantissa.natAbs = d.mantissa := by
    unfold signedMantissa
    split <;> simp
  have : 10 ∣ d.mantissa := by
    rw [← magnitude]
    exact Int.natAbs_dvd_natAbs.mpr divides
  omega

theorem wholeCents_congr {d' : Decimal} (same : d'.value = d.value) :
    d'.WholeCents ↔ d.WholeCents := by
  simp only [WholeCents, same]

theorem cents?_isSome_iff : d.cents?.isSome ↔ d.WholeCents := by
  rw [← wholeCents_congr (value_normalize d)]
  unfold cents?
  dsimp only
  split
  · rename_i small
    simp only [Option.isSome_some, true_iff]
    exact ⟨_, (hundred_mul_value_of_scale_le small).symm⟩
  · rename_i wide
    simp only [Option.isSome_none, Bool.false_eq_true, false_iff]
    refine not_wholeCents_of_reduced (by omega) ?_
    rcases normalize_reduced d with scaled | lastDigit
    · omega
    · exact lastDigit

theorem cents?_eq_some {c : Nat} (nonneg : 0 ≤ d.value) (exact : d.cents? = some c) :
    (c : ℚ) = 100 * d.value := by
  unfold cents? at exact
  dsimp only at exact
  split at exact
  · rename_i small
    cases exact
    have nonneg' : 0 ≤ d.normalize.value := (value_normalize d).symm ▸ nonneg
    rw [← value_normalize d, hundred_mul_value_of_scale_le small,
      signedMantissa_of_nonneg nonneg', Nat.pow_eq]
    push_cast
    rfl
  · cases exact

end Decimal

def maxMoney : ℚ := (maxCents : ℚ) / 100

def Balance.value (b : Balance) : ℚ := (b.cents : ℚ) / 100

def Amount.value (a : Amount) : ℚ := (a.cents : ℚ) / 100

theorem cents_le_iff_value_le {c : Nat} {v : ℚ} (cents : (c : ℚ) = 100 * v) :
    c ≤ maxCents ↔ v ≤ maxMoney := by
  rw [maxMoney, le_div_iff₀ (by norm_num : (0 : ℚ) < 100), ← Nat.cast_le (α := ℚ), cents,
    mul_comm]

namespace Balance

/-- What building a balance from `d` gives, check by check: a negative number is refused first,
then one with more than two decimals, then one above `maxMoney`; otherwise the balance holds the
number itself. -/
def Checked (d : Decimal) : Outcome Balance → Prop
  | .ok b => 0 ≤ d.value ∧ d.WholeCents ∧ d.value ≤ maxMoney ∧ b.value = d.value
  | .error e =>
    if d.value < 0 then e = .invalidRequest "Balance cannot be negative"
    else if ¬ d.WholeCents then
      e = .invalidRequest ("Balance " ++ d.toText ++ " has more than 2 fractional digits")
    else maxMoney < d.value ∧ e = .balanceOverflow

theorem ofDecimal_checked (d : Decimal) : Checked d (ofDecimal d) := by
  unfold ofDecimal
  by_cases negative : d.lt Decimal.zero = true
  · simp [negative, Checked, Decimal.lt_zero_iff.mp negative]
  have nonneg : 0 ≤ d.value := not_lt.mp fun below => negative (Decimal.lt_zero_iff.mpr below)
  rw [if_neg negative]
  rcases exact : d.cents? with _ | cents
  · have notWhole : ¬ d.WholeCents := by
      rw [← Decimal.cents?_isSome_iff, exact]
      simp
    simp [Checked, not_lt.mpr nonneg, notWhole]
  · have whole : d.WholeCents := by
      rw [← Decimal.cents?_isSome_iff, exact]
      rfl
    have hundred := Decimal.cents?_eq_some nonneg exact
    dsimp only
    split
    · rename_i fits
      refine ⟨nonneg, whole, (cents_le_iff_value_le hundred).mp fits, ?_⟩
      simp only [value, hundred]
      ring
    · rename_i above
      simp only [Checked, not_lt.mpr nonneg, whole, not_true_eq_false, if_false, and_true]
      exact lt_of_not_ge fun fits => above ((cents_le_iff_value_le hundred).mpr fits)

theorem Checked.ok_iff {d : Decimal} {o : Outcome Balance} (checked : Checked d o) :
    (∃ b, o = .ok b) ↔ 0 ≤ d.value ∧ d.value ≤ maxMoney ∧ d.WholeCents := by
  cases o with
  | ok b => exact ⟨fun _ => ⟨checked.1, checked.2.2.1, checked.2.1⟩, fun _ => ⟨b, rfl⟩⟩
  | error e =>
    simp only [reduceCtorEq, exists_false, false_iff, not_and]
    intro nonneg fits whole
    simp only [Checked, not_lt.mpr nonneg, whole, not_true_eq_false, if_false] at checked
    exact absurd checked.1 (not_lt.mpr fits)

/-- What a sum of balances gives: the exact count of cents, or `balanceOverflow` exactly when the
count passes `maxCents`. -/
def Summed (cents : Nat) : Outcome Balance → Prop
  | .ok c => c.cents = cents
  | .error e => e = .balanceOverflow ∧ maxCents < cents

theorem checkedAdd_summed (b c : Balance) : Summed (b.cents + c.cents) (b.checkedAdd c) := by
  unfold checkedAdd
  split
  · rfl
  · rename_i above
    exact ⟨rfl, Nat.lt_of_not_le above⟩

theorem credit_summed (b : Balance) (a : Amount) : Summed (b.cents + a.cents) (b.credit a) :=
  checkedAdd_summed b a.toBalance

theorem Summed.ok_iff {cents : Nat} {o : Outcome Balance} (summed : Summed cents o) :
    (∃ c, o = .ok c) ↔ cents ≤ maxCents := by
  cases o with
  | ok c => exact ⟨fun _ => summed ▸ c.cents_le, fun _ => ⟨c, rfl⟩⟩
  | error e =>
    simp only [reduceCtorEq, exists_false, false_iff, not_le]
    exact summed.2

/-- What a debit gives: the exact difference when the amount is at most the balance, and
nothing otherwise. -/
def Debited (b : Balance) (a : Amount) : Option Balance → Prop
  | some c => a.cents ≤ b.cents ∧ c.cents = b.cents - a.cents
  | none => b.cents < a.cents

theorem debit_debited (b : Balance) (a : Amount) : Debited b a (b.debit a) := by
  unfold debit
  split
  · rename_i enough
    exact ⟨enough, rfl⟩
  · rename_i short
    exact Nat.lt_of_not_le short

theorem ext_cents {b c : Balance} (same : b.cents = c.cents) : b = c := by
  cases b
  cases c
  simp only at same
  subst same
  rfl

theorem credit_of_debit {b c : Balance} {a : Amount} (debited : b.debit a = some c) :
    c.credit a = .ok b := by
  have spent := debit_debited b a
  rw [debited] at spent
  obtain ⟨enough, difference⟩ := spent
  have summed := credit_summed c a
  obtain ⟨back, credited⟩ := summed.ok_iff.mpr (by have := b.cents_le; omega)
  rw [credited] at summed ⊢
  exact congrArg _ (ext_cents (by simp only [Summed] at summed; omega))

theorem debit_of_credit {b c : Balance} {a : Amount} (credited : b.credit a = .ok c) :
    c.debit a = some b := by
  have summed := credit_summed b a
  rw [credited] at summed
  have spent := debit_debited c a
  cases debited : c.debit a with
  | none =>
    rw [debited] at spent
    simp only [Summed, Debited] at summed spent
    omega
  | some back =>
    rw [debited] at spent
    exact congrArg _ (ext_cents (by simp only [Summed, Debited] at summed spent; omega))

theorem total_summed (l : List Balance) : Summed (l.map (·.cents)).sum (total l) := by
  rw [total, foldlM_checkedAdd, zero, Nat.zero_add, ofCents?]
  split
  · rfl
  · rename_i above
    exact ⟨rfl, Nat.lt_of_not_le above⟩

end Balance

namespace Amount

/-- What building an amount from `d` gives, check by check: a number that is not above zero is
refused first, then one with more than two decimals, then one above `maxMoney`; otherwise the
amount is the number itself. -/
def Checked (d : Decimal) : Outcome Amount → Prop
  | .ok a => 0 < d.value ∧ d.WholeCents ∧ d.value ≤ maxMoney ∧ a.value = d.value
  | .error e =>
    if d.value ≤ 0 then e = .invalidRequest "Transfer amount must be positive"
    else if ¬ d.WholeCents then
      e = .invalidRequest ("Amount " ++ d.toText ++ " has more than 2 fractional digits")
    else maxMoney < d.value ∧ e = .balanceOverflow

theorem ofDecimal_checked (d : Decimal) : Checked d (ofDecimal d) := by
  unfold ofDecimal
  by_cases nonpositive : d.le Decimal.zero = true
  · simp [nonpositive, Checked, Decimal.le_zero_iff.mp nonpositive]
  have positive : 0 < d.value := not_le.mp fun below => nonpositive (Decimal.le_zero_iff.mpr below)
  rw [if_neg nonpositive]
  rcases exact : d.cents? with _ | cents
  · have notWhole : ¬ d.WholeCents := by
      rw [← Decimal.cents?_isSome_iff, exact]
      simp
    simp [Checked, not_le.mpr positive, notWhole]
  · have whole : d.WholeCents := by
      rw [← Decimal.cents?_isSome_iff, exact]
      rfl
    have hundred := Decimal.cents?_eq_some positive.le exact
    have centsPos : 0 < cents := Decimal.cents?_pos (Bool.of_not_eq_true nonpositive) exact
    dsimp only
    split
    · rename_i fits
      refine ⟨positive, whole, (cents_le_iff_value_le hundred).mp fits.2, ?_⟩
      simp only [value, hundred]
      ring
    · rename_i above
      simp only [Checked, not_le.mpr positive, whole, not_true_eq_false, if_false, and_true]
      exact lt_of_not_ge fun fits => above ⟨centsPos, (cents_le_iff_value_le hundred).mpr fits⟩

theorem Checked.ok_iff {d : Decimal} {o : Outcome Amount} (checked : Checked d o) :
    (∃ a, o = .ok a) ↔ 0 < d.value ∧ d.value ≤ maxMoney ∧ d.WholeCents := by
  cases o with
  | ok a => exact ⟨fun _ => ⟨checked.1, checked.2.2.1, checked.2.1⟩, fun _ => ⟨a, rfl⟩⟩
  | error e =>
    simp only [reduceCtorEq, exists_false, false_iff, not_and]
    intro positive fits whole
    simp only [Checked, not_le.mpr positive, whole, not_true_eq_false, if_false] at checked
    exact absurd checked.1 (not_lt.mpr fits)

end Amount

/-- Money is exact at two decimals. A balance is built from a decimal exactly when the decimal
is a whole number of cents from zero to `maxMoney`, an amount exactly when it is one above zero
and at most `maxMoney`; the checks run sign, decimals, bound, and a built value is the decimal's
own number. Adding balances, or crediting an amount, gives the exact count of cents or
`balanceOverflow` exactly when it passes `maxCents`; a debit gives the exact difference exactly
when the amount is at most the balance; and a debit and a credit of one amount undo each
other. -/
theorem money_exact_at_two_decimals :
    (∀ d, Balance.Checked d (Balance.ofDecimal d)) ∧
    (∀ d, (∃ b, Balance.ofDecimal d = .ok b) ↔
      0 ≤ d.value ∧ d.value ≤ maxMoney ∧ d.WholeCents) ∧
    (∀ d, Amount.Checked d (Amount.ofDecimal d)) ∧
    (∀ d, (∃ a, Amount.ofDecimal d = .ok a) ↔ 0 < d.value ∧ d.value ≤ maxMoney ∧ d.WholeCents) ∧
    (∀ b c : Balance, Balance.Summed (b.cents + c.cents) (b.checkedAdd c)) ∧
    (∀ (b : Balance) (a : Amount), Balance.Summed (b.cents + a.cents) (b.credit a)) ∧
    (∀ (b : Balance) (a : Amount), Balance.Debited b a (b.debit a)) ∧
    (∀ (b c : Balance) (a : Amount), b.debit a = some c → c.credit a = .ok b) ∧
    (∀ (b c : Balance) (a : Amount), b.credit a = .ok c → c.debit a = some b) :=
  ⟨Balance.ofDecimal_checked, fun d => (Balance.ofDecimal_checked d).ok_iff,
    Amount.ofDecimal_checked, fun d => (Amount.ofDecimal_checked d).ok_iff,
    Balance.checkedAdd_summed, Balance.credit_summed, Balance.debit_debited,
    fun _ _ _ => Balance.credit_of_debit, fun _ _ _ => Balance.debit_of_credit⟩

/-- An owner's total does not depend on the order of the owner's rows. Adding any list of
balances gives the exact sum, or `balanceOverflow` exactly when the sum passes `maxCents`, so
every order of the list gives the same result; and for every order of the owner's rows, the
store's sum and the engine's total answer the sum in that order, leaving the engine as it was. -/
theorem ownerTotal_independent_of_order (eng : Engine Store) (who : Identity)
    (rows : List Record) (ordered : rows.Perm (eng.store.records.filter (·.owner == who.id))) :
    (∀ l : List Balance, Balance.Summed (l.map (·.cents)).sum (Balance.total l)) ∧
    (∀ l₁ l₂ : List Balance, l₁.Perm l₂ → Balance.total l₁ = Balance.total l₂) ∧
    eng.store.sumByOwner who.id = Balance.total (rows.map (·.balance)) ∧
    Engine.exec (Engine.getTotalBalance who) eng = (Balance.total (rows.map (·.balance)), eng) := by
  have sum : eng.store.sumByOwner who.id = Balance.total (rows.map (·.balance)) :=
    Balance.total_perm (ordered.map _).symm
  refine ⟨Balance.total_summed, fun _ _ perm => Balance.total_perm perm, sum, ?_⟩
  rw [← sum]
  rfl

/-- Two cards of one owner, under a sealer built from a 32-byte key, with their rows taken in the
reverse of the store's order. -/
theorem ownerTotal_reversed_rows :
    let key : List UInt8 := List.replicate 32 7
    let sealer : Sealer := ⟨Aes.schedule key.toArray⟩
    let owner : OwnerId := Uuid.ofNat 1
    let row : CardId → Balance → Record := fun id balance =>
      { id, owner, number := ⟨"sealed"⟩, expiry := ⟨12, 30, by decide, by decide, by decide⟩,
        status := .active, balance, version := 1 }
    let store : Store :=
      { sealer,
        cards := ((∅ : Std.HashMap CardId Record).insert (Uuid.ofNat 2)
          (row (Uuid.ofNat 2) ⟨1010, by decide⟩)).insert (Uuid.ofNat 3)
            (row (Uuid.ofNat 3) ⟨505, by decide⟩) }
    let eng : Engine Store := { store, sealer, config := {}, entropy := Entropy.initial }
    let rows := (store.records.filter (·.owner == owner)).reverse
    Sealer.ofKey key = .ok sealer ∧ rows.Perm (store.records.filter (·.owner == owner)) ∧
      ((∀ l : List Balance, Balance.Summed (l.map (·.cents)).sum (Balance.total l)) ∧
      (∀ l₁ l₂ : List Balance, l₁.Perm l₂ → Balance.total l₁ = Balance.total l₂) ∧
      store.sumByOwner owner = Balance.total (rows.map (·.balance)) ∧
      Engine.exec (Engine.getTotalBalance ⟨owner, .user⟩) eng =
        (Balance.total (rows.map (·.balance)), eng)) := by
  intro key sealer owner row store eng rows
  exact ⟨Sealer.ofKey_of_length rfl, List.reverse_perm _,
    ownerTotal_independent_of_order eng ⟨owner, .user⟩ rows (List.reverse_perm _)⟩

end CardLedger
