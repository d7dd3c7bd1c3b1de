import CardLedger.Proofs.AsciiText
import CardLedger.Card.Number

/-!
# Check digits

Completion appends the one digit that makes a text valid, and the checksum catches every changed
digit and every swap of neighbours other than `09`, as long as the 32-bit sum does not wrap.
-/

namespace CardLedger

namespace Luhn

/-! ## Digits of texts -/

theorem digits_ofList_append (l₁ l₂ : List Char) :
    digits (String.ofList (l₁ ++ l₂)) = digits (String.ofList l₁) ++ digits (String.ofList l₂) := by
  simp [digits]

theorem digits_ofList_cons_digit (c : Char) (rest : List Char) (digit : c.isDigit = true) :
    digits (String.ofList (c :: rest)) = (c.toNat - 48) :: digits (String.ofList rest) := by
  simp [digits, digit]

theorem digits_ofList_of_all_digits {m : List Char} (allDigits : ∀ c ∈ m, c.isDigit = true) :
    digits (String.ofList m) = m.map (·.toNat - 48) := by
  induction m with
  | nil => rfl
  | cons c rest induction =>
    rw [digits_ofList_cons_digit c rest (allDigits c List.mem_cons_self),
      induction fun d member => allDigits d (List.mem_cons_of_mem c member), List.map_cons]

theorem digits_push_digitChar (s : String) {d : Nat} (small : d < 10) :
    digits (s.push (Nat.digitChar d)) = digits s ++ [d] := by
  simp [digits, String.toList_push, Nat.isDigit_digitChar, small,
    Nat.toNat_digitChar_sub_48_of_lt_ten small]

theorem digits_eq_nil_iff (s : String) : digits s = [] ↔ ∀ c ∈ s.toList, c.isDigit = false := by
  simp [digits, List.filterMap_eq_nil_iff]

theorem digits_ne_nil_of_mem {s : String} {c : Char} (member : c ∈ s.toList)
    (digit : c.isDigit = true) : digits s ≠ [] := by
  rw [Ne, digits_eq_nil_iff]
  intro none
  simp [none c member] at digit

theorem length_digits_le (s : String) : (digits s).length ≤ s.length := by
  rw [← String.length_toList]
  exact List.length_filterMap_le _ _

theorem digitValue_lt_ten {c : Char} (digit : c.isDigit = true) : c.toNat - 48 < 10 := by
  have bounds := Char.isDigit_iff_toNat.mp digit
  simp only [Char.reduceToNat] at bounds
  omega

theorem digits_lt_ten (s : String) : ∀ d ∈ digits s, d < 10 := by
  intro d member
  obtain ⟨c, -, digit, rfl⟩ : ∃ c ∈ s.toList, c.isDigit = true ∧ c.toNat - 48 = d := by
    simpa [digits] using member
  exact digitValue_lt_ten digit

theorem digitValue_eq_iff {a b : Char} (da : a.isDigit = true) (db : b.isDigit = true) :
    a.toNat - 48 = b.toNat - 48 ↔ a = b := by
  have ba := Char.isDigit_iff_toNat.mp da
  have bb := Char.isDigit_iff_toNat.mp db
  simp only [Char.reduceToNat] at ba bb
  rw [← Char.toNat_inj]
  omega

/-! ## The sum before wrapping -/

def exactSum (doubleRightmost : Bool) (ds : List Nat) : Nat :=
  (termsFromRight doubleRightmost ds.reverse).sum

def maxExactDigits : Nat := 477218588

theorem toNat_foldl_add (l : List Nat) (total : UInt32) :
    (l.foldl (fun total t => total + t.toUInt32) total).toNat = (total.toNat + l.sum) % 2 ^ 32 := by
  induction l generalizing total with
  | nil => simp [Nat.mod_eq_of_lt total.toNat_lt]
  | cons t l induction =>
    rw [List.foldl_cons, induction, UInt32.toNat_add, Nat.toUInt32_eq, UInt32.toNat_ofNat',
      List.sum_cons]
    omega

theorem toNat_sum (b : Bool) (ds : List Nat) : (sum b ds).toNat = exactSum b ds % 2 ^ 32 := by
  rw [sum, toNat_foldl_add, UInt32.toNat_zero, Nat.zero_add, exactSum]

theorem term_le_nine : ∀ b : Bool, ∀ d < 10, term b d ≤ 9 := by
  decide

theorem sum_termsFromRight_le (b : Bool) {ds : List Nat} (small : ∀ d ∈ ds, d < 10) :
    (termsFromRight b ds).sum ≤ 9 * ds.length := by
  induction ds generalizing b with
  | nil => simp
  | cons d ds induction =>
    have head := term_le_nine b d (small d List.mem_cons_self)
    have tail := induction (!b) fun d' member => small d' (List.mem_cons_of_mem d member)
    rw [termsFromRight_cons, List.sum_cons, List.length_cons]
    omega

theorem exactSum_le (b : Bool) {ds : List Nat} (small : ∀ d ∈ ds, d < 10) :
    exactSum b ds ≤ 9 * ds.length := by
  have reversed : ∀ d ∈ ds.reverse, d < 10 := by simpa using small
  have bound := sum_termsFromRight_le b reversed
  rwa [List.length_reverse] at bound

theorem toNat_sum_of_short (b : Bool) {ds : List Nat} (small : ∀ d ∈ ds, d < 10)
    (short : ds.length ≤ maxExactDigits) : (sum b ds).toNat = exactSum b ds := by
  have bound := exactSum_le b small
  rw [toNat_sum, Nat.mod_eq_of_lt]
  unfold maxExactDigits at short
  omega

theorem termsFromRight_append (b : Bool) (l₁ l₂ : List Nat) :
    termsFromRight b (l₁ ++ l₂) =
      termsFromRight b l₁ ++ termsFromRight (b ^^ (l₁.length % 2 == 1)) l₂ := by
  induction l₁ generalizing b with
  | nil => simp
  | cons d l₁ induction =>
    rw [List.cons_append, termsFromRight_cons, termsFromRight_cons, induction]
    have shifted : (!b ^^ (l₁.length % 2 == 1)) = (b ^^ ((l₁.length + 1) % 2 == 1)) := by
      cases b <;> rcases Nat.mod_two_eq_zero_or_one l₁.length with parity | parity <;>
        simp [parity, Nat.add_mod]
    rw [shifted, List.length_cons, List.cons_append]

theorem exactSum_append (b : Bool) (xs ys : List Nat) :
    exactSum b (xs ++ ys) = exactSum b ys + exactSum (b ^^ (ys.length % 2 == 1)) xs := by
  simp only [exactSum, List.reverse_append, termsFromRight_append, List.sum_append,
    List.length_reverse]

theorem exactSum_window_mod_ten (xs ys m m' : List Nat) (sameLength : m.length = m'.length) :
    exactSum false (xs ++ m ++ ys) % 10 = exactSum false (xs ++ m' ++ ys) % 10 ↔
      exactSum (ys.length % 2 == 1) m % 10 = exactSum (ys.length % 2 == 1) m' % 10 := by
  simp only [exactSum_append, Bool.false_xor, sameLength]
  omega

@[simp] theorem exactSum_singleton (b : Bool) (d : Nat) : exactSum b [d] = term b d := by
  simp [exactSum]

@[simp] theorem exactSum_pair (b : Bool) (x y : Nat) :
    exactSum b [x, y] = term b y + term (!b) x := by
  simp [exactSum]

theorem exactSum_append_digit (b : Bool) (ds : List Nat) (d : Nat) :
    exactSum b (ds ++ [d]) = term b d + exactSum (!b) ds := by
  simp [exactSum_append]

theorem term_mod_ten_injective : ∀ w : Bool, ∀ x < 10, ∀ y < 10,
    term w x % 10 = term w y % 10 → x = y := by
  decide

theorem swap_mod_ten : ∀ w : Bool, ∀ x < 10, ∀ y < 10,
    ((term w y + term (!w) x) % 10 = (term w x + term (!w) y) % 10 ↔
      x = y ∨ (x = 0 ∧ y = 9) ∨ (x = 9 ∧ y = 0)) := by
  decide

/-! ## Validity -/

theorem mod_ten_eq_zero_iff (x : UInt32) : x % 10 = 0 ↔ x.toNat % 10 = 0 := by
  rw [← UInt32.toNat_inj, UInt32.toNat_mod]
  rfl

theorem isValid_iff (s : String) :
    isValid s = true ↔ digits s ≠ [] ∧ (sum false (digits s)).toNat % 10 = 0 := by
  rw [← mod_ten_eq_zero_iff]
  simp [isValid]

theorem isValid_iff_of_short {s : String} (short : (digits s).length ≤ maxExactDigits) :
    isValid s = true ↔ digits s ≠ [] ∧ exactSum false (digits s) % 10 = 0 := by
  rw [isValid_iff, toNat_sum_of_short false (digits_lt_ten s) short]

theorem checkDigitOf_eq (ds : List Nat) :
    checkDigitOf ds = (10 - (sum true ds).toNat % 10) % 10 := by
  have residue : sum true ds % 10 ≤ 10 := by
    rw [UInt32.le_iff_toNat_le, UInt32.toNat_mod]
    exact (Nat.mod_lt _ (by decide)).le
  rw [checkDigitOf, UInt32.toNat_mod, UInt32.toNat_sub_of_le _ _ residue, UInt32.toNat_mod]
  rfl

theorem sum_append_mod_ten_iff {ds : List Nat} (small : ∀ d ∈ ds, d < 10)
    (short : ds.length < maxExactDigits) {d : Nat} (digit : d < 10) :
    (sum false (ds ++ [d])).toNat % 10 = 0 ↔ d = checkDigitOf ds := by
  have small' : ∀ d' ∈ ds ++ [d], d' < 10 := by
    intro d' member
    rcases List.mem_append.mp member with front | last
    · exact small d' front
    · rwa [List.mem_singleton.mp last]
  have short' : (ds ++ [d]).length ≤ maxExactDigits := by
    rw [List.length_append, List.length_singleton]
    omega
  rw [toNat_sum_of_short false small' short', exactSum_append_digit, term_false, Bool.not_false,
    checkDigitOf_eq, toNat_sum_of_short true small short.le]
  omega

theorem isValid_push_digitChar {s : String} (short : (digits s).length < maxExactDigits) {d : Nat}
    (small : d < 10) :
    isValid (s.push (Nat.digitChar d)) = true ↔ d = checkDigitOf (digits s) := by
  rw [isValid_iff, digits_push_digitChar s small,
    sum_append_mod_ten_iff (digits_lt_ten s) short small]
  simp

theorem checkDigit_eq_of_digits {s : String} (some : digits s ≠ []) :
    checkDigit s = .ok (checkDigitOf (digits s)) := by
  simp [checkDigit, List.isEmpty_iff, some]

theorem checkDigit_eq_error_iff (s : String) :
    checkDigit s = .error (.invalidRequest "Input number cannot be empty") ↔
      ∀ c ∈ s.toList, c.isDigit = false := by
  rw [← digits_eq_nil_iff]
  by_cases empty : digits s = []
  · simp [checkDigit, empty]
  · simp [checkDigit_eq_of_digits empty, empty]

theorem complete_eq_error_iff (s : String) :
    complete s = .error (.invalidRequest "Input number cannot be empty") ↔
      ∀ c ∈ s.toList, c.isDigit = false := by
  rw [← checkDigit_eq_error_iff, complete]
  cases checkDigit s <;> simp [Except.map]

theorem complete_eq_push {s : String} (some : digits s ≠ []) :
    complete s = .ok (s.push (Nat.digitChar (checkDigitOf (digits s)))) := by
  have single : toString (checkDigitOf (digits s)) =
      String.singleton (Nat.digitChar (checkDigitOf (digits s))) := by
    rw [Nat.toString_eq_repr, Nat.repr_of_lt (checkDigitOf_lt_ten _)]
  simp [complete, checkDigit_eq_of_digits some, Except.map, single]

theorem parse_complete_of_fifteen_digits {p : String} (fifteen : p.length = 15)
    (allDigits : ∀ c ∈ p.toList, c.isDigit = true) :
    ∃ n : CardNumber, complete p = .ok n.text ∧ CardNumber.parse n.text = .ok n := by
  obtain ⟨c, member⟩ := List.exists_mem_of_length_pos
    (by rw [String.length_toList, fifteen]; decide : 0 < p.toList.length)
  have some := digits_ne_nil_of_mem member (allDigits c member)
  have short : (digits p).length < maxExactDigits := by
    have few := length_digits_le p
    unfold maxExactDigits
    omega
  set d := checkDigitOf (digits p)
  have small : d < 10 := checkDigitOf_lt_ten _
  have sized : (p.push (Nat.digitChar d)).utf8ByteSize = CardNumber.length := by
    rw [String.utf8ByteSize_push, String.utf8ByteSize_of_ascii
      fun c member => Char.toNat_lt_of_isDigit (allDigits c member), fifteen,
      Char.utf8Size_of_toNat_lt (by rw [Nat.toNat_digitChar_of_lt_ten small]; omega)]
    rfl
  refine ⟨⟨p.push (Nat.digitChar d)⟩, complete_eq_push some, ?_⟩
  rw [CardNumber.parse_ok_iff]
  refine ⟨?_, (isValid_push_digitChar short small).mpr rfl, rfl⟩
  simp only [CardNumber.hasDigitShape, sized, beq_self_eq_true, Bool.true_and,
    String.toList_push, List.all_append]
  simpa [Nat.isDigit_digitChar, small] using allDigits

/-! ## Errors the checksum detects -/

theorem isValid_window_iff (pre post m m' : List Char) (dm : ∀ c ∈ m, c.isDigit = true)
    (dm' : ∀ c ∈ m', c.isDigit = true) (sameLength : m.length = m'.length) (nonempty : m' ≠ [])
    (short : (digits (String.ofList (pre ++ m ++ post))).length ≤ maxExactDigits)
    (valid : isValid (String.ofList (pre ++ m ++ post)) = true) :
    isValid (String.ofList (pre ++ m' ++ post)) = true ↔
      exactSum ((digits (String.ofList post)).length % 2 == 1) (m.map (·.toNat - 48)) % 10 =
        exactSum ((digits (String.ofList post)).length % 2 == 1) (m'.map (·.toNat - 48)) % 10 := by
  have sameCount : (digits (String.ofList (pre ++ m' ++ post))).length =
      (digits (String.ofList (pre ++ m ++ post))).length := by
    simp only [digits_ofList_append, digits_ofList_of_all_digits dm,
      digits_ofList_of_all_digits dm', List.length_append, List.length_map, sameLength]
  have short' := sameCount.trans_le short
  rw [isValid_iff_of_short short, digits_ofList_append, digits_ofList_append,
    digits_ofList_of_all_digits dm] at valid
  rw [isValid_iff_of_short short', digits_ofList_append, digits_ofList_append,
    digits_ofList_of_all_digits dm', ← exactSum_window_mod_ten _ _ _ _ (by simp [sameLength]),
    valid.2]
  have present : digits (String.ofList pre) ++ m'.map (·.toNat - 48) ++
      digits (String.ofList post) ≠ [] := by simp [nonempty]
  simp only [present, ne_eq, not_false_eq_true, true_and]
  exact eq_comm

theorem termsFromRight_replicate_nine (b : Bool) (n : Nat) :
    termsFromRight b (List.replicate n 9) = List.replicate n 9 := by
  induction n generalizing b with
  | zero => rfl
  | succ n induction =>
    rw [List.replicate_succ, termsFromRight_cons, induction]
    cases b <;> rfl

theorem exactSum_replicate_nine (b : Bool) (n : Nat) :
    exactSum b (List.replicate n 9) = 9 * n := by
  rw [exactSum, List.reverse_replicate, termsFromRight_replicate_nine, List.sum_replicate,
    smul_eq_mul, Nat.mul_comm]

theorem digits_replicate_nine (n : Nat) :
    digits (String.ofList (List.replicate n '9')) = List.replicate n 9 := by
  rw [digits_ofList_of_all_digits (by simp), List.map_replicate]
  rfl

theorem isValid_nines_append (n : Nat) {tail : List Char}
    (allDigits : ∀ c ∈ tail, c.isDigit = true) (nonempty : tail ≠ []) :
    isValid (String.ofList (List.replicate n '9' ++ tail)) = true ↔
      (exactSum false (tail.map (·.toNat - 48)) + 9 * n) % 2 ^ 32 % 10 = 0 := by
  rw [isValid_iff, toNat_sum, digits_ofList_append, digits_replicate_nine,
    digits_ofList_of_all_digits allDigits, exactSum_append, exactSum_replicate_nine]
  simp [nonempty]

end Luhn

end CardLedger
