import CardLedger.Proofs.ExactMoney
import CardLedger.Proofs.ScriptReport
import CardLedger.Proofs.AsciiText

/-!
# Reading money texts back

A balance is written with its whole units, a point and two decimals. Reading that text as a
decimal takes the digits one at a time, in a narrow register and, for long texts, a wide one,
which only differ when a digit would overflow the mantissa or pass 28 fractional digits. A
written balance has two fractional digits and fits the mantissa, so both registers just
accumulate its digits (`scanNarrow_whole`, `scanWide_whole`), and the text reads as its cents at
scale 2 (`read?_toText`). Checked as a balance, that decimal is the balance again
(`Balance.ofDecimal_read?_toText`).
-/

namespace CardLedger

namespace Decimal

abbrev byteValues (bytes : List UInt8) : List Nat := bytes.map (·.toNat - 48)

theorem scanWide_fraction {negative : Bool} {b : UInt8} {rest : List UInt8}
    (digits : ∀ x ∈ b :: rest, digitOf? x = some (x.toNat - 48)) {data scale : Nat}
    (fits : decimalValue data (byteValues (b :: rest)) < mantissaBound)
    (short : scale + rest.length < maxScale) :
    scanWide true negative data scale b rest =
      finishScan negative true (decimalValue data (byteValues (b :: rest)))
        (scale + rest.length + 1) := by
  induction rest generalizing b data scale with
  | nil =>
    rw [scanWide, digits b List.mem_cons_self]
    simp only [List.map_cons, List.map_nil, decimalValue_cons, decimalValue_nil] at fits ⊢
    rw [if_neg (by omega)]
    rfl
  | cons n rest induction =>
    have fitsTail : decimalValue (data * 10 + (b.toNat - 48)) (byteValues (n :: rest)) <
        mantissaBound := fits
    have within := le_decimalValue (data * 10 + (b.toNat - 48)) (byteValues (n :: rest))
    have shortTail : scale + 1 + rest.length < maxScale := by
      simp only [List.length_cons] at short
      omega
    have tail := induction (fun x member => digits x (List.mem_cons_of_mem b member)) fitsTail
      shortTail
    rw [scanWide, digits b List.mem_cons_self]
    simp only [if_true, true_and]
    rw [if_neg (by omega), if_neg (by simp only [maxScale] at shortTail ⊢; omega), tail]
    simp only [List.length_cons]
    congr 1
    omega

theorem digitOf?_point : digitOf? 46 = none := by decide

theorem scanWide_whole {negative : Bool} {fs : List UInt8}
    (digitsFs : ∀ x ∈ fs, digitOf? x = some (x.toNat - 48)) (nonempty : fs ≠ [])
    (short : fs.length ≤ maxScale) :
    ∀ (ds : List UInt8), (∀ x ∈ ds, digitOf? x = some (x.toNat - 48)) →
      ∀ {data : Nat} {b : UInt8} {rest : List UInt8}, b :: rest = ds ++ 46 :: fs →
        decimalValue (decimalValue data (byteValues ds)) (byteValues fs) < mantissaBound →
        scanWide false negative data 0 b rest =
          finishScan negative true
            (decimalValue (decimalValue data (byteValues ds)) (byteValues fs)) fs.length
  | [], _, data, b, rest, input, fits => by
    obtain ⟨rfl, rfl⟩ := List.cons.inj input
    obtain ⟨f, fs', rfl⟩ := List.exists_cons_of_ne_nil nonempty
    rw [scanWide, digitOf?_point]
    simp only [List.length_cons] at short
    simp only [Bool.not_false, and_self, if_true]
    simp only [List.map_nil, decimalValue_nil] at fits ⊢
    rw [scanWide_fraction digitsFs fits (by omega), List.length_cons]
    congr 1
    omega
  | d :: ds, digitsDs, data, b, rest, input, fits => by
    rw [List.cons_append] at input
    obtain ⟨rfl, rfl⟩ := List.cons.inj input
    obtain ⟨n, rest', split⟩ := List.exists_cons_of_ne_nil (List.append_ne_nil_of_right_ne_nil ds
      (List.cons_ne_nil 46 fs))
    have fitsTail : decimalValue (decimalValue (data * 10 + (b.toNat - 48)) (byteValues ds))
        (byteValues fs) < mantissaBound := fits
    have tail := @scanWide_whole negative fs digitsFs nonempty short ds
      (fun x member => digitsDs x (List.mem_cons_of_mem b member)) _ n rest' split.symm fitsTail
    have within := le_decimalValue (data * 10 + (b.toNat - 48)) (byteValues ds)
    have below := le_decimalValue (decimalValue (data * 10 + (b.toNat - 48)) (byteValues ds))
      (byteValues fs)
    rw [split, scanWide, digitsDs b List.mem_cons_self]
    simp only [Bool.false_eq_true, if_false, false_and]
    rw [if_neg (by omega)]
    exact tail

theorem scanNarrow_fraction {wide first : Bool} {s : Scan} (point : s.point = true)
    {b : UInt8} {rest : List UInt8} (digits : ∀ x ∈ b :: rest, digitOf? x = some (x.toNat - 48))
    (fits : decimalValue s.data (byteValues (b :: rest)) < mantissaBound)
    (short : s.scale + rest.length < maxScale) :
    scanNarrow wide s first (b :: rest) =
      finishScan s.negative true (decimalValue s.data (byteValues (b :: rest)))
        (s.scale + rest.length + 1) := by
  induction rest generalizing s first b with
  | nil =>
    rw [scanNarrow, digits b List.mem_cons_self]
    simp only [point, if_true]
    rfl
  | cons n rest induction =>
    have fitsTail : decimalValue (s.data * 10 + (b.toNat - 48)) (byteValues (n :: rest)) <
        mantissaBound := fits
    have shortTail : s.scale + 1 + rest.length < maxScale := by
      simp only [List.length_cons] at short
      omega
    rw [scanNarrow, digits b List.mem_cons_self]
    simp only [point, if_true, true_and]
    rw [if_neg (by simp only [maxScale] at shortTail ⊢; omega)]
    split_ifs
    · -- a long text goes on in the wide register
      rw [scanWide_fraction (fun x member => digits x (List.mem_cons_of_mem b member)) fitsTail
        shortTail, List.length_cons]
      congr 1
      omega
    · rw [induction
        (s := { s with
          point := true, seenDigit := true, data := s.data * 10 + (b.toNat - 48),
          scale := s.scale + 1 })
        rfl (fun x member => digits x (List.mem_cons_of_mem b member)) fitsTail shortTail,
        List.length_cons]
      dsimp only
      congr 1
      omega

theorem scanNarrow_whole {wide : Bool} {fs : List UInt8}
    (digitsFs : ∀ x ∈ fs, digitOf? x = some (x.toNat - 48)) (nonempty : fs ≠ [])
    (short : fs.length ≤ maxScale) :
    ∀ (ds : List UInt8), (∀ x ∈ ds, digitOf? x = some (x.toNat - 48)) →
      ∀ {s : Scan} {first : Bool}, s.point = false → s.scale = 0 →
        decimalValue (decimalValue s.data (byteValues ds)) (byteValues fs) < mantissaBound →
        scanNarrow wide s first (ds ++ 46 :: fs) =
          finishScan s.negative true (decimalValue (decimalValue s.data (byteValues ds))
            (byteValues fs)) fs.length
  | [], _, s, first, point, zero, fits => by
    obtain ⟨f, fs', rfl⟩ := List.exists_cons_of_ne_nil nonempty
    rw [List.nil_append, scanNarrow, digitOf?_point]
    simp only [point, Bool.not_false, and_self, if_true]
    simp only [List.length_cons] at short
    simp only [List.map_nil, decimalValue_nil] at fits ⊢
    rw [scanNarrow_fraction (s := { s with point := true }) rfl digitsFs fits
      (by simp only [zero]; omega), List.length_cons]
    simp only [zero]
    congr 1
    omega
  | d :: ds, digitsDs, s, first, point, zero, fits => by
    obtain ⟨n, rest', split⟩ := List.exists_cons_of_ne_nil (List.append_ne_nil_of_right_ne_nil ds
      (List.cons_ne_nil 46 fs))
    have fitsTail : decimalValue (decimalValue (s.data * 10 + (d.toNat - 48)) (byteValues ds))
        (byteValues fs) < mantissaBound := fits
    have tailDigits : ∀ x ∈ ds, digitOf? x = some (x.toNat - 48) :=
      fun x member => digitsDs x (List.mem_cons_of_mem d member)
    have within := le_decimalValue (s.data * 10 + (d.toNat - 48)) (byteValues ds)
    have below := le_decimalValue (decimalValue (s.data * 10 + (d.toNat - 48)) (byteValues ds))
      (byteValues fs)
    have tail : scanNarrow wide
        { s with seenDigit := true, data := s.data * 10 + (d.toNat - 48), scale := 0 } false
        (ds ++ 46 :: fs) = _ :=
      scanNarrow_whole digitsFs nonempty short ds tailDigits point rfl fitsTail
    rw [split, point] at tail
    rw [List.cons_append, split, scanNarrow, digitsDs d List.mem_cons_self]
    simp only [point, Bool.false_eq_true, if_false, false_and]
    split_ifs
    · -- a long text goes on in the wide register
      exact scanWide_whole digitsFs nonempty short ds tailDigits split.symm fitsTail
    · exact tail

theorem digitOf?_toUInt8 {c : Char} (digit : c.isDigit = true) :
    digitOf? c.toUInt8 = some (c.toUInt8.toNat - 48) := by
  have bounds := Char.isDigit_iff_toNat.mp digit
  have code := Char.toNat_toUInt8 (Char.toNat_lt_of_isDigit digit)
  simp only [Char.reduceToNat] at bounds
  unfold digitOf?
  rw [if_pos]
  simp only [UInt8.le_iff_toNat_le, code, UInt8.reduceToNat]
  omega

theorem digitOf?_map_toUInt8 {l : List Char} (digits : ∀ c ∈ l, c.isDigit = true) :
    ∀ x ∈ l.map Char.toUInt8, digitOf? x = some (x.toNat - 48) := by
  intro x member
  obtain ⟨c, mem, rfl⟩ := List.mem_map.mp member
  exact digitOf?_toUInt8 (digits c mem)

theorem byteValues_map_toUInt8 {l : List Char} (digits : ∀ c ∈ l, c.isDigit = true) :
    byteValues (l.map Char.toUInt8) = l.map (·.toNat - 48) := by
  simp only [byteValues, List.map_map]
  exact List.map_congr_left fun c member => by
    simp only [Function.comp_apply, Char.toNat_toUInt8 (Char.toNat_lt_of_isDigit (digits c member))]

end Decimal

theorem Balance.cents_lt_mantissaBound (b : Balance) : b.cents < mantissaBound := by
  have bounded := b.cents_le
  have positive : 0 < Nat.pow 2 96 := Nat.two_pow_pos 96
  unfold maxCents at bounded
  unfold mantissaBound
  omega

theorem Balance.toList_toText (b : Balance) : b.toText.toList =
    Nat.toDigits 10 (b.cents / 100) ++
      '.' :: [Nat.digitChar (b.cents % 100 / 10), Nat.digitChar (b.cents % 10)] := by
  rw [toText_eq, Nat.toString_eq_repr]
  simp only [String.toList_append, Nat.toList_repr, String.toList_ofList, List.append_assoc]
  rfl

theorem Balance.decimals_isDigit (b : Balance) :
    ∀ c ∈ [Nat.digitChar (b.cents % 100 / 10), Nat.digitChar (b.cents % 10)], c.isDigit = true := by
  have small₁ : b.cents % 100 / 10 < 10 := by omega
  have small₂ : b.cents % 10 < 10 := Nat.mod_lt _ (by decide)
  simp [isDigit_digitChar_of_lt small₁, isDigit_digitChar_of_lt small₂]

theorem Balance.mem_toText {b : Balance} {c : Char} (member : c ∈ b.toText.toList) :
    c = '.' ∨ c.isDigit = true := by
  rw [toList_toText] at member
  rcases List.mem_append.mp member with whole | rest
  · exact .inr (isDigit_of_mem_toDigits whole)
  rcases List.mem_cons.mp rest with point | fraction
  · exact .inl point
  · exact .inr (b.decimals_isDigit c fraction)

theorem Balance.ofString?_toText (b : Balance) :
    Decimal.ofString? b.toText = Decimal.make? b.cents 2 false := by
  have small₁ : b.cents % 100 / 10 < 10 := by omega
  have small₂ : b.cents % 10 < 10 := Nat.mod_lt _ (by decide)
  have ascii : ∀ c ∈ b.toText.toList, c.toNat < 128 := by
    intro c member
    rcases mem_toText member with point | digit
    · rw [point]
      decide
    · exact Char.toNat_lt_of_isDigit digit
  have bytes : b.toText.toUTF8.toList =
      (Nat.toDigits 10 (b.cents / 100)).map Char.toUInt8 ++
        46 :: [Nat.digitChar (b.cents % 100 / 10), Nat.digitChar (b.cents % 10)].map
          Char.toUInt8 := by
    rw [← String.ofList_toList (s := b.toText), String.toUTF8_toList_of_ascii ascii,
      toList_toText, List.map_append, List.map_cons]
    rfl
  have wholeValue : decimalValue 0 (Decimal.byteValues
      ((Nat.toDigits 10 (b.cents / 100)).map Char.toUInt8)) = b.cents / 100 := by
    rw [Decimal.byteValues_map_toUInt8 fun c member => isDigit_of_mem_toDigits member,
      decimalValue_toDigits, Nat.zero_mul, Nat.zero_add]
  have fractionValues : Decimal.byteValues
      ([Nat.digitChar (b.cents % 100 / 10), Nat.digitChar (b.cents % 10)].map Char.toUInt8) =
      [b.cents % 100 / 10, b.cents % 10] := by
    rw [Decimal.byteValues_map_toUInt8 b.decimals_isDigit, List.map_cons, List.map_cons,
      List.map_nil,
      Nat.toNat_digitChar_sub_48_of_lt_ten small₁, Nat.toNat_digitChar_sub_48_of_lt_ten small₂]
  have value : decimalValue (decimalValue 0 (Decimal.byteValues
      ((Nat.toDigits 10 (b.cents / 100)).map Char.toUInt8))) (Decimal.byteValues
        ([Nat.digitChar (b.cents % 100 / 10), Nat.digitChar (b.cents % 10)].map Char.toUInt8)) =
      b.cents := by
    rw [wholeValue, fractionValues, decimalValue_cons, decimalValue_cons, decimalValue_nil]
    omega
  unfold Decimal.ofString?
  rw [bytes, Decimal.scanNarrow_whole (s := {}) (Decimal.digitOf?_map_toUInt8 b.decimals_isDigit)
    (by simp)
    (by simp [maxScale]) ((Nat.toDigits 10 (b.cents / 100)).map Char.toUInt8)
    (Decimal.digitOf?_map_toUInt8 fun c member => isDigit_of_mem_toDigits member) rfl rfl
    (lt_of_eq_of_lt value b.cents_lt_mantissaBound), value]
  rfl

theorem Balance.ofDecimal_of_value_eq {d : Decimal} {b : Balance} (same : d.value = b.value) :
    Balance.ofDecimal d = .ok b := by
  have cents : (b.cents : ℚ) = 100 * d.value := by
    rw [same, Balance.value]
    ring
  have nonneg : 0 ≤ d.value := by
    rw [same, Balance.value]
    positivity
  have fits : d.value ≤ maxMoney := (cents_le_iff_value_le cents).mp b.cents_le
  have whole : d.WholeCents := ⟨b.cents, by exact_mod_cast cents⟩
  have checked := ofDecimal_checked d
  obtain ⟨b', built⟩ := checked.ok_iff.mpr ⟨nonneg, fits, whole⟩
  rw [built] at checked ⊢
  have values : (b'.cents : ℚ) / 100 = (b.cents : ℚ) / 100 := checked.2.2.2.trans same
  have same : b'.cents = b.cents := by
    exact_mod_cast (div_left_inj' (by norm_num : (100 : ℚ) ≠ 0)).mp values
  rw [ext_cents same]

theorem Balance.read?_toText (b : Balance) :
    ∃ d, Decimal.read? b.toText = some d ∧ Balance.ofDecimal d = .ok b := by
  have fits : b.cents < mantissaBound ∧ 2 ≤ maxScale := ⟨b.cents_lt_mantissaBound, by decide⟩
  refine ⟨⟨b.cents, 2, false, fits.1, fits.2⟩, ?_, ofDecimal_of_value_eq ?_⟩
  · unfold Decimal.read?
    rw [ofString?_toText, Decimal.make?, dif_pos fits]
  · simp only [Decimal.value, Decimal.signedMantissa, Balance.value, Bool.false_eq_true, if_false]
    norm_num

end CardLedger
