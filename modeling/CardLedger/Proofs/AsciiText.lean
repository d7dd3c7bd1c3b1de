import CardLedger.Proofs.Sealing

/-!
# ASCII texts

A text whose characters are all ASCII takes one byte per character, and its UTF-8 bytes are the
character codes. The readers of decimals and identifiers work on bytes and the writers produce
ASCII, so these facts carry a written text over to what its reader sees.

Readers of numbers take digits from the left, multiplying what they hold by ten before adding the
next digit (`decimalValue`); on the decimal digits of `n` this gives back `n`
(`decimalValue_toDigits`).
-/

namespace CardLedger

theorem Char.utf8Size_of_toNat_lt {c : Char} (ascii : c.toNat < 128) : c.utf8Size = 1 := by
  rw [Char.utf8Size_eq_one_iff, UInt32.le_iff_toNat_le]
  exact Nat.le_of_lt_succ ascii

theorem Char.toNat_lt_of_isDigit {c : Char} (digit : c.isDigit = true) : c.toNat < 128 := by
  have bounds := Char.isDigit_iff_toNat.mp digit
  simp only [Char.reduceToNat] at bounds
  omega

theorem Char.toNat_toUInt8 {c : Char} (ascii : c.toNat < 128) : c.toUInt8.toNat = c.toNat := by
  rw [← Char.toUInt8_val, UInt32.toNat_toUInt8]
  exact Nat.mod_eq_of_lt (Nat.lt_trans ascii (by decide))

theorem String.utf8ByteSize_ofList (l : List Char) :
    (String.ofList l).utf8ByteSize = (l.map Char.utf8Size).sum := by
  rw [← String.size_toByteArray, String.toByteArray_ofList]
  simp [List.utf8Encode, List.length_flatMap]

theorem String.utf8ByteSize_of_ascii {s : String} (ascii : ∀ c ∈ s.toList, c.toNat < 128) :
    s.utf8ByteSize = s.length := by
  have ones : s.toList.map Char.utf8Size = List.replicate s.length 1 := by
    rw [List.map_congr_left fun c member => Char.utf8Size_of_toNat_lt (ascii c member),
      List.map_const', String.length_toList]
  rw [← String.ofList_toList (s := s), String.utf8ByteSize_ofList, ones,
    List.sum_replicate, smul_eq_mul, Nat.mul_one, String.length_ofList, String.length_toList]

theorem String.toUTF8_toList_of_ascii {l : List Char} (ascii : ∀ c ∈ l, c.toNat < 128) :
    (String.ofList l).toUTF8.toList = l.map Char.toUInt8 := by
  rw [String.toUTF8_eq_toByteArray, String.toByteArray_ofList, ByteArray.toList_eq]
  simp only [List.utf8Encode, List.toList_data_toByteArray]
  induction l with
  | nil => rfl
  | cons c rest induction =>
    have first := String.utf8EncodeChar_eq_singleton
      (Char.utf8Size_of_toNat_lt (ascii c List.mem_cons_self))
    rw [List.flatMap_cons, first, induction fun d member => ascii d (List.mem_cons_of_mem c member)]
    rfl

/-! ## Decimal digits -/

def decimalValue (acc : Nat) (ds : List Nat) : Nat := ds.foldl (fun a d => a * 10 + d) acc

@[simp] theorem decimalValue_nil (acc : Nat) : decimalValue acc [] = acc := rfl

@[simp] theorem decimalValue_cons (acc d : Nat) (ds : List Nat) :
    decimalValue acc (d :: ds) = decimalValue (acc * 10 + d) ds := rfl

theorem decimalValue_append (acc : Nat) (ds es : List Nat) :
    decimalValue acc (ds ++ es) = decimalValue (decimalValue acc ds) es := by
  simp [decimalValue, List.foldl_append]

theorem le_decimalValue (acc : Nat) (ds : List Nat) : acc ≤ decimalValue acc ds := by
  induction ds generalizing acc with
  | nil => rfl
  | cons d ds induction =>
    rw [decimalValue_cons]
    exact Nat.le_trans (by omega) (induction _)

theorem isDigit_digitChar_of_lt {d : Nat} (small : d < 10) : (Nat.digitChar d).isDigit = true := by
  simp [Nat.isDigit_digitChar, small]

theorem isDigit_of_mem_toDigits {n : Nat} {c : Char} (member : c ∈ Nat.toDigits 10 n) :
    c.isDigit = true :=
  Nat.isDigit_of_mem_toDigits (by decide) (by decide) member

theorem exists_toDigits_eq_cons (n : Nat) :
    ∃ c cs, Nat.toDigits 10 n = c :: cs ∧ c.isDigit = true := by
  obtain ⟨c, cs, spelled⟩ := List.exists_cons_of_ne_nil (Nat.toDigits_ne_nil (n := n) (b := 10))
  exact ⟨c, cs, spelled, isDigit_of_mem_toDigits (spelled ▸ List.mem_cons_self)⟩

theorem decimalValue_toDigits (n acc : Nat) :
    decimalValue acc ((Nat.toDigits 10 n).map (·.toNat - 48)) =
      acc * 10 ^ (Nat.toDigits 10 n).length + n := by
  induction n using Nat.strong_induction_on generalizing acc with
  | _ n induction =>
    rw [Nat.toDigits_eq_if (by decide)]
    split
    · rename_i small
      simp [Nat.toNat_digitChar_sub_48_of_lt_ten small]
    · rename_i large
      have lower := induction (n / 10) (by omega) acc
      have units : n % 10 < 10 := Nat.mod_lt _ (by decide)
      rw [List.map_append, decimalValue_append, lower, List.length_append, List.length_singleton,
        List.map_singleton, decimalValue_cons, decimalValue_nil,
        Nat.toNat_digitChar_sub_48_of_lt_ten units, pow_succ]
      have whole := Nat.div_add_mod n 10
      rw [Nat.add_mul, Nat.mul_assoc]
      omega

theorem head_toDigits_ne_zero {n : Nat} (positive : 0 < n) :
    (Nat.toDigits 10 n).head? ≠ some '0' := by
  induction n using Nat.strong_induction_on with
  | _ n induction =>
    rw [Nat.toDigits_eq_if (by decide)]
    split
    · rename_i small
      simp only [List.head?_cons, ne_eq, Option.some.injEq, Nat.digitChar_eq_zero]
      omega
    · rename_i large
      rw [List.head?_append_of_ne_nil _ Nat.toDigits_ne_nil]
      exact induction (n / 10) (by omega) (by omega)

end CardLedger
