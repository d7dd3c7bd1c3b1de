import CardLedger.Proofs.JsonText

/-!
# Reading written numbers, variants and members back

The other values a row is written with: an unsigned number in decimal, a unit variant by its
quoted name, a decimal as a quoted string, and the punctuation of an object. Each reader is
followed through its steps with `Json.Reads`, as the string reader is.

A number is read digit by digit while it fits 64 bits and is done at the first character that
cannot continue it (`NumberEnd`), so the decimal text of any `n ≤ maxUnsigned` reads back as `n`
(`Reads.readUnsigned_toString`).
-/

namespace CardLedger

namespace Json

/-- A text that cannot continue a number: it does not start with a digit, a point or an
exponent mark. -/
def NumberEnd (text : List Char) : Prop :=
  ∀ ch, text.head? = some ch → ch.isDigit = false ∧ ch ≠ '.' ∧ ch ≠ 'e' ∧ ch ≠ 'E'

theorem isBlank_of_isDigit {c : Char} (digit : c.isDigit = true) : isBlank c = false := by
  simp only [isBlank, decide_eq_false_iff_not]
  rintro (same | same | same | same) <;> rw [same] at digit <;> simp at digit

namespace Reads

/-! ### Numbers -/

theorem numberTail_unsigned (n : Nat) {rest : List Char} (ending : NumberEnd rest) :
    Reads (numberTail true n) rest (.unsigned n) rest := by
  unfold numberTail
  apply (Reads.peek rest).bind
  cases rest with
  | nil => exact Reads.pure _ _
  | cons ch more =>
    obtain ⟨-, notPoint, notLower, notUpper⟩ := ending ch rfl
    simp only [List.head?_cons]
    split
    · rename_i same
      exact absurd (Option.some.inj same) notPoint
    · rename_i same
      exact absurd (Option.some.inj same) notLower
    · rename_i same
      exact absurd (Option.some.inj same) notUpper
    · exact Reads.pure _ _

theorem integerDigits_digits {rest : List Char} (ending : NumberEnd rest) :
    ∀ (cs : List Char), (∀ c ∈ cs, c.isDigit = true) → ∀ {fuel acc : Nat}, cs.length < fuel →
      decimalValue acc (cs.map digitValue) ≤ maxUnsigned →
      Reads (integerDigits true fuel acc) (cs ++ rest)
        (.unsigned (decimalValue acc (cs.map digitValue))) rest
  | [], _, fuel + 1, acc, _, _ => by
    unfold integerDigits
    apply (Reads.peek rest).bind
    cases rest with
    | nil => exact numberTail_unsigned acc ending
    | cons ch more =>
      simp only [List.head?_cons, (ending ch rfl).1, Bool.false_eq_true, if_false]
      exact numberTail_unsigned acc ending
  | c :: cs, digits, fuel + 1, acc, enough, fits => by
    have within := le_decimalValue (acc * 10 + digitValue c) (cs.map digitValue)
    have tail := integerDigits_digits ending cs
      (fun x member => digits x (List.mem_cons_of_mem c member))
      (Nat.lt_of_succ_lt_succ enough) fits
    unfold integerDigits
    apply (Reads.peek _).bind
    simp only [List.cons_append, List.head?_cons, digits c List.mem_cons_self, if_true]
    rw [if_neg (by simp only [List.map_cons, decimalValue_cons] at fits; omega)]
    exact (Reads.eat c _).bind tail

theorem number_toString {n : Nat} (fits : n ≤ maxUnsigned) {rest : List Char}
    (ending : NumberEnd rest) :
    Reads (number true) ((toString n).toList ++ rest) (.unsigned n) rest := by
  rw [Nat.toString_eq_repr, Nat.toList_repr]
  obtain ⟨c, cs, spelled, digit⟩ := exists_toDigits_eq_cons n
  have value : decimalValue (digitValue c) (cs.map digitValue) = n := by
    have whole := decimalValue_toDigits n 0
    rw [Nat.zero_mul, Nat.zero_add, spelled, List.map_cons, decimalValue_cons, Nat.zero_mul,
      Nat.zero_add] at whole
    exact whole
  rw [spelled, List.cons_append]
  unfold number
  apply (Reads.next c _).bind
  by_cases zero : n = 0
  · -- `0` is written alone, and what follows it is no digit
    subst zero
    have single : [c] ++ cs = ['0'] := spelled.symm
    obtain ⟨rfl, rfl⟩ := List.cons.inj single
    rw [List.nil_append]
    apply (Reads.peek rest).bind
    cases rest with
    | nil => exact numberTail_unsigned 0 ending
    | cons ch more =>
      simp only [List.head?_cons, (ending ch rfl).1, Bool.false_eq_true, if_false]
      exact numberTail_unsigned 0 ending
  · have leading : c ≠ '0' := by
      have head := head_toDigits_ne_zero (Nat.pos_of_ne_zero zero)
      rw [spelled, List.head?_cons] at head
      exact fun same => head (congrArg some same)
    have bounds := Char.isDigit_iff_toNat.mp digit
    have code : c.toNat ≠ 48 := fun same => leading (Char.toNat_inj.mp same)
    have nonzero : '1' ≤ c ∧ c ≤ '9' := by
      simp only [Char.reduceToNat] at bounds
      exact ⟨show 49 ≤ c.toNat by omega, show c.toNat ≤ 57 by omega⟩
    split
    · rename_i same
      cases same
    · rename_i same
      exact absurd (Option.some.inj same) leading
    · rename_i same
      cases same
      rw [if_pos nonzero]
      refine Reads.bind_get fun cursor reached => ?_
      rw [reached, List.length_append]
      have read := integerDigits_digits ending cs
        (fun x member => isDigit_of_mem_toDigits (spelled ▸ List.mem_cons_of_mem c member))
        (show cs.length < cs.length + rest.length + 1 by omega)
        (value ▸ fits)
      rwa [value] at read

theorem readUnsigned_toString {n : Nat} (fits : n ≤ maxUnsigned) {rest : List Char}
    (ending : NumberEnd rest) : Reads readUnsigned ((toString n).toList ++ rest) n rest := by
  have read := number_toString fits ending
  rw [Nat.toString_eq_repr, Nat.toList_repr] at read ⊢
  obtain ⟨c, cs, spelled, digit⟩ := exists_toDigits_eq_cons n
  rw [spelled, List.cons_append] at read ⊢
  unfold readUnsigned
  apply Reads.placed
  apply (Reads.peekValue (noBlankHead_cons (isBlank_of_isDigit digit) _)).bind
  split
  · rename_i same
    cases same
  · rename_i same
    rw [Option.some.inj same] at digit
    simp at digit
  · rename_i same
    cases same
    rw [if_pos digit]
    exact read.bind (Reads.pure n rest)

/-! ### Quoted values -/

theorem readEnum_quote {γ : Type} {variants : List (String × γ)} {name : String} {a : γ}
    (found : variantOf variants name = .ok a) (rest : List Char) :
    Reads (readEnum variants) ((quote name).toList ++ rest) a rest := by
  have read := readString_quote "variant identifier" found rest
  rw [toList_quote_append] at read ⊢
  unfold readEnum
  apply (Reads.peekValue (noBlankHead_cons rfl _)).bind
  exact read

theorem readAny_quote {γ : Type} {decode : Decode.Scalar → Except Decode.DecodeError γ}
    {s : String} {a : γ} (ok : decode (.str s) = .ok a) (rest : List Char) :
    Reads (readAny decode) ((quote s).toList ++ rest) a rest := by
  rw [toList_quote_append]
  apply Reads.placed
  apply (Reads.peekValue (noBlankHead_cons rfl _)).bind
  apply (Reads.eat _ _).bind
  apply (string_escaped s rest).bind
  rw [ok]
  exact Reads.pure a rest

/-! ### Objects -/

theorem colon_reads (rest : List Char) : Reads colon (':' :: rest) () rest :=
  (Reads.peekValue (noBlankHead_cons rfl _)).bind (Reads.eat ':' rest)

theorem closeObject_reads (rest : List Char) : Reads closeObject ('}' :: rest) () rest :=
  (Reads.peekValue (noBlankHead_cons rfl _)).bind (Reads.eat '}' rest)

theorem nextKey_first (k : String) (rest : List Char) :
    Reads (nextKey true) ((quote k).toList ++ rest) (some k) rest := by
  rw [toList_quote_append]
  unfold nextKey
  apply (Reads.peekValue (noBlankHead_cons rfl _)).bind
  exact (((Reads.eat _ _).bind (string_escaped k rest))).map some

theorem nextKey_next (k : String) (rest : List Char) :
    Reads (nextKey false) (',' :: ((quote k).toList ++ rest)) (some k) rest := by
  rw [toList_quote_append]
  unfold nextKey
  apply (Reads.peekValue (noBlankHead_cons rfl _)).bind
  apply (Reads.eat _ _).bind
  apply (Reads.peekValue (noBlankHead_cons rfl _)).bind
  exact (((Reads.eat _ _).bind (string_escaped k rest))).map some

theorem nextKey_close (rest : List Char) : Reads (nextKey false) ('}' :: rest) none ('}' :: rest) :=
  (Reads.peekValue (noBlankHead_cons rfl _)).bind (Reads.pure none _)

end Reads

end Json

end CardLedger
