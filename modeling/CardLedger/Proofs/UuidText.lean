import CardLedger.Proofs.AsciiText
import CardLedger.Uuid

/-!
# Identifiers read back from their text

An identifier is written as five groups of lowercase hexadecimal digits, 8-4-4-4-12, joined by
hyphens. Each digit reads back as its value (`hexValue?_hexDigit`), so a group of `w` digits read
after `acc` gives `acc * 16 ^ w` plus the group's value (`foldlM_hexField`). Read in the grouped
shape, the five groups spell the identifier's number again, and reading the text of an
identifier gives the identifier back (`parse_toText`).
-/

namespace CardLedger

namespace Uuid

def hexStep (acc : Nat) (b : UInt8) : Option Nat := (hexValue? b).map (acc * 16 + ·)

theorem hexNumber?_eq (bytes : List UInt8) : hexNumber? bytes = bytes.foldlM hexStep 0 := rfl

theorem hexValue?_hexDigit : ∀ d < 16, hexValue? (hexDigit d).toUInt8 = some d := by decide

theorem hexDigit_ascii : ∀ d < 16, (hexDigit d).toNat < 128 := by decide

theorem toList_hexField (w v : Nat) :
    (hexField w v).toList = (List.range w).reverse.map fun i => hexDigit (v / Nat.pow 16 i % 16) :=
  String.toList_ofList

theorem length_hexField (w v : Nat) : (hexField w v).toList.length = w := by
  simp [toList_hexField]

theorem mem_hexField {w v : Nat} {c : Char} (member : c ∈ (hexField w v).toList) :
    ∃ d < 16, c = hexDigit d := by
  rw [toList_hexField] at member
  obtain ⟨i, -, rfl⟩ := List.mem_map.mp member
  exact ⟨_, Nat.mod_lt _ (by decide), rfl⟩

theorem foldlM_hexField (w v acc : Nat) :
    ((hexField w v).toList.map Char.toUInt8).foldlM hexStep acc =
      some (acc * 16 ^ w + v % 16 ^ w) := by
  induction w generalizing acc with
  | zero => simp [toList_hexField, Nat.mod_one]
  | succ w induction =>
    have digit : v / Nat.pow 16 w % 16 < 16 := Nat.mod_lt _ (by decide)
    have split : v % 16 ^ (w + 1) = v % 16 ^ w + 16 ^ w * (v / 16 ^ w % 16) := Nat.mod_pow_succ
    rw [toList_hexField, List.range_succ, List.reverse_append, List.reverse_singleton,
      List.singleton_append, List.map_cons, List.map_cons, List.foldlM_cons, hexStep,
      hexValue?_hexDigit _ digit, ← toList_hexField]
    simp only [Option.map_some, Option.bind_eq_bind, Option.bind_some]
    rw [induction, split, Nat.pow_eq, pow_succ]
    congr 1
    ring

def groupBytes (w v : Nat) : List UInt8 := (hexField w v).toList.map Char.toUInt8

theorem length_groupBytes (w v : Nat) : (groupBytes w v).length = w := by
  rw [groupBytes, List.length_map, length_hexField]

theorem groupedNumber?_groups {g₁ g₂ g₃ g₄ g₅ : List UInt8} (l₁ : g₁.length = 8)
    (l₂ : g₂.length = 4) (l₃ : g₃.length = 4) (l₄ : g₄.length = 4) (l₅ : g₅.length = 12) :
    groupedNumber? (g₁ ++ 45 :: (g₂ ++ 45 :: (g₃ ++ 45 :: (g₄ ++ 45 :: g₅)))) =
      hexNumber? (g₁ ++ g₂ ++ g₃ ++ g₄ ++ g₅) := by
  unfold groupedNumber?
  simp [l₁, l₂, l₃, l₄, l₅, List.drop_append, List.drop_eq_nil_of_le]

theorem toList_toText (u : Uuid) : u.toText.toList =
    (hexField 8 (u.bits / Nat.pow 2 96)).toList ++ '-' ::
      ((hexField 4 (u.bits / Nat.pow 2 80 % Nat.pow 2 16)).toList ++ '-' ::
        ((hexField 4 (u.bits / Nat.pow 2 64 % Nat.pow 2 16)).toList ++ '-' ::
          ((hexField 4 (u.bits / Nat.pow 2 48 % Nat.pow 2 16)).toList ++ '-' ::
            (hexField 12 (u.bits % Nat.pow 2 48)).toList))) := by
  simp [toText, String.toList_append]

theorem mem_toText {u : Uuid} {c : Char} (member : c ∈ u.toText.toList) :
    c = '-' ∨ ∃ d < 16, c = hexDigit d := by
  simp only [toList_toText, List.mem_append, List.mem_cons] at member
  rcases member with digit | hyphen | digit | hyphen | digit | hyphen | digit | hyphen | digit <;>
    first | exact .inl hyphen | exact .inr (mem_hexField digit)

theorem toUTF8_toText (u : Uuid) :
    u.toText.toUTF8.toList =
      groupBytes 8 (u.bits / Nat.pow 2 96) ++ 45 ::
        (groupBytes 4 (u.bits / Nat.pow 2 80 % Nat.pow 2 16) ++ 45 ::
          (groupBytes 4 (u.bits / Nat.pow 2 64 % Nat.pow 2 16) ++ 45 ::
            (groupBytes 4 (u.bits / Nat.pow 2 48 % Nat.pow 2 16) ++ 45 ::
              groupBytes 12 (u.bits % Nat.pow 2 48)))) := by
  have ascii : ∀ c ∈ u.toText.toList, c.toNat < 128 := by
    intro c member
    rcases mem_toText member with hyphen | ⟨d, small, rfl⟩
    · rw [hyphen]
      decide
    · exact hexDigit_ascii d small
  rw [← String.ofList_toList (s := u.toText), String.toUTF8_toList_of_ascii ascii, toList_toText]
  simp only [List.map_append, List.map_cons, groupBytes]
  rfl

theorem parse_toText (u : Uuid) : parse u.toText = .ok u := by
  have bound := u.bits_lt
  have length : u.toText.toUTF8.toList.length = 36 := by
    simp only [toUTF8_toText, List.length_append, List.length_cons, length_groupBytes]
  have number : hexNumber? (groupBytes 8 (u.bits / Nat.pow 2 96) ++
      groupBytes 4 (u.bits / Nat.pow 2 80 % Nat.pow 2 16) ++
      groupBytes 4 (u.bits / Nat.pow 2 64 % Nat.pow 2 16) ++
      groupBytes 4 (u.bits / Nat.pow 2 48 % Nat.pow 2 16) ++
      groupBytes 12 (u.bits % Nat.pow 2 48)) = some u.bits := by
    simp only [hexNumber?_eq, List.foldlM_append, groupBytes, foldlM_hexField, Option.bind_eq_bind,
      Option.bind_some]
    simp only [Nat.pow_eq] at bound ⊢
    norm_num at bound ⊢
    omega
  unfold parse number?
  rw [length]
  rw [toUTF8_toText, groupedNumber?_groups (length_groupBytes _ _) (length_groupBytes _ _)
    (length_groupBytes _ _) (length_groupBytes _ _) (length_groupBytes _ _), number]
  exact congrArg Except.ok (ext_bits (Nat.mod_eq_of_lt bound))

end Uuid

end CardLedger
