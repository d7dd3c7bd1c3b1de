import Mathlib
import CardLedger.Json.Decode
import CardLedger.Proofs.AsciiText

/-!
# Reading written JSON back

What a JSON reader returns depends only on the text it has not read yet: the line and column it
carries serve error messages alone. `Json.Reads m text a rest` says that `m`, started anywhere
its unread text is `text`, succeeds with `a` and leaves `rest` unread. The readers are built
with `bind` from a few primitive steps, and so are these statements.

A character that is printable and neither the quote nor the backslash (`Plain`) is written as
it is, so a text of such characters is quoted as it is (`quote_of_plain`).

Main statements: `Reads.readString_quote` (a string reads back from its quoted form, every
escape included) and `run_of_reads` (a reader that takes a whole text runs on it).
-/

namespace CardLedger

namespace Json

def Reads {α : Type} (m : JsonM α) (text : List Char) (a : α) (rest : List Char) : Prop :=
  ∀ c : Cursor, c.rest = text → ∃ c' : Cursor, m.run.run c = (.ok a, c') ∧ c'.rest = rest

def NoBlankHead (text : List Char) : Prop := ∀ ch, text.head? = some ch → isBlank ch = false

theorem noBlankHead_cons {ch : Char} (solid : isBlank ch = false) (t : List Char) :
    NoBlankHead (ch :: t) :=
  fun _ head => by
    cases head
    exact solid

/-! ## Written text -/

/-- A character that a JSON string holds as it is: printable, and neither the quote nor the
backslash. -/
def Plain (c : Char) : Prop := c ≠ '"' ∧ c ≠ '\\' ∧ ¬c.toNat < 0x20

instance (c : Char) : Decidable (Plain c) := inferInstanceAs (Decidable (_ ∧ _ ∧ _))

theorem plain_of_isDigit {c : Char} (digit : c.isDigit = true) : Plain c := by
  have bounds := Char.isDigit_iff_toNat.mp digit
  simp only [Char.reduceToNat] at bounds
  refine ⟨fun same => ?_, fun same => ?_, by omega⟩ <;> rw [same] at bounds <;> simp at bounds

theorem escapeChar_plain {c : Char} (plain : Plain c) : escapeChar c = [c] := by
  obtain ⟨notQuote, notBackslash, printable⟩ := plain
  have notControl : ∀ d : Char, d.toNat < 0x20 → c ≠ d := fun d low same => printable (same ▸ low)
  unfold escapeChar
  rw [if_neg notQuote, if_neg notBackslash, if_neg (notControl '\n' (by decide)),
    if_neg (notControl '\r' (by decide)), if_neg (notControl '\t' (by decide)),
    if_neg (notControl '\x08' (by decide)), if_neg (notControl '\x0c' (by decide)),
    if_neg printable]

theorem escapeChar_ne_nil (c : Char) : escapeChar c ≠ [] := by
  unfold escapeChar
  split_ifs <;> simp

theorem length_le_flatMap_escapeChar (s : List Char) :
    s.length ≤ (s.flatMap escapeChar).length := by
  induction s with
  | nil => simp
  | cons c s induction =>
    have := List.length_pos_iff.mpr (escapeChar_ne_nil c)
    simp only [List.length_cons, List.flatMap_cons, List.length_append]
    omega

theorem toList_quote (s : String) :
    (quote s).toList = '"' :: (s.toList.flatMap escapeChar ++ ['"']) := by
  simp [quote]

theorem toList_quote_append (s : String) (rest : List Char) :
    (quote s).toList ++ rest = '"' :: (s.toList.flatMap escapeChar ++ '"' :: rest) := by
  rw [toList_quote, List.cons_append, List.append_assoc, List.singleton_append]

theorem quote_of_plain {s : String} (plain : ∀ c ∈ s.toList, Plain c) :
    quote s = "\"" ++ s ++ "\"" := by
  have same : ∀ c ∈ s.toList, escapeChar c = [c] := fun c member =>
    escapeChar_plain (plain c member)
  rw [quote, List.flatMap_congr same, List.flatMap_singleton', String.ofList_toList]

theorem le_foldl_utf8Size (l : List Char) (k : Nat) :
    k + l.length ≤ l.foldl (fun n ch => n + ch.utf8Size) k := by
  induction l generalizing k with
  | nil => simp
  | cons ch l induction =>
    have := induction (k + ch.utf8Size)
    have := Char.utf8Size_pos ch
    simp only [List.foldl_cons, List.length_cons]
    omega

theorem quad_of_control : ∀ n < 0x20,
    quadValue? ['0', '0', hexDigit (n / 16), hexDigit (n % 16)] = some n ∧
      isTrailing n = false ∧ isLeading n = false := by
  decide

theorem hexDigit_ascii : ∀ d < 16, (hexDigit d).toNat < 128 := by
  decide

namespace Reads

variable {α β : Type} {t u v : List Char} {a : α} {b : β}

protected theorem pure (a : α) (t : List Char) : Reads (pure a : JsonM α) t a t :=
  fun c hc => ⟨c, rfl, hc⟩

protected theorem bind {m : JsonM α} {f : α → JsonM β} (hm : Reads m t a u)
    (hf : Reads (f a) u b v) : Reads (m >>= f) t b v := by
  intro c hc
  obtain ⟨c1, run1, rest1⟩ := hm c hc
  obtain ⟨c2, run2, rest2⟩ := hf c1 rest1
  refine ⟨c2, ?_, rest2⟩
  simp only [ExceptT.run_bind, StateT.run_bind, run1]
  exact run2

theorem bind_get {f : Cursor → JsonM β} (hf : ∀ c : Cursor, c.rest = t → Reads (f c) t b v) :
    Reads (get >>= f) t b v := by
  intro c hc
  obtain ⟨c', run', rest'⟩ := hf c hc c hc
  exact ⟨c', run', rest'⟩

theorem map {m : JsonM α} (f : α → β) (hm : Reads m t a u) : Reads (f <$> m) t (f a) u := by
  intro c hc
  obtain ⟨c', run', rest'⟩ := hm c hc
  refine ⟨c', ?_, rest'⟩
  simp only [ExceptT.run_map, StateT.run_map, run']
  rfl

theorem peek (t : List Char) : Reads Json.peek t t.head? t :=
  fun c hc => ⟨c, by subst hc; rfl, hc⟩

theorem eat (ch : Char) (t : List Char) : Reads Json.eat (ch :: t) () t := by
  intro c hc
  refine ⟨_, rfl, ?_⟩
  dsimp only
  rw [hc]
  dsimp only
  split <;> rfl

theorem next (ch : Char) (t : List Char) : Reads Json.next (ch :: t) (some ch) t :=
  (Reads.peek _).bind ((Reads.eat ch t).bind (Reads.pure _ t))

theorem tryCatch {m : JsonM α} (h : JsonError → JsonM α) (hm : Reads m t a u) :
    Reads (tryCatchThe JsonError m h) t a u := by
  intro c hc
  obtain ⟨c', run', rest'⟩ := hm c hc
  refine ⟨c', ?_, rest'⟩
  have ran : StateT.run m c = (.ok a, c') := run'
  simp only [tryCatchThe, MonadExceptOf.tryCatch, ExceptT.tryCatch, ExceptT.run_mk,
    StateT.run_bind, ran]
  rfl

theorem placed {m : JsonM α} (hm : Reads m t a u) : Reads (Json.placed m) t a u :=
  Reads.tryCatch _ hm

theorem onFailure {m : JsonM α} (after : JsonM Unit) (hm : Reads m t a u) :
    Reads (Json.onFailure m after) t a u :=
  Reads.tryCatch _ hm

/-! ### Whitespace -/

theorem skipBlanks (fuel : Nat) {t : List Char} (solid : NoBlankHead t) :
    Reads (Json.skipBlanks fuel) t () t := by
  cases fuel with
  | zero => exact Reads.pure () t
  | succ fuel =>
    rw [Json.skipBlanks]
    apply (Reads.peek t).bind
    cases t with
    | nil => exact Reads.pure () []
    | cons ch more =>
      simp only [List.head?_cons, solid ch rfl]
      exact Reads.pure () _

theorem peekValue {t : List Char} (solid : NoBlankHead t) : Reads Json.peekValue t t.head? t :=
  Reads.bind_get fun _ _ => (Reads.skipBlanks _ solid).bind (Reads.peek t)

/-! ### Strings -/

theorem escape_quote (more : List Char) : Reads escape ('"' :: more) '"' more :=
  (Reads.next _ _).bind (Reads.pure _ _)

theorem escape_backslash (more : List Char) : Reads escape ('\\' :: more) '\\' more :=
  (Reads.next _ _).bind (Reads.pure _ _)

theorem escape_newline (more : List Char) : Reads escape ('n' :: more) '\n' more :=
  (Reads.next _ _).bind (Reads.pure _ _)

theorem escape_return (more : List Char) : Reads escape ('r' :: more) '\r' more :=
  (Reads.next _ _).bind (Reads.pure _ _)

theorem escape_tab (more : List Char) : Reads escape ('t' :: more) '\t' more :=
  (Reads.next _ _).bind (Reads.pure _ _)

theorem escape_backspace (more : List Char) : Reads escape ('b' :: more) '\x08' more :=
  (Reads.next _ _).bind (Reads.pure _ _)

theorem escape_formFeed (more : List Char) : Reads escape ('f' :: more) '\x0c' more :=
  (Reads.next _ _).bind (Reads.pure _ _)

theorem stringBody_close (fuel : Nat) (acc rest : List Char) :
    Reads (stringBody (fuel + 1) acc) ('"' :: rest) (String.ofList acc.reverse) rest := by
  rw [stringBody]
  exact (Reads.peek _).bind ((Reads.eat _ _).bind (Reads.pure _ _))

theorem stringBody_escape {fuel : Nat} {acc t more rest : List Char} {c : Char} {x : String}
    (escaped : Reads escape t c more) (tail : Reads (stringBody fuel (c :: acc)) more x rest) :
    Reads (stringBody (fuel + 1) acc) ('\\' :: t) x rest := by
  rw [stringBody]
  exact (Reads.peek _).bind ((Reads.eat _ _).bind (escaped.bind tail))

theorem stringBody_plain {fuel : Nat} {acc more rest : List Char} {c : Char} {x : String}
    (plain : Plain c) (tail : Reads (stringBody fuel (c :: acc)) more x rest) :
    Reads (stringBody (fuel + 1) acc) (c :: more) x rest := by
  obtain ⟨notQuote, notBackslash, printable⟩ := plain
  rw [stringBody]
  apply (Reads.peek _).bind
  simp only [List.head?_cons]
  rw [if_neg printable]
  exact (Reads.eat _ _).bind tail

theorem eatBytes_ascii {l : List Char} (ascii : ∀ ch ∈ l, ch.toNat < 128) {fuel : Nat}
    (enough : l.length < fuel) (more : List Char) :
    Reads (eatBytes fuel l.length) (l ++ more) () more := by
  induction l generalizing fuel with
  | nil =>
    cases fuel with
    | zero => exact Reads.pure () more
    | succ fuel =>
      rw [eatBytes]
      refine Reads.bind_get fun c hc => ?_
      rw [List.nil_append] at hc
      rw [hc]
      cases more with
      | nil => exact Reads.pure () []
      | cons ch more => exact Reads.pure () _
  | cons ch l induction =>
    obtain ⟨fuel, rfl⟩ : ∃ k, fuel = k + 1 := ⟨fuel - 1, by simp at enough; omega⟩
    rw [eatBytes]
    refine Reads.bind_get fun c hc => ?_
    have one : ch.utf8Size = 1 := Char.utf8Size_of_toNat_lt (ascii ch List.mem_cons_self)
    rw [hc, List.cons_append]
    dsimp only
    rw [if_pos (by simp), one, List.length_cons, Nat.min_eq_right (by omega), Nat.add_sub_cancel]
    exact (Reads.eat _ _).bind (induction (fun d member => ascii d (List.mem_cons_of_mem ch member))
      (by simp at enough; omega))

theorem hexQuad_ascii {quad : List Char} {v : Nat} (four : quad.length = 4)
    (ascii : ∀ ch ∈ quad, ch.toNat < 128) (value : quadValue? quad = some v) (more : List Char) :
    Reads hexQuad (quad ++ more) v more := by
  rw [hexQuad]
  refine Reads.bind_get fun c hc => ?_
  have bytes := le_foldl_utf8Size (quad ++ more) 0
  have front : (quad ++ more).take 4 = quad := by simp [← four]
  rw [List.length_append, four] at bytes
  dsimp only
  rw [hc, if_neg (by omega), front, value]
  dsimp only
  rw [if_pos (List.all_eq_true.mpr fun ch member => decide_eq_true (ascii ch member)), ← four]
  exact (eatBytes_ascii ascii (by omega) more).bind (Reads.pure v more)

theorem escape_control {c : Char} (control : c.toNat < 0x20) (more : List Char) :
    Reads escape (['u', '0', '0', hexDigit (c.toNat / 16), hexDigit (c.toNat % 16)] ++ more)
      c more := by
  obtain ⟨value, notTrailing, notLeading⟩ := quad_of_control c.toNat control
  have ascii : ∀ ch ∈ ['0', '0', hexDigit (c.toNat / 16), hexDigit (c.toNat % 16)],
      ch.toNat < 128 := by
    simp [hexDigit_ascii _ (by omega : c.toNat / 16 < 16),
      hexDigit_ascii _ (Nat.mod_lt _ (by decide) : c.toNat % 16 < 16)]
  apply (Reads.next _ _).bind
  apply (hexQuad_ascii rfl ascii value more).bind
  rw [if_neg (by simp [notTrailing]), if_pos (by simp [notLeading]), Char.ofNat_toNat]
  exact Reads.pure c more

theorem stringBody_escapeChar (c : Char) {fuel : Nat} {acc more rest : List Char} {x : String}
    (tail : Reads (stringBody fuel (c :: acc)) more x rest) :
    Reads (stringBody (fuel + 1) acc) (escapeChar c ++ more) x rest := by
  unfold escapeChar
  split_ifs with quote backslash newline carriage tab backspace formFeed control
  · subst quote
    exact stringBody_escape (escape_quote more) tail
  · subst backslash
    exact stringBody_escape (escape_backslash more) tail
  · subst newline
    exact stringBody_escape (escape_newline more) tail
  · subst carriage
    exact stringBody_escape (escape_return more) tail
  · subst tab
    exact stringBody_escape (escape_tab more) tail
  · subst backspace
    exact stringBody_escape (escape_backspace more) tail
  · subst formFeed
    exact stringBody_escape (escape_formFeed more) tail
  · exact stringBody_escape (escape_control control more) tail
  · exact stringBody_plain ⟨quote, backslash, control⟩ tail

theorem stringBody_escaped (s : List Char) {fuel : Nat} (enough : s.length < fuel)
    (acc rest : List Char) :
    Reads (stringBody fuel acc) (s.flatMap escapeChar ++ '"' :: rest)
      (String.ofList (acc.reverse ++ s)) rest := by
  induction s generalizing fuel acc with
  | nil =>
    obtain ⟨fuel, rfl⟩ : ∃ k, fuel = k + 1 := ⟨fuel - 1, by simp at enough; omega⟩
    rw [List.append_nil]
    exact stringBody_close fuel acc rest
  | cons c s induction =>
    obtain ⟨fuel, rfl⟩ : ∃ k, fuel = k + 1 := ⟨fuel - 1, by simp at enough; omega⟩
    have tail := induction (Nat.lt_of_succ_lt_succ enough) (c :: acc)
    rw [List.reverse_cons, List.append_assoc, List.singleton_append] at tail
    rw [List.flatMap_cons, List.append_assoc]
    exact stringBody_escapeChar c tail

theorem string_escaped (s : String) (rest : List Char) :
    Reads string (s.toList.flatMap escapeChar ++ '"' :: rest) s rest := by
  refine Reads.bind_get fun c hc => ?_
  have enough : s.toList.length < c.rest.length + 1 := by
    have := length_le_flatMap_escapeChar s.toList
    rw [hc, List.length_append]
    omega
  have read := stringBody_escaped s.toList enough [] rest
  rwa [List.reverse_nil, List.nil_append, String.ofList_toList] at read

theorem readString_quote {γ : Type} (expected : String)
    {decode : String → Except Decode.DecodeError γ}
    {s : String} {a : γ} (ok : decode s = .ok a) (rest : List Char) :
    Reads (readString expected decode) ((quote s).toList ++ rest) a rest := by
  rw [toList_quote_append]
  apply Reads.placed
  apply (Reads.peekValue (noBlankHead_cons rfl _)).bind
  apply (Reads.eat _ _).bind
  apply (string_escaped s rest).bind
  rw [ok]
  exact Reads.pure a rest

theorem finish_nil : Reads finish [] () [] := by
  apply (Reads.peekValue (fun ch head => by cases head)).bind
  exact Reads.pure () []

end Reads

theorem run_of_reads {α : Type} {m : JsonM α} {text : String} {a : α}
    (reads : Reads m text.toList a []) : run m text = .ok a := by
  have whole : Reads (do let a ← m; finish; pure a) text.toList a [] :=
    reads.bind (Reads.finish_nil.bind (Reads.pure a []))
  obtain ⟨c, ran, _⟩ := whole { rest := text.toList } rfl
  simp only [run, ran]

end Json

end CardLedger
