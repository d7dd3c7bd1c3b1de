import Mathlib
import CardLedger.Proofs.Footprints
import CardLedger.Proofs.Sealing

/-!
# Optimistic writes

A client reads a card, works on its copy and writes it back carrying the version it read; the
store takes the write only while the row still has that version. Every successful write of a
row moves its version on by one, as a 64-bit counter, and nothing else changes it but a delete.
So over calls that do not delete the card, the version of its row moves on by the number of
successful writes of the card, taken modulo `2 ^ 64` (`version_runAll`), and a write from a
snapshot succeeds exactly when that number is a multiple of `2 ^ 64`: short of wrapping the
counter, exactly when nobody wrote the card since the read (`write_from_snapshot_ok_iff`).
A refused write fails with `concurrentModification` and leaves the store as it was.

A delete is different: a card deleted and inserted again under its identifier starts over at
version 1 (`version_delete_insert`), so a snapshot read before the delete can be written over
the new card (`stale_write_after_reinsert`).
-/

namespace CardLedger

@[simp] theorem Except.isOk_ok {ε α : Type} (a : α) :
    (Except.ok a : Except ε α).isOk = true := rfl

@[simp] theorem Except.isOk_error {ε α : Type} (e : ε) :
    (Except.error e : Except ε α).isOk = false := rfl

theorem exists_of_mapM_ok {α β ε : Type} {f : α → Except ε β} {l : List α} {ys : List β}
    (mapped : l.mapM f = .ok ys) {y : β} (mem : y ∈ ys) : ∃ x ∈ l, f x = .ok y := by
  induction l generalizing ys with
  | nil =>
    simp only [List.mapM_nil, pure, Except.pure, Except.ok.injEq] at mapped
    subst mapped
    cases mem
  | cons x rest induction =>
    rw [List.mapM_cons] at mapped
    cases first : f x with
    | error e => simp [first, bind, Except.bind] at mapped
    | ok y₀ =>
      cases others : rest.mapM f with
      | error e => simp [first, others, bind, Except.bind] at mapped
      | ok ys₀ =>
        simp only [first, others, bind, Except.bind, pure, Except.pure, Except.ok.injEq] at mapped
        subst mapped
        rcases List.mem_cons.mp mem with rfl | later
        · exact ⟨x, List.mem_cons_self, first⟩
        · obtain ⟨x', mem', opened⟩ := induction others later
          exact ⟨x', List.mem_cons_of_mem x mem', opened⟩

theorem Record.add_mod_eq_self_iff {v n m : Nat} (lt : v < m) : (v + n) % m = v ↔ n % m = 0 := by
  have self : v % m = v := Nat.mod_eq_of_lt lt
  constructor
  · intro same
    have shifted : v + n ≡ v + 0 [MOD m] := by rw [Nat.ModEq, same, Nat.add_zero, self]
    exact Nat.ModEq.add_left_cancel' v shifted
  · intro multiple
    rw [Nat.add_mod, multiple, Nat.add_zero, self, self]

namespace Store

variable {s : Store} {c : Card}

theorem mem_records {r : Record} : r ∈ s.records ↔ ∃ id : CardId, s.cards[id]? = some r := by
  simp [records, Std.HashMap.mem_toList_iff_getElem?_eq_some]

theorem findAll_mirrors {f : Card.Filter} {cs : List Card} (listed : s.findAll f = .ok cs)
    (mem : c ∈ cs) : ∃ r ∈ s.records, c.Mirrors r := by
  unfold findAll at listed
  cases opened : s.sortedRecords.mapM (Record.openWith s.sealer) with
  | error e => simp [opened, Except.map] at listed
  | ok ds =>
    simp only [opened, Except.map, Except.ok.injEq] at listed
    subst listed
    obtain ⟨r, sorted, opens⟩ := exists_of_mapM_ok opened (List.mem_of_mem_filter mem)
    exact ⟨r, by simpa [sortedRecords] using sorted, Record.openWith_mirrors opens⟩

/-- A card a client holds after reading the store: what `findById`, `findByIdAndOwner` or
`findAll` returned. -/
def Reads (s : Store) (c : Card) : Prop :=
  s.findById c.id = .ok (some c) ∨ (∃ owner, s.findByIdAndOwner c.id owner = .ok (some c)) ∨
    ∃ f cs, s.findAll f = .ok cs ∧ c ∈ cs

theorem Reads.mirrors (keyed : s.KeyedById) (read : s.Reads c) :
    ∃ r, s.cards[c.id]? = some r ∧ c.Mirrors r := by
  rcases read with found | ⟨owner, found⟩ | ⟨f, cs, listed, mem⟩
  · exact findById_some found
  · exact findByIdAndOwner_some found
  · obtain ⟨r, stored, mirrors⟩ := findAll_mirrors listed mem
    obtain ⟨id, row⟩ := mem_records.mp stored
    have key : c.id = id := id_of_mirrors keyed row mirrors
    exact ⟨r, key ▸ row, mirrors⟩

end Store

namespace StoreCall

/-- Whether a call writes the row of `id`: an insert or a save of that card, a pair save that
names it, or its delete. -/
def writesTo (id : CardId) : StoreCall → Bool
  | insert card _ => card.id == id
  | save card => card.id == id
  | saveBoth first second => first.id == id || second.id == id
  | delete id' => id' == id
  | _ => false

def writesOf (id : CardId) : List StoreCall → Store → Nat
  | [], _ => 0
  | c :: rest, s =>
    (if c.writesTo id && (c.result s).1.isOk then 1 else 0) + writesOf id rest (c.result s).2

theorem result_save {s : Store} {card : Card} {r : Record} (row : s.cards[card.id]? = some r) :
    (save card).result s = if card.version = r.version
      then (.ok (), { s with cards := s.cards.insert card.id (written r card) })
      else (.error (.concurrentModification r.id), s) := by
  simp only [result, CardRepository.save, outcome_write, Store.save, row, Record.apply]
  by_cases same : card.version = r.version
  · simp [same, bind, Except.bind, written]
  · simp [same, bind, Except.bind]

theorem versions_of_saveBoth_ok {s : Store} {first second : Card}
    (ok : ((saveBoth first second).result s).1 = .ok ()) :
    (∃ r, s.cards[first.id]? = some r ∧ first.version = r.version) ∧
      ∃ r, s.cards[second.id]? = some r ∧ second.version = r.version := by
  simp only [result, CardRepository.saveBoth, outcome_write] at ok
  cases saved : s.saveBoth first second with
  | error e => simp [saved] at ok
  | ok written =>
    obtain ⟨r₁', r₂', -, staged₁, staged₂, -⟩ := Store.saveBoth_eq_ok saved
    obtain ⟨r₁, row₁, applied₁⟩ := Store.staged_eq_ok staged₁
    obtain ⟨r₂, row₂, applied₂⟩ := Store.staged_eq_ok staged₂
    exact ⟨⟨r₁, row₁, (apply_eq_ok applied₁).1⟩,
      ⟨r₂, row₂, (apply_eq_ok applied₂).1⟩⟩

/-! ## The version of a row along a run -/

theorem version_result (c : StoreCall) {s : Store} (consistent : s.Consistent) {id : CardId}
    {r : Record} (row : s.cards[id]? = some r) (kept : c ≠ delete id) :
    ∃ r', (c.result s).2.cards[id]? = some r' ∧
      r'.version = if c.writesTo id && (c.result s).1.isOk then Record.nextVersion r.version
        else r.version := by
  have effect := c.effect consistent
  generalize c.result s = out at effect ⊢
  obtain ⟨e | ⟨⟩, s'⟩ := out
  · rw [Effect.error effect]
    exact ⟨r, row, by simp⟩
  cases c with
  | findById => exact ⟨r, effect ▸ row, by simp [writesTo]⟩
  | findByIdAndOwner => exact ⟨r, effect ▸ row, by simp [writesTo]⟩
  | findAll => exact ⟨r, effect ▸ row, by simp [writesTo]⟩
  | hasNumber => exact ⟨r, effect ▸ row, by simp [writesTo]⟩
  | sumByOwner => exact ⟨r, effect ▸ row, by simp [writesTo]⟩
  | insert card blob =>
    -- an insert succeeds only under a new identifier, so never over this row
    obtain ⟨freshId, -, rfl⟩ := effect
    have other : card.id ≠ id := by
      rintro rfl
      exact freshId (Std.HashMap.mem_iff_isSome_getElem?.mpr (by simp [row]))
    exact ⟨r, by simp [Std.HashMap.getElem?_insert, other, row], by simp [writesTo, other]⟩
  | save card =>
    obtain ⟨r₀, row₀, rfl⟩ := effect
    by_cases same : card.id = id
    · subst same
      obtain rfl : r₀ = r := Option.some.inj (row₀.symm.trans row)
      exact ⟨written r₀ card, by simp, by simp [writesTo, written]⟩
    · exact ⟨r, by simp [Std.HashMap.getElem?_insert, same, row], by simp [writesTo, same]⟩
  | saveBoth first second =>
    obtain ⟨distinct, r₁, r₂, row₁, row₂, rfl⟩ := effect
    by_cases secondSame : second.id = id
    · subst secondSame
      obtain rfl : r₂ = r := Option.some.inj (row₂.symm.trans row)
      exact ⟨written r₂ second, by simp, by simp [writesTo, written]⟩
    · by_cases firstSame : first.id = id
      · subst firstSame
        obtain rfl : r₁ = r := Option.some.inj (row₁.symm.trans row)
        refine ⟨written r₁ first, ?_, by simp [writesTo, written]⟩
        simp only [Std.HashMap.getElem?_insert, beq_iff_eq, secondSame, if_false, if_true]
      · refine ⟨r, ?_, by simp [writesTo, firstSame, secondSame]⟩
        simp [Std.HashMap.getElem?_insert, firstSame, secondSame, row]
  | delete id' =>
    have other : id' ≠ id := fun same => kept (same ▸ rfl)
    simp only [Effect] at effect
    split at effect
    · obtain ⟨rfl, -⟩ := effect
      exact ⟨r, by simp [Std.HashMap.getElem?_erase, other, row], by simp [writesTo, other]⟩
    · exact ⟨r, effect ▸ row, by simp [writesTo, other]⟩

theorem version_runAll (calls : List StoreCall) {s : Store} (consistent : s.Consistent)
    {id : CardId} {r : Record} (row : s.cards[id]? = some r) (kept : delete id ∉ calls) :
    ∃ r', (runAll calls s).cards[id]? = some r' ∧
      r'.version = (r.version + writesOf id calls s) % Nat.pow 2 64 := by
  induction calls generalizing s r with
  | nil => exact ⟨r, row, by simp [writesOf, Nat.mod_eq_of_lt (consistent.versions id r row)]⟩
  | cons c rest induction =>
    obtain ⟨r₁, row₁, version₁⟩ :=
      c.version_result consistent row fun same => kept (same ▸ List.mem_cons_self)
    obtain ⟨r', row', version'⟩ := induction (c.consistent_result consistent) row₁
      fun later => kept (List.mem_cons_of_mem c later)
    refine ⟨r', row', ?_⟩
    rw [version', version₁]
    simp only [writesOf]
    by_cases wrote : (c.writesTo id && (c.result s).1.isOk) = true
    · simp only [wrote, if_true, Record.nextVersion, Nat.mod_add_mod, Nat.add_assoc]
    · simp only [wrote, Bool.false_eq_true, if_false, Nat.zero_add]

theorem version_since_insert (calls : List StoreCall) {s : Store} (consistent : s.Consistent)
    {card : Card} {blob : Blob} (inserted : ((insert card blob).result s).1 = .ok ())
    (kept : delete card.id ∉ calls) :
    ∃ r, (runAll (insert card blob :: calls) s).cards[card.id]? = some r ∧
      r.version = writesOf card.id (insert card blob :: calls) s % Nat.pow 2 64 := by
  obtain ⟨s', stored⟩ : ∃ s', (insert card blob).result s = (.ok (), s') := by
    rcases outcome : (insert card blob).result s with ⟨_ | ⟨⟩, s'⟩
    · rw [outcome] at inserted
      cases inserted
    · exact ⟨s', rfl⟩
  have after := (insert card blob).consistent_result consistent
  have effect := (insert card blob).effect consistent
  rw [stored] at effect after
  obtain ⟨-, -, rfl⟩ := effect
  -- the insert stored the card's first row, at version 1
  obtain ⟨r, row, version⟩ := version_runAll calls after Std.HashMap.getElem?_insert_self kept
  refine ⟨r, by simpa [runAll, stored] using row, ?_⟩
  rw [version]
  simp [writesOf, stored, writesTo]

theorem write_from_snapshot_kept (sealer : Sealer) (before between : List StoreCall)
    (snapshot card : Card) (read : (runAll before (Store.empty sealer)).Reads snapshot)
    (noDelete : delete snapshot.id ∉ between) (derived : card.id = snapshot.id)
    (sameVersion : card.version = snapshot.version) :
    let s := runAll before (Store.empty sealer)
    let n := writesOf snapshot.id between s
    (((save card).result (runAll between s)).1 = .ok () ↔ n % Nat.pow 2 64 = 0) ∧
    (n % Nat.pow 2 64 ≠ 0 → (save card).result (runAll between s) =
      (.error (.concurrentModification snapshot.id), runAll between s)) ∧
    ∀ other, ∀ w ∈ [saveBoth card other, saveBoth other card],
      ((w.result (runAll between s)).1 = .ok () → n % Nat.pow 2 64 = 0) ∧
      ((w.result (runAll between s)).1 ≠ .ok () →
        (w.result (runAll between s)).2 = runAll between s) := by
  intro s n
  have consistent : s.Consistent := consistent_runAll before (Store.consistent_empty sealer)
  have later : (runAll between s).Consistent := consistent_runAll between consistent
  obtain ⟨r, row, mirrors⟩ := read.mirrors consistent.keyed
  obtain ⟨r', row', version'⟩ := version_runAll between consistent row noDelete
  -- at write time the row has the snapshot's version exactly when `n` is a multiple of `2 ^ 64`
  have current : card.version = r'.version ↔ n % Nat.pow 2 64 = 0 := by
    rw [sameVersion, version', mirrors.2.2.2.2.2, eq_comm]
    exact Record.add_mod_eq_self_iff (consistent.versions _ r row)
  have key : r'.id = snapshot.id := later.keyed _ r' row'
  rw [← derived] at row'
  refine ⟨?_, ?_, ?_⟩
  · rw [result_save row', ← current]
    split <;> simp_all
  · intro stale
    rw [result_save row', if_neg (fun same => stale (current.mp same)), key]
  · intro other w mem
    refine ⟨fun ok => ?_, w.keeps_of_fails later⟩
    -- the card is one of the pair, and each card of a taken pair carries its row's version
    have carried : ∃ r'', (runAll between s).cards[card.id]? = some r'' ∧
        card.version = r''.version := by
      rcases List.mem_pair.mp mem with rfl | rfl
      · exact (versions_of_saveBoth_ok ok).1
      · exact (versions_of_saveBoth_ok ok).2
    obtain ⟨r'', row'', version''⟩ := carried
    rw [row'', Option.some.injEq] at row'
    exact current.mp (row' ▸ version'')

/-! ## Writes to a missing card -/

theorem result_save_of_absent {s : Store} {card : Card} (absent : s.cards[card.id]? = none) :
    (save card).result s = (.error (Store.missing card.id), s) := by
  simp [result, CardRepository.save, outcome_write, Store.save, absent]

theorem saveBoth_fails_of_absent {s : Store} (consistent : s.Consistent) {first second : Card}
    (absent : s.cards[first.id]? = none ∨ s.cards[second.id]? = none) :
    ((saveBoth first second).result s).1 ≠ .ok () ∧
      ((saveBoth first second).result s).2 = s := by
  have failed : ((saveBoth first second).result s).1 ≠ .ok () := by
    intro ok
    obtain ⟨⟨r₁, row₁, -⟩, ⟨r₂, row₂, -⟩⟩ := versions_of_saveBoth_ok ok
    rcases absent with missing | missing
    · rw [missing] at row₁
      cases row₁
    · rw [missing] at row₂
      cases row₂
  exact ⟨failed, (saveBoth first second).keeps_of_fails consistent failed⟩

theorem absent_after_delete (s : Store) (id : CardId) :
    ((delete id).result s).2.cards[id]? = none := by
  simp only [result, CardRepository.delete, outcome_write]
  cases row : s.cards[id]? <;> simp [Store.delete, row]

theorem absent_result (c : StoreCall) {s : Store} (consistent : s.Consistent) {id : CardId}
    (absent : s.cards[id]? = none) (noInsert : ∀ card blob, c = insert card blob → card.id ≠ id) :
    (c.result s).2.cards[id]? = none := by
  have effect := c.effect consistent
  generalize c.result s = out at effect ⊢
  obtain ⟨e | ⟨⟩, s'⟩ := out
  · rw [Effect.error effect]
    exact absent
  cases c
  case insert card blob =>
    obtain ⟨-, -, rfl⟩ := effect
    simp [Std.HashMap.getElem?_insert, noInsert card blob rfl, absent]
  case save card =>
    -- a save that succeeded found its card's row, so it names another card
    obtain ⟨r, row, rfl⟩ := effect
    have other : card.id ≠ id := by
      rintro rfl
      rw [absent] at row
      cases row
    simp [Std.HashMap.getElem?_insert, other, absent]
  case saveBoth first second =>
    obtain ⟨-, r₁, r₂, row₁, row₂, rfl⟩ := effect
    have other₁ : first.id ≠ id := by
      rintro rfl
      rw [absent] at row₁
      cases row₁
    have other₂ : second.id ≠ id := by
      rintro rfl
      rw [absent] at row₂
      cases row₂
    simp [Std.HashMap.getElem?_insert, other₁, other₂, absent]
  case delete id' =>
    simp only [Effect] at effect
    split at effect
    · obtain ⟨rfl, -⟩ := effect
      simp [Std.HashMap.getElem?_erase, absent]
    · rw [effect]
      exact absent
  all_goals exact effect ▸ absent

theorem absent_runAll (calls : List StoreCall) {s : Store} (consistent : s.Consistent)
    {id : CardId} (absent : s.cards[id]? = none)
    (noInsert : ∀ card blob, insert card blob ∈ calls → card.id ≠ id) :
    (runAll calls s).cards[id]? = none := by
  induction calls generalizing s with
  | nil => exact absent
  | cons c rest induction =>
    refine induction (c.consistent_result consistent)
      (c.absent_result consistent absent fun card blob same => ?_)
      fun card blob member => noInsert card blob (List.mem_cons_of_mem c member)
    exact noInsert card blob (same ▸ List.mem_cons_self)

theorem write_after_delete_fails (s : Store) (consistent : s.Consistent) (pre post : List StoreCall)
    (card : Card) (noInsert : ∀ c blob, insert c blob ∈ post → c.id ≠ card.id) :
    let between := pre ++ delete card.id :: post
    (save card).result (runAll between s) =
        (.error (Store.missing card.id), runAll between s) ∧
      ∀ other, ∀ w ∈ [saveBoth card other, saveBoth other card],
        (w.result (runAll between s)).1 ≠ .ok () ∧
          (w.result (runAll between s)).2 = runAll between s := by
  intro between
  have split : runAll between s = runAll post ((delete card.id).result (runAll pre s)).2 := by
    simp [between, runAll, List.foldl_append]
  have afterDelete := consistent_result (delete card.id) (consistent_runAll pre consistent)
  have gone : (runAll between s).cards[card.id]? = none := by
    rw [split]
    exact absent_runAll post afterDelete (absent_after_delete _ _) noInsert
  have later : (runAll between s).Consistent := consistent_runAll between consistent
  refine ⟨result_save_of_absent gone, fun other w mem => ?_⟩
  rcases List.mem_pair.mp mem with rfl | rfl
  · exact saveBoth_fails_of_absent later (.inl gone)
  · exact saveBoth_fails_of_absent later (.inr gone)

/-- From a snapshot to its write. A client read a card from a store that calls reached from the
empty one; other calls followed; then the client writes back a card with the identifier and the
version it read. When none of those calls deleted the card, its `save` succeeds exactly when they
wrote the card successfully a multiple of `2 ^ 64` times (short of wrapping the counter, not at
all), and otherwise fails with `concurrentModification`; a pair save that carries the card
succeeds only in the same case. When the card was deleted and not inserted again, the `save` fails
with `notFound` and every such pair save fails. A failed write keeps the store. -/
theorem write_from_snapshot_ok_iff (sealer : Sealer) (before between : List StoreCall)
    (snapshot card : Card) (read : (runAll before (Store.empty sealer)).Reads snapshot)
    (derived : card.id = snapshot.id) (sameVersion : card.version = snapshot.version) :
    let s := runAll before (Store.empty sealer)
    let n := writesOf snapshot.id between s
    (delete snapshot.id ∉ between →
      (((save card).result (runAll between s)).1 = .ok () ↔ n % Nat.pow 2 64 = 0) ∧
      (n % Nat.pow 2 64 ≠ 0 → (save card).result (runAll between s) =
        (.error (.concurrentModification snapshot.id), runAll between s)) ∧
      ∀ other, ∀ w ∈ [saveBoth card other, saveBoth other card],
        ((w.result (runAll between s)).1 = .ok () → n % Nat.pow 2 64 = 0) ∧
        ((w.result (runAll between s)).1 ≠ .ok () →
          (w.result (runAll between s)).2 = runAll between s)) ∧
    (∀ pre post, between = pre ++ delete snapshot.id :: post →
      (∀ c blob, insert c blob ∈ post → c.id ≠ snapshot.id) →
      (save card).result (runAll between s) =
          (.error (Store.missing snapshot.id), runAll between s) ∧
        ∀ other, ∀ w ∈ [saveBoth card other, saveBoth other card],
          (w.result (runAll between s)).1 ≠ .ok () ∧
            (w.result (runAll between s)).2 = runAll between s) := by
  intro s n
  refine ⟨fun noDelete => write_from_snapshot_kept sealer before between snapshot card read
    noDelete derived sameVersion, fun pre post split noInsert => ?_⟩
  have consistent : s.Consistent := consistent_runAll before (Store.consistent_empty sealer)
  rw [← derived] at noInsert ⊢
  rw [split, ← derived]
  exact write_after_delete_fails s consistent pre post card noInsert

/-! ## Delete and insert again -/

theorem version_delete_insert {s : Store} {card : Card} {r : Record}
    (row : s.cards[card.id]? = some r) :
    (runAll [delete card.id, insert card r.number] s).cards[card.id]? =
        some (Record.ofCard card r.number) ∧
      writesOf card.id [delete card.id, insert card r.number] s = 2 := by
  have deleted : (delete card.id).result s =
      (.ok (), { s with cards := s.cards.erase card.id, numbers := s.numbers.erase r.number }) := by
    simp [result, CardRepository.delete, outcome_write, Store.delete, row]
  have inserted : (insert card r.number).result
      { s with cards := s.cards.erase card.id, numbers := s.numbers.erase r.number } =
      (.ok (), { s with
        cards := (s.cards.erase card.id).insert card.id (Record.ofCard card r.number),
        numbers := (s.numbers.erase r.number).insert r.number card.id }) := by
    simp [result, CardRepository.insert, outcome_write, Store.insert]
  constructor
  · simp [runAll, deleted, inserted]
  · simp [writesOf, deleted, inserted, writesTo]

/-! ## A first insert -/

theorem first_insert (sealer : Sealer) (card : Card) (blob : Blob) :
    (runAll [insert card blob] (Store.empty sealer)).sealer = sealer ∧
      (runAll [insert card blob] (Store.empty sealer)).cards[card.id]? =
        some (Record.ofCard card blob) := by
  constructor <;>
    simp [runAll, result, CardRepository.insert, outcome_write, Store.insert, Store.empty]

theorem first_insert_opens {sealer : Sealer} {card : Card} {blob : Blob}
    (opens : sealer.openBlob blob = .ok card.number.text)
    (valid : CardNumber.parse card.number.text = .ok card.number) :
    (Record.ofCard card blob).openWith (runAll [insert card blob] (Store.empty sealer)).sealer =
      .ok { card with version := 1 } := by
  rw [(first_insert sealer card blob).1]
  exact Record.openWith_of_opens opens valid

theorem findById_first_insert {sealer : Sealer} {card : Card} {blob : Blob}
    (opens : sealer.openBlob blob = .ok card.number.text)
    (valid : CardNumber.parse card.number.text = .ok card.number) :
    (runAll [insert card blob] (Store.empty sealer)).findById card.id =
      .ok (some { card with version := 1 }) := by
  simp only [Store.findById, Store.lookup, (first_insert sealer card blob).2,
    first_insert_opens opens valid]
  rfl

end StoreCall

open StoreCall in
/-- A client reads 4111 1111 1111 1111, sealed under a 32-byte key, at version 1. When another
client writes the card at that version first, the first client's write from its snapshot is
refused as a lost race; when the card is deleted instead, the write is refused as missing. -/
theorem stale_save_refused :
    let key : List UInt8 := List.replicate 32 7
    let sealer : Sealer := ⟨Aes.schedule key.toArray⟩
    let nonce : List UInt8 := List.replicate 12 0
    let card := Card.issue (Uuid.ofNat 7) (Uuid.ofNat 1) ⟨"4111111111111111"⟩
      ⟨12, 30, by decide, by decide, by decide⟩ Balance.zero
    let blob : Blob :=
      ⟨Base64.encode
        (nonce ++ Gcm.encrypt sealer.roundKeys nonce "4111111111111111".toUTF8.toList)⟩
    let snapshot := { card with version := 1 }
    let s := runAll [insert card blob] (Store.empty sealer)
    let between := [save { snapshot with status := .blocked }]
    Sealer.ofKey key = .ok sealer ∧ s.Reads snapshot ∧ delete snapshot.id ∉ between ∧
      (save { snapshot with status := .expired }).result (runAll between s) =
        (.error (.concurrentModification snapshot.id), runAll between s) ∧
      (save { snapshot with status := .expired }).result (runAll [delete snapshot.id] s) =
        (.error (Store.missing snapshot.id), runAll [delete snapshot.id] s) := by
  intro key sealer nonce card blob snapshot s between
  have sealed : sealer.sealWithNonce nonce card.number.text = some blob :=
    sealer.sealWithNonce_of_ne_empty (by simp [card, Card.issue])
  have valid : CardNumber.parse card.number.text = .ok card.number :=
    (CardNumber.parse_ok_iff _ _).mpr ⟨by decide, by decide, rfl⟩
  have read : s.Reads snapshot :=
    .inl (findById_first_insert (sealer.openBlob_sealWithNonce rfl sealed) valid)
  have noDelete : delete snapshot.id ∉ between := by simp [between]
  -- the other client's write is taken, so the row is one version past the snapshot
  have row : s.cards[({ snapshot with status := .blocked } : Card).id]? = some _ :=
    (first_insert sealer card blob).2
  have once : writesOf snapshot.id between s = 1 := by
    simp [between, writesOf, writesTo, result_save row, snapshot, Record.ofCard]
  have outcomes := write_from_snapshot_ok_iff sealer [insert card blob] between snapshot
    { snapshot with status := .expired } read rfl rfl
  have deleted := write_from_snapshot_ok_iff sealer [insert card blob] [delete snapshot.id]
    snapshot { snapshot with status := .expired } read rfl rfl
  exact ⟨Sealer.ofKey_of_length rfl, read, noDelete,
    (outcomes.1 noDelete).2.1 (by rw [once]; decide), (deleted.2 [] [] rfl (by simp)).1⟩

open StoreCall in
/-- A snapshot read before its card was deleted and inserted again passes the version check: the
card read at version 1 is written back over the new card, which is at version 1 again. -/
theorem stale_write_after_reinsert :
    let sealer : Sealer := ⟨#[]⟩
    let nonce : List UInt8 := List.replicate 12 0
    let card := Card.issue (Uuid.ofNat 7) (Uuid.ofNat 1) ⟨"4111111111111111"⟩
      ⟨12, 30, by decide, by decide, by decide⟩ Balance.zero
    let blob : Blob :=
      ⟨Base64.encode
        (nonce ++ Gcm.encrypt sealer.roundKeys nonce "4111111111111111".toUTF8.toList)⟩
    let s := runAll [insert card blob] (Store.empty sealer)
    s.findById card.id = .ok (some { card with version := 1 }) ∧
      writesOf card.id [delete card.id, insert card blob] s = 2 ∧
      ((save { card with version := 1, status := .blocked }).result
        (runAll [delete card.id, insert card blob] s)).1 = .ok () := by
  intro sealer nonce card blob s
  have sealed : sealer.sealWithNonce nonce card.number.text = some blob := by
    simp [Sealer.sealWithNonce, blob, card, Card.issue]
  have valid : CardNumber.parse card.number.text = .ok card.number :=
    (CardNumber.parse_ok_iff _ _).mpr ⟨by decide, by decide, rfl⟩
  -- the row keeps the blob it was inserted with, so the card goes back with that blob
  have restarted := version_delete_insert (first_insert sealer card blob).2
  dsimp only [Record.ofCard] at restarted
  obtain ⟨again, twice⟩ := restarted
  refine ⟨findById_first_insert (sealer.openBlob_sealWithNonce rfl sealed) valid, twice, ?_⟩
  have current : (runAll [delete card.id, insert card blob] s).cards[
      ({ card with version := 1, status := .blocked } : Card).id]? = some _ := again
  rw [result_save current]
  simp

end CardLedger
