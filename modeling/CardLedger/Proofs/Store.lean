import Mathlib
import CardLedger.Repository
import CardLedger.Proofs.Sealing

/-!
# The two tables of the store stay in step

The store keeps its rows in `cards` and a unique index of their sealed numbers in `numbers`.
Nothing but the store's own operations writes either table, so the tables agree in every state
that the operations reach from the empty store: each row sits under its own identifier, the
index maps exactly the blobs of the rows to their identifiers, both tables have one entry per
card, and every version is a 64-bit value. `delete` finds the index entry it removes through the
row's blob, so that it removes the right entry is itself a consequence of this agreement.

Every operation either fails and leaves the store as it was, or makes exactly its own change:
`insert` adds one row at version 1 and its index entry, `save` and `saveBoth` rewrite status,
balance and version of the rows they name, and `delete` removes one row with its index entry.
-/

namespace CardLedger

def Card.Mirrors (c : Card) (r : Record) : Prop :=
  c.id = r.id ∧ c.owner = r.owner ∧ c.expiry = r.expiry ∧ c.status = r.status ∧
    c.balance = r.balance ∧ c.version = r.version

theorem Record.openWith_mirrors {sealer : Sealer} {r : Record} {c : Card}
    (opened : r.openWith sealer = .ok c) : c.Mirrors r := by
  unfold Record.openWith at opened
  cases text : sealer.openBlob r.number with
  | error e => simp [text, bind, Except.bind] at opened
  | ok t =>
    simp only [text, bind, Except.bind] at opened
    split at opened
    · cases opened
    · cases opened
      exact ⟨rfl, rfl, rfl, rfl, rfl, rfl⟩

theorem Record.openWith_of_opens {sealer : Sealer} {r : Record} {text : String} {n : CardNumber}
    (opens : sealer.openBlob r.number = .ok text) (valid : CardNumber.parse text = .ok n) :
    r.openWith sealer =
      .ok { id := r.id, owner := r.owner, number := n, expiry := r.expiry, status := r.status,
            balance := r.balance, version := r.version } := by
  simp only [Record.openWith, opens, bind, Except.bind, valid]

theorem Record.openWith_ok_of_number {sealer : Sealer} {r r' : Record} {c : Card}
    (opened : r.openWith sealer = .ok c) (number : r'.number = r.number) :
    ∃ c', r'.openWith sealer = .ok c' := by
  unfold Record.openWith at opened ⊢
  rw [number]
  cases text : sealer.openBlob r.number with
  | error e => simp [text, bind, Except.bind] at opened
  | ok t =>
    cases parsed : CardNumber.parse t with
    | error e => simp [text, parsed, bind, Except.bind] at opened
    | ok n => simp [parsed, bind, Except.bind]

def Sealer.OpensToNumber (sealer : Sealer) (blob : Blob) : Prop :=
  ∃ n : CardNumber, sealer.openBlob blob = .ok n.text ∧ CardNumber.parse n.text = .ok n

namespace Store

/-! ## Agreement of the tables -/

def KeyedById (s : Store) : Prop :=
  ∀ (id : CardId) (r : Record), s.cards[id]? = some r → r.id = id

/-- The tables agree: rows under their own identifiers, an index that maps exactly the blobs of
the rows to their identifiers, one index entry per row, and 64-bit versions. -/
structure Consistent (s : Store) : Prop where
  keyed : s.KeyedById
  indexed : ∀ (blob : Blob) (id : CardId),
    s.numbers[blob]? = some id ↔ ∃ r : Record, s.cards[id]? = some r ∧ r.number = blob
  sameSize : s.numbers.size = s.cards.size
  versions : ∀ (id : CardId) (r : Record), s.cards[id]? = some r → r.version < Nat.pow 2 64

theorem consistent_empty (sealer : Sealer) : (empty sealer).Consistent where
  keyed := by simp [KeyedById, empty]
  indexed := by simp [empty]
  sameSize := by simp [empty]
  versions := by simp [empty]

section Agreement

variable {s : Store} (consistent : s.Consistent)
include consistent

theorem Consistent.id_eq_of_number_eq {id₁ id₂ : CardId} {r₁ r₂ : Record}
    (row₁ : s.cards[id₁]? = some r₁) (row₂ : s.cards[id₂]? = some r₂)
    (sameNumber : r₁.number = r₂.number) : id₁ = id₂ := by
  have index₁ := (consistent.indexed r₁.number id₁).2 ⟨r₁, row₁, rfl⟩
  have index₂ := (consistent.indexed r₁.number id₂).2 ⟨r₂, row₂, sameNumber.symm⟩
  rw [index₁] at index₂
  exact Option.some.inj index₂

theorem Consistent.hasNumber_of_row {id : CardId} {r : Record} (row : s.cards[id]? = some r) :
    s.hasNumber r.number = true := by
  have index := (consistent.indexed r.number id).2 ⟨r, row, rfl⟩
  simp [hasNumber, Std.HashMap.contains_eq_isSome_getElem?, index]

theorem Consistent.contains_of_index {blob : Blob} {id : CardId}
    (index : s.numbers[blob]? = some id) : s.cards.contains id = true := by
  obtain ⟨r, row, -⟩ := (consistent.indexed blob id).1 index
  simp [Std.HashMap.contains_eq_isSome_getElem?, row]

end Agreement

def AllOpen (s : Store) : Prop :=
  ∀ (id : CardId) (r : Record), s.cards[id]? = some r → ∃ c, r.openWith s.sealer = .ok c

theorem allOpen_empty (sealer : Sealer) : (empty sealer).AllOpen := by
  intro id r row
  simp [empty] at row

theorem AllOpen.of_numbers {s s' : Store} (opens : s.AllOpen) (sameSealer : s'.sealer = s.sealer)
    (numbers : ∀ (id : CardId) (r' : Record), s'.cards[id]? = some r' →
      (∃ (id₀ : CardId) (r : Record), s.cards[id₀]? = some r ∧ r'.number = r.number) ∨
        s.sealer.OpensToNumber r'.number) :
    s'.AllOpen := by
  intro id r' row'
  rw [sameSealer]
  rcases numbers id r' row' with ⟨id₀, r, row, number⟩ | ⟨n, opened, valid⟩
  · obtain ⟨c, opened⟩ := opens id₀ r row
    exact Record.openWith_ok_of_number opened number
  · exact ⟨_, Record.openWith_of_opens opened valid⟩

def ownedRow (s : Store) (id : CardId) (owner : OwnerId) : Option Record :=
  (s.cards[id]?).filter (·.owner == owner)

theorem findByIdAndOwner_eq (s : Store) (id : CardId) (owner : OwnerId) :
    s.findByIdAndOwner id owner = match s.ownedRow id owner with
      | some r => (r.openWith s.sealer).map some
      | none => .ok none := by
  unfold findByIdAndOwner ownedRow lookup
  cases s.cards[id]? with
  | none => rfl
  | some r => by_cases mine : r.owner = owner <;> simp [Option.filter_some, mine]

theorem row_of_ownedRow {s : Store} {id : CardId} {owner : OwnerId} {r : Record}
    (owned : s.ownedRow id owner = some r) : s.cards[id]? = some r ∧ r.owner = owner := by
  unfold ownedRow at owned
  cases row : s.cards[id]? with
  | none => simp [row] at owned
  | some r' =>
    simp only [row, Option.filter_some, beq_iff_eq] at owned
    split at owned
    · cases owned
      exact ⟨rfl, by assumption⟩
    · cases owned

theorem findByIdAndOwner_of_owned {s : Store} (opens : s.AllOpen) {id : CardId}
    {owner : OwnerId} {r : Record} (owned : s.ownedRow id owner = some r) :
    ∃ c, s.findByIdAndOwner id owner = .ok (some c) ∧ c.Mirrors r := by
  obtain ⟨c, opened⟩ := opens id r (row_of_ownedRow owned).1
  refine ⟨c, ?_, Record.openWith_mirrors opened⟩
  simp [findByIdAndOwner_eq, owned, opened, Except.map]

/-! ## One operation at a time -/

theorem Consistent.rewrite {s : Store} (consistent : s.Consistent) {id : CardId} {r r' : Record}
    (row : s.cards[id]? = some r) (sameId : r'.id = r.id) (sameNumber : r'.number = r.number)
    (bounded : r'.version < Nat.pow 2 64) :
    ({ s with cards := s.cards.insert id r' } : Store).Consistent where
  keyed := by
    intro id' r'' row'
    simp only [Std.HashMap.getElem?_insert, beq_iff_eq] at row'
    split at row'
    · rename_i same
      cases row'
      rw [sameId, consistent.keyed id r row, same]
    · exact consistent.keyed id' r'' row'
  indexed := by
    intro blob id'
    rw [consistent.indexed blob id']
    simp only [Std.HashMap.getElem?_insert, beq_iff_eq]
    split
    · rename_i same
      subst same
      simp [row, sameNumber]
    · rfl
  sameSize := by
    have present : id ∈ s.cards := by simp [Std.HashMap.mem_iff_isSome_getElem?, row]
    simp [Std.HashMap.size_insert, present, consistent.sameSize]
  versions := by
    intro id' r'' row'
    simp only [Std.HashMap.getElem?_insert, beq_iff_eq] at row'
    split at row'
    · cases row'
      exact bounded
    · exact consistent.versions id' r'' row'

theorem insert_eq_ok {s s' : Store} {card c : Card} {blob : Blob}
    (inserted : s.insert card blob = .ok (c, s')) :
    s.numbers.contains blob = false ∧ s.cards.contains card.id = false ∧
      c = { card with version := 1 } ∧
      s' = { s with numbers := s.numbers.insert blob card.id,
                    cards := s.cards.insert card.id (Record.ofCard card blob) } := by
  unfold insert at inserted
  split at inserted
  · cases inserted
  · rename_i freshBlob
    split at inserted
    · cases inserted
    · rename_i freshId
      cases inserted
      exact ⟨by simpa using freshBlob, by simpa using freshId, rfl, rfl⟩

theorem Consistent.insert {s s' : Store} (consistent : s.Consistent) {card c : Card}
    {blob : Blob} (inserted : s.insert card blob = .ok (c, s')) : s'.Consistent := by
  obtain ⟨freshBlob, freshId, -, rfl⟩ := insert_eq_ok inserted
  constructor
  · intro id r row
    simp only [Std.HashMap.getElem?_insert, beq_iff_eq] at row
    split at row
    · rename_i same
      cases row
      exact same
    · exact consistent.keyed id r row
  · intro blob' id
    simp only [Std.HashMap.getElem?_insert, beq_iff_eq]
    by_cases sameBlob : blob = blob' <;> by_cases sameId : card.id = id
    · simp [sameBlob, sameId, Record.ofCard]
    · -- a row of another card with this blob would have put the blob in the index
      subst sameBlob
      simp only [if_true, Option.some.injEq, sameId, false_iff, not_exists, not_and]
      intro r row sameNumber
      have listed := consistent.hasNumber_of_row row
      simp [hasNumber, sameNumber, freshBlob] at listed
    · -- an index entry naming this card would mean the card already had a row
      subst sameId
      simp only [if_true, Option.some.injEq, exists_eq_left', Record.ofCard, sameBlob, iff_false]
      intro index
      simp [consistent.contains_of_index index] at freshId
    · simp only [if_neg sameBlob, if_neg sameId]
      exact consistent.indexed blob' id
  · have freshBlob' : blob ∉ s.numbers := by rw [Std.HashMap.mem_iff_contains, freshBlob]; simp
    have freshId' : card.id ∉ s.cards := by rw [Std.HashMap.mem_iff_contains, freshId]; simp
    simp [Std.HashMap.size_insert, freshBlob', freshId', consistent.sameSize]
  · intro id r row
    simp only [Std.HashMap.getElem?_insert, beq_iff_eq] at row
    split at row
    · cases row
      simp [Record.ofCard]
    · exact consistent.versions id r row

theorem save_eq_ok {s s' : Store} {card c : Card} (saved : s.save card = .ok (c, s')) :
    ∃ r r', s.cards[card.id]? = some r ∧ r.apply card = .ok r' ∧
      c = { card with version := r'.version } ∧
      s' = { s with cards := s.cards.insert card.id r' } := by
  unfold save at saved
  split at saved
  · cases saved
  · rename_i r row
    cases applied : r.apply card with
    | error e => simp [applied, bind, Except.bind] at saved
    | ok r' =>
      simp only [applied, bind, Except.bind, Except.ok.injEq, Prod.mk.injEq] at saved
      exact ⟨r, r', row, applied, saved.1.symm, saved.2.symm⟩

theorem Consistent.save {s s' : Store} (consistent : s.Consistent) {card c : Card}
    (saved : s.save card = .ok (c, s')) : s'.Consistent := by
  obtain ⟨r, r', row, applied, -, rfl⟩ := save_eq_ok saved
  obtain ⟨version, sameId, -, sameNumber, -⟩ := Record.apply_version applied
  exact consistent.rewrite row sameId sameNumber (by rw [version]; exact Nat.mod_lt _ (by decide))

theorem staged_eq_ok {s : Store} {card : Card} {r' : Record} (staged : s.staged card = .ok r') :
    ∃ r, s.cards[card.id]? = some r ∧ r.apply card = .ok r' := by
  unfold Store.staged at staged
  cases row : s.cards[card.id]? with
  | none => simp [row, Option.elim, bind, Except.bind] at staged
  | some r => exact ⟨r, rfl, by simpa [row, Option.elim, bind, Except.bind] using staged⟩

theorem saveBoth_eq_ok {s s' : Store} {first second : Card} {written : Card × Card}
    (saved : s.saveBoth first second = .ok (written, s')) :
    ∃ r₁ r₂, first.id ≠ second.id ∧ s.staged first = .ok r₁ ∧ s.staged second = .ok r₂ ∧
      written = ({ first with version := r₁.version }, { second with version := r₂.version }) ∧
      s' = { s with cards := (s.cards.insert r₁.id r₁).insert r₂.id r₂ } := by
  unfold saveBoth at saved
  split at saved
  · cases saved
  · rename_i distinct
    cases staged₁ : s.staged first with
    | error e => simp [staged₁, bind, Except.bind] at saved
    | ok r₁ =>
      cases staged₂ : s.staged second with
      | error e => simp [staged₁, staged₂, bind, Except.bind] at saved
      | ok r₂ =>
        simp only [staged₁, staged₂, bind, Except.bind, Except.ok.injEq, Prod.mk.injEq] at saved
        exact ⟨r₁, r₂, by simpa using distinct, rfl, rfl, saved.1.symm, saved.2.symm⟩

theorem Consistent.saveBoth {s s' : Store} (consistent : s.Consistent) {first second : Card}
    {written : Card × Card} (saved : s.saveBoth first second = .ok (written, s')) :
    s'.Consistent := by
  obtain ⟨r₁, r₂, distinct, staged₁, staged₂, -, rfl⟩ := saveBoth_eq_ok saved
  obtain ⟨row₁, stored₁, applied₁⟩ := staged_eq_ok staged₁
  obtain ⟨row₂, stored₂, applied₂⟩ := staged_eq_ok staged₂
  obtain ⟨version₁, sameId₁, -, sameNumber₁, -⟩ := Record.apply_version applied₁
  obtain ⟨version₂, sameId₂, -, sameNumber₂, -⟩ := Record.apply_version applied₂
  -- each staged row keeps the identifier it is stored under
  have key₁ : r₁.id = first.id := by rw [sameId₁, consistent.keyed _ _ stored₁]
  have key₂ : r₂.id = second.id := by rw [sameId₂, consistent.keyed _ _ stored₂]
  have bounded : ∀ v, Record.nextVersion v < Nat.pow 2 64 := fun v => Nat.mod_lt _ (by decide)
  have halfway := consistent.rewrite (key₁ ▸ stored₁) sameId₁ sameNumber₁
    (version₁ ▸ bounded _)
  have stillStored : ({ s with cards := s.cards.insert r₁.id r₁ } : Store).cards[second.id]? =
      some row₂ := by
    simp only [Std.HashMap.getElem?_insert, beq_iff_eq, key₁, if_neg distinct, stored₂]
  rw [← key₂] at stillStored
  exact halfway.rewrite stillStored sameId₂ sameNumber₂ (version₂ ▸ bounded _)

theorem delete_eq (s : Store) (id : CardId) :
    s.delete id = match s.cards[id]? with
      | some r => (true, { s with cards := s.cards.erase id, numbers := s.numbers.erase r.number })
      | none => (false, s) := rfl

theorem Consistent.delete {s : Store} (consistent : s.Consistent) (id : CardId) :
    (s.delete id).2.Consistent := by
  rw [delete_eq]
  cases row : s.cards[id]? with
  | none => exact consistent
  | some r =>
    constructor
    · intro id' r' row'
      simp only [Std.HashMap.getElem?_erase, beq_iff_eq] at row'
      split at row'
      · cases row'
      · exact consistent.keyed id' r' row'
    · intro blob id'
      simp only [Std.HashMap.getElem?_erase, beq_iff_eq]
      by_cases sameBlob : r.number = blob
      · -- another row with the deleted row's blob would be the deleted row itself
        subst sameBlob
        simp only [if_true, reduceCtorEq, false_iff, not_exists, not_and]
        intro r' row' sameNumber
        split at row'
        · cases row'
        · rename_i other
          exact other (consistent.id_eq_of_number_eq row row' sameNumber.symm)
      · by_cases sameId : id = id'
        · -- the deleted row's identifier was indexed only under the deleted row's blob
          subst sameId
          simp only [if_neg sameBlob, if_true, reduceCtorEq, false_and, exists_false, iff_false]
          intro index
          obtain ⟨r', row', sameNumber⟩ := (consistent.indexed blob id).1 index
          rw [row] at row'
          cases row'
          exact sameBlob sameNumber
        · simp only [if_neg sameBlob, if_neg sameId]
          exact consistent.indexed blob id'
    · have present : id ∈ s.cards := by simp [Std.HashMap.mem_iff_isSome_getElem?, row]
      have indexed : r.number ∈ s.numbers := by
        rw [Std.HashMap.mem_iff_contains]
        exact consistent.hasNumber_of_row row
      simp [Std.HashMap.size_erase, present, indexed, consistent.sameSize]
    · intro id' r' row'
      simp only [Std.HashMap.getElem?_erase, beq_iff_eq] at row'
      split at row'
      · cases row'
      · exact consistent.versions id' r' row'

end Store

/-! ## Sequences of calls -/

/-- A call of the store's interface with its arguments. -/
inductive StoreCall where
  | findById (id : CardId)
  | findByIdAndOwner (id : CardId) (owner : OwnerId)
  | findAll (filter : Card.Filter)
  | hasNumber (blob : Blob)
  | sumByOwner (owner : OwnerId)
  | insert (card : Card) (blob : Blob)
  | save (card : Card)
  | saveBoth (first second : Card)
  | delete (id : CardId)

namespace StoreCall

def outcome {α : Type} (m : RepoM Store α) (s : Store) : Except CardError Unit × Store :=
  let (r, s') := (m.run).run s
  (r.map fun _ => (), s')

def result : StoreCall → Store → Except CardError Unit × Store
  | findById id => outcome (CardRepository.findById id)
  | findByIdAndOwner id owner => outcome (CardRepository.findByIdAndOwner id owner)
  | findAll filter => outcome (CardRepository.findAll filter)
  | hasNumber blob => outcome (CardRepository.hasNumber blob)
  | sumByOwner owner => outcome (CardRepository.sumByOwner owner)
  | insert card blob => outcome (CardRepository.insert card blob)
  | save card => outcome (CardRepository.save card)
  | saveBoth first second => outcome (CardRepository.saveBoth first second)
  | delete id => outcome (CardRepository.delete id)

def runAll (calls : List StoreCall) (s : Store) : Store :=
  calls.foldl (fun s c => (c.result s).2) s

def written (r : Record) (card : Card) : Record :=
  { r with status := card.status, balance := card.balance, version := Record.nextVersion r.version }

/-- What a call does to the store it runs on. A failed call and a read leave it as it was.
`insert` adds one row at version 1 under a new identifier and one index entry for a new blob.
`save` and `saveBoth` rewrite the rows they name and nothing else. `delete` removes a stored row
and the index entry of its blob, which can then be inserted again. -/
def Effect : StoreCall → Store → Except CardError Unit × Store → Prop
  | _, s, (.error _, s') => s' = s
  | insert card blob, s, (.ok (), s') =>
    card.id ∉ s.cards ∧ blob ∉ s.numbers ∧
      s' = { s with
        cards := s.cards.insert card.id
          { id := card.id, owner := card.owner, number := blob, expiry := card.expiry,
            status := card.status, balance := card.balance, version := 1 },
        numbers := s.numbers.insert blob card.id }
  | save card, s, (.ok (), s') =>
    ∃ r, s.cards[card.id]? = some r ∧
      s' = { s with cards := s.cards.insert card.id (written r card) }
  | saveBoth first second, s, (.ok (), s') =>
    first.id ≠ second.id ∧ ∃ r₁ r₂, s.cards[first.id]? = some r₁ ∧ s.cards[second.id]? = some r₂ ∧
      s' = { s with
        cards := (s.cards.insert first.id (written r₁ first)).insert second.id (written r₂ second) }
  | delete id, s, (.ok (), s') =>
    match s.cards[id]? with
    | some r =>
      s' = { s with cards := s.cards.erase id, numbers := s.numbers.erase r.number } ∧
        ∀ card : Card, card.id ∉ s'.cards → ∃ c s'', s'.insert card r.number = .ok (c, s'')
    | none => s' = s
  | _, s, (.ok (), s') => s' = s

theorem Effect.error {c : StoreCall} {s s' : Store} {e : CardError}
    (effect : c.Effect s (.error e, s')) : s' = s := by
  cases c <;> exact effect

theorem outcome_write {α : Type} (f : Store → Outcome (α × Store)) (s : Store) :
    outcome (RepoM.write f) s = match f s with
      | .ok (_, s') => (.ok (), s')
      | .error e => (.error e, s) := by
  simp only [outcome, RepoM.write, ExceptT.run_mk, StateT.run]
  rcases f s with e | ⟨a, s'⟩ <;> rfl

private theorem outcome_read {α : Type} (f : Store → Outcome α) (s : Store) :
    outcome (RepoM.read f) s = ((f s).map fun _ => (), s) := rfl

theorem apply_eq_ok {r r' : Record} {card : Card} (applied : r.apply card = .ok r') :
    card.version = r.version ∧ r' = written r card := by
  unfold Record.apply at applied
  split at applied
  · rename_i sameVersion
    cases applied
    exact ⟨sameVersion, rfl⟩
  · cases applied

theorem effect (c : StoreCall) {s : Store} (consistent : s.Consistent) :
    c.Effect s (c.result s) := by
  cases c with
  | findById id =>
    simp only [result, CardRepository.findById, outcome_read]
    cases s.findById id <;> rfl
  | findByIdAndOwner id owner =>
    simp only [result, CardRepository.findByIdAndOwner, outcome_read]
    cases s.findByIdAndOwner id owner <;> rfl
  | findAll filter =>
    simp only [result, CardRepository.findAll, outcome_read]
    cases s.findAll filter <;> rfl
  | hasNumber blob =>
    simp only [result, CardRepository.hasNumber, outcome_read]
    rfl
  | sumByOwner owner =>
    simp only [result, CardRepository.sumByOwner, outcome_read]
    cases s.sumByOwner owner <;> rfl
  | insert card blob =>
    simp only [result, CardRepository.insert, outcome_write]
    cases inserted : s.insert card blob with
    | error e => rfl
    | ok written =>
      obtain ⟨c, s'⟩ := written
      obtain ⟨freshBlob, freshId, -, rfl⟩ := Store.insert_eq_ok inserted
      refine ⟨?_, ?_, rfl⟩
      · rw [Std.HashMap.mem_iff_contains, freshId]; simp
      · rw [Std.HashMap.mem_iff_contains, freshBlob]; simp
  | save card =>
    simp only [result, CardRepository.save, outcome_write]
    cases saved : s.save card with
    | error e => rfl
    | ok written =>
      obtain ⟨c, s'⟩ := written
      obtain ⟨r, r', row, applied, -, rfl⟩ := Store.save_eq_ok saved
      exact ⟨r, row, by rw [(apply_eq_ok applied).2]⟩
  | saveBoth first second =>
    simp only [result, CardRepository.saveBoth, outcome_write]
    cases saved : s.saveBoth first second with
    | error e => rfl
    | ok written =>
      obtain ⟨w, s'⟩ := written
      obtain ⟨r₁', r₂', distinct, staged₁, staged₂, -, rfl⟩ := Store.saveBoth_eq_ok saved
      obtain ⟨r₁, row₁, applied₁⟩ := Store.staged_eq_ok staged₁
      obtain ⟨r₂, row₂, applied₂⟩ := Store.staged_eq_ok staged₂
      -- the staged rows go back under the identifiers they were read from
      have key₁ : r₁'.id = first.id := by
        rw [(Record.apply_version applied₁).2.1, consistent.keyed _ _ row₁]
      have key₂ : r₂'.id = second.id := by
        rw [(Record.apply_version applied₂).2.1, consistent.keyed _ _ row₂]
      refine ⟨distinct, r₁, r₂, row₁, row₂, ?_⟩
      rw [key₁, key₂, (apply_eq_ok applied₁).2, (apply_eq_ok applied₂).2]
  | delete id =>
    simp only [result, CardRepository.delete, outcome_write]
    cases row : s.cards[id]? with
    | none => simp [Effect, Store.delete, row]
    | some r =>
      simp only [Effect, Store.delete, row, true_and]
      intro card fresh
      have freed : (s.numbers.erase r.number).contains r.number = false := by simp
      have freshId : (s.cards.erase id).contains card.id = false := by
        rw [← Bool.not_eq_true, ← Std.HashMap.mem_iff_contains]
        exact fresh
      simp only [Store.insert, freed, freshId, Bool.false_eq_true, if_false]
      exact ⟨_, _, rfl⟩

theorem keeps_of_fails (c : StoreCall) {s : Store} (consistent : s.Consistent)
    (failed : (c.result s).1 ≠ .ok ()) : (c.result s).2 = s := by
  have effect := c.effect consistent
  generalize c.result s = out at effect failed ⊢
  obtain ⟨e | ⟨⟩, s'⟩ := out
  · exact Effect.error effect
  · exact absurd rfl failed

theorem consistent_result (c : StoreCall) {s : Store} (consistent : s.Consistent) :
    (c.result s).2.Consistent := by
  cases c with
  | findById id => exact consistent
  | findByIdAndOwner id owner => exact consistent
  | findAll filter => exact consistent
  | hasNumber blob => exact consistent
  | sumByOwner owner => exact consistent
  | insert card blob =>
    simp only [result, CardRepository.insert, outcome_write]
    cases inserted : s.insert card blob with
    | error e => exact consistent
    | ok written => exact consistent.insert inserted
  | save card =>
    simp only [result, CardRepository.save, outcome_write]
    cases saved : s.save card with
    | error e => exact consistent
    | ok written => exact consistent.save saved
  | saveBoth first second =>
    simp only [result, CardRepository.saveBoth, outcome_write]
    cases saved : s.saveBoth first second with
    | error e => exact consistent
    | ok written => exact consistent.saveBoth saved
  | delete id => exact consistent.delete id

theorem consistent_runAll (calls : List StoreCall) {s : Store} (consistent : s.Consistent) :
    (runAll calls s).Consistent := by
  induction calls generalizing s with
  | nil => exact consistent
  | cons c rest induction => exact induction (c.consistent_result consistent)

/-- From the empty store, every sequence of calls reaches a store whose two tables agree, and the
call after it either fails and changes nothing or makes exactly its own change. -/
theorem runAll_consistent_and_next_exact (sealer : Sealer) (calls : List StoreCall)
    (next : StoreCall) :
    (runAll calls (Store.empty sealer)).Consistent ∧
      next.Effect (runAll calls (Store.empty sealer))
        (next.result (runAll calls (Store.empty sealer))) := by
  have consistent := consistent_runAll calls (Store.consistent_empty sealer)
  exact ⟨consistent, next.effect consistent⟩

/-! ## Rows that open -/

/-- An insert stores a blob that opens under `sealer` to a card number; no other call stores a
blob. -/
def SealsFor (sealer : Sealer) : StoreCall → Prop
  | insert _ blob => sealer.OpensToNumber blob
  | _ => True

theorem sealer_result (c : StoreCall) {s : Store} (consistent : s.Consistent) :
    (c.result s).2.sealer = s.sealer := by
  have effect := c.effect consistent
  generalize c.result s = out at effect ⊢
  obtain ⟨e | ⟨⟩, s'⟩ := out
  · rw [Effect.error effect]
  cases c
  case insert card blob =>
    obtain ⟨-, -, rfl⟩ := effect
    rfl
  case save card =>
    obtain ⟨r, -, rfl⟩ := effect
    rfl
  case saveBoth first second =>
    obtain ⟨-, r₁, r₂, -, -, rfl⟩ := effect
    rfl
  case delete id =>
    simp only [Effect] at effect
    split at effect
    · rw [effect.1]
    · rw [effect]
  all_goals exact effect ▸ rfl

theorem allOpen_result (c : StoreCall) {s : Store} (consistent : s.Consistent)
    (opens : s.AllOpen) (sealed : c.SealsFor s.sealer) : (c.result s).2.AllOpen := by
  have effect := c.effect consistent
  generalize c.result s = out at effect ⊢
  obtain ⟨e | ⟨⟩, s'⟩ := out
  · rw [Effect.error effect]
    exact opens
  cases c
  case insert card blob =>
    obtain ⟨-, -, rfl⟩ := effect
    refine opens.of_numbers rfl fun id r' row' => ?_
    simp only [Std.HashMap.getElem?_insert, beq_iff_eq] at row'
    split at row'
    · cases row'
      exact .inr sealed
    · exact .inl ⟨id, r', row', rfl⟩
  case save card =>
    obtain ⟨r, row, rfl⟩ := effect
    refine opens.of_numbers rfl fun id r' row' => ?_
    simp only [Std.HashMap.getElem?_insert, beq_iff_eq] at row'
    split at row'
    · cases row'
      exact .inl ⟨card.id, r, row, rfl⟩
    · exact .inl ⟨id, r', row', rfl⟩
  case saveBoth first second =>
    obtain ⟨-, r₁, r₂, row₁, row₂, rfl⟩ := effect
    refine opens.of_numbers rfl fun id r' row' => ?_
    simp only [Std.HashMap.getElem?_insert, beq_iff_eq] at row'
    split_ifs at row'
    · cases row'
      exact .inl ⟨second.id, r₂, row₂, rfl⟩
    · cases row'
      exact .inl ⟨first.id, r₁, row₁, rfl⟩
    · exact .inl ⟨id, r', row', rfl⟩
  case delete id =>
    simp only [Effect] at effect
    split at effect
    · obtain ⟨rfl, -⟩ := effect
      refine opens.of_numbers rfl fun id' r' row' => ?_
      simp only [Std.HashMap.getElem?_erase, beq_iff_eq] at row'
      split at row'
      · cases row'
      · exact .inl ⟨id', r', row', rfl⟩
    · exact effect ▸ opens
  all_goals exact effect ▸ opens

theorem allOpen_runAll (calls : List StoreCall) {s : Store} (consistent : s.Consistent)
    (opens : s.AllOpen) (sealed : ∀ c ∈ calls, c.SealsFor s.sealer) : (runAll calls s).AllOpen := by
  induction calls generalizing s with
  | nil => exact opens
  | cons c rest induction =>
    have sameSealer := c.sealer_result consistent
    refine induction (c.consistent_result consistent)
      (c.allOpen_result consistent opens (sealed c List.mem_cons_self)) fun c' member => ?_
    rw [sameSealer]
    exact sealed c' (List.mem_cons_of_mem c member)

/-! ## Seeding cards -/

theorem result_insert_of_fresh {s : Store} {card : Card} {blob : Blob}
    (freshId : card.id ∉ s.cards) (freshBlob : blob ∉ s.numbers) :
    (insert card blob).result s = (.ok (), { s with
      numbers := s.numbers.insert blob card.id,
      cards := s.cards.insert card.id (Record.ofCard card blob) }) := by
  have freshId' : s.cards.contains card.id = false :=
    Bool.eq_false_iff.mpr fun stored => freshId (Std.HashMap.mem_iff_contains.mpr stored)
  have freshBlob' : s.numbers.contains blob = false :=
    Bool.eq_false_iff.mpr fun indexed => freshBlob (Std.HashMap.mem_iff_contains.mpr indexed)
  have inserted : s.insert card blob = .ok ({ card with version := 1 }, { s with
      numbers := s.numbers.insert blob card.id,
      cards := s.cards.insert card.id (Record.ofCard card blob) }) := by
    simp only [Store.insert, freshId', freshBlob', Bool.false_eq_true, if_false, Record.ofCard]
  simp only [result, CardRepository.insert, outcome_write, inserted]

theorem runAll_inserts (seeds : List (Card × Blob)) {s : Store}
    (freshIds : ∀ seed ∈ seeds, seed.1.id ∉ s.cards)
    (freshBlobs : ∀ seed ∈ seeds, seed.2 ∉ s.numbers)
    (ids : (seeds.map (·.1.id)).Nodup) (blobs : (seeds.map (·.2)).Nodup) :
    runAll (seeds.map fun seed => insert seed.1 seed.2) s = { s with
      numbers := seeds.foldl (fun m seed => m.insert seed.2 seed.1.id) s.numbers,
      cards := seeds.foldl (fun m seed => m.insert seed.1.id (Record.ofCard seed.1 seed.2))
        s.cards } := by
  induction seeds generalizing s with
  | nil => rfl
  | cons seed rest induction =>
    obtain ⟨card, blob⟩ := seed
    rw [List.map_cons, List.nodup_cons] at ids blobs
    have otherIds : card.id ∉ rest.map (·.1.id) := ids.1
    have otherBlobs : blob ∉ rest.map (·.2) := blobs.1
    have first := result_insert_of_fresh (freshIds (card, blob) List.mem_cons_self)
      (freshBlobs (card, blob) List.mem_cons_self)
    -- the later seeds are new to the store after the first insert as well
    have laterIds : ∀ seed ∈ rest, seed.1.id ∉ (s.cards.insert card.id (Record.ofCard card blob)) := by
      intro seed member
      rw [Std.HashMap.mem_insert, not_or, beq_iff_eq]
      exact ⟨fun same => otherIds (same ▸ List.mem_map_of_mem member),
        freshIds seed (List.mem_cons_of_mem _ member)⟩
    have laterBlobs : ∀ seed ∈ rest, seed.2 ∉ s.numbers.insert blob card.id := by
      intro seed member
      rw [Std.HashMap.mem_insert, not_or, beq_iff_eq]
      exact ⟨fun same => otherBlobs (same ▸ List.mem_map_of_mem member),
        freshBlobs seed (List.mem_cons_of_mem _ member)⟩
    rw [List.map_cons, runAll, List.foldl_cons, first]
    exact induction laterIds laterBlobs ids.2 blobs.2

theorem seeded_row (seeds : List (Card × Blob)) {cards : Std.HashMap CardId Record} {id : CardId}
    {r : Record}
    (row : (seeds.foldl (fun m seed => m.insert seed.1.id (Record.ofCard seed.1 seed.2))
      cards)[id]? = some r) :
    cards[id]? = some r ∨ ∃ seed ∈ seeds, r = Record.ofCard seed.1 seed.2 := by
  induction seeds generalizing cards with
  | nil => exact .inl row
  | cons seed rest induction =>
    rcases induction row with inserted | ⟨later, member, rfl⟩
    · rw [Std.HashMap.getElem?_insert] at inserted
      split at inserted
      · exact .inr ⟨seed, List.mem_cons_self, (Option.some.inj inserted).symm⟩
      · exact .inl inserted
    · exact .inr ⟨later, List.mem_cons_of_mem _ member, rfl⟩

theorem runAll_append (calls : List StoreCall) (c : StoreCall) (s : Store) :
    runAll (calls ++ [c]) s = (c.result (runAll calls s)).2 := by
  simp [runAll, List.foldl_append]

/-! ## Versions are 64-bit counters -/

/-- The calls that insert a card and then write it back `writes` times, each write carrying the
version the previous one left. -/
def insertThenWrite (card : Card) (blob : Blob) (writes : Nat) : List StoreCall :=
  insert card blob :: (List.range writes).map fun k => save { card with version := k + 1 }

theorem row_after_writes (sealer : Sealer) (card : Card) (blob : Blob) (writes : Nat)
    (bounded : writes < Nat.pow 2 64) :
    (runAll (insertThenWrite card blob writes) (Store.empty sealer)).cards[card.id]? =
      some { Record.ofCard card blob with version := (writes + 1) % Nat.pow 2 64 } := by
  induction writes with
  | zero =>
    have fresh : (Store.empty sealer).insert card blob =
        .ok ({ card with version := 1 }, { Store.empty sealer with
          cards := (Store.empty sealer).cards.insert card.id (Record.ofCard card blob),
          numbers := (Store.empty sealer).numbers.insert blob card.id }) := by
      simp [Store.insert, Store.empty, Record.ofCard]
    simp only [insertThenWrite, List.range_zero, List.map_nil, runAll, List.foldl_cons,
      List.foldl_nil, result, CardRepository.insert, outcome_write, fresh,
      Std.HashMap.getElem?_insert_self]
    rfl
  | succ writes induction =>
    have before := induction (by omega)
    have sameVersion : (writes + 1) % Nat.pow 2 64 = writes + 1 := Nat.mod_eq_of_lt bounded
    rw [sameVersion] at before
    have unfolded : insertThenWrite card blob (writes + 1) =
        insertThenWrite card blob writes ++ [save { card with version := writes + 1 }] := by
      simp [insertThenWrite, List.range_succ]
    rw [unfolded, runAll_append]
    simp only [result, CardRepository.save, outcome_write, Store.save, before, Record.apply]
    simp [bind, Except.bind, Record.nextVersion, Record.ofCard]

end StoreCall

/-- A card inserted into the empty store and written back `2 ^ 64 - 1` times, each time at its
current version, ends with version 0. -/
theorem version_wraps_to_zero :
    let card := Card.issue (Uuid.ofNat 1) (Uuid.ofNat 2) ⟨"4111111111111111"⟩
      ⟨12, 30, by decide, by decide, by decide⟩ Balance.zero
    ((StoreCall.runAll (StoreCall.insertThenWrite card ⟨"sealed"⟩ (Nat.pow 2 64 - 1))
        (Store.empty ⟨#[]⟩)).cards[card.id]?).map (·.version) = some 0 := by
  intro card
  rw [StoreCall.row_after_writes ⟨#[]⟩ card ⟨"sealed"⟩ (Nat.pow 2 64 - 1)
    (Nat.sub_lt (Nat.two_pow_pos 64) Nat.one_pos)]
  rfl

end CardLedger
