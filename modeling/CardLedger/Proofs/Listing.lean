import Mathlib
import CardLedger.Proofs.OwnerIsolation
import CardLedger.Proofs.ScriptReport

/-!
# Listing cards

A listing opens every stored row, keeps the cards that pass the filter and orders them by
identifier. An admin's filter is used as given; a user's filter is first narrowed to the user's
own cards, whatever owner it named. So on a store whose rows sit under their own identifiers and
all open, `listCards` answers the views of exactly the stored cards that pass the narrowed
filter, each once, in strictly ascending identifier order; and a single row that does not open
fails the whole listing with a crypto failure, whoever lists (`listCards_exact`).

`Card.Filter.Holds` states a filter's conditions as propositions: a condition that is present
must hold, and the balance bounds are inclusive bounds on the amount of money.
-/

namespace CardLedger

theorem exists_of_mapM_error {α β ε : Type} {f : α → Except ε β} {l : List α} {e : ε}
    (failed : l.mapM f = .error e) : ∃ x ∈ l, f x = .error e := by
  induction l with
  | nil => cases failed
  | cons x rest induction =>
    rw [List.mapM_cons] at failed
    cases first : f x with
    | error e' =>
      simp only [first, bind, Except.bind, Except.error.injEq] at failed
      exact ⟨x, List.mem_cons_self, failed ▸ first⟩
    | ok y =>
      cases others : rest.mapM f with
      | error e' =>
        simp only [first, others, bind, Except.bind, Except.error.injEq] at failed
        obtain ⟨z, member, failing⟩ := induction (failed ▸ others)
        exact ⟨z, List.mem_cons_of_mem x member, failing⟩
      | ok ys => simp [first, others, bind, Except.bind, pure, Except.pure] at failed

namespace Card.Filter

/-- The conditions of a filter that a card meets: every condition that is present holds, and
both balance bounds are inclusive. -/
def Holds (f : Filter) (c : Card) : Prop :=
  (∀ o ∈ f.owner, c.owner = o) ∧ (∀ s ∈ f.status, c.status = s) ∧
    (∀ m ∈ f.minBalance, m.cents ≤ c.balance.cents) ∧
    (∀ m ∈ f.maxBalance, c.balance.cents ≤ m.cents)

theorem accepts_iff_holds (f : Filter) (c : Card) : f.accepts c = true ↔ f.Holds c := by
  rcases f with ⟨owner, status, low, high⟩
  cases owner <;> cases status <;> cases low <;> cases high <;> simp [accepts, Holds, and_assoc]

theorem holds_ownedBy (f : Filter) (owner : OwnerId) (c : Card) :
    (f.ownedBy owner).Holds c ↔ c.owner = owner ∧ ({ f with owner := none } : Filter).Holds c := by
  simp [Holds, ownedBy]

end Card.Filter

namespace Store

variable {s : Store}

theorem ids_of_mapM_openWith {sealer : Sealer} {rows : List Record} {cards : List Card}
    (opened : rows.mapM (Record.openWith sealer) = .ok cards) :
    cards.map (·.id) = rows.map (·.id) := by
  induction rows generalizing cards with
  | nil =>
    cases opened
    rfl
  | cons r rest induction =>
    rw [List.mapM_cons] at opened
    cases first : r.openWith sealer with
    | error e => simp [first, bind, Except.bind] at opened
    | ok c =>
      cases others : rest.mapM (Record.openWith sealer) with
      | error e => simp [first, others, bind, Except.bind] at opened
      | ok cs =>
        simp only [first, others, bind, Except.bind, pure, Except.pure, Except.ok.injEq] at opened
        subst opened
        simp [(Record.openWith_mirrors first).1, induction others]

theorem nodup_record_ids (keyed : s.KeyedById) : (s.records.map (·.id)).Nodup := by
  have keys : s.records.map (·.id) = s.cards.keys := by
    rw [← Std.HashMap.map_fst_toList_eq_keys, records, List.map_map]
    apply List.map_congr_left
    rintro ⟨id, r⟩ member
    exact keyed id r (Std.HashMap.mem_toList_iff_getElem?_eq_some.mp member)
  rw [keys]
  exact Std.HashMap.nodup_keys

theorem sortedRecords_ascending (keyed : s.KeyedById) :
    s.sortedRecords.Pairwise (fun a b => a.id < b.id) := by
  have sorted : s.sortedRecords.Pairwise (fun a b => a.id.bits ≤ b.id.bits) := by
    apply (List.pairwise_mergeSort (fun a b c ab bc => by simp at ab bc ⊢; omega)
      (fun a b => by simp; omega) s.records).imp
    simp
  have distinct : s.sortedRecords.Pairwise (fun a b => a.id ≠ b.id) := by
    have nodup := (List.mergeSort_perm s.records fun a b => decide (a.id.bits ≤ b.id.bits)).map
      (·.id) |>.nodup_iff.mpr (nodup_record_ids keyed)
    exact List.pairwise_map.mp nodup
  -- two distinct identifiers in order are strictly in order
  refine (sorted.and distinct).imp fun ordered => ?_
  exact Nat.lt_of_le_of_ne ordered.1 fun same => ordered.2 (Uuid.ext_bits same)

theorem findAll_exact (keyed : s.KeyedById) (opens : s.AllOpen) (f : Card.Filter) :
    ∃ cards, s.findAll f = .ok cards ∧ cards.Pairwise (fun a b => a.id < b.id) ∧
      ∀ c, c ∈ cards ↔ (∃ (id : CardId) (r : Record), s.cards[id]? = some r ∧
        r.openWith s.sealer = .ok c) ∧ f.accepts c = true := by
  have each : ∀ r ∈ s.sortedRecords, ∃ c, r.openWith s.sealer = .ok c := by
    intro r member
    simp only [sortedRecords, List.mem_mergeSort] at member
    obtain ⟨id, row⟩ := mem_records.mp member
    exact opens id r row
  obtain ⟨opened, mapped, -, mem⟩ := mapM_ok_of_forall each
  have ascending : opened.Pairwise (fun a b => a.id < b.id) := by
    have ids := congrArg (List.Pairwise (· < ·)) (ids_of_mapM_openWith mapped)
    rw [List.pairwise_map, List.pairwise_map] at ids
    exact ids.mpr (sortedRecords_ascending keyed)
  refine ⟨opened.filter f.accepts, by simp [findAll, mapped, Except.map],
    ascending.filter _, fun c => ?_⟩
  rw [List.mem_filter, mem c]
  simp only [sortedRecords, List.mem_mergeSort, mem_records]
  constructor
  · rintro ⟨⟨r, ⟨id, row⟩, opened⟩, accepted⟩
    exact ⟨⟨id, r, row, opened⟩, accepted⟩
  · rintro ⟨⟨id, r, row, opened⟩, accepted⟩
    exact ⟨⟨r, ⟨id, row⟩, opened⟩, accepted⟩

theorem findAll_cryptoFailure {id : CardId} {r : Record} (row : s.cards[id]? = some r)
    (fails : ∀ c, r.openWith s.sealer ≠ .ok c) (f : Card.Filter) :
    ∃ m, s.findAll f = .error (.cryptoFailure m) := by
  obtain ⟨e, listed⟩ := findAll_error_of_row row fails f
  cases opened : s.sortedRecords.mapM (Record.openWith s.sealer) with
  | error e' =>
    -- the listing failed where some row failed to open, and opening fails only that way
    obtain ⟨r', -, failing⟩ := exists_of_mapM_error opened
    obtain ⟨m, rfl⟩ := Record.openWith_error failing
    exact ⟨m, by simp [findAll, opened, Except.map]⟩
  | ok cards => simp [findAll, opened, Except.map] at listed

end Store

namespace Engine

variable (eng : Engine Store)

/-- On a store whose rows sit under their own identifiers, a listing by `who` with filter `f`
answers, when every row opens, the views of exactly the stored cards that meet `f` (for a user:
that are the user's and meet `f`'s other conditions, whatever owner `f` names), each once, in
strictly ascending identifier order, and keeps the engine; when some row does not open, the
store's listing fails with a crypto failure and the engine answers that failure. -/
theorem listCards_exact (who : Identity) (f : Card.Filter) (keyed : eng.store.KeyedById) :
    (eng.store.AllOpen →
      ∃ views, exec (listCards who f) eng = (.ok views, eng) ∧
        views.Pairwise (fun a b => a.id < b.id) ∧
        ∀ v, v ∈ views ↔ ∃ (id : CardId) (r : Record) (c : Card), eng.store.cards[id]? = some r ∧
          r.openWith eng.store.sealer = .ok c ∧
          (if who.isAdmin then f.Holds c
            else c.owner = who.id ∧ ({ f with owner := none } : Card.Filter).Holds c) ∧
          v = c.view) ∧
    ((∃ (id : CardId) (r : Record), eng.store.cards[id]? = some r ∧
        ∀ c, r.openWith eng.store.sealer ≠ .ok c) →
      ∃ m, eng.store.findAll (if who.isAdmin then f else f.ownedBy who.id) =
          .error (.cryptoFailure m) ∧
        exec (listCards who f) eng = (.error (.cryptoFailure m), eng)) := by
  let narrowed := if who.isAdmin then f else f.ownedBy who.id
  have run : exec (listCards who f) eng =
      ((eng.store.findAll narrowed).map (List.map Card.view), eng) := by
    cases listed : eng.store.findAll narrowed <;> simp [listCards, narrowed, listed, Except.map]
  have narrowedHolds : ∀ c, narrowed.accepts c = true ↔ if who.isAdmin then f.Holds c
      else c.owner = who.id ∧ ({ f with owner := none } : Card.Filter).Holds c := by
    intro c
    by_cases admin : who.isAdmin = true <;>
      simp [narrowed, admin, Card.Filter.accepts_iff_holds, Card.Filter.holds_ownedBy]
  refine ⟨fun opens => ?_, fun unreadable => ?_⟩
  · obtain ⟨cards, listed, ascending, mem⟩ := Store.findAll_exact keyed opens narrowed
    refine ⟨cards.map Card.view, by rw [run, listed]; rfl, List.pairwise_map.mpr ascending, ?_⟩
    intro v
    simp only [List.mem_map, mem, narrowedHolds]
    constructor
    · rintro ⟨c, ⟨⟨id, r, row, opened⟩, holds⟩, rfl⟩
      exact ⟨id, r, c, row, opened, holds, rfl⟩
    · rintro ⟨id, r, c, row, opened, holds, rfl⟩
      exact ⟨c, ⟨⟨id, r, row, opened⟩, holds⟩, rfl⟩
  · obtain ⟨id, r, row, fails⟩ := unreadable
    obtain ⟨m, failed⟩ := Store.findAll_cryptoFailure row fails narrowed
    exact ⟨m, failed, by rw [run, failed]; rfl⟩

theorem eq_pair_of_ascending {views : List Card.View} {a b : Card.View}
    (ascending : views.Pairwise (fun x y => x.id < y.id)) (lt : a.id < b.id)
    (mem : ∀ v, v ∈ views ↔ v = a ∨ v = b) : views = [a, b] := by
  have apart : a ≠ b := by
    rintro rfl
    exact Nat.lt_irrefl _ lt
  have nodup : views.Nodup := by
    refine ascending.imp fun {x y} below same => ?_
    rw [same] at below
    exact Nat.lt_irrefl _ below
  have perm : views.Perm [a, b] :=
    (List.perm_ext_iff_of_nodup nodup (by simpa using apart)).mpr fun v => by simp [mem]
  -- two elements in ascending order, each of them `a` or `b`
  match views, perm.length_eq, ascending with
  | [x, y], _, ascending =>
    have below : x.id < y.id := by simpa using ascending
    rcases (mem x).mp (by simp) with rfl | rfl <;> rcases (mem y).mp (by simp) with rfl | rfl
    · exact absurd below (Nat.lt_irrefl _)
    · rfl
    · exact absurd (Nat.lt_trans below lt) (Nat.lt_irrefl _)
    · exact absurd below (Nat.lt_irrefl _)

/-- Three cards sealed under a 32-byte key, two of them one user's, inserted out of identifier
order: the user's listing answers the user's two cards in ascending order. With a row of another
owner that does not open added, the same listing fails with a crypto failure. -/
theorem listing_sealed_cards_in_order :
    let key : List UInt8 := List.replicate 32 7
    let sealer : Sealer := ⟨Aes.schedule key.toArray⟩
    let owner : OwnerId := Uuid.ofNat 5
    let other : OwnerId := Uuid.ofNat 6
    let expiry : Expiry := ⟨12, 30, by decide, by decide, by decide⟩
    let late := Card.issue (Uuid.ofNat 3) owner ⟨"4111111111111111"⟩ expiry Balance.zero
    let foreign := Card.issue (Uuid.ofNat 2) other ⟨"4024000000000905"⟩ expiry Balance.zero
    let early := Card.issue (Uuid.ofNat 1) owner ⟨"5555555555554444"⟩ expiry Balance.zero
    let blob₁ : Blob := ⟨Base64.encode (List.replicate 12 0 ++
      Gcm.encrypt sealer.roundKeys (List.replicate 12 0) "4111111111111111".toUTF8.toList)⟩
    let blob₂ : Blob := ⟨Base64.encode (List.replicate 12 1 ++
      Gcm.encrypt sealer.roundKeys (List.replicate 12 1) "4024000000000905".toUTF8.toList)⟩
    let blob₃ : Blob := ⟨Base64.encode (List.replicate 12 2 ++
      Gcm.encrypt sealer.roundKeys (List.replicate 12 2) "5555555555554444".toUTF8.toList)⟩
    let eng : Engine Store :=
      { store := StoreCall.runAll [.insert late blob₁, .insert foreign blob₂, .insert early blob₃]
          (Store.empty sealer),
        sealer, config := {}, entropy := Entropy.initial }
    let broken : Record :=
      { id := Uuid.ofNat 4, owner := other, number := ⟨"AAAA"⟩, expiry, status := .active,
        balance := Balance.zero, version := 1 }
    let damaged : Engine Store :=
      { eng with store := { eng.store with cards := eng.store.cards.insert broken.id broken } }
    Sealer.ofKey key = .ok sealer ∧ eng.store.KeyedById ∧ eng.store.AllOpen ∧
      exec (listCards ⟨owner, .user⟩ {}) eng =
        (.ok [({ early with version := 1 } : Card).view, ({ late with version := 1 } : Card).view],
          eng) ∧
      damaged.store.KeyedById ∧
      ∃ m, exec (listCards ⟨owner, .user⟩ {}) damaged = (.error (.cryptoFailure m), damaged) := by
  intro key sealer owner other expiry late foreign early blob₁ blob₂ blob₃ eng broken damaged
  have sealed₁ : sealer.sealWithNonce (List.replicate 12 0) "4111111111111111" = some blob₁ :=
    sealer.sealWithNonce_of_ne_empty (by simp)
  have sealed₂ : sealer.sealWithNonce (List.replicate 12 1) "4024000000000905" = some blob₂ :=
    sealer.sealWithNonce_of_ne_empty (by simp)
  have sealed₃ : sealer.sealWithNonce (List.replicate 12 2) "5555555555554444" = some blob₃ :=
    sealer.sealWithNonce_of_ne_empty (by simp)
  have valid₁ : CardNumber.parse "4111111111111111" = .ok ⟨"4111111111111111"⟩ := by decide
  have valid₂ : CardNumber.parse "4024000000000905" = .ok ⟨"4024000000000905"⟩ := by decide
  have valid₃ : CardNumber.parse "5555555555554444" = .ok ⟨"5555555555554444"⟩ := by decide
  have blobs : [blob₁, blob₂, blob₃].Nodup := by
    have apart₁₂ := sealer.sealWithNonce_ne rfl rfl sealed₁ sealed₂ (by decide)
    have apart₁₃ := sealer.sealWithNonce_ne rfl rfl sealed₁ sealed₃ (by decide)
    have apart₂₃ := sealer.sealWithNonce_ne rfl rfl sealed₂ sealed₃ (by decide)
    simp [apart₁₂, apart₁₃, apart₂₃]
  have runs : eng.store = StoreCall.runAll
      [.insert late blob₁, .insert foreign blob₂, .insert early blob₃] (Store.empty sealer) := by
    dsimp only [eng]
  have seeded : eng.store = { Store.empty sealer with
      numbers := (((Store.empty sealer).numbers.insert blob₁ late.id).insert blob₂
        foreign.id).insert blob₃ early.id,
      cards := (((Store.empty sealer).cards.insert late.id (Record.ofCard late blob₁)).insert
        foreign.id (Record.ofCard foreign blob₂)).insert early.id (Record.ofCard early blob₃) } :=
    runs.trans (StoreCall.runAll_inserts [(late, blob₁), (foreign, blob₂), (early, blob₃)]
      (by simp [Store.empty]) (by simp [Store.empty]) (by decide) blobs)
  have sameSealer : eng.store.sealer = sealer := by
    rw [seeded]
    rfl
  -- the store holds exactly the three first rows
  have rows : ∀ (id : CardId) (r : Record), eng.store.cards[id]? = some r →
      r = Record.ofCard late blob₁ ∨
      r = Record.ofCard foreign blob₂ ∨ r = Record.ofCard early blob₃ := by
    intro id r row
    rw [seeded] at row
    simp only [Std.HashMap.getElem?_insert, beq_iff_eq] at row
    split_ifs at row
    · exact .inr (.inr (Option.some.inj row).symm)
    · exact .inr (.inl (Option.some.inj row).symm)
    · exact .inl (Option.some.inj row).symm
    · simp [Store.empty] at row
  have row₁ : eng.store.cards[late.id]? = some (Record.ofCard late blob₁) := by
    have third : (early.id == late.id) = false := by decide
    have second : (foreign.id == late.id) = false := by decide
    rw [seeded, Std.HashMap.getElem?_insert, third, Std.HashMap.getElem?_insert, second,
      Std.HashMap.getElem?_insert_self]
    rfl
  have row₃ : eng.store.cards[early.id]? = some (Record.ofCard early blob₃) := by
    rw [seeded, Std.HashMap.getElem?_insert_self]
  have opened₁ : (Record.ofCard late blob₁).openWith eng.store.sealer =
      .ok { late with version := 1 } := by
    rw [sameSealer]
    exact Record.openWith_of_opens (sealer.openBlob_sealWithNonce rfl sealed₁) valid₁
  have opened₂ : (Record.ofCard foreign blob₂).openWith eng.store.sealer =
      .ok { foreign with version := 1 } := by
    rw [sameSealer]
    exact Record.openWith_of_opens (sealer.openBlob_sealWithNonce rfl sealed₂) valid₂
  have opened₃ : (Record.ofCard early blob₃).openWith eng.store.sealer =
      .ok { early with version := 1 } := by
    rw [sameSealer]
    exact Record.openWith_of_opens (sealer.openBlob_sealWithNonce rfl sealed₃) valid₃
  have consistent : eng.store.Consistent :=
    runs ▸ StoreCall.consistent_runAll _ (Store.consistent_empty sealer)
  have opens : eng.store.AllOpen := by
    intro id r row
    rcases rows id r row with rfl | rfl | rfl
    exacts [⟨_, opened₁⟩, ⟨_, opened₂⟩, ⟨_, opened₃⟩]
  obtain ⟨views, run, ascending, mem⟩ :=
    (listCards_exact eng ⟨owner, .user⟩ {} consistent.keyed).1 opens
  have listed : views =
      [({ early with version := 1 } : Card).view, ({ late with version := 1 } : Card).view] := by
    refine eq_pair_of_ascending ascending (by decide) fun v => ?_
    rw [mem v]
    constructor
    · rintro ⟨id, r, c, row, opened, holds, rfl⟩
      simp only [Identity.isAdmin] at holds
      -- the other owner's card is not the user's
      rcases rows id r row with rfl | rfl | rfl
      · rw [opened₁, Except.ok.injEq] at opened
        exact .inr (by rw [← opened])
      · rw [opened₂, Except.ok.injEq] at opened
        rw [← opened] at holds
        exact absurd holds.1 (by decide)
      · rw [opened₃, Except.ok.injEq] at opened
        exact .inl (by rw [← opened])
    · rintro (rfl | rfl)
      · exact ⟨early.id, _, _, row₃, opened₃, ⟨rfl, by simp [Card.Filter.Holds]⟩, rfl⟩
      · exact ⟨late.id, _, _, row₁, opened₁, ⟨rfl, by simp [Card.Filter.Holds]⟩, rfl⟩
  -- the damaged store: one more row, whose blob is too short to hold a nonce
  have keyedDamaged : damaged.store.KeyedById := Store.KeyedById.insert consistent.keyed rfl
  have malformed : sealer.openBlob broken.number = .error Sealer.malformed := by decide
  have fails : ∀ c, broken.openWith damaged.store.sealer ≠ .ok c := by
    intro c opened
    rw [show damaged.store.sealer = sealer from sameSealer] at opened
    simp [Record.openWith, malformed, bind, Except.bind] at opened
  obtain ⟨m, -, failed⟩ := (listCards_exact damaged ⟨owner, .user⟩ {} keyedDamaged).2
    ⟨broken.id, broken, by simp [damaged], fails⟩
  exact ⟨Sealer.ofKey_of_length rfl, consistent.keyed, opens, by rw [run, listed],
    keyedDamaged, m, failed⟩

end Engine

end CardLedger
