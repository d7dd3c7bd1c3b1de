import Mathlib
import CardLedger.Proofs.OptimisticWrites
import CardLedger.Proofs.EngineSteps

/-!
# Owner isolation

A caller reaches only the rows of its own cards. Two stores that agree on an owner's rows
(`Store.Twins`) cannot be told apart by that owner's calls: balances, single cards, totals,
status changes and transfers answer the same on both, whatever identifiers the caller names, so
a card of another owner answers exactly as a missing one. Each call changes at most the caller's
own rows (`Engine.Frame`), and the two stores stay twins, so a whole session of the owner's calls
answers the same on both.

Listing is the exception. `findAll` opens every row before it filters by owner, so a row of
another owner that does not open fails the owner's listing; when every other owner's row opens,
the listing answers the same on twins as well.

The proofs run through `Engine.IsolatedWhen`: a step that twins meeting a precondition cannot
tell apart. Steps that answer without the store, reads of the owner's rows and writes of rows the
owner holds are isolated, and binding isolated steps gives isolated steps.
-/

namespace CardLedger

/-! ## Lists and sums -/

theorem mapM_filter_eq {α β ε : Type} (g : α → Except ε β) (p : α → Bool)
    (keep : β → Bool) (l : List α)
    (dropped : ∀ x ∈ l, p x = false → ∃ y, g x = .ok y ∧ keep y = false) :
    (l.mapM g).map (List.filter keep) = ((l.filter p).mapM g).map (List.filter keep) := by
  induction l with
  | nil => rfl
  | cons x rest induction =>
    have later := induction fun y mem => dropped y (List.mem_cons_of_mem x mem)
    cases kept : p x with
    | false =>
      -- `x` maps to a value the filter drops, on the left only
      obtain ⟨y, mapped, gone⟩ := dropped x List.mem_cons_self kept
      rw [List.filter_cons_of_neg (by simp [kept]), ← later, List.mapM_cons, mapped]
      cases others : rest.mapM g <;> simp [bind, Except.bind, Except.map, pure, Except.pure, gone]
    | true =>
      rw [List.filter_cons_of_pos kept, List.mapM_cons, List.mapM_cons]
      cases g x with
      | error e => rfl
      | ok y =>
        cases others : rest.mapM g <;> cases others' : (rest.filter p).mapM g <;>
          simp_all [bind, Except.bind, Except.map, pure, Except.pure, List.filter_cons]

theorem mapM_error_of_mem {α β ε : Type} {g : α → Except ε β} {l : List α} {x : α}
    (mem : x ∈ l) (fails : ∀ y, g x ≠ .ok y) : ∃ e, l.mapM g = .error e := by
  induction l with
  | nil => cases mem
  | cons z rest induction =>
    rw [List.mapM_cons]
    cases first : g z with
    | error e => exact ⟨e, rfl⟩
    | ok y =>
      rcases List.mem_cons.mp mem with rfl | later
      · exact absurd first (fails y)
      · obtain ⟨e, failed⟩ := induction later
        exact ⟨e, by simp [failed, bind, Except.bind]⟩

namespace Balance

def ofCents? (cents : Nat) : Outcome Balance :=
  if h : cents ≤ maxCents then .ok ⟨cents, h⟩ else .error .balanceOverflow

theorem foldlM_checkedAdd (l : List Balance) (acc : Balance) :
    l.foldlM checkedAdd acc = ofCents? (acc.cents + (l.map (·.cents)).sum) := by
  induction l generalizing acc with
  | nil => simp [ofCents?, acc.cents_le, pure, Except.pure]
  | cons b rest induction =>
    rw [List.foldlM_cons]
    by_cases fits : acc.cents + b.cents ≤ maxCents
    · have added : checkedAdd acc b = .ok ⟨acc.cents + b.cents, fits⟩ := dif_pos fits
      rw [added]
      show rest.foldlM checkedAdd ⟨acc.cents + b.cents, fits⟩ = _
      rw [induction]
      simp [Nat.add_assoc]
    · have failed : checkedAdd acc b = .error .balanceOverflow := dif_neg fits
      have above : ¬ acc.cents + ((b :: rest).map (·.cents)).sum ≤ maxCents := by
        simp only [List.map_cons, List.sum_cons]
        omega
      rw [failed, ofCents?, dif_neg above]
      rfl

theorem total_perm {l₁ l₂ : List Balance} (perm : l₁.Perm l₂) :
    total l₁ = total l₂ := by
  rw [total, total, foldlM_checkedAdd, foldlM_checkedAdd, (perm.map _).sum_eq]

end Balance

namespace Store

variable {owner : OwnerId} {s s₁ s₂ : Store}

def othersRow (s : Store) (id : CardId) (owner : OwnerId) : Option Record :=
  (s.cards[id]?).filter (·.owner != owner)

def OthersOpen (owner : OwnerId) (s : Store) : Prop :=
  ∀ (id : CardId) (r : Record), s.cards[id]? = some r → r.owner ≠ owner →
    ∃ c, r.openWith s.sealer = .ok c

/-- Two stores that agree on `owner`'s cards: the same key and the same row of `owner`'s under
every identifier, each row under its own identifier. Rows of other owners may differ in any
way, and need not open. -/
structure Twins (owner : OwnerId) (s₁ s₂ : Store) : Prop where
  sealer : s₁.sealer = s₂.sealer
  owned : ∀ id, s₁.ownedRow id owner = s₂.ownedRow id owner
  keyed₁ : s₁.KeyedById
  keyed₂ : s₂.KeyedById

theorem ownedRow_eq_some {id : CardId} {r : Record} :
    s.ownedRow id owner = some r ↔ s.cards[id]? = some r ∧ r.owner = owner := by
  simp [ownedRow, Option.filter_eq_some_iff]

theorem othersRow_eq_none_of_owned {id : CardId} (owned : (s.ownedRow id owner).isSome) :
    s.othersRow id owner = none := by
  obtain ⟨r, found⟩ := Option.isSome_iff_exists.mp owned
  obtain ⟨row, mine⟩ := ownedRow_eq_some.mp found
  simp [othersRow, row, mine]

theorem othersRow_insert {id : CardId} {r : Record} (mine : r.owner = owner)
    (held : s.othersRow id owner = none) (id' : CardId) :
    ({ s with cards := s.cards.insert id r } : Store).othersRow id' owner =
      s.othersRow id' owner := by
  by_cases same : id = id'
  · subst same
    have gone : ({ s with cards := s.cards.insert id r } : Store).othersRow id owner = none := by
      simp [othersRow, mine]
    rw [gone, held]
  · simp [othersRow, Std.HashMap.getElem?_insert, same]

theorem KeyedById.insert (keyed : s.KeyedById) {id : CardId} {r : Record} (key : r.id = id) :
    ({ s with cards := s.cards.insert id r } : Store).KeyedById := by
  intro id' r' found
  by_cases same : id = id'
  · simp only [Std.HashMap.getElem?_insert, same, beq_self_eq_true, if_true,
      Option.some.injEq] at found
    rw [← found, key, same]
  · simp only [Std.HashMap.getElem?_insert, beq_iff_eq, same, if_false] at found
    exact keyed id' r' found

theorem Twins.insert (twins : s₁.Twins owner s₂) {id : CardId} {r : Record} (key : r.id = id) :
    ({ s₁ with cards := s₁.cards.insert id r } : Store).Twins owner
      { s₂ with cards := s₂.cards.insert id r } where
  sealer := twins.sealer
  owned id' := by
    by_cases same : id = id'
    · simp [ownedRow, same]
    · simpa [ownedRow, Std.HashMap.getElem?_insert, same] using twins.owned id'
  keyed₁ := twins.keyed₁.insert key
  keyed₂ := twins.keyed₂.insert key

theorem Twins.row {id : CardId} (twins : s₁.Twins owner s₂)
    (owned : (s₁.ownedRow id owner).isSome) :
    ∃ r, s₁.cards[id]? = some r ∧ s₂.cards[id]? = some r ∧ r.owner = owner := by
  obtain ⟨r, found⟩ := Option.isSome_iff_exists.mp owned
  obtain ⟨row₁, mine⟩ := ownedRow_eq_some.mp found
  obtain ⟨row₂, -⟩ := ownedRow_eq_some.mp ((twins.owned id).symm.trans found)
  exact ⟨r, row₁, row₂, mine⟩

theorem Twins.findByIdAndOwner (twins : s₁.Twins owner s₂) (id : CardId) :
    s₁.findByIdAndOwner id owner = s₂.findByIdAndOwner id owner := by
  rw [findByIdAndOwner_eq, findByIdAndOwner_eq, twins.owned, twins.sealer]

theorem owned_of_findByIdAndOwner (keyed : s.KeyedById) {id : CardId} {c : Card}
    (found : s.findByIdAndOwner id owner = .ok (some c)) : (s.ownedRow c.id owner).isSome := by
  obtain ⟨r, row, mirrors⟩ := findByIdAndOwner_some found
  have key : c.id = id := id_of_mirrors keyed row mirrors
  rw [findByIdAndOwner_eq] at found
  cases owned : s.ownedRow id owner with
  | none => simp [owned] at found
  | some r' => simp [key, owned]

theorem mem_ownedPairs {id : CardId} {r : Record} :
    (id, r) ∈ s.cards.toList.filter (fun x => x.2.owner == owner) ↔
      s.ownedRow id owner = some r := by
  simp [Std.HashMap.mem_toList_iff_getElem?_eq_some, ownedRow_eq_some]

theorem Twins.ownedRecords_perm (twins : s₁.Twins owner s₂) :
    (s₁.records.filter (·.owner == owner)).Perm (s₂.records.filter (·.owner == owner)) := by
  have nodup : ∀ s : Store, (s.cards.toList.filter (fun x => x.2.owner == owner)).Nodup := by
    intro s
    apply List.Nodup.filter
    exact Std.HashMap.distinct_keys_toList.imp fun apart same => by simp [same] at apart
  have pairs : (s₁.cards.toList.filter (fun x => x.2.owner == owner)).Perm
      (s₂.cards.toList.filter (fun x => x.2.owner == owner)) := by
    rw [List.perm_ext_iff_of_nodup (nodup s₁) (nodup s₂)]
    rintro ⟨id, r⟩
    rw [mem_ownedPairs, mem_ownedPairs, twins.owned]
  rw [records, records, List.filter_map, List.filter_map]
  exact pairs.map _

theorem Twins.sumByOwner (twins : s₁.Twins owner s₂) :
    s₁.sumByOwner owner = s₂.sumByOwner owner :=
  Balance.total_perm (twins.ownedRecords_perm.map _)

theorem Twins.ownedSorted (twins : s₁.Twins owner s₂) :
    s₁.sortedRecords.filter (·.owner == owner) =
      s₂.sortedRecords.filter (·.owner == owner) := by
  have sorted : ∀ s : Store, (s.sortedRecords.filter (·.owner == owner)).Pairwise
      (fun a b => a.id.bits ≤ b.id.bits) := by
    intro s
    apply List.Pairwise.filter
    apply (List.pairwise_mergeSort (fun a b c ab bc => by simp at ab bc ⊢; omega)
      (fun a b => by simp; omega) s.records).imp
    simp
  have perm : (s₁.sortedRecords.filter (·.owner == owner)).Perm
      (s₂.sortedRecords.filter (·.owner == owner)) :=
    (((List.mergeSort_perm _ _).filter _).trans twins.ownedRecords_perm).trans
      ((List.mergeSort_perm _ _).filter _).symm
  apply perm.eq_of_pairwise _ (sorted s₁) (sorted s₂)
  -- rows with one identifier are one row: the twins hold the same row of `owner`'s there
  intro a b memA memB ab ba
  have sameId : a.id = b.id := Uuid.ext_bits (Nat.le_antisymm ab ba)
  simp only [sortedRecords, List.mem_filter, List.mem_mergeSort, beq_iff_eq] at memA memB
  obtain ⟨idA, rowA⟩ := mem_records.mp memA.1
  obtain ⟨idB, rowB⟩ := mem_records.mp memB.1
  have keyA : a.id = idA := twins.keyed₁ idA a rowA
  have keyB : b.id = idB := twins.keyed₂ idB b rowB
  have ownedA : s₁.ownedRow a.id owner = some a :=
    ownedRow_eq_some.mpr ⟨keyA ▸ rowA, memA.2⟩
  have ownedB : s₂.ownedRow a.id owner = some b :=
    ownedRow_eq_some.mpr ⟨sameId ▸ keyB ▸ rowB, memB.2⟩
  exact Option.some.inj (ownedA.symm.trans ((twins.owned a.id).trans ownedB))

theorem findAll_ownedBy (opens : s.OthersOpen owner) (f : Card.Filter) :
    s.findAll (f.ownedBy owner) =
      ((s.sortedRecords.filter (·.owner == owner)).mapM (Record.openWith s.sealer)).map
        (List.filter (f.ownedBy owner).accepts) := by
  apply mapM_filter_eq
  intro r mem theirs
  simp only [sortedRecords, List.mem_mergeSort] at mem
  obtain ⟨id, row⟩ := mem_records.mp mem
  have other : r.owner ≠ owner := by simpa using theirs
  obtain ⟨c, opened⟩ := opens id r row other
  refine ⟨c, opened, ?_⟩
  have sameOwner : c.owner = r.owner := (Record.openWith_mirrors opened).2.1
  cases accepted : (f.ownedBy owner).accepts c with
  | false => rfl
  | true =>
    have theirs : owner = r.owner :=
      (Card.Filter.accepts_ownedBy f owner c accepted).symm.trans sameOwner
    exact absurd theirs other.symm

theorem Twins.findAll_ownedBy (twins : s₁.Twins owner s₂) (opens₁ : s₁.OthersOpen owner)
    (opens₂ : s₂.OthersOpen owner) (f : Card.Filter) :
    s₁.findAll (f.ownedBy owner) = s₂.findAll (f.ownedBy owner) := by
  rw [Store.findAll_ownedBy opens₁, Store.findAll_ownedBy opens₂, twins.ownedSorted,
    twins.sealer]

theorem findAll_error_of_row {id : CardId} {r : Record} (row : s.cards[id]? = some r)
    (fails : ∀ c, r.openWith s.sealer ≠ .ok c) (f : Card.Filter) :
    ∃ e, s.findAll f = .error e := by
  have mem : r ∈ s.sortedRecords := by
    simp only [sortedRecords, List.mem_mergeSort]
    exact mem_records.mpr ⟨id, row⟩
  obtain ⟨e, failed⟩ := mapM_error_of_mem mem fails
  exact ⟨e, by simp [findAll, failed, Except.map]⟩

theorem save_of_row {card : Card} {r : Record} (row : s.cards[card.id]? = some r) :
    s.save card = (r.apply card).map fun r' =>
      ({ card with version := r'.version }, { s with cards := s.cards.insert card.id r' }) := by
  simp only [save, row]
  cases r.apply card <;> rfl

theorem staged_of_row {card : Card} {r : Record} (row : s.cards[card.id]? = some r) :
    s.staged card = r.apply card := by
  simp only [staged, row]
  rfl

end Store

namespace Engine

variable {owner : OwnerId} {α β : Type}

/-! ## Steps that twins cannot tell apart -/

/-- Two engines that differ at most in the rows of owners other than `owner`. -/
structure Twins (owner : OwnerId) (e₁ e₂ : Engine Store) : Prop where
  sealer : e₁.sealer = e₂.sealer
  config : e₁.config = e₂.config
  entropy : e₁.entropy = e₂.entropy
  store : e₁.store.Twins owner e₂.store

/-- What a step of `owner`'s changes at most: `owner`'s own rows. Every row of another owner, the
index of numbers and the rest of the engine stay as they were. -/
structure Frame (owner : OwnerId) (e e' : Engine Store) : Prop where
  sealer : e'.sealer = e.sealer
  config : e'.config = e.config
  entropy : e'.entropy = e.entropy
  storeSealer : e'.store.sealer = e.store.sealer
  numbers : e'.store.numbers = e.store.numbers
  others : ∀ id, e'.store.othersRow id owner = e.store.othersRow id owner

theorem Frame.refl (e : Engine Store) : Frame owner e e :=
  ⟨rfl, rfl, rfl, rfl, rfl, fun _ => rfl⟩

theorem Frame.trans {e e' e'' : Engine Store} (first : Frame owner e e')
    (second : Frame owner e' e'') : Frame owner e e'' :=
  ⟨second.sealer.trans first.sealer, second.config.trans first.config,
    second.entropy.trans first.entropy, second.storeSealer.trans first.storeSealer,
    second.numbers.trans first.numbers, fun id => (second.others id).trans (first.others id)⟩

theorem Frame.insert {e : Engine Store} {id : CardId} {r : Record} (mine : r.owner = owner)
    (held : e.store.othersRow id owner = none) :
    Frame owner e { e with store := { e.store with cards := e.store.cards.insert id r } } :=
  ⟨rfl, rfl, rfl, rfl, rfl, Store.othersRow_insert mine held⟩

/-- A step that twins meeting `pre` cannot tell apart: it answers the same on both, leaves
twins, and changes at most `owner`'s rows on each. -/
def IsolatedWhen (owner : OwnerId) (pre : Engine Store → Prop) (m : EngineM Store α) : Prop :=
  ∀ ⦃e₁ e₂ : Engine Store⦄, Twins owner e₁ e₂ → pre e₁ → pre e₂ →
    (exec m e₁).1 = (exec m e₂).1 ∧ Twins owner (exec m e₁).2 (exec m e₂).2 ∧
      Frame owner e₁ (exec m e₁).2 ∧ Frame owner e₂ (exec m e₂).2

def Isolated (owner : OwnerId) (m : EngineM Store α) : Prop :=
  IsolatedWhen owner (fun _ => True) m

variable {pre : Engine Store → Prop}

theorem IsolatedWhen.mono {pre' : Engine Store → Prop} {m : EngineM Store α}
    (isolated : IsolatedWhen owner pre m) (weaker : ∀ e, pre' e → pre e) :
    IsolatedWhen owner pre' m :=
  fun _ _ twins p₁ p₂ => isolated twins (weaker _ p₁) (weaker _ p₂)

theorem IsolatedWhen.read {m : EngineM Store α} (answer : Engine Store → Except CardError α)
    (reads : ∀ e, exec m e = (answer e, e))
    (same : ∀ e₁ e₂, Twins owner e₁ e₂ → pre e₁ → pre e₂ →
      answer e₁ = answer e₂) :
    IsolatedWhen owner pre m := by
  intro e₁ e₂ twins p₁ p₂
  rw [reads, reads]
  exact ⟨same e₁ e₂ twins p₁ p₂, twins, .refl _, .refl _⟩

theorem IsolatedWhen.runs {m : EngineM Store α} (isolated : IsolatedWhen owner pre m)
    {e₁ e₂ : Engine Store} (twins : Twins owner e₁ e₂) (p₁ : pre e₁) (p₂ : pre e₂) :
    ∃ r e₁' e₂', exec m e₁ = (r, e₁') ∧ exec m e₂ = (r, e₂') ∧
      Twins owner e₁' e₂' ∧ Frame owner e₁ e₁' ∧ Frame owner e₂ e₂' := by
  obtain ⟨same, twins', frame₁, frame₂⟩ := isolated twins p₁ p₂
  exact ⟨(exec m e₁).1, (exec m e₁).2, (exec m e₂).2, rfl, Prod.ext same.symm rfl, twins',
    frame₁, frame₂⟩

theorem IsolatedWhen.bind (post : α → Engine Store → Prop) {m : EngineM Store α}
    {f : α → EngineM Store β} (first : IsolatedWhen owner pre m)
    (establish : ∀ e a e', e.store.KeyedById → pre e → exec m e = (.ok a, e') → post a e')
    (rest : ∀ a, IsolatedWhen owner (post a) (f a)) : IsolatedWhen owner pre (m >>= f) := by
  intro e₁ e₂ twins p₁ p₂
  obtain ⟨r, e₁', e₂', run₁, run₂, twins', frame₁, frame₂⟩ :=
    first.runs twins p₁ p₂
  rw [exec_bind, exec_bind, run₁, run₂]
  cases r with
  | error err => exact ⟨rfl, twins', frame₁, frame₂⟩
  | ok a =>
    obtain ⟨same', twins'', frame₁', frame₂'⟩ := rest a twins'
      (establish e₁ a e₁' twins.store.keyed₁ p₁ run₁)
      (establish e₂ a e₂' twins.store.keyed₂ p₂ run₂)
    exact ⟨same', twins'', frame₁.trans frame₁', frame₂.trans frame₂'⟩

theorem IsolatedWhen.bind_read (post : α → Engine Store → Prop) {m : EngineM Store α}
    {f : α → EngineM Store β} (answer : Engine Store → Except CardError α)
    (reads : ∀ e, exec m e = (answer e, e))
    (same : ∀ e₁ e₂, Twins owner e₁ e₂ → pre e₁ → pre e₂ →
      answer e₁ = answer e₂)
    (establish : ∀ e a, e.store.KeyedById → pre e → answer e = .ok a → post a e)
    (rest : ∀ a, IsolatedWhen owner (post a) (f a)) : IsolatedWhen owner pre (m >>= f) := by
  refine IsolatedWhen.bind post (.read answer reads same) ?_ rest
  intro e a e' keyed holds run
  rw [reads, Prod.mk.injEq] at run
  rw [← run.2]
  exact establish e a keyed holds run.1

theorem IsolatedWhen.bind_const {m : EngineM Store α} {f : α → EngineM Store β}
    (r : Except CardError α) (answers : ∀ e, exec m e = (r, e))
    (rest : ∀ a, IsolatedWhen owner pre (f a)) : IsolatedWhen owner pre (m >>= f) :=
  .bind_read (fun _ e => pre e) (fun _ => r) answers (fun _ _ _ _ _ => rfl)
    (fun _ _ _ holds _ => holds) rest

theorem IsolatedWhen.guard {c : Prop} [Decidable c] {x : CardError}
    {k : PUnit → EngineM Store α} (rest : ∀ u, IsolatedWhen owner pre (k u)) :
    IsolatedWhen owner pre (if c then throw x >>= k else k ()) := by
  split
  · exact .bind_const (.error x) (fun e => exec_throw x e) rest
  · exact rest ()

theorem IsolatedWhen.bind_get {f : Engine Store → EngineM Store α}
    (settings : ∀ e₁ e₂, Twins owner e₁ e₂ → f e₁ = f e₂)
    (rest : ∀ e, IsolatedWhen owner pre (f e)) : IsolatedWhen owner pre (get >>= f) := by
  intro e₁ e₂ twins p₁ p₂
  rw [exec_bind, exec_bind, exec_get, exec_get]
  dsimp only
  rw [settings e₁ e₂ twins]
  exact rest e₂ twins p₁ p₂

theorem Isolated.tryCatch {m : EngineM Store α} {handle : CardError → EngineM Store α}
    (first : Isolated owner m) (rest : ∀ err, Isolated owner (handle err)) :
    Isolated owner (tryCatch m handle) := by
  intro e₁ e₂ twins _ _
  obtain ⟨r, e₁', e₂', run₁, run₂, twins', frame₁, frame₂⟩ :=
    first.runs twins trivial trivial
  rw [exec_tryCatch, exec_tryCatch, run₁, run₂]
  cases r with
  | ok a => exact ⟨rfl, twins', frame₁, frame₂⟩
  | error err =>
    obtain ⟨same', twins'', frame₁', frame₂'⟩ := rest err twins' trivial trivial
    exact ⟨same', twins'', frame₁.trans frame₁', frame₂.trans frame₂'⟩

/-! ## The store calls of an owner -/

theorem isolated_save (card : Card) :
    IsolatedWhen owner (fun e => (e.store.ownedRow card.id owner).isSome)
      (onStore (CardRepository.save card)) := by
  intro e₁ e₂ twins owned₁ owned₂
  obtain ⟨r, row₁, row₂, mine⟩ := twins.store.row owned₁
  rw [exec_save, exec_save, Store.save_of_row row₁, Store.save_of_row row₂]
  cases applied : r.apply card with
  | error err => exact ⟨rfl, twins, .refl _, .refl _⟩
  | ok r' =>
    obtain ⟨-, key, sameOwner, -⟩ := Record.apply_version applied
    have written : r'.id = card.id := key.trans (twins.store.keyed₁ _ r row₁)
    exact ⟨rfl, ⟨twins.sealer, twins.config, twins.entropy, twins.store.insert written⟩,
      .insert (sameOwner.trans mine) (Store.othersRow_eq_none_of_owned owned₁),
      .insert (sameOwner.trans mine) (Store.othersRow_eq_none_of_owned owned₂)⟩

theorem isolated_saveBoth (first second : Card) :
    IsolatedWhen owner (fun e => (e.store.ownedRow first.id owner).isSome ∧
        (e.store.ownedRow second.id owner).isSome)
      (onStore (CardRepository.saveBoth first second)) := by
  intro e₁ e₂ twins ⟨owned₁, owned₂⟩ ⟨owned₁', owned₂'⟩
  obtain ⟨r₁, row₁, row₁', mine₁⟩ := twins.store.row owned₁
  obtain ⟨r₂, row₂, row₂', mine₂⟩ := twins.store.row owned₂
  rw [exec_saveBoth, exec_saveBoth, Store.saveBoth, Store.saveBoth, Store.staged_of_row row₁,
    Store.staged_of_row row₂, Store.staged_of_row row₁', Store.staged_of_row row₂']
  by_cases same : first.id = second.id
  · have equal : (first.id == second.id) = true := by simpa using same
    rw [if_pos equal, if_pos equal]
    exact ⟨rfl, twins, .refl _, .refl _⟩
  have differ : ¬ (first.id == second.id) = true := by simpa using same
  rw [if_neg differ, if_neg differ]
  cases applied₁ : r₁.apply first with
  | error err => exact ⟨rfl, twins, .refl _, .refl _⟩
  | ok r₁' =>
    cases applied₂ : r₂.apply second with
    | error err => exact ⟨rfl, twins, .refl _, .refl _⟩
    | ok r₂' =>
      obtain ⟨-, key₁, owner₁, -⟩ := Record.apply_version applied₁
      obtain ⟨-, key₂, owner₂, -⟩ := Record.apply_version applied₂
      have written₁ : r₁'.id = first.id := key₁.trans (twins.store.keyed₁ _ r₁ row₁)
      have written₂ : r₂'.id = second.id := key₂.trans (twins.store.keyed₁ _ r₂ row₂)
      dsimp only [bind, Except.bind]
      rw [written₁, written₂]
      -- the second row written is still `owner`'s after the first write
      have held : ∀ e : Engine Store, (e.store.ownedRow first.id owner).isSome →
          (e.store.ownedRow second.id owner).isSome →
          Frame owner e { e with store := { e.store with
            cards := (e.store.cards.insert first.id r₁').insert second.id r₂' } } := by
        intro e mineFirst mineSecond
        have heldFirst := Store.othersRow_eq_none_of_owned mineFirst
        refine (Frame.insert (owner₁.trans mine₁) heldFirst).trans
          (Frame.insert (owner₂.trans mine₂) ?_)
        rw [Store.othersRow_insert (owner₁.trans mine₁) heldFirst]
        exact Store.othersRow_eq_none_of_owned mineSecond
      exact ⟨rfl, ⟨twins.sealer, twins.config, twins.entropy,
        (twins.store.insert written₁).insert written₂⟩, held e₁ owned₁ owned₂,
        held e₂ owned₁' owned₂'⟩

theorem IsolatedWhen.pure (a : α) : IsolatedWhen owner pre (pure a : EngineM Store α) :=
  .read _ (exec_pure a) fun _ _ _ _ _ => rfl

theorem IsolatedWhen.bind_owned (id : CardId) {k : Card → EngineM Store α}
    (rest : ∀ c, IsolatedWhen owner (fun e => pre e ∧ (e.store.ownedRow c.id owner).isSome)
      (k c)) :
    IsolatedWhen owner pre (onStore (CardRepository.findByIdAndOwner id owner) >>=
      fun c? => orNotFound id c? >>= k) := by
  apply IsolatedWhen.bind_read
    (fun c? e => pre e ∧ ∀ c, c? = some c → (e.store.ownedRow c.id owner).isSome)
    (fun e => e.store.findByIdAndOwner id owner) (exec_findByIdAndOwner · id owner)
    (fun _ _ twins _ _ => twins.store.findByIdAndOwner id)
  · intro e c? keyed holds found
    exact ⟨holds, fun c same => Store.owned_of_findByIdAndOwner keyed (same ▸ found)⟩
  · intro c?
    apply IsolatedWhen.bind_read (fun c e => pre e ∧ (e.store.ownedRow c.id owner).isSome) _
      (exec_orNotFound id c?) (fun _ _ _ _ _ => rfl) _ rest
    intro e c _ ⟨holds, owned⟩ found
    cases c? with
    | none => cases found
    | some c' =>
      cases found
      exact ⟨holds, owned _ rfl⟩

/-! ## The calls of an owner -/

section Calls

variable (who : Identity)

theorem loadFor_of_user (notAdmin : who.isAdmin = false) (id : CardId) :
    (loadFor who id : EngineM Store Card) =
      onStore (CardRepository.findByIdAndOwner id who.id) >>= fun c? => orNotFound id c? := by
  simp [loadFor, notAdmin]

theorem getBalance_isolated (id : CardId) : Isolated who.id (getBalance who id) := by
  unfold getBalance
  apply IsolatedWhen.bind_owned id
  intro c
  exact .pure _

theorem getCard_isolated (notAdmin : who.isAdmin = false) (id : CardId) :
    Isolated who.id (getCard who id) := by
  unfold getCard
  rw [loadFor_of_user who notAdmin, bind_assoc]
  apply IsolatedWhen.bind_owned id
  intro c
  exact .pure _

theorem getTotalBalance_isolated : Isolated who.id (getTotalBalance who) :=
  .read _ (exec_sumByOwner · who.id) fun _ _ twins _ _ => twins.store.sumByOwner

theorem listCards_isolated (notAdmin : who.isAdmin = false) (f : Card.Filter) :
    IsolatedWhen who.id (fun e => e.store.OthersOpen who.id) (listCards who f) := by
  simp only [listCards, notAdmin, Bool.false_eq_true, if_false]
  apply IsolatedWhen.bind_read (fun _ _ => True) (fun e => e.store.findAll (f.ownedBy who.id))
    (exec_findAll · _)
    (fun _ _ twins opens₁ opens₂ => twins.store.findAll_ownedBy opens₁ opens₂ f)
    (fun _ _ _ _ _ => trivial)
  intro cards
  exact .pure _

theorem listCards_fails_of_row (f : Card.Filter) (e : Engine Store) {id : CardId} {r : Record}
    (row : e.store.cards[id]? = some r) (fails : ∀ c, r.openWith e.store.sealer ≠ .ok c) :
    ∃ err, (exec (listCards who f) e).1 = .error err := by
  obtain ⟨err, failed⟩ :=
    Store.findAll_error_of_row row fails (if who.isAdmin then f else f.ownedBy who.id)
  exact ⟨err, by simp [listCards, failed]⟩

theorem setStatus_isolated (notAdmin : who.isAdmin = false) (id : CardId) (target : Status) :
    Isolated who.id (setStatus who id target) := by
  unfold setStatus
  dsimp only
  apply IsolatedWhen.guard
  intro _
  rw [loadFor_of_user who notAdmin, bind_assoc]
  apply IsolatedWhen.bind_owned id
  intro card
  apply IsolatedWhen.bind_const _ (exec_check _)
  intro transition
  cases transition with
  | unchanged => exact .pure _
  | changed status => exact (isolated_save _).mono fun _ holds => holds.2

end Calls

theorem tryTransfer_isolated (owner : OwnerId) (source target : CardId) (amount : Amount) :
    Isolated owner (tryTransfer owner source target amount) := by
  unfold tryTransfer
  dsimp only
  apply IsolatedWhen.bind_owned source
  intro from_
  apply IsolatedWhen.bind_owned target
  intro to_
  apply IsolatedWhen.guard
  intro _
  apply IsolatedWhen.guard
  intro _
  -- the same pair write follows whether the debit succeeded or failed
  split
  all_goals
    refine IsolatedWhen.bind_const _ (fun _ => rfl) fun debited => ?_
    apply IsolatedWhen.bind_const _ (exec_check _)
    intro credited
    refine IsolatedWhen.bind (fun _ _ => True)
      ((isolated_saveBoth _ _).mono fun _ holds => ⟨holds.1.2, holds.2⟩)
      (fun _ _ _ _ _ _ => trivial) fun _ => ?_
    exact .pure ()

theorem transferWithRetries_isolated (owner : OwnerId) (source target : CardId) (amount : Amount)
    (retries : Nat) : Isolated owner (transferWithRetries owner source target amount retries) := by
  induction retries with
  | zero => exact tryTransfer_isolated owner source target amount
  | succ retries induction =>
    apply Isolated.tryCatch (tryTransfer_isolated owner source target amount)
    intro err
    split
    · exact induction
    · exact .read _ (exec_throw _) fun _ _ _ _ _ => rfl

theorem transfer_isolated (who : Identity) (source target : CardId) (amount : Decimal) :
    Isolated who.id (transfer who source target amount) := by
  unfold transfer
  dsimp only
  apply IsolatedWhen.guard
  intro _
  apply IsolatedWhen.bind_const _ (exec_check _)
  intro amount
  apply IsolatedWhen.bind_get fun _ _ twins => by rw [twins.config]
  intro e
  exact transferWithRetries_isolated _ _ _ _ _

/-- A caller without the admin role cannot tell apart two engines whose stores agree on the
caller's rows: balances, single cards, totals, status changes and transfers answer the same on
both, whatever cards they name, leave the two stores agreeing, and change at most the caller's
own rows on each, so another owner's card answers as a missing one. Listing does so only while
every other owner's row opens; a row that does not open fails the listing. -/
theorem owner_calls_isolated (who : Identity) (notAdmin : who.isAdmin = false) :
    (∀ id, Isolated who.id (getBalance who id)) ∧
    (∀ id, Isolated who.id (getCard who id)) ∧
    Isolated who.id (getTotalBalance who) ∧
    (∀ id target, Isolated who.id (setStatus who id target)) ∧
    (∀ source target amount, Isolated who.id (transfer who source target amount)) ∧
    (∀ f, IsolatedWhen who.id (fun e => e.store.OthersOpen who.id) (listCards who f)) ∧
    ∀ f (e : Engine Store) (id : CardId) (r : Record), e.store.cards[id]? = some r →
      (∀ c, r.openWith e.store.sealer ≠ .ok c) →
        ∃ err, (exec (listCards who f) e).1 = .error err :=
  ⟨getBalance_isolated who, getCard_isolated who notAdmin, getTotalBalance_isolated who,
    setStatus_isolated who notAdmin, transfer_isolated who, listCards_isolated who notAdmin,
    fun f e _ _ row fails => listCards_fails_of_row who f e row fails⟩

end Engine

open Engine in
/-- Alice, a user, asks for the balance of Bob's card, whose row does not even open: she gets the
answer she would get from the empty store. -/
theorem foreign_card_answers_as_missing :
    let alice : Identity := ⟨Uuid.ofNat 1, .user⟩
    let theirs := Card.issue (Uuid.ofNat 7) (Uuid.ofNat 2) ⟨"4111111111111111"⟩
      ⟨12, 30, by decide, by decide, by decide⟩ Balance.zero
    let eng : Engine Store :=
      { store := Store.empty ⟨#[]⟩, sealer := ⟨#[]⟩, config := {},
        entropy := Entropy.initial }
    let holding : Engine Store := { eng with store := { eng.store with
      cards := eng.store.cards.insert theirs.id (Record.ofCard theirs ⟨"AAAA"⟩) } }
    alice.isAdmin = false ∧
      (exec (getBalance alice theirs.id) holding).1 =
        (exec (getBalance alice theirs.id) eng).1 := by
  intro alice theirs eng holding
  have bobs : Uuid.ofNat 2 ≠ Uuid.ofNat 1 := by decide
  have twins : Twins alice.id holding eng := by
    refine ⟨rfl, rfl, rfl, rfl, fun id => ?_, fun id r found => ?_, fun id r found => ?_⟩
    · by_cases same : theirs.id = id
      · simp [holding, eng, theirs, alice, Store.ownedRow, Store.empty, ← same, Record.ofCard,
          Card.issue, bobs]
      · simp [holding, eng, Store.ownedRow, Store.empty, same]
    · by_cases same : theirs.id = id
      · simp only [holding, eng, Store.empty, ← same, Std.HashMap.getElem?_insert_self,
          Option.some.injEq] at found
        rw [← found, ← same]
        rfl
      · simp [holding, eng, Store.empty, same] at found
    · simp [eng, Store.empty] at found
  exact ⟨rfl, ((owner_calls_isolated alice rfl).1 theirs.id twins trivial trivial).1⟩

end CardLedger
