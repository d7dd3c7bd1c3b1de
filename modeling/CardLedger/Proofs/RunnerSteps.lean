import Mathlib
import CardLedger.Proofs.Lifecycle
import CardLedger.Script.Runner

/-!
# What one command does to a script runner

A command of a script first registers its user's owner label, then checks its columns and card
references, and makes at most one call of the engine. `ScriptRunner.stepped_run` reads off what
that leaves (`ScriptRunner.Stepped`): the owner labels only grow, the engine keeps its key and a
consistent store, a command that fails leaves the card labels and the store as they were, and
one of four things happened (`ScriptRunner.Effect`): nothing, a rewrite of rows that keeps every
card with its number and owner, the issue of a new card under a new label, or the deletion of a
stored card together with every label bound to it.
-/

namespace CardLedger

/-- The same cards, each with the same number and owner, under the same key: what status changes
and transfers leave of the rows. -/
def Store.Retouched (s s' : Store) : Prop :=
  s'.sealer = s.sealer ∧ ∀ id : CardId, (s'.cards[id]?).map (fun r : Record => (r.number, r.owner)) =
    (s.cards[id]?).map (fun r : Record => (r.number, r.owner))

namespace Store.Retouched

theorem trans {s₁ s₂ s₃ : Store} (first : s₁.Retouched s₂) (second : s₂.Retouched s₃) :
    s₁.Retouched s₃ :=
  ⟨second.1.trans first.1, fun id => (second.2 id).trans (first.2 id)⟩

theorem row {s s' : Store} (rows : s.Retouched s') {id : CardId} {r' : Record}
    (after : s'.cards[id]? = some r') :
    ∃ r, s.cards[id]? = some r ∧ r'.number = r.number ∧ r'.owner = r.owner := by
  have same := rows.2 id
  rw [after] at same
  cases before : s.cards[id]? with
  | none => simp [before] at same
  | some r =>
    simp only [before, Option.map_some, Option.some.injEq, Prod.mk.injEq] at same
    exact ⟨r, rfl, same.1, same.2⟩

theorem isSome_eq {s s' : Store} (rows : s.Retouched s') (id : CardId) :
    (s'.cards[id]?).isSome = (s.cards[id]?).isSome := by
  have same := congrArg Option.isSome (rows.2 id)
  simpa using same

theorem insert {s : Store} {id : CardId} {r r' : Record} (row : s.cards[id]? = some r)
    (number : r'.number = r.number) (owner : r'.owner = r.owner) :
    s.Retouched { s with cards := s.cards.insert id r' } := by
  refine ⟨rfl, fun x => ?_⟩
  simp only [Std.HashMap.getElem?_insert, beq_iff_eq]
  split
  · rename_i here
    subst here
    rw [row]
    simp [number, owner]
  · rfl

end Store.Retouched

theorem Engine.consistent_exec_of_run {α : Type} (c : Call) (f : α → Reply) (m : EngineM Store α)
    (runs : c.run = f <$> m) {eng : Engine Store} (consistent : eng.store.Consistent) :
    (Engine.exec m eng).2.store.Consistent := by
  rw [← Call.exec_map_store f m eng, ← runs]
  exact Call.consistent_exec c consistent

namespace ScriptRunner

variable {σ : Type}

/-! ## Runner steps -/

def exec {α : Type} (m : RunM σ α) (r : ScriptRunner σ) : Outcome α × ScriptRunner σ :=
  (m.run).run r

theorem run_eq [CardRepository σ] (r : ScriptRunner σ) (c : Command) : r.run c = exec (apply c) r := rfl

theorem exec_bind {α β : Type} (x : RunM σ α) (f : α → RunM σ β) (r : ScriptRunner σ) :
    exec (x >>= f) r = match exec x r with
      | (.ok a, r') => exec (f a) r'
      | (.error e, r') => (.error e, r') := by
  simp only [exec, ExceptT.run_bind, StateT.run_bind]
  rcases (x.run).run r with ⟨_ | _, r'⟩ <;> rfl

@[simp] theorem exec_pure {α : Type} (a : α) (r : ScriptRunner σ) :
    exec (pure a : RunM σ α) r = (.ok a, r) := rfl

@[simp] theorem exec_throw {α : Type} (e : CardError) (r : ScriptRunner σ) :
    exec (throw e : RunM σ α) r = (.error e, r) := rfl

@[simp] theorem exec_get (r : ScriptRunner σ) :
    exec (get : RunM σ (ScriptRunner σ)) r = (.ok r, r) := rfl

@[simp] theorem exec_set (r' r : ScriptRunner σ) :
    exec (set r' : RunM σ PUnit) r = (.ok ⟨⟩, r') := rfl

@[simp] theorem exec_modify (f : ScriptRunner σ → ScriptRunner σ) (r : ScriptRunner σ) :
    exec (modify f : RunM σ Unit) r = (.ok (), f r) := rfl

@[simp] theorem exec_need {α : Type} (column : String) (o : Option α) (r : ScriptRunner σ) :
    exec (need column o) r = (match o with
      | some a => .ok a
      | none => .error (missing column), r) := by
  cases o <;> rfl

@[simp] theorem exec_check {α : Type} (o : Outcome α) (r : ScriptRunner σ) :
    exec (check o : RunM σ α) r = (o, r) := by
  cases o <;> rfl

theorem exec_onEngine {α : Type} (m : EngineM σ α) (r : ScriptRunner σ) :
    exec (onEngine m) r =
      ((Engine.exec m r.engine).1, { r with engine := (Engine.exec m r.engine).2 }) := by
  unfold onEngine
  rw [exec_bind, exec_get]
  dsimp only
  rw [← Engine.exec]
  rcases Engine.exec m r.engine with ⟨_ | _, eng'⟩
  · simp [exec_bind]
  · simp
    rfl

theorem exec_card_snd (ref : String) (r : ScriptRunner σ) : (exec (card ref) r).2 = r := by
  unfold card
  simp only [exec_bind, exec_get]
  split
  · rfl
  · split <;> rfl

def OwnersApart (r : ScriptRunner σ) : Prop := (r.owners.map ownerIdOf).Nodup

theorem exec_owner [CardRepository σ] (label : String) (r : ScriptRunner σ) :
    ∃ owners, exec (owner label) r = (.ok (ownerIdOf label), { r with owners }) ∧
      r.owners <+: owners ∧ (∃ l ∈ owners, ownerIdOf l = ownerIdOf label) ∧
      (r.OwnersApart → ({ r with owners } : ScriptRunner σ).OwnersApart) := by
  cases known : r.owners.any (ownerIdOf · == ownerIdOf label)
  · -- the label's identifier is none of the registered ones
    have fresh : ownerIdOf label ∉ r.owners.map ownerIdOf := by
      simpa using known
    refine ⟨r.owners ++ [label], ?_, List.prefix_append _ _, ⟨label, by simp, rfl⟩,
      fun apart => ?_⟩
    · simp only [owner, exec_bind, exec_get, known, Bool.false_eq_true, ↓reduceIte]
      rfl
    · show ((r.owners ++ [label]).map ownerIdOf).Nodup
      rw [List.map_append, List.map_singleton]
      exact apart.append (List.nodup_singleton _) (List.disjoint_singleton.mpr fresh)
  · obtain ⟨l, member, same⟩ := List.any_eq_true.mp known
    refine ⟨r.owners, ?_, List.prefix_refl _, ⟨l, member, beq_iff_eq.mp same⟩, id⟩
    simp only [owner, exec_bind, exec_get, known, ↓reduceIte, exec_pure]

/-! ## What a command leaves -/

/-- What one command may do to the card labels and the rows of the store. -/
inductive Effect (r r' : ScriptRunner Store) : Prop
  /-- Neither the labels nor the store change. -/
  | kept (cards : r'.cards = r.cards) (store : r'.engine.store = r.engine.store)
  /-- The labels stay, and every card stays with its number and owner. -/
  | retouched (cards : r'.cards = r.cards) (rows : r.engine.store.Retouched r'.engine.store)
  /-- A card new to the store is issued to a registered owner, under a number the engine drew,
  and bound to a label new to the runner. -/
  | issued {label : String} {id : CardId} {owner : String} {number : CardNumber}
      {expiry : Expiry} {opening : Balance} {blob : Blob}
      (fresh : label ∉ r.cards.map (·.1)) (absent : r.engine.store.cards[id]? = none)
      (registered : owner ∈ r'.owners) (drawn : r.engine.sealer.Drawn number blob)
      (cards : r'.cards = r.cards ++ [(label, id)])
      (rows : r'.engine.store.cards = r.engine.store.cards.insert id
        (Record.ofCard (Card.issue id (ownerIdOf owner) number expiry opening) blob))
      (sealer : r'.engine.store.sealer = r.engine.store.sealer)
  /-- A stored card is deleted, and so is every label bound to it. -/
  | deleted {id : CardId} {row : Record} (stored : r.engine.store.cards[id]? = some row)
      (cards : r'.cards = r.cards.filter (·.2 != id))
      (rows : r'.engine.store.cards = r.engine.store.cards.erase id)
      (sealer : r'.engine.store.sealer = r.engine.store.sealer)

/-- A command that took the runner from `r` to `r'` with result `o`. -/
structure Stepped (r r' : ScriptRunner Store) (o : Outcome Unit) : Prop where
  sealer : r'.engine.sealer = r.engine.sealer
  owners : r.owners <+: r'.owners
  apart : r.OwnersApart → r'.OwnersApart
  consistent : r.engine.store.Consistent → r'.engine.store.Consistent
  failed : ∀ e, o = .error e → r'.cards = r.cards ∧ r'.engine.store = r.engine.store
  effect : Effect r r'

namespace Stepped

variable {r r' : ScriptRunner Store} {o : Outcome Unit}

theorem apart_of_owners (owners : r'.owners = r.owners) (apart : r.OwnersApart) :
    r'.OwnersApart := by
  unfold OwnersApart
  rw [owners]
  exact apart

theorem keep (sealer : r'.engine.sealer = r.engine.sealer) (owners : r'.owners = r.owners)
    (cards : r'.cards = r.cards) (store : r'.engine.store = r.engine.store) : Stepped r r' o :=
  ⟨sealer, owners ▸ List.prefix_refl _, apart_of_owners owners,
    fun consistent => store ▸ consistent, fun _ _ => ⟨cards, store⟩, .kept cards store⟩

theorem unchanged (r : ScriptRunner Store) (o : Outcome Unit) : Stepped r r o :=
  keep rfl rfl rfl rfl

theorem of_ok (sealer : r'.engine.sealer = r.engine.sealer) (owners : r'.owners = r.owners)
    (consistent : r.engine.store.Consistent → r'.engine.store.Consistent)
    (effect : Effect r r') : Stepped r r' (.ok ()) :=
  ⟨sealer, owners ▸ List.prefix_refl _, apart_of_owners owners, consistent,
    fun _ failed => (by cases failed), effect⟩

theorem of_registered {owners : List String} (grown : r.owners <+: owners)
    (apart : r.OwnersApart → ({ r with owners } : ScriptRunner Store).OwnersApart)
    (stepped : Stepped { r with owners } r' o) : Stepped r r' o := by
  obtain ⟨sealer, owners', apart', consistent, failed, effect⟩ := stepped
  refine ⟨sealer, grown.trans owners', apart' ∘ apart, consistent, failed, ?_⟩
  cases effect with
  | kept cards store => exact .kept cards store
  | retouched cards rows => exact .retouched cards rows
  | issued fresh absent registered drawn cards rows sealer =>
    exact .issued fresh absent registered drawn cards rows sealer
  | deleted stored cards rows sealer => exact .deleted stored cards rows sealer

theorem bind_read {α : Type} {x : RunM Store α} {f : α → RunM Store Unit}
    (reads : (exec x r).2 = r)
    (next : ∀ a, (exec x r).1 = .ok a → Stepped r (exec (f a) r).2 (exec (f a) r).1) :
    Stepped r (exec (x >>= f) r).2 (exec (x >>= f) r).1 := by
  rw [exec_bind]
  rcases ran : exec x r with ⟨e | a, r₁⟩ <;> rw [ran] at reads <;> subst reads
  · exact unchanged _ _
  · exact next a (by rw [ran])

theorem bind_owner {label : String} {f : OwnerId → RunM Store Unit}
    (next : ∀ owners, r.owners <+: owners → (∃ l ∈ owners, ownerIdOf l = ownerIdOf label) →
      Stepped { r with owners } (exec (f (ownerIdOf label)) { r with owners }).2
        (exec (f (ownerIdOf label)) { r with owners }).1) :
    Stepped r (exec (owner label >>= f) r).2 (exec (owner label >>= f) r).1 := by
  obtain ⟨owners, registered, grown, named, apart⟩ := exec_owner label r
  rw [exec_bind, registered]
  exact of_registered grown apart (next owners grown named)

end Stepped

theorem need_reads {α : Type} (column : String) (o : Option α) (r : ScriptRunner Store) :
    (exec (need column o) r).2 = r := by
  cases o <;> rfl

/-! ## One command -/

variable {r : ScriptRunner Store}

theorem stepped_setStatus (keyed : r.engine.store.KeyedById) (who : Identity) (id : CardId)
    (target : Status) :
    Stepped r (exec (onEngine (Engine.setStatus who id target) >>= fun _ => pure ()) r).2
      (exec (onEngine (Engine.setStatus who id target) >>= fun _ => pure ()) r).1 := by
  have consistent := fun (h : r.engine.store.Consistent) =>
    Engine.consistent_exec_of_run (.setStatus who id target) _ _ rfl h
  rw [exec_bind, exec_onEngine]
  rcases Engine.exec_setStatus_cases r.engine keyed who id target with
    ⟨e, -, failed⟩ | ⟨card, kept⟩ | ⟨row, status, card, stored, -, written⟩
  · rw [failed]
    exact .unchanged _ _
  · rw [kept]
    exact .unchanged _ _
  · -- the row of the card is written with a new status, keeping its number and owner
    rw [written] at consistent ⊢
    exact .of_ok rfl rfl consistent
      (.retouched rfl (Store.Retouched.insert stored rfl rfl))

theorem stepped_transfer (keyed : r.engine.store.KeyedById) (who : Identity)
    (source target : CardId) (amount : Decimal) :
    Stepped r (exec (onEngine (Engine.transfer who source target amount)) r).2
      (exec (onEngine (Engine.transfer who source target amount)) r).1 := by
  have consistent := fun (h : r.engine.store.Consistent) =>
    Engine.consistent_exec_of_run (.transfer who source target amount) _ _ rfl h
  rw [exec_onEngine]
  rcases Engine.exec_transfer_cases r.engine keyed who source target amount with
    ⟨e, -, failed⟩ | ⟨a, s', ⟨r₁, r₂, b₁, b₂, distinct, row₁, row₂, -, -, -, -, rfl⟩, ran⟩
  · rw [failed]
    exact .unchanged _ _
  · -- the two rows are written with new balances, keeping their numbers and owners
    rw [ran] at consistent ⊢
    let debited : Store :=
      { r.engine.store with cards := r.engine.store.cards.insert source (r₁.rebalanced b₁) }
    have first : r.engine.store.Retouched debited := Store.Retouched.insert row₁ rfl rfl
    have row₂' : debited.cards[target]? = some r₂ := by
      simp [debited, Std.HashMap.getElem?_insert, distinct, row₂]
    have second : debited.Retouched
        { debited with cards := debited.cards.insert target (r₂.rebalanced b₂) } :=
      Store.Retouched.insert row₂' rfl rfl
    exact .of_ok rfl rfl consistent (.retouched rfl (first.trans second))

theorem stepped_deleteCard (who : Identity) (id : CardId) :
    Stepped r (exec (onEngine (Engine.deleteCard who id) >>= fun _ =>
        modify fun r => { r with cards := r.cards.filter (·.2 != id) }) r).2
      (exec (onEngine (Engine.deleteCard who id) >>= fun _ =>
        modify fun r => { r with cards := r.cards.filter (·.2 != id) }) r).1 := by
  have consistent := fun (h : r.engine.store.Consistent) =>
    Engine.consistent_exec_of_run (.deleteCard who id) _ _ rfl h
  rw [exec_bind, exec_onEngine]
  rcases Engine.exec_deleteCard_cases r.engine who id with ⟨e, failed⟩ | ⟨row, stored, removed⟩
  · rw [failed]
    exact .unchanged _ _
  · rw [removed] at consistent ⊢
    exact .of_ok rfl rfl consistent (.deleted stored rfl rfl rfl)

theorem stepped_issueCard {label : String} (fresh : label ∉ r.cards.map (·.1)) (who : Identity)
    {owner : String} (registered : owner ∈ r.owners) (expiry : Expiry) (opening : Balance) :
    Stepped r (exec (onEngine (Engine.issueCard who (ownerIdOf owner) expiry opening) >>=
        fun issued => modify fun r =>
          { r with cards := r.cards ++ [(label, issued.id)],
                   issued := r.issued ++ [(label, issued.id)] }) r).2
      (exec (onEngine (Engine.issueCard who (ownerIdOf owner) expiry opening) >>=
        fun issued => modify fun r =>
          { r with cards := r.cards ++ [(label, issued.id)],
                   issued := r.issued ++ [(label, issued.id)] }) r).1 := by
  have consistent := fun (h : r.engine.store.Consistent) =>
    Engine.consistent_exec_of_run (.issueCard who (ownerIdOf owner) expiry opening) _ _ rfl h
  rw [exec_bind, exec_onEngine]
  obtain ⟨entropy, ⟨e, failed⟩ | ⟨id, number, blob, c, s', drawn, inserted, issued⟩⟩ :=
    Engine.exec_issueCard_cases r.engine who (ownerIdOf owner) expiry opening
  · -- a failed issue may have drawn from the entropy, but it wrote nothing
    rw [failed]
    exact .keep rfl rfl rfl rfl
  · -- the new row sits under the drawn identifier, which no row held
    rw [issued] at consistent ⊢
    obtain ⟨-, absent, rfl, rfl⟩ := Store.insert_eq_ok inserted
    exact .of_ok rfl rfl consistent
      (.issued fresh (Std.HashMap.getElem?_eq_none_of_contains_eq_false absent) registered drawn
        rfl rfl rfl)

theorem stepped_run (r : ScriptRunner Store) (c : Command) (keyed : r.engine.store.KeyedById) :
    Stepped r (r.run c).2 (r.run c).1 := by
  rw [run_eq]
  unfold apply
  refine Stepped.bind_owner fun owners _ _ => ?_
  -- registering the user leaves the store
  replace keyed : ({ r with owners } : ScriptRunner Store).engine.store.KeyedById := keyed
  obtain ⟨op, user, role, ref, toRef, ownerLabel, amount, expiry⟩ := c
  cases op with
  | issue =>
    dsimp only
    refine Stepped.bind_read rfl fun cur got => ?_
    cases got
    split
    · rw [exec_bind]
      exact .unchanged _ _
    · rename_i unused
      have fresh : ref ∉ r.cards.map (·.1) := by
        intro bound
        obtain ⟨p, member, rfl⟩ := List.mem_map.mp bound
        exact unused (List.lookup_isSome_iff.mpr ⟨p, member, beq_self_eq_true _⟩)
      refine Stepped.bind_read (need_reads _ _ _) fun label _ => ?_
      -- the card goes to the registered label that stands for the owner's identifier
      refine Stepped.bind_owner fun owners' _ ⟨l, registered, same⟩ => ?_
      rw [← same]
      refine Stepped.bind_read (need_reads _ _ _) fun text _ => ?_
      refine Stepped.bind_read (by simp) fun expiry _ => ?_
      -- the opening balance is read, and the card issued to the owner just registered
      cases amount with
      | none =>
        refine Stepped.bind_read rfl fun opening _ => ?_
        apply stepped_issueCard
        · exact fresh
        · exact registered
      | some d =>
        refine Stepped.bind_read (by simp) fun opening _ => ?_
        apply stepped_issueCard
        · exact fresh
        · exact registered
  | block =>
    exact Stepped.bind_read (exec_card_snd _ _) fun id _ => stepped_setStatus keyed _ id .blocked
  | activate =>
    exact Stepped.bind_read (exec_card_snd _ _) fun id _ => stepped_setStatus keyed _ id .active
  | transfer =>
    exact Stepped.bind_read (exec_card_snd _ _) fun source _ =>
      Stepped.bind_read (need_reads _ _ _) fun toRef _ =>
      Stepped.bind_read (exec_card_snd _ _) fun target _ =>
      Stepped.bind_read (need_reads _ _ _) fun amount _ =>
      stepped_transfer keyed _ source target amount
  | delete =>
    exact Stepped.bind_read (exec_card_snd _ _) fun id _ => stepped_deleteCard _ id

end ScriptRunner

end CardLedger
