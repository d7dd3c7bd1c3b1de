import Mathlib
import CardLedger.Proofs.EngineEffects
import CardLedger.Proofs.Interleaving
import CardLedger.Proofs.OptimisticWrites
import CardLedger.Proofs.OwnerIsolation

/-!
# The card lifecycle over whole runs

`Call.KeepsLifecycle c s s'` says what one call `c` may do to the stored cards when it takes the
store from `s` to `s'`: no card becomes expired; a card that stays stored changes status only
through a status change whose `Status.transition` gave that status, and becomes active only
through an admin's change of a blocked card; new cards are issued ones, active; everything but
a status change keeps every status; and a stored card's balance changes only through a transfer
between two cards that are active before and after the write.

Every call keeps the lifecycle on every store whose rows sit under their own identifiers
(`Call.keepsLifecycle`), read off the one write it makes (`Engine.exec_setStatus_cases` and
the others). So every step of a run of calls one at a time keeps it, and so does every step of
an interleaving of calls: a step of the scheduler either leaves the store or is the whole
effect of one call on the store it finds (`World.Inv.store_apply`), since the calls that
returned, run one at a time, end on the current store. Main statement:
`lifecycle_kept_by_every_step`.

The rules are per step. Over two steps an expired card can become active again: an admin may
block it, and then activate the blocked card (`expired_card_reactivated`).
-/

namespace CardLedger

namespace Status

theorem transition_changed_active {current target : Status} {role : Role}
    (h : transition current target role = .ok (.changed .active)) :
    current = .blocked ∧ target = .active ∧ role = .admin := by
  cases current <;> cases target <;> cases role <;> simp_all [transition]

theorem transition_never_expires (current target : Status) (role : Role) :
    transition current target role ≠ .ok (.changed .expired) := by
  cases current <;> cases target <;> cases role <;> simp [transition]

end Status

namespace Script

theorem consistent_run {α : Type} (p : Script α) {s : Store} (consistent : s.Consistent) :
    (p.run s).2.Consistent := by
  induction p generalizing s with
  | done r => exact consistent
  | call c next ih =>
    have step : (c.perform s).2.Consistent := by
      rw [Request.perform_snd]
      exact StoreCall.consistent_result _ consistent
    rw [run_call]
    exact ih _ step
  | lock g next ih => exact ih consistent

end Script

namespace Call

/-- What one call may do to the stored cards under the lifecycle rules, taking the store from
`s` to `s'`. -/
structure KeepsLifecycle (c : Call) (s s' : Store) : Prop where
  /-- No call sets a card to expired: an expired card was stored, expired, before. -/
  neverExpires : ∀ (id : CardId) (r' : Record), s'.cards[id]? = some r' →
    r'.status = .expired → ∃ r, s.cards[id]? = some r ∧ r.status = .expired
  /-- A card that stays stored changes status only by a status change whose transition gave
  the new status. -/
  changedByTransition : ∀ (id : CardId) (r r' : Record), s.cards[id]? = some r →
    s'.cards[id]? = some r' → r'.status ≠ r.status → ∃ who target, c = .setStatus who id target ∧
      r.status.transition target who.role = .ok (.changed r'.status)
  /-- A card becomes active only by an admin's change of a blocked card. -/
  activatedByAdmin : ∀ (id : CardId) (r r' : Record), s.cards[id]? = some r →
    s'.cards[id]? = some r' → r.status ≠ .active → r'.status = .active →
      r.status = .blocked ∧ ∃ who, c = .setStatus who id .active ∧ who.role = .admin
  /-- A new card is an issued one, active. -/
  issuedActive : ∀ (id : CardId) (r' : Record), s.cards[id]? = none →
    s'.cards[id]? = some r' →
      (∃ who owner expiry opening, c = .issueCard who owner expiry opening) ∧ r'.status = .active
  /-- Every call but a status change keeps the status of every card that stays stored. -/
  statusKept : ∀ (id : CardId) (r r' : Record), s.cards[id]? = some r →
    s'.cards[id]? = some r' → (∀ who id' target, c ≠ .setStatus who id' target) →
      r'.status = r.status
  /-- A card that stays stored changes balance only by a transfer it takes part in, between two
  cards active before and after the write. -/
  balanceByTransfer : ∀ (id : CardId) (r r' : Record), s.cards[id]? = some r →
    s'.cards[id]? = some r' → r'.balance ≠ r.balance → ∃ who source target amount,
      c = .transfer who source target amount ∧ (id = source ∨ id = target) ∧
      ∀ x ∈ [source, target], ∃ a a', s.cards[x]? = some a ∧ s'.cards[x]? = some a' ∧
        a.status = .active ∧ a'.status = .active

namespace KeepsLifecycle

variable {c : Call} {s s' : Store}

theorem of_changes
    (changed : ∀ (id : CardId) (r r' : Record), s.cards[id]? = some r →
      s'.cards[id]? = some r' → r'.status ≠ r.status → ∃ who target, c = .setStatus who id target ∧
        r.status.transition target who.role = .ok (.changed r'.status))
    (issued : ∀ (id : CardId) (r' : Record), s.cards[id]? = none → s'.cards[id]? = some r' →
      (∃ who owner expiry opening, c = .issueCard who owner expiry opening) ∧
        r'.status = .active)
    (moved : ∀ (id : CardId) (r r' : Record), s.cards[id]? = some r →
      s'.cards[id]? = some r' → r'.balance ≠ r.balance → ∃ who source target amount,
        c = .transfer who source target amount ∧ (id = source ∨ id = target) ∧
        ∀ x ∈ [source, target], ∃ a a', s.cards[x]? = some a ∧ s'.cards[x]? = some a' ∧
          a.status = .active ∧ a'.status = .active) :
    KeepsLifecycle c s s' where
  neverExpires := by
    intro id r' after expired
    cases before : s.cards[id]? with
    | none =>
      have active := (issued id r' before after).2
      rw [expired] at active
      cases active
    | some r =>
      refine ⟨r, rfl, ?_⟩
      by_contra differs
      obtain ⟨who, target, -, transition⟩ :=
        changed id r r' before after (by rw [expired]; exact Ne.symm differs)
      rw [expired] at transition
      exact Status.transition_never_expires _ _ _ transition
  changedByTransition := changed
  activatedByAdmin := by
    intro id r r' before after inactive active
    obtain ⟨who, target, rfl, transition⟩ :=
      changed id r r' before after (by rw [active]; exact Ne.symm inactive)
    rw [active] at transition
    obtain ⟨blocked, rfl, admin⟩ := Status.transition_changed_active transition
    exact ⟨blocked, who, rfl, admin⟩
  issuedActive := issued
  statusKept := by
    intro id r r' before after other
    by_contra differs
    obtain ⟨who, target, same, -⟩ := changed id r r' before after differs
    exact other who id target same
  balanceByTransfer := moved

theorem refl (c : Call) (s : Store) : KeepsLifecycle c s s := by
  refine of_changes (fun x a a' before after differs => ?_) (fun x a' before after => ?_)
    (fun x a a' before after differs => ?_)
  all_goals
    rw [before] at after
    cases after
  all_goals exact absurd rfl differs

variable {who : Identity} {id : CardId} {r : Record}

theorem setStatus_write {target status : Status} (row : s.cards[id]? = some r)
    (allowed : r.status.transition target who.role = .ok (.changed status)) :
    KeepsLifecycle (.setStatus who id target) s
      { s with cards := s.cards.insert id (r.withStatus status) } := by
  refine of_changes (fun x a a' before after differs => ?_) (fun x a' before after => ?_)
    (fun x a a' before after differs => ?_)
  all_goals simp only [Std.HashMap.getElem?_insert, beq_iff_eq] at after
  · split at after
    · rename_i here
      subst here
      rw [row] at before
      cases before
      cases after
      exact ⟨who, target, rfl, allowed⟩
    · rw [before] at after
      cases after
      exact absurd rfl differs
  · split at after
    · rename_i here
      subst here
      rw [row] at before
      cases before
    · rw [before] at after
      cases after
  · -- the rewritten row keeps its balance
    split at after
    · rename_i here
      subst here
      rw [row] at before
      cases before
      cases after
      exact absurd rfl differs
    · rw [before] at after
      cases after
      exact absurd rfl differs

theorem transfer_write {source target : CardId} {amount : Decimal} {r₁ r₂ : Record}
    {b₁ b₂ : Balance} (distinct : source ≠ target) (row₁ : s.cards[source]? = some r₁)
    (row₂ : s.cards[target]? = some r₂) (active₁ : r₁.status = .active)
    (active₂ : r₂.status = .active) :
    KeepsLifecycle (.transfer who source target amount) s { s with
      cards := (s.cards.insert source (r₁.rebalanced b₁)).insert target (r₂.rebalanced b₂) } := by
  -- both rows are active before and after the write
  have bothActive : ∀ x ∈ [source, target], ∃ a a', s.cards[x]? = some a ∧
      ((s.cards.insert source (r₁.rebalanced b₁)).insert target (r₂.rebalanced b₂))[x]? =
        some a' ∧ a.status = .active ∧ a'.status = .active := by
    intro x mem
    rcases List.mem_pair.mp mem with rfl | rfl
    · refine ⟨r₁, r₁.rebalanced b₁, row₁, ?_, active₁, active₁⟩
      simp only [Std.HashMap.getElem?_insert, beq_iff_eq, Ne.symm distinct, if_false, if_true]
    · exact ⟨r₂, r₂.rebalanced b₂, row₂, by simp, active₂, active₂⟩
  refine of_changes (fun x a a' before after differs => ?_) (fun x a' before after => ?_)
    (fun x a a' before after _ => ?_)
  all_goals simp only [Std.HashMap.getElem?_insert, beq_iff_eq] at after
  · -- a rebalanced row keeps its status
    split_ifs at after with here₂ here₁
    · subst here₂
      rw [row₂] at before
      cases before
      cases after
      exact absurd rfl differs
    · subst here₁
      rw [row₁] at before
      cases before
      cases after
      exact absurd rfl differs
    · rw [before] at after
      cases after
      exact absurd rfl differs
  · split_ifs at after with here₂ here₁
    · subst here₂
      rw [row₂] at before
      cases before
    · subst here₁
      rw [row₁] at before
      cases before
    · rw [before] at after
      cases after
  · split_ifs at after with here₂ here₁
    · exact ⟨who, source, target, amount, rfl, .inr here₂.symm, bothActive⟩
    · exact ⟨who, source, target, amount, rfl, .inl here₁.symm, bothActive⟩
    · rw [before] at after
      cases after
      contradiction

theorem delete_write (c : Call) (blob : Blob) :
    KeepsLifecycle c s { s with cards := s.cards.erase id, numbers := s.numbers.erase blob } := by
  refine of_changes (fun x a a' before after differs => ?_) (fun x a' before after => ?_)
    (fun x a a' before after differs => ?_)
  all_goals
    simp only [Std.HashMap.getElem?_erase, beq_iff_eq] at after
    split at after
    · cases after
    rw [before] at after
    cases after
  all_goals exact absurd rfl differs

theorem issue_write {owner : OwnerId} {expiry : Expiry} {opening : Balance} {number : CardNumber}
    {blob : Blob} {c : Card}
    (issued : s.insert (Card.issue id owner number expiry opening) blob = .ok (c, s')) :
    KeepsLifecycle (.issueCard who owner expiry opening) s s' := by
  obtain ⟨-, fresh, -, rfl⟩ := Store.insert_eq_ok issued
  have absent : s.cards[id]? = none := Std.HashMap.getElem?_eq_none_of_contains_eq_false fresh
  refine of_changes (fun x a a' before after differs => ?_) (fun x a' before after => ?_)
    (fun x a a' before after differs => ?_)
  all_goals simp only [Std.HashMap.getElem?_insert, beq_iff_eq, Card.issue] at after
  · split at after
    · rename_i here
      subst here
      rw [absent] at before
      cases before
    · rw [before] at after
      cases after
      exact absurd rfl differs
  · -- the new row is the issued card's, active
    split at after
    · cases after
      exact ⟨⟨who, owner, expiry, opening, rfl⟩, rfl⟩
    · rw [before] at after
      cases after
  · split at after
    · rename_i here
      subst here
      rw [absent] at before
      cases before
    · rw [before] at after
      cases after
      exact absurd rfl differs

end KeepsLifecycle

theorem exec_map_store {α β : Type} (f : α → β) (x : EngineM Store α) (eng : Engine Store) :
    (Engine.exec (f <$> x) eng).2 = (Engine.exec x eng).2 := by
  rw [Engine.exec_map]
  rcases Engine.exec x eng with ⟨_ | _, _⟩ <;> rfl

theorem keepsLifecycle (c : Call) (eng : Engine Store) (keyed : eng.store.KeyedById) :
    KeepsLifecycle c eng.store (Engine.exec c.run eng).2.store := by
  cases c with
  | transfer who source target amount =>
    rw [run, exec_map_store]
    rcases Engine.exec_transfer_cases eng keyed who source target amount with
      ⟨e, -, failed⟩ |
        ⟨a, s', ⟨r₁, r₂, b₁, b₂, distinct, row₁, row₂, active₁, active₂, -, -, rfl⟩, ran⟩
    · rw [failed]
      exact .refl _ _
    · rw [ran]
      exact .transfer_write distinct row₁ row₂ active₁ active₂
  | setStatus who id target =>
    rw [run, exec_map_store]
    rcases Engine.exec_setStatus_cases eng keyed who id target with
      ⟨e, -, failed⟩ | ⟨card, kept⟩ | ⟨r, status, card, row, allowed, written⟩
    · rw [failed]
      exact .refl _ _
    · rw [kept]
      exact .refl _ _
    · rw [written]
      exact .setStatus_write row allowed
  | deleteCard who id =>
    rw [run, exec_map_store]
    rcases Engine.exec_deleteCard_cases eng who id with ⟨e, failed⟩ | ⟨r, -, removed⟩
    · rw [failed]
      exact .refl _ _
    · rw [removed]
      exact .delete_write _ _
  | issueCard who owner expiry opening =>
    rw [run, exec_map_store]
    obtain ⟨entropy, ⟨e, failed⟩ | ⟨id, number, blob, c, s', -, inserted, issued⟩⟩ :=
      Engine.exec_issueCard_cases eng who owner expiry opening
    · rw [failed]
      exact .refl _ _
    · rw [issued]
      exact .issue_write inserted
  | getBalance who id =>
    rw [run, exec_map_store, Engine.exec_getBalance_keeps]
    exact .refl _ _
  | getTotalBalance who =>
    rw [run, exec_map_store, Engine.exec_getTotalBalance_keeps]
    exact .refl _ _
  | listCards who filter =>
    rw [run, exec_map_store, Engine.exec_listCards_keeps]
    exact .refl _ _

theorem consistent_exec (c : Call) {eng : Engine Store} (consistent : eng.store.Consistent) :
    (Engine.exec c.run eng).2.store.Consistent := by
  rw [(c.agrees eng).2]
  exact Script.consistent_run _ consistent

end Call

namespace Job

variable (config : Config) (sealer : Sealer)

theorem consistent_serial (jobs : List Job) {s : Store} (consistent : s.Consistent) :
    (serial config sealer jobs s).2.Consistent := by
  induction jobs generalizing s with
  | nil => exact consistent
  | cons j rest ih => exact ih (Call.consistent_exec j.call consistent)

theorem serial_keepsLifecycle {s : Store} (consistent : s.Consistent) (ran : List Job) (j : Job) :
    Call.KeepsLifecycle j.call (serial config sealer ran s).2
      (serial config sealer (ran ++ [j]) s).2 := by
  rw [serial_append]
  exact Call.keepsLifecycle j.call
    { store := (serial config sealer ran s).2, sealer, config, entropy := j.entropy }
    (consistent_serial config sealer ran consistent).keyed

end Job

namespace World

/-! ## A step of the scheduler as a whole call -/

theorem log_reach (w : World) (task : Task) (rest : Script Reply) (held : List CardId)
    (store : Store) (locks : LockTable) :
    (w.reach task rest held store locks).log = w.log ∨
      ∃ d, (w.reach task rest held store locks).log = w.log ++ [d] := by
  unfold reach
  split
  · exact .inr ⟨_, rfl⟩
  · exact .inl rfl

theorem log_resume (w : World) (task : Task) :
    (w.resume task).log = w.log ∨ ∃ d, (w.resume task).log = w.log ++ [d] := by
  unfold resume
  split
  · exact .inr ⟨_, rfl⟩
  · exact log_reach ..
  · -- at a guard the task waits, or is handed its cards and reaches its next point
    split
    · split
      · exact log_reach ..
      · exact .inl rfl
    · exact .inl rfl

theorem log_apply (w : World) (event : Event) :
    (w.apply event).log = w.log ∨ ∃ d, (w.apply event).log = w.log ++ [d] := by
  cases event with
  | step name =>
    cases found : w.tasks.find? (·.name == name) with
    | none => simp [World.apply, found]
    | some task =>
      simp only [World.apply, found]
      exact log_resume ..
  | cancel name =>
    cases found : w.tasks.find? (·.name == name) <;> simp [World.apply, found, cancel]

variable {config : Config} {sealer : Sealer} {jobs : List Job} {initial : Store} {w : World}

theorem Inv.store_apply (inv : w.Inv config sealer jobs initial) (apart : Job.NoncesApart jobs)
    (event : Event) :
    (w.apply event).store = w.store ∨ ∃ j ∈ jobs, (w.apply event).store =
      (Engine.exec j.call.run
        { store := w.store, sealer, config, entropy := j.entropy }).2.store := by
  have after := (inv.apply apart event).serial
  rcases log_apply w event with same | ⟨d, logged⟩
  · left
    rw [same, inv.serial] at after
    exact (congrArg Prod.snd after).symm
  · right
    refine ⟨d.1, (inv.apply apart event).known d (by rw [logged]; simp), ?_⟩
    simp only [logged, List.map_append, List.map_cons, List.map_nil, Job.serial_append,
      inv.serial] at after
    exact (congrArg Prod.snd after).symm

end World

/-- The lifecycle rules hold over whole runs, on a store that starts consistent, with cards in
any status. Every step of every run of calls one at a time keeps them, whatever the calls; and
every step of every schedule of started jobs, with any of them cancelled, either leaves the
store or keeps them for one of the started calls, under the assumptions of serializability. -/
theorem lifecycle_kept_by_every_step (config : Config) (sealer : Sealer) (store : Store)
    (jobs : List Job) (consistent : store.Consistent) (names : (jobs.map (·.name)).Nodup)
    (apart : Job.NoncesApart jobs) (fresh : ∀ j ∈ jobs, store.FreshFor j.nonce?) :
    (∀ (ran : List Job) (j : Job), Call.KeepsLifecycle j.call
      (Job.serial config sealer ran store).2 (Job.serial config sealer (ran ++ [j]) store).2) ∧
    ∀ (events : List Event) (event : Event),
      let w := (World.start config sealer store jobs).run events
      (w.apply event).store = w.store ∨
        ∃ j ∈ jobs, Call.KeepsLifecycle j.call w.store (w.apply event).store := by
  refine ⟨Job.serial_keepsLifecycle config sealer consistent, fun events event => ?_⟩
  intro w
  have inv : w.Inv config sealer jobs store :=
    (World.inv_start consistent names fresh).run apart events
  rcases inv.store_apply apart event with same | ⟨j, mem, effect⟩
  · exact .inl same
  · refine .inr ⟨j, mem, ?_⟩
    rw [effect]
    exact Call.keepsLifecycle j.call
      { store := w.store, sealer, config, entropy := j.entropy } inv.consistent.keyed

/-- An admin blocks a stored card, its number sealed under a 32-byte key, while an issue runs
beside the block and draws a nonce of its own: run alone, the block changes the card's status,
and every step of every run keeps the rules. -/
theorem lifecycle_kept_block_beside_issue :
    let key : List UInt8 := List.replicate 32 7
    let sealer : Sealer := ⟨Aes.schedule key.toArray⟩
    let expiry : Expiry := ⟨12, 30, by decide, by decide, by decide⟩
    let card := Card.issue (Uuid.ofNat 7) (Uuid.ofNat 1) ⟨"4111111111111111"⟩ expiry Balance.zero
    let blob : Blob := ⟨Base64.encode (List.replicate 12 0 ++
      Gcm.encrypt sealer.roundKeys (List.replicate 12 0) "4111111111111111".toUTF8.toList)⟩
    let store := StoreCall.runAll [.insert card blob] (Store.empty sealer)
    let admin : Identity := ⟨Uuid.ofNat 2, .admin⟩
    let block : Job := ⟨"block", .setStatus admin card.id .blocked, Entropy.initial⟩
    let issue : Job := ⟨"issue", .issueCard admin (Uuid.ofNat 1) expiry Balance.zero,
      { word := fun _ => (1 : UInt64) <<< 56 }⟩
    Sealer.ofKey key = .ok sealer ∧ store.Consistent ∧ ([block, issue].map (·.name)).Nodup ∧
      Job.NoncesApart [block, issue] ∧ (∀ j ∈ [block, issue], store.FreshFor j.nonce?) ∧
      ((Job.serial {} sealer [block] store).2.cards[card.id]?).map (·.status) = some .blocked ∧
      ((∀ (ran : List Job) (j : Job), Call.KeepsLifecycle j.call
        (Job.serial {} sealer ran store).2 (Job.serial {} sealer (ran ++ [j]) store).2) ∧
      ∀ (events : List Event) (event : Event),
        let w := (World.start {} sealer store [block, issue]).run events
        (w.apply event).store = w.store ∨
          ∃ j ∈ [block, issue], Call.KeepsLifecycle j.call w.store (w.apply event).store) := by
  intro key sealer expiry card blob store admin block issue
  have sealed : sealer.sealWithNonce (List.replicate 12 0) card.number.text = some blob :=
    sealer.sealWithNonce_of_ne_empty (by simp [card, Card.issue])
  have valid : CardNumber.parse card.number.text = .ok card.number := by decide
  have consistent : store.Consistent :=
    StoreCall.consistent_runAll _ (Store.consistent_empty sealer)
  have names : ([block, issue].map (·.name)).Nodup := by simp [block, issue]
  have drawn : issue.nonce? = some (List.replicate 12 1) := by decide
  have quiet : block.nonce? = none := rfl
  have apart : Job.NoncesApart [block, issue] := by
    intro a ha b hb differ n drawnA
    simp only [List.mem_cons, List.not_mem_nil, or_false] at ha hb
    rcases ha with rfl | rfl <;> rcases hb with rfl | rfl <;> simp_all
  -- the stored blob carries nonce zero, and the issue draws nonce one
  have fresh : ∀ j ∈ [block, issue], store.FreshFor j.nonce? := by
    intro j member
    simp only [List.mem_cons, List.not_mem_nil, or_false] at member
    rcases member with rfl | rfl
    · rw [quiet]
      rintro n ⟨⟩
    · rw [drawn]
      exact Store.freshFor_seeded sealer [(card, blob)] (by simp) (by simp)
        (by simp [sealer.nonce_sealWithNonce rfl sealed])
  -- run alone, the admin's block writes the blocked status over the card's row
  have blocked := Engine.exec_setStatus_changed
    { store, sealer, config := {}, entropy := Entropy.initial } consistent.keyed
    (StoreCall.first_insert sealer card blob).2
    (StoreCall.first_insert_opens (sealer.openBlob_sealWithNonce rfl sealed) valid) rfl
    (show (Record.ofCard card blob).status.transition .blocked admin.role =
      .ok (.changed .blocked) from rfl)
  have ran : (Job.serial {} sealer [block] store).2 = { store with
      cards := store.cards.insert card.id ((Record.ofCard card blob).withStatus .blocked) } := by
    simp only [Job.serial, block, Call.run, Call.exec_map_store, blocked]
  refine ⟨Sealer.ofKey_of_length rfl, consistent, names, apart, fresh, ?_,
    lifecycle_kept_by_every_step {} sealer store [block, issue] consistent names apart fresh⟩
  rw [ran, Std.HashMap.getElem?_insert_self]
  rfl

/-- The rules are per step: an admin blocks an expired card, and then activates the blocked
card, so over two allowed calls the expired card is active again. -/
theorem expired_card_reactivated :
    let sealer : Sealer := ⟨#[]⟩
    let nonce : List UInt8 := List.replicate 12 0
    let card := { Card.issue (Uuid.ofNat 7) (Uuid.ofNat 1) ⟨"4111111111111111"⟩
      ⟨12, 30, by decide, by decide, by decide⟩ Balance.zero with status := .expired }
    let blob : Blob :=
      ⟨Base64.encode
        (nonce ++ Gcm.encrypt sealer.roundKeys nonce "4111111111111111".toUTF8.toList)⟩
    let eng : Engine Store :=
      { store := StoreCall.runAll [.insert card blob] (Store.empty sealer), sealer, config := {},
        entropy := Entropy.initial }
    let admin : Identity := ⟨Uuid.ofNat 2, .admin⟩
    let blocked := (Engine.exec (Engine.setStatus admin card.id .blocked) eng).2
    let active := (Engine.exec (Engine.setStatus admin card.id .active) blocked).2
    (eng.store.cards[card.id]?).map (·.status) = some .expired ∧
      (blocked.store.cards[card.id]?).map (·.status) = some .blocked ∧
      (active.store.cards[card.id]?).map (·.status) = some .active := by
  intro sealer nonce card blob eng admin blocked active
  have sealed : sealer.sealWithNonce nonce card.number.text = some blob := by
    simp [Sealer.sealWithNonce, blob, card, Card.issue]
  have valid : CardNumber.parse card.number.text = .ok card.number :=
    (CardNumber.parse_ok_iff _ _).mpr ⟨by decide, by decide, rfl⟩
  have opensBlob := sealer.openBlob_sealWithNonce rfl sealed
  obtain ⟨sameSealer, row⟩ := StoreCall.first_insert sealer card blob
  have keyed : eng.store.KeyedById :=
    (StoreCall.consistent_runAll _ (Store.consistent_empty sealer)).keyed
  -- the admin blocks the expired card
  have first : Engine.exec (Engine.setStatus admin card.id .blocked) eng = _ :=
    Engine.exec_setStatus_changed eng keyed row (StoreCall.first_insert_opens opensBlob valid) rfl
      (show (Record.ofCard card blob).status.transition .blocked admin.role =
        .ok (.changed .blocked) from rfl)
  have blockedEng : blocked = _ := congrArg Prod.snd first
  have blockedRow : blocked.store.cards[card.id]? =
      some ((Record.ofCard card blob).withStatus .blocked) := by
    rw [blockedEng]
    simp
  -- and then activates the blocked card, whose row still opens
  have second : Engine.exec (Engine.setStatus admin card.id .active) blocked = _ :=
    Engine.exec_setStatus_changed blocked
      (by rw [blockedEng]; exact Store.KeyedById.insert keyed rfl) blockedRow
      (Record.openWith_of_opens (r := (Record.ofCard card blob).withStatus .blocked)
        (by rw [blockedEng]; exact sameSealer ▸ opensBlob) valid)
      rfl
      (show ((Record.ofCard card blob).withStatus .blocked).status.transition .active admin.role =
        .ok (.changed .active) from rfl)
  refine ⟨by rw [row]; rfl, by rw [blockedRow]; rfl, ?_⟩
  rw [show active = _ from congrArg Prod.snd second]
  simp [Record.withStatus]

end CardLedger
