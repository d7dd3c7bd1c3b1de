import Mathlib
import CardLedger.Proofs.Lifecycle

/-!
# What every schedule gives

Whatever the schedule of started calls, the calls that returned, run one at a time in the order
they returned, give each of them the result it returned (`World.Inv`). So a call answered what it
answers alone on a consistent store, and three guarantees carry over from one call to every
schedule:

* a transfer or a status change never answers a lost race (`World.writes_never_lose_race`);
* the sum of all balances moves only by an issue's opening balance or by the balance of a
  deleted card (`World.cents_kept_by_every_step`);
* a total is the owner's total in the store that the calls returned before it leave
  (`World.totals_in_serial_order`).
-/

namespace CardLedger

/-! ## The sum of all balances -/

def rowsCents (cards : Std.HashMap CardId Record) : Nat :=
  (cards.toList.map fun p => p.2.balance.cents).sum

section Rows

variable {m m' : Std.HashMap CardId Record} {id : CardId}

theorem rowsCents_congr (same : ∀ x : CardId, m[x]? = m'[x]?) : rowsCents m = rowsCents m' :=
  ((Std.HashMap.Equiv.of_forall_getElem?_eq same).toList_perm.map _).sum_eq

theorem rowsCents_insert_of_absent (absent : m[id]? = none) (r : Record) :
    rowsCents (m.insert id r) = r.balance.cents + rowsCents m := by
  -- every row already stored sits under another identifier, so the insert replaces none
  have kept : m.toList.filter (¬id == ·.1) = m.toList := by
    refine List.filter_eq_self.mpr fun p member => ?_
    have stored := Std.HashMap.mem_toList_iff_getElem?_eq_some.mp member
    have other : id ≠ p.1 := by
      rintro rfl
      rw [absent] at stored
      cases stored
    simpa using other
  have moved := (Std.HashMap.toList_insert_perm (m := m) (k := id) (v := r)).map
    fun p => p.2.balance.cents
  rw [rowsCents, moved.sum_eq, List.map_cons, List.sum_cons, kept]
  rfl

theorem rowsCents_split (m : Std.HashMap CardId Record) (id : CardId) :
    rowsCents m = ((m[id]?).map (·.balance.cents)).getD 0 + rowsCents (m.erase id) := by
  cases row : m[id]? with
  | none =>
    have same : rowsCents m = rowsCents (m.erase id) := rowsCents_congr fun x => by
      rw [Std.HashMap.getElem?_erase]
      split
      · rename_i here
        rw [beq_iff_eq] at here
        rw [← here, row]
      · rfl
    simp [same]
  | some old =>
    have restored : rowsCents m = rowsCents ((m.erase id).insert id old) := rowsCents_congr fun x => by
      rw [Std.HashMap.getElem?_insert, Std.HashMap.getElem?_erase]
      split
      · rename_i here
        rw [beq_iff_eq] at here
        rw [← here, row]
      · rfl
    rw [restored, rowsCents_insert_of_absent Std.HashMap.getElem?_erase_self]
    simp

theorem rowsCents_insert (m : Std.HashMap CardId Record) (id : CardId) (r : Record) :
    rowsCents (m.insert id r) + ((m[id]?).map (·.balance.cents)).getD 0 =
      rowsCents m + r.balance.cents := by
  have after := rowsCents_split (m.insert id r) id
  have before := rowsCents_split m id
  have others : rowsCents ((m.insert id r).erase id) = rowsCents (m.erase id) :=
    rowsCents_congr fun x => by
      simp only [Std.HashMap.getElem?_erase, Std.HashMap.getElem?_insert]
      split <;> rfl
  rw [Std.HashMap.getElem?_insert_self, others] at after
  simp only [Option.map_some, Option.getD_some] at after
  omega

theorem rowsCents_erase (m : Std.HashMap CardId Record) (id : CardId) :
    rowsCents (m.erase id) + ((m[id]?).map (·.balance.cents)).getD 0 = rowsCents m := by
  rw [rowsCents_split m id]
  omega

end Rows

theorem Store.Moved.rowsCents_eq {s s' : Store} {source target : CardId} {a : Amount}
    (moved : s.Moved s' source target a) : rowsCents s'.cards = rowsCents s.cards := by
  obtain ⟨r₁, r₂, b₁, b₂, distinct, row₁, row₂, -, -, debit, credit, rfl⟩ := moved
  have first := rowsCents_insert s.cards source (r₁.rebalanced b₁)
  have second :=
    rowsCents_insert (s.cards.insert source (r₁.rebalanced b₁)) target (r₂.rebalanced b₂)
  have stillThere : (s.cards.insert source (r₁.rebalanced b₁))[target]? = some r₂ := by
    rw [Std.HashMap.getElem?_insert, if_neg (by simpa using distinct), row₂]
  rw [row₁] at first
  rw [stillThere] at second
  -- the debit takes off what the credit adds
  obtain ⟨spent, enough⟩ := Balance.debit_cents debit
  have gained : b₂.cents = r₂.balance.cents + a.cents := Balance.checkedAdd_cents credit
  simp only [Option.map_some, Option.getD_some, Record.rebalanced] at first second ⊢
  omega

/-! ## One call -/

namespace Call

/-- What one call may do to the sum of all balances, taking the store from `s` to `s'`: an issue
adds its opening balance, a delete takes off the balance of the row it removes, and every other
call keeps the sum. -/
def KeepsCents : Call → Store → Store → Prop
  | issueCard _ _ _ opening, s, s' =>
    rowsCents s'.cards = rowsCents s.cards ∨
      rowsCents s'.cards = rowsCents s.cards + opening.cents
  | deleteCard _ id, s, s' =>
    rowsCents s'.cards = rowsCents s.cards ∨
      ∃ r, s.cards[id]? = some r ∧ rowsCents s'.cards + r.balance.cents = rowsCents s.cards
  | _, s, s' => rowsCents s'.cards = rowsCents s.cards

theorem keepsCents (c : Call) (eng : Engine Store) (keyed : eng.store.KeyedById) :
    c.KeepsCents eng.store (Engine.exec c.run eng).2.store := by
  cases c with
  | transfer who source target amount =>
    show rowsCents _ = _
    rw [run, exec_map_store]
    rcases Engine.exec_transfer_cases eng keyed who source target amount with
      ⟨e, -, failed⟩ | ⟨a, s', moved, ran⟩
    · rw [failed]
    · rw [ran]
      exact moved.rowsCents_eq
  | setStatus who id target =>
    show rowsCents _ = _
    rw [run, exec_map_store]
    rcases Engine.exec_setStatus_cases eng keyed who id target with
      ⟨e, -, failed⟩ | ⟨card, kept⟩ | ⟨r, status, card, row, -, written⟩
    · rw [failed]
    · rw [kept]
    · rw [written]
      have rewritten := rowsCents_insert eng.store.cards id (r.withStatus status)
      simp only [row, Option.map_some, Option.getD_some, Record.withStatus] at rewritten
      exact Nat.add_right_cancel rewritten
  | deleteCard who id =>
    rw [run, exec_map_store]
    rcases Engine.exec_deleteCard_cases eng who id with ⟨e, failed⟩ | ⟨r, row, removed⟩
    · rw [failed]
      exact .inl rfl
    · rw [removed]
      have taken := rowsCents_erase eng.store.cards id
      rw [row] at taken
      exact .inr ⟨r, row, taken⟩
  | issueCard who owner expiry opening =>
    rw [run, exec_map_store]
    obtain ⟨entropy, ⟨e, failed⟩ | ⟨id, number, blob, c, s', -, inserted, issued⟩⟩ :=
      Engine.exec_issueCard_cases eng who owner expiry opening
    · rw [failed]
      exact .inl rfl
    · rw [issued]
      obtain ⟨-, fresh, -, rfl⟩ := Store.insert_eq_ok inserted
      refine .inr ?_
      rw [rowsCents_insert_of_absent (Std.HashMap.getElem?_eq_none_of_contains_eq_false fresh)]
      simp [Record.ofCard, Card.issue, Nat.add_comm]
  | getBalance who id =>
    show rowsCents _ = _
    rw [run, exec_map_store, Engine.exec_getBalance_keeps]
  | getTotalBalance who =>
    show rowsCents _ = _
    rw [run, exec_map_store, Engine.exec_getTotalBalance_keeps]
  | listCards who filter =>
    show rowsCents _ = _
    rw [run, exec_map_store, Engine.exec_listCards_keeps]

theorem run_lost_race (c : Call) (eng : Engine Store) (keyed : eng.store.KeyedById) {id : CardId}
    (lost : (Engine.exec c.run eng).1 = .error (.concurrentModification id)) :
    (∀ who source target amount, c ≠ .transfer who source target amount) ∧
      ∀ who card target, c ≠ .setStatus who card target := by
  constructor
  · rintro who source target amount rfl
    rw [run, Engine.exec_map] at lost
    rcases Engine.exec_transfer_cases eng keyed who source target amount with
      ⟨e, notRace, failed⟩ | ⟨a, s', -, ran⟩
    · rw [failed] at lost
      exact notRace id (Except.error.inj lost)
    · rw [ran] at lost
      cases lost
  · rintro who card target rfl
    rw [run, Engine.exec_map] at lost
    rcases Engine.exec_setStatus_cases eng keyed who card target with
      ⟨e, notRace, failed⟩ | ⟨answered, kept⟩ | ⟨r, status, answered, -, -, written⟩
    · rw [failed] at lost
      exact notRace id (Except.error.inj lost)
    · rw [kept] at lost
      cases lost
    · rw [written] at lost
      cases lost

end Call

/-! ## Runs of calls one at a time -/

namespace Job

variable (config : Config) (sealer : Sealer)

theorem serial_result (jobs : List Job) (s : Store) {i : Nat} {j : Job} (at_i : jobs[i]? = some j) :
    (serial config sealer jobs s).1[i]? = some (Engine.exec j.call.run
      { store := (serial config sealer (jobs.take i) s).2, sealer, config,
        entropy := j.entropy }).1 := by
  induction jobs generalizing s i with
  | nil => simp at at_i
  | cons first rest induction =>
    cases i with
    | zero =>
      simp only [List.getElem?_cons_zero, Option.some.injEq] at at_i
      subst at_i
      rfl
    | succ i =>
      simp only [List.getElem?_cons_succ] at at_i
      exact induction _ at_i

theorem serial_keepsCents {s : Store} (consistent : s.Consistent) (ran : List Job) (j : Job) :
    Call.KeepsCents j.call (serial config sealer ran s).2 (serial config sealer (ran ++ [j]) s).2 := by
  rw [serial_append]
  exact Call.keepsCents j.call
    { store := (serial config sealer ran s).2, sealer, config, entropy := j.entropy }
    (consistent_serial config sealer ran consistent).keyed

end Job

/-! ## Every schedule -/

namespace World

variable {config : Config} {sealer : Sealer} {store : Store} {jobs : List Job}

theorem logged_result (consistent : store.Consistent) (names : (jobs.map (·.name)).Nodup)
    (apart : Job.NoncesApart jobs) (fresh : ∀ j ∈ jobs, store.FreshFor j.nonce?)
    (events : List Event) {i : Nat} {d : Job × Outcome Reply}
    (logged : ((start config sealer store jobs).run events).log[i]? = some d) :
    let before := (Job.serial config sealer
      ((((start config sealer store jobs).run events).log.take i).map (·.1)) store).2
    d.1 ∈ jobs ∧ before.Consistent ∧
      d.2 = (Engine.exec d.1.call.run
        { store := before, sealer, config, entropy := d.1.entropy }).1 := by
  intro before
  have inv : ((start config sealer store jobs).run events).Inv config sealer jobs store :=
    (inv_start consistent names fresh).run apart events
  have jobAt : ((((start config sealer store jobs).run events).log).map (·.1))[i]? = some d.1 := by
    simp [logged]
  have result := Job.serial_result config sealer _ store jobAt
  rw [inv.serial] at result
  simp only [List.getElem?_map, logged, Option.map_some, Option.some.injEq, ← List.map_take]
    at result
  exact ⟨inv.known d (List.mem_of_getElem? logged),
    Job.consistent_serial config sealer _ consistent, result⟩

theorem writes_never_lose_race (consistent : store.Consistent) (names : (jobs.map (·.name)).Nodup)
    (apart : Job.NoncesApart jobs) (fresh : ∀ j ∈ jobs, store.FreshFor j.nonce?)
    (events : List Event) :
    ∀ d ∈ ((start config sealer store jobs).run events).log, ∀ id,
      d.2 = .error (.concurrentModification id) →
      (∀ who source target amount, d.1.call ≠ .transfer who source target amount) ∧
        ∀ who card target, d.1.call ≠ .setStatus who card target := by
  intro d logged id lost
  obtain ⟨i, at_i⟩ := List.mem_iff_getElem?.mp logged
  obtain ⟨-, ready, answered⟩ := logged_result consistent names apart fresh events at_i
  rw [answered] at lost
  exact Call.run_lost_race d.1.call _ ready.keyed lost

theorem cents_kept_by_every_step (consistent : store.Consistent)
    (names : (jobs.map (·.name)).Nodup) (apart : Job.NoncesApart jobs)
    (fresh : ∀ j ∈ jobs, store.FreshFor j.nonce?) (events : List Event) (event : Event) :
    let w := (start config sealer store jobs).run events
    (w.apply event).store = w.store ∨
      ∃ j ∈ jobs, j.call.KeepsCents w.store (w.apply event).store := by
  intro w
  have inv : w.Inv config sealer jobs store :=
    (inv_start consistent names fresh).run apart events
  rcases inv.store_apply apart event with same | ⟨j, member, effect⟩
  · exact .inl same
  · refine .inr ⟨j, member, ?_⟩
    rw [effect]
    exact Call.keepsCents j.call { store := w.store, sealer, config, entropy := j.entropy }
      inv.consistent.keyed

theorem totals_in_serial_order (consistent : store.Consistent)
    (names : (jobs.map (·.name)).Nodup) (apart : Job.NoncesApart jobs)
    (fresh : ∀ j ∈ jobs, store.FreshFor j.nonce?) (events : List Event) {i : Nat}
    {d : Job × Outcome Reply} (logged : ((start config sealer store jobs).run events).log[i]? = some d)
    {who : Identity} (total : d.1.call = .getTotalBalance who) :
    d.2 = Reply.balance <$> (Job.serial config sealer
      ((((start config sealer store jobs).run events).log.take i).map (·.1)) store).2.sumByOwner
        who.id := by
  obtain ⟨-, -, answered⟩ := logged_result consistent names apart fresh events logged
  rw [answered, total, Call.run, Engine.exec_map, Engine.getTotalBalance, Engine.exec_sumByOwner]
  generalize (Job.serial config sealer
      ((((start config sealer store jobs).run events).log.take i).map (·.1)) store).2 = before
  rcases before.sumByOwner who.id with e | b <;> rfl

end World

end CardLedger
